import DialogueEngine.CommandLine.Session

/-!
# The program

The command line over the files and streams of the system.
-/

namespace DialogueEngine.CommandLine

/-- The fault that a failed use of a file stands for. -/
def storageFault : IO.Error → StorageFault
  | .noFileOrDirectory .. => .notFound
  | .inappropriateType _ 20 _ => .notDirectory
  | .inappropriateType _ 21 _ => .isDirectory
  | error => .other (toString error)

def fail (message : String) : IO UInt32 := do
  IO.eprintln (Console.failureLine message)
  return 1

def readFile (path : String) : IO (Except StorageFault Bytes) := do
  try
    return .ok (← IO.FS.readBinFile path).toList
  catch error => return .error (storageFault error)

def writeDemo (path : String) : IO UInt32 := do
  match ProgramFile.encode demoProgram with
  | .error failure => fail failure.message
  | .ok bytes =>
      try
        IO.FS.writeBinFile path ⟨bytes.toArray⟩
        IO.print (demoWrittenText path)
        return 0
      catch error => fail (ProgramFile.writeFailure path (storageFault error)).message

def leave (ending : Ending) : IO UInt32 := do
  unless ending = .breakdown do IO.print farewell
  return ending.status.toUInt32

/-- Reads and executes lines until the input ends or a line leaves the console. -/
partial def converseLive (e : Engine (Stage Unit)) : IO UInt32 := do
  IO.print prompt
  (← IO.getStdout).flush
  let line ← (← IO.getStdin).getLine
  if line.isEmpty then leave .success
  else
    match turn fuel line e with
    | none | some (.breaksDown, _) => leave .breakdown
    | some (.quits, _) => leave .success
    | some (.goesOn output error, e) =>
        IO.print output
        if let some error := error then IO.eprintln error
        converseLive e

def sessionLive (options : Options) (program : Program) : IO UInt32 := do
  let e := engine options program
  if options.batch then
    match batch fuel e with
    | none => return 1
    | some outcome =>
        IO.print outcome.output
        for error in outcome.errors do IO.eprintln error
        return outcome.ending.status.toUInt32
  else
    unless options.file.isSome do IO.print banner
    converseLive e

def runLive (arguments : List String) : IO UInt32 := do
  match Options.ofArguments arguments with
  | .error fault => fail fault.message
  | .ok options =>
      match task options with
      | .print text =>
          IO.print text
          return 0
      | .writeDemo path => writeDemo path
      | .session file =>
          let content ← file.mapM fun path => do return (path, ← readFile path)
          match sessionProgram content with
          | .error failure => fail failure.message
          | .ok program => sessionLive options program

end DialogueEngine.CommandLine

def main (arguments : List String) : IO UInt32 := DialogueEngine.CommandLine.runLive arguments
