import DialogueEngine.CommandLine.Demo
import DialogueEngine.CommandLine.Input
import DialogueEngine.CommandLine.Options
import DialogueEngine.Console.Basic
import DialogueEngine.Prelude
import DialogueEngine.ProgramFile.Basic
import DialogueEngine.Script.Evaluation

/-!
# Sessions

What an invocation of the program prints, and how it ends. A session either runs a program to its
end, or reads commands until there are no more.
-/

namespace DialogueEngine

/-- What an invocation does, after its options have been read. -/
inductive Task where
  | print (text : String)
  | writeDemo (path : String)
  | session (file : Option String)
deriving DecidableEq

/-- How an invocation ends. It breaks down at a line of which half a character is taken back. -/
inductive Ending where
  | success
  | failure
  | breakdown
deriving DecidableEq

/-- The exit status of the process. -/
def Ending.status : Ending → UInt8
  | success => 0
  | failure => 1
  | breakdown => 101

/-- What an invocation leaves behind. -/
structure Outcome where
  output : String := ""
  errors : List String := []
  ending : Ending := .success
deriving DecidableEq

namespace CommandLine

def version : String := "0.1.0"

def bold (text : String) : String := "\x1b[1m" ++ text ++ "\x1b[0m"

def helpText : String :=
  Console.unlines
    [bold "Beatline" ++ " - Instruction-stepping dialogue engine",
      "",
      bold "USAGE:",
      "    beatline [OPTIONS] [FILE]",
      "",
      bold "ARGUMENTS:",
      "    [FILE]    MessagePack program to load (a built-in demo runs if omitted)",
      "",
      bold "OPTIONS:",
      "    -h, --help            Print help information",
      "    -V, --version         Print version information",
      "    -b, --batch           Run the program to completion and exit (no console)",
      "    --write-demo PATH     Save the built-in demo program to PATH and exit",
      "",
      bold "DEBUG OPTIONS:",
      "    --trace               Record executed instructions (see `trace` command)",
      "    --trace-vm            Log every dispatched instruction to stderr",
      "    --max-burst N         Fail a step after N instructions",
      "",
      bold "EXAMPLES:",
      "    beatline                          Step through the demo program",
      "    beatline --write-demo demo.bl     Save the demo as a program file",
      "    beatline -b demo.bl               Run demo.bl and exit",
      "    beatline --trace-vm -b demo.bl    Run with dispatch logging",
      "",
      bold "CONSOLE COMMANDS:",
      "    step, next, run, unlock, lock, reset, vars, stack, list, trace, help, quit",
      "    Ctrl+D                Exit console"]

def versionText : String := "beatline " ++ version ++ "\n"

def banner : String :=
  "\x1b[1;36mBeatline " ++ version
    ++ "\x1b[0m\nType `help` for commands. Use Ctrl+D to exit.\n\n"

def prompt : String := "beat> "

def farewell : String := "\nGoodbye!\n"

def demoWrittenText (path : String) : String := "wrote demo program to " ++ path ++ "\n"

/-- Steps are not counted in practice: no session comes near this bound. -/
def fuel : Nat := 0x4000000000000000

/-- The first of help, version and demo that was asked for, or else a session. -/
def task (options : Options) : Task :=
  if options.help then .print helpText
  else if options.version then .print versionText
  else
    match options.demoPath with
    | some path => .writeDemo path
    | none => .session options.file

/-- The engine of a session, with the prelude and the console's components. -/
def engine (options : Options) (program : Program) : Engine (Stage Unit) :=
  let config : Config := { traceEnabled := options.trace, maxBurst := options.maxBurst }
  (Engine.new config { host := () }).withPrelude
    |>.perform (.installEvaluator Script.evaluate)
    |>.perform (.load program)
    |>.withWriters

def failed (message : String) : Outcome :=
  { errors := [Console.failureLine message], ending := .failure }

/-- Runs a program to its end. It succeeds if the program has halted. -/
def batch (fuel : Nat) (e : Engine (Stage Unit)) : Option Outcome :=
  match Console.execute fuel .run e with
  | none => none
  | some (.quit, _) => some {}
  | some (.text text, e) =>
      let output := text ++ "\n"
      if e.halted then some { output }
      else some { failed "program did not halt" with output }

/-- The answer to one line of input: what goes to the output and to the errors, or that this was
the last line. -/
inductive Turn where
  | goesOn (output : String) (error : Option String)
  | quits
  | breaksDown

def turn (fuel : Nat) (line : String) (e : Engine (Stage Unit)) :
    Option (Turn × Engine (Stage Unit)) :=
  match typedLine? line with
  | none => some (.breaksDown, e)
  | some line =>
      (Console.executeLine fuel line e).map fun (result, e) =>
        match result with
        | .ok .quit => (.quits, e)
        | .ok (.text text) => (.goesOn (if text.isEmpty then "" else text ++ "\n") none, e)
        | .error failure => (.goesOn "" (some (Console.failureLine failure.message)), e)

/-- Executes lines up to the one that leaves the console. The prompt stands before every line and
before the end of the input. -/
def converse (fuel : Nat) : List String → Engine (Stage Unit) → Option Outcome
  | [], _ => some { output := prompt ++ farewell }
  | line :: rest, e =>
      match turn fuel line e with
      | none => none
      | some (.quits, _) => some { output := prompt ++ farewell }
      | some (.breaksDown, _) => some { output := prompt, ending := .breakdown }
      | some (.goesOn output error, e) =>
          (converse fuel rest e).map fun outcome =>
            { outcome with
              output := prompt ++ output ++ outcome.output
              errors := error.toList ++ outcome.errors }

def interactive (fuel : Nat) (options : Options) (input : String) (e : Engine (Stage Unit)) :
    Option Outcome :=
  (converse fuel (inputLines input) e).map fun outcome =>
    if options.file.isSome then outcome else { outcome with output := banner ++ outcome.output }

/-- The program of a session, from the outcome of reading its file. -/
def sessionProgram (file : Option (String × Except StorageFault Bytes)) :
    Except Failure Program :=
  match file with
  | none => .ok demoProgram
  | some (path, content) => ProgramFile.ofContent path content

def session (fuel : Nat) (options : Options) (input : String) (program : Program) :
    Option Outcome :=
  let e := engine options program
  if options.batch then batch fuel e else interactive fuel options input e

/-- A whole invocation, with the input as a text and the files in a storage. -/
def run (fuel : Nat) (arguments : List String) (input : String) (storage : Storage) :
    Option (Outcome × Storage) :=
  match Options.ofArguments arguments with
  | .error fault => some (failed fault.message, storage)
  | .ok options =>
      match task options with
      | .print output => some ({ output }, storage)
      | .writeDemo path =>
          match ProgramFile.save storage path demoProgram with
          | .error failure => some (failed failure.message, storage)
          | .ok storage => some ({ output := demoWrittenText path }, storage)
      | .session file =>
          match sessionProgram (file.map fun path => (path, storage.read path)) with
          | .error failure => some (failed failure.message, storage)
          | .ok program => (session fuel options input program).map fun outcome => (outcome, storage)

end CommandLine

end DialogueEngine
