import DialogueEngine.Number.Count

/-!
# Command line options

Options are read from left to right, and the first fault ends the reading.
-/

namespace DialogueEngine

structure Options where
  file : Option String := none
  batch : Bool := false
  help : Bool := false
  version : Bool := false
  trace : Bool := false
  /-- Log lines were asked for. Logging is left to what runs the program. -/
  log : Bool := false
  maxBurst : Option Nat := none
  demoPath : Option String := none
deriving DecidableEq

inductive OptionFault where
  | missingBurst
  | invalidBurst (text : String)
  | missingPath
  | unknownOption (option : String)
  | secondFile (path : String)
deriving DecidableEq

def OptionFault.message : OptionFault → String
  | missingBurst => "--max-burst requires a value"
  | invalidBurst text => "invalid --max-burst value: " ++ text
  | missingPath => "--write-demo requires a path"
  | unknownOption option => "unknown option: " ++ option
  | secondFile path => "only one program file may be given: " ++ path

namespace Options

/-- What is no option is the path of the program file. -/
def addOther (options : Options) (argument : String) : Except OptionFault Options :=
  if argument.toList.head? = some '-' then .error (.unknownOption argument)
  else if options.file.isSome then .error (.secondFile argument)
  else .ok { options with file := some argument }

def readArguments (options : Options) : List String → Except OptionFault Options
  | [] => .ok options
  | argument :: rest =>
      match argument with
      | "-h" | "--help" => readArguments { options with help := true } rest
      | "-V" | "--version" => readArguments { options with version := true } rest
      | "-b" | "--batch" => readArguments { options with batch := true } rest
      | "--trace" => readArguments { options with trace := true } rest
      | "--trace-vm" => readArguments { options with log := true } rest
      | "--max-burst" =>
          match rest with
          | [] => .error .missingBurst
          | text :: rest =>
              match readCount? text with
              | none => .error (.invalidBurst text)
              | some limit => readArguments { options with maxBurst := some limit } rest
      | "--write-demo" =>
          match rest with
          | [] => .error .missingPath
          | path :: rest => readArguments { options with demoPath := some path } rest
      | argument =>
          match options.addOther argument with
          | .error fault => .error fault
          | .ok options => readArguments options rest

def ofArguments (arguments : List String) : Except OptionFault Options :=
  readArguments {} arguments

end Options

end DialogueEngine
