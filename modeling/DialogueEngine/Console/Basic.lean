import DialogueEngine.Console.Command
import DialogueEngine.Console.Report
import DialogueEngine.Engine.Stepping

/-!
# The console

The console executes commands on an engine. What the program writes during a command stands at the
front of the reply to it.
-/

namespace DialogueEngine

/-- What a command comes to. -/
inductive Reply where
  | text (text : String)
  | quit
deriving DecidableEq

namespace Console

variable {τ : Type}

/-- Takes the transcript off the engine. -/
def takeLines (e : Engine (Stage τ)) : List String × Engine (Stage τ) :=
  let stage := e.world.host
  (stage.transcript.lines,
    { e with world := { e.world with host := { stage with transcript := {} } } })

/-- The lines written meanwhile and how the stepping ended. -/
def report (result : Except Failure StepOutcome) (e : Engine (Stage τ)) :
    Reply × Engine (Stage τ) :=
  let (lines, e) := takeLines e
  let status :=
    match result with
    | .ok outcome => outcomeText e.control.position outcome
    | .error failure => failureText failure
  (.text (unlines lines ++ status), e)

/-- Asks the engine to execute. Unlocking alone may execute nothing, and then takes no lines. -/
def ask (fuel : Nat) (request : Request) (e : Engine (Stage τ)) :
    Option (Reply × Engine (Stage τ)) :=
  match e.answer fuel request with
  | none => none
  | some (.ok none, e) => some (.text "engine unlocked", e)
  | some (.ok (some outcome), e) => some (report (.ok outcome) e)
  | some (.error failure, e) => some (report (.error failure) e)

def execute (fuel : Nat) (command : Command) (e : Engine (Stage τ)) :
    Option (Reply × Engine (Stage τ)) :=
  match command with
  | .blank => some (.text "", e)
  | .step => ask fuel .step e
  | .next => ask fuel .stepSingle e
  | .run => ask fuel .run e
  | .unlock => ask fuel .unlock e
  | .lock => some (.text "engine locked", e.perform .lock)
  | .reset => some (.text "rewound to position 0", e.perform .reset)
  | .vars => some (.text (variablesText e.scope), e)
  | .stack => some (.text (stackText e.control), e)
  | .list => some (.text e.control.program.listing, e)
  | .trace count => some (.text (traceText e count), e)
  | .help => some (.text helpText, e)
  | .quit => some (.quit, e)
  | .unknown word => some (.text ("unknown command: " ++ word ++ " (try `help`)"), e)

/-- Executes a line. A line that is no command leaves the engine alone. -/
def executeLine (fuel : Nat) (line : String) (e : Engine (Stage τ)) :
    Option (Except Failure Reply × Engine (Stage τ)) :=
  match Command.ofLine line with
  | .error failure => some (.error failure, e)
  | .ok command => (execute fuel command e).map fun (reply, e) => (.ok reply, e)

end Console

end DialogueEngine
