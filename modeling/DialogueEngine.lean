import DialogueEngine.CommandLine.Demo
import DialogueEngine.CommandLine.Input
import DialogueEngine.CommandLine.Options
import DialogueEngine.CommandLine.Session
import DialogueEngine.Console.Basic
import DialogueEngine.Console.Command
import DialogueEngine.Console.Report
import DialogueEngine.Console.Transcript
import DialogueEngine.Engine.Action
import DialogueEngine.Engine.Basic
import DialogueEngine.Engine.Computation
import DialogueEngine.Engine.Config
import DialogueEngine.Engine.Control
import DialogueEngine.Engine.Evaluation
import DialogueEngine.Engine.Stepping
import DialogueEngine.Engine.Trace
import DialogueEngine.Engine.View
import DialogueEngine.Failure
import DialogueEngine.Main
import DialogueEngine.MessagePack.Item
import DialogueEngine.MessagePack.Reader
import DialogueEngine.MessagePack.Writer
import DialogueEngine.NameTable
import DialogueEngine.Number.Count
import DialogueEngine.Number.Decimal
import DialogueEngine.Number.Double
import DialogueEngine.Number.Numeral
import DialogueEngine.Prelude
import DialogueEngine.Program.Arguments
import DialogueEngine.Program.Basic
import DialogueEngine.Program.Builder
import DialogueEngine.Program.Instruction
import DialogueEngine.Program.Operand
import DialogueEngine.ProgramFile.Basic
import DialogueEngine.ProgramFile.Decoding
import DialogueEngine.ProgramFile.Encoding
import DialogueEngine.ProgramFile.Storage
import DialogueEngine.Script.Cache
import DialogueEngine.Script.Evaluation
import DialogueEngine.Script.Lexer
import DialogueEngine.Script.Node
import DialogueEngine.Script.Operator
import DialogueEngine.Script.Parser
import DialogueEngine.Script.Token
import DialogueEngine.Text.Alphanumeric
import DialogueEngine.Text.Blank
import DialogueEngine.Text.BreakClass
import DialogueEngine.Text.Cluster
import DialogueEngine.Text.CodeRange
import DialogueEngine.Text.Graphic
import DialogueEngine.Text.Padding
import DialogueEngine.Text.Quoted
import DialogueEngine.Text.Word
import DialogueEngine.Value.Arithmetic
import DialogueEngine.Value.Basic
import DialogueEngine.Value.Comparison
import DialogueEngine.Value.Entries
import DialogueEngine.Value.Order
import DialogueEngine.Value.Property
import DialogueEngine.Value.Text
import DialogueEngine.Variables.Notification
import DialogueEngine.Variables.Reactive
import DialogueEngine.Variables.Scope
import DialogueEngine.Proofs.Engine.Fuel
import DialogueEngine.Proofs.Engine.Stability
import DialogueEngine.Proofs.Engine.Course
import DialogueEngine.Proofs.Engine.Request
import DialogueEngine.Proofs.Engine.Atomicity
import DialogueEngine.Proofs.Engine.Burst
import DialogueEngine.Proofs.Engine.Outcome
import DialogueEngine.Proofs.Script.Operand
import DialogueEngine.Proofs.MessagePack.Header
import DialogueEngine.Proofs.MessagePack.RoundTrip
import DialogueEngine.Proofs.Program.Occurrence
import DialogueEngine.Proofs.Value.Canonical
import DialogueEngine.Proofs.Value.Linear
import DialogueEngine.Proofs.Value.Equality
import DialogueEngine.Proofs.Value.Hashing
import DialogueEngine.Proofs.Program.Equality
import DialogueEngine.Proofs.ProgramFile.Encoding
import DialogueEngine.Proofs.ProgramFile.Levels
import DialogueEngine.Proofs.ProgramFile.Decoding
import DialogueEngine.Proofs.ProgramFile.RoundTrip
import DialogueEngine.Proofs.Engine.Lock
import DialogueEngine.Proofs.Engine.Machine.Basic
import DialogueEngine.Proofs.Engine.Machine.Simulation
import DialogueEngine.Proofs.Engine.Machine.Turn
import DialogueEngine.Proofs.Engine.Suspension
import DialogueEngine.Proofs.Engine.Subroutine
import DialogueEngine.Proofs.Script.Flattening
import DialogueEngine.Proofs.Script.Tokens
import DialogueEngine.Proofs.Script.Parsing
import DialogueEngine.Proofs.Engine.Machine.Determinism
import DialogueEngine.Proofs.Variables.Chronicle
import DialogueEngine.Proofs.Variables.Notification
import DialogueEngine.Proofs.Engine.Conduct
import DialogueEngine.Proofs.Engine.Budget
import DialogueEngine.Proofs.Engine.Machine.Activation
import DialogueEngine.Proofs.Engine.Blindness
import DialogueEngine.Proofs.Engine.Machine.FrameRule
import DialogueEngine.Proofs.Engine.Machine.Pending
import DialogueEngine.Proofs.Engine.StepOutcome
import DialogueEngine.Proofs.Script.InTurn
import DialogueEngine.Proofs.Variables.Overtaking
import DialogueEngine.Proofs.Variables.Subscription
import DialogueEngine.Proofs.Script.Faults
import DialogueEngine.Proofs.Engine.Root
import DialogueEngine.Proofs.ProgramFile.Rearrangement
import DialogueEngine.Proofs.Engine.Machine.Likeness
import DialogueEngine.Proofs.Engine.Resemblance
import DialogueEngine.Proofs.Engine.Tracing
import DialogueEngine.Proofs.Engine.Retargeting
import DialogueEngine.Proofs.Console.Staging
import DialogueEngine.Proofs.Console.Speech
import DialogueEngine.Proofs.Console.Session
import DialogueEngine.Proofs.MessagePack.Truncation
import DialogueEngine.Proofs.ProgramFile.Truncation
import DialogueEngine.Proofs.ProgramFile.LeftOver
import DialogueEngine.Proofs.Engine.Attempts
import DialogueEngine.Proofs.Engine.Whereabouts
import DialogueEngine.Proofs.Engine.Openness
import DialogueEngine.Proofs.Console.Prelude
import DialogueEngine.Proofs.CommandLine.Batch
import DialogueEngine.Proofs.Engine.Termination
import DialogueEngine.Proofs.Script.Causes
import DialogueEngine.Proofs.Script.Cache
import DialogueEngine.Proofs.Script.Names
import DialogueEngine.Proofs.Script.Scanning
import DialogueEngine.Proofs.Script.ReadBack
import DialogueEngine.Proofs.Script.Columns
import DialogueEngine.Proofs.Script.Spacing
import DialogueEngine.Proofs.Engine.Evaluation
import DialogueEngine.Proofs.Prelude.Registration
import DialogueEngine.Proofs.Prelude.ReadOnly
import DialogueEngine.Proofs.Prelude.ShortCircuit
import DialogueEngine.Proofs.Prelude.Chaining
import DialogueEngine.Proofs.Engine.Footprint
import DialogueEngine.Proofs.Prelude.Variadic
import DialogueEngine.Proofs.Prelude.Addition
import DialogueEngine.Proofs.Prelude.Division
import DialogueEngine.Proofs.Program.Writing
