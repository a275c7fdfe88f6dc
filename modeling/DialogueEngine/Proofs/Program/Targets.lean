import DialogueEngine.Engine.Stepping
import DialogueEngine.Engine.Trace
import DialogueEngine.Engine.View

/-!
# Targets of conditional jumps

The target that a conditional jump carries is left out of instructions, programs, control states,
traces and views. What leaves it out shows the same texts, and it comes to the same whether the
target is left out before or after a change.
-/

namespace DialogueEngine

/-! ## Instructions and programs -/

namespace Instruction

/-- The instruction with no target of its own, if it is a conditional jump. -/
def withoutTarget : Instruction → Instruction
  | condGoto _ condition embedded => condGoto 0 condition embedded
  | instruction => instruction

variable (instruction : Instruction)

@[simp] theorem text_withoutTarget : instruction.withoutTarget.text = instruction.text := by
  cases instruction <;> rfl

@[simp] theorem opcode_withoutTarget :
    instruction.withoutTarget.opcode = instruction.opcode := by
  cases instruction <;> rfl

@[simp] theorem operand?_withoutTarget :
    instruction.withoutTarget.operand? = instruction.operand? := by
  cases instruction <;> rfl

end Instruction

namespace Program

def withoutTargets (program : Program) : Program := program.map Instruction.withoutTarget

variable (program : Program)

@[simp] theorem length_withoutTargets : program.withoutTargets.length = program.length :=
  List.length_map _

@[simp] theorem getElem?_withoutTargets (position : Nat) :
    program.withoutTargets[position]? = program[position]?.map Instruction.withoutTarget :=
  List.getElem?_map

@[simp] theorem listing_withoutTargets : program.withoutTargets.listing = program.listing := by
  rw [listing, listing, withoutTargets, List.zipIdx_map, List.map_map]
  refine congrArg String.join (List.map_congr_left fun pair _ => ?_)
  simp only [Function.comp, Prod.map, listingLine, Instruction.text_withoutTarget, id]

end Program

/-! ## Control states -/

def Continuation.withoutTargets (continuation : Continuation) : Continuation :=
  ⟨continuation.program.withoutTargets, continuation.position⟩

namespace Control

def withoutTargets (c : Control) : Control :=
  { c with
    program := c.program.withoutTargets
    continuations := c.continuations.map Continuation.withoutTargets }

variable (c : Control)

@[simp] theorem instruction?_withoutTargets :
    c.withoutTargets.instruction? = c.instruction?.map Instruction.withoutTarget :=
  c.program.getElem?_withoutTargets c.position

@[simp] theorem depth_withoutTargets : c.withoutTargets.depth = c.depth := List.length_map _

@[simp] theorem resume?_withoutTargets :
    c.withoutTargets.resume? = c.resume?.map withoutTargets := by
  obtain ⟨program, position, callStack, _ | ⟨continuation, rest⟩, locked, pending⟩ := c <;> rfl

@[simp] theorem ret?_withoutTargets : c.withoutTargets.ret? = c.ret?.map withoutTargets := by
  obtain ⟨program, position, _ | ⟨back, rest⟩, continuations, locked, pending⟩ := c <;> rfl

@[simp] theorem root_withoutTargets : c.withoutTargets.root = c.root.withoutTargets := by
  simp only [root, withoutTargets, List.getLast?_map]
  cases c.continuations.getLast? <;> rfl

theorem withoutTargets_load (program : Program) :
    (c.load program).withoutTargets = c.withoutTargets.load program.withoutTargets := rfl

theorem withoutTargets_loadSub (program : Program) :
    (c.loadSub program).withoutTargets = c.withoutTargets.loadSub program.withoutTargets := rfl

theorem withoutTargets_reset : c.reset.withoutTargets = c.withoutTargets.reset := by
  rw [reset, reset, root_withoutTargets]
  rfl

@[simp] theorem frames_withoutTargets : c.withoutTargets.frames = c.frames := by
  simp only [frames, frameText, withoutTargets, Program.length_withoutTargets, List.map_map]
  refine congrArg _ (List.map_congr_left fun continuation _ => ?_)
  simp only [Function.comp, Continuation.withoutTargets, Program.length_withoutTargets]

@[simp] theorem contextOf_withoutTargets (instruction : Instruction) (position : Nat) :
    c.withoutTargets.contextOf instruction.withoutTarget position =
      c.contextOf instruction position := by
  simp only [contextOf, Instruction.opcode_withoutTarget, Instruction.operand?_withoutTarget,
    frames_withoutTargets]

end Control

/-! ## Traces and views -/

namespace TraceRecord

def withoutTarget (record : TraceRecord) : TraceRecord :=
  { record with instruction := record.instruction.withoutTarget }

@[simp] theorem text_withoutTarget (record : TraceRecord) :
    record.withoutTarget.text = record.text := by
  rw [text, text, withoutTarget, Instruction.text_withoutTarget]

end TraceRecord

namespace Trace

def withoutTargets (trace : Trace) : Trace :=
  { trace with
    records := trace.records.map TraceRecord.withoutTarget
    bounded := by simpa using trace.bounded }

variable (trace : Trace)

theorem withoutTargets_push (position depth : Nat) (instruction : Instruction) :
    (trace.push position depth instruction).withoutTargets =
      trace.withoutTargets.push position depth instruction.withoutTarget := by
  simp only [withoutTargets, push, map_evict, List.map_append, List.map_singleton,
    TraceRecord.withoutTarget]

theorem withoutTargets_clear : trace.clear.withoutTargets = trace.withoutTargets.clear := rfl

/-- The lines of a trace. -/
def lines : List String := trace.records.map TraceRecord.text

theorem lines_withoutTargets : trace.withoutTargets.lines = trace.lines := by
  rw [lines, lines, withoutTargets, List.map_map]
  exact List.map_congr_left fun record _ => record.text_withoutTarget

end Trace

def View.withoutTargets (view : View) : View :=
  { view with control := view.control.withoutTargets }

theorem View.summary_withoutTargets (view : View) : view.withoutTargets.summary = view.summary := by
  have length : view.withoutTargets.control.program.length = view.control.program.length :=
    view.control.program.length_withoutTargets
  have depth : view.withoutTargets.control.depth = view.control.depth :=
    view.control.depth_withoutTargets
  -- The equation of `summary`, which `rw` would use, takes Lean long to generate.
  unfold summary
  dsimp only
  rw [length, depth]
  rfl

end DialogueEngine
