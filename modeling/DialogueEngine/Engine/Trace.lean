import DialogueEngine.Program.Basic

/-!
# Traces

A trace records the instructions that were started, each with a number, its position and the number
of programs that were suspended. It holds as many records as its capacity allows: a full trace gives
up its oldest record for a new one.
-/

namespace DialogueEngine

structure TraceRecord where
  id : Nat
  position : Nat
  depth : Nat
  instruction : Instruction
deriving DecidableEq

def TraceRecord.text (record : TraceRecord) : String :=
  "#" ++ Text.padRight 5 (toString record.id) ++ " [" ++ toString record.depth ++ "] "
    ++ Text.padLeft 4 (toString record.position) ++ "  " ++ record.instruction.text

structure Trace where
  capacity : Nat := 1000
  /-- The records, the oldest first. -/
  records : List TraceRecord := []
  nextId : Nat := 0
  bounded : records.length ≤ capacity := by exact Nat.zero_le _
deriving DecidableEq

namespace Trace

def empty : Trace := {}

/-- Gives up the oldest records while there are more than the capacity. -/
def evict (capacity : Nat) : List TraceRecord → List TraceRecord
  | [] => []
  | oldest :: newer =>
      if capacity < (oldest :: newer).length then evict capacity newer else oldest :: newer

theorem evict_eq_drop (capacity : Nat) (records : List TraceRecord) :
    evict capacity records = records.drop (records.length - capacity) := by
  induction records with
  | nil => simp [evict]
  | cons oldest newer ih =>
    unfold evict
    by_cases full : capacity < (oldest :: newer).length
    · -- one record more is dropped than from the newer ones alone
      have more : (oldest :: newer).length - capacity = newer.length - capacity + 1 := by
        simp only [List.length_cons] at full ⊢
        omega
      rw [if_pos full, ih, more, List.drop_succ_cons]
    · rw [if_neg full, Nat.sub_eq_zero_of_le (Nat.le_of_not_lt full), List.drop_zero]

theorem length_evict_le (capacity : Nat) (records : List TraceRecord) :
    (evict capacity records).length ≤ capacity := by
  rw [evict_eq_drop, List.length_drop]
  omega

theorem map_evict (change : TraceRecord → TraceRecord) (capacity : Nat)
    (records : List TraceRecord) :
    (evict capacity records).map change = evict capacity (records.map change) := by
  rw [evict_eq_drop, evict_eq_drop, List.map_drop, List.length_map]

def size (trace : Trace) : Nat := trace.records.length

/-- Appends a record with the next number. -/
def push (trace : Trace) (position depth : Nat) (instruction : Instruction) : Trace where
  capacity := trace.capacity
  records :=
    evict trace.capacity (trace.records ++ [⟨trace.nextId, position, depth, instruction⟩])
  nextId := trace.nextId + 1
  bounded := length_evict_le _ _

/-- Numbers go on after clearing. -/
def clear (trace : Trace) : Trace :=
  { trace with records := [], bounded := Nat.zero_le _ }

/-- The most recent records, the oldest first. -/
def recent (trace : Trace) (count : Nat) : List TraceRecord :=
  trace.records.drop (trace.records.length - count)

end Trace

end DialogueEngine
