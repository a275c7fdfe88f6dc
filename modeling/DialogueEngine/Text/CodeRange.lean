/-!
# Ranges of code points

A character property is a list of closed ranges of code points in ascending order, so that
membership is decided at the first range that does not end before the code point.
-/

namespace DialogueEngine.Text

/-- Whether a code point lies in one of the ascending ranges. -/
def inRanges (code : Nat) : List (Nat × Nat) → Bool
  | [] => false
  | (first, last) :: rest =>
      if code < first then false
      else if code ≤ last then true
      else inRanges code rest

@[simp]
theorem inRanges_nil (code : Nat) : inRanges code [] = false := rfl

theorem exists_of_inRanges {code : Nat} {ranges : List (Nat × Nat)} (inside : inRanges code ranges) :
    ∃ range ∈ ranges, range.1 ≤ code ∧ code ≤ range.2 := by
  induction ranges with
  | nil => cases inside
  | cons range ranges ih =>
    rw [inRanges] at inside
    split at inside
    · cases inside
    split at inside
    · next lower upper => exact ⟨range, List.mem_cons_self, Nat.le_of_not_lt lower, upper⟩
    · obtain ⟨other, listed, within⟩ := ih inside
      exact ⟨other, List.mem_cons_of_mem range listed, within⟩

end DialogueEngine.Text
