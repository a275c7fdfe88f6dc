import DialogueEngine.Text.Cluster

/-!
# Input lines

The input of a session is a text of lines, in which a backspace takes back the cluster before it.
-/

namespace DialogueEngine.CommandLine

def backspace : Char := '\x08'

/-- A line while it is typed in: its characters and the lengths of its clusters, both from the last
one on. A length is kept in a byte, so of a cluster that is longer than that only what is left
after whole multiples of 256 bytes can be taken back. -/
structure TypedText where
  characters : List Char := []
  lengths : List UInt8 := []

/-- Drops bytes of the characters in front. There is no answer if a character would be cut. -/
def dropBytes? (count : Nat) : List Char → Option (List Char)
  | [] => if count = 0 then some [] else none
  | c :: rest =>
      if count = 0 then some (c :: rest)
      else if c.utf8Size ≤ count then dropBytes? (count - c.utf8Size) rest
      else none

@[simp]
theorem dropBytes?_zero (cs : List Char) : dropBytes? 0 cs = some cs := by
  cases cs <;> rfl

/-- The number of bytes that characters take. -/
def byteLength : List Char → Nat
  | [] => 0
  | c :: rest => c.utf8Size + byteLength rest

theorem byteLength_append (cs ds : List Char) :
    byteLength (cs ++ ds) = byteLength cs + byteLength ds := by
  induction cs with
  | nil => simp [byteLength]
  | cons c cs ih => simp [byteLength, ih, Nat.add_assoc]

@[simp]
theorem byteLength_reverse (cs : List Char) : byteLength cs.reverse = byteLength cs := by
  induction cs with
  | nil => rfl
  | cons c cs ih => simp [byteLength, byteLength_append, ih, Nat.add_comm]

@[simp]
theorem dropBytes?_append (cs rest : List Char) :
    dropBytes? (byteLength cs) (cs ++ rest) = some rest := by
  induction cs with
  | nil => simp [byteLength]
  | cons c cs ih =>
    have hc : c.utf8Size ≠ 0 := Nat.ne_of_gt c.utf8Size_pos
    simp [byteLength, dropBytes?, hc, ih]

namespace TypedText

/-- Takes back the last cluster, if there is one. -/
def takeBack? (typed : TypedText) : Option TypedText :=
  match typed.lengths with
  | [] => some typed
  | length :: lengths =>
      (dropBytes? length.toNat typed.characters).map fun characters => { characters, lengths }

def typeIn (typed : TypedText) (cluster : List Char) : TypedText where
  characters := cluster.reverse ++ typed.characters
  lengths := (byteLength cluster).toUInt8 :: typed.lengths

def receive? (typed : TypedText) (cluster : List Char) : Option TypedText :=
  if cluster = [backspace] then typed.takeBack? else some (typed.typeIn cluster)

def text (typed : TypedText) : String := String.ofList typed.characters.reverse

/-- A cluster whose length fits in a byte is taken back as it was typed in. -/
theorem takeBack?_typeIn {cluster : List Char} (h : byteLength cluster < 256) (typed : TypedText) :
    (typed.typeIn cluster).takeBack? = some typed := by
  have hlength : (byteLength cluster).toUInt8.toNat = byteLength cluster.reverse := by
    rw [byteLength_reverse, Nat.toUInt8_eq, UInt8.toNat_ofNat', Nat.mod_eq_of_lt h]
  simp [takeBack?, typeIn, hlength, -byteLength_reverse]

end TypedText

/-- A line as it stands when all of it has been typed in. -/
def typedLine? (line : String) : Option String :=
  ((Text.clusters line.toList).foldlM TypedText.receive? {}).map TypedText.text

theorem foldlM_receive?_of_not_mem {parts : List (List Char)} (h : [backspace] ∉ parts)
    (typed : TypedText) :
    ∃ result, parts.foldlM TypedText.receive? typed = some result ∧
      result.characters = parts.flatten.reverse ++ typed.characters := by
  induction parts generalizing typed with
  | nil => exact ⟨typed, rfl, rfl⟩
  | cons part rest ih =>
    have hpart : part ≠ [backspace] := fun e => h (by simp [e])
    obtain ⟨result, hrun, hresult⟩ := ih (fun m => h (by simp [m])) (typed.typeIn part)
    refine ⟨result, ?_, ?_⟩
    · simpa [TypedText.receive?, hpart] using hrun
    · simp [hresult, TypedText.typeIn]

/-- A line without a backspace stays as it is. -/
theorem typedLine?_of_not_mem {line : String} (h : backspace ∉ line.toList) :
    typedLine? line = some line := by
  have hparts : [backspace] ∉ Text.clusters line.toList := fun m =>
    h (by
      rw [← Text.flatten_clusters line.toList]
      exact List.mem_flatten.mpr ⟨_, m, by simp⟩)
  obtain ⟨result, hrun, hresult⟩ := foldlM_receive?_of_not_mem hparts {}
  simp [typedLine?, hrun, TypedText.text, hresult]

/-- The lines of a text; the last one need not be ended. -/
def inputLines (input : String) : List String :=
  let lines := input.splitOn "\n"
  if lines.getLast? = some "" then lines.dropLast else lines

end DialogueEngine.CommandLine
