import DialogueEngine.Script.Lexer
import Mathlib.Logic.Basic

/-!
# Cursors

A cursor stands somewhere in a text. It keeps what is unread, how many bytes are read and the
column of the next character, and moves each of the three by itself. Wherever a cursor comes that
starts at the beginning and is only advanced, it is sound: its position is a boundary of
characters, the text from there on is unread, and its column is one more than the characters
before it.
-/

namespace DialogueEngine.Script

/-! ## Parts of a text -/

/-- The part of a text between two byte offsets. There is none where an offset is no boundary of
characters, or where the second comes before the first. -/
def slice? (s : String) (start stop : Nat) : Option String :=
  if h : (⟨start⟩ : String.Pos.Raw).IsValid s ∧ (⟨stop⟩ : String.Pos.Raw).IsValid s ∧
      start ≤ stop then
    some (s.extract ⟨⟨start⟩, h.1⟩ ⟨⟨stop⟩, h.2.1⟩)
  else none

theorem isValid_utf8ByteSize (before after : String) :
    (⟨before.utf8ByteSize⟩ : String.Pos.Raw).IsValid (before ++ after) :=
  String.Pos.Raw.isValid_iff_exists_append.mpr ⟨before, after, rfl, rfl⟩

theorem slice?_append (before middle after : String) :
    slice? (before ++ middle ++ after) before.utf8ByteSize (before ++ middle).utf8ByteSize =
      some middle := by
  have start : (⟨before.utf8ByteSize⟩ : String.Pos.Raw).IsValid (before ++ middle ++ after) :=
    (isValid_utf8ByteSize before middle).append_right after
  have inOrder : before.utf8ByteSize ≤ (before ++ middle).utf8ByteSize :=
    String.utf8ByteSize_append ▸ Nat.le_add_right _ _
  have bytes : (before ++ middle ++ after).toByteArray.extract before.utf8ByteSize
      (before ++ middle).utf8ByteSize = middle.toByteArray := by
    rw [String.toByteArray_append, ← String.size_toByteArray (s := before ++ middle),
      ByteArray.extract_append_size_left, String.toByteArray_append]
    exact ByteArray.extract_append_eq_right String.size_toByteArray.symm ByteArray.size_append
  rw [slice?, dif_pos ⟨start, isValid_utf8ByteSize (before ++ middle) after, inOrder⟩]
  exact congrArg some (String.toByteArray_inj.mp (String.toByteArray_extract.trans bytes))

theorem slice?_left (before after : String) :
    slice? (before ++ after) 0 before.utf8ByteSize = some before := by
  simpa using slice?_append "" before after

theorem slice?_right (before after : String) :
    slice? (before ++ after) before.utf8ByteSize (before ++ after).utf8ByteSize = some after := by
  simpa using slice?_append before after ""

/-! ## Cursors -/

structure Cursor where
  rest : String
  /-- In bytes. -/
  position : Nat
  column : Nat

namespace Cursor

def start (source : String) : Cursor := ⟨source, 0, 1⟩

/-- Past the next character, if there is one. -/
def advance (cursor : Cursor) : Option Cursor :=
  match cursor.rest.toList with
  | [] => some cursor
  | c :: _ => (slice? cursor.rest c.utf8Size cursor.rest.utf8ByteSize).map fun rest =>
      ⟨rest, cursor.position + c.utf8Size, cursor.column + 1⟩

/-- The position after some characters. -/
def bytes (before : List Char) : Nat := (String.ofList before).utf8ByteSize

/-- The cursor between two parts of a text. -/
def between (before after : List Char) : Cursor :=
  ⟨String.ofList after, bytes before, before.length + 1⟩

@[simp] theorem toList_rest_between (before after : List Char) :
    (between before after).rest.toList = after :=
  String.toList_ofList

@[simp] theorem position_between (before after : List Char) :
    (between before after).position = bytes before := rfl

@[simp] theorem column_between (before after : List Char) :
    (between before after).column = before.length + 1 := rfl

theorem start_eq_between (source : String) : start source = between [] source.toList := by
  rw [between, String.ofList_toList]
  rfl

theorem ofList_cons (c : Char) (cs : List Char) :
    String.ofList (c :: cs) = String.singleton c ++ String.ofList cs := by
  rw [String.singleton_eq_ofList, ← String.ofList_append, List.singleton_append]

theorem advance_between (before : List Char) (c : Char) (cs : List Char) :
    (between before (c :: cs)).advance = some (between (before ++ [c]) cs) := by
  have cut : slice? (String.ofList (c :: cs)) c.utf8Size (String.ofList (c :: cs)).utf8ByteSize =
      some (String.ofList cs) := by
    rw [ofList_cons, ← String.utf8ByteSize_singleton (c := c)]
    exact slice?_right (String.singleton c) (String.ofList cs)
  have longer : bytes (before ++ [c]) = bytes before + c.utf8Size := by
    rw [bytes, bytes, String.ofList_append, String.utf8ByteSize_append,
      ← String.singleton_eq_ofList, String.utf8ByteSize_singleton]
  simp only [advance, between, String.toList_ofList, cut, longer, Option.map_some,
    List.length_append, List.length_singleton]

/-- A cursor agrees with the text that it moves in. -/
structure Sound (source : String) (cursor : Cursor) : Prop where
  boundary : (⟨cursor.position⟩ : String.Pos.Raw).IsValid source
  rest : slice? source cursor.position source.utf8ByteSize = some cursor.rest
  column : ∃ before, slice? source 0 cursor.position = some before ∧
    cursor.column = 1 + before.length

variable {source : String} {cursor next : Cursor}

theorem sound_between {before after : List Char} (split : source.toList = before ++ after) :
    (between before after).Sound source := by
  have whole : source = String.ofList before ++ String.ofList after := by
    rw [← String.ofList_append, ← split, String.ofList_toList]
  subst whole
  exact ⟨isValid_utf8ByteSize _ _, slice?_right _ _, String.ofList before, slice?_left _ _,
    by rw [between, String.length_ofList, Nat.add_comm]⟩

/-- A sound cursor stands between two parts of its text. -/
theorem Sound.exists_between (sound : cursor.Sound source) :
    ∃ before after, source.toList = before ++ after ∧ cursor = between before after := by
  obtain ⟨rest, position, column⟩ := cursor
  obtain ⟨boundary, onward, before, read, counted⟩ := sound
  obtain ⟨front, back, rfl, same⟩ := String.Pos.Raw.isValid_iff_exists_append.mp boundary
  obtain rfl : position = front.utf8ByteSize := congrArg String.Pos.Raw.byteIdx same
  obtain rfl : back = rest := Option.some.inj ((slice?_right front back).symm.trans onward)
  obtain rfl : front = before := Option.some.inj ((slice?_left front back).symm.trans read)
  obtain rfl : column = 1 + front.length := counted
  refine ⟨front.toList, back.toList, String.toList_append, ?_⟩
  rw [between, bytes, String.ofList_toList, String.ofList_toList, String.length_toList,
    Nat.add_comm]

theorem sound_start (source : String) : (start source).Sound source := by
  rw [start_eq_between]
  exact sound_between rfl

theorem Sound.advance (sound : cursor.Sound source) (moved : cursor.advance = some next) :
    next.Sound source := by
  obtain ⟨before, after, split, rfl⟩ := sound.exists_between
  cases after with
  | nil =>
    cases moved
    exact sound
  | cons c cs =>
    rw [advance_between] at moved
    cases moved
    exact sound_between (split.trans (List.append_cons before c cs))

end Cursor

end DialogueEngine.Script
