import DialogueEngine.Number.Double

/-!
# MessagePack items

The data that MessagePack bytes denote. Strings are kept as bytes, because what reads them decides
whether they have to be valid text, and integers keep the signedness of the form they came in.
-/

namespace DialogueEngine

abbrev Bytes := List UInt8

namespace MessagePack

inductive Item where
  | nil
  | bool (b : Bool)
  | unsigned (n : UInt64)
  | signed (i : Int64)
  | float (x : Double)
  | string (utf8 : Bytes)
  | binary (content : Bytes)
  | extension (tag : UInt8) (content : Bytes)
  | array (items : List Item)
  | map (entries : List (Item × Item))
deriving Inhabited

/-- The bytes of a text. -/
def utf8 (s : String) : Bytes := s.toUTF8.toList

/-- The text that bytes encode. -/
def ofUtf8? (bytes : Bytes) : Option String := String.fromUTF8? ⟨bytes.toArray⟩

namespace Item

def text (s : String) : Item := .string (utf8 s)

mutual

/-- The greatest number of arrays, maps and extensions around one another. -/
def depth : Item → Nat
  | array items => depthItems items + 1
  | map entries => depthEntries entries + 1
  | extension .. => 1
  | _ => 0

def depthItems : List Item → Nat
  | [] => 0
  | item :: rest => max (depth item) (depthItems rest)

def depthEntries : List (Item × Item) → Nat
  | [] => 0
  | (key, value) :: rest => max (max (depth key) (depth value)) (depthEntries rest)

end

end Item

end MessagePack

end DialogueEngine
