import DialogueEngine.MessagePack.Item

/-!
# Writing MessagePack

Every item is written in the smallest form that holds it; a signed integer that is not negative is
written like an unsigned one.
-/

namespace DialogueEngine.MessagePack

/-- A number in a fixed count of bytes, the most significant first. -/
def bigEndian : Nat → Nat → Bytes
  | 0, _ => []
  | width + 1, n => (n >>> (8 * width)).toUInt8 :: bigEndian width n

def marked (marker : UInt8) (width n : Nat) : Bytes := marker :: bigEndian width n

def writeNat (n : Nat) : Bytes :=
  if n < 128 then [n.toUInt8]
  else if n < 0x100 then marked 0xCC 1 n
  else if n < 0x10000 then marked 0xCD 2 n
  else if n < 0x100000000 then marked 0xCE 4 n
  else marked 0xCF 8 n

/-- Negative integers are written in two's complement. -/
def writeInt (i : Int) : Bytes :=
  if 0 ≤ i then writeNat i.toNat
  else if -32 ≤ i then [(0x100 + i).toNat.toUInt8]
  else if -0x80 ≤ i then marked 0xD0 1 (0x100 + i).toNat
  else if -0x8000 ≤ i then marked 0xD1 2 (0x10000 + i).toNat
  else if -0x80000000 ≤ i then marked 0xD2 4 (0x100000000 + i).toNat
  else marked 0xD3 8 (0x10000000000000000 + i).toNat

def stringHeader (length : Nat) : Bytes :=
  if length < 32 then [(0xA0 + length).toUInt8]
  else if length < 0x100 then marked 0xD9 1 length
  else if length < 0x10000 then marked 0xDA 2 length
  else marked 0xDB 4 length

def binaryHeader (length : Nat) : Bytes :=
  if length < 0x100 then marked 0xC4 1 length
  else if length < 0x10000 then marked 0xC5 2 length
  else marked 0xC6 4 length

def extensionHeader (tag : UInt8) (length : Nat) : Bytes :=
  if length < 0x100 then marked 0xC7 1 length ++ [tag]
  else if length < 0x10000 then marked 0xC8 2 length ++ [tag]
  else marked 0xC9 4 length ++ [tag]

def arrayHeader (length : Nat) : Bytes :=
  if length < 16 then [(0x90 + length).toUInt8]
  else if length < 0x10000 then marked 0xDC 2 length
  else marked 0xDD 4 length

def mapHeader (length : Nat) : Bytes :=
  if length < 16 then [(0x80 + length).toUInt8]
  else if length < 0x10000 then marked 0xDE 2 length
  else marked 0xDF 4 length

namespace Item

mutual

def write : Item → Bytes
  | nil => [0xC0]
  | bool b => [if b then 0xC3 else 0xC2]
  | unsigned n => writeNat n.toNat
  | signed i => writeInt i.toInt
  | float x => marked 0xCB 8 x.bits.toNat
  | string utf8 => stringHeader utf8.length ++ utf8
  | binary content => binaryHeader content.length ++ content
  | extension tag content => extensionHeader tag content.length ++ content
  | array items => arrayHeader items.length ++ writeItems items
  | map entries => mapHeader entries.length ++ writeEntries entries

def writeItems : List Item → Bytes
  | [] => []
  | item :: rest => write item ++ writeItems rest

def writeEntries : List (Item × Item) → Bytes
  | [] => []
  | (key, value) :: rest => write key ++ (write value ++ writeEntries rest)

end

end Item

end DialogueEngine.MessagePack
