import DialogueEngine.MessagePack.Item

/-!
# Reading MessagePack

A reader takes what it needs from the front of the bytes and leaves the rest. All forms of the
format are read, down to a given nesting of arrays and maps.
-/

namespace DialogueEngine.MessagePack

abbrev Reader (α : Type) := Bytes → Option (α × Bytes)

namespace Reader

variable {α β : Type}

def map (f : α → β) (read : Reader α) : Reader β := fun bytes =>
  (read bytes).map fun (a, rest) => (f a, rest)

/-- Reads one thing and then another that depends on it. -/
def andThen (read : Reader α) (next : α → Reader β) : Reader β := fun bytes =>
  match read bytes with
  | none => none
  | some (a, rest) => next a rest

/-- Reads a number of bytes. -/
def take (count : Nat) : Reader Bytes := fun bytes =>
  let taken := bytes.take count
  if taken.length = count then some (taken, bytes.drop count) else none

/-- Reads the same kind of thing several times. -/
def many (read : Reader α) : Nat → Reader (List α)
  | 0 => fun bytes => some ([], bytes)
  | count + 1 => fun bytes =>
      match read bytes with
      | none => none
      | some (first, bytes) =>
          match many read count bytes with
          | none => none
          | some (others, bytes) => some (first :: others, bytes)

def pair (read : Reader α) : Reader (α × α) :=
  read.andThen fun a => read.map fun b => (a, b)

/-- A number in a fixed count of bytes, the most significant first. -/
def nat (width : Nat) : Reader Nat :=
  (take width).map fun bytes => bytes.foldl (fun n byte => 256 * n + byte.toNat) 0

end Reader

/-- The integer that a number of this many bytes stands for in two's complement. -/
def twosComplement (width n : Nat) : Int :=
  if n < 1 <<< (8 * width - 1) then n else (n : Int) - (1 <<< (8 * width) : Nat)

/-- The double that a binary32 number equals. -/
def ofBinary32 (bits : Nat) : Double :=
  let negative : Bool := 0x80000000 ≤ bits
  let field : Nat := bits / 0x800000 % 0x100
  let fraction : Nat := bits % 0x800000
  if field = 255 then
    let infinity := Double.ofMagnitude negative (Double.infiniteMagnitude + fraction <<< 29)
    if fraction = 0 then infinity else infinity.quiet
  else if field = 0 then .ofParts negative fraction (-149)
  else .ofParts negative (fraction + 0x800000) ((field : Int) - 150)

/-- The start of an item: all of it, or the length of an array or a map. -/
inductive Header where
  | item (item : Item)
  | array (length : Nat)
  | map (length : Nat)

namespace Header

def unsigned (width : Nat) : Reader Header :=
  (Reader.nat width).map fun n => .item (.unsigned n.toUInt64)

def signed (width : Nat) : Reader Header :=
  (Reader.nat width).map fun n => .item (.signed (Int64.ofInt (twosComplement width n)))

def string (length : Nat) : Reader Header := (Reader.take length).map fun b => .item (.string b)

def binary (length : Nat) : Reader Header := (Reader.take length).map fun b => .item (.binary b)

def extension (length : Nat) : Reader Header :=
  (Reader.nat 1).andThen fun tag =>
    (Reader.take length).map fun b => .item (.extension tag.toUInt8 b)

/-- Reads a length and then what has that length. -/
def sized (width : Nat) (read : Nat → Reader Header) : Reader Header :=
  (Reader.nat width).andThen read

def read : Reader Header
  | [] => none
  | marker :: rest =>
      let m := marker.toNat
      if m < 0x80 then some (.item (.unsigned m.toUInt64), rest)
      else if m < 0x90 then some (.map (m - 0x80), rest)
      else if m < 0xA0 then some (.array (m - 0x90), rest)
      else if m < 0xC0 then string (m - 0xA0) rest
      else if 0xE0 ≤ m then some (.item (.signed (Int64.ofInt (twosComplement 1 m))), rest)
      else
        match m with
        | 0xC0 => some (.item .nil, rest)
        | 0xC2 => some (.item (.bool false), rest)
        | 0xC3 => some (.item (.bool true), rest)
        | 0xC4 => sized 1 binary rest
        | 0xC5 => sized 2 binary rest
        | 0xC6 => sized 4 binary rest
        | 0xC7 => sized 1 extension rest
        | 0xC8 => sized 2 extension rest
        | 0xC9 => sized 4 extension rest
        | 0xCA => (Reader.nat 4).map (fun n => .item (.float (ofBinary32 n))) rest
        | 0xCB => (Reader.nat 8).map (fun n => .item (.float ⟨n.toUInt64⟩)) rest
        | 0xCC => unsigned 1 rest
        | 0xCD => unsigned 2 rest
        | 0xCE => unsigned 4 rest
        | 0xCF => unsigned 8 rest
        | 0xD0 => signed 1 rest
        | 0xD1 => signed 2 rest
        | 0xD2 => signed 4 rest
        | 0xD3 => signed 8 rest
        | 0xD4 => extension 1 rest
        | 0xD5 => extension 2 rest
        | 0xD6 => extension 4 rest
        | 0xD7 => extension 8 rest
        | 0xD8 => extension 16 rest
        | 0xD9 => sized 1 string rest
        | 0xDA => sized 2 string rest
        | 0xDB => sized 4 string rest
        | 0xDC => (Reader.nat 2).map .array rest
        | 0xDD => (Reader.nat 4).map .array rest
        | 0xDE => (Reader.nat 2).map .map rest
        | 0xDF => (Reader.nat 4).map .map rest
        | _ => none

end Header

/-- Reads an item with at most this many arrays and maps around one another. -/
def Item.read : Nat → Reader Item
  | 0 => fun bytes =>
      match Header.read bytes with
      | some (.item item, rest) => some (item, rest)
      | _ => none
  | depth + 1 => fun bytes =>
      match Header.read bytes with
      | none => none
      | some (.item item, rest) => some (item, rest)
      | some (.array length, rest) => (Reader.many (Item.read depth) length).map .array rest
      | some (.map length, rest) => (Reader.many (Item.read depth).pair length).map .map rest

end DialogueEngine.MessagePack
