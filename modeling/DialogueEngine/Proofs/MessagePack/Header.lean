import DialogueEngine.MessagePack.Reader
import DialogueEngine.MessagePack.Writer
import Mathlib.Tactic.Ring

/-!
# The starts of MessagePack items

Reading the start of an item gives back what was written, in whichever of its forms that was, and
leaves the bytes behind it. Numbers come first: a count of bytes holds the numbers below a power of
256.
-/

namespace DialogueEngine.MessagePack

variable (width : Nat) {n : Nat} (rest : Bytes)

theorem length_bigEndian (width n : Nat) : (bigEndian width n).length = width := by
  induction width with
  | zero => rfl
  | succ width ih => rw [bigEndian, List.length_cons, ih]

theorem foldl_bigEndian (width n start : Nat) :
    (bigEndian width n).foldl (fun n byte => 256 * n + byte.toNat) start =
      start * 256 ^ width + n % 256 ^ width := by
  induction width generalizing start with
  | zero => simp [bigEndian, Nat.mod_one]
  | succ width ih =>
    have byte : (n >>> (8 * width)).toUInt8.toNat = n / 256 ^ width % 256 := by
      rw [Nat.shiftRight_eq_div_pow, Nat.pow_mul]
      rfl
    rw [bigEndian, List.foldl_cons, ih, byte, Nat.pow_succ, Nat.mod_mul]
    ring

theorem take_append (bytes : Bytes) :
    Reader.take bytes.length (bytes ++ rest) = some (bytes, rest) := by
  simp [Reader.take]

theorem nat_bigEndian (small : n < 256 ^ width) :
    Reader.nat width (bigEndian width n ++ rest) = some (n, rest) := by
  have taken := take_append rest (bigEndian width n)
  have folded := foldl_bigEndian width n 0
  rw [length_bigEndian] at taken
  rw [Nat.zero_mul, Nat.zero_add, Nat.mod_eq_of_lt small] at folded
  simp only [Reader.nat, Reader.map, taken, Option.map_some, folded]

theorem toNat_toUInt8 (small : n < 256) : n.toUInt8.toNat = n := Nat.mod_eq_of_lt small

namespace Header

theorem unsigned_bigEndian (small : n < 256 ^ width) :
    unsigned width (bigEndian width n ++ rest) = some (.item (.unsigned n.toUInt64), rest) := by
  rw [unsigned, Reader.map, nat_bigEndian width rest small]
  rfl

theorem signed_bigEndian (small : n < 256 ^ width) :
    signed width (bigEndian width n ++ rest) =
      some (.item (.signed (Int64.ofInt (twosComplement width n))), rest) := by
  rw [signed, Reader.map, nat_bigEndian width rest small]
  rfl

theorem sized_bigEndian {read : Nat → Reader Header} (small : n < 256 ^ width) :
    sized width read (bigEndian width n ++ rest) = read n rest := by
  rw [sized, Reader.andThen, nat_bigEndian width rest small]

theorem string_append (bytes : Bytes) :
    string bytes.length (bytes ++ rest) = some (.item (.string bytes), rest) := by
  rw [string, Reader.map, take_append]
  rfl

theorem binary_append (bytes : Bytes) :
    binary bytes.length (bytes ++ rest) = some (.item (.binary bytes), rest) := by
  rw [binary, Reader.map, take_append]
  rfl

theorem extension_append (tag : UInt8) (bytes : Bytes) :
    extension bytes.length (tag :: (bytes ++ rest)) =
      some (.item (.extension tag bytes), rest) := by
  have number : Reader.nat 1 (tag :: (bytes ++ rest)) = some (tag.toNat, bytes ++ rest) := by
    simp [Reader.nat, Reader.map, Reader.take]
  rw [extension, Reader.andThen, number]
  simp only [Reader.map, take_append, Option.map_some]
  simp

/-! ## Forms of a single byte -/

theorem read_small (small : n < 0x80) :
    read (n.toUInt8 :: rest) = some (.item (.unsigned n.toUInt64), rest) := by
  have marker : n.toUInt8.toNat = n := toNat_toUInt8 (by omega)
  simp only [read, marker, if_pos small]

theorem read_smallMap (small : n < 16) :
    read ((0x80 + n).toUInt8 :: rest) = some (.map n, rest) := by
  have marker : (0x80 + n).toUInt8.toNat = 0x80 + n := toNat_toUInt8 (by omega)
  have above : ¬ 0x80 + n < 0x80 := by omega
  have below : 0x80 + n < 0x90 := by omega
  simp only [read, marker, if_neg above, if_pos below, Nat.add_sub_cancel_left]

theorem read_smallArray (small : n < 16) :
    read ((0x90 + n).toUInt8 :: rest) = some (.array n, rest) := by
  have marker : (0x90 + n).toUInt8.toNat = 0x90 + n := toNat_toUInt8 (by omega)
  have above : ¬ 0x90 + n < 0x80 := by omega
  have noMap : ¬ 0x90 + n < 0x90 := by omega
  have below : 0x90 + n < 0xA0 := by omega
  simp only [read, marker, if_neg above, if_neg noMap, if_pos below, Nat.add_sub_cancel_left]

theorem read_smallString (small : n < 32) :
    read ((0xA0 + n).toUInt8 :: rest) = string n rest := by
  have marker : (0xA0 + n).toUInt8.toNat = 0xA0 + n := toNat_toUInt8 (by omega)
  have above : ¬ 0xA0 + n < 0x80 := by omega
  have noMap : ¬ 0xA0 + n < 0x90 := by omega
  have noArray : ¬ 0xA0 + n < 0xA0 := by omega
  have below : 0xA0 + n < 0xC0 := by omega
  simp only [read, marker, if_neg above, if_neg noMap, if_neg noArray, if_pos below,
    Nat.add_sub_cancel_left]

theorem read_smallNegative (large : 0xE0 ≤ n) (small : n < 0x100) :
    read (n.toUInt8 :: rest) = some (.item (.signed (Int64.ofInt (twosComplement 1 n))), rest) := by
  have marker : n.toUInt8.toNat = n := toNat_toUInt8 small
  have above : ¬ n < 0x80 := by omega
  have noMap : ¬ n < 0x90 := by omega
  have noArray : ¬ n < 0xA0 := by omega
  have noString : ¬ n < 0xC0 := by omega
  simp only [read, marker, if_neg above, if_neg noMap, if_neg noArray, if_neg noString,
    if_pos large]

/-! ## All forms -/

theorem read_writeNat (small : n < 2 ^ 64) :
    read (writeNat n ++ rest) = some (.item (.unsigned n.toUInt64), rest) := by
  rw [writeNat]
  split
  · next single => exact read_small rest single
  · split
    · next small => exact unsigned_bigEndian 1 rest small
    · split
      · next small => exact unsigned_bigEndian 2 rest small
      · split
        · next small => exact unsigned_bigEndian 4 rest small
        · exact unsigned_bigEndian 8 rest small

/-- A negative number that fits in a count of bytes is read back from its two's complement. -/
theorem twosComplement_of_neg {i : Int} (positive : 0 < width) (negative : i < 0)
    (fits : -(256 ^ width : Nat) ≤ 2 * i) :
    twosComplement width ((256 ^ width : Nat) + i).toNat = i := by
  have power : (1 : Nat) <<< (8 * width) = 256 ^ width := by
    rw [Nat.one_shiftLeft, Nat.pow_mul]
  have half : 2 * (1 : Nat) <<< (8 * width - 1) = 256 ^ width := by
    rw [← power, Nat.one_shiftLeft, Nat.one_shiftLeft, ← Nat.pow_succ']
    congr 1
    omega
  rw [twosComplement, power]
  generalize (1 : Nat) <<< (8 * width - 1) = middle at half ⊢
  generalize 256 ^ width = all at *
  omega

theorem signed_twosComplement {i : Int} (positive : 0 < width) (negative : i < 0)
    (fits : -(256 ^ width : Nat) ≤ 2 * i) :
    signed width (bigEndian width ((256 ^ width : Nat) + i).toNat ++ rest) =
      some (.item (.signed (Int64.ofInt i)), rest) := by
  rw [signed_bigEndian width rest (by omega), twosComplement_of_neg width positive negative fits]

theorem read_writeInt {i : Int} (least : -(2 ^ 63) ≤ i) (negative : i < 0) :
    read (writeInt i ++ rest) = some (.item (.signed (Int64.ofInt i)), rest) := by
  rw [writeInt, if_neg (by omega)]
  split
  · next single =>
    have same : twosComplement 1 (0x100 + i).toNat = i :=
      twosComplement_of_neg 1 (by omega) negative (by omega)
    have start := read_smallNegative rest (n := (0x100 + i).toNat) (by omega) (by omega)
    rwa [same] at start
  · split
    · next fits => exact signed_twosComplement 1 rest (by omega) negative (by omega)
    · split
      · next fits => exact signed_twosComplement 2 rest (by omega) negative (by omega)
      · split
        · next fits => exact signed_twosComplement 4 rest (by omega) negative (by omega)
        · exact signed_twosComplement 8 rest (by omega) negative (by omega)

theorem read_stringHeader (bytes : Bytes) (small : bytes.length < 2 ^ 32) :
    read (stringHeader bytes.length ++ (bytes ++ rest)) = some (.item (.string bytes), rest) := by
  rw [stringHeader]
  split
  · next single => exact (read_smallString _ single).trans (string_append rest bytes)
  · split
    · next small => exact (sized_bigEndian 1 _ small).trans (string_append rest bytes)
    · split
      · next small => exact (sized_bigEndian 2 _ small).trans (string_append rest bytes)
      · exact (sized_bigEndian 4 _ small).trans (string_append rest bytes)

theorem read_binaryHeader (bytes : Bytes) (small : bytes.length < 2 ^ 32) :
    read (binaryHeader bytes.length ++ (bytes ++ rest)) = some (.item (.binary bytes), rest) := by
  rw [binaryHeader]
  split
  · next small => exact (sized_bigEndian 1 _ small).trans (binary_append rest bytes)
  · split
    · next small => exact (sized_bigEndian 2 _ small).trans (binary_append rest bytes)
    · exact (sized_bigEndian 4 _ small).trans (binary_append rest bytes)

theorem read_extensionHeader (tag : UInt8) (bytes : Bytes) (small : bytes.length < 2 ^ 32) :
    read (extensionHeader tag bytes.length ++ (bytes ++ rest)) =
      some (.item (.extension tag bytes), rest) := by
  rw [extensionHeader]
  split
  · next small =>
    rw [List.append_assoc]
    exact (sized_bigEndian 1 _ small).trans (extension_append rest tag bytes)
  · split
    · next small =>
      rw [List.append_assoc]
      exact (sized_bigEndian 2 _ small).trans (extension_append rest tag bytes)
    · rw [List.append_assoc]
      exact (sized_bigEndian 4 _ small).trans (extension_append rest tag bytes)

theorem read_arrayHeader (small : n < 2 ^ 32) :
    read (arrayHeader n ++ rest) = some (.array n, rest) := by
  have length (width : Nat) (small : n < 256 ^ width) :
      (Reader.nat width).map Header.array (bigEndian width n ++ rest) = some (.array n, rest) := by
    rw [Reader.map, nat_bigEndian width rest small]
    rfl
  rw [arrayHeader]
  split
  · next single => exact read_smallArray rest single
  · split
    · next small => exact length 2 small
    · exact length 4 small

theorem read_mapHeader (small : n < 2 ^ 32) :
    read (mapHeader n ++ rest) = some (.map n, rest) := by
  have length (width : Nat) (small : n < 256 ^ width) :
      (Reader.nat width).map Header.map (bigEndian width n ++ rest) = some (.map n, rest) := by
    rw [Reader.map, nat_bigEndian width rest small]
    rfl
  rw [mapHeader]
  split
  · next single => exact read_smallMap rest single
  · split
    · next small => exact length 2 small
    · exact length 4 small

end Header

end DialogueEngine.MessagePack
