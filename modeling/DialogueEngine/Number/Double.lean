/-!
# Doubles

Binary64 numbers as bit patterns. Two doubles are equal when their bits are, so equality is an
equivalence that tells the two zeros and the different NaNs apart. Numeric comparison is
`compare?`; `totalKey` orders all doubles, the two zeros and the NaNs included.
-/

namespace DialogueEngine

structure Double where
  bits : UInt64
deriving DecidableEq, Inhabited

namespace Double

def negative (x : Double) : Bool := 0x8000000000000000 ≤ x.bits.toNat

/-- The bits without the sign. -/
def magnitude (x : Double) : Nat := x.bits.toNat % 0x8000000000000000

/-- The magnitude of an infinity; the NaNs lie above it. -/
def infiniteMagnitude : Nat := 0x7FF0000000000000

def isNaN (x : Double) : Bool := infiniteMagnitude < x.magnitude

def isInfinite (x : Double) : Bool := x.magnitude == infiniteMagnitude

def isZero (x : Double) : Bool := x.magnitude == 0

def ofMagnitude (negative : Bool) (magnitude : Nat) : Double :=
  ⟨magnitude.toUInt64 ||| (if negative then 0x8000000000000000 else 0)⟩

/-- The NaN that is read and written. -/
def nan : Double := ⟨0x7FF8000000000000⟩

/-- The NaN of an operation that has no number for a result. -/
def invalid : Double := ⟨0xFFF8000000000000⟩

/-- A NaN operand is passed on as a quiet NaN with its sign and payload. -/
def quiet (x : Double) : Double := ⟨x.bits ||| 0x0008000000000000⟩

def toFloat (x : Double) : Float := Float.ofBits x.bits

def ofFloat (x : Float) : Double := if x.isNaN then invalid else ⟨x.toBits⟩

/-! ## Significand and exponent -/

/-- The significand of a power of two, which is the least one outside the lowest binade. -/
def leastSignificand : Nat := 0x10000000000000

/-- The significand `m` and the exponent `e` of a finite double of magnitude `m * 2 ^ e`. -/
def parts (x : Double) : Nat × Int :=
  let field := x.magnitude >>> 52
  let fraction := x.magnitude % leastSignificand
  if field = 0 then (fraction, -1074) else (fraction + leastSignificand, (field : Int) - 1075)

/-! ## Rounding -/

/-- The magnitude of the double nearest to `numerator / denominator`; a tie goes to the even
significand. The quotient by the chosen unit has at most 53 bits, and a significand that rounding
makes too large carries into the exponent field by itself. -/
def nearestMagnitude (numerator denominator : Nat) : Nat :=
  if numerator = 0 then 0
  else
    let scaled (e : Int) : Nat × Nat := (numerator <<< (-e).toNat, denominator <<< e.toNat)
    let guess : Int := max (-1074) ((numerator.log2 : Int) - denominator.log2 - 53)
    let narrow := (scaled guess).1 / (scaled guess).2 < 2 * leastSignificand
    let e := if narrow then guess else guess + 1
    let (n, d) := scaled e
    let down := n / d
    let rest := n % d
    let m := if 2 * rest < d ∨ 2 * rest = d ∧ down % 2 = 0 then down else down + 1
    min infiniteMagnitude ((e + 1074).toNat <<< 52 + m)

/-- The double nearest to `m * 2 ^ e`. -/
def ofParts (negative : Bool) (m : Nat) (e : Int) : Double :=
  ofMagnitude negative (nearestMagnitude (m <<< e.toNat) (1 <<< (-e).toNat))

/-- The double nearest to `digits * 10 ^ exponent`. -/
def ofDecimal (negative : Bool) (digits : Nat) (exponent : Int) : Double :=
  ofMagnitude negative
    (nearestMagnitude (digits * Nat.pow 10 exponent.toNat) (Nat.pow 10 (-exponent).toNat))

/-- The double nearest to an integer. -/
def ofInt (i : Int) : Double := ofMagnitude (i < 0) (nearestMagnitude i.natAbs 1)

/-! ## Comparison -/

/-- The magnitude with its sign; both zeros are zero. -/
def signedMagnitude (x : Double) : Int :=
  if x.negative then -(x.magnitude : Int) else x.magnitude

/-- The numeric order, in which a NaN stands beside no double. -/
def compare? (x y : Double) : Option Ordering :=
  if x.isNaN || y.isNaN then none
  else some (compare x.signedMagnitude y.signedMagnitude)

/-- Numeric equality: the zeros agree and a NaN equals nothing. -/
def numericEq (x y : Double) : Bool := x.compare? y == some .eq

/-- Ascending in the total order: negative NaNs, negative numbers, the two zeros, positive numbers,
positive NaNs. -/
def totalKey (x : Double) : Int :=
  if x.negative then -(x.magnitude : Int) - 1 else x.magnitude

theorem totalKey_injective {x y : Double} (h : x.totalKey = y.totalKey) : x = y := by
  obtain ⟨a⟩ := x
  obtain ⟨b⟩ := y
  have ha := a.toNat_lt
  have hb := b.toNat_lt
  simp only [totalKey, negative, magnitude, decide_eq_true_eq] at h
  congr 1
  apply UInt64.toNat_inj.1
  split at h <;> split at h <;> omega

/-! ## Arithmetic -/

/-- An operation on numbers extended to NaNs: the first NaN operand is the result. -/
def lift (op : Float → Float → Float) (x y : Double) : Double :=
  if x.isNaN then x.quiet
  else if y.isNaN then y.quiet
  else ofFloat (op x.toFloat y.toFloat)

def add : Double → Double → Double := lift (· + ·)
def sub : Double → Double → Double := lift (· - ·)
def mul : Double → Double → Double := lift (· * ·)
def div : Double → Double → Double := lift (· / ·)

/-- The remainder of truncated division. It is exact: both operands are multiples of the smaller of
the two units, and the remainder of the multiples is not larger than either significand. -/
def rem (x y : Double) : Double :=
  if x.isNaN then x.quiet
  else if y.isNaN then y.quiet
  else if x.isInfinite || y.isZero then invalid
  else if y.isInfinite || x.isZero then x
  else
    let (m, e) := x.parts
    let (n, f) := y.parts
    let unit := min e f
    ofParts x.negative ((m <<< (e - unit).toNat) % (n <<< (f - unit).toNat)) unit

def abs (x : Double) : Double := ofMagnitude false x.magnitude

end Double

end DialogueEngine
