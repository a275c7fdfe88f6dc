import DialogueEngine.Number.Double

/-!
# Shortest decimals

`Decimal.shortest` gives the decimal with the fewest digits that reads back as a given double: of
two such decimals of one length the nearer, and of two equally near the one of larger magnitude.
-/

namespace DialogueEngine

/-- The number `digits * 10 ^ exponent`. -/
structure Decimal where
  digits : Nat
  exponent : Int
deriving DecidableEq

namespace Decimal

/-- One for a negative `k`. -/
def powerOfTen (k : Int) : Nat := Nat.pow 10 k.toNat

/-- The exponent of the first digit of `m * 2 ^ e`, for a positive `m`. The logarithm to base two
bounds it from below to within one; the factors of 1/4096 round the common logarithm of two
towards minus infinity. -/
def leadingExponent (m : Nat) (e : Int) : Int :=
  let binary := (m.log2 : Int) + e
  let guess := (binary * (if binary < 0 then 1234 else 1233)).fdiv 4096
  let next := guess + 1
  if powerOfTen next <<< (-e).toNat ≤ (m * powerOfTen (-next)) <<< e.toNat then next else guess

/-- The decimal closest to the double of significand `m` and exponent `e` among those with the
last digit at exponent `k`, if it lies in the interval that rounds to the double. The interval
reaches half a unit to either side, but a quarter downwards from a power of two, and has its ends
if the significand is even. -/
def onGrid? (m : Nat) (e k : Int) : Option Decimal :=
  let power := m = Double.leastSignificand ∧ -1074 < e
  -- The double is `value / unit`, counted in steps of the grid; the gaps are in the same measure.
  let value := (4 * m * powerOfTen (-k)) <<< e.toNat
  let unit := (4 * powerOfTen k) <<< (-e).toNat
  let above := (2 * powerOfTen (-k)) <<< e.toNat
  let below := if power then above / 2 else above
  let down := value / unit
  let up := down + 1
  let lower := value - down * unit
  let upper := up * unit - value
  let inside (distance gap : Nat) : Bool := distance < gap || (distance == gap && m % 2 == 0)
  let takesDown := down ≠ 0 ∧ inside lower below
  let takesUp := inside upper above
  if takesUp ∧ (upper ≤ lower ∨ ¬ takesDown) then some ⟨up, k⟩
  else if takesDown then some ⟨down, k⟩
  else none

/-- Drops the zeros at the end of the digits. -/
def trim (x : Decimal) : Decimal :=
  go x.digits x
where
  go : Nat → Decimal → Decimal
    | 0, x => x
    | fuel + 1, x =>
        if x.digits ≠ 0 ∧ x.digits % 10 = 0 then go fuel ⟨x.digits / 10, x.exponent + 1⟩ else x

/-- The shortest decimal of the positive double of significand `m` and exponent `e`. Seventeen
digits always suffice. -/
def shortest (m : Nat) (e : Int) : Decimal :=
  let grids := (List.range 17).map fun (length : Nat) => leadingExponent m e - length
  ((grids.findSome? (onGrid? m e)).getD ⟨0, 0⟩).trim

end Decimal

end DialogueEngine
