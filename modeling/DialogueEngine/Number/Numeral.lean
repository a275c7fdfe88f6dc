import DialogueEngine.Number.Decimal

/-!
# Written doubles

A double is written with the digits of its shortest decimal, in one of two styles that differ in
where positional notation ends and in the treatment of whole numbers.
-/

namespace DialogueEngine

structure NumeralStyle where
  /-- Whether a number whose first digit has this exponent is written positionally. -/
  positional : Int → Bool
  /-- Whether a whole number in positional notation ends in `.0`. -/
  pointed : Bool

namespace NumeralStyle

/-- Literals show that they are doubles, and use an exponent below 1e-4 and from 1e16 on. -/
def literal : NumeralStyle := ⟨fun e => decide (-4 ≤ e ∧ e < 16), true⟩

/-- Plain text has no exponent and no needless point. -/
def plain : NumeralStyle := ⟨fun _ => true, false⟩

def fraction (digits : List Char) : List Char :=
  if digits.isEmpty then [] else '.' :: digits

def positionalText (style : NumeralStyle) (digits : List Char) (exponent : Int) : List Char :=
  if 0 ≤ exponent then
    digits ++ List.replicate exponent.toNat '0' ++ (if style.pointed then ['.', '0'] else [])
  else
    let fractional := (-exponent).toNat
    if fractional < digits.length then
      let whole := digits.length - fractional
      digits.take whole ++ fraction (digits.drop whole)
    else
      ['0', '.'] ++ List.replicate (fractional - digits.length) '0' ++ digits

def exponentText (digits : List Char) (leading : Int) : List Char :=
  digits.take 1 ++ fraction (digits.drop 1) ++ ['e'] ++ (toString leading).toList

/-- The text of a positive decimal. -/
def decimal (style : NumeralStyle) (x : Decimal) : List Char :=
  let digits := (toString x.digits).toList
  let leading := x.exponent + digits.length - 1
  if style.positional leading then style.positionalText digits x.exponent
  else exponentText digits leading

end NumeralStyle

/-- A NaN has no sign in writing. -/
def Double.text (style : NumeralStyle) (x : Double) : String :=
  if x.isNaN then "NaN"
  else
    let sign := if x.negative then "-" else ""
    if x.isInfinite then sign ++ "inf"
    else if x.isZero then sign ++ String.ofList (style.positionalText ['0'] 0)
    else
      let (m, e) := x.parts
      sign ++ String.ofList (style.decimal (Decimal.shortest m e))

end DialogueEngine
