/-!
# Counts

A count is written in decimal digits, with or without a plus sign, and is below 2^64.
-/

namespace DialogueEngine

/-- The number that decimal digits write. -/
def digitsValue (digits : List Char) : Nat :=
  digits.foldl (fun n c => 10 * n + (c.toNat - '0'.toNat)) 0

def digitsCount? (digits : List Char) : Option Nat :=
  if digits.isEmpty || !digits.all Char.isDigit then none
  else
    let n := digitsValue digits
    if n < 0x10000000000000000 then some n else none

def readCount? (text : String) : Option Nat :=
  match text.toList with
  | '+' :: digits => digitsCount? digits
  | digits => digitsCount? digits

end DialogueEngine
