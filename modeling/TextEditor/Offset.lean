/-!
# Offsets

Line numbers, columns and sizes are natural numbers below two to the sixty-fourth. Where two of them
are added that may both be as large as can be, the sum stops at the largest.
-/

namespace TextEditor

/-- The largest offset, one less than two to the sixty-fourth. -/
def maxOffset : Nat := 18446744073709551615

/-- The sum of two offsets, or the largest offset. -/
def addCapped (a b : Nat) : Nat := min (a + b) maxOffset

/-- The number that a text writes in decimal digits, perhaps after a plus sign, provided that it is
an offset. -/
def offset? (t : List Char) : Option Nat :=
  let digits := match t with
    | '+' :: digits => digits
    | digits => digits
  if digits.isEmpty || !digits.all Char.isDigit then none
  else
    let n := digits.foldl (fun n c => n * 10 + (c.toNat - '0'.toNat)) 0
    if n ≤ maxOffset then some n else none

end TextEditor
