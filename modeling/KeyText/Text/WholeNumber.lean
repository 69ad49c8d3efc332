/-!
# Whole numbers as text

Numbers of 64 bits on the command line: ASCII digits, with any zeros and at most one plus sign in front.
-/

namespace KeyText

/-- The number that a text writes in decimal, with or without a plus sign, if it fits 64 bits. -/
def wholeNumber? (text : String) : Option Nat :=
  let digits :=
    match text.toList with
    | '+' :: digits => digits
    | digits => digits
  if digits.isEmpty || !digits.all Char.isDigit then none
  else
    let n := digits.foldl (fun n c => n * 10 + (c.toNat - '0'.toNat)) 0
    if n < UInt64.size then some n else none

end KeyText
