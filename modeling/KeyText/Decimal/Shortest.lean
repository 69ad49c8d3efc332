import KeyText.Decimal.Dyadic

/-!
# The fewest digits that read back

A double stands for all real numbers that round to it. Of the decimal numbers among these, the one with the fewest digits is
written, and of those with equally many digits the one nearest to the double itself.
-/

namespace KeyText.Decimal

/-- The numbers that round to a double, over one denominator: the double, the middles between it and its two neighbours, and
whether the middles round to it too. -/
structure Interval where
  low : Nat
  value : Nat
  high : Nat
  denominator : Nat
  closed : Bool

/-- The interval of `mantissa * 2 ^ exponent`. Below a power of two the neighbours are twice as close, unless the doubles are
no closer there. A tie goes to the even mantissa. -/
def Interval.ofDyadic (mantissa : Nat) (exponent : Int) : Interval :=
  let lowerGap := if mantissa = 1 <<< 52 ∧ -1074 < exponent then 1 else 2
  let quarter := Ratio.scale ⟨1, 1⟩ 2 (exponent - 2)
  { low := (4 * mantissa - lowerGap) * quarter.numerator
    value := 4 * mantissa * quarter.numerator
    high := (4 * mantissa + 2) * quarter.numerator
    denominator := quarter.denominator
    closed := mantissa % 2 = 0 }

/-- Whether so many units of `10 ^ exponent` lie in an interval. -/
def Interval.contains (i : Interval) (units : Nat) (exponent : Int) : Bool :=
  let r := Ratio.scale ⟨units, 1⟩ 10 exponent
  let scaled := r.numerator * i.denominator
  if i.closed then i.low * r.denominator ≤ scaled && scaled ≤ i.high * r.denominator
  else i.low * r.denominator < scaled && scaled < i.high * r.denominator

/-- The number of units of `10 ^ exponent` that lies in an interval, if there is one among the two next to the value; of two,
the nearer. -/
def Interval.unitsIn? (i : Interval) (exponent : Int) : Option Nat :=
  let scaled := Ratio.scale ⟨i.value, i.denominator⟩ 10 (-exponent)
  let below := scaled.numerator / scaled.denominator
  match i.contains below exponent, i.contains (below + 1) exponent with
  | true, true => some scaled.nearest
  | true, false => some below
  | false, true => some (below + 1)
  | false, false => none

/-- The digits of a number without the zeros at its end. -/
def significant (n : Nat) : List Char :=
  match ((Nat.toDigits 10 n).reverse.dropWhile (· == '0')).reverse with
  | [] => ['0']
  | digits => digits

/-- The shortest decimal number in an interval. With 17 digits there always is one. -/
def Interval.shortest (i : Interval) : Scientific :=
  let magnitude := Ratio.magnitude ⟨i.value, i.denominator⟩
  let found := (List.range 17).findSome? fun (more : Nat) =>
    let exponent := magnitude - more
    (i.unitsIn? exponent).map fun units => (units, exponent)
  let (units, exponent) := found.getD (0, 0)
  ⟨significant units, exponent + digitCount units - 1⟩

/-- The shortest decimal number that reads back as `mantissa * 2 ^ exponent`. -/
def shortest (mantissa : Nat) (exponent : Int) : Scientific :=
  if mantissa = 0 then ⟨['0'], 0⟩ else (Interval.ofDyadic mantissa exponent).shortest

end KeyText.Decimal
