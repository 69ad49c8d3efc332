import KeyText.Decimal.Shortest

/-!
# Writing decimal numbers

Two ways to set the digits of a decimal number: positionally, with an exponent only where the zeros would be too many; or
always with an exponent and a fixed number of places.
-/

namespace KeyText.Decimal

/-- The exponents of ten for which a number is written positionally. -/
structure Layout where
  smallest : Int
  greatest : Int

/-- An exponent with its sign. -/
def signed (exponent : Int) : List Char :=
  (if exponent < 0 then '-' else '+') :: Nat.toDigits 10 exponent.natAbs

/-- Digits with a point behind the first of them; a single digit needs none. -/
def pointed : List Char → List Char
  | first :: second :: rest => first :: '.' :: second :: rest
  | digits => digits

/-- A number without an exponent, with at least one digit on either side of the point. -/
def positional (s : Scientific) : List Char :=
  if s.exponent < 0 then ['0', '.'] ++ List.replicate (s.exponent.natAbs - 1) '0' ++ s.digits
  else
    let whole := s.exponent.toNat + 1
    let integer := (s.digits ++ List.replicate (whole - s.digits.length) '0').take whole
    let fraction := s.digits.drop whole
    integer ++ '.' :: (if fraction.isEmpty then ['0'] else fraction)

/-- A decimal number in a layout. -/
def Layout.write (layout : Layout) (s : Scientific) : List Char :=
  if layout.smallest ≤ s.exponent ∧ s.exponent ≤ layout.greatest then positional s
  else pointed s.digits ++ 'e' :: signed s.exponent

/-- A sign in front of a number. -/
def withSign (negative : Bool) (text : List Char) : String :=
  String.ofList (if negative then '-' :: text else text)

/-- A finite double with its fewest digits in a layout; other doubles have no digits. -/
def Layout.double? (layout : Layout) (x : Float) : Option String :=
  match Reading.ofBits x.toBits with
  | .finite negative mantissa exponent => some (withSign negative (layout.write (shortest mantissa exponent)))
  | _ => none

/-- A positive number with one digit before the point and a number of places after it, rounded to the nearest; a tie goes to
the even last digit. -/
def rounded (places : Nat) (r : Ratio) : Scientific :=
  let exponent := r.magnitude
  let units := (r.scale 10 (places - exponent)).nearest
  if units < Nat.pow 10 (places + 1) then ⟨Nat.toDigits 10 units, exponent⟩ else ⟨Nat.toDigits 10 (units / 10), exponent + 1⟩

/-- A double with a number of places and an exponent, such as `2.061e-7`. -/
def exponential (places : Nat) (x : Float) : String :=
  match Reading.ofBits x.toBits with
  | .nan => "NaN"
  | .infinite negative => withSign negative "inf".toList
  | .finite negative mantissa exponent =>
    let s :=
      if mantissa = 0 then ⟨List.replicate (places + 1) '0', 0⟩
      else rounded places (Ratio.scale ⟨mantissa, 1⟩ 2 exponent)
    withSign negative (pointed s.digits ++ 'e' :: (toString s.exponent).toList)

end KeyText.Decimal
