/-!
# Doubles as exact numbers

A finite double is a natural number times a power of two, with a sign. Everything that is written in decimal is worked out
from that exact value, with natural numbers alone.
-/

namespace KeyText.Decimal

/-- What a double is. -/
inductive Reading where
  | nan
  | infinite (negative : Bool)
  /-- The number `mantissa * 2 ^ exponent` with a sign; zero has one too. -/
  | finite (negative : Bool) (mantissa : Nat) (exponent : Int)
  deriving DecidableEq, Repr

/-- Reads a double from its 64 bits: a sign, 11 bits of exponent and 52 bits of mantissa, of which normal numbers leave the
leading one out. -/
def Reading.ofBits (bits : UInt64) : Reading :=
  let n := bits.toNat
  let negative := (1 <<< 63) ≤ n
  let exponent : Nat := (n >>> 52) % (1 <<< 11)
  let fraction := n % (1 <<< 52)
  if exponent = (1 <<< 11) - 1 then if fraction = 0 then .infinite negative else .nan
  else if exponent = 0 then .finite negative fraction (-1074)
  else .finite negative ((1 <<< 52) + fraction) (exponent - 1075)

/-- A positive fraction of natural numbers. -/
structure Ratio where
  numerator : Nat
  denominator : Nat
  deriving DecidableEq, Repr

/-- A fraction times a power of a base. -/
def Ratio.scale (r : Ratio) (base : Nat) (exponent : Int) : Ratio :=
  if 0 ≤ exponent then ⟨r.numerator * base.pow exponent.toNat, r.denominator⟩
  else ⟨r.numerator, r.denominator * base.pow (-exponent).toNat⟩

/-- The number of decimal digits of a natural number; zero has one. -/
def digitCount (n : Nat) : Nat :=
  (Nat.toDigits 10 n).length

/-- The exponent `e` with `10 ^ e ≤ r < 10 ^ (e + 1)`. -/
def Ratio.magnitude (r : Ratio) : Int :=
  if r.denominator ≤ r.numerator then digitCount (r.numerator / r.denominator) - 1
  else -(digitCount ((r.denominator - 1) / r.numerator) : Int)

/-- The natural number nearest to a fraction; of two that are equally near, the even one. -/
def Ratio.nearest (r : Ratio) : Nat :=
  let below := r.numerator / r.denominator
  let twice := 2 * (r.numerator % r.denominator)
  if twice < r.denominator then below
  else if r.denominator < twice then below + 1
  else below + below % 2

/-- A decimal number with a sign: its digits `d₀ d₁ d₂ …` stand for `d₀.d₁d₂… * 10 ^ exponent`. -/
structure Scientific where
  digits : List Char
  exponent : Int
  deriving DecidableEq, Repr

end KeyText.Decimal
