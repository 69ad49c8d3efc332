/-!
# Arithmetic on bytes as base-256 digits

The two steps that change the radix of a number. Short division divides a big-endian number by a small divisor; fed with
its own quotients it yields the digits of the number in the divisor's radix, least significant first. Multiply and add
takes a little-endian number one digit further when the digits come most significant first. Both carry their intermediate
value in a 32-bit word.
-/

namespace KeyText.Radix

/-- The number that big-endian bytes write. -/
def valueBE (bytes : List UInt8) : Nat :=
  bytes.foldl (fun value b => value * 256 + b.toNat) 0

/-- The number that little-endian bytes write. -/
def valueLE : List UInt8 → Nat
  | [] => 0
  | b :: bs => b.toNat + 256 * valueLE bs

/-- Short division of a big-endian number by a divisor, with the remainder of the bytes before it: the quotient, byte for
byte, and the remainder. -/
def divideFrom (divisor : UInt32) : UInt32 → List UInt8 → List UInt8 × UInt32
  | remainder, [] => ([], remainder)
  | remainder, b :: bs =>
    let dividend := (remainder <<< 8) ||| b.toUInt32
    let (quotient, last) := divideFrom divisor (dividend % divisor) bs
    ((dividend / divisor).toUInt8 :: quotient, last)

/-- Short division of a big-endian number: a quotient of the same length, and the remainder. -/
def divide (divisor : UInt32) (bytes : List UInt8) : List UInt8 × UInt8 :=
  let (quotient, remainder) := divideFrom divisor 0 bytes
  (quotient, remainder.toUInt8)

/-- The bytes of a carry, least significant first, without a zero byte at the end. -/
def carryBytes (carry : UInt32) : List UInt8 :=
  if _h : carry = 0 then []
  else (carry &&& 0xFF).toUInt8 :: carryBytes (carry >>> 8)
termination_by carry.toNat
decreasing_by
  have pos : carry.toNat ≠ 0 := fun z => _h (UInt32.toNat_inj.1 z)
  simp only [UInt32.toNat_shiftRight, UInt32.toNat_ofNat, Nat.shiftRight_eq_div_pow]
  exact Nat.div_lt_self (Nat.pos_of_ne_zero pos) (by decide)

/-- Multiplies a little-endian number and adds a carry; the number grows by the bytes of the last carry. -/
def multiplyAdd (factor : UInt32) : UInt32 → List UInt8 → List UInt8
  | carry, [] => carryBytes carry
  | carry, b :: bs =>
    let product := b.toUInt32 * factor + carry
    (product &&& 0xFF).toUInt8 :: multiplyAdd factor (product >>> 8) bs

@[simp] theorem length_divideFrom (divisor remainder : UInt32) (bytes : List UInt8) :
    (divideFrom divisor remainder bytes).1.length = bytes.length := by
  induction bytes generalizing remainder with
  | nil => rfl
  | cons b bs ih => simp [divideFrom, ih]

@[simp] theorem length_divide (divisor : UInt32) (bytes : List UInt8) :
    (divide divisor bytes).1.length = bytes.length := by
  simp [divide]

/-- The first byte of a quotient is the first byte of the dividend divided. -/
theorem divide_cons (divisor : UInt32) (b : UInt8) (bs : List UInt8) :
    (divide divisor (b :: bs)).1 =
      (b.toUInt32 / divisor).toUInt8 :: (divideFrom divisor (b.toUInt32 % divisor) bs).1 := by
  simp [divide, divideFrom]

end KeyText.Radix
