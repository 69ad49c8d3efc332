import KeyText.Base58.Alphabet
import KeyText.Base58.Radix

/-!
# Base58 numerals

A byte string is its leading zero bytes and the number that the other bytes write. Its numeral has a zero symbol for each of
the former and the base-58 digits of the latter, most significant first and without a leading zero. Reading a numeral goes
the same way back.
-/

namespace KeyText.Base58

/-- A division under way: the number, big-endian and of the same length throughout, how many zero bytes at its head were
passed over, and the digits taken off so far, most significant first. -/
structure Division where
  number : List UInt8
  start : Nat
  digits : List UInt8
  deriving DecidableEq, Repr

/-- The division of a number before its first step. -/
def Division.of (number : List UInt8) : Division :=
  ⟨number, 0, []⟩

/-- What is left of the number. -/
def Division.rest (d : Division) : List UInt8 :=
  d.number.drop d.start

/-- Takes the next digit off: the remainder of dividing what is left by the radix. The quotient stays in its place, and the
zero bytes that it leads with are passed over. -/
def Division.next (d : Division) : Division :=
  let (quotient, remainder) := Radix.divide radix d.rest
  { number := d.number.take d.start ++ quotient
    start := d.start + (quotient.takeWhile (· == 0)).length
    digits := remainder :: d.digits }

/-- What is left after a digit is the quotient without its leading zero bytes. -/
theorem Division.rest_next (d : Division) : d.next.rest = (Radix.divide radix d.rest).1.dropWhile (· == 0) := by
  obtain ⟨number, start, digits⟩ := d
  simp only [rest, next]
  rw [← List.drop_drop]
  by_cases h : start ≤ number.length
  · rw [List.drop_left' (by simp [h])]
    generalize (Radix.divide radix (number.drop start)).1 = quotient
    calc quotient.drop (quotient.takeWhile (· == 0)).length
        = (quotient.takeWhile (· == 0) ++ quotient.dropWhile (· == 0)).drop (quotient.takeWhile (· == 0)).length := by
          rw [List.takeWhile_append_dropWhile]
      _ = quotient.dropWhile (· == 0) := List.drop_left
  · -- Past the end nothing is left, neither of the number nor of its quotient.
    simp [List.drop_eq_nil_of_le (Nat.le_of_not_le h), Radix.divide, Radix.divideFrom]

/-- Taking a digit off leaves fewer bytes, or as many with a smaller first byte. -/
theorem Division.next_lt {d : Division} {b : UInt8} {bs : List UInt8} (h : d.rest = b :: bs) :
    d.next.rest.length < bs.length + 1 ∨ d.next.rest.length = bs.length + 1 ∧ (d.next.rest.headD 0).toNat < b.toNat := by
  rw [rest_next, h, Radix.divide_cons]
  have value : ((b.toUInt32 / radix).toUInt8).toNat = b.toNat / 58 := by
    have := b.toNat_lt
    simp [radix]
    omega
  rw [List.dropWhile_cons]
  split
  · exact Or.inl (Nat.lt_succ_of_le (Nat.le_trans (List.dropWhile_sublist _).length_le (by simp)))
  · rename_i nonzero
    refine Or.inr ⟨by simp, ?_⟩
    have : ((b.toUInt32 / radix).toUInt8).toNat ≠ 0 := fun z => nonzero (by simpa using UInt8.toNat_inj.1 z)
    simp only [List.headD_cons, value] at this ⊢
    omega

/-- Takes digits off until nothing is left of the number. -/
def Division.run (d : Division) : List UInt8 :=
  match _h : d.rest with
  | [] => d.digits
  | _b :: _bs => d.next.run
termination_by d.rest.length * 256 + (d.rest.headD 0).toNat
decreasing_by
  have small := (d.next.rest.headD 0).toNat_lt
  have less := Division.next_lt _h
  simp only [_h, List.length_cons, List.headD_cons]
  omega

/-- The numeral of a byte string: how many zero bytes lead it, and the base-58 digits of the rest. -/
def numeral (bytes : List UInt8) : Nat × List UInt8 :=
  ((bytes.takeWhile (· == 0)).length, (Division.of (bytes.dropWhile (· == 0))).run)

/-- The symbols of a byte string's numeral, as ASCII bytes. Every digit of a numeral has a symbol. -/
def symbols (bytes : List UInt8) : List UInt8 :=
  let (zeros, digits) := numeral bytes
  List.replicate zeros zeroSymbol ++ digits.map fun digit => (symbol? digit).getD zeroSymbol

/-- Reads digits onto a little-endian number, or stops at the first byte that is no symbol and gives its position, counted
from the given one. -/
def readDigits (number : List UInt8) (position : Nat) : List UInt8 → Except Nat (List UInt8)
  | [] => .ok number
  | byte :: text =>
    match digit? byte with
    | some digit => readDigits (Radix.multiplyAdd radix digit.toUInt32 number) (position + 1) text
    | none => .error position

/-- Reads a numeral: a zero byte for each leading zero symbol, then the bytes of the number, most significant first. The
error is the position of the first byte that is no symbol. -/
def readSymbols (text : List UInt8) : Except Nat (List UInt8) :=
  let zeros := (text.takeWhile (· == zeroSymbol)).length
  (readDigits [] zeros (text.dropWhile (· == zeroSymbol))).map fun number =>
    List.replicate zeros 0 ++ number.reverse

end KeyText.Base58
