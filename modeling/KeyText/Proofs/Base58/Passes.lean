import KeyText.Proofs.Base58.Numeral

/-!
# The passes of a division

Short division goes through the bytes of a number with a remainder. The remainder stays below the divisor, so every quotient
fits in the byte that it goes into (`exactQuotient`). A division takes the digits off a number in passes. Whenever it asks for
another one (`Division.Reaches`), what is left and the digits taken off are together worth the number, and what is left does
not begin with a zero byte (`Division.Keeps`). So it is worth less after each pass, there is a last one, and the digit of the
last one is not zero (`numeral_loses_nothing`).
-/

namespace KeyText.Radix

/-! ## The quotient at one byte -/

/-- Short division goes on behind some bytes with their remainder. -/
theorem divideFrom_append (divisor remainder : UInt32) (front back : List UInt8) :
    divideFrom divisor remainder (front ++ back) =
      ((divideFrom divisor remainder front).1 ++ (divideFrom divisor (divideFrom divisor remainder front).2 back).1,
        (divideFrom divisor (divideFrom divisor remainder front).2 back).2) := by
  induction front generalizing remainder with
  | nil => rfl
  | cons b bs ih => simp only [List.cons_append, divideFrom, ih]

/-- The word that short division forms at a byte behind some others: their remainder with the byte behind it. -/
def dividendAt (divisor : UInt32) (front : List UInt8) (b : UInt8) : UInt32 :=
  ((divideFrom divisor 0 front).2 <<< 8) ||| b.toUInt32

/-- Short division is exact at a byte behind some others and before some others. The remainder that arrives there fits in a
byte, the word is the number that the remainder and the byte write, and the quotient fits in the byte; it takes the place of
the byte, and the remainder goes on to the others. -/
structure ExactQuotient (divisor : UInt32) (front : List UInt8) (b : UInt8) (back : List UInt8) : Prop where
  remainder_lt : (divideFrom divisor 0 front).2.toNat < 256
  dividend : (dividendAt divisor front b).toNat = (divideFrom divisor 0 front).2.toNat * 256 + b.toNat
  quotient_lt : (dividendAt divisor front b / divisor).toNat < 256
  place : divideFrom divisor 0 (front ++ b :: back) =
    ((divideFrom divisor 0 front).1 ++ (dividendAt divisor front b / divisor).toUInt8 ::
        (divideFrom divisor (dividendAt divisor front b % divisor) back).1,
      (divideFrom divisor (dividendAt divisor front b % divisor) back).2)

/-- Short division by a divisor of one byte at most is exact at every byte. -/
theorem exactQuotient {divisor : UInt32} (hpos : 0 < divisor.toNat) (hle : divisor.toNat ≤ 256) (front : List UInt8)
    (b : UInt8) (back : List UInt8) : ExactQuotient divisor front b back := by
  have hs := small_of_le hpos hle
  have hremainder := (divideFrom_spec hs front hs.zero_lt).2
  obtain ⟨hdividend, hquotient, -⟩ := toNat_dividend hs hremainder b
  constructor
  case remainder_lt => exact Nat.lt_of_lt_of_le hremainder hle
  case dividend => exact hdividend
  case quotient_lt => exact hquotient
  case place => rw [divideFrom_append, divideFrom, dividendAt]

end KeyText.Radix

namespace KeyText.Base58

open Radix

/-! ## One pass -/

/-- Bytes behind zero bytes write the number that they write alone. -/
theorem valueBE_append_of_zeros {zeros : List UInt8} (h : ∀ b ∈ zeros, b = 0) (bytes : List UInt8) :
    valueBE (zeros ++ bytes) = valueBE bytes := by
  rw [← valueBE_dropWhile (zeros ++ bytes), List.dropWhile_append_of_pos (by simpa using h), valueBE_dropWhile]

/-- What holds of a division of a number whenever it asks for another digit. The bytes that were passed over are zero. What is
left, if anything, does not begin with a zero byte. The number that the division holds, moved up by as many places of radix 58
as there are digits, and the digits taken off are together worth the number that is divided. -/
structure Division.Keeps (d : Division) (value : Nat) : Prop where
  passed : ∀ b ∈ d.number.take d.start, b = 0
  leading : d.start = d.number.length ∨ ∃ b, d.number[d.start]? = some b ∧ b ≠ 0
  worth : valueBE d.number * 58 ^ d.digits.length + Nat.ofDigits 58 (d.digits.map UInt8.toNat).reverse = value

namespace Division

variable {d e : Division} {value : Nat}

/-- A division does not go past the end of its number. -/
theorem Keeps.start_le (h : d.Keeps value) : d.start ≤ d.number.length := by
  rcases h.leading with hend | ⟨b, hget, -⟩
  · exact Nat.le_of_eq hend
  · exact Nat.le_of_lt (List.getElem?_eq_some_iff.mp hget).1

/-- Nothing is left at the end of the number. -/
theorem rest_eq_nil_iff : d.rest = [] ↔ d.number.length ≤ d.start :=
  List.drop_eq_nil_iff

/-- What is left does not begin with a zero byte exactly if nothing is left or another byte comes next. -/
theorem head?_rest_ne_zero_iff (h : d.start ≤ d.number.length) :
    d.rest.head? ≠ some 0 ↔ d.start = d.number.length ∨ ∃ b, d.number[d.start]? = some b ∧ b ≠ 0 := by
  rw [rest, List.head?_drop]
  cases hget : d.number[d.start]? with
  | none =>
    have hend := List.getElem?_eq_none_iff.mp hget
    simp [Nat.le_antisymm h hend]
  | some b =>
    have hlt := (List.getElem?_eq_some_iff.mp hget).1
    simp [Nat.ne_of_lt hlt]

/-- While something is left, it is worth something. -/
theorem Keeps.value_rest_pos (h : d.Keeps value) (hlt : d.start < d.number.length) : 0 < valueBE d.rest := by
  have hhead := (head?_rest_ne_zero_iff h.start_le).mpr h.leading
  cases hrest : d.rest with
  | nil => exact absurd (rest_eq_nil_iff.mp hrest) (Nat.not_le.mpr hlt)
  | cons b bs =>
    rw [hrest] at hhead
    exact valueBE_pos (by simpa using hhead)

/-- The number that a division holds is worth what is left of it. -/
theorem valueBE_number (h : ∀ b ∈ d.number.take d.start, b = 0) : valueBE d.number = valueBE d.rest := by
  calc valueBE d.number = valueBE (d.number.take d.start ++ d.rest) := by rw [rest, List.take_append_drop]
    _ = valueBE d.rest := valueBE_append_of_zeros h d.rest

/-- The bytes that a pass passes over are those passed over before and the zero bytes at the head of the quotient. -/
theorem take_start_next (h : d.start ≤ d.number.length) :
    d.next.number.take d.next.start =
      d.number.take d.start ++ (divide radix d.rest).1.takeWhile (· == 0) := by
  have hlength : (d.number.take d.start).length = d.start := List.length_take_of_le h
  have hprefix := List.takeWhile_prefix (l := (divide radix d.rest).1) (· == 0)
  calc d.next.number.take d.next.start
      = (d.number.take d.start ++ (divide radix d.rest).1).take
          ((d.number.take d.start).length + ((divide radix d.rest).1.takeWhile (· == 0)).length) := by
        rw [hlength, next]
    _ = _ := by rw [List.take_length_add_append, ← List.prefix_iff_eq_take.mp hprefix]

/-- A pass keeps the length of the number. -/
theorem length_number_next (h : d.start ≤ d.number.length) : d.next.number.length = d.number.length := by
  rw [next, List.length_append, List.length_take_of_le h, length_divide, rest, List.length_drop]
  omega

/-- A pass does not go past the end of the number. -/
theorem start_next_le (h : d.start ≤ d.number.length) : d.next.start ≤ d.next.number.length := by
  have hle := (List.takeWhile_prefix (l := (divide radix d.rest).1) (· == 0)).length_le
  rw [length_divide, rest, List.length_drop] at hle
  rw [length_number_next h]
  calc d.next.start = d.start + ((divide radix d.rest).1.takeWhile (· == 0)).length := rfl
    _ ≤ d.start + (d.number.length - d.start) := Nat.add_le_add_left hle d.start
    _ = d.number.length := Nat.add_sub_cancel' h

/-- Only zero bytes are passed over. -/
theorem Keeps.passed_next (h : d.Keeps value) : ∀ b ∈ d.next.number.take d.next.start, b = 0 := by
  intro b hb
  rw [take_start_next h.start_le] at hb
  rcases List.mem_append.mp hb with hb | hb
  · exact h.passed b hb
  · simpa using List.all_eq_true.mp List.all_takeWhile b hb

/-- After a pass the number is divided by 58. -/
theorem Keeps.valueBE_number_next (h : d.Keeps value) : valueBE d.next.number = valueBE d.number / 58 := by
  rw [valueBE_number h.passed_next, d.next_value.1, valueBE_number h.passed]

/-- A pass over a number of which something is left makes it smaller. -/
theorem Keeps.valueBE_number_next_lt (h : d.Keeps value) (hlt : d.start < d.number.length) :
    valueBE d.next.number < valueBE d.number := by
  rw [h.valueBE_number_next, valueBE_number h.passed]
  exact Nat.div_lt_self (h.value_rest_pos hlt) (by decide)

/-- A pass moves the remainder of the number to the digits. -/
theorem Keeps.next (h : d.Keeps value) : d.next.Keeps value where
  passed := h.passed_next
  leading := (head?_rest_ne_zero_iff (start_next_le h.start_le)).mp d.head?_rest_next
  worth := by
    have hlength : d.next.digits.length = d.digits.length + 1 := rfl
    rw [d.next_value.2, Nat.ofDigits_reverse_cons, hlength, h.valueBE_number_next, ← valueBE_number h.passed,
      List.length_map]
    -- The quotient is one place further up than the number was, and the remainder stands in the place below it.
    calc _ = (58 * (valueBE d.number / 58) + valueBE d.number % 58) * 58 ^ d.digits.length +
          Nat.ofDigits 58 (d.digits.map UInt8.toNat).reverse := by ring
      _ = value := by rw [Nat.div_add_mod, h.worth]

/-! ## All passes -/

/-- The states at which a division asks for another digit: the first one, and after each digit that it takes off while
something is left the one behind the pass. -/
inductive Reaches : Division → Division → Prop where
  | refl (d : Division) : Reaches d d
  | pass {d e : Division} : d.start < d.number.length → Reaches d.next e → Reaches d e

/-- What holds at the first state holds at all. -/
theorem Reaches.keeps (h : d.Reaches e) (hkeeps : d.Keeps value) : e.Keeps value := by
  induction h with
  | refl => exact hkeeps
  | pass _ _ ih => exact ih hkeeps.next

/-- A division comes to a state with nothing left, and answers the digits that it has there. -/
theorem exists_reaches_end (d : Division) : ∃ last, d.Reaches last ∧ last.rest = [] ∧ d.run = last.digits := by
  -- The recursion of the division itself, whose passes go in front of those that follow.
  fun_induction Division.run d with
  | case1 d hrest => exact ⟨d, .refl d, hrest, rfl⟩
  | case2 d b bs hrest ih =>
    obtain ⟨last, hreaches, hend, hdigits⟩ := ih
    have hlt : d.start < d.number.length := by
      rw [← Nat.not_le, ← rest_eq_nil_iff, hrest]
      exact List.cons_ne_nil b bs
    exact ⟨last, .pass hlt hreaches, hend, hdigits⟩

/-- A division begins with the number behind its leading zero bytes. -/
theorem keeps_of (bytes : List UInt8) : (Division.of (bytes.dropWhile (· == 0))).Keeps (valueBE bytes) where
  passed := by simp [Division.of]
  leading := (head?_rest_ne_zero_iff (Nat.zero_le _)).mp (head?_dropWhile_beq 0 bytes)
  worth := by simp [Division.of, valueBE_dropWhile]

end Division

/-- Taking the digits off a number loses nothing and ends. Short division by 58 gives, for bytes of any length, the quotient
in as many bytes and the remainder, and at every byte its words hold the numbers that they stand for. Of every byte string,
whenever the division behind its leading zero bytes asks for another digit, what it holds is worth the number of the string,
and each pass makes the number that is left smaller. The last pass leaves nothing; the digits at that point are those of the
numeral, and the one taken off last, which leads them, is not zero. -/
theorem numeral_loses_nothing :
    (∀ bytes : List UInt8, (divide radix bytes).1.length = bytes.length ∧
        valueBE (divide radix bytes).1 = valueBE bytes / 58 ∧ (divide radix bytes).2.toNat = valueBE bytes % 58 ∧
        (∀ front b back, bytes = front ++ b :: back → ExactQuotient radix front b back) ∧
        (divide radix bytes).2.toNat = (divideFrom radix 0 bytes).2.toNat) ∧
      ∀ bytes : List UInt8,
        (∀ d, (Division.of (bytes.dropWhile (· == 0))).Reaches d → d.Keeps (valueBE bytes) ∧
          (d.start < d.number.length → valueBE d.next.number < valueBE d.number)) ∧
        ∃ last, (Division.of (bytes.dropWhile (· == 0))).Reaches last ∧ last.start = last.number.length ∧
          numeral bytes = ((bytes.takeWhile (· == 0)).length, last.digits) ∧ last.digits.head? ≠ some 0 := by
  have hpos : 0 < radix.toNat := by decide
  have hle : radix.toNat ≤ 256 := by decide
  refine ⟨fun bytes => ?_, fun bytes => ⟨fun d hreaches => ?_, ?_⟩⟩
  · obtain ⟨hquotient, hremainder⟩ := divide_radix bytes
    exact ⟨length_divide radix bytes, hquotient, hremainder, fun front b back _ => exactQuotient hpos hle front b back,
      toNat_divide_remainder hpos hle bytes⟩
  · have hkeeps := hreaches.keeps (Division.keeps_of bytes)
    exact ⟨hkeeps, hkeeps.valueBE_number_next_lt⟩
  · obtain ⟨last, hreaches, hend, hdigits⟩ := Division.exists_reaches_end (Division.of (bytes.dropWhile (· == 0)))
    have hkeeps := hreaches.keeps (Division.keeps_of bytes)
    have hnumeral : numeral bytes = ((bytes.takeWhile (· == 0)).length, last.digits) := by
      rw [numeral, hdigits]
    have hhead := head?_digits_numeral bytes
    rw [hnumeral] at hhead
    exact ⟨last, hreaches, Nat.le_antisymm hkeeps.start_le (Division.rest_eq_nil_iff.mp hend), hnumeral, hhead⟩

/-- A zero byte in front, and a first pass that passes over no byte. -/
theorem numeral_loses_nothing_no_byte_passed :
    ([200, 0] = [200] ++ (0 : UInt8) :: [] ∧ ExactQuotient radix [200] 0 []) ∧
      ((Division.of ([0, 200, 0].dropWhile (· == 0))).Reaches ⟨[3, 114], 0, [44]⟩ ∧
        Division.Keeps ⟨[3, 114], 0, [44]⟩ (valueBE [0, 200, 0])) ∧
      (0 < ([3, 114] : List UInt8).length ∧ valueBE [0, 15] < valueBE [3, 114]) ∧
      numeral [0, 200, 0] = (1, [15, 12, 44]) ∧ ([15, 12, 44] : List UInt8).head? ≠ some 0 := by
  have hfirst : (Division.of ([0, 200, 0].dropWhile (· == 0))).next = ⟨[3, 114], 0, [44]⟩ := by
    decide
  have hreaches : (Division.of ([0, 200, 0].dropWhile (· == 0))).Reaches ⟨[3, 114], 0, [44]⟩ := by
    rw [← hfirst]
    exact .pass (by decide) (.refl _)
  have hnumeral : numeral [0, 200, 0] = (1, [15, 12, 44]) := by
    decide +kernel
  obtain ⟨hdivide, hdivision⟩ := numeral_loses_nothing
  obtain ⟨-, -, -, hexact, -⟩ := hdivide [200, 0]
  obtain ⟨hstates, last, -, -, hdigits, hhead⟩ := hdivision [0, 200, 0]
  obtain ⟨hkeeps, hfalls⟩ := hstates _ hreaches
  rw [hnumeral] at hdigits
  rw [← (Prod.mk.inj hdigits).2] at hhead
  exact ⟨⟨rfl, hexact [200] 0 [] rfl⟩, ⟨hreaches, hkeeps⟩, ⟨by decide, hfalls (by decide)⟩, hnumeral, hhead⟩

end KeyText.Base58
