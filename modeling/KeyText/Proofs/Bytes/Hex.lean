import KeyText.Bytes.Hex
import KeyText.Proofs.Text.Utf8
import Mathlib.Data.List.Basic

/-!
# What is read as hexadecimal

A text is read as a byte string exactly when its letters, in lower case, are those that the byte string is written in
(`decode_eq_ok_iff`). Between the two stand the numbers below 16 that the digits of a byte string are written for (`halves`):
reading pairs of bytes is about the numbers that the bytes stand for (`pairs_eq_ok_iff`), and a byte stands for a number when
the character that it writes is the digit for it, in either case (`map_value?_eq_iff`). As a grammar, these texts are pairs of
digits, one for each byte (`DigitPairs`).
-/

namespace KeyText.Hex

/-- The numbers that the digits of a byte string are written for. -/
def halves (bytes : List UInt8) : List Nat :=
  bytes.flatMap fun b => [b.toNat / 16, b.toNat % 16]

theorem halves_cons (b : UInt8) (bs : List UInt8) : halves (b :: bs) = b.toNat / 16 :: b.toNat % 16 :: halves bs := rfl

/-- The numbers are below 16. -/
theorem lt_of_mem_halves {bytes : List UInt8} {n : Nat} (h : n ∈ halves bytes) : n < 16 := by
  obtain ⟨b, -, hn⟩ := List.mem_flatMap.mp h
  have hb := b.toNat_lt
  simp only [List.mem_cons, List.not_mem_nil, or_false] at hn
  omega

/-- A byte has two halves. -/
theorem length_halves (bytes : List UInt8) : (halves bytes).length = 2 * bytes.length := by
  induction bytes with
  | nil => rfl
  | cons b bs ih =>
    rw [halves_cons, List.length_cons, List.length_cons, ih, List.length_cons]
    omega

/-- The digits of a byte string are those for its halves. -/
theorem digits_eq_map (bytes : List UInt8) : digits bytes = (halves bytes).map digit := by
  rw [digits, halves, List.map_flatMap]
  rfl

/-! ## Pairs -/

/-- A byte stands for a number below 16, if for any. -/
theorem toNat_lt_of_value? {b v : UInt8} (h : value? b = some v) : v.toNat < 16 := by
  have hb := b.toNat_lt
  simp only [value?, UInt8.le_iff_toNat_le] at h
  split_ifs at h <;> cases h <;> simp [UInt8.toNat_sub] at * <;> omega

/-- Two numbers make up the byte that has them as its halves. -/
theorem pair_eq_iff {high low b : UInt8} (hhigh : high.toNat < 16) (hlow : low.toNat < 16) :
    high * 16 + low = b ↔ high = UInt8.ofNat (b.toNat / 16) ∧ low = UInt8.ofNat (b.toNat % 16) := by
  have hb := b.toNat_lt
  simp only [← UInt8.toNat_inj, UInt8.toNat_add, UInt8.toNat_mul, UInt8.toNat_ofNat', UInt8.toNat_ofNat]
  omega

/-- Pairs of bytes are read as a byte string exactly when they stand for the halves of it. -/
theorem pairs_eq_ok_iff {position : Nat} {raw bytes : List UInt8} (heven : raw.length % 2 = 0) :
    pairs position raw = .ok bytes ↔ raw.map value? = (halves bytes).map fun n => some (UInt8.ofNat n) := by
  fun_induction pairs position raw generalizing bytes with
  | case1 position high low rest h l hlow hhigh ih =>
    have hrest : rest.length % 2 = 0 := by
      simp only [List.length_cons] at heven
      omega
    cases bytes with
    | nil => simp [halves]
    | cons b bs =>
      have hpair := pair_eq_iff (b := b) (toNat_lt_of_value? hhigh) (toNat_lt_of_value? hlow)
      rw [halves_cons, List.map_cons, List.map_cons, List.map_cons, List.map_cons, hhigh, hlow, List.cons.injEq,
        List.cons.injEq, Option.some.injEq, Option.some.injEq, ← ih hrest, ← and_assoc, ← hpair]
      simp [and_comm]
  | case2 position high low rest hhigh =>
    cases bytes with
    | nil => simp [halves]
    | cons b bs => simp [halves_cons, hhigh]
  | case3 position high low rest hlow hhigh =>
    cases bytes with
    | nil => simp [halves]
    | cons b bs => simp [halves_cons, hlow]
  | case4 raw position hshort =>
    have hnil : raw = [] := by
      rcases raw with _ | ⟨high, _ | ⟨low, rest⟩⟩
      · rfl
      · cases heven
      · exact absurd rfl (hshort high low rest)
    subst hnil
    cases bytes <;> simp [halves]

/-! ## Digits -/

/-- An ASCII byte stands for a number exactly when its character is the digit for it, in either case. -/
theorem value?_eq_some_iff : ∀ n < 128, ∀ v < 16,
    value? (UInt8.ofNat n) = some (UInt8.ofNat v) ↔ (Char.ofNat n).toLower = digit v := by
  decide +kernel

/-- Other bytes stand for nothing. -/
theorem value?_eq_none {b : UInt8} (h : 0x80 ≤ b.toNat) : value? b = none := by
  simp only [value?, UInt8.le_iff_toNat_le]
  split_ifs <;> simp at * <;> omega

/-- Digits are ASCII. -/
theorem digit_lt : ∀ v < 16, (digit v).toNat < 0x80 := by
  decide +kernel

/-- Only ASCII letters have another lower case. -/
theorem toLower_of_le {c : Char} (h : 0x80 ≤ c.toNat) : c.toLower = c := by
  have hletter : ¬(c.val ≥ 'A'.val ∧ c.val ≤ 'Z'.val) := by
    intro ⟨_, hle⟩
    have hle : c.toNat ≤ 'Z'.toNat := hle
    exact absurd (Nat.le_trans h hle) (by decide)
  exact dif_neg hletter

/-- The bytes of characters stand for numbers exactly when the characters are the digits for them, in either case. -/
theorem map_value?_eq_iff {cs : List Char} {ns : List Nat} (h : ∀ n ∈ ns, n < 16) :
    (cs.flatMap String.utf8EncodeChar).map value? = ns.map (fun n => some (UInt8.ofNat n)) ↔
      cs.map Char.toLower = ns.map digit := by
  induction cs generalizing ns with
  | nil => cases ns <;> simp
  | cons c cs ih =>
    cases ns with
    | nil =>
      obtain ⟨b, bs, hencode⟩ := Utf8.exists_utf8EncodeChar_eq_cons c
      simp [hencode]
    | cons n ns =>
      have hn := h n List.mem_cons_self
      rcases Utf8.utf8EncodeChar_cases c with ⟨hascii, hencode⟩ | ⟨trailing, b, hspans, hencode⟩
      · have hdigit := value?_eq_some_iff c.toNat hascii n hn
        rw [Char.ofNat_toNat] at hdigit
        simp [hencode, hdigit, ih fun m hm => h m (List.mem_cons_of_mem n hm)]
      · have hother : c.toLower ≠ digit n := by
          rw [toLower_of_le hspans.le.1]
          rintro rfl
          exact absurd hspans.le.1 (Nat.not_le.mpr (digit_lt n hn))
        simp [hencode, value?_eq_none hspans.le.2, hother]

/-! ## Texts -/

/-- A text is read as a byte string exactly when its letters, in lower case, are those that the byte string is written in. -/
theorem decode_eq_ok_iff {text : String} {bytes : List UInt8} :
    decode text = .ok bytes ↔ text.toList.map Char.toLower = digits bytes := by
  rw [digits_eq_map, ← map_value?_eq_iff fun n hn => lt_of_mem_halves hn, decode, Utf8.encode]
  by_cases hodd : (text.toList.flatMap String.utf8EncodeChar).length % 2 = 1
  · rw [if_pos hodd]
    constructor
    · intro h
      cases h
    · intro h
      have hlength := congrArg List.length h
      rw [List.length_map, List.length_map, length_halves] at hlength
      omega
  · rw [if_neg hodd]
    exact pairs_eq_ok_iff (by omega)

/-- The digits that are written are in lower case. -/
theorem toLower_digit : ∀ v < 16, (digit v).toLower = digit v := by
  decide +kernel

/-- Hexadecimal is written in lower case. -/
theorem map_toLower_digits (bytes : List UInt8) : (digits bytes).map Char.toLower = digits bytes := by
  rw [digits_eq_map, List.map_map]
  exact List.map_congr_left fun n hn => toLower_digit n (lt_of_mem_halves hn)

/-! ## Pairs of digits in any mix of cases -/

/-- Whether a character is the digit for a number, in either case. -/
def IsDigit (c : Char) (n : Nat) : Prop :=
  "0123456789abcdef".toList[n]? = some c ∨ "0123456789ABCDEF".toList[n]? = some c

instance (c : Char) (n : Nat) : Decidable (IsDigit c n) :=
  inferInstanceAs (Decidable (_ ∨ _))

/-- The digits are these characters. -/
theorem IsDigit.mem {c : Char} {n : Nat} (h : IsDigit c n) : c ∈ "0123456789abcdefABCDEF".toList := by
  have hlower : "0123456789abcdef".toList ⊆ "0123456789abcdefABCDEF".toList := by decide +kernel
  have hupper : "0123456789ABCDEF".toList ⊆ "0123456789abcdefABCDEF".toList := by decide +kernel
  rcases h with h | h
  · exact hlower (List.mem_of_getElem? h)
  · exact hupper (List.mem_of_getElem? h)

/-- Characters outside ASCII are no digits. -/
theorem IsDigit.lt {c : Char} {n : Nat} (h : IsDigit c n) : c.toNat < 0x80 := by
  have hall : "0123456789abcdefABCDEF".toList.all (fun d => d.toNat < 0x80) = true := by
    decide +kernel
  exact of_decide_eq_true (List.all_eq_true.mp hall c h.mem)

/-- A character is the digit for a number in either case when it is the digit that is written for it, in lower case. -/
theorem isDigit_iff {c : Char} {n : Nat} (hn : n < 16) : IsDigit c n ↔ c.toLower = digit n := by
  by_cases hascii : c.toNat < 0x80
  · have hall : ∀ k < 128, ∀ n < 16, IsDigit (Char.ofNat k) n ↔ (Char.ofNat k).toLower = digit n := by
      decide +kernel
    have h := hall c.toNat hascii n hn
    rwa [Char.ofNat_toNat] at h
  · refine iff_of_false (fun h => hascii h.lt) fun h => hascii ?_
    rw [toLower_of_le (Nat.le_of_not_lt hascii)] at h
    rw [h]
    exact digit_lt n hn

/-- Pairs of digits, in any mix of cases, one for each of some bytes. -/
inductive DigitPairs : List Char → List UInt8 → Prop
  | nil : DigitPairs [] []
  | cons {high low : Char} {b : UInt8} {cs : List Char} {bs : List UInt8} :
      IsDigit high (b.toNat / 16) → IsDigit low (b.toNat % 16) → DigitPairs cs bs → DigitPairs (high :: low :: cs) (b :: bs)

/-- All characters of them are digits. -/
theorem DigitPairs.mem {cs : List Char} {bytes : List UInt8} (h : DigitPairs cs bytes) :
    ∀ c ∈ cs, c ∈ "0123456789abcdefABCDEF".toList := by
  induction h with
  | nil => exact fun _ hc => by cases hc
  | cons hhigh hlow _ ih => exact List.forall_mem_cons.mpr ⟨hhigh.mem, List.forall_mem_cons.mpr ⟨hlow.mem, ih⟩⟩

/-- They are the digits that the bytes are written in, when all are in lower case. -/
theorem digitPairs_iff {cs : List Char} {bytes : List UInt8} : DigitPairs cs bytes ↔ cs.map Char.toLower = digits bytes := by
  have hhalves : ∀ b : UInt8, b.toNat / 16 < 16 ∧ b.toNat % 16 < 16 := by
    intro b
    have hb := b.toNat_lt
    omega
  rw [digits_eq_map]
  constructor
  · intro h
    induction h with
    | nil => rfl
    | @cons high low b cs bs hhigh hlow _ ih =>
      rw [halves_cons, List.map_cons, List.map_cons, List.map_cons, List.map_cons, ih, (isDigit_iff (hhalves b).1).mp hhigh,
        (isDigit_iff (hhalves b).2).mp hlow]
  · intro h
    induction bytes generalizing cs with
    | nil =>
      rw [List.map_eq_nil_iff.mp h]
      exact .nil
    | cons b bs ih =>
      rw [halves_cons, List.map_cons, List.map_cons] at h
      obtain ⟨high, rest, rfl, hhigh, hrest⟩ := List.map_eq_cons_iff.mp h
      obtain ⟨low, rest, rfl, hlow, hrest⟩ := List.map_eq_cons_iff.mp hrest
      exact .cons ((isDigit_iff (hhalves b).1).mpr hhigh) ((isDigit_iff (hhalves b).2).mpr hlow) (ih hrest)

/-- What is written for a byte string is pairs of digits for it. -/
theorem digitPairs_digits (bytes : List UInt8) : DigitPairs (digits bytes) bytes :=
  digitPairs_iff.mpr (map_toLower_digits bytes)

end KeyText.Hex
