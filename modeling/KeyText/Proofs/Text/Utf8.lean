import KeyText.Proofs.Results
import KeyText.Text.Utf8
import Mathlib.Algebra.Group.Nat.Defs
import Mathlib.Data.List.Basic

/-!
# Reading UTF-8 undoes writing it

A byte string is read as a text exactly when it is what that text is written as (`decode_eq_ok_iff`). So every text comes back,
and no other bytes are read: no overlong form, no surrogate, nothing past the last code point. The statement is carried by one
character: what is read at the head of a byte string is the character whose bytes stand there (`head_eq_char_iff`). A lead and
the range of the byte behind it settle the high bits of the code point, and the other bytes six bits each (`tail`). Where the
bytes are no text, the character that is seen at their head is still the one that stands there (`charAtHead_eq_iff`), the same as
when all the bytes are read as far as they are sound (`headD_soundPart`).
-/

namespace KeyText.Utf8

/-- The code point of the character of a code point. -/
theorem toNat_ofNat {n : Nat} (h : n.isValidChar) : (Char.ofNat n).toNat = n := by
  rw [Char.ofNat, dif_pos h]
  rfl

/-! ## The bytes behind the lead -/

/-- The bytes for the last so many groups of six bits of a code point. -/
def tail : (groups value : Nat) → List UInt8
  | 0, _ => []
  | groups + 1, value => UInt8.ofNat (value / 64 ^ groups % 64 + 0x80) :: tail groups value

/-- The byte for a group of six bits, in numbers. -/
theorem eq_ofNat_group_iff {b : UInt8} {n : Nat} :
    b = UInt8.ofNat (n % 64 + 0x80) ↔ 0x80 ≤ b.toNat ∧ b.toNat ≤ 0xBF ∧ b.toNat % 64 = n % 64 := by
  have hb := b.toNat_lt
  rw [← UInt8.toNat_inj, UInt8.toNat_ofNat_of_lt' (by omega : n % 64 + 0x80 < 2 ^ 8)]
  omega

/-- A byte that continues a character, in numbers. -/
theorem isContinuation_iff {b : UInt8} : isContinuation b ↔ 0x80 ≤ b.toNat ∧ b.toNat ≤ 0xBF := by
  simp [isContinuation, UInt8.le_iff_toNat_le]

/-- Reading the missing bytes of a character: they are those for the groups of a code point that begins with the value. -/
theorem continuation_eq_char_iff {missing value seen : Nat} {bs rest : List UInt8} {c : Char} :
    continuation missing value seen bs = .char c rest ↔
      ∃ v, v / 64 ^ missing = value ∧ Char.ofNat v = c ∧ bs = tail missing v ++ rest := by
  induction missing generalizing value seen bs with
  | zero => simp [continuation, tail]
  | succ missing ih =>
    cases bs with
    | nil => simp [continuation, tail]
    | cons b bs =>
      have hpow : ∀ v, v / 64 ^ (missing + 1) = v / 64 ^ missing / 64 := by
        intro v
        rw [Nat.pow_succ, Nat.div_div_eq_div_mul]
      simp only [continuation, tail, List.cons_append, List.cons.injEq, hpow, eq_ofNat_group_iff]
      constructor
      · intro h
        split at h
        · rename_i hcontinues
          obtain ⟨v, hv, hc, rfl⟩ := ih.mp h
          have hrange := isContinuation_iff.mp hcontinues
          exact ⟨v, by omega, hc, ⟨hrange.1, hrange.2, by omega⟩, rfl⟩
        · cases h
      · rintro ⟨v, hv, hc, ⟨hlow, hhigh, hgroup⟩, rfl⟩
        rw [if_pos (isContinuation_iff.mpr ⟨hlow, hhigh⟩)]
        exact ih.mpr ⟨v, by omega, hc, rfl⟩

/-! ## The lead -/

/-- Whether a lead begins the bytes of a code point: it carries the bits before those of the bytes behind it, and the first of
these is in its range. -/
def Lead.Begins (lead : Lead) (v : Nat) : Prop :=
  v / 64 ^ lead.trailing = lead.bits ∧ lead.low.toNat ≤ v / 64 ^ (lead.trailing - 1) % 64 + 0x80 ∧
    v / 64 ^ (lead.trailing - 1) % 64 + 0x80 ≤ lead.high.toNat

/-- The code points of several bytes, by the number of the bytes behind the first, and that first byte. -/
def Spans (trailing v : Nat) (b : UInt8) : Prop :=
  trailing = 1 ∧ 0x80 ≤ v ∧ v ≤ 0x7FF ∧ b.toNat = v / 64 + 0xC0 ∨
    trailing = 2 ∧ 0x800 ≤ v ∧ v ≤ 0xFFFF ∧ ¬(0xD800 ≤ v ∧ v ≤ 0xDFFF) ∧ b.toNat = v / 4096 + 0xE0 ∨
    trailing = 3 ∧ 0x10000 ≤ v ∧ v ≤ 0x10FFFF ∧ b.toNat = v / 262144 + 0xF0

/-- The leads begin the bytes of all code points of several bytes, and of no other numbers. -/
theorem exists_lead_iff {b : UInt8} {trailing v : Nat} :
    (∃ lead, lead? b = some lead ∧ lead.trailing = trailing ∧ lead.Begins v) ↔ Spans trailing v b := by
  have hb := b.toNat_lt
  simp only [lead?, Spans, UInt8.le_iff_toNat_le, ← UInt8.toNat_inj]
  split_ifs <;> simp [Lead.Begins] at * <;> omega

/-- The byte behind a lead continues the character, and there is one. -/
theorem bounds_of_lead? {b : UInt8} {lead : Lead} (h : lead? b = some lead) :
    0 < lead.trailing ∧ 0x80 ≤ lead.low.toNat ∧ lead.high.toNat ≤ 0xBF := by
  simp only [lead?] at h
  split_ifs at h <;> cases h <;> simp

/-- The code points of several bytes are characters. -/
theorem Spans.toNat_ofNat {trailing v : Nat} {b : UInt8} (h : Spans trailing v b) : (Char.ofNat v).toNat = v := by
  have hvalid : v.isValidChar := by
    simp only [Spans] at h
    unfold Nat.isValidChar
    omega
  exact Utf8.toNat_ofNat hvalid

/-- They are not ASCII. -/
theorem Spans.le {trailing v : Nat} {b : UInt8} (h : Spans trailing v b) : 0x80 ≤ v ∧ 0x80 ≤ b.toNat := by
  simp only [Spans] at h
  omega

/-- The code point settles how many bytes there are, and the first of them. -/
theorem Spans.unique {trailing trailing' v : Nat} {b b' : UInt8} (h : Spans trailing v b) (h' : Spans trailing' v b') :
    trailing = trailing' ∧ b = b' := by
  simp only [Spans] at h h'
  rw [← UInt8.toNat_inj]
  omega

/-! ## One character -/

/-- A lead and the bytes behind it are read as the code point that the lead begins and the bytes go on with. -/
theorem head_eq_char_iff_of_lead? {b : UInt8} {lead : Lead} (h : lead? b = some lead) {bs rest : List UInt8} {c : Char} :
    head b bs = .char c rest ↔ ∃ v, lead.Begins v ∧ Char.ofNat v = c ∧ bs = tail lead.trailing v ++ rest := by
  obtain ⟨hpos, hlow, hhigh⟩ := bounds_of_lead? h
  obtain ⟨groups, hgroups⟩ := Nat.exists_eq_add_one.mpr hpos
  have hascii : ¬b < 0x80 := by
    intro hb
    simp only [lead?, UInt8.le_iff_toNat_le, UInt8.lt_iff_toNat_lt, ← UInt8.toNat_inj] at h hb
    split_ifs at h <;> simp at * <;> omega
  have hpow : ∀ v, v / 64 ^ (groups + 1) = v / 64 ^ groups / 64 := by
    intro v
    rw [Nat.pow_succ, Nat.div_div_eq_div_mul]
  rw [head, if_neg hascii, h, hgroups]
  cases bs with
  | nil => simp [tail]
  | cons b₁ bs =>
    simp only [Lead.Begins, hgroups, hpow, tail, List.cons_append, List.cons.injEq, Nat.add_sub_cancel,
      UInt8.le_iff_toNat_le, eq_ofNat_group_iff]
    constructor
    · intro hread
      split at hread
      · rename_i hrange
        obtain ⟨v, hv, hc, rfl⟩ := continuation_eq_char_iff.mp hread
        exact ⟨v, ⟨by omega, by omega, by omega⟩, hc, ⟨by omega, by omega, by omega⟩, rfl⟩
      · cases hread
    · rintro ⟨v, ⟨hbits, hfrom, hto⟩, hc, ⟨hlow₁, hhigh₁, hgroup⟩, rfl⟩
      rw [if_pos ⟨by omega, by omega⟩]
      exact continuation_eq_char_iff.mpr ⟨v, by omega, hc, rfl⟩

/-- What is read at the head of a byte string: an ASCII character, or a code point of several bytes. -/
theorem head_eq_char_iff_spans {b : UInt8} {bs rest : List UInt8} {c : Char} :
    head b bs = .char c rest ↔ b.toNat < 0x80 ∧ Char.ofNat b.toNat = c ∧ bs = rest ∨
      ∃ trailing v, Spans trailing v b ∧ Char.ofNat v = c ∧ bs = tail trailing v ++ rest := by
  by_cases hascii : b.toNat < 0x80
  · rw [head, if_pos (UInt8.lt_iff_toNat_lt.mpr hascii)]
    simp only [Head.char.injEq, hascii, true_and]
    refine ⟨Or.inl, fun h => h.resolve_right ?_⟩
    rintro ⟨trailing, v, h, -⟩
    exact absurd hascii (Nat.not_lt.mpr h.le.2)
  · simp only [hascii, false_and, false_or, ← exists_lead_iff]
    cases hlead : lead? b with
    | none =>
      rw [head, if_neg (UInt8.lt_iff_toNat_lt.not.mpr hascii), hlead]
      simp
    | some lead => simp [head_eq_char_iff_of_lead? hlead]

/-- How a character is written: an ASCII character as its own byte, any other as a lead and the bytes behind it. -/
theorem utf8EncodeChar_cases (c : Char) :
    c.toNat < 0x80 ∧ String.utf8EncodeChar c = [UInt8.ofNat c.toNat] ∨
      ∃ trailing b, Spans trailing c.toNat b ∧ String.utf8EncodeChar c = b :: tail trailing c.toNat := by
  have hval : c.val.toNat = c.toNat := rfl
  have hvalid : c.toNat < 0xD800 ∨ 0xDFFF < c.toNat ∧ c.toNat < 0x110000 := c.valid
  fun_cases String.utf8EncodeChar c with
  | case1 v hone => exact Or.inl ⟨by omega, rfl⟩
  | case2 v hone htwo =>
    refine Or.inr ⟨1, UInt8.ofNat (v / 64 % 32 + 192), Or.inl ⟨rfl, by omega, by omega, ?_⟩, ?_⟩
    · rw [UInt8.toNat_ofNat_of_lt' (by omega : v / 64 % 32 + 192 < 2 ^ 8)]
      omega
    · simp [tail, v, hval]
  | case3 v hone htwo hthree =>
    refine Or.inr ⟨2, UInt8.ofNat (v / 4096 % 16 + 224), Or.inr (Or.inl ⟨rfl, by omega, by omega, by omega, ?_⟩), ?_⟩
    · rw [UInt8.toNat_ofNat_of_lt' (by omega : v / 4096 % 16 + 224 < 2 ^ 8)]
      omega
    · simp [tail, v, hval]
  | case4 v hone htwo hthree =>
    refine Or.inr ⟨3, UInt8.ofNat (v / 262144 % 8 + 240), Or.inr (Or.inr ⟨rfl, by omega, by omega, ?_⟩), ?_⟩
    · rw [UInt8.toNat_ofNat_of_lt' (by omega : v / 262144 % 8 + 240 < 2 ^ 8)]
      omega
    · simp [tail, v, hval]

/-- An ASCII character is written as its own byte. -/
theorem utf8EncodeChar_of_lt {c : Char} (h : c.toNat < 0x80) : String.utf8EncodeChar c = [UInt8.ofNat c.toNat] := by
  rcases utf8EncodeChar_cases c with ⟨-, hencode⟩ | ⟨trailing, b, hspans, -⟩
  · exact hencode
  · exact absurd h (Nat.not_lt.mpr hspans.le.1)

/-- Any other character is written with a byte in front that is not ASCII. -/
theorem exists_utf8EncodeChar_of_le {c : Char} (h : 0x80 ≤ c.toNat) :
    ∃ b bs, String.utf8EncodeChar c = b :: bs ∧ 0x80 ≤ b.toNat := by
  rcases utf8EncodeChar_cases c with ⟨hascii, -⟩ | ⟨trailing, b, hspans, hencode⟩
  · exact absurd hascii (Nat.not_lt.mpr h)
  · exact ⟨b, _, hencode, hspans.le.2⟩

/-- A character is written as some bytes. -/
theorem exists_utf8EncodeChar_eq_cons (c : Char) : ∃ b bs, String.utf8EncodeChar c = b :: bs := by
  rcases utf8EncodeChar_cases c with ⟨-, hencode⟩ | ⟨trailing, b, -, hencode⟩
  · exact ⟨_, _, hencode⟩
  · exact ⟨_, _, hencode⟩

/-- The character of a byte has that byte as its code point. -/
theorem toNat_ofNat_byte (b : UInt8) : (Char.ofNat b.toNat).toNat = b.toNat := by
  have hb := b.toNat_lt
  exact toNat_ofNat (Or.inl (by omega))

/-- The character that is read at the head of a byte string is the one whose bytes stand there. -/
theorem head_eq_char_iff {b : UInt8} {bs rest : List UInt8} {c : Char} :
    head b bs = .char c rest ↔ String.utf8EncodeChar c ++ rest = b :: bs := by
  rw [head_eq_char_iff_spans]
  constructor
  · rintro (⟨hascii, rfl, rfl⟩ | ⟨trailing, v, hspans, rfl, rfl⟩)
    · have hval := toNat_ofNat_byte b
      rw [utf8EncodeChar_of_lt (by rwa [hval]), hval, UInt8.ofNat_toNat]
      rfl
    · have hval := hspans.toNat_ofNat
      rcases utf8EncodeChar_cases (Char.ofNat v) with ⟨hascii, -⟩ | ⟨trailing', b', hspans', hencode⟩
      · rw [hval] at hascii
        exact absurd hascii (Nat.not_lt.mpr hspans.le.1)
      · rw [hval] at hspans' hencode
        obtain ⟨rfl, rfl⟩ := hspans.unique hspans'
        rw [hencode]
        rfl
  · intro h
    rcases utf8EncodeChar_cases c with ⟨hascii, hencode⟩ | ⟨trailing, b', hspans, hencode⟩
    · rw [hencode] at h
      obtain ⟨rfl, rfl⟩ := List.cons.inj h
      have hval : (UInt8.ofNat c.toNat).toNat = c.toNat := UInt8.toNat_ofNat_of_lt' (Nat.lt_trans hascii (by decide))
      exact Or.inl ⟨by rwa [hval], by rw [hval, Char.ofNat_toNat], rfl⟩
    · rw [hencode] at h
      obtain ⟨rfl, rfl⟩ := List.cons.inj h
      exact Or.inr ⟨trailing, c.toNat, hspans, Char.ofNat_toNat c, rfl⟩

/-! ## Texts -/

/-- Characters are read from bytes exactly when they are written as those. -/
theorem decodeFrom_eq_ok_iff {position : Nat} {bytes : List UInt8} {cs : List Char} :
    decodeFrom position bytes = .ok cs ↔ cs.flatMap String.utf8EncodeChar = bytes := by
  constructor
  · intro h
    fun_induction decodeFrom position bytes generalizing cs with
    | case1 =>
      cases h
      rfl
    | case2 position b bs c rest hhead ih =>
      obtain ⟨cs', hrest, rfl⟩ := map_eq_ok.mp h
      rw [List.flatMap_cons, ih hrest]
      exact head_eq_char_iff.mp hhead
    | case3 => cases h
    | case4 => cases h
  · rintro rfl
    induction cs generalizing position with
    | nil => rw [List.flatMap_nil, decodeFrom]
    | cons c cs ih =>
      obtain ⟨b, bs, hencode⟩ := exists_utf8EncodeChar_eq_cons c
      have hhead : head b (bs ++ cs.flatMap String.utf8EncodeChar) = .char c (cs.flatMap String.utf8EncodeChar) := by
        rw [head_eq_char_iff, hencode]
        rfl
      rw [List.flatMap_cons, hencode, List.cons_append, decodeFrom]
      split
      · rename_i c' rest hread
        rw [hhead] at hread
        cases hread
        rw [ih]
        rfl
      · rename_i hread
        rw [hhead] at hread
        cases hread
      · rename_i hread
        rw [hhead] at hread
        cases hread

/-- A byte string is read as a text exactly when the text is written as it. -/
theorem decode_eq_ok_iff {bytes : List UInt8} {s : String} : decode bytes = .ok s ↔ encode s = bytes := by
  rw [encode, ← @decodeFrom_eq_ok_iff 0, decode, map_eq_ok]
  constructor
  · rintro ⟨cs, hread, rfl⟩
    rwa [String.toList_ofList]
  · intro hread
    exact ⟨s.toList, hread, String.ofList_toList⟩

/-- Every text comes back. -/
theorem decode_encode (s : String) : decode (encode s) = .ok s :=
  decode_eq_ok_iff.mpr rfl

/-- Two texts with the same bytes are the same. -/
theorem encode_inj {s t : String} : encode s = encode t ↔ s = t := by
  rw [← decode_eq_ok_iff, decode_encode, Except.ok.injEq, eq_comm]

/-! ## The character at the head -/

/-- What stands at the head of a byte string: the character whose bytes stand there, or the replacement character where those of
no character do. -/
inductive StandsAtHead : List UInt8 → Char → Prop
  | whole (c : Char) (rest : List UInt8) : StandsAtHead (String.utf8EncodeChar c ++ rest) c
  | damaged {bytes : List UInt8} : (∀ c rest, bytes ≠ String.utf8EncodeChar c ++ rest) → StandsAtHead bytes replacement

/-- A character whose bytes stand at the head is seen there, whatever bytes follow. -/
theorem charAtHead_append (c : Char) (rest : List UInt8) : charAtHead (String.utf8EncodeChar c ++ rest) = c := by
  obtain ⟨b, bs, hencode⟩ := exists_utf8EncodeChar_eq_cons c
  have hhead : head b (bs ++ rest) = .char c rest := by
    rw [head_eq_char_iff, hencode]
    rfl
  rw [hencode, List.cons_append, charAtHead, hhead]

/-- Where no character's bytes stand at the head, the replacement character is seen. -/
theorem charAtHead_of_damaged {bytes : List UInt8} (h : ∀ c rest, bytes ≠ String.utf8EncodeChar c ++ rest) :
    charAtHead bytes = replacement := by
  cases bytes with
  | nil => rfl
  | cons b bs =>
    rw [charAtHead]
    split
    · rename_i c rest hhead
      exact absurd (head_eq_char_iff.mp hhead).symm (h c rest)
    · rfl

/-- The character that is seen at the head of a byte string is what stands there. -/
theorem charAtHead_eq_iff {bytes : List UInt8} {c : Char} : charAtHead bytes = c ↔ StandsAtHead bytes c := by
  constructor
  · rintro rfl
    by_cases hwhole : ∃ c rest, bytes = String.utf8EncodeChar c ++ rest
    · obtain ⟨c, rest, rfl⟩ := hwhole
      rw [charAtHead_append]
      exact .whole c rest
    · push Not at hwhole
      rw [charAtHead_of_damaged hwhole]
      exact .damaged hwhole
  · intro h
    cases h with
    | whole c rest => exact charAtHead_append c rest
    | damaged h => exact charAtHead_of_damaged h

/-- Reading stops behind the characters that were read, where no other stands. -/
theorem decodeFrom_eq_error {position : Nat} {bytes : List UInt8} {fault : Fault}
    (h : decodeFrom position bytes = .error fault) :
    ∃ (cs : List Char) (rest : List UInt8), bytes = cs.flatMap String.utf8EncodeChar ++ rest ∧
      fault.position = position + (cs.flatMap String.utf8EncodeChar).length ∧
      ∀ c rest', rest ≠ String.utf8EncodeChar c ++ rest' := by
  fun_induction decodeFrom position bytes with
  | case1 => cases h
  | case2 position b bs c rest hhead ih =>
    cases hrest : decodeFrom (position + c.utf8Size) rest with
    | ok cs =>
      rw [hrest] at h
      cases h
    | error fault' =>
      rw [hrest] at h
      cases h
      obtain ⟨cs, damage, hbytes, hposition, hdamage⟩ := ih hrest
      refine ⟨c :: cs, damage, ?_, ?_, hdamage⟩
      · rw [List.flatMap_cons, List.append_assoc, ← hbytes]
        exact (head_eq_char_iff.mp hhead).symm
      · rw [hposition, List.flatMap_cons, List.length_append, String.length_utf8EncodeChar, Nat.add_assoc]
  | case3 position b bs n hhead =>
    cases h
    refine ⟨[], b :: bs, rfl, rfl, fun c rest hc => ?_⟩
    rw [head_eq_char_iff.mpr hc.symm] at hhead
    cases hhead
  | case4 position b bs hhead =>
    cases h
    refine ⟨[], b :: bs, rfl, rfl, fun c rest hc => ?_⟩
    rw [head_eq_char_iff.mpr hc.symm] at hhead
    cases hhead

/-- The text that is read from a byte string as far as it is sound: all of it, or what stands before the fault. -/
def soundPart (bytes : List UInt8) : String :=
  match decode bytes with
  | .ok s => s
  | .error fault => (decode (bytes.take fault.position)).toOption.getD ""

/-- The sound part goes on to where no character stands. -/
theorem soundPart_spec (bytes : List UInt8) :
    ∃ rest, bytes = encode (soundPart bytes) ++ rest ∧ ∀ c rest', rest ≠ String.utf8EncodeChar c ++ rest' := by
  unfold soundPart
  split
  · rename_i s hread
    refine ⟨[], by rw [List.append_nil, decode_eq_ok_iff.mp hread], fun c rest' => ?_⟩
    obtain ⟨b, bs, hencode⟩ := exists_utf8EncodeChar_eq_cons c
    rw [hencode]
    exact (List.cons_ne_nil _ _).symm
  · rename_i fault hread
    have hfrom : decodeFrom 0 bytes = .error fault := by
      cases hcs : decodeFrom 0 bytes with
      | ok cs =>
        rw [decode, hcs] at hread
        cases hread
      | error fault' =>
        rw [decode, hcs] at hread
        cases hread
        rfl
    obtain ⟨cs, rest, rfl, hposition, hdamage⟩ := decodeFrom_eq_error hfrom
    have hsound : decode (cs.flatMap String.utf8EncodeChar) = .ok (String.ofList cs) := by
      rw [decode_eq_ok_iff, encode, String.toList_ofList]
    refine ⟨rest, ?_, hdamage⟩
    rw [hposition, Nat.zero_add, List.take_left, hsound]
    simp only [Except.toOption, Option.getD_some, encode, String.toList_ofList]

/-- The character at the head is the first one of the sound part, if there is one. -/
theorem headD_soundPart (bytes : List UInt8) : (soundPart bytes).toList.headD replacement = charAtHead bytes := by
  obtain ⟨rest, hbytes, hdamage⟩ := soundPart_spec bytes
  conv_rhs => rw [hbytes, encode]
  cases (soundPart bytes).toList with
  | nil => exact (charAtHead_of_damaged hdamage).symm
  | cons c cs => rw [List.flatMap_cons, List.append_assoc, charAtHead_append, List.headD_cons]

end KeyText.Utf8
