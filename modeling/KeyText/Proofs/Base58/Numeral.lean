import KeyText.Base58.Numeral
import KeyText.Proofs.Base58.Arithmetic
import KeyText.Proofs.Base58.Positional

/-!
# Numerals are digit strings in another radix

Writing and reading a numeral are the two directions of `reradix`: `symbols` takes the bytes, as digits of radix 256, to radix
58 (`symbols_eq_map_reradix`), and `readSymbols` takes the digits of a text of symbols back (`readSymbols_map_symbolOf`). A
byte that is no symbol stops the reading, at the first such byte (`readSymbols_eq_error_iff`).
-/

namespace KeyText.Base58

/-! ## Symbols and digit values -/

/-- The symbol for a digit value below 58. -/
def symbolOf (digit : Nat) : UInt8 :=
  (symbol? (UInt8.ofNat digit)).getD zeroSymbol

/-- The zero symbol is the symbol for zero. -/
theorem symbolOf_zero : symbolOf 0 = zeroSymbol := by
  decide +kernel

/-- A digit value fits in a byte. -/
theorem toNat_ofNat_digit {d : Nat} (h : d < 58) : (UInt8.ofNat d).toNat = d :=
  UInt8.toNat_ofNat_of_lt' (Nat.lt_trans h (by decide))

/-- A digit value below 58 has a symbol. -/
theorem symbol?_ofNat {d : Nat} (h : d < 58) : symbol? (UInt8.ofNat d) = some (symbolOf d) := by
  have hsome : (symbol? (UInt8.ofNat d)).isSome := by
    rw [symbol?_isSome_iff, UInt8.lt_iff_toNat_lt, toNat_ofNat_digit h]
    exact h
  obtain ⟨byte, hbyte⟩ := Option.isSome_iff_exists.mp hsome
  rw [symbolOf, hbyte, Option.getD_some]

/-- The symbol for a digit value is read as that value. -/
theorem digit?_symbolOf {d : Nat} (h : d < 58) : digit? (symbolOf d) = some (UInt8.ofNat d) :=
  digit?_of_symbol? (symbol?_ofNat h)

/-- A byte that is read as a digit is the symbol for a value below 58. -/
theorem eq_symbolOf_of_digit? {byte digit : UInt8} (h : digit? byte = some digit) :
    digit.toNat < 58 ∧ byte = symbolOf digit.toNat := by
  have hsymbol := symbol?_of_digit? h
  have hlt : digit < 58 := symbol?_isSome_iff.mp (by rw [hsymbol]; rfl)
  refine ⟨by simpa [UInt8.lt_iff_toNat_lt] using hlt, ?_⟩
  rw [symbolOf, UInt8.ofNat_toNat, hsymbol, Option.getD_some]

/-- A byte that is read as a digit is read as one below the radix. -/
theorem toNat_lt_of_digit? {byte digit : UInt8} (h : digit? byte = some digit) : digit.toUInt32.toNat < radix.toNat := by
  rw [UInt8.toNat_toUInt32]
  exact (eq_symbolOf_of_digit? h).1

/-- The bytes that are read as digits are the codes of the alphabet. -/
theorem digit?_isNone_iff {byte : UInt8} : (digit? byte).isNone ↔ byte ∉ codes := by
  rw [digit?, Option.isNone_map, Option.isNone_iff_eq_none, List.idxOf?_eq_none_iff, Vector.mem_toList_iff]

/-- Two digit values below 58 with one symbol are the same. -/
theorem symbolOf_injective {d e : Nat} (hd : d < 58) (he : e < 58) (h : symbolOf d = symbolOf e) : d = e := by
  have hdigit : some (UInt8.ofNat d) = some (UInt8.ofNat e) := by
    rw [← digit?_symbolOf hd, ← digit?_symbolOf he, h]
  have := congrArg UInt8.toNat (Option.some.inj hdigit)
  rwa [toNat_ofNat_digit hd, toNat_ofNat_digit he] at this

/-- A text of symbols is written by digit values below 58. -/
theorem exists_map_symbolOf {text : List UInt8} (h : ∀ byte ∈ text, byte ∈ codes) :
    ∃ ds : List Nat, (∀ d ∈ ds, d < 58) ∧ text = ds.map symbolOf := by
  induction text with
  | nil => exact ⟨[], by simp, rfl⟩
  | cons byte text ih =>
    obtain ⟨ds, hlt, rfl⟩ := ih fun b hb => h b (List.mem_cons_of_mem byte hb)
    have hsome : (digit? byte).isSome := by
      rw [← Option.not_isNone, Bool.not_eq_true', ← Bool.not_eq_true, digit?_isNone_iff, not_not]
      exact h byte List.mem_cons_self
    obtain ⟨digit, hdigit⟩ := Option.isSome_iff_exists.mp hsome
    obtain ⟨hd, rfl⟩ := eq_symbolOf_of_digit? hdigit
    exact ⟨digit.toNat :: ds, List.forall_mem_cons.mpr ⟨hd, hlt⟩, rfl⟩

/-- The symbols of digit values below 58 are codes of the alphabet. -/
theorem symbolOf_mem_codes {d : Nat} (h : d < 58) : symbolOf d ∈ codes := by
  by_contra hno
  rw [← digit?_isNone_iff, digit?_symbolOf h] at hno
  cases hno

/-- A text of symbols is a zero symbol for each leading zero of its digits, and then the symbols of the other digits. -/
theorem map_symbolOf_eq (ds : List Nat) :
    ds.map symbolOf =
      List.replicate (ds.takeWhile (· == 0)).length zeroSymbol ++ (ds.dropWhile (· == 0)).map symbolOf := by
  conv_lhs => rw [← replicate_zero_append_dropWhile ds, List.map_append, List.map_replicate, symbolOf_zero]

/-- The first digit behind the leading zeros is another one, so it has another symbol. -/
theorem head?_map_symbolOf_dropWhile {ds : List Nat} (hlt : ∀ d ∈ ds, d < 58) :
    ((ds.dropWhile (· == 0)).map symbolOf).head? ≠ some zeroSymbol := by
  intro h
  rw [List.head?_map, Option.map_eq_some_iff] at h
  obtain ⟨d, hd, hzero⟩ := h
  have hd58 : d < 58 := lt_of_mem_dropWhile hlt d (List.mem_of_mem_head? hd)
  rw [← symbolOf_zero] at hzero
  rw [symbolOf_injective hd58 (by decide) hzero] at hd
  exact head?_dropWhile_beq 0 ds hd

/-- The leading zero symbols of a text are those of its leading zero digits. -/
theorem takeWhile_map_symbolOf {ds : List Nat} (hlt : ∀ d ∈ ds, d < 58) :
    (ds.map symbolOf).takeWhile (· == zeroSymbol) = List.replicate (ds.takeWhile (· == 0)).length zeroSymbol := by
  rw [map_symbolOf_eq, takeWhile_replicate_append _ (head?_map_symbolOf_dropWhile hlt)]

/-- Behind them stand the symbols of the other digits. -/
theorem dropWhile_map_symbolOf {ds : List Nat} (hlt : ∀ d ∈ ds, d < 58) :
    (ds.map symbolOf).dropWhile (· == zeroSymbol) = (ds.dropWhile (· == 0)).map symbolOf := by
  rw [map_symbolOf_eq, dropWhile_replicate_append _ (head?_map_symbolOf_dropWhile hlt)]

/-! ## Writing -/

/-- A number of which something is left, and which does not begin with a zero byte, is positive. -/
theorem valueBE_pos {b : UInt8} {bs : List UInt8} (h : b ≠ 0) : 0 < Radix.valueBE (b :: bs) := by
  have hb : 0 < b.toNat := Nat.pos_of_ne_zero fun z => h (UInt8.toNat_inj.mp z)
  rw [Radix.valueBE_cons]
  have := Nat.mul_pos hb (Nat.pow_pos (n := bs.length) (show 0 < 256 by decide))
  omega

/-- Zero bytes at the head of a number do not count. -/
theorem valueBE_dropWhile (bytes : List UInt8) :
    Radix.valueBE (bytes.dropWhile (· == 0)) = Radix.valueBE bytes := by
  induction bytes with
  | nil => rfl
  | cons b bs ih =>
    by_cases h : b = 0
    · subst h
      rw [List.dropWhile_cons_of_pos (by simp), ih, Radix.valueBE_cons, UInt8.toNat_zero, Nat.zero_mul, Nat.zero_add]
    · rw [List.dropWhile_cons_of_neg (by simpa using h)]

/-- What is left of a division does not begin with a zero byte after any step. -/
theorem Division.head?_rest_next (d : Division) : d.next.rest.head? ≠ some 0 := by
  rw [Division.rest_next]
  exact head?_dropWhile_beq 0 _

/-- Short division by the radix gives the quotient and the remainder of the division by 58. -/
theorem divide_radix (bytes : List UInt8) :
    Radix.valueBE (Radix.divide radix bytes).1 = Radix.valueBE bytes / 58 ∧
      (Radix.divide radix bytes).2.toNat = Radix.valueBE bytes % 58 :=
  Radix.divide_spec (by decide) (by decide) bytes

/-- Taking a digit off divides what is left by 58, and the digit is the remainder. -/
theorem Division.next_value (d : Division) :
    Radix.valueBE d.next.rest = Radix.valueBE d.rest / 58 ∧
      d.next.digits.map UInt8.toNat = (Radix.valueBE d.rest % 58) :: d.digits.map UInt8.toNat := by
  obtain ⟨hquotient, hremainder⟩ := divide_radix d.rest
  refine ⟨by rw [Division.rest_next, valueBE_dropWhile, hquotient], ?_⟩
  rw [Division.next, List.map_cons, hremainder]

/-- The digits of a division that runs to its end are the base-58 digits of the number, before those taken off earlier. -/
theorem Division.run_spec (d : Division) (h : d.rest.head? ≠ some 0) :
    d.run.map UInt8.toNat = (Nat.digits 58 (Radix.valueBE d.rest)).reverse ++ d.digits.map UInt8.toNat := by
  fun_induction Division.run d with
  | case1 d hrest => simp [hrest, Radix.valueBE]
  | case2 d b bs hrest ih =>
    obtain ⟨hvalue, hdigits⟩ := d.next_value
    have hpos : 0 < Radix.valueBE d.rest := by
      rw [hrest] at h ⊢
      exact valueBE_pos (by simpa using h)
    rw [ih d.head?_rest_next, hvalue, hdigits, Nat.digits_def' (by decide) hpos, List.reverse_cons, List.append_assoc]
    rfl

/-- The digits of a numeral are the base-58 digits of the number that the bytes write. -/
theorem digits_numeral (bytes : List UInt8) :
    (numeral bytes).2.map UInt8.toNat = (Nat.digits 58 (Radix.valueBE bytes)).reverse := by
  have hhead : (Division.of (bytes.dropWhile (· == 0))).rest.head? ≠ some 0 := by
    rw [Division.of, Division.rest, List.drop_zero]
    exact head?_dropWhile_beq 0 bytes
  have hrun := Division.run_spec _ hhead
  rwa [Division.of, Division.rest, List.drop_zero, valueBE_dropWhile, List.map_nil, List.append_nil] at hrun

/-- The first digit of a numeral is not zero. -/
theorem head?_digits_numeral (bytes : List UInt8) : (numeral bytes).2.head? ≠ some 0 := by
  intro hzero
  apply head?_reverse_digits 58 (Radix.valueBE bytes)
  rw [← digits_numeral, List.head?_map, hzero]
  rfl

/-- A byte is zero where its value is. -/
theorem beq_zero_comp_toNat : (fun d : Nat => d == 0) ∘ UInt8.toNat = fun b : UInt8 => b == 0 := by
  funext b
  rw [Function.comp_apply, Bool.eq_iff_iff, beq_iff_eq, beq_iff_eq]
  exact ⟨fun z => UInt8.toNat_inj.mp z, fun z => by rw [z]; rfl⟩

/-- A numeral is the byte string converted to radix 58. -/
theorem symbols_eq_map_reradix (bytes : List UInt8) :
    symbols bytes = (reradix 256 58 (bytes.map UInt8.toNat)).map symbolOf := by
  have hsymbol : (fun digit => (symbol? digit).getD zeroSymbol) = symbolOf ∘ UInt8.toNat := by
    funext digit
    rw [Function.comp_apply, symbolOf, UInt8.ofNat_toNat]
  rw [symbols, reradix, ← Radix.valueBE_eq_ofDigits, ← digits_numeral, List.takeWhile_map, beq_zero_comp_toNat,
    List.length_map, List.map_append, List.map_replicate, symbolOf_zero, List.map_map, hsymbol]
  rfl

/-! ## Reading -/

/-- The radix leaves room for a byte in a word. -/
theorem small_radix : Radix.Small radix := by
  constructor <;> decide

/-- Reading digit values onto a number without a zero byte at its end: the number that the digits continue, again without
one. -/
theorem readDigits_map_symbolOf {ds : List Nat} (hlt : ∀ d ∈ ds, d < 58) (number : List UInt8) (position : Nat)
    (h : number.getLast? ≠ some 0) :
    ∃ result, readDigits number position (ds.map symbolOf) = .ok result ∧ result.getLast? ≠ some 0 ∧
      Radix.valueLE result = Radix.valueLE number * 58 ^ ds.length + Nat.ofDigits 58 ds.reverse := by
  induction ds generalizing number position with
  | nil => exact ⟨number, rfl, h, by simp⟩
  | cons d ds ih =>
    have hd : d < 58 := hlt d List.mem_cons_self
    have hcarry : (UInt8.ofNat d).toUInt32.toNat = d := by
      rw [UInt8.toNat_toUInt32, toNat_ofNat_digit hd]
    have hbelow := toNat_lt_of_digit? (digit?_symbolOf hd)
    obtain ⟨result, hread, hlast, hvalue⟩ := ih (fun e he => hlt e (List.mem_cons_of_mem d he))
      (Radix.multiplyAdd radix (UInt8.ofNat d).toUInt32 number) (position + 1)
      (Radix.getLast?_multiplyAdd small_radix hbelow h)
    refine ⟨result, ?_, hlast, ?_⟩
    · rw [List.map_cons, readDigits, digit?_symbolOf hd]
      exact hread
    · rw [hvalue, Radix.valueLE_multiplyAdd small_radix hbelow, hcarry, Nat.ofDigits_reverse_cons, List.length_cons]
      have : radix.toNat = 58 := rfl
      rw [this]
      ring

/-- Reading a text of symbols converts its digits to radix 256. -/
theorem readSymbols_map_symbolOf {ds : List Nat} (hlt : ∀ d ∈ ds, d < 58) :
    readSymbols (ds.map symbolOf) = .ok ((reradix 58 256 ds).map UInt8.ofNat) := by
  obtain ⟨number, hread, hlast, hvalue⟩ :=
    readDigits_map_symbolOf (lt_of_mem_dropWhile hlt) [] (ds.takeWhile (· == 0)).length (by simp)
  rw [Radix.valueLE, Nat.zero_mul, Nat.zero_add, ofDigits_reverse_dropWhile] at hvalue
  have hnumber : (Nat.digits 256 (Nat.ofDigits 58 ds.reverse)).reverse = number.reverse.map UInt8.toNat := by
    rw [← hvalue, Radix.valueLE_eq_ofDigits, List.map_reverse]
    conv_lhs => rw [← List.reverse_reverse (number.map UInt8.toNat)]
    apply digits_ofDigits_reverse (by decide)
    · intro d hd
      exact Radix.lt_of_mem_map_toNat (List.mem_reverse.mp hd)
    · rw [List.head?_reverse, List.getLast?_map]
      intro h
      obtain ⟨b, hb, hz⟩ := Option.map_eq_some_iff.mp h
      exact hlast (by rw [hb, UInt8.toNat_inj.mp (hz.trans UInt8.toNat_zero.symm)])
  have hback : (number.reverse.map UInt8.toNat).map UInt8.ofNat = number.reverse := by
    simp [List.map_map, Function.comp_def]
  rw [readSymbols, takeWhile_map_symbolOf hlt, dropWhile_map_symbolOf hlt, List.length_replicate, hread, reradix,
    List.map_append, List.map_replicate, hnumber, hback]
  rfl

/-- Reading digits stops at the first byte that is no symbol. -/
theorem readDigits_eq_error_iff (number text : List UInt8) (position p : Nat) :
    readDigits number position text = .error p ↔
      ∃ i, text.findIdx? (fun byte => (digit? byte).isNone) = some i ∧ p = position + i := by
  induction text generalizing number position with
  | nil => simp [readDigits]
  | cons byte text ih =>
    rw [readDigits, List.findIdx?_cons]
    cases hdigit : digit? byte with
    | none => simp [eq_comm]
    | some digit =>
      simp only [Option.isNone_some, Bool.false_eq_true, if_false, ih, Option.map_eq_some_iff]
      constructor
      · rintro ⟨i, hi, rfl⟩
        exact ⟨i + 1, ⟨i, hi, rfl⟩, by omega⟩
      · rintro ⟨_, ⟨i, hi, rfl⟩, rfl⟩
        exact ⟨i, hi, by omega⟩

/-- Reading a text stops at the first byte that is no symbol. -/
theorem readSymbols_eq_error_iff (text : List UInt8) (p : Nat) :
    readSymbols text = .error p ↔ text.findIdx? (fun byte => (digit? byte).isNone) = some p := by
  have hzero : (digit? zeroSymbol).isNone = false := by
    rw [← symbolOf_zero, digit?_symbolOf (by decide)]
    rfl
  have hones : (text.takeWhile (· == zeroSymbol)).findIdx? (fun byte => (digit? byte).isNone) = none := by
    rw [List.findIdx?_eq_none_iff]
    intro byte hbyte
    have : byte = zeroSymbol := by simpa using List.all_eq_true.mp List.all_takeWhile byte hbyte
    rw [this, hzero]
  have hsplit : text.findIdx? (fun byte => (digit? byte).isNone) =
      ((text.dropWhile (· == zeroSymbol)).findIdx? (fun byte => (digit? byte).isNone)).map
        (· + (text.takeWhile (· == zeroSymbol)).length) := by
    conv_lhs => rw [← List.takeWhile_append_dropWhile (p := (· == zeroSymbol)) (l := text)]
    rw [List.findIdx?_append, hones, Option.none_or]
  rw [readSymbols, hsplit, Option.map_eq_some_iff, ← exists_congr (fun i => and_congr_right fun _ => eq_comm)]
  have hiff := readDigits_eq_error_iff [] (text.dropWhile (· == zeroSymbol))
    (text.takeWhile (· == zeroSymbol)).length p
  simp only [Nat.add_comm] at hiff ⊢
  rw [← hiff]
  cases readDigits [] (text.takeWhile (· == zeroSymbol)).length (text.dropWhile (· == zeroSymbol)) with
  | ok number => simp [Except.map]
  | error q => simp [Except.map]

end KeyText.Base58
