import KeyText.Proofs.Base58.Buffer

/-!
# Decoding is Horner's rule

A text of symbols writes a number: going through the text, the number so far is multiplied by 58 and the place of the symbol in
the alphabet is added (`horner`). Decoding answers a zero byte for each leading zero symbol, and then the shortest bytes for the
number that the other symbols write. A buffer with less room is told how many bytes these are together (`decode_horner`).
-/

namespace KeyText.Base58

/-! ## The shortest bytes for a number -/

/-- Big-endian bytes that write a number, where no fewer bytes write it. -/
structure Shortest (bytes : List UInt8) (value : Nat) : Prop where
  writes : Radix.valueBE bytes = value
  least : ∀ other, Radix.valueBE other = value → bytes.length ≤ other.length

variable {bytes : List UInt8} {value : Nat}

/-- Only zero needs no bytes. -/
theorem Shortest.eq_nil_iff (h : Shortest bytes value) : bytes = [] ↔ value = 0 := by
  constructor
  · rintro rfl
    exact h.writes.symm
  · rintro rfl
    exact List.length_eq_zero_iff.mp (Nat.le_zero.mp (h.least [] rfl))

/-- A zero byte in front could be left out. -/
theorem Shortest.head?_ne_zero (h : Shortest bytes value) : bytes.head? ≠ some 0 := by
  intro hzero
  obtain ⟨rest, rfl⟩ := List.head?_eq_some_iff.mp hzero
  have hrest : Radix.valueBE rest = value := by
    rw [← h.writes, Radix.valueBE_cons, UInt8.toNat_zero, Nat.zero_mul, Nat.zero_add]
  have hle := h.least rest hrest
  rw [List.length_cons] at hle
  exact Nat.not_succ_le_self _ hle

/-- The base-256 digits of a number, most significant first, are the shortest bytes for it. -/
theorem shortest_digits (value : Nat) : Shortest ((Nat.digits 256 value).reverse.map UInt8.ofNat) value := by
  constructor
  · have hlt : ∀ d ∈ (Nat.digits 256 value).reverse, d < 256 :=
      fun d hd => Nat.digits_lt_base (by decide) (List.mem_reverse.mp hd)
    rw [Radix.valueBE_eq_ofDigits, map_toNat_map_ofNat hlt, List.reverse_reverse, Nat.ofDigits_digits]
  · rintro other rfl
    rw [List.length_map, List.length_reverse, Nat.digits_length_le_iff (by decide)]
    exact Radix.valueBE_lt other

/-! ## Horner's rule -/

/-- The number that a text of symbols writes, each symbol with its place in the alphabet for its digit value. -/
def horner (text : List UInt8) : Nat :=
  text.foldl (fun value byte => value * 58 + codes.toList.idxOf byte) 0

/-- The symbol for a digit value is at that place in the alphabet. -/
theorem idxOf_symbolOf {d : Nat} (h : d < 58) : codes.toList.idxOf (symbolOf d) = d := by
  have hget : codes.toList[d]? = some (symbolOf d) := by
    have hsymbol := symbol?_ofNat h
    rw [symbol?, toNat_ofNat_digit h] at hsymbol
    simpa using hsymbol
  obtain ⟨hd, hsymbol⟩ := List.getElem?_eq_some_iff.mp hget
  rw [← hsymbol]
  exact nodup_codes.idxOf_getElem d hd

/-- Going on with the symbols of more digits moves the number up by as many places and adds the number of the digits. -/
theorem foldl_map_symbolOf {ds : List Nat} (hlt : ∀ d ∈ ds, d < 58) (value : Nat) :
    (ds.map symbolOf).foldl (fun value byte => value * 58 + codes.toList.idxOf byte) value =
      value * 58 ^ ds.length + Nat.ofDigits 58 ds.reverse := by
  induction ds generalizing value with
  | nil => simp
  | cons d ds ih =>
    obtain ⟨hd, hds⟩ := List.forall_mem_cons.mp hlt
    rw [List.map_cons, List.foldl_cons, ih hds, idxOf_symbolOf hd, Nat.ofDigits_reverse_cons, List.length_cons]
    ring

/-- The symbols of digits write the number of the digits. -/
theorem horner_map_symbolOf {ds : List Nat} (hlt : ∀ d ∈ ds, d < 58) :
    horner (ds.map symbolOf) = Nat.ofDigits 58 ds.reverse := by
  rw [horner, foldl_map_symbolOf hlt, Nat.zero_mul, Nat.zero_add]

/-! ## Decoding -/

/-- A text of symbols is read as a zero byte for each leading zero symbol and the shortest bytes for the number that the other
symbols write. -/
theorem readSymbols_horner {text : List UInt8} (h : ∀ byte ∈ text, byte ∈ codes) :
    ∃ number, Shortest number (horner (text.dropWhile (· == zeroSymbol))) ∧
      readSymbols text = .ok (List.replicate (text.takeWhile (· == zeroSymbol)).length 0 ++ number) := by
  obtain ⟨ds, hlt, rfl⟩ := exists_map_symbolOf h
  have hvalue : horner ((ds.map symbolOf).dropWhile (· == zeroSymbol)) = Nat.ofDigits 58 ds.reverse := by
    rw [dropWhile_map_symbolOf hlt, horner_map_symbolOf (lt_of_mem_dropWhile hlt), ofDigits_reverse_dropWhile]
  refine ⟨_, shortest_digits _, ?_⟩
  rw [hvalue, readSymbols_map_symbolOf hlt, reradix, takeWhile_map_symbolOf hlt, List.map_append, List.map_replicate,
    List.length_replicate]
  rfl

/-- A text of symbols decodes to a zero byte for each leading zero symbol and the shortest bytes for the number that Horner's
rule gives for the other symbols: none at all for zero, and otherwise bytes that do not begin with a zero byte. A buffer is too
small where these do not fit, and their number is then the room that is asked for. -/
theorem decode_horner {text : List UInt8} (h : ∀ byte ∈ text, byte ∈ codes) :
    let zeros := (text.takeWhile (· == zeroSymbol)).length
    let value := horner (text.dropWhile (· == zeroSymbol))
    ∃ number, Shortest number value ∧ (number = [] ↔ value = 0) ∧ number.head? ≠ some 0 ∧
      decode text = .ok (List.replicate zeros 0 ++ number) ∧
      ∀ buffer required capacity, (Buffer.decode text buffer).1 = .error (.bufferTooSmall required capacity) ↔
        buffer.length < zeros + number.length ∧ required = zeros + number.length ∧ capacity = buffer.length := by
  intro zeros value
  obtain ⟨number, hshortest, hread⟩ := readSymbols_horner h
  refine ⟨number, hshortest, hshortest.eq_nil_iff, hshortest.head?_ne_zero, decode_eq_ok_iff_readSymbols.mpr hread, ?_⟩
  intro buffer required capacity
  rw [Buffer.decode, hread]
  dsimp only
  rw [Buffer.write_eq_bufferTooSmall_iff, List.length_append, List.length_replicate]

/-- Two leading zero symbols, and a zero digit behind another digit. -/
theorem decode_horner_zero_behind_digit :
    (∀ byte ∈ Utf8.encode "11z1", byte ∈ codes) ∧ Shortest [12, 234] (57 * 58 + 0) ∧
      decode (Utf8.encode "11z1") = .ok [0, 0, 12, 234] ∧
      (Buffer.decode (Utf8.encode "11z1") [7, 7, 7]).1 = .error (.bufferTooSmall 4 3) := by
  have hcodes : ∀ byte ∈ Utf8.encode "11z1", byte ∈ codes := by
    decide +kernel
  have hread : decode (Utf8.encode "11z1") = .ok [0, 0, 12, 234] := by
    rw [decode_eq_ok_iff_readSymbols]
    decide +kernel
  have hzeros : ((Utf8.encode "11z1").takeWhile (· == zeroSymbol)).length = 2 := by
    decide +kernel
  have hvalue : horner ((Utf8.encode "11z1").dropWhile (· == zeroSymbol)) = 57 * 58 + 0 := by
    decide +kernel
  obtain ⟨number, hshortest, -, -, hdecode, hsmall⟩ := decode_horner hcodes
  rw [hzeros, hread] at hdecode
  obtain rfl : number = [12, 234] := by
    simpa using hdecode.symm
  rw [hvalue] at hshortest
  exact ⟨hcodes, hshortest, hread, (hsmall _ _ _).mpr (by rw [hzeros]; decide)⟩

end KeyText.Base58
