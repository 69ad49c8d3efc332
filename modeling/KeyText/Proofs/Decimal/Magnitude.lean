import KeyText.Repair.Answer
import Mathlib.Algebra.Order.Ring.Int
import Mathlib.Tactic.Set

/-!
# Risks are finite doubles

The risk of a search is a quotient of doubles, and a double that is too great becomes infinite. Each operation is bounded in powers
of two (`Below`): rounding doubles a number at most, a product lies below the product of the bounds, and a quotient below their
quotient. A double that is put into its 64 bits and taken out again keeps a bound that the format has room for
(`Below.unpack_pack`). So the risk of less than 2^64 candidates is a finite number (`isFinite_falsePositives`).
-/

namespace KeyText.Decimal

open Float.Model Float.Model.UnpackedFloat

/-- Whether `mantissa * 2 ^ exponent` lies below `2 ^ bound`: the bits of the mantissa, moved by the exponent, end at the bound. -/
def Under (bound : Int) (mantissa : Nat) (exponent : Int) : Prop :=
  ∃ bits : Nat, mantissa < 2 ^ bits ∧ exponent + bits ≤ bound

/-- A finite double whose size lies below `2 ^ bound`. -/
def Below (bound : Int) : UnpackedFloat → Prop
  | .zero _ => True
  | .finite _ mantissa exponent _ => Under bound mantissa exponent
  | .infinity _ | .notANumber => False

variable {bound bound' : Int} {m n : Nat} {e e' : Int} {x y : UnpackedFloat}

/-- What lies below some power of two is finite. -/
theorem Below.isFinite (h : Below bound x) : x.isFinite = true := by
  cases x with
  | zero | finite => rfl
  | infinity | notANumber => exact h.elim

/-- A greater bound is a bound too. -/
theorem Below.mono (h : Below bound x) (hle : bound ≤ bound') : Below bound' x := by
  cases x with
  | zero => trivial
  | finite =>
    obtain ⟨bits, hbits, hend⟩ := h
    exact ⟨bits, hbits, by omega⟩
  | infinity | notANumber => exact h.elim

/-! ## Mantissas and exponents -/

/-- The bits of a number end no more than one behind a bound of it: zero counts as one bit. -/
theorem Under.totalExponent_le (h : Under bound m e) : totalExponent m e ≤ bound + 1 := by
  obtain ⟨bits, hbits, hend⟩ := h
  rw [totalExponent]
  by_cases hm : m = 0
  · rw [hm, Nat.log2_zero]
    omega
  · have hlog := (Nat.log2_lt hm).mpr hbits
    omega

/-- The exponent of a number that is not zero lies under its bounds. -/
theorem Under.exponent_lt (h : Under bound m e) (hm : 0 < m) : e < bound := by
  obtain ⟨bits, hbits, hend⟩ := h
  have hone : bits ≠ 0 := by
    rintro rfl
    omega
  omega

/-- Products lie under the product of the bounds. -/
theorem Under.mul (h : Under bound m e) (h' : Under bound' n e') : Under (bound + bound') (m * n) (e + e') := by
  obtain ⟨bits, hbits, hend⟩ := h
  obtain ⟨bits', hbits', hend'⟩ := h'
  refine ⟨bits + bits', ?_, by omega⟩
  rw [Nat.pow_add]
  exact Nat.mul_lt_mul'' hbits hbits'

/-- Shifting a number adds to its bits. -/
theorem shiftLeft_lt_two_pow {bits : Nat} (h : m < 2 ^ bits) (k : Nat) : m <<< k < 2 ^ (bits + k) := by
  rw [Nat.shiftLeft_eq, Nat.pow_add]
  exact Nat.mul_lt_mul_of_pos_right h (Nat.two_pow_pos k)

/-- A mantissa that takes over bits of the exponent stays under its bounds. -/
theorem Under.shiftLeft (h : Under bound m e) (k : Nat) : Under bound (m <<< k) (e - k) := by
  obtain ⟨bits, hbits, hend⟩ := h
  exact ⟨bits + k, shiftLeft_lt_two_pow hbits k, by omega⟩

/-- A quotient has as many bits less as the divisor has behind its first one. -/
theorem div_lt_two_pow {bits : Nat} (hm : m < 2 ^ bits) (hn : n ≠ 0) : m / n < 2 ^ (bits - n.log2) := by
  have hlog := Nat.log2_self_le hn
  rw [Nat.div_lt_iff_lt_mul (Nat.pos_of_ne_zero hn)]
  by_cases hle : n.log2 ≤ bits
  · calc m < 2 ^ bits := hm
      _ = 2 ^ (bits - n.log2) * 2 ^ n.log2 := by rw [← Nat.pow_add, Nat.sub_add_cancel hle]
      _ ≤ 2 ^ (bits - n.log2) * n := Nat.mul_le_mul_left _ hlog
  · have hlt := Nat.lt_of_not_le hle
    rw [Nat.sub_eq_zero_of_le (Nat.le_of_lt hlt), Nat.pow_zero, Nat.one_mul]
    exact (hm.trans (Nat.pow_lt_pow_right Nat.one_lt_two hlt)).trans_le hlog

/-- A mantissa that drops its lowest bits stays under its bounds, as long as the exponent does. -/
theorem Under.div_two_pow (h : Under bound m e) {k : Nat} (hk : e + k ≤ bound) : Under bound (m / 2 ^ k) (e + k) := by
  obtain ⟨bits, hbits, hend⟩ := h
  have hquotient := div_lt_two_pow hbits (Nat.ne_of_gt (Nat.two_pow_pos k))
  rw [Nat.log2_two_pow] at hquotient
  exact ⟨bits - k, hquotient, by omega⟩

/-- A mantissa that grows by one stays under twice the bound. -/
theorem Under.of_le_succ (h : Under bound m e) (hn : n ≤ m + 1) : Under (bound + 1) n e := by
  obtain ⟨bits, hbits, hend⟩ := h
  refine ⟨bits + 1, ?_, by omega⟩
  have hpos := Nat.two_pow_pos bits
  rw [Nat.pow_succ]
  omega

/-! ## Rounding -/

/-- Shifting drops the lowest bits of a mantissa. -/
theorem mantissa_shiftRight (em : ExtendedMantissa) (k : Nat) : (em >>> k).mantissa = em.mantissa / 2 ^ k := by
  induction k with
  | zero => exact (Nat.div_one _).symm
  | succ k ih =>
    have hstep : (em >>> (k + 1)).mantissa = (em >>> k).mantissa / 2 := rfl
    rw [hstep, ih, Nat.div_div_eq_div_mul, Nat.pow_succ]

/-- A mantissa with its accuracy is that mantissa. -/
theorem mantissa_ofMantissaAndAccuracy (m : Nat) (accuracy : Accuracy) :
    (ExtendedMantissa.ofMantissaAndAccuracy m accuracy).mantissa = m := by
  rcases accuracy with _ | (_ | _ | _) <;> rfl

/-- Rounding adds one at most. -/
theorem roundedMantissa_le (em : ExtendedMantissa) : em.roundedMantissa ≤ em.mantissa + 1 := by
  obtain ⟨m, roundBit, stickyBit⟩ := em
  rcases roundBit with _ | _ <;> rcases stickyBit with _ | _ <;>
    simp only [ExtendedMantissa.roundedMantissa, ExtendedMantissa.accuracy, Accuracy.roundToNearestEven] <;> omega

/-- The exponent that the format asks for: it leaves 53 bits to the mantissa, but is not less than -1074. -/
theorem targetExponent_binary64 (total : Int) : Format.binary64.targetExponent total = max (total - 53) (-1074) :=
  rfl

/-- Shifting a number to the exponent that the format asks for keeps its bounds. -/
theorem Under.shiftToTargetExponent (h : Under bound m e) (hbound : -1074 ≤ bound) (accuracy : Accuracy) :
    Under bound (UnpackedFloat.shiftToTargetExponent .binary64 m e accuracy).1.mantissa
      (UnpackedFloat.shiftToTargetExponent .binary64 m e accuracy).2 := by
  have htotal := h.totalExponent_le
  obtain ⟨bits, -, hend⟩ := id h
  rw [UnpackedFloat.shiftToTargetExponent, shiftToExponent, targetExponent_binary64]
  dsimp only
  rw [mantissa_shiftRight, mantissa_ofMantissaAndAccuracy]
  exact h.div_two_pow (by omega)

/-- Rounding doubles a number at most. -/
theorem below_roundWithAccuracy (h : Under bound m e) (hbound : -1074 ≤ bound) (sign : Sign) (accuracy : Accuracy) :
    Below (bound + 1) (roundWithAccuracy .binary64 sign m e accuracy) := by
  have hfirst := h.shiftToTargetExponent hbound accuracy
  have hrounded := hfirst.of_le_succ (roundedMantissa_le _)
  have hsecond := hrounded.shiftToTargetExponent (by omega) .exact
  rw [roundWithAccuracy]
  dsimp only
  generalize UnpackedFloat.shiftToTargetExponent .binary64 _ _ .exact = second at hsecond ⊢
  by_cases hzero : second.1.mantissa = 0
  · rw [dif_pos hzero]
    trivial
  · rw [dif_neg hzero]
    exact hsecond

/-! ## Bits -/

/-- Bits whose exponent is not the one kept for infinity stand for a finite double: below `2 ^ -1022` if the exponent is zero, and
otherwise with a mantissa of 53 bits. -/
theorem below_unpack {bits : BitVec 64} (hfinite : @unpackExponent .binary64 bits ≠ -1#11) (hlow : -1022 ≤ bound)
    (hhigh : @unpackExponent .binary64 bits ≠ 0#11 → (@unpackExponent .binary64 bits).toNat - 1022 ≤ bound) :
    Below bound (UnpackedFloat.unpack .binary64 bits) := by
  have hbias : Format.binary64.exponentBias = 1023 := rfl
  unfold UnpackedFloat.unpack
  dsimp only
  rw [if_neg hfinite]
  by_cases hzero : @unpackExponent .binary64 bits = 0#11
  · rw [if_pos hzero]
    by_cases hmantissa : @unpackMantissa .binary64 bits = 0#52
    · rw [dif_pos hmantissa]
      trivial
    · rw [dif_neg hmantissa]
      refine ⟨52, (@unpackMantissa .binary64 bits).isLt, ?_⟩
      rw [hbias, hzero]
      exact hlow
  · have hend := hhigh hzero
    rw [if_neg hzero]
    refine ⟨53, (1#1 ++ @unpackMantissa .binary64 bits).isLt, ?_⟩
    rw [hbias]
    omega

/-- Without an exponent the bits stand for a double below `2 ^ -1022`. -/
theorem below_unpack_subnormal (hlow : -1022 ≤ bound) (sign : Sign) (mantissa : BitVec 52) :
    Below bound (UnpackedFloat.unpack .binary64 (packComponents .binary64 sign 0#11 mantissa)) := by
  have hexponent : unpackExponent (packComponents .binary64 sign 0#11 mantissa) = 0#11 := unpackExponent_packComponents
  exact below_unpack (by rw [hexponent]; decide) hlow fun hzero => absurd hexponent hzero

/-- A double that is put into its 64 bits and taken out again keeps a bound up to which the format has finite doubles. -/
theorem Below.unpack_pack (h : Below bound x) (hlow : -1022 ≤ bound) (hhigh : bound ≤ 972) :
    Below bound (Float.Model.unpack (Float.Model.pack x)) := by
  have hunpack : Float.Model.unpack (Float.Model.pack x) = UnpackedFloat.unpack .binary64 (UnpackedFloat.pack .binary64 x) :=
    rfl
  rw [hunpack]
  cases x with
  | infinity | notANumber => exact h.elim
  | zero sign => exact below_unpack_subnormal hlow sign _
  | finite sign m e hm =>
    have he : e < bound := Under.exponent_lt h hm
    obtain ⟨bits, hbits, hend⟩ := h
    have hlog := (Nat.log2_lt (Nat.ne_of_gt hm)).mpr hbits
    have hbias : Format.binary64.exponentBias = 1023 := rfl
    unfold UnpackedFloat.pack
    dsimp only
    rw [hbias, if_neg (by omega)]
    split
    · -- A mantissa of 53 bits: the exponent keeps its place in the bits.
      rename_i hnormal
      have hnormal : m.log2 + 1 = 53 := hnormal
      set field := (e + (1023 : Nat) + (52 : Nat)).toNat with hfield
      have htoNat : (BitVec.ofNat 11 field).toNat = field := by
        rw [BitVec.toNat_ofNat, Nat.mod_eq_of_lt (by omega)]
      have hexponent : unpackExponent (packComponents .binary64 sign (BitVec.ofNat 11 field) (BitVec.ofNat 52 m)) =
          BitVec.ofNat 11 field := unpackExponent_packComponents
      refine below_unpack ?_ hlow fun hzero => ?_
      · have hones : (-1#11).toNat = 2047 := rfl
        rw [hexponent, ne_eq, ← BitVec.toNat_inj, htoNat]
        omega
      · rw [hexponent, ne_eq, ← BitVec.toNat_inj, htoNat, BitVec.toNat_zero] at hzero
        rw [hexponent, htoNat]
        omega
    · exact below_unpack_subnormal hlow sign _

/-! ## Operations -/

/-- A product lies below the product of the bounds, but for rounding. -/
theorem Below.mul (h : Below bound x) (h' : Below bound' y) (hbound : -1074 ≤ bound + bound') :
    Below (bound + bound' + 1) (UnpackedFloat.mul .binary64 x y) := by
  cases x with
  | infinity | notANumber => exact h.elim
  | zero =>
    cases y with
    | infinity | notANumber => exact h'.elim
    | zero | finite => trivial
  | finite =>
    cases y with
    | infinity | notANumber => exact h'.elim
    | zero => trivial
    | finite => exact below_roundWithAccuracy (Under.mul h h') hbound _ _

/-- The quotient that a division begins with. -/
theorem Under.divCore (h : Under bound m e) (hn : 0 < n) (hbound : -1074 ≤ bound - totalExponent n e' + 1) :
    Under (bound - totalExponent n e' + 1) (UnpackedFloat.divCore .binary64 m e n e').1
      (UnpackedFloat.divCore .binary64 m e n e').2.1 := by
  have htotal := h.totalExponent_le
  have hdivisor : totalExponent n e' = n.log2 + 1 + e' := rfl
  obtain ⟨bits, hbits, hend⟩ := h
  rw [UnpackedFloat.divCore, targetExponent_binary64]
  dsimp only
  set target := min (e - e') (max (totalExponent m e - totalExponent n e' - 53) (-1074)) with htarget
  set shift := (e - e' - target).toNat with hshift
  exact ⟨bits + shift - n.log2, div_lt_two_pow (shiftLeft_lt_two_pow hbits shift) (Nat.ne_of_gt hn), by omega⟩

/-- A quotient lies below the quotient of the bound and the divisor, but for rounding. -/
theorem Below.div (h : Below bound x) {sign : Sign} (hn : 0 < n) (hbound : -1074 ≤ bound - totalExponent n e' + 1) :
    Below (bound - totalExponent n e' + 2) (UnpackedFloat.div .binary64 x (.finite sign n e' hn)) := by
  cases x with
  | infinity | notANumber => exact h.elim
  | zero => trivial
  | finite _ m e hm =>
    have hround := below_roundWithAccuracy (Under.divCore h hn hbound) hbound
    exact (hround _ _).mono (by omega)

/-! ## The risk of a number of candidates -/

/-- Rounding a natural number doubles it at most. -/
theorem below_ofNat (hn : n < 2 ^ 64) : Below 65 (UnpackedFloat.ofNat .binary64 n) := by
  have hunder : Under 64 n 0 := ⟨64, hn, by decide⟩
  rw [UnpackedFloat.ofNat, UnpackedFloat.ofInt, UnpackedFloat.normalize]
  split
  · rename_i hnegative
    have hnegative := compare_lt_iff_lt.mp hnegative
    omega
  · trivial
  · rw [UnpackedFloat.round, decreaseExponent]
    dsimp only
    rw [Int.toNat_natCast]
    exact below_roundWithAccuracy (hunder.shiftLeft _) (by decide) _ _

/-- Reading a natural number in decimal doubles it twice at most. -/
theorem below_ofScientific (hn : n < 2 ^ 64) : Below 66 (UnpackedFloat.ofScientific .binary64 n 0) := by
  have hbits : (2 ^ Format.binary64.exponentBits : Int) = 2048 := rfl
  unfold UnpackedFloat.ofScientific
  by_cases hzero : n = 0
  · rw [dif_pos hzero]
    trivial
  · have hdigits : Under 64 (n <<< Format.binary64.mantissaBits) (0 - Format.binary64.mantissaBits) :=
      Under.shiftLeft ⟨64, hn, by decide⟩ _
    have hpower : Under 1 (10 ^ (0 : Int).toNat) 0 := ⟨1, by decide, by decide⟩
    rw [Int.zero_sub] at hdigits
    have hproduct : Under 65 _ _ := hdigits.mul hpower
    rw [dif_neg hzero, if_neg (by decide), if_neg (by omega), if_pos (Int.le_refl 0)]
    unfold UnpackedFloat.mul
    dsimp only
    -- As numerals the two mantissas would be multiplied out.
    generalize n <<< Format.binary64.mantissaBits * 10 ^ (0 : Int).toNat = product at hproduct ⊢
    exact below_roundWithAccuracy hproduct (by decide) _ _

/-- Natural numbers of 64 bits as doubles. -/
theorem below_unpack_ofNat (hn : n < 2 ^ 64) : Below 67 (Float.ofNat n).toModel.unpack := by
  have hofNat : Float.ofNat n = Float.ofScientific n false 0 := rfl
  rw [hofNat, Float.ofScientific]
  split
  · have hconverted : Below 65 (Float.Model.ofUInt64 n.toUInt64).unpack := by
      refine Below.unpack_pack (below_ofNat ?_) (by decide) (by decide)
      exact n.toUInt64.toNat_lt
    have hone : Below 1 (Float.ofBits 0x3FF0000000000000).toModel.unpack := by
      have hunpack : (Float.ofBits 0x3FF0000000000000).toModel.unpack = .finite .positive (2 ^ 52) (-52) (by decide) := rfl
      rw [hunpack]
      exact ⟨53, by decide, by decide⟩
    exact (hconverted.mul hone (by decide)).unpack_pack (by decide) (by decide)
  · exact ((below_ofScientific hn).mono (by decide)).unpack_pack (by decide) (by decide)

/-- The risk of less than 2^64 candidates is a finite number. -/
theorem isFinite_falsePositives {tried : Nat} (h : tried < 2 ^ 64) : (Repair.falsePositives tried).isFinite = true := by
  have hdivisor : (4294967296.0 : Float).toModel.unpack = .finite .positive (2 ^ 52) (-20) (by decide) := rfl
  have hquotient : (Repair.falsePositives tried).toModel = Float.Model.pack
      (UnpackedFloat.div .binary64 (Float.ofNat tried).toModel.unpack (4294967296.0 : Float).toModel.unpack) := rfl
  have hbelow : Below 36 (Repair.falsePositives tried).toModel.unpack := by
    rw [hquotient, hdivisor]
    exact ((below_unpack_ofNat h).div (by decide) (by decide)).unpack_pack (by decide) (by decide)
  exact hbelow.isFinite

end KeyText.Decimal
