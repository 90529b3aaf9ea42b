import Mathlib
import Telemetry.Time

/-! Whole numbers as doubles. Below `2 ^ 53` a whole number is a double exactly: moved up to the
full width of 53 bits it is the significand, which no rounding changes, and a point in time read
from it is that number of seconds. -/

namespace Telemetry

namespace Binary

open Float.Model Float.Model.UnpackedFloat

/-! ### Full width -/

/-- A number moved up to the width of a significand. -/
def lift (n : Nat) : Nat := n * 2 ^ (52 - n.log2)

theorem log2_mul_two_pow {m : Nat} (hm : m ≠ 0) (k : Nat) : (m * 2 ^ k).log2 = m.log2 + k := by
  have hp : m * 2 ^ k ≠ 0 := Nat.mul_ne_zero hm (Nat.ne_of_gt (Nat.pow_pos (by decide)))
  obtain ⟨lo, hi⟩ := (Nat.log2_eq_iff hm).mp rfl
  rw [Nat.log2_eq_iff hp]
  constructor
  · rw [Nat.pow_add]
    exact Nat.mul_le_mul_right _ lo
  · rw [show m.log2 + k + 1 = m.log2 + 1 + k by omega, Nat.pow_add]
    exact Nat.mul_lt_mul_of_pos_right hi (Nat.pow_pos (by decide))

theorem log2_le_of_lt {n : Nat} (h0 : 0 < n) (h : n < 2 ^ 53) : n.log2 ≤ 52 := by
  have := (Nat.log2_lt (Nat.ne_of_gt h0)).mpr h
  omega

theorem lift_pos {n : Nat} (h0 : 0 < n) : 0 < lift n := Nat.mul_pos h0 (Nat.pow_pos (by decide))

theorem log2_lift {n : Nat} (h0 : 0 < n) (h : n < 2 ^ 53) : (lift n).log2 = 52 := by
  have := log2_le_of_lt h0 h
  rw [lift, log2_mul_two_pow (Nat.ne_of_gt h0)]
  omega

/-! ### Rounding -/

/-- Shifting zeros out is exact. -/
theorem shift_exact (m k : Nat) :
    (⟨m * 2 ^ k, false, false⟩ : ExtendedMantissa) >>> k = ⟨m, false, false⟩ := by
  show k.repeat ExtendedMantissa.shiftRightOne _ = _
  induction k generalizing m with
  | zero => simp [Nat.repeat]
  | succ k ih =>
    rw [Nat.repeat, show m * 2 ^ (k + 1) = (m * 2) * 2 ^ k by rw [Nat.pow_succ]; ac_rfl, ih]
    simp [ExtendedMantissa.shiftRightOne]

theorem shiftToTargetExponent_full {m : Nat} {e : Int} (hm : m.log2 = 52) (he : -1074 ≤ e)
    (k : Nat) :
    shiftToTargetExponent .binary64 (m * 2 ^ k) (e - k) .exact = (⟨m, false, false⟩, e) := by
  have hm0 : m ≠ 0 := by
    rintro rfl
    simp at hm
  have target : Format.binary64.targetExponent (totalExponent (m * 2 ^ k) (e - k)) = e := by
    simp only [Format.targetExponent, totalExponent, log2_mul_two_pow hm0, hm,
      Format.mantissaBits, Format.minExponent]
    omega
  rw [shiftToTargetExponent, target, shiftToExponent, show (e - (e - k)).toNat = k by omega]
  simp only [ExtendedMantissa.ofMantissaAndAccuracy, shift_exact]
  rw [show e - k + (k : Int) = e by omega]

/-- A significand of full width with zeros behind it is not rounded. -/
theorem roundWithAccuracy_full {m : Nat} {e : Int} (hm : m.log2 = 52) (he : -1074 ≤ e) (s : Sign)
    (k : Nat) (h0 : 0 < m) :
    roundWithAccuracy .binary64 s (m * 2 ^ k) (e - k) .exact = .finite s m e h0 := by
  have again := shiftToTargetExponent_full hm he 0
  rw [Nat.pow_zero, Nat.mul_one, show e - ((0 : Nat) : Int) = e by omega] at again
  simp only [roundWithAccuracy, shiftToTargetExponent_full hm he, ExtendedMantissa.roundedMantissa,
    ExtendedMantissa.accuracy, Accuracy.roundToNearestEven, again, dif_neg (Nat.ne_of_gt h0)]

theorem ofNat_eq_lift {n : Nat} (h0 : 0 < n) (h : n < 2 ^ 53) :
    UnpackedFloat.ofNat .binary64 n = .finite .positive (lift n) (n.log2 - 52) (lift_pos h0) := by
  have width := log2_le_of_lt h0 h
  have positive : compare (n : Int) 0 = .gt := Int.compare_eq_gt.mpr (by omega)
  have target : Format.binary64.targetExponent (totalExponent n 0) = n.log2 - 52 := by
    simp only [Format.targetExponent, totalExponent, Format.mantissaBits, Format.minExponent]
    omega
  have exact := roundWithAccuracy_full (log2_lift h0 h)
    (show (-1074 : Int) ≤ n.log2 - 52 by omega) .positive 0 (lift_pos h0)
  rw [UnpackedFloat.ofNat, UnpackedFloat.ofInt, UnpackedFloat.normalize]
  simp only [positive, Int.toNat_natCast, UnpackedFloat.round, target, decreaseExponent,
    Nat.shiftLeft_eq]
  rw [show (0 - ((n.log2 : Int) - 52)).toNat = 52 - n.log2 by omega, ← exact]
  simp only [lift, Nat.pow_zero, Nat.mul_one]
  congr 1
  omega

/-! ### Bits -/

theorem pack_full {m : Nat} {e : Int} (hm : m.log2 = 52) (lo : -1074 ≤ e) (hi : e ≤ 971)
    (h0 : 0 < m) (s : Sign) :
    UnpackedFloat.pack .binary64 (.finite s m e h0) =
      packComponents .binary64 s (BitVec.ofNat 11 (e + 1075).toNat) (BitVec.ofNat 52 m) := by
  have biased : (e + (Format.binary64.exponentBias : Int) + (52 : Nat)).toNat =
      (e + 1075).toNat := by
    simp only [Format.exponentBias]
    omega
  have width : m.log2 + 1 = Format.binary64.mantissaBits := by rw [hm]; rfl
  simp only [UnpackedFloat.pack]
  rw [biased, if_neg (show ¬ 2 ^ 11 ≤ (e + 1075).toNat + 1 by omega), if_pos width]

theorem unpackSign_packComponents (s : Sign) (e : BitVec 11) (m : BitVec 52) :
    unpackSign (packComponents .binary64 s e m) = s.toBitVec := by
  apply BitVec.eq_of_getLsbD_eq
  intro i hi
  obtain rfl : i = 0 := by omega
  simp only [unpackSign, packComponents, BitVec.getLsbD_cast, BitVec.getLsbD_extractLsb,
    BitVec.getLsbD_append]
  simp

/-- What is packed at full width is unpacked again. -/
theorem unpack_pack_full {m : Nat} {e : Int} (hm : m.log2 = 52) (lo : -1074 ≤ e) (hi : e ≤ 971)
    (h0 : 0 < m) (s : Sign) :
    UnpackedFloat.unpack .binary64 (UnpackedFloat.pack .binary64 (.finite s m e h0)) =
      .finite s m e h0 := by
  obtain ⟨low, high⟩ := (Nat.log2_eq_iff (Nat.ne_of_gt h0)).mp hm
  have field : (BitVec.ofNat 11 (e + 1075).toNat).toNat = (e + 1075).toNat := by
    rw [BitVec.toNat_ofNat]
    omega
  have ordinary : ∀ b : BitVec 11, b.toNat = 0 ∨ b.toNat = 2047 →
      BitVec.ofNat 11 (e + 1075).toNat ≠ b := by
    intro b hb he
    rw [← he, field] at hb
    omega
  have sign : Sign.ofBitVec s.toBitVec = s := by cases s <;> rfl
  have significand : (1#1 ++ BitVec.ofNat 52 m).toNat = m := by
    rw [BitVec.toNat_append, ← Nat.shiftLeft_add_eq_or_of_lt (BitVec.isLt _)]
    simp only [BitVec.toNat_ofNat, Nat.shiftLeft_eq]
    omega
  have exponent : ((BitVec.ofNat 11 (e + 1075).toNat).toNat : Int) -
      ((Format.binary64.exponentBias : Int) + (52 : Nat)) = e := by
    rw [field]
    simp only [Format.exponentBias]
    omega
  rw [pack_full hm lo hi]
  simp only [UnpackedFloat.unpack, unpackMantissa_packComponents, unpackExponent_packComponents,
    unpackSign_packComponents]
  rw [if_neg (ordinary _ (.inr rfl)), if_neg (ordinary _ (.inl rfl))]
  simp only [sign, significand, exponent]

theorem toNat_packComponents (b m : Nat) :
    (packComponents .binary64 .positive (BitVec.ofNat 11 b) (BitVec.ofNat 52 m)).toNat =
      b % 2 ^ 11 * 2 ^ 52 + m % 2 ^ 52 := by
  rw [packComponents, BitVec.toNat_append, ← Nat.shiftLeft_add_eq_or_of_lt (BitVec.isLt _),
    BitVec.toNat_append]
  simp [Sign.toBitVec, Nat.shiftLeft_eq]

/-- The bits of a whole number: it is read as a product with one, which is exact. -/
theorem toBits_ofNat {n : Nat} (h0 : 0 < n) (h : n < 2 ^ 53) :
    (Float.ofNat n).toBits.toNat = (n.log2 + 1023) * 2 ^ 52 + (lift n - 2 ^ 52) := by
  have width := log2_le_of_lt h0 h
  have full := log2_lift h0 h
  obtain ⟨low, high⟩ := (Nat.log2_eq_iff (Nat.ne_of_gt (lift_pos h0))).mp full
  have fast : Float.ofNat n = n.toUInt64.toFloat * Float.ofBits 0x3FF0000000000000 := by
    unfold Float.ofNat
    show Float.ofScientific n false 0 = _
    unfold Float.ofScientific
    rw [dif_pos ⟨h, by omega⟩]
    rfl
  have one : (Float.Model.ofBits 0x3FF0000000000000).unpack =
      .finite .positive (2 ^ 52) (-52) (by decide) := rfl
  have word : n.toUInt64.toNat = n := by
    show (UInt64.ofNat n).toNat = n
    exact UInt64.toNat_ofNat_of_lt' (Nat.lt_trans h (by decide))
  have operand : n.toUInt64.toFloat.toModel.unpack =
      .finite .positive (lift n) (n.log2 - 52) (lift_pos h0) := by
    show UnpackedFloat.unpack .binary64 (UnpackedFloat.pack .binary64
      (UnpackedFloat.ofNat .binary64 n.toUInt64.toNat)) = _
    rw [word, ofNat_eq_lift h0 h, unpack_pack_full full (by omega) (by omega)]
  have product : UnpackedFloat.mul .binary64
      (.finite .positive (lift n) (n.log2 - 52) (lift_pos h0))
      (.finite .positive (2 ^ 52) (-52) (by decide)) =
        .finite .positive (lift n) (n.log2 - 52) (lift_pos h0) :=
    roundWithAccuracy_full full (by omega) .positive 52 (lift_pos h0)
  have bits : (Float.ofNat n).toBits.toBitVec = UnpackedFloat.pack .binary64
      (.finite .positive (lift n) (n.log2 - 52) (lift_pos h0)) := by
    rw [fast, ← product, ← operand, ← one]
    rfl
  rw [← UInt64.toNat_toBitVec, bits, pack_full full (by omega) (by omega), toNat_packComponents]
  omega

/-! ### Parts -/

theorem ofFloat_ofNat {n : Nat} (h0 : 0 < n) (h : n < 2 ^ 53) :
    ofFloat (Float.ofNat n) = .finite false (lift n) (n.log2 - 52) := by
  have width := log2_le_of_lt h0 h
  obtain ⟨low, high⟩ := (Nat.log2_eq_iff (Nat.ne_of_gt (lift_pos h0))).mp (log2_lift h0 h)
  have bits := toBits_ofNat h0 h
  have fraction : (Float.ofNat n).toBits.toNat % Nat.pow 2 52 = lift n - 2 ^ 52 := by
    rw [bits, show Nat.pow 2 52 = 2 ^ 52 from rfl]
    omega
  have field : (Float.ofNat n).toBits.toNat / Nat.pow 2 52 % Nat.pow 2 11 = n.log2 + 1023 := by
    rw [bits, show Nat.pow 2 52 = 2 ^ 52 from rfl, show Nat.pow 2 11 = 2048 from rfl]
    omega
  have sign : (Float.ofNat n).toBits.toNat / Nat.pow 2 (52 + 11) % 2 = 0 := by
    rw [bits, show Nat.pow 2 (52 + 11) = 2 ^ 63 from rfl]
    omega
  have significand : Nat.pow 2 52 + (lift n - 2 ^ 52) = lift n := by
    rw [show Nat.pow 2 52 = 2 ^ 52 from rfl]
    omega
  have ordinary : ¬ n.log2 + 1023 = Nat.pow 2 11 - 1 := by
    rw [show Nat.pow 2 11 = 2048 from rfl]
    omega
  have least : FloatFormat.minExponent ⟨52, 11⟩ = -1074 := rfl
  simp only [ofFloat, ofBits, FloatFormat.double, fraction, field, sign]
  rw [if_neg ordinary, if_neg (by omega), significand, least,
    show -1074 + ((n.log2 + 1023 - 1 : Nat) : Int) = n.log2 - 52 by omega]
  rfl

theorem roundHalfEven_mul (n : Nat) {d : Nat} (hd : 0 < d) : roundHalfEven (n * d) d = n := by
  simp [roundHalfEven, Nat.mul_div_cancel _ hd, hd]

theorem scaledRound_lift (scale : Nat) {n : Nat} (width : n.log2 ≤ 52) :
    scaledRound scale (lift n) (n.log2 - 52) = n * scale := by
  unfold scaledRound
  split
  · have : n.log2 = 52 := by omega
    simp [lift, this]
  · rw [show (-((n.log2 : Int) - 52)).toNat = 52 - n.log2 by omega, lift,
      show n * 2 ^ (52 - n.log2) * scale = n * scale * 2 ^ (52 - n.log2) by ac_rfl]
    exact roundHalfEven_mul _ (Nat.pow_pos (by decide))

end Binary

/-- A whole number of seconds below `2 ^ 53` is read from its double without loss. -/
theorem Instant.ofFloat_ofInt {n : Nat} (h : n < 2 ^ 53) :
    ofFloat (Float.ofInt n) = .instant (.ofSeconds n) := by
  show readSeconds (.ofFloat (Float.ofNat n)) = _
  rcases Nat.eq_zero_or_pos n with rfl | h0
  · have bits : (Float.ofNat 0).toBits.toNat = 0 := rfl
    have zero : Binary.ofFloat (Float.ofNat 0) =
        .finite false 0 FloatFormat.double.minExponent := by
      rw [Binary.ofFloat, bits]
      rfl
    rw [zero]
    decide +kernel
  · have nanos := Binary.scaledRound_lift perSecond (Binary.log2_le_of_lt h0 h)
    have second : perSecond = 1000000000 := rfl
    have length : ¬ UInt64.size * perSecond ≤ n * perSecond := by
      rw [second, show UInt64.size = 2 ^ 64 from rfl]
      omega
    have early : n * perSecond / perSecond ≤ maxSeconds := by
      rw [Nat.mul_div_cancel _ (by decide), show maxSeconds = 2 ^ 63 - 1 from rfl]
      omega
    rw [Binary.ofFloat_ofNat h0 h]
    simp only [readSeconds, Bool.false_and, Bool.false_eq_true, if_false, nanos, if_neg length,
      if_pos early]
    rfl

end Telemetry
