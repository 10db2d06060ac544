import Mathlib

namespace NodeEditor.Decimal

open Float.Model Float.Model.UnpackedFloat

-- A number that is not infinite, with as many digits as a double has and an exponent up to a bound.
inductive Fits (b : Int) : UnpackedFloat → Prop where
  | zero {s} : Fits b (.zero s)
  | finite {s m e hm} : m < 2 ^ 53 → e ≤ b → Fits b (.finite s m e hm)

-- A number from one up, whose first digit is not zero, or infinity.
inductive Great : UnpackedFloat → Prop where
  | infinity {s} : Great (.infinity s)
  | finite {s m e hm} : m.log2 = 52 → -52 ≤ e → Great (.finite s m e hm)

instance : DecidablePred Great
  | .infinity _      => isTrue .infinity
  | .finite _ m e _  => decidable_of_iff (m.log2 = 52 ∧ -52 ≤ e)
      ⟨fun ⟨hl, he⟩ => .finite hl he, fun | .finite hl he => ⟨hl, he⟩⟩
  | .zero _          => isFalse nofun
  | .notANumber      => isFalse nofun

variable {s : Sign} {m n k : Nat} {e b c : Int} {a : Accuracy} {u v : UnpackedFloat}

theorem Fits.isFinite (h : Fits b u) : u.isFinite := by
  cases h <;> rfl

theorem Fits.mono (h : Fits b u) (hb : b ≤ c) : Fits c u := by
  cases h with
  | zero         => exact .zero
  | finite hm he => exact .finite hm (Int.le_trans he hb)

theorem Fits.neg (h : Fits b u) : Fits b u.neg := by
  cases h with
  | zero         => exact .zero
  | finite hm he => exact .finite hm he

theorem log2_le_of_lt (hm : m < 2 ^ (k + 1)) : m.log2 ≤ k := by
  by_cases hz : m = 0
  case pos => simp [hz]
  case neg => exact Nat.lt_succ_iff.mp <| (Nat.log2_lt hz).mpr hm

section Rounding

theorem mantissa_shiftRight (em : ExtendedMantissa) (n : Nat) :
    (em >>> n).mantissa = em.mantissa / 2 ^ n := by
  induction n with
  | zero      => simp [HShiftRight.hShiftRight, Nat.repeat]
  | succ n ih =>
    have hs : (em >>> (n + 1)).mantissa = (em >>> n).mantissa / 2 := rfl
    rw [hs, ih, Nat.div_div_eq_div_mul, Nat.pow_succ]

theorem mantissa_ofMantissaAndAccuracy :
    (ExtendedMantissa.ofMantissaAndAccuracy m a).mantissa = m := by
  unfold ExtendedMantissa.ofMantissaAndAccuracy
  split <;> rfl

theorem le_roundToNearestEven : m ≤ a.roundToNearestEven m := by
  unfold Accuracy.roundToNearestEven
  split <;> omega

theorem roundToNearestEven_le : a.roundToNearestEven m ≤ m + 1 := by
  unfold Accuracy.roundToNearestEven
  split <;> omega

-- How many of the last digits a double has no room for.
def excess (m : Nat) (e : Int) : Nat :=
  (max (m.log2 + 1 + e - 53) (-1074) - e).toNat

theorem shiftToTargetExponent_eq :
    (shiftToTargetExponent Format.binary64 m e a).1.mantissa = m / 2 ^ excess m e ∧
    (shiftToTargetExponent Format.binary64 m e a).2 = e + excess m e := by
  have ht : Format.binary64.targetExponent (totalExponent m e) =
      max (m.log2 + 1 + e - 53) (-1074) := rfl
  simp only [shiftToTargetExponent, shiftToExponent, mantissa_shiftRight,
    mantissa_ofMantissaAndAccuracy, excess, ht, and_self]

theorem div_excess_lt : m / 2 ^ excess m e < 2 ^ 53 := by
  refine Nat.div_lt_of_lt_mul <| Nat.lt_log2_self.trans_le ?_
  rw [← Nat.pow_add]
  exact Nat.pow_le_pow_right (by decide) (by unfold excess; omega)

theorem excess_le (hm : m < 2 ^ k) (hk : e + k ≤ b + 53) (he : e ≤ b) (hb : -1074 ≤ b) :
    e + excess m e ≤ b := by
  have hl : m.log2 = 0 ∨ m.log2 < k := by
    by_cases h : m = 0
    · exact .inl <| by rw [h]; rfl
    · exact .inr <| (Nat.log2_lt h).mpr hm
  unfold excess
  omega

-- Rounding drops digits twice, as the first time may carry into one digit more.
theorem exists_roundWithAccuracy (s : Sign) (m : Nat) (e : Int) (a : Accuracy) :
    ∃ r e₁, m / 2 ^ excess m e ≤ r ∧ r ≤ m / 2 ^ excess m e + 1 ∧ e₁ = e + excess m e ∧
      ((r / 2 ^ excess r e₁ = 0 ∧ roundWithAccuracy Format.binary64 s m e a = .zero s) ∨
        ∃ h, roundWithAccuracy Format.binary64 s m e a =
          .finite s (r / 2 ^ excess r e₁) (e₁ + excess r e₁) h) := by
  have ⟨hm₁, he₁⟩ := shiftToTargetExponent_eq (m := m) (e := e) (a := a)
  unfold roundWithAccuracy
  generalize shiftToTargetExponent Format.binary64 m e a = p at hm₁ he₁
  obtain ⟨em, e₁⟩ := p
  have ⟨hm₂, he₂⟩ := shiftToTargetExponent_eq (m := em.roundedMantissa) (e := e₁) (a := .exact)
  refine ⟨em.roundedMantissa, e₁, hm₁ ▸ le_roundToNearestEven, hm₁ ▸ roundToNearestEven_le, he₁, ?_⟩
  simp only [← hm₂, ← he₂]
  split
  case isTrue hz  => exact .inl ⟨hz, rfl⟩
  case isFalse hz => exact .inr ⟨Nat.pos_of_ne_zero hz, rfl⟩

theorem fits_roundWithAccuracy (hm : m < 2 ^ k) (hk : e + k ≤ b + 53) (he : e ≤ b)
    (hb : -1074 ≤ b) :
    Fits (b + 1) (roundWithAccuracy Format.binary64 s m e a) := by
  obtain ⟨r, e₁, -, hr, rfl, ⟨-, hz⟩ | ⟨_, hf⟩⟩ := exists_roundWithAccuracy s m e a
  · exact hz ▸ .zero
  · have hr : r < 2 ^ 54 := by
      have := div_excess_lt (m := m) (e := e)
      omega
    have he₁ := excess_le hm hk he hb
    exact hf ▸ .finite div_excess_lt (excess_le hr (by omega) (by omega) (by omega))

theorem isFinite_roundWithAccuracy : (roundWithAccuracy Format.binary64 s m e a).isFinite := by
  obtain ⟨_, _, -, -, -, ⟨-, h⟩ | ⟨_, h⟩⟩ := exists_roundWithAccuracy s m e a
  · exact h ▸ rfl
  · exact h ▸ rfl

-- The first digit stays where no digit is missing.
theorem excess_eq (hm : 52 ≤ m.log2) (he : -1074 ≤ e) :
    excess m e = m.log2 - 52 ∧ 2 ^ 52 ≤ m / 2 ^ excess m e := by
  have hx : excess m e = m.log2 - 52 := by
    unfold excess
    omega
  refine ⟨hx, (Nat.le_div_iff_mul_le (Nat.two_pow_pos _)).mpr ?_⟩
  rw [← Nat.pow_add, hx, Nat.add_sub_cancel' hm]
  refine Nat.log2_self_le ?_
  rintro rfl
  cases hm

theorem great_roundWithAccuracy (hm : 52 ≤ m.log2) (he : -1074 ≤ e) (hl : 0 ≤ e + m.log2) :
    Great (roundWithAccuracy Format.binary64 s m e a) := by
  have ⟨hx, hm₁⟩ := excess_eq hm he
  obtain ⟨r, e₁, hr, -, he₁, h⟩ := exists_roundWithAccuracy s m e a
  have hr : 52 ≤ r.log2 := (Nat.le_log2 (by omega)).mpr <| hm₁.trans hr
  have ⟨_, hm₂⟩ := excess_eq hr (e := e₁) (by omega)
  obtain ⟨hz, -⟩ | ⟨hp, hf⟩ := h
  · omega
  · exact hf ▸ .finite ((Nat.log2_eq_iff hp.ne').mpr ⟨hm₂, div_excess_lt⟩) (by omega)

end Rounding

section Packing

variable {bits : BitVec Format.binary64.numBits} {biased : BitVec 11} {fraction : BitVec 52}

theorem unpack_packedInfinity :
    UnpackedFloat.unpack Format.binary64 (packedInfinity Format.binary64 s) = .infinity s := by
  unfold UnpackedFloat.unpack packedInfinity
  simp only [unpackExponent_packComponents, unpackMantissa_packComponents,
    unpackSign_packComponents, Sign.ofBitVec_toBitVec]
  rfl

theorem not_special (h : biased.toNat < 2047) : biased ≠ -1#11 := by
  rintro rfl
  revert h
  decide

-- A double has at most 53 digits.
theorem fits_unpack (hi : unpackExponent bits ≠ -1#11)
    (he : (unpackExponent bits).toNat - 1075 ≤ b) (hb : -1074 ≤ b) :
    Fits b (UnpackedFloat.unpack Format.binary64 bits) := by
  have ht : (1#1 ++ unpackMantissa bits).toNat < 2 ^ 53 := (1#1 ++ unpackMantissa bits).isLt
  have hf : (unpackMantissa bits).toNat < 2 ^ 52 := (unpackMantissa bits).isLt
  unfold UnpackedFloat.unpack
  simp only [if_neg hi, Format.exponentBias]
  split
  case isTrue hz =>
    split
    · exact .zero
    · exact .finite (by omega) (by simpa [hz] using hb)
  case isFalse =>
    exact .finite ht (by simpa using he)

theorem fits_of_isFinite (h : (UnpackedFloat.unpack Format.binary64 bits).isFinite) :
    Fits 971 (UnpackedFloat.unpack Format.binary64 bits) := by
  have hi : unpackExponent bits ≠ -1#11 := fun hi => by
    unfold UnpackedFloat.unpack at h
    simp only [if_pos hi] at h
    split at h <;> cases h
  have hs : (unpackExponent bits).toNat ≠ 2047 := fun hs => hi <| BitVec.eq_of_toNat_eq hs
  have hl : (unpackExponent bits).toNat < 2048 := (unpackExponent bits).isLt
  exact fits_unpack hi (by omega) (by decide)

theorem fits_unpack_packComponents (hi : biased.toNat < 2047) (he : biased.toNat - 1075 ≤ b)
    (hb : -1074 ≤ b) : Fits b
      (UnpackedFloat.unpack Format.binary64 (packComponents Format.binary64 s biased fraction)) :=
  fits_unpack (unpackExponent_packComponents ▸ not_special hi)
    (unpackExponent_packComponents ▸ he) hb

theorem great_unpack_packComponents (hi : biased.toNat < 2047) (he : 1023 ≤ biased.toNat) : Great
    (UnpackedFloat.unpack Format.binary64 (packComponents Format.binary64 s biased fraction)) := by
  have hz : biased ≠ 0#11 := by
    rintro rfl
    revert he
    decide
  have hl : (1#1 ++ fraction).toNat.log2 = 52 := by
    have hf := fraction.isLt
    have ht : (1#1 ++ fraction).toNat = 2 ^ 52 + fraction.toNat := by
      rw [BitVec.toNat_append, ← Nat.shiftLeft_add_eq_or_of_lt hf]
      rfl
    exact (Nat.log2_eq_iff (by omega)).mpr (by omega)
  unfold UnpackedFloat.unpack
  simp only [unpackExponent_packComponents, unpackMantissa_packComponents, if_neg (not_special hi),
    if_neg hz, Format.exponentBias]
  exact .finite hl (by norm_num; omega)

theorem pack_finite {hm : 0 < m} : UnpackedFloat.pack Format.binary64 (.finite s m e hm) =
    if 2048 ≤ (e + 1075).toNat + 1 then packedInfinity Format.binary64 s
    else if m.log2 + 1 = 53 then
      packComponents Format.binary64 s (BitVec.ofNat 11 (e + 1075).toNat) (BitVec.ofNat 52 m)
    else packComponents Format.binary64 s 0#11 (BitVec.ofNat 52 m) := by
  rw [show e + 1075 = e + (1023 : Nat) + (52 : Nat) by omega]
  rfl

-- What is packed reads back as it is up to the greatest double, and as infinity from there on.
theorem fits_unpack_pack (h : Fits b u) (hl : -1074 ≤ b) (hu : b ≤ 971) :
    Fits b (UnpackedFloat.unpack Format.binary64 (u.pack Format.binary64)) := by
  cases h with
  | zero        => exact fits_unpack_packComponents (by decide) (by simp; omega) hl
  | finite _ he =>
    rw [pack_finite, if_neg (by omega)]
    split
    · refine fits_unpack_packComponents ?_ ?_ hl <;> simp only [BitVec.toNat_ofNat] <;> omega
    · exact fits_unpack_packComponents (by decide) (by simp; omega) hl

theorem great_unpack_pack (h : Great u) :
    Great (UnpackedFloat.unpack Format.binary64 (u.pack Format.binary64)) := by
  cases h with
  | infinity =>
    rw [UnpackedFloat.pack, unpack_packedInfinity]
    exact .infinity
  | finite hl he =>
    simp only [pack_finite, hl, if_true]
    split
    · rw [unpack_packedInfinity]
      exact .infinity
    · refine great_unpack_packComponents ?_ ?_ <;> simp only [BitVec.toNat_ofNat] <;> omega

theorem isFinite_or_isInf_unpack_pack (h : u.isFinite) :
    (UnpackedFloat.unpack Format.binary64 (u.pack Format.binary64)).isFinite ∨
    (UnpackedFloat.unpack Format.binary64 (u.pack Format.binary64)).isInf := by
  cases u with
  | infinity     => cases h
  | notANumber   => cases h
  | zero         =>
    rw [UnpackedFloat.pack, unpack_packedZero]
    exact .inl rfl
  | finite s m e =>
    rw [pack_finite]
    split
    · rw [unpack_packedInfinity]
      exact .inr rfl
    · left
      split
      · refine (fits_unpack_packComponents (b := 971) ?_ ?_ (by decide)).isFinite <;>
          simp only [BitVec.toNat_ofNat] <;> omega
      · exact (fits_unpack_packComponents (b := 971) (by decide) (by simp) (by decide)).isFinite

end Packing

section Arithmetic

theorem fits_mul (hu : Fits b u) (hv : Fits c v) (hb : -1074 ≤ b + c) :
    Fits (b + c + 53 + 1) (u.mul Format.binary64 v) := by
  cases hu with
  | zero => cases hv <;> exact .zero
  | finite hm he =>
    cases hv with
    | zero => exact .zero
    | finite hm' he' =>
      have hp := Nat.mul_lt_mul'' hm hm'
      rw [← Nat.pow_add] at hp
      refine fits_roundWithAccuracy (b := b + c + 53) hp ?_ ?_ ?_ <;> omega

theorem isFinite_mul (hu : u.isFinite) (hv : v.isFinite) : (u.mul Format.binary64 v).isFinite := by
  cases u with
  | zero   => cases v <;> first | rfl | cases hv
  | finite =>
    cases v with
    | zero   => rfl
    | finite => exact isFinite_roundWithAccuracy
    | _      => cases hv
  | _      => cases hu

-- What is divided by a number from one up stays below the same bound, but for rounding.
theorem divCore_lt {m' : Nat} {e' : Int} (hm : m < 2 ^ 53) (he : e ≤ b) (hl : m'.log2 = 52)
    (he' : -52 ≤ e') (hb : -1074 ≤ b) : ∃ k : Nat,
      (divCore Format.binary64 m e m' e').1 < 2 ^ k ∧
      (divCore Format.binary64 m e m' e').2.1 + k ≤ b + 53 ∧
      (divCore Format.binary64 m e m' e').2.1 ≤ b := by
  have hlog : m.log2 ≤ 52 := log2_le_of_lt hm
  have hm' : 2 ^ 52 ≤ m' := (Nat.le_log2 (by rintro rfl; cases hl)).mp hl.ge
  have ht : Format.binary64.targetExponent (totalExponent m e - totalExponent m' e') =
      max (m.log2 + 1 + e - (53 + e') - 53) (-1074) := by
    rw [totalExponent, totalExponent, hl]
    rfl
  simp only [divCore, ht]
  generalize hx : (e - e' - min (e - e') (max (m.log2 + 1 + e - (53 + e') - 53) (-1074))).toNat = x
  refine ⟨m.log2 + 1 + x - 52, ?_, by omega, by omega⟩
  refine Nat.div_lt_of_lt_mul ?_
  calc m <<< x
    _ < 2 ^ (m.log2 + 1) * 2 ^ x := by
      rw [Nat.shiftLeft_eq]
      exact Nat.mul_lt_mul_of_pos_right Nat.lt_log2_self (Nat.two_pow_pos x)
    _ ≤ 2 ^ 52 * 2 ^ (m.log2 + 1 + x - 52) := by
      rw [← Nat.pow_add, ← Nat.pow_add]
      exact Nat.pow_le_pow_right (by decide) (by omega)
    _ ≤ m' * 2 ^ (m.log2 + 1 + x - 52) := Nat.mul_le_mul_right _ hm'

theorem fits_div (hu : Fits b u) (hv : Great v) (hb : -1074 ≤ b) :
    Fits (b + 1) (u.div Format.binary64 v) := by
  cases hu with
  | zero => cases hv <;> exact .zero
  | finite hm he =>
    cases hv with
    | infinity => exact .zero
    | finite hl he' =>
      have ⟨_, hq, hk, ht⟩ := divCore_lt hm he hl he' hb
      exact fits_roundWithAccuracy hq hk ht hb

end Arithmetic

section Numbers

variable {f g : Float}

theorem fits_round (h : m < 2 ^ 64) : Fits 12 (UnpackedFloat.round Format.binary64 s m 0) := by
  generalize hx : (0 - Format.binary64.targetExponent (totalExponent m 0)).toNat = x
  have hm : m <<< x < 2 ^ (64 + x) := by
    rw [Nat.shiftLeft_eq, Nat.pow_add]
    exact Nat.mul_lt_mul_of_pos_right h (Nat.two_pow_pos x)
  have hr := fits_roundWithAccuracy (s := s) (e := 0 - x) (b := 11) (a := .exact) hm
    (by omega) (by omega) (by decide)
  subst hx
  exact hr

theorem fits_ofNat (h : n < 2 ^ 64) : Fits 12 (UnpackedFloat.ofNat Format.binary64 n) := by
  unfold UnpackedFloat.ofNat UnpackedFloat.ofInt UnpackedFloat.normalize
  split
  · exact fits_round (by omega)
  · exact .zero
  · exact fits_round (by omega)

theorem ofScientific_eq (hm : m ≠ 0) (hn : n ≤ 2048) :
    UnpackedFloat.ofScientific Format.binary64 m n =
      roundWithAccuracy Format.binary64 .positive (m * 2 ^ 53 * 10 ^ n) (-53) .exact := by
  unfold UnpackedFloat.ofScientific
  rw [dif_neg hm, if_neg (by norm_num; omega), if_neg (by norm_num; omega), if_pos (by omega)]
  simp only [UnpackedFloat.mul, Nat.shiftLeft_eq]
  rfl

theorem fits_ofScientific (h : m * 10 ^ n < 2 ^ k) (hn : n ≤ 2048) :
    Fits (k - 53 + 1) (UnpackedFloat.ofScientific Format.binary64 m n) := by
  by_cases hm : m = 0
  case pos =>
    unfold UnpackedFloat.ofScientific
    rw [dif_pos hm]
    exact .zero
  case neg =>
    have hp : m * 2 ^ 53 * 10 ^ n < 2 ^ (53 + k) := by
      rw [Nat.mul_comm m, Nat.mul_assoc, Nat.pow_add]
      exact Nat.mul_lt_mul_of_pos_left h (by decide)
    rw [ofScientific_eq hm hn]
    exact fits_roundWithAccuracy hp (by omega) (by omega) (by omega)

theorem great_ofScientific (hm : m ≠ 0) (hn : n ≤ 2048) :
    Great (UnpackedFloat.ofScientific Format.binary64 m n) := by
  have hl : 53 ≤ (m * 2 ^ 53 * 10 ^ n).log2 := by
    have hp : 0 < m * 10 ^ n := Nat.mul_pos (Nat.pos_of_ne_zero hm) (Nat.pow_pos (by decide))
    have he : m * 2 ^ 53 * 10 ^ n = 2 ^ 53 * (m * 10 ^ n) := by ring
    rw [he]
    exact (Nat.le_log2 (by omega)).mpr <| Nat.le_mul_of_pos_right _ hp
  rw [ofScientific_eq hm hn]
  exact great_roundWithAccuracy (by omega) (by decide) (by omega)

-- Below `2 ^ 53` a number is taken as it is and multiplied by one, above it is rounded.
theorem fits_unpack_ofNat (h : n < 2 ^ 64) : Fits 14 (Float.ofNat n).toModel.unpack := by
  change Fits 14 (Float.ofScientific n false 0).toModel.unpack
  unfold Float.ofScientific
  split
  case isTrue =>
    have hs : n.toUInt64.toNat < 2 ^ 64 := n.toUInt64.toNat_lt
    have hn := fits_unpack_pack (fits_ofNat hs) (by decide) (by decide)
    have hu : Float.exactlyRepresentablePowersOfTen[0].toModel.unpack =
      .finite .positive (2 ^ 52) (-52) (by decide) := rfl
    have hone : Fits (-52) Float.exactlyRepresentablePowersOfTen[0].toModel.unpack :=
      hu ▸ .finite (by decide) le_rfl
    exact fits_unpack_pack (fits_mul hn hone (by decide)) (by decide) (by decide)
  case isFalse =>
    have hp := fits_ofScientific (m := n) (n := 0) (k := 64) (by omega) (by decide)
    exact (fits_unpack_pack hp (by decide) (by decide)).mono (by decide)

theorem isFinite_neg (h : f.isFinite) : (-f).isFinite :=
  (fits_unpack_pack (fits_of_isFinite h).neg (by decide) (by decide)).isFinite

-- The integers that are stored in 64 bits are far below the greatest double.
theorem isFinite_ofInt {n : Int} (h : n.natAbs < 2 ^ 64) : (Float.ofInt n).isFinite := by
  cases n with
  | ofNat n   => exact (fits_unpack_ofNat h).isFinite
  | negSucc n => exact isFinite_neg (fits_unpack_ofNat h).isFinite

theorem fits_unpack_div (hf : Fits b f.toModel.unpack) (hg : Great g.toModel.unpack)
    (hl : -1074 ≤ b) (hu : b < 971) : Fits (b + 1) (f / g).toModel.unpack :=
  fits_unpack_pack (fits_div hf hg hl) (by omega) (by omega)

theorem isFinite_mul_of_not_isInf (hf : f.isFinite) (hg : g.isFinite) (h : (f * g).isInf = false) :
    (f * g).isFinite := by
  refine (isFinite_or_isInf_unpack_pack (isFinite_mul hf hg)).resolve_right fun hi => ?_
  have hi : (f * g).isInf = true := hi
  rw [h] at hi
  cases hi

-- Of the powers of ten the first are looked up, and the last is just below the greatest double.

theorem great_powerOfTen (h : n ≤ 2048) : Great (Float.ofScientific 1 false n).toModel.unpack := by
  by_cases hn : n ≤ 22
  case pos =>
    have ht : ∀ n ≤ 22, Great (Float.ofScientific 1 false n).toModel.unpack := by decide +kernel
    exact ht n hn
  case neg =>
    unfold Float.ofScientific
    rw [dif_neg (by omega)]
    exact great_unpack_pack <| great_ofScientific (by decide) h

theorem isFinite_powerOfTen (h : n ≤ 308) : (Float.ofScientific 1 false n).isFinite := by
  by_cases hn : n ≤ 22 ∨ 300 < n
  case pos =>
    have ht : ∀ n ≤ 308, n ≤ 22 ∨ 300 < n → (Float.ofScientific 1 false n).isFinite := by
      decide +kernel
    exact ht n h hn
  case neg =>
    have hp : 1 * 10 ^ n < 2 ^ (10 * (n / 3 + 1)) := by
      rw [Nat.one_mul, Nat.pow_mul]
      calc 10 ^ n
        _ ≤ 10 ^ (3 * (n / 3 + 1)) := Nat.pow_le_pow_right (by decide) (by omega)
        _ = (10 ^ 3) ^ (n / 3 + 1) := Nat.pow_mul ..
        _ < (2 ^ 10) ^ (n / 3 + 1) := Nat.pow_lt_pow_left (by decide) (Nat.succ_ne_zero _)
    unfold Float.ofScientific
    rw [dif_neg (by omega)]
    exact (fits_unpack_pack (fits_ofScientific hp (by omega)) (by omega) (by omega)).isFinite

end Numbers

end NodeEditor.Decimal
