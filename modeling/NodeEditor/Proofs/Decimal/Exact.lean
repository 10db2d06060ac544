import NodeEditor.Proofs.Decimal.Finite

namespace NodeEditor.Decimal

open Float.Model Float.Model.UnpackedFloat

-- The rational number that a finite double is.
def rational? : UnpackedFloat → Option ℚ
  | .zero _          => some 0
  | .finite s m e _  => some (s.apply m * 2 ^ e)
  | _                => none

-- A rational number with as many digits as a double has, of which the first is not zero.
inductive Normal (q : ℚ) : UnpackedFloat → Prop where
  | finite {s m e hm} : m.log2 = 52 → -1074 ≤ e → e ≤ 971 → q = s.apply m * 2 ^ e →
    Normal q (.finite s m e hm)

variable {s : Sign} {m n k : Nat} {e : Int} {q : ℚ} {u v : UnpackedFloat}

theorem Normal.rational?_eq (h : Normal q u) : rational? u = some q := by
  cases h with
  | finite _ _ _ hq => rw [rational?, hq]

theorem apply_neg (s : Sign) (i : Int) : (-s).apply i = -s.apply i := by
  cases s with
  | negative => exact (Int.neg_neg i).symm
  | positive => rfl

theorem apply_mul (s : Sign) (i j : Int) : s.apply (i * j) = s.apply i * j := by
  cases s with
  | negative => exact (Int.neg_mul i j).symm
  | positive => rfl

theorem Normal.neg (h : Normal q u) : Normal (-q) u.neg := by
  cases h with
  | @finite s _ _ _ hl he hu hq =>
    refine .finite hl he hu ?_
    rw [hq, apply_neg, Int.cast_neg, neg_mul]

section Rounding

-- No digit gets lost where those that are dropped are zeros.
theorem ofMantissaAndAccuracy_shiftRight (m x : Nat) :
    ExtendedMantissa.ofMantissaAndAccuracy (m * 2 ^ x) .exact >>> x =
      ExtendedMantissa.ofMantissaAndAccuracy m .exact := by
  induction x generalizing m with
  | zero      => rw [Nat.pow_zero, Nat.mul_one]; rfl
  | succ x ih =>
    have hs : ExtendedMantissa.ofMantissaAndAccuracy (m * 2 ^ (x + 1)) .exact >>> (x + 1) =
      (ExtendedMantissa.ofMantissaAndAccuracy (m * 2 ^ (x + 1)) .exact >>> x).shiftRightOne := rfl
    rw [hs, Nat.pow_succ', ← Nat.mul_assoc, ih]
    simp [ExtendedMantissa.shiftRightOne, ExtendedMantissa.ofMantissaAndAccuracy]

theorem excess_of_le (hm : 52 ≤ m.log2) (he : -1074 ≤ e + m.log2 - 52) :
    excess m e = m.log2 - 52 := by
  unfold excess
  omega

theorem log2_mul_two_pow (hm : m ≠ 0) (x : Nat) : (m * 2 ^ x).log2 = m.log2 + x := by
  induction x with
  | zero      => rw [Nat.pow_zero, Nat.mul_one, Nat.add_zero]
  | succ x ih =>
    have hp : m * 2 ^ x ≠ 0 := Nat.mul_ne_zero hm (Nat.two_pow_pos x).ne'
    rw [Nat.pow_succ', Nat.mul_left_comm, Nat.log2_two_mul hp, ih, Nat.add_assoc]

-- No digit after the first 53 is other than zero.
def Short (m : Nat) : Prop :=
  2 ^ (m.log2 - 52) ∣ m

theorem short_of_log2_le (hm : m.log2 ≤ 52) : Short m := by
  rw [Short, Nat.sub_eq_zero_of_le hm]
  exact Nat.one_dvd m

theorem Short.mul_two_pow (h : Short m) (x : Nat) : Short (m * 2 ^ x) := by
  by_cases hm : m = 0
  case pos => exact short_of_log2_le <| by simp [hm]
  case neg =>
    rw [Short, log2_mul_two_pow hm]
    refine (Nat.pow_dvd_pow 2 (n := m.log2 - 52 + x) (by omega)).trans ?_
    rw [Nat.pow_add]
    exact Nat.mul_dvd_mul_right h _

theorem shiftToTargetExponent_exact (hm : m = k * 2 ^ excess m e) :
    shiftToTargetExponent Format.binary64 m e .exact =
      (ExtendedMantissa.ofMantissaAndAccuracy k .exact, e + excess m e) := by
  have hs : shiftToTargetExponent Format.binary64 m e .exact =
    (ExtendedMantissa.ofMantissaAndAccuracy m .exact >>> excess m e, e + excess m e) := rfl
  rw [hs]
  generalize excess m e = x at hm ⊢
  rw [hm, ofMantissaAndAccuracy_shiftRight]

-- What has no more digits than a double is not changed by rounding.
theorem normal_roundWithAccuracy (hm : 52 ≤ m.log2) (hd : Short m)
    (he : -1074 ≤ e + m.log2 - 52) (hu : e + m.log2 ≤ 1023) :
    Normal (s.apply m * 2 ^ e) (roundWithAccuracy Format.binary64 s m e .exact) := by
  have hx := excess_of_le hm he
  obtain ⟨k, hk⟩ := hd
  rw [Nat.mul_comm, ← hx] at hk
  have hz : k ≠ 0 := by
    rintro rfl
    rw [Nat.zero_mul] at hk
    simp [hk] at hm
  have hl : m.log2 = k.log2 + excess m e := by
    rw [← log2_mul_two_pow hz, ← hk]
  have hy : excess k (e + excess m e) = 0 := by
    rw [excess_of_le (by omega) (by omega)]
    omega
  have hs₁ := shiftToTargetExponent_exact hk
  have hs₂ := shiftToTargetExponent_exact (m := k) (k := k) (e := e + excess m e) (by simp [hy])
  have hr : (ExtendedMantissa.ofMantissaAndAccuracy k .exact).roundedMantissa = k := rfl
  have hf : roundWithAccuracy Format.binary64 s m e .exact =
      .finite s k (e + excess m e) (Nat.pos_of_ne_zero hz) := by
    rw [roundWithAccuracy, hs₁]
    dsimp only
    simp only [hr, hs₂, hy, mantissa_ofMantissaAndAccuracy, hz, dif_neg, not_false_eq_true,
      Nat.cast_zero, add_zero]
  rw [hf]
  refine .finite (by omega) (by omega) (by omega) ?_
  generalize excess m e = x at hk
  rw [hk, Nat.cast_mul, apply_mul, Int.cast_mul, zpow_add₀ two_ne_zero, zpow_natCast]
  push_cast
  ring

theorem normal_roundWithAccuracy_scaled (hz : m ≠ 0) (hd : Short m) {x : Nat} (hx : 52 ≤ m.log2 + x)
    (he : -1074 ≤ e + m.log2 - 52) (hu : e + m.log2 ≤ 1023) :
    Normal (s.apply m * 2 ^ e)
      (roundWithAccuracy Format.binary64 s (m * 2 ^ x) (e - x) .exact) := by
  have hl := log2_mul_two_pow hz x
  have hr := normal_roundWithAccuracy (s := s) (m := m * 2 ^ x) (e := e - x) (by omega)
    (hd.mul_two_pow x) (by omega) (by omega)
  convert hr using 1
  rw [Nat.cast_mul, apply_mul, Int.cast_mul, zpow_sub₀ two_ne_zero, zpow_natCast]
  push_cast
  field_simp

end Rounding

section Packing

theorem Normal.unpack_pack (h : Normal q u) :
    UnpackedFloat.unpack Format.binary64 (u.pack Format.binary64) = u := by
  cases h with
  | @finite s m e hp hl he hu _ =>
    have hm : 2 ^ 52 ≤ m ∧ m < 2 ^ 53 := (Nat.log2_eq_iff hp.ne').mp hl
    have hb : (BitVec.ofNat 11 (e + 1075).toNat).toNat = (e + 1075).toNat := by
      rw [BitVec.toNat_ofNat]
      omega
    have hi : BitVec.ofNat 11 (e + 1075).toNat ≠ -1#11 := not_special <| by omega
    have hz : BitVec.ofNat 11 (e + 1075).toNat ≠ 0#11 := fun h => by
      rw [h] at hb
      change 0 = _ at hb
      omega
    have ht : (1#1 ++ BitVec.ofNat 52 m).toNat = m := by
      rw [BitVec.toNat_append, ← Nat.shiftLeft_add_eq_or_of_lt (BitVec.isLt _), BitVec.toNat_ofNat]
      change 2 ^ 52 + m % 2 ^ 52 = m
      omega
    rw [pack_finite, if_neg (by omega), if_pos (by omega)]
    unfold UnpackedFloat.unpack
    simp only [unpackExponent_packComponents, unpackMantissa_packComponents,
      unpackSign_packComponents, Sign.ofBitVec_toBitVec, if_neg hi, if_neg hz, ht, hb]
    rw [finite.injEq]
    refine ⟨rfl, rfl, ?_⟩
    change ((e + 1075).toNat : Int) - (1023 + 52) = e
    omega

end Packing

section Numbers

theorem normal_round (hz : n ≠ 0) (hn : n < 2 ^ 53) :
    Normal n (UnpackedFloat.round Format.binary64 .positive n 0) := by
  have hl : n.log2 ≤ 52 := log2_le_of_lt hn
  obtain ⟨x, hx⟩ : ∃ x, n.log2 + x = 52 := ⟨52 - n.log2, by omega⟩
  have ht : (0 - Format.binary64.targetExponent (totalExponent n 0)).toNat = x := by
    change (0 - max ((n.log2 : Int) + 1 + 0 - 53) (-1074)).toNat = x
    omega
  have hr := normal_roundWithAccuracy_scaled (s := .positive) (e := 0) hz
    (short_of_log2_le hl) hx.ge (by omega) (by omega)
  rw [UnpackedFloat.round, decreaseExponent]
  simp only [ht]
  simpa [Nat.shiftLeft_eq, Sign.apply] using hr

theorem normal_mul_one (h : Normal q u)
    (hv : v = .finite .positive (2 ^ 52) (-52) (Nat.two_pow_pos 52)) :
    Normal q (u.mul Format.binary64 v) := by
  subst hv
  cases h with
  | @finite s m e hp hl he hu hq =>
    have hr := normal_roundWithAccuracy_scaled (s := s) (x := 52) hp.ne'
      (short_of_log2_le hl.le) (by omega) (e := e) (by omega) (by omega)
    have hs : s * .positive = s := by cases s <;> rfl
    rw [UnpackedFloat.mul, hs, hq]
    exact hr

theorem normal_ofScientific (hz : n ≠ 0) (hs : Short n) (hu : n.log2 ≤ 1023) :
    Normal n (UnpackedFloat.ofScientific Format.binary64 n 0) := by
  have hr := normal_roundWithAccuracy_scaled (s := .positive) (e := 0) (x := 53) hz hs (by omega)
    (by omega) (by omega)
  have ho := ofScientific_eq (n := 0) hz (by decide)
  rw [Nat.cast_zero, Nat.pow_zero, Nat.mul_one] at ho
  rw [ho]
  simpa [Sign.apply] using hr

theorem normal_ofNat (hz : n ≠ 0) (hn : n < 2 ^ 53) :
    Normal n (UnpackedFloat.ofNat Format.binary64 n) := by
  have hc : compare (n : Int) 0 = .gt := Int.compare_eq_gt.mpr (by omega)
  unfold UnpackedFloat.ofNat UnpackedFloat.ofInt UnpackedFloat.normalize
  simp only [hc, Int.toNat_natCast]
  exact normal_round hz hn

theorem Normal.repack (h : Normal q u) :
    Normal q (UnpackedFloat.unpack Format.binary64 (u.pack Format.binary64)) :=
  h.unpack_pack.symm ▸ h

-- A number below `2 ^ 53` is taken as it is and multiplied by one, any other is rounded.
theorem normal_unpack_ofNat (hz : n ≠ 0) (hs : Short n) (hu : n.log2 ≤ 1023) :
    Normal n (Float.ofNat n).toModel.unpack := by
  change Normal n (Float.ofScientific n false 0).toModel.unpack
  unfold Float.ofScientific
  split
  case isTrue h =>
    have hw : n.toUInt64.toNat = n := Nat.mod_eq_of_lt (by omega)
    have hn : Normal n.toUInt64.toNat n.toUInt64.toFloat.toModel.unpack :=
      (normal_ofNat (by omega) (by omega)).repack
    have hone : Float.exactlyRepresentablePowersOfTen[0].toModel.unpack =
      .finite .positive (2 ^ 52) (-52) (Nat.two_pow_pos 52) := rfl
    rw [hw] at hn
    exact (normal_mul_one hn hone).repack
  case isFalse => exact (normal_ofScientific hz hs hu).repack

theorem rational?_ofInt {i : Int} (hs : Short i.natAbs) (hu : i.natAbs.log2 ≤ 1023) :
    rational? (Float.ofInt i).toModel.unpack = some ↑i := by
  cases i with
  | ofNat n   =>
    by_cases hz : n = 0
    case pos =>
      subst hz
      decide +kernel
    case neg =>
      have hn := (normal_unpack_ofNat hz hs hu).rational?_eq
      exact_mod_cast hn
  | negSucc n =>
    have hn := (normal_unpack_ofNat n.succ_ne_zero hs hu).neg.repack.rational?_eq
    rw [Int.cast_negSucc]
    exact hn

theorem short_of_eq_mul_zpow (hm : m < 2 ^ 53) (he : e ≤ 971) (h : (n : ℚ) = m * 2 ^ e) :
    Short n ∧ n.log2 ≤ 1023 := by
  have hl : m.log2 ≤ 52 := log2_le_of_lt hm
  rcases Int.le_total 0 e with h0 | h0
  · obtain ⟨x, rfl⟩ := Int.eq_ofNat_of_zero_le h0
    obtain rfl : n = m * 2 ^ x := by exact_mod_cast h
    have hn : m * 2 ^ x < 2 ^ (53 + x) := by
      rw [Nat.pow_add]
      exact Nat.mul_lt_mul_of_pos_right hm (Nat.two_pow_pos x)
    have hn : (m * 2 ^ x).log2 ≤ 52 + x := log2_le_of_lt <| by rwa [Nat.add_right_comm]
    exact ⟨(short_of_log2_le hl).mul_two_pow x, by omega⟩
  · obtain ⟨x, hx⟩ := Int.eq_ofNat_of_zero_le (Int.neg_nonneg_of_nonpos h0)
    have h : (n : ℚ) * 2 ^ x = m := by
      rw [h, ← Int.neg_neg e, hx, zpow_neg, zpow_natCast, inv_mul_cancel_right₀ (by positivity)]
    obtain rfl : n * 2 ^ x = m := by exact_mod_cast h
    have hn : n.log2 ≤ 52 := log2_le_of_lt <|
      (Nat.le_mul_of_pos_right n (Nat.two_pow_pos x)).trans_lt hm
    exact ⟨short_of_log2_le hn, by omega⟩

-- An integer that is a double is short.
theorem short_of_rational? {f : Float} {i : Int} (h : rational? f.toModel.unpack = some ↑i) :
    Short i.natAbs ∧ i.natAbs.log2 ≤ 1023 := by
  cases hf : f.toModel.unpack with
  | infinity _    => simp [hf, rational?] at h
  | notANumber    => simp [hf, rational?] at h
  | zero _        =>
    obtain rfl : i = 0 := by simpa [hf, rational?, eq_comm] using h
    exact ⟨short_of_log2_le (by decide), by decide⟩
  | finite s m e  =>
    have hfit : Fits 971 f.toModel.unpack := fits_of_isFinite <| by
      change f.toModel.unpack.isFinite
      rw [hf]
      rfl
    rw [hf] at hfit
    cases hfit with
    | finite hm he =>
      have hi : s.apply m * 2 ^ e = (i : ℚ) := by simpa [hf, rational?] using h
      have hs : |(s.apply m : ℚ)| = m := by cases s <;> simp [Sign.apply]
      refine short_of_eq_mul_zpow hm he ?_
      rw [Nat.cast_natAbs, Int.cast_abs, ← hi, abs_mul, hs, abs_of_pos (zpow_pos two_pos e)]

end Numbers

section Order

-- Where a number stands among all: first by its side of zero, then by its exponent and its digits.
def rank? : UnpackedFloat → Option (Int ×ₗ Int ×ₗ Int)
  | .infinity .negative     => some (toLex (-2, toLex (0, 0)))
  | .finite .negative m e _ => some (toLex (-1, toLex (-e, -m)))
  | .zero _                 => some (toLex (0, toLex (0, 0)))
  | .finite .positive m e _ => some (toLex (1, toLex (e, m)))
  | .infinity .positive     => some (toLex (2, toLex (0, 0)))
  | .notANumber             => none

theorem compare_eq_lt_iff : u.compare v = some .lt ↔
    ∃ a b, rank? u = some a ∧ rank? v = some b ∧ a < b := by
  rcases u with (_ | _) | _ | _ | ⟨_ | _, m, e, _⟩ <;>
    rcases v with (_ | _) | _ | _ | ⟨_ | _, m', e', _⟩ <;>
    simp [UnpackedFloat.compare, rank?, Prod.Lex.toLex_lt_toLex, Ordering.then_eq_lt,
      Ordering.then_eq_gt, compare_lt_iff_lt, compare_gt_iff_gt, Ordering.swap_eq_lt]
  -- What is left compares the signs of infinities.
  all_goals decide

theorem float_lt_iff {f g : Float} :
    f < g ↔ f.toModel.unpack.compare g.toModel.unpack = some .lt := by
  change decide (f.toModel < g.toModel) = true ↔ _
  rw [decide_eq_true_iff]
  change (f.toModel.unpack.compare g.toModel.unpack == some .lt) = true ↔ _
  rw [beq_iff_eq]

theorem float_lt_trans {f g h : Float} (hf : f < g) (hg : g < h) : f < h := by
  obtain ⟨a, b, ha, hb, hab⟩ := compare_eq_lt_iff.mp <| float_lt_iff.mp hf
  obtain ⟨b', c, hb', hc, hbc⟩ := compare_eq_lt_iff.mp <| float_lt_iff.mp hg
  cases hb.symm.trans hb'
  exact float_lt_iff.mpr <| compare_eq_lt_iff.mpr ⟨a, c, ha, hc, hab.trans hbc⟩

end Order

end NodeEditor.Decimal
