import NodeEditor.Json.Reader
import NodeEditor.Proofs.Json.Sound

namespace NodeEditor

namespace Json

variable {limit n count fuel : Nat} {e : Int} {f : Float} {cs ds rest : List Char} {negative : Bool}
  {x : Number}

theorem takeDigits_le (h : n ≤ limit) : (takeDigits limit n count cs).1 ≤ limit := by
  induction cs generalizing n count with
  | nil          => exact h
  | cons c cs ih =>
    rw [takeDigits]
    dsimp only
    split_ifs with _ hn
    · exact ih hn
    · exact h
    · exact h

-- A quotient is no greater than what is divided, but for rounding.
theorem isFinite_divideByPower {b : Int} (hf : Decimal.Fits b f.toModel.unpack) (hl : -1074 ≤ b)
    (hu : b + fuel ≤ 971) : (divideByPower fuel f n).isFinite := by
  induction fuel generalizing b f n with
  | zero         => exact hf.isFinite
  | succ fuel ih =>
    rw [divideByPower]
    split_ifs with hn
    · have hg := Decimal.great_powerOfTen (n := n) (by omega)
      exact (Decimal.fits_unpack_div hf hg hl (by omega)).isFinite
    · exact hf.isFinite
    · have hg := Decimal.great_powerOfTen (n := 308) (by decide)
      exact ih (Decimal.fits_unpack_div hf hg hl (by omega)) (by omega) (by omega)

theorem isFinite_of_scale? (h : scale? n e = some f) (hn : n ≤ maxSignificand) : f.isFinite := by
  have hf : Decimal.Fits 14 (Float.ofNat n).toModel.unpack :=
    Decimal.fits_unpack_ofNat (Nat.lt_succ_of_le hn)
  rw [scale?] at h
  dsimp only at h
  split_ifs at h with hz he hi
  · cases h
    exact isFinite_divideByPower hf (by decide) (by decide)
  · cases h
    exact Decimal.isFinite_mul_of_not_isInf hf.isFinite
      (Decimal.isFinite_powerOfTen <| by omega) (by simpa using hi)
  · cases h
    exact hf.isFinite

theorem stored_of_finishFloat (h : finishFloat negative n e cs = .ok (x, rest))
    (hn : n ≤ maxSignificand) : x.Stored := by
  rw [finishFloat] at h
  split at h
  case h_1 f hs =>
    cases h
    have hf := isFinite_of_scale? hs hn
    cases negative with
    | false => exact hf
    | true  => exact Decimal.isFinite_neg hf
  case h_2 => cases h

theorem stored_of_readPower {start : Int} {down : Bool}
    (h : readPower negative n start down ds = .ok (x, rest)) (hn : n ≤ maxSignificand) :
    x.Stored := by
  have hz : Float.isFinite (if negative then -0.0 else 0.0) := by cases negative <;> decide +kernel
  rw [readPower.eq_def] at h
  split at h
  case isTrue =>
    dsimp only at h
    split at h
    case isTrue =>
      split at h <;> cases h
      exact hz
    case isFalse => exact stored_of_finishFloat h hn
  case isFalse => split at h <;> cases h

theorem stored_of_readScale (h : readScale negative n e cs = .ok (x, rest))
    (hn : n ≤ maxSignificand) : x.Stored := by
  have hp {cs} (h : readExponent negative n e cs = .ok (x, rest)) : x.Stored := by
    rw [readExponent.eq_def] at h
    split at h <;> exact stored_of_readPower h hn
  rw [readScale.eq_def] at h
  split at h
  · exact hp h
  · exact hp h
  · exact stored_of_finishFloat h hn

theorem stored_of_readFraction (h : readFraction negative n e cs = .ok (x, rest))
    (hn : n ≤ maxSignificand) : x.Stored := by
  have ht : (takeDigits maxSignificand n 0 cs).1 ≤ maxSignificand := takeDigits_le hn
  rw [readFraction.eq_def] at h
  dsimp only at h
  split at h
  case isTrue => exact stored_of_readScale h ht
  case isFalse =>
    split at h
    case isTrue  => split at h <;> cases h
    case isFalse => exact stored_of_readScale h ht

theorem stored_of_readTail {dropped : Nat} (h : readTail negative n dropped cs = .ok (x, rest))
    (hn : n ≤ maxSignificand) : x.Stored := by
  rw [readTail.eq_def] at h
  split at h
  · exact stored_of_readFraction h hn
  · exact stored_of_readScale h hn

theorem stored_wholeNumber (hn : n ≤ maxSignificand) : (wholeNumber negative n).Stored := by
  have hn : n < 2 ^ 64 := Nat.lt_succ_of_le hn
  unfold wholeNumber
  split_ifs
  · exact ⟨by omega, by omega⟩
  · exact Decimal.isFinite_neg (Decimal.fits_unpack_ofNat hn).isFinite
  · exact ⟨by omega, by omega⟩

theorem stored_of_readAfterWhole (h : readAfterWhole negative n cs = .ok (x, rest))
    (hn : n ≤ maxSignificand) : x.Stored := by
  unfold readAfterWhole at h
  split_ifs at h
  · exact stored_of_readTail h hn
  · exact stored_of_readTail h hn
  · cases h
    exact stored_wholeNumber hn

theorem stored_of_readNumber (h : readNumber negative cs = .ok (x, rest)) : x.Stored := by
  rw [readNumber.eq_def] at h
  split at h
  case h_1 => cases h
  case h_2 =>
    split at h
    · cases h
    · exact stored_of_readAfterWhole h (Nat.zero_le _)
  case h_3 c cs _ =>
    have ht : (takeDigits maxSignificand 0 0 (c :: cs)).1 ≤ maxSignificand :=
      takeDigits_le (Nat.zero_le _)
    split at h
    · exact stored_of_readAfterWhole h ht
    · cases h

-- Whatever is read of a text is one of the values that there are outside.

theorem sound_readable : Readable Sound where
  null   := ⟨trivial, nofun⟩
  bool _ := ⟨trivial, nofun⟩
  str _  := ⟨trivial, nofun⟩
  num h  := ⟨trivial, List.forall_mem_singleton.mpr <| stored_of_readNumber h⟩
  arr h := {
    ordered := ordered_readable.arr fun j hj => (h j hj).ordered
    stored  := forall_numbers_arr_iff.mpr fun j hj => (h j hj).stored }
  obj h := {
    ordered := ordered_readable.obj fun e he => (h e he).ordered
    stored  := forall_numbers_obj_iff.mpr fun e he =>
      (h e <| Dict.mem_of_mem_ofList he).stored }

theorem sound_of_parse {j : Json} {text : String} (h : parse text = .ok j) : j.Sound :=
  sound_readable.of_parse h

end Json

end NodeEditor
