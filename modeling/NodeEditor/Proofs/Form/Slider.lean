import NodeEditor.Form.Widget
import NodeEditor.Proofs.Decimal.Exact
import NodeEditor.Proofs.Json.Dict

namespace NodeEditor

open Decimal

namespace Number

variable {n : Number} {f : Float}

-- The rational number that a stored number is.
def rational? : Number → Option ℚ
  | .int i   => some i
  | .float f => Decimal.rational? f.toModel.unpack

-- A number that is a double is read as it is.
theorem rational?_toFloat (h : rational? (.float f) = n.rational?) :
    rational? (.float n.toFloat) = n.rational? := by
  cases n with
  | float f => rfl
  | int i   =>
    have ⟨hs, hu⟩ := short_of_rational? h
    exact rational?_ofInt hs hu

theorem rational?_toFloat_int {i : Int} (h : i.natAbs ≤ 2 ^ 53) :
    rational? (.float (int i).toFloat) = some ↑i := by
  have hs : Short i.natAbs := by
    rcases Nat.lt_or_eq_of_le h with h | h
    · exact short_of_log2_le <| log2_le_of_lt h
    · exact h ▸ (short_of_log2_le (m := 1) (by decide)).mul_two_pow 53
  have hl : i.natAbs.log2 ≤ 53 := log2_le_of_lt <| h.trans_lt (by decide)
  exact rational?_ofInt hs (by omega)

end Number

theorem Control.clamp_eq_self {low high x : Float} (hl : ¬x < low) (hh : ¬x > high) :
    clamp low high x = x := by
  rw [clamp, if_neg hl, if_neg hh]

namespace Property

variable {p : Property} {values : ValueBag} {credentials : List Credential} {n : Number} {x : Float}

-- Where the slider of a property begins and ends.

def sliderLow (p : Property) : Float :=
  p.min.getD 0.0

def sliderHigh (p : Property) : Float :=
  if p.max.getD 100.0 < p.sliderLow then p.sliderLow else p.max.getD 100.0

theorem boundErrors_eq_nil_iff : boundErrors p x = [] ↔
    (∀ least, p.min = some least → ¬x < least) ∧ ∀ most, p.max = some most → ¬x > most := by
  rw [boundErrors]
  cases p.min <;> cases p.max <;> simp

theorem not_lt_sliderLow (hb : boundErrors p x = []) (h : p.min = none → ¬x < p.sliderLow) :
    ¬x < p.sliderLow := by
  cases hm : p.min with
  | none       => exact h hm
  | some least =>
    rw [sliderLow, hm]
    exact (boundErrors_eq_nil_iff.mp hb).left least hm

-- Where bounds are crossed the slider ends where it begins.
theorem not_gt_sliderHigh (hb : boundErrors p x = []) (h : p.max = none → ¬x > p.sliderHigh) :
    ¬x > p.sliderHigh := by
  cases hm : p.max with
  | none      => exact h hm
  | some most =>
    have hx : ¬x > most := (boundErrors_eq_nil_iff.mp hb).right most hm
    rw [sliderHigh, hm, Option.getD_some]
    split
    case isTrue hc => exact fun hl => hx <| float_lt_trans hc hl
    case isFalse   => exact hx

theorem widget_range [Pattern.Capacity] (credentials : List Credential) (hk : p.kind = .ok .range)
    (hv : values.get? p.name = some (.num n)) :
    (Widget.build p values credentials).control = .range p.sliderLow p.sliderHigh
      ((p.step.filter fun s => s > 0.0).getD 1.0)
      (Control.clamp p.sliderLow p.sliderHigh n.toFloat)
      (numberLabel <| Control.clamp p.sliderLow p.sliderHigh n.toFloat) ∧
    (Widget.build p values credentials).errors = boundErrors p n.toFloat := by
  simp only [Widget.build, hk, hv]
  exact ⟨rfl, rfl⟩

-- A slider shows what is stored unless something is reported of it, as long as that keeps to the
-- slider's own ends where none are declared. What it shows is a double.
theorem slider_shows [Pattern.Capacity] (hk : p.kind = .ok .range)
    (hv : values.get? p.name = some (.num n))
    (he : (Widget.build p values credentials).errors = [])
    (hl : p.min = none → ¬n.toFloat < p.sliderLow) (hh : p.max = none → ¬n.toFloat > p.sliderHigh) :
    ∃ step shown, (Widget.build p values credentials).control =
        .range p.sliderLow p.sliderHigh step shown (numberLabel shown) ∧
      shown = n.toFloat ∧
      ((∃ f : Float, Number.rational? (.float f) = n.rational?) →
        Number.rational? (.float shown) = n.rational?) ∧
      ∀ i : Int, n = .int i → i.natAbs ≤ 2 ^ 53 → Number.rational? (.float shown) = n.rational? := by
  have ⟨hc, hb⟩ := widget_range credentials hk hv
  rw [hb] at he
  rw [Control.clamp_eq_self (not_lt_sliderLow he hl) (not_gt_sliderHigh he hh)] at hc
  refine ⟨_, _, hc, rfl, fun ⟨f, hf⟩ => Number.rational?_toFloat hf, ?_⟩
  rintro i rfl hi
  exact Number.rational?_toFloat_int hi

-- A number of retries up to five, a number of bytes up to 10 ^ 17, and an offset without bounds.

def retries : Property :=
  { Property.plain "retries" "range" with max := some 5.0 }

def bytes : Property :=
  { Property.plain "bytes" "range" with min := some 0.0, max := some 1e17 }

def offset : Property :=
  Property.plain "offset" "range"

def holding (p : Property) (n : Number) : ValueBag :=
  .ofList [(p.name, .num n)]

theorem get?_holding (p : Property) (n : Number) : (p.holding n).get? p.name = some (.num n) := by
  simp [holding, Dict.get?_ofList]

theorem slider_shows_retries :
    let _ : Pattern.Capacity := { fits := fun _ => true }
    (Widget.build retries (retries.holding (.int 3)) []).errors = [] ∧
    (∃ step shown, (Widget.build retries (retries.holding (.int 3)) []).control =
        .range retries.sliderLow retries.sliderHigh step shown (numberLabel shown) ∧
      Number.rational? (.float shown) = some 3) ∧
    (Widget.build bytes (bytes.holding (.int (2 ^ 56))) []).errors = [] ∧
    ∃ step shown, (Widget.build bytes (bytes.holding (.int (2 ^ 56))) []).control =
        .range bytes.sliderLow bytes.sliderHigh step shown (numberLabel shown) ∧
      Number.rational? (.float shown) = some (2 ^ 56) := by
  intro _
  have hr : retries.kind = .ok .range := by decide +kernel
  have hb : bytes.kind = .ok .range := by decide +kernel
  have ⟨_, hre⟩ := widget_range [] hr (get?_holding retries (.int 3))
  have ⟨_, hbe⟩ := widget_range [] hb (get?_holding bytes (.int (2 ^ 56)))
  have hre := hre.trans (show boundErrors retries (Number.int 3).toFloat = [] by decide +kernel)
  have hbe := hbe.trans (show boundErrors bytes (Number.int (2 ^ 56)).toFloat = [] by decide +kernel)
  have ⟨step, shown, hc, _, _, hi⟩ := slider_shows hr (get?_holding retries (.int 3)) hre
    (fun _ => by decide +kernel) nofun
  have ⟨step', shown', hc', _, hf, _⟩ := slider_shows hb (get?_holding bytes (.int (2 ^ 56))) hbe
    nofun nofun
  refine ⟨hre, ⟨step, shown, hc, hi 3 rfl (by decide)⟩, hbe, step', shown', hc', ?_⟩
  refine (hf ⟨72057594037927936.0, by decide +kernel⟩).trans ?_
  decide +kernel

-- An integer that is no double is shown as one that is, and what stands below where a slider begins
-- by itself is shown there, both without a message.
theorem slider_strays :
    let _ : Pattern.Capacity := { fits := fun _ => true }
    (Widget.build bytes (bytes.holding (.int 9007199254740993)) []).errors = [] ∧
    (Widget.build bytes (bytes.holding (.int 9007199254740993)) []).control =
      .range bytes.sliderLow bytes.sliderHigh 1.0 9007199254740992.0 "9007199254740992" ∧
    Number.rational? (.float 9007199254740992.0) ≠ Number.rational? (.int 9007199254740993) ∧
    (Widget.build offset (offset.holding (.int (-5))) []).errors = [] ∧
    (Widget.build offset (offset.holding (.int (-5))) []).control =
      .range offset.sliderLow offset.sliderHigh 1.0 0.0 "0" ∧
    Number.rational? (.float 0.0) ≠ Number.rational? (.int (-5)) := by
  intro _
  have hb : Control.clamp bytes.sliderLow bytes.sliderHigh
    (Number.int 9007199254740993).toFloat = 9007199254740992.0 := by decide +kernel
  have hbl : numberLabel 9007199254740992.0 = "9007199254740992" := by decide +kernel
  have ho : Control.clamp offset.sliderLow offset.sliderHigh (Number.int (-5)).toFloat = 0.0 := by
    decide +kernel
  have hol : numberLabel 0.0 = "0" := by decide +kernel
  have ⟨hbc, hbe⟩ := widget_range [] (by decide +kernel)
    (get?_holding bytes (.int 9007199254740993))
  have ⟨hoc, hoe⟩ := widget_range [] (by decide +kernel)
    (get?_holding offset (.int (-5)))
  rw [hb, hbl] at hbc
  rw [ho, hol] at hoc
  rw [hbe, hoe]
  exact ⟨by decide +kernel, hbc, by decide +kernel, by decide +kernel, hoc, by decide +kernel⟩

end Property

end NodeEditor
