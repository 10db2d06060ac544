import Mathlib.Data.List.Nodup
import NodeEditor.Form.Derivation
import NodeEditor.Proofs.Json.Dict

namespace NodeEditor

namespace Json

variable {a b : Json} {s : String}

theorem eq_str_of_beq (h : a == str s) : a = str s := by
  cases a <;> first | cases h | exact congrArg str (beq_iff_eq.mp h)

theorem text?_eq_of_beq (h : a == b) : a.text? = b.text? := by
  cases a <;> cases b <;> first | rfl | cases h | exact congrArg some (beq_iff_eq.mp h)

end Json

namespace ValueBag

variable {b c : ValueBag} {name : String}

-- Under a name stands the same in both, or what the program takes for the same: the two zeros are.
def SameAt (b c : ValueBag) (name : String) : Prop :=
  b.get? name = c.get? name ∨ b.get? name == c.get? name

def Same (b c : ValueBag) : Prop :=
  ∀ name, b.SameAt c name

theorem SameAt.text?_eq (h : b.SameAt c name) : b.text? name = c.text? name := by
  cases h
  case inl h => rw [text?, h, text?]
  case inr h =>
    rw [text?, text?]
    cases hb : b.get? name with
    | none   =>
      cases hc : c.get? name with
      | none   => rfl
      | some _ => simp [hb, hc] at h
    | some _ =>
      cases hc : c.get? name with
      | none   => simp [hb, hc] at h
      | some _ =>
        rw [hb, hc] at h
        exact Json.text?_eq_of_beq h

end ValueBag

namespace Derivation

variable {d : Derivation} {rules : List Derivation} {b c : ValueBag} {changed : List String}
  {name : String}

-- A rule that computes texts, and these from texts under the names of its inputs.
structure Textual (d : Derivation) : Prop where
  text  : ∀ b v, d.compute b = some v → ∃ s, v = .str s
  reads : ∀ b c, (∀ name ∈ d.inputs, b.text? name = c.text? name) → d.compute b = d.compute c

theorem webhook_textual (base target path environment : String) :
    (webhook base target path environment).Textual where
  text _ _ h := by
    have ⟨s, _, hs⟩ := Option.map_eq_some_iff.mp h
    exact ⟨s, hs.symm⟩
  reads b c h := by
    have hp : b.text? path = c.text? path := h path (by simp [webhook])
    have he : b.text? environment = c.text? environment := h environment (by simp [webhook])
    simp only [webhook, webhookAddress?, webhookPath?, hp, he]

namespace Textual

-- For texts to be the same is to be equal.
theorem beq_compute_iff (t : d.Textual) :
    (b.get? d.target == d.compute c) = true ↔ b.get? d.target = d.compute c := by
  cases hc : d.compute c with
  | none   => cases b.get? d.target <;> simp
  | some v =>
    obtain ⟨s, rfl⟩ := t.text c v hc
    cases b.get? d.target with
    | none   => simp
    | some a =>
      refine ⟨fun h => congrArg some <| Json.eq_str_of_beq h, fun h => ?_⟩
      cases h
      exact beq_self_eq_true s

-- Running a rule puts what it computes under its target.
theorem run_eq (t : d.Textual) : run (b, changed) d =
    (b.assign d.target (d.compute b),
      changed ++ if b.get? d.target == d.compute b then [] else [d.target]) := by
  by_cases h : b.get? d.target = d.compute b
  case pos =>
    rw [if_pos (t.beq_compute_iff.mpr h), Dict.assign_eq_self h, List.append_nil]
    cases hc : d.compute b with
    | none   => simp [run, hc, Dict.contains, h]
    | some v =>
      have hb := t.beq_compute_iff.mpr h
      rw [hc] at hb
      simp [run, hc, hb]
  case neg =>
    have hb : ¬(b.get? d.target == d.compute b) = true := mt t.beq_compute_iff.mp h
    rw [if_neg hb]
    cases hc : d.compute b with
    | none   =>
      have hs : (b.get? d.target).isSome := Option.isSome_iff_ne_none.mpr (hc ▸ h)
      simp [run, hc, Dict.contains, hs, Dict.assign]
    | some v =>
      rw [hc] at hb
      simp [run, hc, hb, Dict.assign]

theorem compute_eq (t : d.Textual) (h : ∀ name ∈ d.inputs, b.get? name = c.get? name) :
    d.compute b = d.compute c :=
  t.reads b c fun name hn => (show b.SameAt c name from .inl <| h name hn).text?_eq

end Textual

-- A rule writes to its target alone, whatever it computes.
theorem get?_run_of_ne (h : name ≠ d.target) : (run (b, changed) d).1.get? name = b.get? name := by
  simp only [run]
  repeat' split
  case h_1.isFalse => rw [Dict.get?_insert, if_neg h]
  case h_2.isTrue  => rw [Dict.get?_erase, if_neg h]
  all_goals rfl

theorem get?_foldl_run_of_not_mem (h : name ∉ rules.map (·.target)) :
    (rules.foldl run (b, changed)).1.get? name = b.get? name := by
  induction rules generalizing b changed with
  | nil            => rfl
  | cons d rest ih =>
    have ⟨hne, hm⟩ : name ≠ d.target ∧ name ∉ rest.map (·.target) := by
      simpa only [List.map_cons, List.mem_cons, not_or] using h
    exact (ih hm).trans <| get?_run_of_ne hne

theorem get?_runAll_of_not_mem (h : name ∉ rules.map (·.target)) :
    (runAll rules b).1.get? name = b.get? name :=
  get?_foldl_run_of_not_mem h

-- Rules whose targets are all different, and of which none reads the target of another.
structure Apart (rules : List Derivation) : Prop where
  textual : ∀ d ∈ rules, d.Textual
  targets : (rules.map (·.target)).Nodup
  inputs  : ∀ d ∈ rules, ∀ d' ∈ rules, d.target ∉ d'.inputs

namespace Apart

theorem sublist {rules' : List Derivation} (a : Apart rules) (h : rules'.Sublist rules) :
    Apart rules' where
  textual d hd := a.textual d <| h.subset hd
  targets := a.targets.sublist <| h.map _
  inputs d hd d' hd' := a.inputs d (h.subset hd) d' (h.subset hd')

theorem compute_assign (a : Apart rules) (hd : d ∈ rules) {d' : Derivation} (hd' : d' ∈ rules)
    {o : Option Json} : d'.compute (b.assign d.target o) = d'.compute b := by
  refine (a.textual d' hd').compute_eq fun name hn => ?_
  have hne : name ≠ d.target := fun h => a.inputs d hd d' hd' <| h ▸ hn
  rw [Dict.get?_assign, if_neg hne]

-- Each rule puts under its target what it computes from the values as they were at first, and the
-- targets that had something else before are listed in the order of the rules.
theorem foldl_run (a : Apart rules) (b : ValueBag) (changed : List String) :
    (∀ d ∈ rules, (rules.foldl run (b, changed)).1.get? d.target = d.compute b) ∧
    (rules.foldl run (b, changed)).2 = changed ++
      (rules.filter fun d => !(b.get? d.target == d.compute b)).map (·.target) := by
  induction rules generalizing b changed with
  | nil            => simp
  | cons d rest ih =>
    have ⟨hn, _⟩ := List.nodup_cons.mp a.targets
    have hr : Apart rest := a.sublist <| List.sublist_cons_self ..
    have hd : d ∈ d :: rest := List.mem_cons_self
    have hs : ∀ d' ∈ rest, d'.target ≠ d.target ∧
        d'.compute (b.assign d.target (d.compute b)) = d'.compute b := fun d' hd' =>
      ⟨fun h => hn <| List.mem_map.mpr ⟨d', hd', h⟩,
        a.compute_assign hd <| List.mem_cons_of_mem d hd'⟩
    rw [List.foldl_cons, (a.textual d hd).run_eq]
    have ⟨hg, hc⟩ := ih hr (b.assign d.target (d.compute b))
      (changed ++ if b.get? d.target == d.compute b then [] else [d.target])
    constructor
    case left =>
      intro d' hd'
      cases hd' with
      | head      => rw [get?_foldl_run_of_not_mem hn, Dict.get?_assign, if_pos rfl]
      | tail _ hm => rw [hg d' hm, (hs d' hm).right]
    case right =>
      have hf : (rest.filter fun d' => !((b.assign d.target (d.compute b)).get? d'.target ==
            d'.compute (b.assign d.target (d.compute b)))) =
          rest.filter fun d' => !(b.get? d'.target == d'.compute b) := by
        refine List.filter_congr fun d' hd' => ?_
        rw [(hs d' hd').right, Dict.get?_assign, if_neg (hs d' hd').left]
      rw [hc, hf, List.filter_cons, List.append_assoc]
      cases b.get? d.target == d.compute b <;> rfl

theorem get?_runAll (a : Apart rules) (hd : d ∈ rules) :
    (runAll rules b).1.get? d.target = d.compute b :=
  (a.foldl_run b []).left d hd

theorem runAll_changed (a : Apart rules) : (runAll rules b).2 =
    (rules.filter fun d => !(b.get? d.target == d.compute b)).map (·.target) :=
  (a.foldl_run b []).right

theorem compute_runAll (a : Apart rules) (hd : d ∈ rules) :
    d.compute (runAll rules b).1 = d.compute b := by
  refine (a.textual d hd).compute_eq fun name hn => get?_runAll_of_not_mem fun h => ?_
  obtain ⟨d', hd', rfl⟩ := List.mem_map.mp h
  exact a.inputs d' hd' d hd hn

-- So nothing is left to do where every target holds what its rule computes, and only there.
theorem runAll_eq_self_iff (a : Apart rules) :
    (runAll rules b).1 = b ↔ ∀ d ∈ rules, b.get? d.target = d.compute b := by
  constructor
  case mp =>
    intro h d hd
    rw [← a.get?_runAll hd, h]
  case mpr =>
    refine fun h => Dict.ext_get? fun name => ?_
    by_cases hn : name ∈ rules.map (·.target)
    case neg => exact get?_runAll_of_not_mem hn
    case pos =>
      obtain ⟨d, hd, rfl⟩ := List.mem_map.mp hn
      rw [a.get?_runAll hd, h d hd]

end Apart

end Derivation

end NodeEditor
