import Mathlib
import NodeEditor.Form.Engine
import NodeEditor.Proofs.Form.Derivation

namespace NodeEditor

theorem eraseDups_of_nodup {α : Type} [BEq α] [LawfulBEq α] {as : List α} (h : as.Nodup) :
    as.eraseDups = as := by
  induction as with
  | nil            => rfl
  | cons a rest ih =>
    have ⟨ha, hr⟩ := List.nodup_cons.mp h
    have hf : rest.filter (fun b => !b == a) = rest :=
      List.filter_eq_self.mpr fun b hb => by simpa using fun he : b = a => ha <| he ▸ hb
    rw [List.eraseDups_cons, hf, ih hr]

namespace Engine

open NodeEditor.Derivation

variable {e : Engine} {properties : List Property} {b b' : ValueBag} {name : String}
  {value v : Json} {d : Derivation} {changed : List String}

def targets (e : Engine) : List String :=
  e.derivations.map (·.target)

-- Addresses of webhooks that are derived side by side, each under a name of its own that no rule
-- reads and no user edits.
structure Layered (e : Engine) (properties : List Property) : Prop where
  webhooks : ∀ d ∈ e.derivations, ∃ base target path environment,
    d = .webhook base target path environment
  targets  : e.targets.Nodup
  inputs   : ∀ target ∈ e.targets, ∀ d ∈ e.derivations, target ∉ d.inputs
  readOnly : ∀ p ∈ properties, p.name ∈ e.targets → p.kind = .ok .readOnly

-- Deriving all fields anew changes nothing.
def Consistent (e : Engine) (properties : List Property) (b : ValueBag) : Prop :=
  (e.derive properties b).1 = b

theorem mem_declared_iff :
    d ∈ e.declared properties ↔ d ∈ e.derivations ∧ d.target ∈ properties.map (·.name) := by
  simp [declared]

theorem declared_sublist : (e.declared properties).Sublist e.derivations :=
  List.filter_sublist

-- The rules that read a property.
def dependents (e : Engine) (properties : List Property) (name : String) : List Derivation :=
  (e.declared properties).filter (·.inputs.contains name)

theorem dependents_sublist : (e.dependents properties name).Sublist (e.declared properties) :=
  List.filter_sublist

theorem mem_dependents_iff :
    d ∈ e.dependents properties name ↔ d ∈ e.declared properties ∧ name ∈ d.inputs := by
  simp [dependents]

-- What is accepted for a property is a value of its kind, and not for a title or a field that is
-- only read.
theorem acceptEdit_coerced (h : acceptEdit properties name value = .ok v) :
    ∃ p ∈ properties, p.name = name ∧
      ∃ kind, p.kind = .ok kind ∧ kind ≠ .title ∧ kind ≠ .readOnly ∧
        coerce? kind value = some v := by
  unfold acceptEdit at h
  split at h
  case h_1      => cases h
  case h_2 p hp =>
    refine ⟨p, List.mem_of_find?_eq_some hp, by simpa using List.find?_some hp, ?_⟩
    cases hk : p.kind with
    | error _ => simp [hk] at h
    | ok kind =>
      simp only [hk] at h
      split at h
      case isTrue     => cases h
      case isFalse hn =>
        cases hc : coerce? kind value with
        | none   => simp [hc] at h
        | some _ =>
          simp only [hc, Except.ok.injEq] at h
          exact ⟨kind, rfl, not_or.mp hn |>.left, not_or.mp hn |>.right, h ▸ hc⟩

theorem acceptEdit_declared (h : acceptEdit properties name value = .ok v) :
    ∃ p ∈ properties, p.name = name ∧ p.kind ≠ .ok .readOnly := by
  have ⟨p, hp, hn, kind, hk, _, hr, _⟩ := acceptEdit_coerced h
  exact ⟨p, hp, hn, fun he => hr <| Except.ok.inj <| hk.symm.trans he⟩

-- An accepted edit sets the value and runs the rules that read the property, unless the property
-- has the value already.
theorem edit_of_accepted (h : acceptEdit properties name value = .ok v) :
    e.edit properties b name value =
      if b.get? name == some v then .ok (b, [])
      else .ok (
        (runAll (e.dependents properties name) (b.insert name v)).1,
        (name :: (runAll (e.dependents properties name) (b.insert name v)).2).eraseDups) := by
  rw [edit, h]
  rfl

theorem accepted_of_edit (h : e.edit properties b name value = .ok (b', changed)) :
    ∃ v, acceptEdit properties name value = .ok v := by
  cases ha : acceptEdit properties name value with
  | error _ => simp [edit, ha, bind, Except.bind] at h
  | ok v    => exact ⟨v, rfl⟩

namespace Layered

theorem apart (l : e.Layered properties) : Apart e.derivations where
  textual d hd := by
    obtain ⟨_, _, _, _, rfl⟩ := l.webhooks d hd
    exact webhook_textual ..
  targets := l.targets
  inputs d hd d' hd' := l.inputs d.target (List.mem_map_of_mem hd) d' hd'

theorem declared_apart (l : e.Layered properties) : Apart (e.declared properties) :=
  l.apart.sublist declared_sublist

theorem dependents_apart (l : e.Layered properties) : Apart (e.dependents properties name) :=
  l.declared_apart.sublist dependents_sublist

theorem not_mem_targets (l : e.Layered properties)
    (h : acceptEdit properties name value = .ok v) : name ∉ e.targets := by
  obtain ⟨p, hp, rfl, hk⟩ := acceptEdit_declared h
  exact fun hn => hk <| l.readOnly p hp hn

theorem consistent_iff (l : e.Layered properties) : e.Consistent properties b ↔
    ∀ d ∈ e.declared properties, b.get? d.target = d.compute b :=
  l.declared_apart.runAll_eq_self_iff

theorem derive_consistent (l : e.Layered properties) :
    e.Consistent properties (e.derive properties b).1 := by
  refine l.consistent_iff.mpr fun d hd => ?_
  rw [derive, l.declared_apart.get?_runAll hd, l.declared_apart.compute_runAll hd]

-- To run the rules that read a property is enough after a change of it.
theorem runAll_dependents (l : e.Layered properties) (c : e.Consistent properties b)
    (hn : name ∉ e.targets) : (runAll (e.dependents properties name) (b.insert name v)).1 =
      (e.derive properties (b.insert name v)).1 := by
  refine Dict.ext_get? fun k => ?_
  by_cases hk : k ∈ (e.declared properties).map (·.target)
  case neg =>
    have hk' : k ∉ (e.dependents properties name).map (·.target) :=
      mt (fun h => (dependents_sublist.map _).subset h) hk
    rw [derive, get?_runAll_of_not_mem hk, get?_runAll_of_not_mem hk']
  case pos =>
    obtain ⟨d, hd, rfl⟩ := List.mem_map.mp hk
    rw [derive, l.declared_apart.get?_runAll hd]
    by_cases hi : name ∈ d.inputs
    case pos => exact l.dependents_apart.get?_runAll <| mem_dependents_iff.mpr ⟨hd, hi⟩
    case neg =>
      have hd' : d.target ∉ (e.dependents properties name).map (·.target) := by
        intro h
        obtain ⟨d', h, ht⟩ := List.mem_map.mp h
        have ⟨hm, hi'⟩ := mem_dependents_iff.mp h
        exact hi <| List.inj_on_of_nodup_map l.declared_apart.targets hm hd ht ▸ hi'
      have hne : d.target ≠ name := fun h =>
        hn <| h ▸ List.mem_map_of_mem (declared_sublist.subset hd)
      have hc : d.compute b = d.compute (b.insert name v) :=
        (l.declared_apart.textual d hd).compute_eq fun k hk => by
          rw [Dict.get?_insert, if_neg fun h : k = name => hi <| h ▸ hk]
      rw [get?_runAll_of_not_mem hd', Dict.get?_insert, if_neg hne, ← hc]
      exact l.consistent_iff.mp c d hd

end Layered

-- What comes of an edit of a property of consistent values: it is as if all derived fields were
-- derived anew, the names that are given are of what differs, and under all others stands the very
-- same.
structure Recomputes (e : Engine) (properties : List Property) (b : ValueBag) (name : String)
    (v : Json) (b' : ValueBag) (changed : List String) : Prop where
  same       : b'.Same (e.derive properties (b.insert name v)).1
  consistent : e.Consistent properties b'
  order      : changed = [] ∨ ∃ rest, changed = name :: rest ∧
    rest.Sublist ((e.declared properties).map (·.target))
  nodup      : changed.Nodup
  differ     : ∀ k ∈ changed, (b.get? k == b'.get? k) = false
  others     : ∀ k ∉ changed, b.get? k = b'.get? k

namespace Layered

-- An edit to what counts as the same value: no text is another, so nothing has to be derived.
theorem recomputes_of_beq (l : e.Layered properties) (c : e.Consistent properties b)
    (hv : b.get? name == some v) (hn : name ∉ e.targets) :
    e.Recomputes properties b name v b [] where
  same := by
    have hs : ∀ k, b.SameAt (b.insert name v) k := by
      intro k
      rw [ValueBag.SameAt, Dict.get?_insert]
      split
      case isTrue h => exact .inr (h ▸ hv)
      case isFalse  => exact .inl rfl
    have hc : e.Consistent properties (b.insert name v) := l.consistent_iff.mpr fun d hd => by
      have hne : d.target ≠ name := fun h =>
        hn <| h ▸ List.mem_map_of_mem (declared_sublist.subset hd)
      rw [Dict.get?_insert, if_neg hne, l.consistent_iff.mp c d hd]
      exact (l.declared_apart.textual d hd).reads _ _ fun k _ => (hs k).text?_eq
    rw [show (e.derive properties (b.insert name v)).1 = b.insert name v from hc]
    exact hs
  consistent := c
  order  := .inl rfl
  nodup  := .nil
  differ := by simp
  others := by simp

theorem recomputes_of_ne (l : e.Layered properties) (c : e.Consistent properties b)
    (hv : (b.get? name == some v) = false) (hn : name ∉ e.targets) :
    e.Recomputes properties b name v (runAll (e.dependents properties name) (b.insert name v)).1
      (name :: (runAll (e.dependents properties name) (b.insert name v)).2) := by
  let r := runAll (e.dependents properties name) (b.insert name v)
  have hr : r.1 = (e.derive properties (b.insert name v)).1 := l.runAll_dependents c hn
  have hd : (e.dependents properties name).map (·.target) ⊆ e.targets :=
    ((dependents_sublist.trans declared_sublist).map _).subset
  have hs : r.2.Sublist ((e.dependents properties name).map (·.target)) :=
    l.dependents_apart.runAll_changed ▸ List.filter_sublist.map _
  have hb : ∀ k ∈ e.targets, (b.insert name v).get? k = b.get? k := fun k hk => by
    rw [Dict.get?_insert, if_neg fun h : k = name => hn <| h ▸ hk]
  have hc : ∀ d ∈ e.dependents properties name, r.1.get? d.target = d.compute (b.insert name v) :=
    fun d h => l.dependents_apart.get?_runAll h
  exact {
    same       := fun _ => .inl <| hr ▸ rfl
    consistent := hr ▸ l.derive_consistent
    order      := .inr ⟨_, rfl, hs.trans <| dependents_sublist.map _⟩
    nodup      := List.nodup_cons.mpr
      ⟨fun h => hn <| hd <| hs.subset h, l.dependents_apart.targets.sublist hs⟩
    differ k hk := by
      cases hk with
      | head     =>
        rw [get?_runAll_of_not_mem fun h => hn (hd h), Dict.get?_insert,
          if_pos rfl, hv]
      | tail _ h =>
        rw [l.dependents_apart.runAll_changed] at h
        obtain ⟨d, hf, rfl⟩ := List.mem_map.mp h
        have ⟨hm, hne⟩ := List.mem_filter.mp hf
        rw [hc d hm, ← hb d.target (hd <| List.mem_map_of_mem hm)]
        simpa using hne
    others k hk := by
      have ⟨hkn, hkr⟩ : k ≠ name ∧ k ∉ r.2 := by simpa only [List.mem_cons, not_or] using hk
      by_cases hm : k ∈ (e.dependents properties name).map (·.target)
      case neg =>
        rw [get?_runAll_of_not_mem hm, Dict.get?_insert, if_neg hkn]
      case pos =>
        obtain ⟨d, h, rfl⟩ := List.mem_map.mp hm
        rw [hc d h, ← hb d.target (hd hm)]
        apply (l.dependents_apart.textual d h).beq_compute_iff.mp
        by_contra hne
        refine hkr <| l.dependents_apart.runAll_changed ▸ List.mem_map_of_mem ?_
        exact List.mem_filter.mpr ⟨h, by simpa using hne⟩ }

theorem edit_recomputes (l : e.Layered properties) (c : e.Consistent properties b)
    (h : e.edit properties b name value = .ok (b', changed)) :
    ∃ v, acceptEdit properties name value = .ok v ∧
      e.Recomputes properties b name v b' changed := by
  have ⟨v, ha⟩ := accepted_of_edit h
  have hn := l.not_mem_targets ha
  refine ⟨v, ha, ?_⟩
  rw [edit_of_accepted ha] at h
  split at h
  case isTrue hv =>
    cases h
    exact l.recomputes_of_beq c hv hn
  case isFalse hv =>
    have r := l.recomputes_of_ne c (by simpa using hv) hn
    rw [eraseDups_of_nodup r.nodup] at h
    cases h
    exact r

end Layered

-- Runs of accepted edits.
inductive Edits (e : Engine) (properties : List Property) : ValueBag → ValueBag → Prop
  | refl {b : ValueBag} : Edits e properties b b
  | step {b₁ b₂ b₃ : ValueBag} {name : String} {value : Json} {changed : List String} :
    e.edit properties b₁ name value = .ok (b₂, changed) → Edits e properties b₂ b₃ →
    Edits e properties b₁ b₃

namespace Edits

theorem consistent (r : e.Edits properties b b') (l : e.Layered properties)
    (c : e.Consistent properties b) : e.Consistent properties b' := by
  induction r with
  | refl        => exact c
  | step h _ ih =>
    have ⟨_, _, r⟩ := l.edit_recomputes c h
    exact ih r.consistent

-- What no property is declared for stays as it is.
theorem get?_undeclared (r : e.Edits properties b b') (l : e.Layered properties)
    (c : e.Consistent properties b) {k : String} (hk : k ∉ properties.map (·.name)) :
    b.get? k = b'.get? k := by
  induction r with
  | refl        => rfl
  | step h _ ih =>
    have ⟨_, ha, r⟩ := l.edit_recomputes c h
    refine (r.others k fun hm => hk ?_).trans <| ih r.consistent
    rcases r.order with he | ⟨rest, he, hs⟩
    · simp [he] at hm
    · rw [he] at hm
      cases hm with
      | head     =>
        obtain ⟨p, hp, hn, _⟩ := acceptEdit_declared ha
        exact List.mem_map.mpr ⟨p, hp, hn⟩
      | tail _ h =>
        obtain ⟨d, hd, rfl⟩ := List.mem_map.mp <| hs.subset h
        exact (mem_declared_iff.mp hd).right

-- Two runs that end with the same plain values end with the same derived values.
theorem same {b₁ b₂ : ValueBag} (r₁ : e.Edits properties b b₁) (r₂ : e.Edits properties b b₂)
    (l : e.Layered properties) (c : e.Consistent properties b)
    (h : ∀ k ∉ e.targets, b₁.SameAt b₂ k) : b₁.Same b₂ := by
  intro k
  by_cases hk : k ∈ e.targets
  case neg => exact h k hk
  case pos =>
    obtain ⟨d, hd, rfl⟩ := List.mem_map.mp hk
    by_cases hp : d.target ∈ properties.map (·.name)
    case neg => exact .inl <| (r₁.get?_undeclared l c hp).symm.trans <| r₂.get?_undeclared l c hp
    case pos =>
      have hm := mem_declared_iff.mpr ⟨hd, hp⟩
      have hc : d.compute b₁ = d.compute b₂ := (l.apart.textual d hd).reads _ _ fun i hi =>
        (h i fun hi' => l.inputs i hi' d hd hi).text?_eq
      have h₁ := l.consistent_iff.mp (r₁.consistent l c) d hm
      have h₂ := l.consistent_iff.mp (r₂.consistent l c) d hm
      exact .inl <| h₁.trans <| hc.trans h₂.symm

end Edits

-- To derive only what depends on an edited property comes to the same as to derive everything, and
-- so derived values follow from plain ones whatever way the edits went.
theorem edits_follow_plain_values (l : e.Layered properties) (c : e.Consistent properties b) :
    (∀ name value b' changed, e.edit properties b name value = .ok (b', changed) →
      ∃ v, acceptEdit properties name value = .ok v ∧
        e.Recomputes properties b name v b' changed) ∧
    ∀ b₁ b₂, e.Edits properties b b₁ → e.Edits properties b b₂ →
      (∀ k ∉ e.targets, b₁.SameAt b₂ k) → b₁.Same b₂ :=
  ⟨fun _ _ _ _ h => l.edit_recomputes c h, fun _ _ r₁ r₂ h => r₁.same r₂ l c h⟩

-- A form of webhooks, and what it holds after the path is entered, or the number of retries, or
-- both.

def hooks : Engine :=
  standard "https://hooks.example.com/"

def hookForm : List Property := [
  .plain "path" "text",
  .plain "retries" "range",
  .plain "webhookUrl" "read_only"]

def address : Json :=
  .str "https://hooks.example.com/webhook/orders"

def withPath : ValueBag :=
  Dict.ofList [("path", .str "/orders"), ("webhookUrl", address)]

def withRetries (n : Float) : ValueBag :=
  Dict.ofList [("retries", .num (.float n))]

def withBoth (n : Float) : ValueBag :=
  Dict.ofList [("path", .str "/orders"), ("retries", .num (.float n)), ("webhookUrl", address)]

theorem hooks_layered : hooks.Layered hookForm where
  webhooks d hd := by
    cases List.mem_singleton.mp hd
    exact ⟨_, _, _, _, rfl⟩
  targets  := by decide
  inputs   := by decide
  readOnly := by
    have ht : PropertyKind.ofTag "read_only" = .ok .readOnly := by decide +kernel
    simp [hookForm, hooks, standard, targets, Derivation.standardWebhook, Derivation.webhook,
      Property.plain, Property.kind, ht]

theorem hooks_consistent : hooks.Consistent hookForm {} := by
  cbv

theorem edit_path : hooks.edit hookForm {} "path" (.str "/orders") =
    .ok (withPath, ["path", "webhookUrl"]) := by
  cbv

theorem edit_retries (n : Float) : hooks.edit hookForm {} "retries" (.num (.float n)) =
    .ok (withRetries n, ["retries"]) := by
  cbv

theorem edit_path_retries (n : Float) :
    hooks.edit hookForm withPath "retries" (.num (.float n)) = .ok (withBoth n, ["retries"]) := by
  cbv

theorem edit_retries_path (n : Float) :
    hooks.edit hookForm (withRetries n) "path" (.str "/orders") =
      .ok (withBoth n, ["path", "webhookUrl"]) := by
  cbv

theorem edits_path_retries (n : Float) : hooks.Edits hookForm {} (withBoth n) :=
  .step edit_path <| .step (edit_path_retries n) .refl

theorem edits_retries_path (n : Float) : hooks.Edits hookForm {} (withBoth n) :=
  .step (edit_retries n) <| .step (edit_retries_path n) .refl

-- The two zeros are the same number of retries.
theorem withBoth_sameAt_zero (k : String) : (withBoth 0.0).SameAt (withBoth (-0.0)) k := by
  have h (n : Float) : (withBoth n).get? k =
      if k = "retries" then some (.num (.float n)) else withPath.get? k := by
    simp only [withBoth, withPath, Dict.get?_ofList, List.reverse_cons, List.reverse_nil,
      List.nil_append, List.cons_append, Dict.lookup_cons_eq]
    split <;> split <;> simp_all
  have hz : ((0.0 : Float) == -0.0) = true := by decide +kernel
  rw [ValueBag.SameAt, h, h]
  split
  case isTrue  => exact .inr hz
  case isFalse => exact .inl rfl

theorem edits_follow_plain_values_hooks :
    hooks.Layered hookForm ∧ hooks.Consistent hookForm {} ∧
    (∃ v, acceptEdit hookForm "path" (.str "/orders") = .ok v ∧
      hooks.Recomputes hookForm {} "path" v withPath ["path", "webhookUrl"]) ∧
    hooks.Edits hookForm {} (withBoth 0.0) ∧ hooks.Edits hookForm {} (withBoth (-0.0)) ∧
    (withBoth 0.0).Same (withBoth (-0.0)) := by
  have h := edits_follow_plain_values hooks_layered hooks_consistent
  refine ⟨hooks_layered, hooks_consistent, ?_, edits_path_retries 0.0, edits_retries_path (-0.0),
    ?_⟩
  · exact h.left _ _ _ _ edit_path
  · exact h.right _ _ (edits_path_retries 0.0) (edits_retries_path (-0.0)) fun k _ =>
      withBoth_sameAt_zero k

end Engine

end NodeEditor
