import NodeEditor.Catalog.NodeType
import NodeEditor.Proofs.Form.Report
import NodeEditor.Proofs.Form.WellTyped

namespace NodeEditor

variable {e : Engine} {properties before after : List Property} {p : Property} {b : ValueBag}
  {name d : String}

-- A name that no property has.
def Undeclared (properties : List Property) (name : String) : Prop :=
  ∀ p ∈ properties, p.name ≠ name

-- What may be done to the values of a form in the long run: changes, each under rules of its own,
-- and to make all values fit again.
inductive Treatment where
  | change (e : Engine) (c : Change)
  | conform

def Treatment.apply (properties : List Property) (b : ValueBag) : Treatment → ValueBag
  | .change e c => e.after properties b c
  | .conform    => (NodeEditor.conform properties b).1

def treat (properties : List Property) (b : ValueBag) (treatments : List Treatment) : ValueBag :=
  treatments.foldl (Treatment.apply properties) b

namespace Undeclared

-- Nothing that is done to the values touches what stands under a name that no property has.

theorem get?_runAll (u : Undeclared properties name) {rules : List Derivation}
    (h : rules.Sublist (e.declared properties)) :
    (Derivation.runAll rules b).1.get? name = b.get? name := by
  refine Derivation.get?_runAll_of_not_mem fun hm => ?_
  obtain ⟨r, hr, rfl⟩ := List.mem_map.mp hm
  obtain ⟨p, hp, hn⟩ := List.mem_map.mp (Engine.mem_declared_iff.mp <| h.subset hr).right
  exact u p hp hn

theorem get?_edit (u : Undeclared properties name) {target : String} {value : Json}
    {b' : ValueBag} {changed : List String}
    (h : e.edit properties b target value = .ok (b', changed)) :
    b'.get? name = b.get? name := by
  have ⟨v, ha⟩ := Engine.accepted_of_edit h
  have ⟨p, hp, hn, _⟩ := Engine.acceptEdit_coerced ha
  rw [Engine.edit_of_accepted ha] at h
  split at h
  case isTrue  => cases h; rfl
  case isFalse =>
    cases h
    rw [u.get?_runAll Engine.dependents_sublist, Dict.get?_insert, if_neg fun he => ?_]
    exact u p hp <| hn.trans he.symm

theorem get?_hydrate (u : Undeclared properties name) (secret : Dict Json) :
    (hydrate properties b secret).1.get? name = b.get? name := by
  by_contra h
  have ⟨p, hp, hn, _⟩ := get?_hydrate_of_ne h
  exact u p hp hn

theorem get?_apply (u : Undeclared properties name) (t : Treatment) :
    (t.apply properties b).get? name = b.get? name := by
  cases t with
  | conform    => exact get?_conform_of_ne u
  | change e c =>
    cases c with
    | edit target value =>
      rw [Treatment.apply, Engine.after]
      split
      case h_1 h => exact u.get?_edit h
      case h_2   => rfl
    | hydrate secret    => exact u.get?_hydrate secret
    | derive            => exact u.get?_runAll (e := e) <| List.Sublist.refl _

theorem get?_treat (u : Undeclared properties name) (treatments : List Treatment) :
    (treat properties b treatments).get? name = b.get? name := by
  induction treatments generalizing b with
  | nil            => rfl
  | cons t rest ih => exact ih.trans <| u.get?_apply t

end Undeclared

theorem isVisible_of_missing (hd : d ∈ p.dependencies) (hb : b.get? d = none) :
    isVisible p b = false := by
  unfold Property.dependencies at hd
  split at hd
  case h_2      => cases hd
  case h_1 s hs =>
    obtain ⟨w, hw, rfl⟩ := List.mem_map.mp hd
    simp only [isVisible, hs, List.all_eq_false]
    exact ⟨w, hw, by simp [hb]⟩

theorem validate_append_hidden [Pattern.Capacity] (h : isVisible p b = false) :
    validate (before ++ p :: after) b = validate (before ++ after) b := by
  simp [validate, h]

namespace NodeType

open Engine

variable {t : NodeType}

theorem get?_defaults (u : Undeclared t.properties name) : t.defaults.get? name = none := by
  rw [defaults, Dict.get?_ofList]
  refine Dict.lookup_eq_none_of_not_mem fun hm => ?_
  obtain ⟨⟨_, v⟩, hv, rfl⟩ := List.mem_map.mp hm
  obtain ⟨p, hp, hd⟩ := List.mem_filterMap.mp <| List.mem_reverse.mp hv
  obtain ⟨_, _, hn⟩ := Option.map_eq_some_iff.mp hd
  exact u p hp <| congrArg Prod.fst hn

theorem property?_eq_none_iff : t.property? d = none ↔ Undeclared t.properties d := by
  simp [property?, Undeclared]

theorem mem_unresolvedDependencies_iff : (name, d) ∈ t.unresolvedDependencies ↔
    ∃ p ∈ t.properties, p.name = name ∧ d ∈ p.dependencies ∧ Undeclared t.properties d := by
  simp only [unresolvedDependencies, List.mem_flatMap, List.mem_map, List.mem_filter,
    Option.isNone_iff_eq_none, property?_eq_none_iff, Prod.mk.injEq]
  grind

-- A form holds back every property that waits for a value under a name that no property has: all is
-- as if it were not there. The catalog lists just these properties and names.
structure Withholds [Pattern.Capacity] (t : NodeType) (e : Engine) (b : ValueBag) : Prop where
  listed : ∀ name d, (name, d) ∈ t.unresolvedDependencies ↔
    ∃ p ∈ t.properties, p.name = name ∧ d ∈ p.dependencies ∧ Undeclared t.properties d
  hidden : ∀ before p after, t.properties = before ++ p :: after →
    ∀ d ∈ p.dependencies, Undeclared t.properties d →
      e.render t.properties b = e.render (before ++ after) b ∧
      validate t.properties b = validate (before ++ after) b
  silent : ∀ name, (∀ p ∈ t.properties, p.name = name →
      ∃ d ∈ p.dependencies, Undeclared t.properties d) →
    (∀ w ∈ e.render t.properties b, w.property ≠ name) ∧
    (validate t.properties b).errors.contains name = false ∧
    (validate t.properties b).errorsFor name = []

-- Whatever is done to the values that a kind of node starts with, no property that waits for what
-- there is not ever shows.
theorem unresolved_withheld [Pattern.Capacity] (t : NodeType) (treatments : List Treatment)
    (e : Engine) :
    t.Withholds e (treat t.properties t.defaults treatments) := by
  have hv : ∀ p, ∀ d ∈ p.dependencies, Undeclared t.properties d →
      isVisible p (treat t.properties t.defaults treatments) = false := fun p d hd u =>
    isVisible_of_missing hd <| (u.get?_treat treatments).trans <| get?_defaults u
  generalize treat t.properties t.defaults treatments = b at hv
  refine ⟨fun _ _ => mem_unresolvedDependencies_iff, fun before p after ht d hd u => ?_,
    fun name hn => ?_⟩
  case refine_1 =>
    have hp := hv p d hd u
    rw [ht]
    exact ⟨by rw [render_append, render_cons_of_hidden hp, render_append],
      validate_append_hidden hp⟩
  case refine_2 =>
    have hw : ∀ w ∈ e.render t.properties b, w.property ≠ name := fun w hw he => by
      obtain ⟨p, hp, rfl⟩ := List.mem_map.mp hw
      obtain ⟨hp, hs⟩ := List.mem_filter.mp hp
      have ⟨d, hd, u⟩ := hn p hp <| Widget.build_property.symm.trans he
      exact absurd hs <| Bool.not_eq_true _ ▸ hv p d hd u
    have ht : Report.textsFor name ((e.render t.properties b).flatMap Widget.messages) = [] := by
      rw [Widget.textsFor_flatMap, List.filter_eq_nil_iff.mpr (by simpa using hw)]
      rfl
    refine ⟨hw, ?_, ?_⟩
    · rw [e.validate_eq_ofMessages, ← Bool.not_eq_true, Report.contains_ofMessages, ht]
      simp
    · rw [e.validate_eq_ofMessages, Report.errorsFor_ofMessages, ht]

-- A number of retries that waits for a mode, which no property has. A rule, an edit and a secret
-- would set it.

def retries : Property :=
  { Property.plain "retries" "range" with required := true }.shownWhen "mode" (.str "advanced")

def waiting : NodeType :=
  { plain "wait" "Wait" with
    properties := [{ Property.plain "path" "text" with default := some (.str "in") }, retries] }

def modeRule : Derivation where
  target := "mode"
  inputs := ["path"]
  compute _ := some (.str "advanced")

def modeTreatments : List Treatment := [
  .change { bare with derivations := [modeRule] } (.edit "path" (.str "orders")),
  .change { bare with derivations := [modeRule] } .derive,
  .change bare (.edit "mode" (.str "advanced")),
  .change bare (.hydrate (Dict.ofList [("mode", .str "advanced"), ("path", .num (.int 5))])),
  .conform]

theorem unresolved_withheld_waiting :
    let _ : Pattern.Capacity := { fits := fun _ => true }
    waiting.unresolvedDependencies = [("retries", "mode")] ∧
    (treat waiting.properties waiting.defaults modeTreatments).keys = ["path"] ∧
    isVisible retries (Dict.ofList [("mode", .str "advanced")]) ∧
    waiting.Withholds bare (treat waiting.properties waiting.defaults modeTreatments) := by
  intro _
  refine ⟨?_, ?_, ?_, unresolved_withheld waiting modeTreatments bare⟩
  · decide +kernel
  · decide +kernel
  · decide +kernel

end NodeType

end NodeEditor
