import NodeEditor.Proofs.Form.Conform
import NodeEditor.Proofs.Form.Edit
import NodeEditor.Proofs.Form.Hydrate

namespace NodeEditor

variable {e : Engine} {properties : List Property} {p : Property} {kind : PropertyKind}
  {b : ValueBag} {name : String} {value v : Json}

-- Under the name of every property that has a kind stands a value of that kind, or nothing.
def WellTyped (properties : List Property) (b : ValueBag) : Prop :=
  ∀ p ∈ properties, ∀ kind, p.kind = .ok kind → ∀ v, b.get? p.name = some v →
    kind.valueType.accepts v

-- A value that may stand under a name.
def Suits (properties : List Property) (name : String) (v : Json) : Prop :=
  ∀ p ∈ properties, p.name = name → ∀ kind, p.kind = .ok kind → kind.valueType.accepts v

theorem Property.alone_of_nodup (hn : (properties.map (·.name)).Nodup) (hp : p ∈ properties) :
    p.Alone properties :=
  fun _ hp' he => List.inj_on_of_nodup_map hn hp' hp he

-- What was read for a property may stand under its name if it is the only one of that name.
theorem suits_of_coerce? (ha : p.Alone properties) (hk : p.kind = .ok kind)
    (hc : coerce? kind value = some v) : Suits properties p.name v := by
  intro p' hp' he kind' hk'
  cases ha p' hp' he
  cases hk.symm.trans hk'
  exact coerce?_accepts hc

namespace Derivation

variable {d : Derivation}

-- What the rule makes of well-typed values may stand under its target. It is stored unchecked.
def Suited (properties : List Property) (d : Derivation) : Prop :=
  ∀ b, WellTyped properties b → ∀ v, d.compute b = some v → Suits properties d.target v

theorem Suited.of_texts (ht : ∀ b v, d.compute b = some v → ∃ s, v = .str s)
    (hf : ∀ s, Suits properties d.target (.str s)) : d.Suited properties := by
  intro b _ v hc
  have ⟨s, hs⟩ := ht b v hc
  exact hs ▸ hf s

end Derivation

namespace WellTyped

theorem insert (w : WellTyped properties b) (s : Suits properties name v) :
    WellTyped properties (b.insert name v) := by
  intro p hp kind hk u hu
  rw [Dict.get?_insert] at hu
  split at hu
  case isTrue h => exact Option.some.inj hu ▸ s p hp h kind hk
  case isFalse  => exact w p hp kind hk u hu

theorem erase (w : WellTyped properties b) : WellTyped properties (b.erase name) := by
  intro p hp kind hk u hu
  rw [Dict.get?_erase] at hu
  split at hu
  case isTrue  => cases hu
  case isFalse => exact w p hp kind hk u hu

theorem hydrate (w : WellTyped properties b) (hn : (properties.map (·.name)).Nodup)
    (secret : Dict Json) : WellTyped properties (hydrate properties b secret).1 := by
  intro p hp kind hk v hv
  rw [get?_hydrate_of_alone hp <| Property.alone_of_nodup hn hp] at hv
  cases hf : p.filling? secret with
  | none   => exact w p hp kind hk v <| by simpa [hf] using hv
  | some u =>
    have ⟨kind', value, hk', _, _, hc⟩ := Property.filling?_eq_some_iff.mp hf
    cases hk.symm.trans hk'
    have : u = v := by simpa [hf] using hv
    exact this ▸ coerce?_accepts hc

theorem runRule {d : Derivation} {changed : List String} (w : WellTyped properties b)
    (h : ∀ v, d.compute b = some v → Suits properties d.target v) :
    WellTyped properties (Derivation.run (b, changed) d).1 := by
  cases hc : d.compute b with
  | some v =>
    simp only [Derivation.run, hc]
    split
    case isTrue  => exact w
    case isFalse => exact w.insert <| h v hc
  | none   =>
    simp only [Derivation.run, hc]
    split
    case isTrue  => exact w.erase
    case isFalse => exact w

theorem runAll {rules : List Derivation} (w : WellTyped properties b)
    (h : ∀ d ∈ rules, d.Suited properties) : WellTyped properties (Derivation.runAll rules b).1 := by
  suffices ∀ s : ValueBag × List String, WellTyped properties s.1 →
      WellTyped properties (rules.foldl Derivation.run s).1 from this (b, []) w
  induction rules with
  | nil            => exact fun _ w => w
  | cons d rest ih =>
    have ⟨hd, hr⟩ := List.forall_mem_cons.mp h
    exact fun s w => ih hr _ <| w.runRule <| hd s.1 w

end WellTyped

-- What may be done to the values of a form: an edit, accepted or not, a secret that is filled in,
-- and all derived fields anew.
inductive Change where
  | edit (name : String) (value : Json)
  | hydrate (secret : Dict Json)
  | derive

namespace Engine

open NodeEditor.Derivation

def after (e : Engine) (properties : List Property) (b : ValueBag) : Change → ValueBag
  | .edit name value =>
    match e.edit properties b name value with
    | .ok (b, _) => b
    | .error _   => b
  | .hydrate secret  => (NodeEditor.hydrate properties b secret).1
  | .derive          => (e.derive properties b).1

def run (e : Engine) (properties : List Property) (b : ValueBag) (changes : List Change) :
    ValueBag :=
  changes.foldl (e.after properties) b

theorem edit_wellTyped (hn : (properties.map (·.name)).Nodup)
    (hs : ∀ d ∈ e.derivations, d.Suited properties) (w : WellTyped properties b) {b' : ValueBag}
    {changed : List String}
    (h : e.edit properties b name value = .ok (b', changed)) : WellTyped properties b' := by
  have ⟨v, ha⟩ := accepted_of_edit h
  rw [edit_of_accepted ha] at h
  split at h
  case isTrue  => cases h; exact w
  case isFalse =>
    cases h
    have ⟨p, hp, he, kind, hk, _, _, hc⟩ := acceptEdit_coerced ha
    have hv : Suits properties name v :=
      he ▸ suits_of_coerce? (Property.alone_of_nodup hn hp) hk hc
    exact (w.insert hv).runAll fun d hd =>
      hs d <| declared_sublist.subset <| dependents_sublist.subset hd

theorem after_wellTyped (hn : (properties.map (·.name)).Nodup)
    (hs : ∀ d ∈ e.derivations, d.Suited properties) (w : WellTyped properties b)
    (change : Change) : WellTyped properties (e.after properties b change) := by
  cases change with
  | edit name value =>
    simp only [after]
    split
    case h_1 he => exact edit_wellTyped hn hs w he
    case h_2    => exact w
  | hydrate secret  => exact w.hydrate hn secret
  | derive          => exact w.runAll fun d hd => hs d <| declared_sublist.subset hd

-- Whatever is done to well-typed values leaves them well-typed, as long as no rule computes a value
-- that its target cannot hold.
theorem run_wellTyped (hn : (properties.map (·.name)).Nodup)
    (hs : ∀ d ∈ e.derivations, d.Suited properties) (w : WellTyped properties b)
    (changes : List Change) : WellTyped properties (e.run properties b changes) := by
  induction changes generalizing b with
  | nil                 => exact w
  | cons change rest ih => exact ih <| after_wellTyped hn hs w change

-- A path and a number of retries are entered, one edit is refused, a secret brings a number for the
-- path and a wrong address, which is derived anew in the end.
def hookChanges : List Change := [
  .edit "path" (.str "/orders"),
  .edit "retries" (.num (.int 3)),
  .edit "retries" (.str "many"),
  .hydrate (Dict.ofList [("path", .num (.int 5)), ("webhookUrl", .bool true)]),
  .derive]

def entered : ValueBag :=
  Dict.ofList [
    ("path", .str "5"),
    ("retries", .num (.int 3)),
    ("webhookUrl", .str "https://hooks.example.com/webhook/5")]

theorem run_hookChanges : hooks.run hookForm {} hookChanges = entered := by
  cbv

theorem hooks_suited : ∀ d ∈ hooks.derivations, d.Suited hookForm := by
  intro d hd
  obtain ⟨_, _, _, _, he⟩ := hooks_layered.webhooks d hd
  refine .of_texts (he ▸ (webhook_textual ..).text) fun _ p hp hn kind hk => ?_
  cases hk.symm.trans <| hooks_layered.readOnly p hp <| hn ▸ List.mem_map_of_mem hd
  rfl

theorem run_wellTyped_hooks :
    (hookForm.map (·.name)).Nodup ∧ (∀ d ∈ hooks.derivations, d.Suited hookForm) ∧
    WellTyped hookForm {} ∧ hooks.run hookForm {} hookChanges = entered ∧
    WellTyped hookForm entered := by
  have hn : (hookForm.map (·.name)).Nodup := by decide
  have hw : WellTyped hookForm {} := fun _ _ _ _ _ h => by cases h
  have hr := run_wellTyped hn hooks_suited hw hookChanges
  exact ⟨hn, hooks_suited, hw, run_hookChanges, run_hookChanges ▸ hr⟩

def measuredForm : List Property := [
  .plain "path" "text",
  .plain "length" "text"]

-- The number of characters in a path.
def pathLength : Derivation where
  target := "length"
  inputs := ["path"]
  compute values := (values.text? "path").map fun path => .num (.int path.length)

-- A rule may compute a number for a property that can hold texts, and then that is what it holds.
theorem derived_number_illTyped :
    let e : Engine := { derivations := [pathLength], credentials := [] }
    (measuredForm.map (·.name)).Nodup ∧
    (∀ d ∈ e.derivations, ∀ s, Suits measuredForm d.target (.str s)) ∧
    WellTyped measuredForm {} ∧
    ¬WellTyped measuredForm (e.run measuredForm {} [.edit "path" (.str "/orders")]) := by
  intro e
  have hk : ∀ p ∈ measuredForm, p.kind = .ok .text := by decide
  have hr : (e.run measuredForm {} [.edit "path" (.str "/orders")]).get? "length" =
      some (.num (.int 7)) := by
    cbv
  refine ⟨by decide, fun _ _ s p hp _ kind h => ?_, fun _ _ _ _ _ h => (by cases h), fun w => ?_⟩
  · cases (hk p hp).symm.trans h
    rfl
  · have hm : .plain "length" "text" ∈ measuredForm := .tail _ <| .head _
    exact Bool.false_ne_true <| w _ hm .text (hk _ hm) _ hr

end Engine

end NodeEditor
