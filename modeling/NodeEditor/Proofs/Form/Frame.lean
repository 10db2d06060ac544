import NodeEditor.Proofs.Form.WellTyped

namespace NodeEditor

theorem nodup_eraseDups {α : Type} [BEq α] [LawfulBEq α] (as : List α) : as.eraseDups.Nodup := by
  match as with
  | []        => exact List.nodup_nil
  | a :: rest =>
    rw [List.eraseDups_cons]
    refine List.nodup_cons.mpr ⟨fun h => ?_, nodup_eraseDups (rest.filter fun b => !b == a)⟩
    simpa using (List.mem_filter.mp <| List.mem_eraseDups.mp h).right
termination_by as.length
decreasing_by exact Nat.lt_succ_of_le <| List.length_filter_le ..

namespace Derivation

variable {d : Derivation} {rules : List Derivation} {b : ValueBag} {s : ValueBag × List String}
  {k : String}

-- All that is not among the names that are given stands as it stood before.
def Frames (b : ValueBag) (s : ValueBag × List String) : Prop :=
  ∀ k ∉ s.2, s.1.get? k = b.get? k

-- Whatever a rule reads and computes, it gives its target if it writes there.
theorem Frames.run (f : Frames b s) (d : Derivation) : Frames b (run s d) := by
  obtain ⟨c, changed⟩ := s
  intro k hk
  simp only [Derivation.run] at hk ⊢
  split at hk
  case h_1 v hc =>
    split at hk
    case isTrue  hv => simpa [hv] using f k hk
    case isFalse hv =>
      obtain ⟨hm, hne⟩ : k ∉ changed ∧ k ≠ d.target := by simpa using hk
      simpa [hv, Dict.get?_insert, hne] using f k hm
  case h_2 hc =>
    split at hk
    case isTrue ht =>
      obtain ⟨hm, hne⟩ : k ∉ changed ∧ k ≠ d.target := by simpa using hk
      simpa [ht, Dict.get?_erase, hne] using f k hm
    case isFalse ht => simpa [ht] using f k hk

theorem Frames.foldl_run (f : Frames b s) (rules : List Derivation) :
    Frames b (rules.foldl Derivation.run s) := by
  induction rules generalizing s with
  | nil            => exact f
  | cons d rest ih => exact ih <| f.run d

end Derivation

namespace Engine

open NodeEditor.Derivation

variable {e : Engine} {properties : List Property} {b b' : ValueBag} {name : String}
  {value v : Json} {changed : List String} {i : Nat} {err err' : FormError}

-- What can hinder an edit, each thing by itself, with its rank among all and the error that tells of
-- it. Of the properties of a name only the first counts.
inductive Hinders (properties : List Property) (name : String) (value : Json) :
    Nat → FormError → Prop
  | unknown (h : ∀ p ∈ properties, p.name ≠ name) :
    Hinders properties name value 0 (.unknownProperty name)
  | unreadable {p : Property} {u : UnknownKind} (hp : properties.find? (·.name = name) = some p)
    (h : p.kind = .error u) :
    Hinders properties name value 1 (.unsupportedKind name u.tag)
  | fixed {p : Property} (hp : properties.find? (·.name = name) = some p)
    (h : p.kind = .ok .title ∨ p.kind = .ok .readOnly) :
    Hinders properties name value 2 (.notEditable name)
  | misfit {p : Property} {kind : PropertyKind} (hp : properties.find? (·.name = name) = some p)
    (hk : p.kind = .ok kind) (h : coerce? kind value = none) :
    Hinders properties name value 3 (.typeMismatch name kind.valueType)

-- An edit is rejected with the error of the first thing that hinders it.
def Rejects (properties : List Property) (name : String) (value : Json) (err : FormError) : Prop :=
  ∃ i, Hinders properties name value i err ∧ ∀ j < i, ∀ err', ¬Hinders properties name value j err'

theorem Hinders.unique (h : Hinders properties name value i err)
    (h' : Hinders properties name value i err') : err = err' := by
  cases h <;> cases h' <;> simp_all

theorem Rejects.unique (h : Rejects properties name value err)
    (h' : Rejects properties name value err') : err = err' := by
  obtain ⟨i, hi, hf⟩ := h
  obtain ⟨j, hj, hf'⟩ := h'
  rcases Nat.lt_trichotomy i j with hlt | rfl | hlt
  · exact absurd hi <| hf' i hlt err
  · exact hi.unique hj
  · exact absurd hj <| hf j hlt err'

theorem not_hinders_of_accepted (h : acceptEdit properties name value = .ok v) :
    ¬Hinders properties name value i err := by
  intro hh
  cases hh with
  | unknown hn       =>
    have hp : properties.find? (·.name = name) = none := by simpa using hn
    simp [acceptEdit, hp] at h
  | unreadable hp hk => simp [acceptEdit, hp, hk] at h
  | fixed hp hk      => rcases hk with hk | hk <;> simp [acceptEdit, hp, hk] at h
  | misfit hp hk hc  =>
    simp only [acceptEdit, hp, hk, hc] at h
    split at h <;> cases h

-- What is looked at later has come through all that is looked at before.
theorem Rejects.of_acceptEdit (h : acceptEdit properties name value = .error err) :
    Rejects properties name value err := by
  unfold acceptEdit at h
  split at h
  case h_1 hn =>
    cases h
    exact ⟨0, .unknown <| by simpa using hn, fun j hj => absurd hj j.not_lt_zero⟩
  case h_2 p hp =>
  have hm : p ∈ properties := List.mem_of_find?_eq_some hp
  have hn : p.name = name := by simpa using List.find?_some hp
  split at h
  case h_1 u hk =>
    cases h
    refine ⟨1, hn ▸ .unreadable (hn ▸ hp) hk, fun j hj err' hh => ?_⟩
    cases hh with
    | unknown h => exact h p hm hn
    | _         => omega
  case h_2 kind hk =>
  split at h
  case isTrue hf =>
    cases h
    refine ⟨2, hn ▸ .fixed (hn ▸ hp) (by simpa [hk] using hf), fun j hj err' hh => ?_⟩
    cases hh with
    | unknown h => exact h p hm hn
    | unreadable hp' hk' => simp_all
    | _         => omega
  case isFalse hf =>
  split at h
  case h_2 => cases h
  case h_1 hc =>
    cases h
    refine ⟨3, hn ▸ .misfit (hn ▸ hp) hk hc, fun j hj err' hh => ?_⟩
    cases hh <;> simp_all

theorem acceptEdit_error_iff :
    acceptEdit properties name value = .error err ↔ Rejects properties name value err := by
  refine ⟨.of_acceptEdit, fun r => ?_⟩
  cases ha : acceptEdit properties name value with
  | error _ => rw [(Rejects.of_acceptEdit ha).unique r]
  | ok _    =>
    have ⟨_, hh, _⟩ := r
    exact absurd hh <| not_hinders_of_accepted ha

theorem edit_error_iff :
    e.edit properties b name value = .error err ↔ Rejects properties name value err := by
  rw [← acceptEdit_error_iff]
  cases ha : acceptEdit properties name value with
  | error _ => simp [edit, ha, bind, Except.bind]
  | ok _    =>
    rw [edit_of_accepted ha]
    split <;> simp

-- What an accepted edit tells of what it did. What stands under the name of a property that no longer
-- shows stays, unless it is edited itself or derived from what is edited.
structure Reports (e : Engine) (properties : List Property) (b : ValueBag) (name : String)
    (b' : ValueBag) (changed : List String) : Prop where
  nodup  : changed.Nodup
  others : ∀ k ∉ changed, b'.get? k = b.get? k
  idle   : changed = [] → b' = b
  hidden : ∀ p ∈ properties, isVisible p b → ¬isVisible p b' → p.name ≠ name →
    (∀ d ∈ e.derivations, name ∈ d.inputs → d.target ≠ p.name) → b'.get? p.name = b.get? p.name

theorem edit_reports (h : e.edit properties b name value = .ok (b', changed)) :
    e.Reports properties b name b' changed := by
  have ⟨v, ha⟩ := accepted_of_edit h
  rw [edit_of_accepted ha] at h
  split at h
  case isTrue =>
    cases h
    exact ⟨.nil, fun _ _ => rfl, fun _ => rfl, fun _ _ _ _ _ _ => rfl⟩
  case isFalse =>
    cases h
    let r := runAll (e.dependents properties name) (b.insert name v)
    have hf : Frames (b.insert name v) r :=
      Frames.foldl_run (s := (b.insert name v, [])) (fun _ _ => rfl) _
    have ho : ∀ k ∉ (name :: r.2).eraseDups, r.1.get? k = b.get? k := fun k hk => by
      have ⟨hn, hr⟩ : k ≠ name ∧ k ∉ r.2 := by simpa using hk
      rw [hf k hr, Dict.get?_insert, if_neg hn]
    refine ⟨nodup_eraseDups _, ho, fun h => Dict.ext_get? fun k => ho k <| h ▸ List.not_mem_nil, ?_⟩
    intro p _ _ _ hn ht
    have hd : p.name ∉ (e.dependents properties name).map (·.target) := by
      intro hm
      obtain ⟨d, hd, he⟩ := List.mem_map.mp hm
      have ⟨hd, hi⟩ := mem_dependents_iff.mp hd
      exact ht d (declared_sublist.subset hd) hi he
    rw [get?_runAll_of_not_mem hd, Dict.get?_insert, if_neg hn]

-- Whether properties show plays no part in an edit.
theorem edit_display (display : Property → Option Display) :
    e.edit (properties.map fun p => { p with display := display p }) b name value =
      e.edit properties b name value := by
  have ha : acceptEdit (properties.map fun p => { p with display := display p }) name value =
      acceptEdit properties name value := by
    simp only [acceptEdit, List.find?_map, Function.comp_def]
    cases properties.find? (·.name = name) <;> rfl
  have hd : e.declared (properties.map fun p => { p with display := display p }) =
      e.declared properties := by
    simp only [declared, List.any_map, Function.comp_def]
  rw [edit, edit, ha, hd]

-- An edit is done as a whole, with all that changed told, or not at all, for the first thing that
-- hinders it. This holds of any rules, whatever they read and write.
theorem edit_whole (e : Engine) (properties : List Property) (b : ValueBag) (name : String)
    (value : Json) :
    ((∃ err, e.edit properties b name value = .error err) ↔
      ∃ i err, Hinders properties name value i err) ∧
    (∀ err, (e.edit properties b name value = .error err ↔ Rejects properties name value err) ∧
      (e.edit properties b name value = .error err →
        e.after properties b (.edit name value) = b)) ∧
    (∀ b' changed, e.edit properties b name value = .ok (b', changed) →
      e.after properties b (.edit name value) = b' ∧ e.Reports properties b name b' changed) ∧
    ∀ display : Property → Option Display,
      e.edit (properties.map fun p => { p with display := display p }) b name value =
        e.edit properties b name value := by
  refine ⟨⟨fun ⟨err, h⟩ => ?_, fun ⟨i, err, h⟩ => ?_⟩, fun err => ⟨edit_error_iff, fun h => ?_⟩,
    fun b' changed h => ⟨?_, edit_reports h⟩, edit_display⟩
  · have ⟨i, hh, _⟩ := edit_error_iff.mp h
    exact ⟨i, err, hh⟩
  · cases he : e.edit properties b name value with
    | error err' => exact ⟨err', rfl⟩
    | ok _       =>
      have ⟨v, ha⟩ := accepted_of_edit he
      exact absurd h <| not_hinders_of_accepted ha
  · simp [after, h]
  · simp [after, h]

-- Two rules for one target, of which the second clears what the first writes, and a third that reads
-- it; two properties of one name, of which the second has no kind; and a note that shows for one path
-- only.
def tangle : Engine where
  derivations := [
    { target := "url", inputs := ["path"], compute b := b.get? "path" },
    { target := "url", inputs := ["path"], compute _ := none },
    { target := "slug", inputs := ["url", "path"], compute b := b.get? "url" }]
  credentials := []

def note : Property :=
  { Property.plain "note" "text" with display := some { shown := .ofList [("path", .str "a")] } }

def tangleForm : List Property := [
  .plain "path" "text",
  .plain "path" "matrix",
  .plain "url" "read_only",
  .plain "slug" "text",
  note,
  .plain "grid" "matrix"]

def tangled : ValueBag :=
  .ofList [("note", .str "kept"), ("path", .str "a"), ("slug", .str "old")]

def untangled : ValueBag :=
  .ofList [("note", .str "kept"), ("path", .str "b")]

theorem edit_tangle :
    tangle.edit tangleForm tangled "path" (.str "b") = .ok (untangled, ["path", "url", "slug"]) := by
  cbv

theorem edit_whole_tangle :
    tangle.Reports tangleForm tangled "path" untangled ["path", "url", "slug"] ∧
    (isVisible note tangled ∧ ¬isVisible note untangled ∧
      untangled.get? "note" = tangled.get? "note") ∧
    Rejects tangleForm "grid" .null (.unsupportedKind "grid" "matrix") ∧
    Rejects tangleForm "url" .null (.notEditable "url") ∧
    tangle.after tangleForm tangled (.edit "url" .null) = tangled := by
  have hg : tangle.edit tangleForm tangled "grid" .null =
      .error (.unsupportedKind "grid" "matrix") := by cbv
  have hu : tangle.edit tangleForm tangled "url" .null = .error (.notEditable "url") := by cbv
  have hb : isVisible note tangled := by cbv
  have ha : ¬isVisible note untangled := ne_true_of_eq_false <| by cbv
  obtain ⟨-, -, ho, -⟩ := edit_whole tangle tangleForm tangled "path" (.str "b")
  obtain ⟨-, hg', -⟩ := edit_whole tangle tangleForm tangled "grid" .null
  obtain ⟨-, hu', -⟩ := edit_whole tangle tangleForm tangled "url" .null
  obtain ⟨-, hr⟩ := ho _ _ edit_tangle
  have hk := hr.hidden note (by simp [tangleForm]) hb ha (by decide) (by decide)
  exact ⟨hr, ⟨hb, ha, hk⟩, (hg' _).left.mp hg, (hu' _).left.mp hu, (hu' _).right hu⟩

end Engine

end NodeEditor
