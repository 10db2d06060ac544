import NodeEditor.Form.Engine
import NodeEditor.Proofs.Form.Derivation

namespace NodeEditor

theorem lookup_eq_of_mem_iff {α : Type} {entries : List (String × α)} {k : String} {o : Option α}
    (h : ∀ v, (k, v) ∈ entries ↔ o = some v) : entries.lookup k = o := by
  cases hl : entries.lookup k with
  | some v =>
    have ⟨_, _, he, _⟩ := List.lookup_eq_some_iff.mp hl
    exact ((h v).mp <| he ▸ List.mem_append_right _ List.mem_cons_self).symm
  | none   =>
    cases o with
    | none   => rfl
    | some v => simpa using List.lookup_eq_none_iff.mp hl _ <| (h v).mpr rfl

namespace Property

variable {p : Property} {secret : Dict Json} {v : Json}

-- A secret may fill all properties but titles and those that name a credential themselves.
def Fillable (p : Property) : Prop :=
  ∃ kind, p.kind = .ok kind ∧ kind ≠ .credentialSelect ∧ kind ≠ .title

-- What a secret has for a property, in its shape.
def filling? (secret : Dict Json) (p : Property) : Option Json :=
  match p.kind with
  | .ok kind => if fillable kind then (secret.get? p.name).bind (coerce? kind) else none
  | .error _ => none

theorem filling?_eq_some_iff : p.filling? secret = some v ↔
    ∃ kind value, p.kind = .ok kind ∧ fillable kind ∧ secret.get? p.name = some value ∧
      coerce? kind value = some v := by
  cases hk : p.kind with
  | error _ => simp [filling?, hk]
  | ok kind => simp [filling?, hk, Option.bind_eq_some_iff]

theorem fillable_of_filling? (h : p.filling? secret = some v) :
    p.Fillable ∧ (secret.get? p.name).isSome := by
  have ⟨kind, value, hk, hf, hs, _⟩ := filling?_eq_some_iff.mp h
  have hf : kind ≠ .credentialSelect ∧ kind ≠ .title := by simpa [fillable] using hf
  exact ⟨⟨kind, hk, hf⟩, hs ▸ rfl⟩

end Property

open Property

variable {properties : List Property} {p : Property} {secret : Dict Json} {b : ValueBag}
  {name : String} {v : Json}

-- What a secret has for the properties, by their names.
def fillings (properties : List Property) (secret : Dict Json) : List (String × Json) :=
  properties.filterMap fun p => (p.filling? secret).map (p.name, ·)

theorem mem_fillings_iff : (name, v) ∈ fillings properties secret ↔
    ∃ p ∈ properties, p.name = name ∧ p.filling? secret = some v := by
  simp only [fillings, List.mem_filterMap, Option.map_eq_some_iff, Prod.mk.injEq]
  constructor
  case mp  => exact fun ⟨p, hp, _, hf, hn, hv⟩ => ⟨p, hp, hn, hv ▸ hf⟩
  case mpr => exact fun ⟨p, hp, hn, hf⟩ => ⟨p, hp, v, hf, hn, rfl⟩

theorem hydrateProperty_eq (secret : Dict Json) (b : ValueBag) (filled : List String)
    (p : Property) : hydrateProperty secret (b, filled) p =
      match p.filling? secret with
      | some v => (b.insert p.name v, filled ++ [p.name])
      | none   => (b, filled) := by
  simp only [hydrateProperty, filling?]
  cases p.kind with
  | error _ => rfl
  | ok kind =>
    cases hf : fillable kind with
    | false => simp [hf]
    | true  => cases hv : (secret.get? p.name).bind (coerce? kind) <;> simp [hf, hv]

-- To hydrate is to put one after the other over the values.
theorem foldl_hydrateProperty (properties : List Property) (secret : Dict Json) (b : ValueBag)
    (filled : List String) : properties.foldl (hydrateProperty secret) (b, filled) =
      ((fillings properties secret).foldl (fun b e => b.insert e.1 e.2) b,
        filled ++ (fillings properties secret).map Prod.fst) := by
  induction properties generalizing b filled with
  | nil            => simp [fillings]
  | cons p rest ih =>
    rw [List.foldl_cons, hydrateProperty_eq]
    cases hp : p.filling? secret <;> simp [fillings, hp, ih]

-- So of several properties of one name the last counts.
theorem get?_hydrate : (hydrate properties b secret).1.get? name =
    ((fillings properties secret).reverse.lookup name).or (b.get? name) := by
  rw [hydrate, foldl_hydrateProperty]
  exact Dict.get?_insertAll

theorem get?_hydrate_of_ne (h : (hydrate properties b secret).1.get? name ≠ b.get? name) :
    ∃ p ∈ properties, p.name = name ∧ p.Fillable ∧ (secret.get? name).isSome := by
  rw [get?_hydrate] at h
  cases hl : (fillings properties secret).reverse.lookup name with
  | none   => simp [hl] at h
  | some v =>
    have ⟨_, _, he, _⟩ := List.lookup_eq_some_iff.mp hl
    have hm : (name, v) ∈ (fillings properties secret).reverse :=
      he ▸ List.mem_append_right _ List.mem_cons_self
    have ⟨p, hp, hn, hf⟩ := mem_fillings_iff.mp <| List.mem_reverse.mp hm
    have ⟨hf, hs⟩ := fillable_of_filling? hf
    exact ⟨p, hp, hn, hf, hn ▸ hs⟩

-- That a property shares its name with no other.
def Property.Alone (p : Property) (properties : List Property) : Prop :=
  ∀ p' ∈ properties, p'.name = p.name → p' = p

theorem get?_hydrate_of_alone (hp : p ∈ properties) (ha : p.Alone properties) :
    (hydrate properties b secret).1.get? p.name = (p.filling? secret).or (b.get? p.name) := by
  rw [get?_hydrate, lookup_eq_of_mem_iff fun v => ?_]
  rw [List.mem_reverse, mem_fillings_iff]
  constructor
  case mp  => exact fun ⟨p', hp', hn, hf⟩ => ha p' hp' hn ▸ hf
  case mpr => exact fun hf => ⟨p, hp, rfl, hf⟩

-- What becomes of values when a secret is filled in and all derived fields are computed anew.
structure Engine.Fills (e : Engine) (properties : List Property) (secret : Dict Json)
    (b b' : ValueBag) : Prop where
  touched : ∀ name, b'.get? name ≠ b.get? name → name ∈ (e.declared properties).map (·.target) ∨
    ∃ p ∈ properties, p.name = name ∧ p.Fillable ∧ (secret.get? name).isSome
  kept    : ∀ p ∈ properties, p.kind = .ok .credentialSelect ∨ p.kind = .ok .title →
    p.Alone properties → p.name ∉ (e.declared properties).map (·.target) →
    b'.get? p.name = b.get? p.name
  filled  : ∀ p ∈ properties, p.Alone properties →
    p.name ∉ (e.declared properties).map (·.target) →
    ∀ v, p.filling? secret = some v → b'.get? p.name = some v

theorem Engine.derive_hydrate_fills (e : Engine) (properties : List Property) (secret : Dict Json)
    (b : ValueBag) :
    e.Fills properties secret b (e.derive properties (hydrate properties b secret).1).1 where
  touched name h := by
    by_cases hn : name ∈ (e.declared properties).map (·.target)
    case pos => exact .inl hn
    case neg =>
      rw [derive, Derivation.get?_runAll_of_not_mem hn] at h
      exact .inr <| get?_hydrate_of_ne h
  kept p hp hk ha hn := by
    rw [derive, Derivation.get?_runAll_of_not_mem hn, get?_hydrate_of_alone hp ha]
    cases hk with
    | inl hk | inr hk => simp [filling?, hk, fillable]
  filled p hp ha hn v hv := by
    rw [derive, Derivation.get?_runAll_of_not_mem hn, get?_hydrate_of_alone hp ha, hv]
    rfl

end NodeEditor
