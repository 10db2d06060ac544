import NodeEditor.Form.Values
import NodeEditor.Proofs.Json.Dict

namespace NodeEditor

variable {p : Property} {properties : List Property} {kind : PropertyKind} {value v : Json}
  {raw : ValueBag} {s : ValueBag × List FormError} {name : String} {issue : FormError}

theorem coerce?_accepts (h : coerce? kind value = some v) : kind.valueType.accepts v := by
  unfold coerce? at h
  split at h
  case isTrue ha => exact Option.some.inj h ▸ ha
  case isFalse   =>
    split at h
    case h_1 ht _ =>
      split at h
      case h_1 =>
        split at h
        case isTrue  => exact Option.some.inj h ▸ ht ▸ rfl
        case isFalse => cases h
      case h_2 => cases h
    case h_2 ht _ =>
      split at h
      case isTrue  => exact Option.some.inj h ▸ ht ▸ rfl
      case isFalse =>
        split at h
        case isTrue  => exact Option.some.inj h ▸ ht ▸ rfl
        case isFalse => cases h
    case h_3 ht _ => exact Option.some.inj h ▸ ht ▸ rfl
    case h_4      => cases h

-- What becomes of a value of a property. A value that does not fit gives way to the default as it
-- is declared, or to nothing.
def Property.settle (p : Property) (value : Json) : Option Json :=
  match p.kind with
  | .error _ => some value
  | .ok kind => (coerce? kind value).or p.default

theorem Property.settle_of_kind (hk : p.kind = .ok kind) :
    p.settle value = (coerce? kind value).or p.default := by
  simp [settle, hk]

theorem conformProperty_eq_assign : (conformProperty s p).1 =
    s.1.assign p.name ((s.1.get? p.name).bind p.settle) := by
  obtain ⟨bag, issues⟩ := s
  cases hb : bag.get? p.name with
  | none       => simp [conformProperty, hb, Dict.assign_eq_self hb]
  | some value =>
    cases hk : p.kind with
    | error _ => simp [conformProperty, hb, hk, Property.settle, Dict.assign_eq_self hb]
    | ok kind =>
      rw [Option.bind_some, Property.settle_of_kind hk]
      cases hc : coerce? kind value with
      | some _ => simp [conformProperty, hb, hk, hc, Dict.assign]
      | none   => cases hd : p.default <;> simp [conformProperty, hb, hk, hc, hd, Dict.assign]

theorem get?_conformProperty_of_ne (h : p.name ≠ name) :
    (conformProperty s p).1.get? name = s.1.get? name := by
  rw [conformProperty_eq_assign, Dict.get?_assign, if_neg h.symm]

theorem mem_conformProperty (h : issue ∈ s.2) : issue ∈ (conformProperty s p).2 := by
  unfold conformProperty
  grind

theorem typeMismatch_mem_conformProperty (hk : p.kind = .ok kind)
    (hv : s.1.get? p.name = some value) (hc : coerce? kind value = none) :
    .typeMismatch p.name kind.valueType ∈ (conformProperty s p).2 := by
  cases hd : p.default <;> simp [conformProperty, hv, hk, hc, hd]

-- A property changes nothing but its own value.
theorem get?_conform_of_ne (h : ∀ p ∈ properties, p.name ≠ name) :
    (properties.foldl conformProperty s).1.get? name = s.1.get? name := by
  induction properties generalizing s with
  | nil            => rfl
  | cons p rest ih =>
    have ⟨hp, hr⟩ := List.forall_mem_cons.mp h
    rw [List.foldl_cons, ih hr, get?_conformProperty_of_ne hp]

theorem mem_conform (h : issue ∈ s.2) :
    issue ∈ (properties.foldl conformProperty s).2 := by
  induction properties generalizing s with
  | nil            => exact h
  | cons _ rest ih => exact ih <| mem_conformProperty h

-- So where names tell properties apart, each of them settles the value that came from outside.
theorem conform_of_mem (hn : (properties.map (·.name)).Nodup) (hp : p ∈ properties) :
    (properties.foldl conformProperty s).1.get? p.name =
      (s.1.get? p.name).bind p.settle ∧
    ∀ kind value, p.kind = .ok kind → s.1.get? p.name = some value →
      coerce? kind value = none →
      .typeMismatch p.name kind.valueType ∈ (properties.foldl conformProperty s).2 := by
  induction properties generalizing s with
  | nil            => cases hp
  | cons q rest ih =>
    have ⟨hq, hr⟩ := List.nodup_cons.mp hn
    have hne : ∀ r ∈ rest, r.name ≠ q.name := fun r hr he => hq <| List.mem_map.mpr ⟨r, hr, he⟩
    rw [List.foldl_cons]
    cases hp with
    | head     =>
      refine ⟨?_, fun kind value hk hv hc => ?_⟩
      · rw [get?_conform_of_ne hne, conformProperty_eq_assign, Dict.get?_assign, if_pos rfl]
      · exact mem_conform <| typeMismatch_mem_conformProperty hk hv hc
    | tail _ h =>
      have := ih hr h (s := conformProperty s q)
      rwa [get?_conformProperty_of_ne (hne p h).symm] at this

-- After conforming, the value of a property is one of its kind unless it is a default that is not.
-- What gave way to a default is reported.
theorem conform_fits_iff (hn : (properties.map (·.name)).Nodup) (hp : p ∈ properties)
    (hk : p.kind = .ok kind) :
    ((∀ v, (conform properties raw).1.get? p.name = some v → kind.valueType.accepts v) ↔
      ∀ value, raw.get? p.name = some value → coerce? kind value = none →
        ∀ v, p.default = some v → kind.valueType.accepts v) ∧
    ∀ value, raw.get? p.name = some value → coerce? kind value = none →
      .typeMismatch p.name kind.valueType ∈ (conform properties raw).2 := by
  have ⟨hg, hi⟩ := conform_of_mem hn hp (s := (raw, []))
  refine ⟨?_, fun value hv hc => hi kind value hk hv hc⟩
  rw [conform, hg]
  cases raw.get? p.name with
  | none       => simp
  | some value =>
    simp only [Option.bind_some, Property.settle_of_kind hk, Option.some.injEq, forall_eq']
    cases hc : coerce? kind value with
    | none   => simp
    | some v => simpa using coerce?_accepts hc

def timeout (default : Json) : Property :=
  { Property.plain "timeout" "range" with default := some default }

theorem timeout_kind (default : Json) : (timeout default).kind = .ok .range := by
  have : PropertyKind.ofTag "range" = .ok .range := by decide +kernel
  exact this

-- The value that comes from outside for it is neither a number nor the text of one.
def nested : ValueBag :=
  Dict.empty.insert "timeout" (.obj [("nested", .num (.int 1))])

theorem conform_fits_iff_timeout :
    let p := timeout (.num (.int 30))
    [p.name].Nodup ∧ p ∈ [p] ∧ p.kind = .ok .range ∧
    ((∀ v, (conform [p] nested).1.get? p.name = some v → ValueType.number.accepts v) ↔
      ∀ value, nested.get? p.name = some value → coerce? .range value = none →
        ∀ v, p.default = some v → ValueType.number.accepts v) ∧
    ∀ value, nested.get? p.name = some value → coerce? .range value = none →
      .typeMismatch p.name .number ∈ (conform [p] nested).2 := by
  intro p
  have hn : ([p].map (·.name)).Nodup := List.nodup_singleton _
  have hp : p ∈ [p] := List.mem_singleton_self p
  have hk : p.kind = .ok .range := timeout_kind _
  exact ⟨hn, hp, hk, conform_fits_iff hn hp hk⟩

-- A default is put in unseen, also one of another kind.
theorem conform_unfit_default :
    let p := timeout (.str "soon")
    [p.name].Nodup ∧ p.kind = .ok .range ∧
    (conform [p] nested).1.get? p.name = some (.str "soon") ∧
    PropertyKind.range.valueType.accepts (.str "soon") = false := by
  intro p
  have hn : ([p].map (·.name)).Nodup := List.nodup_singleton _
  have hk : p.kind = .ok .range := timeout_kind _
  refine ⟨hn, hk, ?_, rfl⟩
  have ⟨hg, _⟩ := conform_of_mem hn (List.mem_singleton_self p) (s := (nested, []))
  rw [conform, hg, nested, Dict.get?_insert, if_pos (by rfl)]
  simp only [Option.bind_some, Property.settle_of_kind hk]
  rfl

end NodeEditor
