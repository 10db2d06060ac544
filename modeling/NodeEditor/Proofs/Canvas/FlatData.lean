import NodeEditor.Proofs.Canvas.Document
import NodeEditor.Proofs.Json.ReadBack

namespace NodeEditor

open Json

theorem Dict.ofList_eq_of_perm {α : Type} {es es' : List (String × α)} (h : es.Perm es')
    (hn : (es.map Prod.fst).Nodup) : ofList es = ofList es' := by
  have hn' : (es'.map Prod.fst).Nodup := (h.map _).nodup_iff.mp hn
  refine ext_get? fun k => Option.ext fun v => ?_
  rw [get?_ofList, get?_ofList, lookup_reverse hn, lookup_reverse hn', lookup_eq_some_iff hn,
    lookup_eq_some_iff hn', h.mem_iff]

namespace Outcome

variable {j : Json} {o : Outcome} {s : String} {r : Option Outcome}

-- How an outcome, or that there is none, can be written.
inductive Spelt : Json → Option Outcome → Prop
  | null               : Spelt .null none
  | name (o : Outcome) : Spelt (.str o.name) (some o)
  | key (o : Outcome)  : Spelt (.obj [(o.name, .null)]) (some o)

theorem named_ok_iff : Shape.choice.named Outcome.named s = .ok o ↔ s = o.name := by
  have hl : Outcome.named.lookup s = some o ↔ s = o.name := by
    rw [Dict.lookup_eq_some_iff (by decide)]
    cases o <;> simp [Outcome.named, Outcome.name]
  rw [Shape.choice.named, ← hl]
  cases Outcome.named.lookup s <;> simp

theorem read_ok_iff : read j = .ok o ↔ j = .str o.name ∨ j = .obj [(o.name, .null)] := by
  rw [read, Shape.choice.eq_def]
  split
  case h_1 s => simp [named_ok_iff]
  case h_2 k v =>
    simp only [bind_ok_iff, named_ok_iff]
    constructor
    case mp =>
      rintro ⟨o', rfl, h⟩
      split at h <;> cases h
      exact .inr rfl
    case mpr =>
      intro h
      obtain ⟨rfl, rfl⟩ : k = o.name ∧ v = .null := by simpa using h
      exact ⟨o, rfl, rfl⟩
  case h_3 hne     => simpa using hne o.name .null
  case h_4 hs _ ho => simpa using ⟨hs o.name, ho [(o.name, .null)]⟩

theorem optional_read_ok_iff : Shape.optional read j = .ok r ↔ Spelt j r := by
  by_cases hj : j = .null
  case pos =>
    subst hj
    constructor
    case mp  => intro h; cases h; exact .null
    case mpr => intro h; cases h; rfl
  case neg =>
    rw [optional_of_ne hj]
    constructor
    case mp =>
      intro h
      cases hr : read j with
      | error _ => simp [hr, Except.map] at h
      | ok o    =>
        obtain rfl : some o = r := by simpa [hr, Except.map] using h
        rcases read_ok_iff.mp hr with rfl | rfl
        · exact .name o
        · exact .key o
    case mpr =>
      intro h
      cases h with
      | null   => exact absurd rfl hj
      | name o => rw [read_ok_iff.mpr <| .inl rfl]; rfl
      | key o  => rw [read_ok_iff.mpr <| .inr rfl]; rfl

end Outcome

namespace NodeData

section Reading

variable {α : Type} {raw : Dict Json} {key : String} {absent a : α}
  {reader : Json → Except ShapeError α} {es : List (String × Json)} {d : NodeData}

theorem readUnder_ok_iff : readUnder raw key absent reader = .ok a ↔
    (raw.get? key).elim (a = absent) (reader · = .ok a) := by
  rw [readUnder]
  cases raw.get? key with
  | none   => simp [eq_comm]
  | some j => rfl

theorem exists_readUnder_ok (h : ∀ j, raw.get? key = some j → ∃ a, reader j = .ok a) :
    ∃ a, readUnder raw key absent reader = .ok a := by
  rw [readUnder]
  cases hg : raw.get? key with
  | none   => exact ⟨absent, rfl⟩
  | some j => exact h j hg

theorem text_ok_iff {j : Json} {s : String} : Shape.text j = .ok s ↔ j = .str s := by
  cases j <;> simp [Shape.text]

theorem dict_ok_iff {j : Json} {d : Dict Json} :
    Shape.dict j = .ok d ↔ ∃ es, j = .obj es ∧ d = .ofList es := by
  cases j <;> simp [Shape.dict, eq_comm]

-- What the entries of an object must be to be those of a node.
structure Admissible (raw : Dict Json) : Prop where
  label   : ∀ j, raw.get? "label" = some j → ∃ s, j = .str s
  outcome : ∀ j, raw.get? "validationStatus" = some j → ∃ r, Outcome.Spelt j r
  values  : ∀ j, raw.get? "$values" = some j → ∃ es, j = .obj es

-- What is read from the entries of an object: what is said under the names that the canvas uses, and
-- all the other entries as values, with those of `$values` over them.
structure ReadFrom (raw : Dict Json) (d : NodeData) : Prop where
  label   : (raw.get? "label").elim (d.label = "") (· = .str d.label)
  outcome : (raw.get? "validationStatus").elim (d.outcome = none) (Outcome.Spelt · d.outcome)
  values  : ∃ shadowed : Dict Json,
    (raw.get? "$values").elim (shadowed = {}) (fun j => ∃ es, j = .obj es ∧ shadowed = .ofList es) ∧
    ∀ name, d.values.get? name =
      (shadowed.get? name).or (if isReserved name then none else raw.get? name)

theorem read_obj : read (.obj es) = (do
    let label ← readUnder (.ofList es) "label" "" Shape.text
    let outcome ← readUnder (.ofList es) "validationStatus" none (Shape.optional Outcome.read)
    let shadowed ← readUnder (.ofList es) "$values" {} Shape.dict
    .ok { label, outcome, values := ((Dict.ofList es).filterKeys (!isReserved ·)).union shadowed }) :=
  rfl

theorem read_ok_iff : read (.obj es) = .ok d ↔ d.ReadFrom (.ofList es) := by
  simp only [read_obj, bind_ok_iff, readUnder_ok_iff, text_ok_iff, dict_ok_iff,
    Outcome.optional_read_ok_iff]
  constructor
  case mp =>
    rintro ⟨label, hl, outcome, ho, shadowed, hs, h⟩
    cases h
    refine ⟨hl, ho, shadowed, hs, fun name => ?_⟩
    rw [Dict.get?_union, Dict.get?_filterKeys]
    cases isReserved name <;> rfl
  case mpr =>
    rintro ⟨hl, ho, shadowed, hs, hv⟩
    refine ⟨d.label, hl, d.outcome, ho, shadowed, hs, ?_⟩
    congr
    refine Dict.ext_get? fun name => ?_
    rw [Dict.get?_union, Dict.get?_filterKeys, hv]
    cases isReserved name <;> rfl

theorem exists_read_ok_iff : (∃ d, read (.obj es) = .ok d) ↔ Admissible (.ofList es) := by
  constructor
  case mp =>
    rintro ⟨d, h⟩
    have ⟨hl, ho, shadowed, hs, _⟩ := read_ok_iff.mp h
    refine ⟨fun j hj => ?_, fun j hj => ?_, fun j hj => ?_⟩
    · exact ⟨_, by simpa [hj] using hl⟩
    · exact ⟨_, by simpa [hj] using ho⟩
    · have ⟨es, he, _⟩ : ∃ es, j = .obj es ∧ shadowed = .ofList es := by simpa [hj] using hs
      exact ⟨es, he⟩
  case mpr =>
    intro h
    have ⟨label, hl⟩ : ∃ label, readUnder (.ofList es) "label" "" Shape.text = .ok label :=
      exists_readUnder_ok fun j hj => (h.label j hj).imp fun _ => text_ok_iff.mpr
    have ⟨outcome, ho⟩ : ∃ outcome, readUnder (.ofList es) "validationStatus" none
        (Shape.optional Outcome.read) = .ok outcome :=
      exists_readUnder_ok fun j hj => (h.outcome j hj).imp fun _ => Outcome.optional_read_ok_iff.mpr
    have ⟨shadowed, hs⟩ : ∃ shadowed, readUnder (.ofList es) "$values" {} Shape.dict = .ok shadowed :=
      exists_readUnder_ok fun j hj => (h.values j hj).elim fun es he =>
        ⟨.ofList es, dict_ok_iff.mpr ⟨es, he, rfl⟩⟩
    exact ⟨_, by rw [read_obj, hl, ho, hs]; rfl⟩

end Reading

section Writing

variable {d : NodeData} {r : Json → Json} {keeps : Number → Prop}

theorem toJson_reads (d : NodeData) : read d.toJson = .ok d := by
  rw [← read_fields, toJson_eq, read_obj, read_obj, Dict.ofList_entries]

theorem fields_nodup (d : NodeData) : (d.fields.map Prod.fst).Nodup := by
  have hn : ((d.values.filterKeys (!isReserved ·)).entries.map Prod.fst).Nodup :=
    Dict.keys_nodup _
  have hr {k} (h : isReserved k) : k ∉ (d.values.filterKeys (!isReserved ·)).entries.map Prod.fst := by
    simp [Dict.filterKeys, h]
  have hl := hr (k := "label") rfl
  have hs := hr (k := "validationStatus") rfl
  have hv := hr (k := "$values") rfl
  rw [fields]
  cases d.outcome <;> split <;> grind

-- The data of a node is read from its fields in any order.
theorem read_rearranged (hr : Rearranges r keeps) (ho : ∀ e ∈ d.values.entries, e.2.Ordered)
    (hk : ∀ n ∈ d.toJson.numbers, keeps n) : read (r d.toJson) = .ok d := by
  have hk : ∀ e ∈ d.fields, ∀ n ∈ e.2.numbers, keeps n := forall_numbers_obj_iff.mp hk
  have ho : ∀ e ∈ d.fields, e.2.Ordered := forall_fields (fun _ => trivial) ho
    ⟨Dict.ordered _, orderedEntries_iff.mpr fun e he => ho e (List.mem_filter.mp he).left⟩
  have hf : d.fields.map (fun e => (e.1, r e.2)) = d.fields := by
    conv_rhs => rw [← List.map_id d.fields]
    refine List.map_congr_left fun e he => ?_
    rw [hr.fixed (ho e he) (hk e he), id]
  obtain ⟨es, he, p⟩ := hr.obj d.fields_nodup
  rw [hf] at p
  rw [toJson_eq, he, read_obj, ← Dict.ofList_eq_of_perm p.symm d.fields_nodup, ← read_obj,
    ← toJson_eq, toJson_reads]

end Writing

-- The data of a node comes back from what is written for it, in any order of the keys and from its
-- text; and any other object is read for what it says, or refused for what it says of a display field.
theorem read_exactly :
    (∀ d : NodeData, read d.toJson = .ok d ∧
      ((∀ e ∈ d.values.entries, e.2.Ordered) → read d.toJson.sorted = .ok d ∧
        (d.toJson.depth ≤ maxDepth → (∀ n ∈ d.toJson.numbers, n.Legible) →
          ∃ j, Json.parse d.toJson.compact = .ok j ∧ read j = .ok d))) ∧
    ∀ es : List (String × Json),
      ((∃ d, read (.obj es) = .ok d) ↔ Admissible (.ofList es)) ∧
      ∀ d, read (.obj es) = .ok d ↔ ReadFrom (.ofList es) d := by
  refine ⟨fun d => ⟨toJson_reads d, fun ho => ⟨?_, fun hd hn => ?_⟩⟩,
    fun es => ⟨exists_read_ok_iff, fun d => read_ok_iff⟩⟩
  · exact read_rearranged rearranges_sorted ho fun _ _ => trivial
  · have hn : ∀ n ∈ d.toJson.numbers, n.reread = some n := fun n h => Number.legible_iff.mp (hn n h)
    refine ⟨_, parse_eq_echo hd fun n h => ?_, read_rearranged rearranges_echo ho hn⟩
    rw [hn n h]
    rfl

-- A node whose properties are named as the canvas names its own.
def namesake : NodeData where
  label := "LLM"
  outcome := some .success
  values := .ofList [
    ("$values", .obj [("label", .num (.int 7))]),
    ("label", .str "user"),
    ("prompt", .arr [.bool true]),
    ("validationStatus", .null)]

theorem read_exactly_namesake :
    read namesake.toJson = .ok namesake ∧ read namesake.toJson.sorted = .ok namesake ∧
    (∃ j, Json.parse namesake.toJson.compact = .ok j ∧ read j = .ok namesake) ∧
    ReadFrom (.ofList namesake.fields) namesake ∧
    ¬ Admissible (.ofList [("label", .null), ("prompt", .str "Summarize")]) := by
  obtain ⟨hw, hr⟩ := read_exactly
  obtain ⟨hd, hs⟩ := hw namesake
  have hv : namesake.values.entries = [
    ("$values", .obj [("label", .num (.int 7))]),
    ("label", .str "user"),
    ("prompt", .arr [.bool true]),
    ("validationStatus", .null)] := rfl
  have ho : ∀ e ∈ namesake.values.entries, e.2.Ordered := by
    simp [hv, Ordered, OrderedEntries, OrderedItems]
  obtain ⟨hs, ht⟩ := hs ho
  have hn : namesake.toJson.numbers = [.int 7] := by decide +kernel
  refine ⟨hd, hs, ht (by decide +kernel) ?_, (hr namesake.fields).right namesake |>.mp hd, ?_⟩
  · rw [hn, List.forall_mem_singleton]
    exact Number.legible_int (by decide) (by decide)
  · rw [← (hr _).left]
    rintro ⟨d, h⟩
    cases h

end NodeData

end NodeEditor
