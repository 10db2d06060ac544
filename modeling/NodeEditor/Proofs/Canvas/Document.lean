import NodeEditor.Canvas.Clipboard
import NodeEditor.Proofs.Json.Echo

namespace NodeEditor

open Json

theorem RecordShape.read_obj {α : Type} {s : RecordShape α} {es : List (String × Json)} :
    s.read (.obj es) = s.readEntries es :=
  rfl

namespace Position

variable {p : Position}

theorem read_echo (hx : p.x.isFinite) (hy : p.y.isFinite)
    (hn : ∀ n ∈ p.toJson.numbers, n.reread = some n) : shape.read p.toJson.echo = .ok p := by
  have hx' : (Number.float p.x).reread = some (.float p.x) := hn _ <| by
    simp [toJson, ofFloat, hx, numbers, numbersEntries]
  have hy' : (Number.float p.y).reread = some (.float p.y) := hn _ <| by
    simp [toJson, ofFloat, hy, numbers, numbersEntries]
  have he : p.toJson.echo = .obj [("x", .num (.float p.x)), ("y", .num (.float p.y))] := by
    simp only [toJson, ofFloat, hx, hy, hx', hy', if_true, echo, echoEntries, Option.getD_some,
      Dict.entries_ofList, List.foldl, insertEntry, String.reduceLT, String.reduceEq, reduceIte]
  rw [he]
  rfl

end Position

namespace NodeData

variable {d : NodeData} {k : String}

-- What is written for the data of a node, with its keys.
def fields (d : NodeData) : List (String × Json) :=
  [("label", .str d.label)] ++
  (match d.outcome with
    | some o => [("validationStatus", .str o.name)]
    | none   => []) ++
  (d.values.filterKeys (!isReserved ·)).entries ++
  (if (d.values.filterKeys isReserved).isEmpty then []
    else [("$values", .obj (d.values.filterKeys isReserved).entries)])

theorem toJson_eq : d.toJson = .obj d.fields :=
  rfl

-- What a reader finds under a key.
theorem get?_fields : (Dict.ofList d.fields).get? k =
    if k = "label" then some (.str d.label)
    else if k = "validationStatus" then d.outcome.map fun o => .str o.name
    else if k = "$values" then
      if (d.values.filterKeys isReserved).isEmpty then none
      else some (.obj (d.values.filterKeys isReserved).entries)
    else d.values.get? k := by
  have hp : (d.values.filterKeys (!isReserved ·)).entries.reverse.lookup k =
      if isReserved k then none else d.values.get? k := by
    rw [Dict.lookup_reverse (Dict.keys_nodup _), ← Dict.get?, Dict.get?_filterKeys]
    cases isReserved k <;> rfl
  simp only [Dict.get?_ofList, fields, List.reverse_append, List.lookup_append, hp]
  by_cases hl : k = "label"
  case pos =>
    subst hl
    cases d.outcome <;> split <;> simp [isReserved, Dict.lookup_cons_eq]
  by_cases hs : k = "validationStatus"
  case pos =>
    subst hs
    cases d.outcome <;> split <;> simp [isReserved, Dict.lookup_cons_eq]
  by_cases hv : k = "$values"
  case pos =>
    subst hv
    cases d.outcome <;> split <;> simp [isReserved, Dict.lookup_cons_eq]
  cases d.outcome <;> split <;> simp [isReserved, Dict.lookup_cons_eq, hl, hs, hv]

theorem read_fields : read (.obj (Dict.ofList d.fields).entries) = .ok d := by
  have hl : readUnder (Dict.ofList d.fields) "label" "" Shape.text = .ok d.label := by
    simp [readUnder, get?_fields, Shape.text]
  have ho : readUnder (Dict.ofList d.fields) "validationStatus" none (Shape.optional Outcome.read) =
      .ok d.outcome := by
    simp only [readUnder, get?_fields]
    cases d.outcome with
    | none   => rfl
    | some o => cases o <;> rfl
  have hv : readUnder (Dict.ofList d.fields) "$values" {} Shape.dict =
      .ok (d.values.filterKeys isReserved) := by
    by_cases h : (d.values.filterKeys isReserved).isEmpty
    case pos =>
      have he : {} = d.values.filterKeys isReserved := Dict.ext (List.isEmpty_iff.mp h).symm
      simp [readUnder, get?_fields, h, he]
    case neg => simp [readUnder, get?_fields, h, Shape.dict, Dict.ofList_entries]
  simp only [read, Shape.dict, Dict.ofList_entries, bind, Except.bind, hl, ho, hv]
  congr
  refine Dict.ext_get? fun k => ?_
  simp only [Dict.get?_union, Dict.get?_filterKeys, get?_fields]
  by_cases hr : isReserved k
  case pos => simp [hr]
  case neg =>
    have ⟨⟨hl, hs⟩, hv⟩ : (k ≠ "label" ∧ k ≠ "validationStatus") ∧ k ≠ "$values" := by
      simpa [isReserved] using hr
    simp [hr, hl, hs, hv]

theorem forall_fields {P : Json → Prop} (hs : ∀ s, P (.str s)) (hv : ∀ e ∈ d.values.entries, P e.2)
    (ho : P (.obj (d.values.filterKeys isReserved).entries)) : ∀ e ∈ d.fields, P e.2 := by
  intro e he
  simp only [fields, List.mem_append] at he
  rcases he with ((he | he) | he) | he
  · exact List.mem_singleton.mp he ▸ hs _
  · split at he
    · exact List.mem_singleton.mp he ▸ hs _
    · contradiction
  · exact hv e (List.mem_filter.mp he).left
  · split at he
    · contradiction
    · exact List.mem_singleton.mp he ▸ ho

theorem echo_toJson (h : ∀ e ∈ d.values.entries, e.2.echo = e.2) :
    d.toJson.echo = .obj (Dict.ofList d.fields).entries := by
  have hs : ∀ e ∈ (d.values.filterKeys isReserved).entries, e.2.echo = e.2 :=
    fun e he => h e (List.mem_filter.mp he).left
  rw [toJson_eq, echo, echoEntries_eq_self]
  refine forall_fields (P := fun j => j.echo = j) (fun _ => rfl) h ?_
  rw [echo, echoEntries_eq_self hs, Dict.ofList_entries]

-- Every value is written, in one place or the other.
theorem numbers_subset {e : String × Json} (h : e ∈ d.values.entries) :
    e.2.numbers ⊆ d.toJson.numbers := by
  intro x hx
  rw [toJson_eq, numbers, numbersEntries_eq_flatMap, List.mem_flatMap]
  by_cases hr : isReserved e.1
  case pos =>
    have hs : e ∈ (d.values.filterKeys isReserved).entries := List.mem_filter.mpr ⟨h, hr⟩
    refine ⟨("$values", .obj (d.values.filterKeys isReserved).entries), ?_, ?_⟩
    · have hn : (d.values.filterKeys isReserved).isEmpty = false :=
        List.isEmpty_eq_false_iff_exists_mem.mpr ⟨e, hs⟩
      simp [fields, hn]
    · rw [numbers, numbersEntries_eq_flatMap]
      exact List.mem_flatMap.mpr ⟨e, hs, hx⟩
  case neg =>
    have hp : e ∈ (d.values.filterKeys (!isReserved ·)).entries :=
      List.mem_filter.mpr ⟨h, by simp [hr]⟩
    exact ⟨e, by simp [fields, hp], hx⟩

end NodeData

namespace Node

theorem echo_toJson (n : Node) : n.toJson.echo = .obj [
    ("data", n.data.toJson.echo),
    ("id", .str n.id.text),
    ("position", n.position.toJson.echo),
    ("type", .str n.type)] := by
  simp only [toJson, echo, echoEntries, Dict.entries_ofList, List.foldl, insertEntry,
    String.reduceLT, String.reduceEq, reduceIte]

theorem read_echo (n : Node) : shape.read n.toJson.echo = (do
    let data ← NodeData.read n.data.toJson.echo
    let position ← Position.shape.read n.position.toJson.echo
    .ok { n with position, data }) := by
  rw [echo_toJson, RecordShape.read_obj]
  cases hd : NodeData.read n.data.toJson.echo
  case error =>
    simp [shape, RecordShape.readEntries, RecordShape.visit, Field.answersTo, Field.required,
      Field.optional, hd, bind, Except.bind, Except.map]
  case ok =>
    cases hp : Position.shape.read n.position.toJson.echo
    all_goals
      simp [shape, RecordShape.readEntries, RecordShape.visit, Field.answersTo, Field.required,
        Field.optional, Shape.text, hd, hp, bind, Except.bind, Except.map]

theorem outline_of_read {n m : Node} (h : shape.read n.toJson.echo = .ok m) :
    (m.id, m.type) = (n.id, n.type) := by
  rw [read_echo] at h
  cases hd : NodeData.read n.data.toJson.echo with
  | error _ => simp [hd, bind, Except.bind] at h
  | ok data =>
    cases hp : Position.shape.read n.position.toJson.echo with
    | error _     => simp [hd, hp, bind, Except.bind] at h
    | ok position =>
      simp only [hd, hp, bind, Except.bind, Except.ok.injEq] at h
      exact h ▸ rfl

theorem data_numbers_subset (n : Node) : n.data.toJson.numbers ⊆ n.toJson.numbers := by
  intro x hx
  simp [toJson, numbers, numbersEntries, hx]

theorem position_numbers_subset (n : Node) : n.position.toJson.numbers ⊆ n.toJson.numbers := by
  intro x hx
  simp [toJson, numbers, numbersEntries, hx]

end Node

namespace Edge

theorem echo_toJson (e : Edge) : e.toJson.echo = .obj [
    ("id", .str e.id.text),
    ("source", .str e.source.text),
    ("sourceHandle", .str e.sourceHandle),
    ("target", .str e.target.text),
    ("targetHandle", .str e.targetHandle)] := by
  simp only [toJson, echo, echoEntries, Dict.entries_ofList, List.foldl, insertEntry,
    String.reduceLT, String.reduceEq, reduceIte]

theorem read_echo (e : Edge) : shape.read e.toJson.echo = .ok e := by
  rw [echo_toJson]
  rfl

end Edge

end NodeEditor
