import NodeEditor.Proofs.Canvas.Clipboard
import NodeEditor.Proofs.Json.Ordered

namespace NodeEditor

namespace RecordShape

variable {α : Type} {fields : List (Field α)} {key : String} {j : Json}
  {rest : List (String × Json)} {seen : List String} {a : α}

theorem visit_optional {β : Type} {read : Json → Except ShapeError β} {set : β → α → α}
    {r : List String × α} (hf : fields.find? (·.answersTo key) = some (.optional key read set))
    (hs : key ∉ seen) : visit fields ((key, j) :: rest) seen a = .ok r ↔
      ∃ v, read j = .ok v ∧ visit fields rest (key :: seen) (set v a) = .ok r := by
  have hc : seen.contains key = false := by simpa using hs
  simp only [visit, hf, Field.optional, hc, Bool.false_eq_true, if_false, bind_ok_iff]
  cases read j with
  | error _ => simp [Except.map]
  | ok v    => simp [Except.map]

theorem visit_of_find?_none (hf : fields.find? (·.answersTo key) = none) :
    visit fields ((key, j) :: rest) seen a = visit fields rest seen a := by
  simp only [visit, hf]

end RecordShape

section

variable {α : Type} {read : Json → Except ShapeError α} {absent as : List α} {items : List Json}
  {j : Json}

theorem mapM_ok_iff :
    items.mapM read = .ok as ↔ items.Forall₂ (fun j a => read j = .ok a) as := by
  refine ⟨forall₂_of_mapM_ok, fun h => ?_⟩
  induction h with
  | nil          => rfl
  | cons hr _ ih =>
    rw [List.mapM_cons, hr, ih]
    rfl

-- What is read as a list: an array whose items are all read, one after the other. Where there is
-- nothing to read, something else may stand for it.
def ListAt (read : Json → Except ShapeError α) (absent : List α) : Option Json → List α → Prop
  | none,              as => as = absent
  | some (.arr items), as => items.Forall₂ (fun j a => read j = .ok a) as
  | some _,            _  => False

theorem listAt_none_iff : ListAt read absent none as ↔ as = absent :=
  .rfl

theorem listAt_some_iff : ListAt read absent (some j) as ↔ Shape.list read j = .ok as := by
  cases j with
  | arr items => exact mapM_ok_iff.symm
  | _         => simp [ListAt, Shape.list]

end

namespace Fragment

variable {f f' : Fragment} {es : List (String × Json)} {items : List Json} {seen : List String}
  {j : Json} {edge : EdgeId} {node : NodeId} {text : String}

-- How a value is read as a fragment: from the lists under two keys, or from an array of these.
inductive Reads : Json → Fragment → Prop
  | keys {es : List (String × Json)} {f : Fragment} :
    ListAt Node.shape.read [] (es.lookup "nodes") f.nodes →
    ListAt Edge.shape.read [] (es.lookup "edges") f.edges → Reads (.obj es) f
  | items {items : List Json} {f : Fragment} : items.length ≤ 2 →
    ListAt Node.shape.read [] items[0]? f.nodes →
    ListAt Edge.shape.read [] items[1]? f.edges → Reads (.arr items) f

-- Each of the two keys says what its list is, the others say nothing.
theorem visit_ok_iff (hn : (es.map Prod.fst).Nodup) (hs : ∀ key ∈ seen, key ∉ es.map Prod.fst) :
    (∃ seen', RecordShape.visit shape.fields es seen f = .ok (seen', f')) ↔
      ListAt Node.shape.read f.nodes (es.lookup "nodes") f'.nodes ∧
      ListAt Edge.shape.read f.edges (es.lookup "edges") f'.edges := by
  induction es generalizing seen f with
  | nil            =>
    cases f
    cases f'
    simp [RecordShape.visit, ListAt, eq_comm]
  | cons e rest ih =>
    obtain ⟨key, j⟩ := e
    rw [List.map_cons, List.nodup_cons] at hn
    have hk : key ∉ rest.map Prod.fst := hn.left
    have hsk : key ∉ seen := fun h => hs key h List.mem_cons_self
    have hsr : ∀ k ∈ seen, k ∉ rest.map Prod.fst := fun k h =>
      (hs k h <| List.mem_cons_of_mem _ ·)
    have hsc : ∀ k ∈ key :: seen, k ∉ rest.map Prod.fst := List.forall_mem_cons.mpr ⟨hk, hsr⟩
    have hl : rest.lookup key = none := Dict.lookup_eq_none_of_not_mem hk
    by_cases hkn : key = "nodes"
    case pos =>
      subst hkn
      have hf : shape.fields.find? (·.answersTo "nodes") = some (.optional "nodes"
        (Shape.list Node.shape.read) fun v f => { f with nodes := v }) := rfl
      have ih nodes := ih hn.right hsc (f := { f with nodes := nodes })
      simp only [hl, listAt_none_iff] at ih
      simp only [RecordShape.visit_optional hf hsk, Dict.lookup_cons_eq]
      rw [exists_comm]
      simp [ih, listAt_some_iff, and_left_comm]
    case neg =>
      by_cases hke : key = "edges"
      case pos =>
        subst hke
        have hf : shape.fields.find? (·.answersTo "edges") = some (.optional "edges"
          (Shape.list Edge.shape.read) fun v f => { f with edges := v }) := rfl
        have ih edges := ih hn.right hsc (f := { f with edges := edges })
        simp only [hl, listAt_none_iff] at ih
        simp only [RecordShape.visit_optional hf hsk, Dict.lookup_cons_eq]
        rw [exists_comm]
        simp [ih, listAt_some_iff, and_comm]
      case neg =>
        have hf : shape.fields.find? (·.answersTo key) = none := by
          simp [shape, Field.optional, Field.answersTo, Ne.symm hkn, Ne.symm hke]
        rw [RecordShape.visit_of_find?_none hf, Dict.lookup_cons_eq, Dict.lookup_cons_eq,
          if_neg (Ne.symm hkn), if_neg (Ne.symm hke)]
        exact ih hn.right hsr

theorem readEntries_ok_iff : shape.readEntries es = .ok f ↔
    ∃ seen, RecordShape.visit shape.fields es [] empty = .ok (seen, f) := by
  rw [RecordShape.readEntries, bind_ok_iff]
  simp [shape, Field.optional]

theorem read_arr (items : List Json) : shape.read (.arr items) =
    RecordShape.fill shape.arity items.length 0 shape.fields items empty :=
  rfl

theorem read_arr_ok_iff : shape.read (.arr items) = .ok f ↔ items.length ≤ 2 ∧
    ListAt Node.shape.read [] items[0]? f.nodes ∧ ListAt Edge.shape.read [] items[1]? f.edges := by
  obtain ⟨nodes, edges⟩ := f
  rw [read_arr]
  match items with
  | []             =>
    simp [RecordShape.fill, shape, Field.optional, empty, listAt_none_iff, eq_comm]
  | [a]            =>
    simp only [List.getElem?_cons_zero, List.getElem?_cons_succ, List.getElem?_nil,
      listAt_some_iff, listAt_none_iff]
    cases ha : Shape.list Node.shape.read a <;>
      simp [RecordShape.fill, shape, Field.optional, empty, ha, bind, Except.bind, Except.map,
        eq_comm]
  | a :: b :: rest =>
    simp only [List.getElem?_cons_zero, List.getElem?_cons_succ, listAt_some_iff]
    cases ha : Shape.list Node.shape.read a <;> cases hb : Shape.list Edge.shape.read b <;>
      cases rest <;>
        simp [RecordShape.fill, shape, Field.optional, empty, ha, hb, bind, Except.bind, Except.map]

theorem read_ok_iff (hj : j.Ordered) : shape.read j = .ok f ↔ Reads j f := by
  constructor
  case mp =>
    intro h
    cases j with
    | obj es    =>
      have ⟨hn, he⟩ := (visit_ok_iff hj.left.nodup (by simp)).mp <| readEntries_ok_iff.mp h
      exact .keys hn he
    | arr items =>
      have ⟨hl, hn, he⟩ := read_arr_ok_iff.mp h
      exact .items hl hn he
    | _         => cases h
  case mpr =>
    intro h
    cases h with
    | keys hn he     =>
      exact readEntries_ok_iff.mpr <| (visit_ok_iff hj.left.nodup (by simp)).mpr ⟨hn, he⟩
    | items hl hn he => exact read_arr_ok_iff.mpr ⟨hl, hn, he⟩

theorem hasArray_iff {key : String} :
    hasArray j key ↔ ∃ items, j.get? key = some (.arr items) := by
  rw [hasArray]
  cases j.get? key with
  | none   => simp
  | some v => cases v <;> simp [Json.items?]

-- The first edge with an end that is no node of the fragment, and that end; of two the source.
def FirstDangling (f : Fragment) (edge : EdgeId) (node : NodeId) : Prop :=
  ∃ before e after, f.edges = before ++ e :: after ∧
    (∀ e' ∈ before, e'.source ∈ f.nodeIds ∧ e'.target ∈ f.nodeIds) ∧
    e.id = edge ∧ node ∉ f.nodeIds ∧
    (e.source = node ∨ e.source ∈ f.nodeIds ∧ e.target = node)

theorem find?_ends_eq_some_iff {ids : List NodeId} {e : Edge} :
    [e.source, e.target].find? (!ids.contains ·) = some node ↔
      node ∉ ids ∧ (e.source = node ∨ e.source ∈ ids ∧ e.target = node) := by
  by_cases hs : e.source ∈ ids <;> by_cases ht : e.target ∈ ids <;> grind

theorem find?_ends_eq_none_iff {ids : List NodeId} {e : Edge} :
    [e.source, e.target].find? (!ids.contains ·) = none ↔ e.source ∈ ids ∧ e.target ∈ ids := by
  simp

theorem dangling?_eq_some_iff : f.dangling? = some (edge, node) ↔ f.FirstDangling edge node := by
  rw [dangling?, List.findSome?_eq_some_iff, FirstDangling]
  refine exists_congr fun before => exists_congr fun e => exists_congr fun after =>
    and_congr_right fun _ => ?_
  rw [and_comm]
  refine and_congr (forall₂_congr fun e' _ => ?_) ?_
  · rw [Option.map_eq_none_iff, find?_ends_eq_none_iff, nodeIds]
  · simp only [Option.map_eq_some_iff, find?_ends_eq_some_iff, Prod.mk.injEq, nodeIds]
    constructor
    case mp  =>
      rintro ⟨_, h, he, rfl⟩
      exact ⟨he, h⟩
    case mpr =>
      rintro ⟨he, h⟩
      exact ⟨node, h, he, rfl⟩

end Fragment

-- What can be wrong with a text that is pasted.
inductive Defect where
  | notJson
  | noArrays
  | unreadable
  | dangling
deriving DecidableEq, Repr

namespace Defect

-- The defects that are told before it.
def earlier : Defect → List Defect
  | notJson    => []
  | noArrays   => [notJson]
  | unreadable => [notJson, noArrays]
  | dangling   => [notJson, noArrays, unreadable]

-- Each by itself, whatever else is wrong.
inductive Of (text : String) : Defect → Prop
  | notJson :
    (∀ j, Json.parse text ≠ .ok j) → Of text notJson
  | noArrays {j : Json} :
    Json.parse text = .ok j → (∀ items, j.get? "nodes" ≠ some (.arr items)) →
    (∀ items, j.get? "edges" ≠ some (.arr items)) → Of text noArrays
  | unreadable {j : Json} :
    Json.parse text = .ok j → (∀ f, ¬Fragment.Reads j f) → Of text unreadable
  | dangling {j : Json} {f : Fragment} :
    Json.parse text = .ok j → Fragment.Reads j f → ¬f.Closed → Of text dangling

variable {text : String} {j : Json}

theorem not_notJson_iff : ¬notJson.Of text ↔ ∃ j, Json.parse text = .ok j := by
  constructor
  case mp  =>
    intro h
    by_contra hn
    exact h <| .notJson fun j hj => hn ⟨j, hj⟩
  case mpr =>
    intro ⟨j, hj⟩ h
    cases h with
    | notJson h => exact h j hj

theorem noArrays_iff (hj : Json.parse text = .ok j) : noArrays.Of text ↔
    ¬Fragment.hasArray j "nodes" ∧ ¬Fragment.hasArray j "edges" := by
  simp only [Fragment.hasArray_iff, not_exists]
  constructor
  case mp  =>
    intro h
    cases h with
    | noArrays hj' hn he => exact Except.ok.inj (hj'.symm.trans hj) ▸ ⟨hn, he⟩
  case mpr => exact fun ⟨hn, he⟩ => .noArrays hj hn he

theorem not_noArrays_iff (hj : Json.parse text = .ok j) : ¬noArrays.Of text ↔
    Fragment.hasArray j "nodes" ∨ Fragment.hasArray j "edges" := by
  rw [noArrays_iff hj, ← not_or, not_not]

theorem unreadable_iff (hj : Json.parse text = .ok j) : unreadable.Of text ↔
    ∀ f, Fragment.shape.read j ≠ .ok f := by
  simp only [ne_eq, Fragment.read_ok_iff (Json.ordered_of_parse hj)]
  constructor
  case mp  =>
    intro h
    cases h with
    | unreadable hj' h => exact Except.ok.inj (hj'.symm.trans hj) ▸ h
  case mpr => exact .unreadable hj

theorem dangling_iff (hj : Json.parse text = .ok j) : dangling.Of text ↔
    ∃ f, Fragment.shape.read j = .ok f ∧ ¬f.Closed := by
  simp only [Fragment.read_ok_iff (Json.ordered_of_parse hj)]
  constructor
  case mp  =>
    intro h
    cases h with
    | dangling hj' hr hc => exact ⟨_, Except.ok.inj (hj'.symm.trans hj) ▸ hr, hc⟩
  case mpr => exact fun ⟨_, hr, hc⟩ => .dangling hj hr hc

-- A text with the defect.
def sample : Defect → String
  | notJson    => "nodes"
  | noArrays   => (Json.arr []).compact
  | unreadable => (Json.obj [("nodes", .arr [.null])]).compact
  | dangling   => (Json.obj [("edges", .arr [
      .arr [.str "e", .str "a", .str "out", .str "a", .str "in"]])]).compact

theorem of_sample (d : Defect) : d.Of d.sample := by
  cases d
  case notJson =>
    have h : (Json.parse notJson.sample).toOption.isNone := by decide +kernel
    refine .notJson fun j hj => ?_
    simp [hj, Except.toOption] at h
  case noArrays =>
    have hj : Json.parse noArrays.sample = .ok (.arr []) :=
      Json.parse_eq_echo (by decide) (List.forall_mem_nil _)
    exact .noArrays hj (by simp [Json.get?]) (by simp [Json.get?])
  case unreadable =>
    have hj : Json.parse unreadable.sample = .ok (.obj [("nodes", .arr [.null])]) :=
      Json.parse_eq_echo (by decide) (List.forall_mem_nil _)
    refine .unreadable hj fun f hr => ?_
    cases hr with
    | keys hn _ =>
      obtain ⟨_, _, hr, _⟩ := List.forall₂_cons_left_iff.mp hn
      cases hr
  case dangling =>
    have hj : Json.parse dangling.sample = .ok (.obj [("edges", .arr [
        .arr [.str "e", .str "a", .str "out", .str "a", .str "in"]])]) :=
      Json.parse_eq_echo (by decide) (List.forall_mem_nil _)
    let e : Edge :=
      { id := ⟨"e"⟩, source := ⟨"a"⟩, sourceHandle := "out", target := ⟨"a"⟩, targetHandle := "in" }
    refine .dangling hj (f := { nodes := [], edges := [e] }) (.keys rfl (.cons rfl .nil)) ?_
    simp [Fragment.Closed, Fragment.nodeIds]

end Defect

namespace ClipboardError

def defect? : ClipboardError → Option Defect
  | invalidJson _      => some .notJson
  | missingGraphArrays => some .noArrays
  | invalidShape _     => some .unreadable
  | danglingEdge ..    => some .dangling
  | serializeFailed _  => none

-- An error that tells the first of the defects that a text has, and of edges the first.
structure Tells (e : ClipboardError) (text : String) : Prop where
  defect : ∃ d, e.defect? = some d ∧ d.Of text ∧ ∀ d' ∈ d.earlier, ¬d'.Of text
  edge   : ∀ edge node, e = danglingEdge edge node →
    ∃ j f, Json.parse text = .ok j ∧ Fragment.Reads j f ∧ f.FirstDangling edge node

end ClipboardError

namespace Fragment

variable {text : String} {j : Json}

-- What becomes of a text that is read as a value with one of the arrays.
theorem parse_of_hasArray (hj : Json.parse text = .ok j)
    (ha : hasArray j "nodes" ∨ hasArray j "edges") : parse text =
      match shape.read j with
      | .error e => .error (.invalidShape e.message)
      | .ok f    =>
        match f.dangling? with
        | some (edge, node) => .error (.danglingEdge edge node)
        | none              => .ok f := by
  have hc : (!hasArray j "nodes" && !hasArray j "edges") = false := by
    simpa [Decidable.or_iff_not_imp_left] using ha
  rw [parse, hj]
  exact if_neg <| by simp [hc]

theorem parse_tells_notJson (h : Defect.notJson.Of text) :
    ∃ e, parse text = .error e ∧ e.Tells text := by
  cases hj : Json.parse text with
  | ok j    => exact absurd h <| Defect.not_notJson_iff.mpr ⟨j, hj⟩
  | error e =>
    refine ⟨.invalidJson e.message, by rw [parse, hj], ?_⟩
    exact {
      defect := ⟨.notJson, rfl, h, List.forall_mem_nil _⟩
      edge   := fun _ _ h => by cases h }

theorem parse_tells_noArrays (hn : ¬Defect.notJson.Of text) (h : Defect.noArrays.Of text) :
    ∃ e, parse text = .error e ∧ e.Tells text := by
  have ⟨j, hj⟩ := Defect.not_notJson_iff.mp hn
  have ha := (Defect.noArrays_iff hj).mp h
  refine ⟨.missingGraphArrays, by simp [parse, hj, ha], ?_⟩
  exact {
    defect := ⟨.noArrays, rfl, h, by simpa [Defect.earlier] using hn⟩
    edge   := fun _ _ h => by cases h }

theorem parse_tells_unreadable (hn : ¬Defect.notJson.Of text) (ha : ¬Defect.noArrays.Of text)
    (h : Defect.unreadable.Of text) : ∃ e, parse text = .error e ∧ e.Tells text := by
  have ⟨j, hj⟩ := Defect.not_notJson_iff.mp hn
  have hp := parse_of_hasArray hj <| Defect.not_noArrays_iff hj |>.mp ha
  cases hr : shape.read j with
  | ok f    => exact absurd hr <| (Defect.unreadable_iff hj).mp h f
  | error e =>
    refine ⟨.invalidShape e.message, by rw [hp, hr], ?_⟩
    exact {
      defect := ⟨.unreadable, rfl, h, by simpa [Defect.earlier] using ⟨hn, ha⟩⟩
      edge   := fun _ _ h => by cases h }

theorem parse_tells_dangling (hn : ¬Defect.notJson.Of text) (ha : ¬Defect.noArrays.Of text)
    (hu : ¬Defect.unreadable.Of text) (h : Defect.dangling.Of text) :
    ∃ e, parse text = .error e ∧ e.Tells text := by
  have ⟨j, hj⟩ := Defect.not_notJson_iff.mp hn
  have hp := parse_of_hasArray hj <| Defect.not_noArrays_iff hj |>.mp ha
  have ⟨f, hr, hc⟩ := (Defect.dangling_iff hj).mp h
  cases hd : f.dangling? with
  | none   => exact absurd (dangling?_eq_none_iff.mp hd) hc
  | some p =>
    refine ⟨.danglingEdge p.1 p.2, by rw [hp, hr]; simp only [hd], ?_⟩
    exact {
      defect := ⟨.dangling, rfl, h, by simpa [Defect.earlier] using ⟨hn, ha, hu⟩⟩
      edge   := fun edge node he => by
        cases he
        exact ⟨j, f, hj, (read_ok_iff <| Json.ordered_of_parse hj).mp hr,
          dangling?_eq_some_iff.mp hd⟩ }

theorem parse_of_not_defect (h : ∀ d : Defect, ¬d.Of text) : ∃ f, parse text = .ok f := by
  have ⟨j, hj⟩ := Defect.not_notJson_iff.mp <| h .notJson
  have ha := (Defect.not_noArrays_iff hj).mp <| h .noArrays
  have hu := mt (Defect.unreadable_iff hj).mpr <| h .unreadable
  have hd := mt (Defect.dangling_iff hj).mpr <| h .dangling
  simp only [not_forall, not_not, not_exists, not_and, ne_eq] at hu hd
  have ⟨f, hr⟩ := hu
  exact ⟨f, parse_ok_iff.mpr ⟨j, hj, ha, hr, hd f hr⟩⟩

-- A text with a defect is refused, and the error tells the first.
theorem parse_of_defect {d : Defect} (h : d.Of text) :
    ∃ e, parse text = .error e ∧ e.Tells text := by
  by_cases hn : Defect.notJson.Of text
  case pos => exact parse_tells_notJson hn
  by_cases ha : Defect.noArrays.Of text
  case pos => exact parse_tells_noArrays hn ha
  by_cases hu : Defect.unreadable.Of text
  case pos => exact parse_tells_unreadable hn ha hu
  by_cases hd : Defect.dangling.Of text
  case pos => exact parse_tells_dangling hn ha hu hd
  cases d <;> contradiction

end Fragment

end NodeEditor
