import NodeEditor.Proofs.Canvas.Document
import NodeEditor.Proofs.Canvas.Fragment

namespace NodeEditor

open Json

namespace Fragment

variable {f f' : Fragment} {g : Graph} {selected : List NodeId} {n : Node}

theorem echo_toJson (f : Fragment) : f.toJson.echo = .obj [
    ("edges", .arr (f.edges.map fun e => e.toJson.echo)),
    ("nodes", .arr (f.nodes.map fun n => n.toJson.echo))] := by
  simp only [toJson, echo, echoEntries, echoItems_eq_map, List.map_map, Function.comp_def,
    Dict.entries_ofList, List.foldl, insertEntry, String.reduceLT, String.reduceEq, reduceIte]

theorem read_echo (f : Fragment) : shape.read f.toJson.echo = (do
    let nodes ← f.nodes.mapM fun n => Node.shape.read n.toJson.echo
    .ok { nodes := nodes, edges := f.edges }) := by
  have he : f.edges.mapM (fun e => Edge.shape.read e.toJson.echo) = .ok f.edges :=
    mapM_ok_of_forall fun e _ => e.read_echo
  rw [echo_toJson, RecordShape.read_obj]
  cases hn : f.nodes.mapM fun n => Node.shape.read n.toJson.echo
  all_goals
    simp [shape, RecordShape.readEntries, RecordShape.visit, Field.answersTo, Field.optional,
      Shape.list, List.mapM_map, Function.comp_def, he, hn, bind, Except.bind, Except.map]

-- What a text can hold: positions are finite, and no more arrays and objects stand inside each other
-- than a reader takes. In the values every object has its keys in order and every integer has 64
-- bits, as in all values that are ever read or entered. Of each double it is assumed that its text
-- reads as that double.
structure Writable (f : Fragment) : Prop where
  positions : ∀ n ∈ f.nodes, n.position.x.isFinite ∧ n.position.y.isFinite
  depth     : f.toJson.depth ≤ 127
  values    : ∀ n ∈ f.nodes, ∀ e ∈ n.data.values.entries, e.2.Ordered
  integers  : ∀ i : Int, .int i ∈ f.toJson.numbers →
    -0x8000000000000000 ≤ i ∧ i < 0x10000000000000000
  doubles   : ∀ x : Float, .float x ∈ f.toJson.numbers → (Number.float x).Legible

namespace Writable

theorem reread (w : f.Writable) : ∀ x ∈ f.toJson.numbers, x.reread = some x := by
  intro x hx
  apply Number.legible_iff.mp
  cases x
  case int i   => exact Number.legible_int (w.integers i hx).left (w.integers i hx).right
  case float x => exact w.doubles x hx

theorem numbers_subset (h : n ∈ f.nodes) : n.toJson.numbers ⊆ f.toJson.numbers := by
  intro x hx
  simp only [toJson, numbers, numbersEntries, numbersItems_eq_flatMap, List.flatMap_map,
    List.mem_append, List.mem_flatMap]
  exact .inl ⟨n, h, hx⟩

theorem read_node (w : f.Writable) (h : n ∈ f.nodes) : Node.shape.read n.toJson.echo = .ok n := by
  have hn : ∀ x ∈ n.toJson.numbers, x.reread = some x := fun x hx =>
    w.reread x <| numbers_subset h hx
  have hv : ∀ e ∈ n.data.values.entries, e.2.echo = e.2 := fun e he =>
    echo_of_ordered (w.values n h e he) fun x hx =>
      hn x <| n.data_numbers_subset <| NodeData.numbers_subset he hx
  have hp : Position.shape.read n.position.toJson.echo = .ok n.position :=
    Position.read_echo (w.positions n h).left (w.positions n h).right fun x hx =>
      hn x <| n.position_numbers_subset hx
  rw [Node.read_echo, NodeData.echo_toJson hv, NodeData.read_fields, hp]
  rfl

end Writable

theorem parse_text_of_writable (hc : f.Closed) (w : f.Writable) : parse f.text = .ok f := by
  refine parse_ok_iff.mpr ⟨f.toJson.echo, parse_eq_echo w.depth ?_, ?_, ?_, hc⟩
  · exact fun x hx => Option.isSome_iff_exists.mpr ⟨x, w.reread x hx⟩
  · exact .inl <| by simp [hasArray, echo_toJson, Json.get?, Dict.lookup_cons_eq, items?]
  · rw [read_echo, mapM_ok_of_forall fun n hn => w.read_node hn]
    rfl

-- Whatever numbers read as, what is read from the text of a fragment has its nodes by name and kind,
-- and its edges.
theorem outline_of_parse (h : parse f.text = .ok f') :
    (f'.nodes.map fun n => (n.id, n.type)) = (f.nodes.map fun n => (n.id, n.type)) ∧
    f'.edges = f.edges := by
  obtain ⟨j, hj, -, hr, -⟩ := parse_ok_iff.mp h
  rw [echo_of_parse hj, read_echo] at hr
  cases hm : f.nodes.mapM fun n => Node.shape.read n.toJson.echo with
  | error _  => simp [hm, bind, Except.bind] at hr
  | ok nodes =>
    simp only [hm, bind, Except.bind, Except.ok.injEq] at hr
    subst hr
    refine ⟨?_, rfl⟩
    exact map_eq_of_forall₂ <| (forall₂_of_mapM_ok hm).imp fun n m h => Node.outline_of_read h

-- Two nodes with an edge between them and one from a node to itself. One node holds values under names
-- that the canvas uses itself.
def pair : Fragment where
  nodes := [
    { id := ⟨"a"⟩, type := "relay", position := { x := 30.0, y := 0.5 }
      data := {
        label := "first \"☃\"\n"
        outcome := some .success
        values := {
          entries := [
            ("$values", .arr [.null, .num (.int (-3))]),
            ("label", .str "shadowed"),
            ("query", .obj [("limit", .num (.float 1.5)), ("tags", .arr [])])]
          ordered := by decide } } },
    { id := ⟨"b"⟩, type := "relay", position := { x := 30.0, y := 0.5 }
      data := {
        label := ""
        outcome := none
        values := { entries := [("url", .str "\\")], ordered := by decide } } }]
  edges := [
    { id := ⟨"ab"⟩, source := ⟨"a"⟩, sourceHandle := "out", target := ⟨"b"⟩, targetHandle := "in" },
    { id := ⟨"aa"⟩, source := ⟨"a"⟩, sourceHandle := "out", target := ⟨"a"⟩, targetHandle := "in" }]

theorem pair_closed : pair.Closed := by
  simp [Closed, pair, nodeIds]

theorem pair_wellFormed : pair.graph.WellFormed where
  nodes  := by decide
  edges  := by decide
  closed := pair_closed

theorem pair_numbers : pair.toJson.numbers =
    [.float 30.0, .float 0.5, .float 1.5, .int (-3), .float 30.0, .float 0.5] := by
  decide +kernel

theorem pair_writable : pair.Writable where
  positions := by decide +kernel
  depth     := by decide +kernel
  values    := by
    simp only [pair, List.forall_mem_cons, Ordered, OrderedEntries, OrderedItems, and_true,
      true_and]
    exact ⟨⟨by decide, List.forall_mem_nil _⟩, List.forall_mem_nil _, List.forall_mem_nil _⟩
  integers  := by simp [pair_numbers]
  doubles   := by
    have : ∀ n ∈ pair.toJson.numbers, n.reread = some n := by decide +kernel
    exact fun x hx => Number.legible_iff.mpr <| this _ hx

theorem pair_parse : parse pair.text = .ok pair :=
  parse_text_of_writable pair_closed pair_writable

-- A fragment is read from its text as it was. In particular a selection is, which consists of the
-- selected nodes and of the edges between them.
theorem parse_text :
    (∀ f : Fragment, f.Closed → f.Writable → parse f.text = .ok f) ∧
    ∀ (g : Graph) (selected : List NodeId),
      (∀ e ∈ g.edges, e.source ∈ g.nodeIds ∧ e.target ∈ g.nodeIds) →
      (ofSelection g selected).Writable →
      ∃ f, parse (ofSelection g selected).text = .ok f ∧
        f.nodes = g.nodes.filter (·.id ∈ selected) ∧
        f.edges = g.edges.filter fun e => e.source ∈ selected ∧ e.target ∈ selected := by
  refine ⟨fun f => parse_text_of_writable, fun g selected hg w => ?_⟩
  refine ⟨_, parse_text_of_writable (ofSelection_closed hg) w, ?_, ?_⟩
  · simp [ofSelection]
  · simp [ofSelection]

theorem parse_text_pair :
    parse pair.text = .ok pair ∧
    ∃ f, parse (ofSelection pair.graph [⟨"b"⟩, ⟨"nobody"⟩, ⟨"a"⟩, ⟨"b"⟩]).text = .ok f ∧
      f.nodes = pair.nodes ∧ f.edges = pair.edges := by
  refine ⟨parse_text.left pair pair_closed pair_writable, ?_⟩
  have hs : ofSelection pair.graph [⟨"b"⟩, ⟨"nobody"⟩, ⟨"a"⟩, ⟨"b"⟩] = pair := rfl
  exact parse_text.right pair.graph _ pair_closed (hs ▸ pair_writable)

end Fragment

end NodeEditor
