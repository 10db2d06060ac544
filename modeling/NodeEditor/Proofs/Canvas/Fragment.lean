import NodeEditor.Canvas.Clipboard
import NodeEditor.Proofs.Canvas.WellFormed

namespace NodeEditor.Fragment

variable {f : Fragment} {g : Graph} {selected : List NodeId} {text : String}

def nodeIds (f : Fragment) : List NodeId :=
  f.nodes.map (·.id)

def edgeIds (f : Fragment) : List EdgeId :=
  f.edges.map (·.id)

def graph (f : Fragment) : Graph :=
  { nodes := f.nodes, edges := f.edges }

-- Every edge joins two nodes of the fragment.
def Closed (f : Fragment) : Prop :=
  ∀ e ∈ f.edges, e.source ∈ f.nodeIds ∧ e.target ∈ f.nodeIds

theorem dangling?_eq_none_iff : f.dangling? = none ↔ f.Closed := by
  simp [dangling?, Closed, nodeIds]

-- A text is read as a value first, and that as a fragment whose edges join its nodes.
theorem parse_ok_iff : parse text = .ok f ↔ ∃ j, Json.parse text = .ok j ∧
    (hasArray j "nodes" ∨ hasArray j "edges") ∧ shape.read j = .ok f ∧ f.Closed := by
  rw [parse]
  cases Json.parse text with
  | error _ => simp
  | ok j    =>
    simp only [Except.ok.injEq, exists_eq_left']
    by_cases ha : hasArray j "nodes" ∨ hasArray j "edges"
    case neg =>
      have : (!hasArray j "nodes" && !hasArray j "edges") = true := by simpa [not_or] using ha
      simp [this, ha]
    case pos =>
      have : (!hasArray j "nodes" && !hasArray j "edges") = false := by
        simpa [Decidable.or_iff_not_imp_left] using ha
      simp only [this, ha, true_and, Bool.false_eq_true, if_false]
      cases shape.read j with
      | error _ => simp
      | ok f'   =>
        have hd := dangling?_eq_none_iff (f := f')
        simp only [Except.ok.injEq]
        split
        case h_1 h =>
          refine iff_of_false (by simp) ?_
          rintro ⟨rfl, hc⟩
          simp [hd.mpr hc] at h
        case h_2 h =>
          simp only [Except.ok.injEq, iff_self_and]
          rintro rfl
          exact hd.mp h

theorem closed_of_parse (h : parse text = .ok f) : f.Closed :=
  have ⟨_, _, _, _, hc⟩ := parse_ok_iff.mp h
  hc

theorem mem_nodeIds_ofSelection {id : NodeId} :
    id ∈ (ofSelection g selected).nodeIds ↔ id ∈ g.nodeIds ∧ id ∈ selected := by
  simp only [nodeIds, ofSelection, List.mem_map, List.mem_filter, List.contains_iff_mem,
    Graph.nodeIds]
  constructor
  case mp  => rintro ⟨n, ⟨hn, hs⟩, rfl⟩; exact ⟨⟨n, hn, rfl⟩, hs⟩
  case mpr => rintro ⟨⟨n, hn, rfl⟩, hs⟩; exact ⟨n, ⟨hn, hs⟩, rfl⟩

theorem mem_edges_ofSelection {e : Edge} : e ∈ (ofSelection g selected).edges ↔
    e ∈ g.edges ∧ e.source ∈ selected ∧ e.target ∈ selected := by
  simp [ofSelection]

-- A selection of a graph without dangling edges has none either, whatever is selected.
theorem ofSelection_closed (h : ∀ e ∈ g.edges, e.source ∈ g.nodeIds ∧ e.target ∈ g.nodeIds) :
    (ofSelection g selected).Closed := by
  intro e he
  have ⟨hg, hs, ht⟩ := mem_edges_ofSelection.mp he
  have ⟨hgs, hgt⟩ := h e hg
  exact ⟨mem_nodeIds_ofSelection.mpr ⟨hgs, hs⟩, mem_nodeIds_ofSelection.mpr ⟨hgt, ht⟩⟩

theorem ofSelection_wellFormed (w : g.WellFormed) :
    (ofSelection g selected).graph.WellFormed where
  nodes  := w.nodes.sublist <| List.filter_sublist.map _
  edges  := w.edges.sublist <| List.filter_sublist.map _
  closed := ofSelection_closed w.closed

end NodeEditor.Fragment
