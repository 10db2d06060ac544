import NodeEditor.Proofs.Canvas.Connecting
import NodeEditor.Proofs.Json.Ordered

namespace NodeEditor

namespace Graph

variable {g h h' : Graph} {n : Node} {e : Edge} {node : NodeId} {order : List NodeId}

-- A graph with the nodes and edges of another behind its own.
def beside (g h : Graph) : Graph :=
  { nodes := g.nodes ++ h.nodes, edges := g.edges ++ h.edges }

theorem beside_nil (hn : h.nodes = []) (he : h.edges = []) : g.beside h = g := by
  simp [beside, hn, he]

-- Removes nodes one after the other. Gives nothing if one of them is not there.
def removeAll? (g : Graph) (nodes : List NodeId) : Option Graph :=
  nodes.foldlM (fun g node => (g.remove? node).map (·.2)) g

theorem remove?_isSome_iff : (g.remove? node).isSome ↔ node ∈ g.nodeIds := by
  rw [remove?, Option.isSome_map, node?_isSome_iff]

theorem WellFormed.not_touches (w : g.WellFormed) (hn : node ∉ g.nodeIds) (he : e ∈ g.edges) :
    e.touches node = false := by
  have ⟨hs, ht⟩ := w.closed e he
  simp only [Edge.touches, Bool.or_eq_false_iff, decide_eq_false_iff_not]
  exact ⟨fun h => hn <| h ▸ hs, fun h => hn <| h ▸ ht⟩

-- To remove a node from what stands behind a graph leaves the graph as it is.
theorem WellFormed.remove?_beside (w : g.WellFormed) (hn : node ∉ g.nodeIds)
    (hr : h.remove? node = some (n, h')) :
    (g.beside h).remove? node = some (n, g.beside h') := by
  obtain ⟨hf, rfl⟩ := remove?_eq_some_iff.mp hr
  have hg : ∀ m ∈ g.nodes, m.id ≠ node := fun m hm he => hn <| he ▸ List.mem_map_of_mem hm
  refine remove?_eq_some_iff.mpr ⟨?_, ?_⟩
  · have hnone : g.node? node = none := node?_eq_none_iff.mpr hn
    rw [node?, beside, List.find?_append, ← node?, hnone, Option.none_or]
    exact hf
  · have he : g.edges.filter (!·.touches node) = g.edges :=
      List.filter_eq_self.mpr fun e he => by rw [w.not_touches hn he]; rfl
    have hm : ∀ m ∈ g.nodes, ¬decide (m.id = node) = true := by simpa using hg
    simp only [beside, List.eraseP_append_right _ hm, List.filter_append, he]

-- Nodes that a graph does not have, with edges each of which ends at one of them.
structure Attached (g h : Graph) : Prop where
  nodes : h.nodeIds.Nodup
  fresh : ∀ id ∈ h.nodeIds, id ∉ g.nodeIds
  edges : ∀ e ∈ h.edges, ∃ id ∈ h.nodeIds, e.touches id

namespace Attached

theorem remove? (a : g.Attached h) (hr : h.remove? node = some (n, h')) : g.Attached h' := by
  have hi := remove?_nodeIds hr
  obtain ⟨-, rfl⟩ := remove?_eq_some_iff.mp hr
  exact {
    nodes := hi ▸ a.nodes.erase node
    fresh := fun id hid => a.fresh id <| List.mem_of_mem_erase <| hi ▸ hid
    edges := fun e he => by
      have ⟨he, ht⟩ := List.mem_filter.mp he
      have ⟨id, hid, htouch⟩ := a.edges e he
      refine ⟨id, ?_, htouch⟩
      rw [hi, a.nodes.mem_erase_iff]
      exact ⟨fun h => by simp [← h, htouch] at ht, hid⟩ }

-- Once all nodes are gone no edge is left. By induction on the order in which they go, as what is left
-- is still attached.
theorem removeAll?_beside (a : g.Attached h) (w : g.WellFormed) (p : order.Perm h.nodeIds) :
    (g.beside h).removeAll? order = some g := by
  induction order generalizing h with
  | nil =>
    have hn : h.nodeIds = [] := p.nil_eq.symm
    have he : h.edges = [] := List.eq_nil_iff_forall_not_mem.mpr fun e he => by
      have ⟨_, hid, _⟩ := a.edges e he
      simp [hn] at hid
    rw [beside_nil (List.map_eq_nil_iff.mp hn) he]
    rfl
  | cons node rest ih =>
    have ⟨hm, hp⟩ := List.cons_perm_iff_perm_erase.mp p
    have ⟨⟨n, h'⟩, hr⟩ := Option.isSome_iff_exists.mp <| remove?_isSome_iff.mpr hm
    rw [removeAll?, List.foldlM_cons, w.remove?_beside (a.fresh node hm) hr]
    exact ih (a.remove? hr) (remove?_nodeIds hr ▸ hp)

end Attached

-- A node goes with all edges that were made to end at it.
theorem WellFormed.remove?_added {es : List Edge} (w : g.WellFormed) (hn : n.id ∉ g.nodeIds)
    (he : ∀ e ∈ es, e.touches n.id) :
    Graph.remove? { nodes := g.nodes ++ [n], edges := g.edges ++ es } n.id = some (n, g) := by
  have hr : Graph.remove? { nodes := [n], edges := es } n.id = some (n, Graph.empty) := by
    have hf : es.filter (!·.touches n.id) = [] := by simpa using he
    simp [Graph.remove?, node?, Graph.empty, hf]
  have hb := w.remove?_beside hn hr
  rwa [beside_nil (h := Graph.empty) rfl rfl] at hb

theorem disconnect?_pushEdge (he : e.id ∉ g.edgeIds) :
    (g.pushEdge e).disconnect? e.id = some (e, g) := by
  have hg : ∀ e' ∈ g.edges, ¬decide (e'.id = e.id) = true := by
    simpa using fun (e' : Edge) hm (h : e'.id = e.id) => he <| h ▸ List.mem_map_of_mem hm
  refine disconnect?_eq_some_iff.mpr ⟨?_, ?_⟩
  · simp [pushEdge, List.find?_append, List.find?_eq_none.mpr hg]
  · simp [pushEdge, List.eraseP_append_right _ hg]

end Graph

namespace Canvas

variable {c c' : Canvas} {catalog : Catalog} {links : List Link} {node : NodeId}

-- Makes links one after the other, as long as they may be made.
def connectAll (c : Canvas) (catalog : Catalog) : List Link → Except GraphError Canvas
  | []        => .ok c
  | l :: rest => do
    let (_, c) ← c.connect catalog l
    c.connectAll catalog rest

theorem connectAll_edges (hl : ∀ l ∈ links, l.source = node ∨ l.target = node)
    (h : c.connectAll catalog links = .ok c') :
    ∃ es, c'.graph = { c.graph with edges := c.graph.edges ++ es } ∧ ∀ e ∈ es, e.touches node := by
  induction links generalizing c with
  | nil         =>
    cases h
    exact ⟨[], by simp⟩
  | cons l _ ih =>
    have ⟨hs, hr⟩ := List.forall_mem_cons.mp hl
    obtain ⟨⟨id, c₁⟩, hc, h⟩ := bind_ok_iff.mp h
    obtain ⟨es, hg, he⟩ := ih hr h
    refine ⟨{ toLink := l, id := id } :: es, ?_, List.forall_mem_cons.mpr ⟨?_, he⟩⟩
    · simp [hg, (connect_ok hc).right.right, Graph.pushEdge]
    · simpa [Edge.touches] using hs

-- The node was added and then joined by links of its own.
theorem remove?_connected {n : Node} (w : c.graph.WellFormed) (hn : n.id ∉ c.graph.nodeIds)
    {c₁ : Canvas} (hp : c₁.graph = c.graph.push n)
    (hl : ∀ l ∈ links, l.source = n.id ∨ l.target = n.id)
    (h : c₁.connectAll catalog links = .ok c') :
    c'.graph.remove? n.id = some (n, c.graph) := by
  obtain ⟨es, hg, he⟩ := connectAll_edges hl h
  rw [hg, hp]
  exact w.remove?_added hn he

end Canvas

namespace Duplicate

variable {c : Canvas} {f : Fragment}

theorem duplicate_attached : c.graph.Attached (c.duplicate f).1.fragment.graph where
  nodes := duplicate_nodeIds_nodup
  fresh := duplicate_nodeIds_fresh
  edges e he := ⟨e.source, (duplicate_closed e he).left, by simp [Edge.touches]⟩

end Duplicate

namespace Store

variable {s : Store}

-- What takes back a change gives the graph as it was, with all nodes and edges in their order: the
-- removal of a node that was added, whatever it was connected to, of an edge that was made, and of
-- all nodes that were pasted.
structure Reversible (s : Store) (catalog : Catalog) : Prop where
  place   : ∀ t position node c links c', s.canvas.place t position = (node, c) →
    (∀ l ∈ links, l.source = node ∨ l.target = node) → c.connectAll catalog links = .ok c' →
    c'.graph.remove? node = some (⟨node, t.type, position, .ofType t⟩, s.graph)
  insert  : ∀ n g links c, s.graph.insert n = .ok g →
    (∀ l ∈ links, l.source = n.id ∨ l.target = n.id) →
    Canvas.connectAll { s.canvas with graph := g } catalog links = .ok c →
    c.graph.remove? n.id = some (n, s.graph)
  connect : ∀ l edge c, s.canvas.connect catalog l = .ok (edge, c) →
    c.graph.disconnect? edge = some ({ toLink := l, id := edge }, s.graph)
  paste   : ∀ text summary s', s.paste text = (.ok summary, s') →
    ∀ order, order.Perm summary.nodes → s'.graph.removeAll? order = some s.graph

theorem changes_reversible (w : s.graph.WellFormed) (catalog : Catalog) :
    s.Reversible catalog where
  place t position node c links c' hp hl h := by
    obtain ⟨rfl, rfl⟩ := Prod.mk.inj hp
    have hf := s.canvas.supply.fresh_not_mem s.graph.nodeIds s.canvas.next
    exact Canvas.remove?_connected w hf rfl hl h
  insert n g links c hi hl h := by
    obtain ⟨hn, rfl⟩ := Graph.insert_ok_iff.mp hi
    exact Canvas.remove?_connected w hn rfl hl h
  connect l edge c h := by
    have ⟨_, he, hg⟩ := Canvas.connect_ok h
    rw [hg]
    exact Graph.disconnect?_pushEdge he
  paste text summary s' h order p := by
    cases hf : Fragment.parse text with
    | error _ => simp [paste_of_parse_error hf] at h
    | ok f    =>
      simp only [paste_of_parse hf, Except.ok.injEq, Prod.mk.injEq] at h
      obtain ⟨rfl, rfl⟩ := h
      exact Duplicate.duplicate_attached.removeAll?_beside w p

def relay : Node :=
  { id := ⟨"c"⟩, type := "relay", position := Canvas.pasteOffset, data := .empty }

-- A third node, joined with the two that are there and with itself.
def relayLinks : List Link := [
  ⟨⟨"c"⟩, "out", ⟨"a"⟩, "in"⟩,
  ⟨⟨"b"⟩, "out", ⟨"c"⟩, "in"⟩,
  ⟨⟨"c"⟩, "out", ⟨"c"⟩, "in"⟩]

theorem changes_reversible_pair :
    let s := ofGraph Fragment.pair.graph 0
    s.graph.WellFormed ∧
    (∃ g c, s.graph.insert relay = .ok g ∧
      Canvas.connectAll { s.canvas with graph := g } Desk.relays relayLinks = .ok c ∧
      c.graph.remove? ⟨"c"⟩ = some (relay, s.graph)) ∧
    ∃ summary s', s.paste Fragment.pair.text = (.ok summary, s') ∧
      s'.graph.removeAll? summary.nodes.reverse = some s.graph := by
  intro s
  have w : s.graph.WellFormed := Fragment.pair_wellFormed
  have r := changes_reversible w Desk.relays
  have hl : ∀ l ∈ relayLinks, l.source = relay.id ∨ l.target = relay.id := by decide
  have ⟨s', hp, _⟩ := s.paste_copies Fragment.pair_parse
  exact ⟨w, ⟨_, _, rfl, rfl, r.insert relay _ relayLinks _ rfl hl rfl⟩,
    _, s', hp, r.paste _ _ s' hp _ <| List.reverse_perm _⟩

end Store

end NodeEditor
