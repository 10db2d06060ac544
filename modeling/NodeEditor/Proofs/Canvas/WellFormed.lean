import Mathlib.Data.List.Forall2
import Mathlib.Data.List.Nodup
import NodeEditor.Canvas.Graph

namespace NodeEditor

section

variable {α β : Type} {p : α → Bool} {f : α → α}

theorem map_modifyFirst {g : α → β} (h : ∀ a, g (f a) = g a) (as : List α) :
    (modifyFirst p f as).map g = as.map g := by
  induction as with
  | nil => rfl
  | cons a as ih =>
    simp only [modifyFirst]
    split <;> simp [h, ih]

end

namespace Graph

variable {g h : Graph} {n : Node} {node : NodeId} {e : Edge} {edge : EdgeId} {l : Link}

@[simp]
theorem nodeIds_push : (g.push n).nodeIds = g.nodeIds ++ [n.id] := by
  simp [push, nodeIds]

theorem node?_isSome_iff : (g.node? node).isSome ↔ node ∈ g.nodeIds := by
  simp [node?, nodeIds]

theorem containsNode_iff : g.containsNode node ↔ node ∈ g.nodeIds :=
  node?_isSome_iff

theorem mem_nodes_of_node? (hn : g.node? node = some n) : n ∈ g.nodes ∧ n.id = node :=
  ⟨List.mem_of_find?_eq_some hn, by simpa using List.find?_some hn⟩

-- What each operation does when it succeeds, and when that is.

theorem insert_ok_iff : g.insert n = .ok h ↔ n.id ∉ g.nodeIds ∧ h = g.push n := by
  rw [insert, ← containsNode_iff]
  split
  case isTrue hc  => simp [hc]
  case isFalse hc => simp [hc, eq_comm]

theorem remove?_eq_some_iff : g.remove? node = some (n, h) ↔
    g.node? node = some n ∧
    h = { nodes := g.nodes.eraseP (·.id = node), edges := g.edges.filter (!·.touches node) } := by
  simp only [remove?, Option.map_eq_some_iff, Prod.mk.injEq]
  constructor
  case mp  => rintro ⟨_, hn, rfl, rfl⟩; exact ⟨hn, rfl⟩
  case mpr => rintro ⟨hn, rfl⟩; exact ⟨n, hn, rfl, rfl⟩

theorem remove?_nodeIds (hr : g.remove? node = some (n, h)) :
    h.nodeIds = g.nodeIds.erase node := by
  obtain ⟨-, rfl⟩ := remove?_eq_some_iff.mp hr
  simp only [nodeIds, List.erase_eq_eraseP, List.eraseP_map]
  congr 2
  funext m
  exact decide_eq_decide.mpr eq_comm

theorem node?_remove? {other : NodeId} (hr : g.remove? other = some (n, h)) (ho : other ≠ node) :
    h.node? node = g.node? node := by
  obtain ⟨-, rfl⟩ := remove?_eq_some_iff.mp hr
  simp only [node?]
  induction g.nodes with
  | nil            => rfl
  | cons m rest ih =>
    by_cases hm : m.id = other
    case pos => simp [hm, ho]
    case neg =>
      rw [List.eraseP_cons_of_neg (by simpa using hm), List.find?_cons, List.find?_cons, ih]

theorem modify_ok_iff {f : Node → Node} : g.modify node f = .ok h ↔
    node ∈ g.nodeIds ∧ h = { g with nodes := modifyFirst (·.id = node) f g.nodes } := by
  rw [modify, ← containsNode_iff]
  split
  case isTrue hc  => simp [hc, eq_comm]
  case isFalse hc => simp [hc]

theorem disconnect?_eq_some_iff : g.disconnect? edge = some (e, h) ↔
    g.edges.find? (·.id = edge) = some e ∧
    h = { g with edges := g.edges.eraseP (·.id = edge) } := by
  simp only [disconnect?, Option.map_eq_some_iff, Prod.mk.injEq]
  constructor
  case mp  => rintro ⟨_, he, rfl, rfl⟩; exact ⟨he, rfl⟩
  case mpr => rintro ⟨he, rfl⟩; exact ⟨e, he, rfl, rfl⟩

theorem typeOf_ok_iff {catalog : Catalog} {t : NodeType} : g.typeOf catalog node = .ok t ↔
    ∃ n, g.node? node = some n ∧ catalog.get? n.type = some t := by
  rw [typeOf]
  cases g.node? node with
  | none => simp
  | some n => cases h : catalog.get? n.type <;> simp [h]

-- Both ends of a link are nodes of known kinds that have its handles, and these are connectable.
structure Joins (g : Graph) (catalog : Catalog) (l : Link) : Prop where
  source : ∃ n t, g.node? l.source = some n ∧ catalog.get? n.type = some t ∧
    (t.connectionOutput? l.sourceHandle).isSome
  target : ∃ n t, g.node? l.target = some n ∧ catalog.get? n.type = some t ∧
    (t.connectionInput? l.targetHandle).isSome

-- A link may be made if no edge joins its handles yet.
structure Allows (g : Graph) (catalog : Catalog) (l : Link) : Prop extends g.Joins catalog l where
  unused : ∀ e ∈ g.edges, e.toLink ≠ l

theorem Allows.of_checkLink {catalog : Catalog} (h : g.checkLink catalog l = .ok ()) :
    g.Allows catalog l := by
  simp only [checkLink, bind, Except.bind] at h
  split at h
  case h_1 => contradiction
  case h_2 s hs =>
  split at h
  case h_1 => contradiction
  case h_2 t ht =>
  have ⟨m, hm, hcm⟩ := typeOf_ok_iff.mp hs
  have ⟨n, hn, hcn⟩ := typeOf_ok_iff.mp ht
  split at h
  case isTrue => contradiction
  case isFalse ho =>
  split at h
  case isTrue => contradiction
  case isFalse hi =>
  split at h
  case h_1 => contradiction
  case h_2 hu =>
  exact {
    source := ⟨m, s, hm, hcm, by simpa [Option.isSome_iff_ne_none] using ho⟩
    target := ⟨n, t, hn, hcn, by simpa [Option.isSome_iff_ne_none] using hi⟩
    unused := by simpa using hu }

theorem Joins.source_mem {catalog : Catalog} (j : g.Joins catalog l) : l.source ∈ g.nodeIds :=
  have ⟨_, _, h, _⟩ := j.source
  node?_isSome_iff.mp (h ▸ rfl)

theorem Joins.target_mem {catalog : Catalog} (j : g.Joins catalog l) : l.target ∈ g.nodeIds :=
  have ⟨_, _, h, _⟩ := j.target
  node?_isSome_iff.mp (h ▸ rfl)

-- Names tell nodes apart and edges apart, and no edge leaves the graph.
structure WellFormed (g : Graph) : Prop where
  nodes  : g.nodeIds.Nodup
  edges  : g.edgeIds.Nodup
  closed : ∀ e ∈ g.edges, e.source ∈ g.nodeIds ∧ e.target ∈ g.nodeIds

namespace WellFormed

theorem empty : Graph.empty.WellFormed where
  nodes  := by simp [Graph.empty, nodeIds]
  edges  := by simp [Graph.empty, edgeIds]
  closed := by simp [Graph.empty]

theorem congr (w : g.WellFormed) (hn : h.nodeIds = g.nodeIds) (he : h.edges = g.edges) :
    h.WellFormed where
  nodes  := hn ▸ w.nodes
  edges  := by
    rw [edgeIds, he]
    exact w.edges
  closed := hn ▸ he ▸ w.closed

theorem append (w : g.WellFormed) (ns : List Node) (es : List Edge)
    (hn : (ns.map (·.id)).Nodup) (hnf : ∀ id ∈ ns.map (·.id), id ∉ g.nodeIds)
    (he : (es.map (·.id)).Nodup) (hef : ∀ id ∈ es.map (·.id), id ∉ g.edgeIds)
    (hc : ∀ e ∈ es, e.source ∈ g.nodeIds ++ ns.map (·.id) ∧ e.target ∈ g.nodeIds ++ ns.map (·.id)) :
    WellFormed { nodes := g.nodes ++ ns, edges := g.edges ++ es } where
  nodes := by
    simp only [nodeIds, List.map_append]
    exact w.nodes.append hn fun id h h' => hnf id h' h
  edges := by
    simp only [edgeIds, List.map_append]
    exact w.edges.append he fun id h h' => hef id h' h
  closed e h := by
    simp only [nodeIds, List.map_append]
    rcases List.mem_append.mp h with h | h
    · have ⟨hs, ht⟩ := w.closed e h
      exact ⟨List.mem_append_left _ hs, List.mem_append_left _ ht⟩
    · exact hc e h

theorem push (w : g.WellFormed) (hn : n.id ∉ g.nodeIds) : (g.push n).WellFormed := by
  have := w.append [n] [] (by simp) (by simpa using hn) (by simp) (by simp) (by simp)
  simpa [Graph.push] using this

theorem pushEdge (w : g.WellFormed) (he : e.id ∉ g.edgeIds)
    (hs : e.source ∈ g.nodeIds) (ht : e.target ∈ g.nodeIds) : (g.pushEdge e).WellFormed := by
  have := w.append [] [e] (by simp) (by simp) (by simp) (by simpa using he)
    (by simp [hs, ht])
  simpa [Graph.pushEdge] using this

theorem insert (w : g.WellFormed) (hi : g.insert n = .ok h) : h.WellFormed := by
  obtain ⟨hn, rfl⟩ := insert_ok_iff.mp hi
  exact w.push hn

theorem remove? (w : g.WellFormed) (hr : g.remove? node = some (n, h)) : h.WellFormed := by
  have hi := remove?_nodeIds hr
  obtain ⟨-, rfl⟩ := remove?_eq_some_iff.mp hr
  exact {
    nodes  := hi ▸ w.nodes.erase node
    edges  := w.edges.sublist <| List.filter_sublist.map _
    closed := fun e he => by
      have ⟨he, ht⟩ := List.mem_filter.mp he
      have ⟨h₁, h₂⟩ := w.closed e he
      simp only [Edge.touches, Bool.not_eq_true', Bool.or_eq_false_iff, decide_eq_false_iff_not] at ht
      rw [hi, w.nodes.mem_erase_iff, w.nodes.mem_erase_iff]
      exact ⟨⟨ht.left, h₁⟩, ht.right, h₂⟩ }

theorem modify {f : Node → Node} (w : g.WellFormed) (hm : g.modify node f = .ok h)
    (hf : ∀ n, (f n).id = n.id) : h.WellFormed := by
  obtain ⟨-, rfl⟩ := modify_ok_iff.mp hm
  have hi : nodeIds { g with nodes := modifyFirst (·.id = node) f g.nodes } = g.nodeIds :=
    map_modifyFirst hf _
  exact { nodes := hi ▸ w.nodes, edges := w.edges, closed := hi ▸ w.closed }

theorem replaceData {d : NodeData} (w : g.WellFormed) (hr : g.replaceData node d = .ok h) :
    h.WellFormed :=
  w.modify hr fun _ => rfl

theorem move {p : Position} (w : g.WellFormed) (hm : g.move node p = .ok h) : h.WellFormed :=
  w.modify hm fun _ => rfl

theorem disconnect? (w : g.WellFormed) (hd : g.disconnect? edge = some (e, h)) :
    h.WellFormed := by
  obtain ⟨-, rfl⟩ := disconnect?_eq_some_iff.mp hd
  have hsub : (g.edges.eraseP (·.id = edge)).Sublist g.edges := List.eraseP_sublist
  exact {
    nodes  := w.nodes
    edges  := w.edges.sublist <| hsub.map _
    closed := fun e he => w.closed e (hsub.subset he) }

end WellFormed

end Graph

end NodeEditor
