import NodeEditor.Proofs.Canvas.Paste

namespace NodeEditor

namespace Graph

variable {g h : Graph} {catalog : Catalog} {l l' : Link} {n : Node} {node : NodeId} {kind : String}

-- The names of the nodes with their kinds. Of a graph no more than this matters to its edges.
def kinds (g : Graph) : List (NodeId × String) :=
  g.nodes.map fun n => (n.id, n.type)

theorem mem_kinds_of_node? (h : g.node? node = some n) : (node, n.type) ∈ g.kinds := by
  have ⟨hm, hi⟩ := mem_nodes_of_node? h
  exact List.mem_map.mpr ⟨n, hm, by rw [hi]⟩

theorem node?_of_mem_kinds (hn : g.nodeIds.Nodup) (h : (node, kind) ∈ g.kinds) :
    ∃ n, g.node? node = some n ∧ n.type = kind := by
  obtain ⟨m, hm, he⟩ := List.mem_map.mp h
  injection he with hi ht
  subst hi ht
  have ⟨n, hs⟩ := Option.isSome_iff_exists.mp <| node?_isSome_iff.mpr <| List.mem_map_of_mem hm
  have ⟨hm', hi⟩ := mem_nodes_of_node? hs
  have := List.inj_on_of_nodup_map hn hm' hm hi
  exact ⟨n, hs, this ▸ rfl⟩

-- A link goes over to another graph if its ends do, also under other names.
theorem Joins.transfer (j : g.Joins catalog l) (hn : h.nodeIds.Nodup)
    (hs : ∀ kind, (l.source, kind) ∈ g.kinds → (l'.source, kind) ∈ h.kinds)
    (ht : ∀ kind, (l.target, kind) ∈ g.kinds → (l'.target, kind) ∈ h.kinds)
    (hsh : l'.sourceHandle = l.sourceHandle) (hth : l'.targetHandle = l.targetHandle) :
    h.Joins catalog l' where
  source := by
    obtain ⟨n, t, hg, hc, ho⟩ := j.source
    have ⟨m, hm, hk⟩ := node?_of_mem_kinds hn <| hs _ <| mem_kinds_of_node? hg
    exact ⟨m, t, hm, hk ▸ hc, hsh ▸ ho⟩
  target := by
    obtain ⟨n, t, hg, hc, hi⟩ := j.target
    have ⟨m, hm, hk⟩ := node?_of_mem_kinds hn <| ht _ <| mem_kinds_of_node? hg
    exact ⟨m, t, hm, hk ▸ hc, hth ▸ hi⟩

-- Every edge joins handles that are there and connectable, and no two edges join the same ones.
structure HandleValid (g : Graph) (catalog : Catalog) : Prop where
  joins : ∀ e ∈ g.edges, g.Joins catalog e.toLink
  links : (g.edges.map Edge.toLink).Nodup

namespace HandleValid

-- Edges may be taken away, and nodes at which no edge is left.
theorem sublist (v : g.HandleValid catalog) (hn : h.nodeIds.Nodup) (he : h.edges.Sublist g.edges)
    (hk : ∀ e ∈ h.edges, ∀ p ∈ g.kinds, e.touches p.1 → p ∈ h.kinds) : h.HandleValid catalog where
  joins e hm := (v.joins e <| he.subset hm).transfer hn
    (fun _ hp => hk e hm _ hp <| by simp [Edge.touches])
    (fun _ hp => hk e hm _ hp <| by simp [Edge.touches]) rfl rfl
  links := v.links.sublist <| he.map _

theorem append (v : g.HandleValid catalog) (ns : List Node) (es : List Edge)
    (hn : (g.nodeIds ++ ns.map (·.id)).Nodup)
    (hj : ∀ e ∈ es, Joins { nodes := g.nodes ++ ns, edges := g.edges ++ es } catalog e.toLink)
    (hl : (es.map Edge.toLink).Nodup) (hu : ∀ e ∈ es, ∀ e' ∈ g.edges, e'.toLink ≠ e.toLink) :
    HandleValid { nodes := g.nodes ++ ns, edges := g.edges ++ es } catalog where
  joins e he := by
    rcases List.mem_append.mp he with he | he
    · have hk {p} (hp : p ∈ g.kinds) :
          p ∈ kinds { nodes := g.nodes ++ ns, edges := g.edges ++ es } := by
        rw [kinds, List.map_append]
        exact List.mem_append_left _ hp
      have hn : (nodeIds { nodes := g.nodes ++ ns, edges := g.edges ++ es }).Nodup := by
        rwa [nodeIds, List.map_append]
      exact (v.joins e he).transfer hn (fun _ => hk) (fun _ => hk) rfl rfl
    · exact hj e he
  links := by
    rw [List.map_append]
    refine v.links.append hl fun l h h' => ?_
    obtain ⟨e, he, rfl⟩ := List.mem_map.mp h
    obtain ⟨e', he', hl⟩ := List.mem_map.mp h'
    exact hu e' he' e he hl.symm

theorem push (v : g.HandleValid catalog) (hn : (g.push n).nodeIds.Nodup) :
    (g.push n).HandleValid catalog := by
  have := v.append [n] [] (by simpa using hn) nofun List.nodup_nil nofun
  simpa [Graph.push] using this

theorem pushEdge {e : Edge} (v : g.HandleValid catalog) (hn : g.nodeIds.Nodup)
    (a : g.Allows catalog e.toLink) : (g.pushEdge e).HandleValid catalog := by
  have hj : (g.pushEdge e).Joins catalog e.toLink :=
    a.toJoins.transfer hn (fun _ hp => hp) (fun _ hp => hp) rfl rfl
  have := v.append [] [e] (by simpa using hn)
    (by simpa [Graph.pushEdge] using hj) (List.nodup_singleton _) (by simpa using a.unused)
  simpa [Graph.pushEdge] using this

theorem remove? (v : g.HandleValid catalog) (hr : g.remove? node = some (n, h))
    (hn : h.nodeIds.Nodup) : h.HandleValid catalog := by
  obtain ⟨-, rfl⟩ := remove?_eq_some_iff.mp hr
  refine v.sublist hn List.filter_sublist fun e he p hp ht => ?_
  have hne : p.1 ≠ node := by
    rintro rfl
    simp [List.mem_filter, ht] at he
  obtain ⟨m, hm, rfl⟩ := List.mem_map.mp hp
  exact List.mem_map_of_mem <| (List.mem_eraseP_of_neg <| by simpa using hne).mpr hm

theorem modify {f : Node → Node} (v : g.HandleValid catalog) (hm : g.modify node f = .ok h)
    (hn : h.nodeIds.Nodup) (hi : ∀ n, (f n).id = n.id) (ht : ∀ n, (f n).type = n.type) :
    h.HandleValid catalog := by
  obtain ⟨-, rfl⟩ := modify_ok_iff.mp hm
  refine v.sublist hn (.refl _) fun _ _ p hp _ => ?_
  rw [kinds, map_modifyFirst fun n => by rw [hi, ht]]
  exact hp

theorem disconnect? {e : Edge} {edge : EdgeId} (v : g.HandleValid catalog)
    (hd : g.disconnect? edge = some (e, h)) (hn : h.nodeIds.Nodup) : h.HandleValid catalog := by
  obtain ⟨-, rfl⟩ := disconnect?_eq_some_iff.mp hd
  exact v.sublist hn List.eraseP_sublist fun _ _ _ hp _ => hp

theorem congr (v : g.HandleValid catalog) (hn : h.nodeIds.Nodup) (hk : h.kinds = g.kinds)
    (he : h.edges = g.edges) : h.HandleValid catalog :=
  v.sublist hn (he ▸ .refl _) fun _ _ _ hp _ => hk ▸ hp

end HandleValid

end Graph

namespace Fragment

variable {g : Graph} {catalog : Catalog} {selected : List NodeId}

theorem ofSelection_handleValid (w : g.WellFormed) (v : g.HandleValid catalog) :
    (ofSelection g selected).graph.HandleValid catalog := by
  refine v.sublist (ofSelection_wellFormed w).nodes List.filter_sublist fun e he p hp ht => ?_
  have ⟨_, hs, ht'⟩ := mem_edges_ofSelection.mp he
  have hm : p.1 ∈ selected := by
    simp only [Edge.touches, Bool.or_eq_true, decide_eq_true_eq] at ht
    rcases ht with h | h
    · exact h ▸ hs
    · exact h ▸ ht'
  obtain ⟨n, hn, rfl⟩ := List.mem_map.mp hp
  exact List.mem_map_of_mem <| List.mem_filter.mpr ⟨hn, by simpa using hm⟩

end Fragment

namespace Duplicate

open Canvas

variable {c : Canvas} {f : Fragment} {catalog : Catalog} {rename : NodeId → NodeId}

def relinked (rename : NodeId → NodeId) (l : Link) : Link :=
  { l with source := rename l.source, target := rename l.target }

theorem duplicate_kinds
    (hi : (c.duplicate f).1.fragment.nodeIds = f.nodeIds.map rename) :
    (c.duplicate f).1.fragment.graph.kinds =
      f.graph.kinds.map fun p => (rename p.1, p.2) := by
  rw [duplicate_nodeIds] at hi
  simp only [Fragment.graph, Graph.kinds, duplicate_nodes, hi, Fragment.nodeIds, List.map_map,
    List.zipWith_map_right, List.zipWith_self]
  rfl

theorem relinked_injOn {ids : List NodeId} (hr : Set.InjOn rename {id | id ∈ ids}) {l l' : Link}
    (hs : l.source ∈ ids) (ht : l.target ∈ ids) (hs' : l'.source ∈ ids) (ht' : l'.target ∈ ids)
    (h : relinked rename l = relinked rename l') : l = l' := by
  simp only [relinked, Link.mk.injEq] at h
  have ⟨h₁, h₂, h₃, h₄⟩ := h
  have h₁ := hr hs hs' h₁
  have h₃ := hr ht ht' h₃
  cases l
  cases l'
  simp_all

theorem duplicate_links_eq (hc : f.Closed)
    (hr : ∀ id ∈ f.nodeIds, newName? (c.duplicate f).1.renamed id = some (rename id)) :
    (c.duplicate f).1.fragment.edges.map Edge.toLink =
      (f.edges.map Edge.toLink).map (relinked rename) := by
  rw [duplicate_links, List.map_map, ← List.filterMap_eq_map]
  refine List.filterMap_congr fun e he => ?_
  have ⟨hs, ht⟩ := hc e he
  exact relink?_eq_some_iff.mpr ⟨hr _ hs, hr _ ht, rfl, rfl⟩

theorem paste_nodeIds :
    (c.paste f).2.graph.nodeIds = c.graph.nodeIds ++ (c.duplicate f).1.fragment.nodeIds :=
  List.map_append

theorem paste_kinds :
    (c.paste f).2.graph.kinds = c.graph.kinds ++ (c.duplicate f).1.fragment.graph.kinds :=
  List.map_append

-- A copy of legal edges is legal: it joins copies of the nodes that these join, it keeps different
-- links apart as the renaming is injective, and none of its nodes has been there before.
theorem paste_handleValid (w : c.graph.WellFormed) (v : c.graph.HandleValid catalog)
    (wf : f.graph.WellFormed) (vf : f.graph.HandleValid catalog) :
    (c.paste f).2.graph.HandleValid catalog := by
  have ⟨rename, hr, hb, hi, _⟩ := renames_of_nodup (c := c) wf.closed wf.nodes
  have hl := duplicate_links_eq wf.closed hr
  have mem_kinds {node kind} (h : (node, kind) ∈ f.graph.kinds) :
      (rename node, kind) ∈ (c.paste f).2.graph.kinds := by
    rw [paste_kinds, duplicate_kinds hi]
    exact List.mem_append_right _ <| List.mem_map_of_mem h
  have hn : (c.paste f).2.graph.nodeIds.Nodup := by
    rw [paste_nodeIds]
    exact w.nodes.append duplicate_nodeIds_nodup fun id h h' => duplicate_nodeIds_fresh id h' h
  have hj : ∀ e ∈ (c.duplicate f).1.fragment.edges,
      (c.paste f).2.graph.Joins catalog e.toLink := by
    intro e he
    have he : e.toLink ∈ (c.duplicate f).1.fragment.edges.map Edge.toLink := List.mem_map_of_mem he
    rw [hl, List.map_map] at he
    obtain ⟨e₀, he₀, he⟩ := List.mem_map.mp he
    rw [← he]
    exact (vf.joins e₀ he₀).transfer hn (fun _ => mem_kinds) (fun _ => mem_kinds) rfl rfl
  have hd : ((c.duplicate f).1.fragment.edges.map Edge.toLink).Nodup := by
    rw [hl]
    refine vf.links.map_on fun l hl l' hl' h => ?_
    obtain ⟨e, he, rfl⟩ := List.mem_map.mp hl
    obtain ⟨e', he', rfl⟩ := List.mem_map.mp hl'
    have ⟨hs, ht⟩ := wf.closed e he
    have ⟨hs', ht'⟩ := wf.closed e' he'
    exact relinked_injOn hb.injOn hs ht hs' ht' h
  have hu : ∀ e ∈ (c.duplicate f).1.fragment.edges, ∀ e' ∈ c.graph.edges,
      e'.toLink ≠ e.toLink := by
    intro e he e' he' h
    have hs := (w.closed e' he').left
    rw [congrArg Link.source h] at hs
    exact duplicate_nodeIds_fresh _ (duplicate_closed e he).left hs
  exact v.append _ _ (paste_nodeIds (f := f) ▸ hn) hj hd hu

end Duplicate

end NodeEditor
