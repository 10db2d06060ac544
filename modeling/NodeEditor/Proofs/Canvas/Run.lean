import NodeEditor.Proofs.Canvas.Paste

namespace NodeEditor

inductive Command where
  | place (type : NodeType) (position : Position)
  | insert (n : Node)
  | remove (node : NodeId)
  | connect (l : Link)
  | disconnect (edge : EdgeId)
  | replaceData (node : NodeId) (data : NodeData)
  | move (node : NodeId) (position : Position)
  | paste (text : String)

namespace Canvas

-- The canvas with the graph that an operation gives, or as it was if it gives none.
def update (c : Canvas) (g : Option Graph) : Canvas :=
  { c with graph := g.getD c.graph }

-- A command that fails leaves all as it was.
def apply (catalog : Catalog) (c : Canvas) : Command → Canvas
  | .place t p          => (c.place t p).2
  | .insert n           => c.update (c.graph.insert n).toOption
  | .remove node        => c.update <| (c.graph.remove? node).map (·.2)
  | .connect l          => ((c.connect catalog l).toOption.map (·.2)).getD c
  | .disconnect edge    => c.update <| (c.graph.disconnect? edge).map (·.2)
  | .replaceData node d => c.update (c.graph.replaceData node d).toOption
  | .move node p        => c.update (c.graph.move node p).toOption
  | .paste text         => ((Fragment.parse text).toOption.map fun f => (c.paste f).2).getD c

def run (catalog : Catalog) (c : Canvas) (cmds : List Command) : Canvas :=
  cmds.foldl (apply catalog) c

variable {c : Canvas} {catalog : Catalog}

-- What a connection that is made does.
theorem connect_ok {l : Link} {id : EdgeId} {c' : Canvas} (h : c.connect catalog l = .ok (id, c')) :
    c.graph.Allows catalog l ∧ id ∉ c.graph.edgeIds ∧
    c'.graph = c.graph.pushEdge { toLink := l, id := id } := by
  simp only [connect, bind, Except.bind] at h
  split at h
  case h_1 => contradiction
  case h_2 ha =>
    injection h with h
    injection h with hi hc
    subst hi hc
    exact ⟨.of_checkLink ha, c.supply.fresh_not_mem c.graph.edgeIds c.next, rfl⟩

theorem update_graph {P : Graph → Prop} {g : Option Graph} (hc : P c.graph)
    (h : ∀ g', g = some g' → P g') : P (c.update g).graph := by
  cases g with
  | none    => exact hc
  | some g' => exact h g' rfl

theorem place_wellFormed (w : c.graph.WellFormed) (t : NodeType) (p : Position) :
    (c.place t p).2.graph.WellFormed :=
  w.push <| c.supply.fresh_not_mem c.graph.nodeIds c.next

theorem connect_wellFormed (w : c.graph.WellFormed) {l : Link} {id : EdgeId} {c' : Canvas}
    (h : c.connect catalog l = .ok (id, c')) : c'.graph.WellFormed := by
  have ⟨a, hi, hg⟩ := connect_ok h
  exact hg ▸ w.pushEdge hi a.toJoins.source_mem a.toJoins.target_mem

theorem paste_wellFormed (w : c.graph.WellFormed) (f : Fragment) :
    (c.paste f).2.graph.WellFormed := by
  refine w.append _ _ Duplicate.duplicate_nodeIds_nodup Duplicate.duplicate_nodeIds_fresh
    Duplicate.duplicate_edgeIds_nodup Duplicate.duplicate_edgeIds_fresh fun e he => ?_
  have ⟨hs, ht⟩ := Duplicate.duplicate_closed e he
  exact ⟨List.mem_append_right _ hs, List.mem_append_right _ ht⟩

theorem apply_wellFormed (w : c.graph.WellFormed) (cmd : Command) :
    (c.apply catalog cmd).graph.WellFormed := by
  cases cmd
  case place t p => exact place_wellFormed w t p
  case insert n =>
    exact update_graph w fun _ h => w.insert <| toOption_eq_some_iff.mp h
  case remove node =>
    refine update_graph w fun _ h => ?_
    have ⟨_, hr, hg⟩ := Option.map_eq_some_iff.mp h
    exact hg ▸ w.remove? hr
  case connect l =>
    simp only [apply]
    cases h : c.connect catalog l with
    | error _ => exact w
    | ok r    => exact connect_wellFormed w h
  case disconnect edge =>
    refine update_graph w fun _ h => ?_
    have ⟨_, hd, hg⟩ := Option.map_eq_some_iff.mp h
    exact hg ▸ w.disconnect? hd
  case replaceData node d =>
    exact update_graph w fun _ h => w.replaceData <| toOption_eq_some_iff.mp h
  case move node p =>
    exact update_graph w fun _ h => w.move <| toOption_eq_some_iff.mp h
  case paste text =>
    simp only [apply]
    cases Fragment.parse text with
    | error _ => exact w
    | ok f    => exact paste_wellFormed w f

-- Whatever is done, and whether it succeeds or fails, names tell nodes and edges apart and every edge
-- joins nodes of the graph.
theorem run_wellFormed (w : c.graph.WellFormed) (cmds : List Command) :
    (c.run catalog cmds).graph.WellFormed := by
  induction cmds generalizing c with
  | nil           => exact w
  | cons cmd _ ih => exact ih <| apply_wellFormed w cmd

theorem run_wellFormed_pair :
    Fragment.pair.graph.WellFormed ∧
    (run .empty { graph := Fragment.pair.graph, next := 0 } [
      .paste Fragment.pair.text,
      .insert { id := ⟨"a"⟩, type := "", position := pasteOffset, data := .empty },
      .remove ⟨"b"⟩,
      .disconnect ⟨"aa"⟩,
      .paste "nodes",
      .paste Fragment.pair.text]).graph.WellFormed :=
  ⟨Fragment.pair_wellFormed, run_wellFormed Fragment.pair_wellFormed _⟩

end Canvas

end NodeEditor
