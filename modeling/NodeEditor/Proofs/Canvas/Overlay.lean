import NodeEditor.Canvas.Store
import NodeEditor.Proofs.Canvas.WellFormed

namespace NodeEditor

namespace NodeData

-- What is shown of a node and is none of its values.
def title (d : NodeData) : String × Option Outcome :=
  (d.label, d.outcome)

end NodeData

namespace Graph

variable {g : Graph} {node : NodeId} {d d' : NodeId → Option NodeData} {data : NodeData}

def data? (g : Graph) (node : NodeId) : Option NodeData :=
  (g.node? node).map (·.data)

def title? (g : Graph) (node : NodeId) : Option (String × Option Outcome) :=
  (g.data? node).map (·.title)

-- A graph in which some nodes hold other data, and everything else is the same.
def overlay (g : Graph) (d : NodeId → Option NodeData) : Graph :=
  { g with nodes := g.nodes.map fun n => { n with data := (d n.id).getD n.data } }

-- New data for a single node, if there is any.
def only (node : NodeId) (data : Option NodeData) : NodeId → Option NodeData :=
  fun id => if id = node then data else none

theorem only_self {data : Option NodeData} : only node data node = data :=
  if_pos rfl

theorem only_of_ne {id : NodeId} {data : Option NodeData} (h : id ≠ node) :
    only node data id = none :=
  if_neg h

theorem overlay_none : (g.overlay fun _ => none) = g := by
  simp [overlay]

theorem overlay_only_none : g.overlay (only node none) = g := by
  simp [overlay, only]

theorem overlay_overlay : (g.overlay d).overlay d' = g.overlay fun id => (d' id).or (d id) := by
  simp only [overlay, List.map_map]
  congr 2
  funext n
  cases h : d' n.id <;> simp [h]

theorem nodeIds_overlay : (g.overlay d).nodeIds = g.nodeIds := by
  simp [overlay, nodeIds]

theorem data?_overlay : (g.overlay d).data? node = (g.data? node).map (d node).getD := by
  simp only [data?, node?, overlay, List.find?_map, Option.map_map]
  refine Option.map_congr fun n hn => ?_
  have hi : n.id = node := by simpa using List.find?_some hn
  simp [hi]

theorem data?_isSome_iff : (g.data? node).isSome ↔ node ∈ g.nodeIds := by
  rw [data?, Option.isSome_map, node?_isSome_iff]

-- Where names tell nodes apart, the first node of a name is the only one.
theorem modifyFirst_eq_map {f : Node → Node} {nodes : List Node}
    (hn : (nodes.map (·.id)).Nodup) :
    modifyFirst (·.id = node) f nodes = nodes.map fun n => if n.id = node then f n else n := by
  induction nodes with
  | nil            => rfl
  | cons n rest ih =>
    have ⟨hi, hr⟩ := List.nodup_cons.mp hn
    by_cases h : n.id = node
    case neg => simp [modifyFirst, h, ih hr]
    case pos =>
      have hs (m : Node) (hm : m ∈ rest) : ¬m.id = node :=
        fun he => hi <| List.mem_map.mpr ⟨m, hm, he.trans h.symm⟩
      have he : rest.map (fun m => if m.id = node then f m else m) = rest.map id :=
        List.map_congr_left fun m hm => if_neg (hs m hm)
      simp [modifyFirst, h, he]

theorem replaceData_of_mem (hn : g.nodeIds.Nodup) (h : node ∈ g.nodeIds) :
    g.replaceData node data = .ok (g.overlay <| only node (some data)) := by
  refine modify_ok_iff.mpr ⟨h, ?_⟩
  rw [modifyFirst_eq_map hn, overlay]
  congr 2
  funext n
  by_cases hi : n.id = node <;> simp [only, hi]

theorem replaceData_of_not_mem (h : node ∉ g.nodeIds) :
    g.replaceData node data = .error (.nodeNotFound node) :=
  if_neg fun hc => h <| containsNode_iff.mp hc

end Graph

end NodeEditor
