import Mathlib.Algebra.Order.Field.Basic
import Mathlib.Algebra.Order.Field.Rat
import NodeEditor.Canvas.Rendering
import NodeEditor.Proofs.Catalog.Loading

namespace NodeEditor

-- The sides are gone round clockwise, from the top.
def Side.turn : Side → Nat
  | .top    => 0
  | .right  => 1
  | .bottom => 2
  | .left   => 3

theorem Side.mem_all (side : Side) : side ∈ Side.all := by
  cases side <;> decide

theorem Side.all_pairwise_turn : Side.all.Pairwise fun s s' => s.turn < s'.turn := by
  decide

-- That an edge has a node and one of its handles as its source, or as its target.
def Edge.Attaches (e : Edge) (node : NodeId) (handle : String) : Bool → Prop
  | true  => e.source = node ∧ e.sourceHandle = handle
  | false => e.target = node ∧ e.targetHandle = handle

theorem isConnected_iff {edges : List Edge} {node : NodeId} {handle : String} {isSource : Bool} :
    isConnected edges node handle isSource ↔ ∃ e ∈ edges, e.Attaches node handle isSource := by
  rw [isConnected, List.any_eq_true]
  cases isSource <;> simp [Edge.Attaches]

namespace NodeType

-- The handles of a kind in the order in which they are declared; outputs are sources.
def declared (t : NodeType) : List (Handle × Bool) :=
  t.inputs.map (·, false) ++ t.outputs.map (·, true)

-- Those of them that belong on a side.
def declaredOn (t : NodeType) (side : Side) : List (Handle × Bool) :=
  (t.inputs.filter (·.sideOr .left = side)).map (·, false) ++
    (t.outputs.filter (·.sideOr .right = side)).map (·, true)

end NodeType

namespace PlacedHandle

variable {α : Type} {i j n : Nat}

def role (h : PlacedHandle α) : Handle × Bool :=
  (h.handle, h.isSource)

theorem fractionOf_lt (h : i < j) : (fractionOf i n : ℚ) < fractionOf j n :=
  div_lt_div_of_pos_right (Nat.cast_lt.mpr <| Nat.succ_lt_succ h) <| Nat.cast_pos.mpr n.succ_pos

theorem fractionOf_pos : 0 < (fractionOf i n : ℚ) :=
  div_pos (Nat.cast_pos.mpr i.succ_pos) <| Nat.cast_pos.mpr n.succ_pos

theorem fractionOf_lt_one (h : i < n) : (fractionOf i n : ℚ) < 1 :=
  (div_lt_one <| Nat.cast_pos.mpr n.succ_pos).mpr <| Nat.cast_lt.mpr <| Nat.succ_lt_succ h

end PlacedHandle

section

variable {α : Type} [NatCast α] [Div α] {t : NodeType} {node : NodeId} {edges : List Edge}
  {side : Side} {h : PlacedHandle α}

-- What is placed on one side.
def placedOn (α : Type) [NatCast α] [Div α] (t : NodeType) (node : NodeId) (edges : List Edge)
    (side : Side) : List (PlacedHandle α) :=
  let handles := (sidedHandles t).filter fun h => h.2.1 = side
  handles.zipIdx.map fun ((handle, _, isSource), index) =>
    { handle := handle
      side := side
      fraction := PlacedHandle.fractionOf index handles.length
      isSource := isSource
      connected := isConnected edges node handle.name isSource }

theorem layoutHandles_eq :
    layoutHandles α t node edges = Side.all.flatMap (placedOn α t node edges) :=
  rfl

theorem sidedHandles_roles : (sidedHandles t).map (fun h => (h.1, h.2.2)) = t.declared := by
  simp [sidedHandles, NodeType.declared, Function.comp_def]

theorem sidedHandles_rolesOn : ((sidedHandles t).filter fun h => h.2.1 = side).map
    (fun h => (h.1, h.2.2)) = t.declaredOn side := by
  simp [sidedHandles, NodeType.declaredOn, List.filter_map, Function.comp_def]

theorem placedOn_roles : (placedOn α t node edges side).map (·.role) = t.declaredOn side := by
  rw [← sidedHandles_rolesOn, placedOn, List.map_map]
  conv_rhs => rw [← List.zipIdx_map_fst 0 ((sidedHandles t).filter _), List.map_map]
  rfl

-- They are counted from the first one to the last.
theorem placedOn_fractions {n : Nat} (hn : (placedOn α t node edges side).length = n) :
    (placedOn α t node edges side).map (·.fraction) =
      (List.range n).map (PlacedHandle.fractionOf · n) := by
  subst hn
  rw [placedOn, List.map_map, List.length_map, List.length_zipIdx, List.range_eq_range',
    ← List.zipIdx_map_snd 0 ((sidedHandles t).filter _), List.map_map]
  rfl

theorem side_of_mem_placedOn (hm : h ∈ placedOn α t node edges side) : h.side = side := by
  obtain ⟨_, _, rfl⟩ := List.mem_map.mp hm
  rfl

theorem connected_of_mem_placedOn (hm : h ∈ placedOn α t node edges side) :
    h.connected = isConnected edges node h.handle.name h.isSource := by
  obtain ⟨_, _, rfl⟩ := List.mem_map.mp hm
  rfl

theorem exists_mem_placedOn (hm : h ∈ layoutHandles α t node edges) :
    ∃ side, h ∈ placedOn α t node edges side :=
  have ⟨side, _, hs⟩ := List.mem_flatMap.mp hm
  ⟨side, hs⟩

theorem filter_layoutHandles : (layoutHandles α t node edges).filter (·.side = side) =
    placedOn α t node edges side := by
  have hs (s : Side) : (placedOn α t node edges s).filter (·.side = side) =
      if s = side then placedOn α t node edges side else [] := by
    split
    case isTrue hs  =>
      subst hs
      exact List.filter_eq_self.mpr fun h hm => by simpa using side_of_mem_placedOn hm
    case isFalse hs =>
      refine List.filter_eq_nil_iff.mpr fun h hm => ?_
      simpa [side_of_mem_placedOn hm] using hs
  simp only [layoutHandles_eq, List.filter_flatMap, hs]
  cases side <;> simp [Side.all]

theorem layoutHandles_roles_perm :
    ((layoutHandles α t node edges).map (·.role)).Perm t.declared := by
  have hr : (layoutHandles α t node edges).map (·.role) =
      (Side.all.flatMap fun side => (sidedHandles t).filter fun h => h.2.1 = side).map
        fun h => (h.1, h.2.2) := by
    simp only [layoutHandles_eq, List.map_flatMap, placedOn_roles, sidedHandles_rolesOn]
  rw [hr, ← sidedHandles_roles]
  exact (Catalog.flatMap_filter_perm (by decide) fun h _ => h.2.1.mem_all).map _

theorem layoutHandles_clockwise :
    (layoutHandles α t node edges).Pairwise fun h h' => h.side.turn ≤ h'.side.turn := by
  refine List.pairwise_flatMap.mpr ⟨fun side _ => ?_, ?_⟩
  · refine List.pairwise_of_forall_mem_list fun h hm h' hm' => ?_
    rw [side_of_mem_placedOn hm, side_of_mem_placedOn hm']
  · refine Side.all_pairwise_turn.imp fun hs h hm h' hm' => ?_
    rw [side_of_mem_placedOn hm, side_of_mem_placedOn hm']
    exact hs.le

-- Handles laid out for a node as they should be, with fractions in some type of numbers. A handle
-- that is declared twice is placed twice.
structure LaysOut (t : NodeType) (node : NodeId) (edges : List Edge)
    (placed : List (PlacedHandle α)) : Prop where
  complete  : (placed.map (·.role)).Perm t.declared
  clockwise : placed.Pairwise fun h h' => h.side.turn ≤ h'.side.turn
  inOrder   : ∀ side, (placed.filter (·.side = side)).map (·.role) = t.declaredOn side
  spread    : ∀ side, let n := (placed.filter (·.side = side)).length
    (placed.filter (·.side = side)).map (·.fraction) =
      (List.range n).map fun i => ((i + 1 : Nat) : α) / ((n + 1 : Nat) : α)
  connected : ∀ h ∈ placed, h.connected ↔ ∃ e ∈ edges, e.Attaches node h.handle.name h.isSource

theorem layoutHandles_laysOut :
    LaysOut t node edges (layoutHandles α t node edges) where
  complete       := layoutHandles_roles_perm
  clockwise      := layoutHandles_clockwise
  inOrder side   := by rw [filter_layoutHandles, placedOn_roles]
  spread side    := by
    rw [filter_layoutHandles]
    exact placedOn_fractions rfl
  connected h hm := by
    have ⟨_, hs⟩ := exists_mem_placedOn hm
    rw [connected_of_mem_placedOn hs, isConnected_iff]

end

-- Handles with exact fractions that divide each side evenly and leave its ends free.
structure Divides (placed : List (PlacedHandle ℚ)) : Prop where
  spread     : ∀ side, let n := (placed.filter (·.side = side)).length
    (placed.filter (·.side = side)).map (·.fraction) =
      (List.range n).map fun i : Nat => ((i : ℚ) + 1) / (n + 1)
  increasing : ∀ side, ((placed.filter (·.side = side)).map (·.fraction)).Pairwise (· < ·)
  distinct   : ∀ side, ((placed.filter (·.side = side)).map (·.fraction)).Nodup
  inside     : ∀ h ∈ placed, 0 < h.fraction ∧ h.fraction < 1

theorem LaysOut.divides {t : NodeType} {node : NodeId} {edges : List Edge}
    {placed : List (PlacedHandle ℚ)} (l : LaysOut t node edges placed) : Divides placed :=
  have increasing side :
      ((placed.filter (·.side = side)).map (·.fraction)).Pairwise (· < ·) := by
    rw [l.spread side, List.pairwise_map]
    exact List.pairwise_lt_range.imp PlacedHandle.fractionOf_lt
  { spread side   := by simpa using l.spread side
    increasing    := increasing
    distinct side := (increasing side).imp ne_of_lt
    inside h hm   := by
      have hs : h ∈ placed.filter (·.side = h.side) := List.mem_filter.mpr ⟨hm, by simp⟩
      have hf := List.mem_map_of_mem (f := (·.fraction)) hs
      rw [l.spread h.side] at hf
      have ⟨i, hi, he⟩ := List.mem_map.mp hf
      have hi := List.mem_range.mp hi
      exact he ▸ ⟨PlacedHandle.fractionOf_pos, PlacedHandle.fractionOf_lt_one hi⟩ }

-- Every declared handle is placed once, on its own side or on the one of its role, and the handles
-- of a side divide it evenly: the inputs come first, and each kind is in the order declared. With
-- exact numbers no two of a side meet, where nodes are drawn the numbers are doubles.
theorem handles_laid_out (t : NodeType) (node : NodeId) (edges : List Edge) :
    LaysOut t node edges (layoutHandles Float t node edges) ∧
    LaysOut t node edges (layoutHandles ℚ t node edges) ∧
    Divides (layoutHandles ℚ t node edges) :=
  ⟨layoutHandles_laysOut, layoutHandles_laysOut, layoutHandles_laysOut.divides⟩

end NodeEditor
