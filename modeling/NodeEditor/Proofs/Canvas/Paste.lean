import Mathlib.Data.Set.Function
import NodeEditor.Proofs.Canvas.Clipboard
import NodeEditor.Proofs.Canvas.Store
import NodeEditor.Proofs.Canvas.WellFormed

namespace NodeEditor

namespace Supply

variable {kind : IdKind} {s : Supply} {taken : List (Id kind)} {count next : Nat}

theorem length_freshNames : (s.freshNames taken count next).1.length = count := by
  induction count generalizing taken next with
  | zero => rfl
  | succ count ih => simp [freshNames, ih]

theorem freshNames_not_mem {id : Id kind} (h : id ∈ (s.freshNames taken count next).1) :
    id ∉ taken := by
  induction count generalizing taken next with
  | zero => simp [freshNames] at h
  | succ count ih =>
    simp only [freshNames, List.mem_cons] at h
    cases h
    case inl h => exact h ▸ s.fresh_not_mem taken next
    case inr h => exact fun hm => ih h <| List.mem_cons_of_mem _ hm

theorem freshNames_nodup : (s.freshNames taken count next).1.Nodup := by
  induction count generalizing taken next with
  | zero => exact List.nodup_nil
  | succ count ih =>
    simp only [freshNames]
    exact List.nodup_cons.mpr ⟨fun h => freshNames_not_mem h List.mem_cons_self, ih⟩

end Supply

section

variable {α β γ : Type} {R : α → β → Prop} {as : List α}

theorem forall₂_zipWith {f : α → γ → β} {cs : List γ} (hl : cs.length = as.length)
    (h : ∀ a c, R a (f a c)) : as.Forall₂ R (as.zipWith f cs) := by
  induction as generalizing cs <;> cases cs <;> simp at hl
  case nil.nil          => exact .nil
  case cons.cons ih _ _ => exact .cons (h ..) (ih hl)

theorem forall₂_filterMap {f : α → Option β} (h : ∀ a ∈ as, (f a).isSome) :
    as.Forall₂ (fun a b => f a = some b) (as.filterMap f) := by
  induction as with
  | nil => exact .nil
  | cons a as ih =>
    have ⟨b, hb⟩ := Option.isSome_iff_exists.mp <| h a List.mem_cons_self
    rw [List.filterMap_cons_some hb]
    exact .cons hb <| ih fun a ha => h a <| List.mem_cons_of_mem _ ha

theorem map_zipWith_snd {f : α → γ → β} {g : β → γ} {cs : List γ} (hl : cs.length = as.length)
    (h : ∀ a c, g (f a c) = c) : (as.zipWith f cs).map g = cs := by
  induction as generalizing cs <;> cases cs <;> simp at hl
  case nil.nil          => rfl
  case cons.cons ih _ _ => simp [h, ih hl]

theorem map_zipWith_fst {f : α → γ → β} {g : β → α} {cs : List γ} (hl : cs.length = as.length)
    (h : ∀ a c, g (f a c) = a) : (as.zipWith f cs).map g = as := by
  induction as generalizing cs <;> cases cs <;> simp at hl
  case nil.nil          => rfl
  case cons.cons ih _ _ => simp [h, ih hl]

end

namespace Duplicate

variable {renamed : List (NodeId × NodeId)} {old new : NodeId}

theorem mem_of_newName? (h : newName? renamed old = some new) : (old, new) ∈ renamed := by
  obtain ⟨_, _, hr, -⟩ := List.lookup_eq_some_iff.mp h
  exact List.mem_reverse.mp (hr ▸ List.mem_append_right _ List.mem_cons_self)

theorem newName?_isSome_iff : (newName? renamed old).isSome ↔ old ∈ renamed.map Prod.fst := by
  simp only [newName?, List.lookup_isSome_iff, List.mem_reverse, List.mem_map, beq_iff_eq]
  exact exists_congr fun _ => and_congr_right fun _ => eq_comm

-- Where every old name stands once, its new name is the one beside it.
theorem newName?_of_mem (hn : (renamed.map Prod.fst).Nodup) (h : (old, new) ∈ renamed) :
    newName? renamed old = some new := by
  have hs := newName?_isSome_iff.mpr <| List.mem_map_of_mem h
  obtain ⟨new', hs⟩ := Option.isSome_iff_exists.mp hs
  have := List.inj_on_of_nodup_map hn (mem_of_newName? hs) h rfl
  simp_all

end Duplicate

namespace Canvas

variable {c : Canvas} {f : Fragment} {renamed : List (NodeId × NodeId)} {l l' : Link}

theorem relink?_eq_some_iff : relink? renamed l = some l' ↔
    Duplicate.newName? renamed l.source = some l'.source ∧
    Duplicate.newName? renamed l.target = some l'.target ∧
    l'.sourceHandle = l.sourceHandle ∧ l'.targetHandle = l.targetHandle := by
  simp only [relink?, bind, Option.bind_eq_some_iff, pure, Option.some.injEq]
  constructor
  case mp =>
    rintro ⟨s, hs, t, ht, rfl⟩
    exact ⟨hs, ht, rfl, rfl⟩
  case mpr =>
    rintro ⟨hs, ht, hsh, hth⟩
    refine ⟨_, hs, _, ht, ?_⟩
    rw [← hsh, ← hth]

theorem relink?_isSome (hs : l.source ∈ renamed.map Prod.fst)
    (ht : l.target ∈ renamed.map Prod.fst) : (relink? renamed l).isSome := by
  have ⟨s, hs⟩ := Option.isSome_iff_exists.mp <| Duplicate.newName?_isSome_iff.mpr hs
  have ⟨t, ht⟩ := Option.isSome_iff_exists.mp <| Duplicate.newName?_isSome_iff.mpr ht
  simp [relink?, hs, ht]

-- The names that are drawn for the nodes of a fragment, and those for its edges.

def copyNodeIds (c : Canvas) (f : Fragment) : List NodeId :=
  (c.supply.freshNames c.graph.nodeIds f.nodes.length c.next).1

theorem length_copyNodeIds : (c.copyNodeIds f).length = f.nodes.length :=
  Supply.length_freshNames

theorem duplicate_renamed : (c.duplicate f).1.renamed = f.nodeIds.zip (c.copyNodeIds f) :=
  rfl

theorem duplicate_nodes :
    (c.duplicate f).1.fragment.nodes = f.nodes.zipWith copyNode (c.copyNodeIds f) :=
  rfl

theorem duplicate_nodeIds : (c.duplicate f).1.fragment.nodeIds = c.copyNodeIds f := by
  rw [Fragment.nodeIds, duplicate_nodes]
  exact map_zipWith_snd length_copyNodeIds fun _ _ => rfl

theorem renamed_fst : (c.duplicate f).1.renamed.map Prod.fst = f.nodeIds := by
  rw [duplicate_renamed, List.map_fst_zip]
  simp [length_copyNodeIds, Fragment.nodeIds]

theorem renamed_snd :
    (c.duplicate f).1.renamed.map Prod.snd = (c.duplicate f).1.fragment.nodeIds := by
  rw [duplicate_nodeIds, duplicate_renamed, List.map_snd_zip]
  simp [length_copyNodeIds, Fragment.nodeIds]

theorem duplicate_links : (c.duplicate f).1.fragment.edges.map Edge.toLink =
    f.edges.filterMap fun e => relink? (c.duplicate f).1.renamed e.toLink :=
  map_zipWith_fst Supply.length_freshNames fun _ _ => rfl

-- The names for the edges are drawn after those for the nodes, one for each edge that is kept.
def copyEdgeIds (c : Canvas) (f : Fragment) : List EdgeId :=
  let links := f.edges.filterMap fun e => relink? (f.nodeIds.zip (c.copyNodeIds f)) e.toLink
  let next := (c.supply.freshNames c.graph.nodeIds f.nodes.length c.next).2
  (c.supply.freshNames c.graph.edgeIds links.length next).1

theorem duplicate_edgeIds : (c.duplicate f).1.fragment.edgeIds = c.copyEdgeIds f :=
  map_zipWith_snd Supply.length_freshNames fun _ _ => rfl

end Canvas

namespace Duplicate

open Canvas

-- The copy `d` of a fragment `f` for a graph `g`.
structure Copies (d : Duplicate) (f : Fragment) (g : Graph) : Prop where
  nodes : f.nodes.Forall₂ (fun n m =>
    m.type = n.type ∧ m.data = n.data ∧
    m.position = { x := n.position.x + 30.0, y := n.position.y + 30.0 }) d.fragment.nodes
  edges : f.edges.Forall₂ (fun e e' =>
    e'.sourceHandle = e.sourceHandle ∧ e'.targetHandle = e.targetHandle) d.fragment.edges
  nodeIds_nodup : d.fragment.nodeIds.Nodup
  nodeIds_fresh : ∀ id ∈ d.fragment.nodeIds, id ∉ g.nodeIds
  edgeIds_nodup : d.fragment.edgeIds.Nodup
  edgeIds_fresh : ∀ id ∈ d.fragment.edgeIds, id ∉ g.edgeIds
  closed : d.fragment.Closed
  -- Where every name stands once in `f`, the copy is `f` under a renaming of its nodes.
  renames : f.nodeIds.Nodup → ∃ rename : NodeId → NodeId,
    (∀ id ∈ f.nodeIds, newName? d.renamed id = some (rename id)) ∧
    Set.BijOn rename {id | id ∈ f.nodeIds} {id | id ∈ d.fragment.nodeIds} ∧
    d.fragment.nodeIds = f.nodeIds.map rename ∧
    f.edges.Forall₂ (fun e e' => e'.source = rename e.source ∧ e'.target = rename e.target)
      d.fragment.edges

variable {c : Canvas} {f : Fragment}

-- These hold for every fragment, also one with edges that leave it.

theorem duplicate_nodeIds_nodup : (c.duplicate f).1.fragment.nodeIds.Nodup :=
  duplicate_nodeIds ▸ Supply.freshNames_nodup

theorem duplicate_nodeIds_fresh : ∀ id ∈ (c.duplicate f).1.fragment.nodeIds, id ∉ c.graph.nodeIds :=
  fun _ h => Supply.freshNames_not_mem (duplicate_nodeIds ▸ h)

theorem duplicate_edgeIds_nodup : (c.duplicate f).1.fragment.edgeIds.Nodup :=
  duplicate_edgeIds ▸ Supply.freshNames_nodup

theorem duplicate_edgeIds_fresh : ∀ id ∈ (c.duplicate f).1.fragment.edgeIds, id ∉ c.graph.edgeIds :=
  fun _ h => Supply.freshNames_not_mem (duplicate_edgeIds ▸ h)

theorem newName?_mem_nodeIds {old new : NodeId}
    (h : newName? (c.duplicate f).1.renamed old = some new) :
    new ∈ (c.duplicate f).1.fragment.nodeIds :=
  renamed_snd ▸ List.mem_map_of_mem (mem_of_newName? h)

theorem duplicate_closed : (c.duplicate f).1.fragment.Closed := by
  intro e he
  have hl : e.toLink ∈ (c.duplicate f).1.fragment.edges.map Edge.toLink := List.mem_map_of_mem he
  rw [duplicate_links] at hl
  have ⟨_, _, hr⟩ := List.mem_filterMap.mp hl
  have ⟨hs, ht, _⟩ := relink?_eq_some_iff.mp hr
  exact ⟨newName?_mem_nodeIds hs, newName?_mem_nodeIds ht⟩

-- Of a closed fragment no edge is lost.
theorem duplicate_edges (hc : f.Closed) : f.edges.Forall₂ (fun e e' =>
    relink? (c.duplicate f).1.renamed e.toLink = some e'.toLink) (c.duplicate f).1.fragment.edges := by
  have hr : ∀ e ∈ f.edges, (relink? (c.duplicate f).1.renamed e.toLink).isSome := by
    intro e he
    have ⟨hs, ht⟩ := hc e he
    exact relink?_isSome (renamed_fst ▸ hs) (renamed_fst ▸ ht)
  have hf := forall₂_filterMap hr
  rwa [← duplicate_links, List.forall₂_map_right_iff] at hf

theorem renames_of_nodup (hc : f.Closed) (hn : f.nodeIds.Nodup) : 
    ∃ rename : NodeId → NodeId,
      (∀ id ∈ f.nodeIds, newName? (c.duplicate f).1.renamed id = some (rename id)) ∧
      Set.BijOn rename {id | id ∈ f.nodeIds} {id | id ∈ (c.duplicate f).1.fragment.nodeIds} ∧
      (c.duplicate f).1.fragment.nodeIds = f.nodeIds.map rename ∧
      f.edges.Forall₂ (fun e e' => e'.source = rename e.source ∧ e'.target = rename e.target)
        (c.duplicate f).1.fragment.edges := by
  let rename old := (newName? (c.duplicate f).1.renamed old).getD old
  have some_rename {old new} (h : newName? (c.duplicate f).1.renamed old = some new) :
      new = rename old := by
    simp [rename, h]
  have hmap : (c.duplicate f).1.fragment.nodeIds = f.nodeIds.map rename := by
    rw [← renamed_snd, ← renamed_fst (c := c), List.map_map]
    exact List.map_congr_left fun p hp =>
      some_rename <| newName?_of_mem (renamed_fst ▸ hn) hp
  refine ⟨rename, fun id hid => ?_, ⟨fun id hid => ?_, ?_, fun id hid => ?_⟩, hmap, ?_⟩
  · have hs := newName?_isSome_iff.mpr (renamed_fst (c := c) ▸ hid)
    have ⟨new, hs⟩ := Option.isSome_iff_exists.mp hs
    rw [hs, some_rename hs]
  · exact hmap ▸ List.mem_map_of_mem hid
  · exact fun a ha b hb => List.inj_on_of_nodup_map (hmap ▸ duplicate_nodeIds_nodup) ha hb
  · exact List.mem_map.mp (hmap ▸ hid)
  · refine (duplicate_edges hc).imp fun e e' h => ?_
    have ⟨hs, ht, _⟩ := relink?_eq_some_iff.mp h
    exact ⟨some_rename hs, some_rename ht⟩

theorem copies (hc : f.Closed) : (c.duplicate f).1.Copies f c.graph where
  nodes := forall₂_zipWith length_copyNodeIds fun _ _ => ⟨rfl, rfl, rfl⟩
  edges := (duplicate_edges hc).imp fun _ _ h => (relink?_eq_some_iff.mp h).right.right
  nodeIds_nodup := duplicate_nodeIds_nodup
  nodeIds_fresh := duplicate_nodeIds_fresh
  edgeIds_nodup := duplicate_edgeIds_nodup
  edgeIds_fresh := duplicate_edgeIds_fresh
  closed := duplicate_closed
  renames := renames_of_nodup hc

end Duplicate

namespace Store

-- A text that reads as a fragment is pasted as a copy of it behind all that is there.
theorem paste_copies (s : Store) {text : String} {f : Fragment} (h : Fragment.parse text = .ok f) :
    let copy := (s.canvas.duplicate f).1
    ∃ s' : Store,
      s.paste text = (
        .ok { nodes := copy.fragment.nodeIds, edges := copy.fragment.edgeIds }, s') ∧
      s'.graph.nodes = s.graph.nodes ++ copy.fragment.nodes ∧
      s'.graph.edges = s.graph.edges ++ copy.fragment.edges ∧
      copy.Copies f s.graph := by
  refine ⟨s.publish (s.canvas.paste f).2, paste_of_parse h, rfl, rfl, ?_⟩
  exact Duplicate.copies <| Fragment.closed_of_parse h

theorem paste_copies_pair :
    let s := Store.ofGraph Fragment.pair.graph 0
    let copy := (s.canvas.duplicate Fragment.pair).1
    Fragment.parse Fragment.pair.text = .ok Fragment.pair ∧
    ∃ s' : Store,
      s.paste Fragment.pair.text = (
        .ok { nodes := copy.fragment.nodeIds, edges := copy.fragment.edgeIds }, s') ∧
      s'.graph.nodes = s.graph.nodes ++ copy.fragment.nodes ∧
      s'.graph.edges = s.graph.edges ++ copy.fragment.edges ∧
      copy.Copies Fragment.pair s.graph :=
  ⟨Fragment.pair_parse, paste_copies _ Fragment.pair_parse⟩

end Store

end NodeEditor
