import NodeEditor.Proofs.Canvas.Paste

namespace NodeEditor

namespace Store

-- What can be asked of a store.
inductive Call where
  | place (type : NodeType) (position : Position)
  | remove (node : NodeId)
  | replaceData (node : NodeId) (data : NodeData)
  | move (node : NodeId) (position : Position)
  | connect (catalog : Catalog) (l : Link)
  | paste (text : String)
  | replace (g : Graph)
  | copy (selected : List NodeId)

inductive Answer where
  | placed (id : NodeId)
  | removed (n : Option Node)
  | updated (r : Except GraphError Unit)
  | connected (r : Except GraphError EdgeId)
  | pasted (r : Except ClipboardError PasteSummary)
  | replaced
  | copied (text : String)

-- Whether the graph has been changed. To copy does not change it, and neither does what fails.
def Answer.changes : Answer → Bool
  | placed _    => true
  | removed n   => n.isSome
  | updated r   => r.isOk
  | connected r => r.isOk
  | pasted r    => r.isOk
  | replaced    => true
  | copied _    => false

end Store

-- A fragment under names for its nodes and edges that are given, in their order.
def Fragment.copyAs (f : Fragment) (nodeIds : List NodeId) (edgeIds : List EdgeId) : Fragment :=
  let links := f.edges.filterMap fun e => Canvas.relink? (f.nodeIds.zip nodeIds) e.toLink
  { nodes := f.nodes.zipWith Canvas.copyNode nodeIds
    edges := links.zipWith (fun l id => { toLink := l, id := id }) edgeIds }

namespace Graph

-- Names for the nodes and edges of a copy that are not taken.
structure Mints (g : Graph) (f : Fragment) (nodeIds : List NodeId) (edgeIds : List EdgeId) :
    Prop where
  nodes_length : nodeIds.length = f.nodes.length
  nodes_nodup  : nodeIds.Nodup
  nodes_fresh  : ∀ id ∈ nodeIds, id ∉ g.nodeIds
  edges_length : edgeIds.length = f.edges.length
  edges_nodup  : edgeIds.Nodup
  edges_fresh  : ∀ id ∈ edgeIds, id ∉ g.edgeIds

-- What the operations of a graph by itself make of a call. New names may be any that are not taken.
inductive Performs (g : Graph) : Store.Call → Store.Answer → Graph → Prop
  | place {t p id} : id ∉ g.nodeIds →
    Performs g (.place t p) (.placed id)
      (g.push { id := id, type := t.type, position := p, data := .ofType t })
  | remove {node n g'} : g.remove? node = some (n, g') →
    Performs g (.remove node) (.removed (some n)) g'
  | removeNothing {node} : g.remove? node = none →
    Performs g (.remove node) (.removed none) g
  | replaceData {node d g'} : g.replaceData node d = .ok g' →
    Performs g (.replaceData node d) (.updated (.ok ())) g'
  | replaceDataFails {node d e} : g.replaceData node d = .error e →
    Performs g (.replaceData node d) (.updated (.error e)) g
  | move {node p g'} : g.move node p = .ok g' →
    Performs g (.move node p) (.updated (.ok ())) g'
  | moveFails {node p e} : g.move node p = .error e →
    Performs g (.move node p) (.updated (.error e)) g
  | connect {catalog l id} : g.checkLink catalog l = .ok () → id ∉ g.edgeIds →
    Performs g (.connect catalog l) (.connected (.ok id)) (g.pushEdge { toLink := l, id := id })
  | connectFails {catalog l e} : g.checkLink catalog l = .error e →
    Performs g (.connect catalog l) (.connected (.error e)) g
  | paste {text f nodeIds edgeIds} : Fragment.parse text = .ok f → g.Mints f nodeIds edgeIds →
    Performs g (.paste text) (.pasted (.ok { nodes := nodeIds, edges := edgeIds })) {
      nodes := g.nodes ++ (f.copyAs nodeIds edgeIds).nodes
      edges := g.edges ++ (f.copyAs nodeIds edgeIds).edges }
  | pasteFails {text e} : Fragment.parse text = .error e →
    Performs g (.paste text) (.pasted (.error e)) g
  | replace {g'} : Performs g (.replace g') .replaced g'
  | copy {selected} :
    Performs g (.copy selected) (.copied (Fragment.ofSelection g selected).text) g

-- Nothing is open but the new names, and these are in the answer.
theorem Performs.deterministic {g g₁ g₂ : Graph} {call : Store.Call} {answer : Store.Answer}
    (p₁ : g.Performs call answer g₁) (p₂ : g.Performs call answer g₂) : g₁ = g₂ := by
  cases p₁ <;> cases p₂
  all_goals first | rfl | simp_all

-- A run of a graph by itself: calls with their answers and with the graph after each of them.
inductive Serves : Graph → List (Store.Call × Store.Answer × Graph) → Graph → Prop
  | nil {g} : Serves g [] g
  | cons {g g' g'' call answer log} :
    g.Performs call answer g' → Serves g' log g'' → Serves g ((call, answer, g') :: log) g''

end Graph

namespace Canvas

theorem mints {c : Canvas} {f : Fragment} (hc : f.Closed) :
    c.graph.Mints f (c.copyNodeIds f) (c.copyEdgeIds f) where
  nodes_length := length_copyNodeIds
  nodes_nodup  := Supply.freshNames_nodup
  nodes_fresh  := fun _ h => Supply.freshNames_not_mem h
  edges_length := by
    rw [(Duplicate.duplicate_edges hc).length_eq, ← duplicate_edgeIds]
    exact List.length_map ..
  edges_nodup  := Supply.freshNames_nodup
  edges_fresh  := fun _ h => Supply.freshNames_not_mem h

end Canvas

namespace Store

def perform (s : Store) : Call → Answer × Store
  | .place t p          => (s.place t p).map .placed id
  | .remove node        => (s.remove node).map .removed id
  | .replaceData node d => (s.replaceData node d).map .updated id
  | .move node p        => (s.move node p).map .updated id
  | .connect catalog l  => (s.connect catalog l).map .connected id
  | .paste text         => (s.paste text).map .pasted id
  | .replace g          => (.replaced, s.replace g)
  | .copy selected      => (.copied (s.copy selected), s)

-- A call is answered as by the graph alone. A change makes one revision, and without a change all is
-- as it was.
structure Refines (s : Store) (call : Call) (answer : Answer) (s' : Store) : Prop where
  performs  : s.graph.Performs call answer s'.graph
  published : answer.changes → s'.revision = s.revision + 1
  unchanged : ¬answer.changes → s' = s

namespace Refines

variable {s : Store} {c : Canvas} {call : Call} {answer : Answer}

theorem of_publish (p : s.graph.Performs call answer c.graph) (h : answer.changes) :
    s.Refines call answer (s.publish c) where
  performs  := p
  published := fun _ => rfl
  unchanged := absurd h

theorem of_unchanged (p : s.graph.Performs call answer s.graph) (h : ¬answer.changes) :
    s.Refines call answer s where
  performs  := p
  published := (absurd · h)
  unchanged := fun _ => rfl

end Refines

theorem perform_refines (s : Store) (call : Call) :
    s.Refines call (s.perform call).1 (s.perform call).2 := by
  cases call
  case place t p =>
    have hi := s.canvas.supply.fresh_not_mem s.graph.nodeIds s.canvas.next
    exact .of_publish (.place hi) rfl
  case remove node =>
    cases h : s.graph.remove? node with
    | none   =>
      simp only [perform, remove_of_none h]
      exact .of_unchanged (.removeNothing h) Bool.false_ne_true
    | some _ =>
      simp only [perform, remove_of_some h]
      exact .of_publish (.remove h) rfl
  case replaceData node d =>
    cases h : s.graph.replaceData node d with
    | error _ =>
      simp only [perform, replaceData_of_error h]
      exact .of_unchanged (.replaceDataFails h) Bool.false_ne_true
    | ok _    =>
      simp only [perform, replaceData_of_ok h]
      exact .of_publish (.replaceData h) rfl
  case move node p =>
    cases h : s.graph.move node p with
    | error _ =>
      simp only [perform, move_of_error h]
      exact .of_unchanged (.moveFails h) Bool.false_ne_true
    | ok _    =>
      simp only [perform, move_of_ok h]
      exact .of_publish (.move h) rfl
  case connect catalog l =>
    cases h : s.graph.checkLink catalog l with
    | error _ =>
      simp only [perform, connect_of_checkLink_error h]
      exact .of_unchanged (.connectFails h) Bool.false_ne_true
    | ok _    =>
      simp only [perform, connect_of_checkLink h]
      have hi := s.canvas.supply.fresh_not_mem s.graph.edgeIds s.canvas.next
      exact .of_publish (.connect h hi) rfl
  case paste text =>
    cases h : Fragment.parse text with
    | error _ =>
      simp only [perform, paste_of_parse_error h]
      exact .of_unchanged (.pasteFails h) Bool.false_ne_true
    | ok f    =>
      simp only [perform, paste_of_parse h, Canvas.duplicate_nodeIds, Canvas.duplicate_edgeIds]
      exact .of_publish (.paste h <| Canvas.mints <| Fragment.closed_of_parse h) rfl
  case replace g     => exact .of_publish .replace rfl
  case copy selected => exact .of_unchanged .copy Bool.false_ne_true

-- A call of a client that has been served, and the store after it.
structure Entry (κ : Type) where
  client : κ
  call   : Call
  answer : Answer
  after  : Store

-- A log of calls that were served one after the other, each by the store that the one before it
-- left.
inductive Follows {κ : Type} : Store → List (Entry κ) → Store → Prop
  | nil {s : Store} : Follows s [] s
  | cons {s s' : Store} {e : Entry κ} {log : List (Entry κ)} :
    s.Refines e.call e.answer e.after → Follows e.after log s' → Follows s (e :: log) s'

theorem Follows.serves {κ : Type} {s s' : Store} {log : List (Entry κ)} (f : Follows s log s') :
    s.graph.Serves (log.map fun e => (e.call, e.answer, e.after.graph)) s'.graph := by
  induction f with
  | nil         => exact .nil
  | cons r _ ih => exact .cons r.performs ih

theorem Follows.revision {κ : Type} {s s' : Store} {log : List (Entry κ)} (f : Follows s log s') :
    s'.revision = s.revision + log.countP (·.answer.changes) := by
  induction f with
  | nil                    => simp
  | @cons s _ e log r _ ih =>
    rw [ih, List.countP_cons]
    by_cases hc : e.answer.changes
    case pos =>
      rw [r.published hc, if_pos hc]
      omega
    case neg =>
      rw [r.unchanged hc, if_neg hc]
      omega

end Store

-- Clients that share a store, and the calls that each of them has still to make.
structure Team (κ : Type) where
  store : Store
  calls : κ → List Store.Call

namespace Team

variable {κ : Type} [DecidableEq κ] {t : Team κ} {k : κ} {call : Store.Call}
  {rest : List Store.Call} {schedule : List κ}

def entry (t : Team κ) (k : κ) (call : Store.Call) : Store.Entry κ where
  client := k
  call   := call
  answer := (t.store.perform call).1
  after  := (t.store.perform call).2

-- The team when a call of a client has been served.
def after (t : Team κ) (k : κ) (call : Store.Call) (rest : List Store.Call) : Team κ where
  store := (t.store.perform call).2
  calls := Function.update t.calls k rest

-- The turns of clients may come in any order; whose calls are all served lets a turn pass.
def run (t : Team κ) : List κ → List (Store.Entry κ) × Team κ
  | []            => ([], t)
  | k :: schedule =>
    match t.calls k with
    | []           => t.run schedule
    | call :: rest =>
      let (log, t') := (t.after k call rest).run schedule
      (t.entry k call :: log, t')

theorem run_of_nil (h : t.calls k = []) : t.run (k :: schedule) = t.run schedule := by
  rw [run, h]

theorem run_of_cons (h : t.calls k = call :: rest) : t.run (k :: schedule) =
    (t.entry k call :: ((t.after k call rest).run schedule).1,
      ((t.after k call rest).run schedule).2) := by
  rw [run, h]

theorem run_follows (t : Team κ) (schedule : List κ) :
    Store.Follows t.store (t.run schedule).1 (t.run schedule).2.store := by
  induction schedule generalizing t with
  | nil         => exact .nil
  | cons k _ ih =>
    cases h : t.calls k with
    | nil            =>
      rw [run_of_nil h]
      exact ih t
    | cons call rest =>
      rw [run_of_cons h]
      exact .cons (t.store.perform_refines call) <| ih <| t.after k call rest

-- With each turn of a client its next call is served, as long as there is one.
theorem run_serves (t : Team κ) (schedule : List κ) (k : κ) :
    ((t.run schedule).1.filter (·.client = k)).map (·.call) =
      (t.calls k).take (schedule.count k) ∧
    (t.run schedule).2.calls k = (t.calls k).drop (schedule.count k) := by
  induction schedule generalizing t with
  | nil          => exact ⟨rfl, rfl⟩
  | cons k' _ ih =>
    cases h : t.calls k' with
    | nil            =>
      rw [run_of_nil h]
      by_cases hk : k' = k
      case pos => simpa [← hk, h] using ih t
      case neg => simpa [hk] using ih t
    | cons call rest =>
      have ih := ih <| t.after k' call rest
      rw [run_of_cons h]
      by_cases hk : k' = k
      case pos =>
        subst hk
        simpa [h, after, entry] using ih
      case neg => simpa [hk, Ne.symm hk, after, entry] using ih

-- Whatever calls clients make and in whatever order their turns come, all is as if one graph had
-- served the calls one after the other. Each change makes one revision, and nothing else does.
theorem run_refines (t : Team κ) (schedule : List κ) :
    let (log, t') := t.run schedule
    t.store.graph.Serves (log.map fun e => (e.call, e.answer, e.after.graph)) t'.store.graph ∧
    Store.Follows t.store log t'.store ∧
    t'.store.revision = t.store.revision + log.countP (·.answer.changes) ∧
    ∀ k, (log.filter (·.client = k)).map (·.call) = (t.calls k).take (schedule.count k) ∧
      t'.calls k = (t.calls k).drop (schedule.count k) :=
  have hf := t.run_follows schedule
  ⟨hf.serves, hf, hf.revision, t.run_serves schedule⟩

end Team

end NodeEditor
