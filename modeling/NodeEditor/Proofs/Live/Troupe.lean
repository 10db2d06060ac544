import NodeEditor.Proofs.Canvas.Overlay
import NodeEditor.Proofs.Canvas.Sharing
import NodeEditor.Proofs.Live.Scene

namespace NodeEditor

open NodeEditor.Graph

namespace Controller

variable {c c' : Controller} {g : Graph} {forms : Engine} {store : Store} {data : NodeData}

-- What the working copy has beside its values.
def title? (c : Controller) : Option (String × Option Outcome) :=
  c.working.map (·.title)

theorem begin_congr {g' : Graph} (h : g.data? c.node = g'.data? c.node) (forms : Engine) :
    c.begin g forms = c.begin g' forms := by
  have h : c.storedData? g = c.storedData? g' := h
  rw [begin, begin, h]

theorem begin_title? (h : c.begin g forms = .ok c') : c'.title? = g.title? c.node := by
  have ⟨data, values, _, hd, hc⟩ := begin_eq_ok h
  have hd : g.data? c.node = some data := hd
  rw [hc, Graph.title?, hd]
  rfl

theorem edit_title? {property : String} {value : Json} {r : Controller × List String}
    (h : c.edit forms property value = .ok r) : r.1.title? = c.title? := by
  have ⟨_, _, hw, hc⟩ := edit_eq_ok h
  simp [hc, title?, hw, NodeData.title]

theorem selectCredential_title? (c : Controller) (s : Surroundings) (property : String)
    (credential : CredentialId) :
    (c.selectCredential s property credential).controller.title? = c.title? := by
  simp only [selectCredential]
  split
  case h_1   => rfl
  case h_2 h => exact edit_title? h

theorem selectCredential_congr {s s' : Surroundings} (h : s.forms = s'.forms) (property : String)
    (credential : CredentialId) :
    c.selectCredential s property credential = c.selectCredential s' property credential := by
  rw [selectCredential, selectCredential, h]

theorem applySecret_title? (c : Controller) (s : Surroundings) (property : String)
    (credential : CredentialId) (secret : Dict Json) :
    (c.applySecret s property credential secret).controller.title? = c.title? := by
  cases hw : c.working with
  | none      => simp [applySecret, hw, ends]
  | some data =>
    simp only [applySecret, hw]
    split
    case isTrue  => rfl
    case isFalse => simp [ends, title?, hw, NodeData.title]

theorem resumeSecret_title? (c : Controller) (s : Surroundings) (property : String)
    (credential : CredentialId) (reply : Except TransportError (Dict Json)) :
    (c.resumeSecret s property credential reply).controller.title? = c.title? := by
  simp only [resumeSecret]
  repeat' split
  case h_2 => exact c.applySecret_title? s _ _ _
  all_goals rfl

theorem resumeSecret_congr {s s' : Surroundings} (h : s.forms = s'.forms) (property : String)
    (credential : CredentialId) (reply : Except TransportError (Dict Json)) :
    c.resumeSecret s property credential reply = c.resumeSecret s' property credential reply := by
  simp only [resumeSecret, applySecret, h]

theorem save_title? {r : Controller × Store} (h : c.save store = .ok r) : r.1.title? = none := by
  have ⟨_, _, _, hc⟩ := save_eq_ok h
  rw [hc]
  rfl

theorem save_of_none (h : c.working = none) : c.save store = .error (.notConfiguring c.node) := by
  simp [save, working!, h, bind, Except.bind]

theorem save_of_mem (hw : c.working = some data) (hn : store.graph.nodeIds.Nodup)
    (h : c.node ∈ store.graph.nodeIds) : c.save store = .ok ({ c with working := none },
      store.replace <| store.graph.overlay <| only c.node (some data)) := by
  simp [save, working!, hw, bind, Except.bind,
    Store.replaceData_of_ok <| Graph.replaceData_of_mem hn h]

theorem save_of_not_mem (hw : c.working = some data) (h : c.node ∉ store.graph.nodeIds) :
    c.save store = .error (.graph (.nodeNotFound c.node)) := by
  simp [save, working!, hw, bind, Except.bind,
    Store.replaceData_of_error <| Graph.replaceData_of_not_mem h]

end Controller

-- What can be done to configure a node. The answer to a request for a secret may be any.
inductive Move where
  | begin
  | edit (property : String) (value : Json)
  | form
  | validate
  | cancel
  | save
  | selectCredential (property : String) (credential : CredentialId)
  | secret (n : Nat) (property : String) (credential : CredentialId)
    (reply : Except TransportError (Wait.secret property credential).Reply)

namespace Scene

variable {s : Scene} {m : Move} {w w' : World} {data : NodeData}

-- The same scene with another world around it.
def on (s : Scene) (w : World) : Scene :=
  { s with world := w }

-- To look at the form or at the report on it is no event.
def play (s : Scene) : Move → Scene
  | .begin                        => s.after .begin
  | .edit property value          => s.after (.edit property value)
  | .form | .validate             => s
  | .cancel                       => s.after .cancel
  | .save                         => s.after .save
  | .selectCredential property id => s.after (.start <| .selectCredential property id)
  | .secret n property id reply   => s.after (.answer n (.secret property id) reply)

-- The working copy that a successful save puts into the graph.
def saved? (s : Scene) : Move → Option NodeData
  | .save =>
    match s.controller.save s.world.store with
    | .ok _    => s.controller.working
    | .error _ => none
  | _ => none

theorem play_node : (s.play m).controller.node = s.controller.node := by
  cases m
  case form | validate => rfl
  all_goals exact (after_changes rfl).node_eq

theorem play_title? : (s.play m).controller.title? = s.controller.title? ∨
    (s.play m).controller.title? = none ∨
    (s.play m).controller.title? = s.world.store.graph.title? s.controller.node := by
  cases m
  case form | validate => exact .inl rfl
  case cancel => exact .inr <| .inl rfl
  case begin =>
    simp only [play, after]
    split
    case h_1 hb => exact .inr <| .inr <| Controller.begin_title? hb
    case h_2    => exact .inl rfl
  case edit =>
    simp only [play, after]
    split
    case h_1 he => exact .inl <| Controller.edit_title? he
    case h_2    => exact .inl rfl
  case save =>
    simp only [play, after]
    split
    case h_1 hs => exact .inr <| .inl <| Controller.save_title? hs
    case h_2    => exact .inl rfl
  case selectCredential property credential =>
    exact .inl <| s.controller.selectCredential_title? _ _ _
  case secret n property credential reply =>
    simp only [play]
    by_cases hw : (n, .secret property credential) ∈ s.waiting
    case pos =>
      rw [after_answer hw]
      exact .inl <| s.controller.resumeSecret_title? _ _ _ _
    case neg =>
      rw [after_answer_of_not_mem hw]
      exact .inl rfl

-- A move that saves nothing leaves the world as it is.
theorem play_world_of_none (h : s.saved? m = none) : (s.play m).world = s.world := by
  cases m
  case form | validate           => rfl
  case cancel | selectCredential => rfl
  case begin | edit =>
    simp only [play, after]
    split <;> rfl
  case secret n property credential reply =>
    simp only [play]
    by_cases hw : (n, .secret property credential) ∈ s.waiting
    case pos =>
      rw [after_answer hw]
      rfl
    case neg => rw [after_answer_of_not_mem hw]
  case save =>
    simp only [saved?] at h
    simp only [play, after]
    split
    case h_1 c store hs =>
      rw [hs] at h
      simp [Controller.save_of_none h] at hs
    case h_2 => rfl

theorem play_save_of_error {e : SessionError} (h : s.controller.save s.world.store = .error e) :
    s.play .save = s := by
  simp only [play, after, h]

theorem play_forms : (s.play m).world.forms = s.world.forms := by
  cases m
  case save =>
    simp only [play, after]
    split <;> rfl
  all_goals rw [play_world_of_none rfl]

theorem saved?_eq_some (h : s.saved? m = some data) : m = .save ∧
    s.controller.working = some data ∧ ∃ r, s.controller.save s.world.store = .ok r := by
  cases m <;> try contradiction
  simp only [saved?] at h
  split at h
  case h_1 hs => exact ⟨rfl, h, _, hs⟩
  case h_2    => contradiction

-- What a move does to the graph is to put there what it saves.
theorem play_graph (hn : s.world.store.graph.nodeIds.Nodup) :
    (s.play m).world.store.graph =
      s.world.store.graph.overlay (only s.controller.node (s.saved? m)) := by
  cases h : s.saved? m with
  | none      => rw [play_world_of_none h, overlay_only_none]
  | some data =>
    obtain ⟨rfl, hw, _, hs⟩ := saved?_eq_some h
    by_cases hm : s.controller.node ∈ s.world.store.graph.nodeIds
    case neg => simp [Controller.save_of_not_mem hw hm] at hs
    case pos =>
      simp only [play, after,
        Controller.save_of_mem hw hn hm]
      rfl

-- What a move does to a controller depends on nothing around it but the forms and the data of its
-- own node.
theorem play_on (hn : w.store.graph.nodeIds.Nodup) (hn' : w'.store.graph.nodeIds.Nodup)
    (hf : w'.forms = w.forms)
    (hd : w'.store.graph.data? s.controller.node = w.store.graph.data? s.controller.node) :
    (s.on w').saved? m = (s.on w).saved? m ∧
    ((s.on w').play m).on w = ((s.on w).play m).on w := by
  cases m
  case form | validate | cancel => exact ⟨rfl, rfl⟩
  case begin =>
    refine ⟨rfl, ?_⟩
    simp only [play, after, on, hf,
      Controller.begin_congr hd]
    split <;> rfl
  case edit =>
    refine ⟨rfl, ?_⟩
    simp only [play, after, on, hf]
    split <;> rfl
  case save =>
    simp only [saved?, play, after]
    cases hw : s.controller.working with
    | none      =>
      simp only [on, Controller.save_of_none hw]
      exact ⟨trivial, trivial⟩
    | some data =>
      by_cases h : s.controller.node ∈ w.store.graph.nodeIds
      case pos =>
        have h' := data?_isSome_iff.mp <| hd ▸ data?_isSome_iff.mpr h
        simp only [on, Controller.save_of_mem hw hn h, Controller.save_of_mem hw hn' h']
        exact ⟨trivial, trivial⟩
      case neg =>
        have h' := mt data?_isSome_iff.mpr <| hd ▸ mt data?_isSome_iff.mp h
        simp only [on, Controller.save_of_not_mem hw h, Controller.save_of_not_mem hw h']
        exact ⟨trivial, trivial⟩
  case selectCredential property credential =>
    refine ⟨rfl, ?_⟩
    have hc : s.controller.selectCredential w'.surroundings property credential =
        s.controller.selectCredential w.surroundings property credential :=
      Controller.selectCredential_congr hf property credential
    simp only [play, after, on, Errand.start, hc]
    rfl
  case secret n property credential reply =>
    refine ⟨rfl, ?_⟩
    simp only [play]
    have hc : s.controller.resume w'.surroundings _ reply =
        s.controller.resume w.surroundings _ reply :=
      Controller.resumeSecret_congr hf property credential reply
    by_cases hw : (n, .secret property credential) ∈ s.waiting
    case pos =>
      have ha (w : World) : (s.on w).after (.answer n _ reply) =
          ((s.on w).wake n).absorb n (s.controller.resume w.surroundings _ reply) :=
        after_answer hw
      rw [ha, ha, hc]
      rfl
    case neg =>
      have ha (w : World) : (s.on w).after (.answer n _ reply) = s.on w :=
        after_answer_of_not_mem hw
      rw [ha, ha]
      rfl

end Scene

-- Controllers at work on one canvas, one for each node.
structure Troupe where
  world : World
  cast  : NodeId → Scene

-- What happens on the canvas: a controller makes a move, or a node is removed.
inductive Turn where
  | move (node : NodeId) (m : Move)
  | remove (node : NodeId)

def Turn.node : Turn → NodeId
  | move node _ => node
  | remove node => node

def World.remove (w : World) (node : NodeId) : World :=
  { w with store := (w.store.perform (.remove node)).2 }

-- The controllers of all nodes, just mounted.
def World.troupe (w : World) (types : NodeId → NodeType) : Troupe where
  world := w
  cast  := fun node => w.mount node (types node)

namespace Troupe

variable {t t' : Troupe} {turn : Turn} {turns : List Turn} {node other : NodeId} {m : Move}

-- The scene of a node, with all that the others have done to the world.
def scene (t : Troupe) (node : NodeId) : Scene :=
  (t.cast node).on t.world

def graph (t : Troupe) : Graph :=
  t.world.store.graph

def after (t : Troupe) : Turn → Troupe
  | .move node m => {
    world := ((t.scene node).play m).world
    cast  := Function.update t.cast node ((t.scene node).play m) }
  | .remove node => { t with world := t.world.remove node }

def run (t : Troupe) (turns : List Turn) : Troupe :=
  turns.foldl after t

theorem run_invariant {p : Troupe → Prop} (step : ∀ t turn, p t → p (t.after turn)) (h : p t)
    (turns : List Turn) : p (t.run turns) := by
  induction turns generalizing t with
  | nil            => exact h
  | cons turn _ ih => exact ih <| step t turn h

-- The data that a turn saves for a node.
def saved? (t : Troupe) : Turn → NodeId → Option NodeData
  | .move node m => only node ((t.scene node).saved? m)
  | .remove _    => fun _ => none

-- The data that was saved last for a node.
def saved (t : Troupe) : List Turn → NodeId → Option NodeData
  | [], _                => none
  | turn :: turns, node => ((t.after turn).saved turns node).or (t.saved? turn node)

-- The controllers are those of pairwise distinct nodes, and names tell the nodes apart.
structure Placed (t : Troupe) : Prop where
  node  : ∀ node, (t.cast node).controller.node = node
  nodup : t.graph.nodeIds.Nodup

section Removals

variable {w : World}

theorem remove_nodeIds (w : World) (node : NodeId) :
    (w.remove node).store.graph.nodeIds = w.store.graph.nodeIds.erase node := by
  cases hr : w.store.graph.remove? node with
  | some r =>
    simp only [World.remove, Store.perform, Store.remove_of_some hr]
    exact remove?_nodeIds hr
  | none   =>
    simp only [World.remove, Store.perform, Store.remove_of_none hr]
    have hn : w.store.graph.node? node = none := Option.map_eq_none_iff.mp hr
    refine (List.erase_of_not_mem fun h => ?_).symm
    simpa [hn] using node?_isSome_iff.mpr h

theorem remove_data?_of_ne (h : other ≠ node) :
    (w.remove other).store.graph.data? node = w.store.graph.data? node := by
  cases hr : w.store.graph.remove? other with
  | none   => simp only [World.remove, Store.perform, Store.remove_of_none hr, Prod.map, id_eq]
  | some r =>
    simp only [World.remove, Store.perform, Store.remove_of_some hr]
    exact congrArg _ <| node?_remove? hr h

theorem remove_data? (hn : w.store.graph.nodeIds.Nodup) :
    (w.remove node).store.graph.data? node = none := by
  refine Option.not_isSome_iff_eq_none.mp fun h => ?_
  rw [data?_isSome_iff, remove_nodeIds] at h
  exact hn.not_mem_erase h

end Removals

section Turns

theorem after_graph (p : t.Placed) (node : NodeId) (m : Move) :
    (t.after (.move node m)).graph = t.graph.overlay (t.saved? (.move node m)) := by
  have hi : (t.scene node).controller.node = node := p.node node
  have hg : (t.after (.move node m)).graph = _ := (t.scene node).play_graph p.nodup
  rw [hg, hi]
  rfl

theorem after_cast_of_ne (h : turn.node ≠ node) : (t.after turn).cast node = t.cast node := by
  cases turn
  case remove => rfl
  case move   => exact Function.update_of_ne h.symm ..

theorem after_cast (t : Troupe) (node : NodeId) (m : Move) :
    (t.after (.move node m)).cast node = (t.scene node).play m :=
  Function.update_self ..

theorem after_data? (p : t.Placed) (node : NodeId) (m : Move) :
    (t.after (.move node m)).graph.data? node =
      (t.graph.data? node).map ((t.scene node).saved? m).getD := by
  rw [after_graph p, data?_overlay, saved?, only_self]

theorem after_data?_of_ne (p : t.Placed) (h : turn.node ≠ node) :
    (t.after turn).graph.data? node = t.graph.data? node := by
  cases turn
  case remove => exact remove_data?_of_ne h
  case move other m =>
    have h : node ≠ other := h.symm
    rw [after_graph p, data?_overlay, saved?, only_of_ne h]
    exact Option.map_id'

theorem after_forms (t : Troupe) (turn : Turn) : (t.after turn).world.forms = t.world.forms := by
  cases turn
  case remove => rfl
  case move   => exact Scene.play_forms

theorem after_nodeIds (p : t.Placed) (turn : Turn) :
    (t.after turn).graph.nodeIds.Sublist t.graph.nodeIds := by
  cases turn
  case move node m => rw [after_graph p, nodeIds_overlay]
  case remove node =>
    have hr : (t.after (.remove node)).graph.nodeIds = _ := remove_nodeIds t.world node
    exact hr ▸ List.erase_sublist

theorem Placed.after (p : t.Placed) (turn : Turn) : (t.after turn).Placed where
  nodup     := p.nodup.sublist <| after_nodeIds p turn
  node node := by
    cases turn
    case remove => exact p.node node
    case move other m =>
      by_cases h : other = node
      case pos =>
        rw [h, after_cast]
        exact Scene.play_node.trans <| p.node node
      case neg =>
        have hc : (t.after (.move other m)).cast node = t.cast node := after_cast_of_ne h
        rw [hc, p.node]

theorem Placed.run (p : t.Placed) (turns : List Turn) : (t.run turns).Placed :=
  run_invariant (fun _ turn p => p.after turn) p turns

end Turns

-- As long as no node is removed, the graph is the first one with the data that was saved last.
theorem run_graph (p : t.Placed) (h : ∀ node, .remove node ∉ turns) :
    (t.run turns).graph = t.graph.overlay (t.saved turns) := by
  induction turns generalizing t with
  | nil               => exact overlay_none.symm
  | cons turn rest ih =>
    cases turn
    case remove node => exact absurd (.head _) <| h node
    case move node m =>
      have ih := ih (p.after (.move node m)) fun node h' => h node <| .tail _ h'
      have hr : (t.run (.move node m :: rest)).graph = _ := ih
      rw [hr, after_graph p, overlay_overlay]
      rfl

-- No one changes what a node has beside its values.
structure Titled (g₀ : Graph) (t : Troupe) : Prop where
  graph : ∀ node x, t.graph.title? node = some x → g₀.title? node = some x
  cast  : ∀ node x, (t.cast node).controller.title? = some x → g₀.title? node = some x

namespace Titled

variable {g₀ : Graph}

theorem saved (h : t.Titled g₀) {data : NodeData} (hs : (t.scene node).saved? m = some data) :
    g₀.title? node = some data.title := by
  have ⟨_, hw, _⟩ := Scene.saved?_eq_some hs
  have hc : (t.cast node).controller.working = some data := hw
  exact h.cast node _ <| by rw [Controller.title?, hc, Option.map_some]

theorem after (h : t.Titled g₀) (p : t.Placed) (turn : Turn) : (t.after turn).Titled g₀ where
  graph node x hx := by
    by_cases hn : turn.node = node
    case neg => exact h.graph node x <| by rwa [title?, after_data?_of_ne p hn] at hx
    case pos =>
      subst hn
      cases turn
      case remove other =>
        have hd : (t.after (.remove other)).graph.data? other = none := remove_data? p.nodup
        simp [title?, Turn.node, hd] at hx
      case move other m =>
        rw [title?, Turn.node, after_data? p] at hx
        cases hs : (t.scene other).saved? m with
        | none      =>
          refine h.graph other x ?_
          simpa [hs, title?] using hx
        | some data =>
          have ⟨_, _, hd⟩ : ∃ d, t.graph.data? other = some d ∧ data.title = x := by
            simpa [hs] using hx
          exact hd ▸ h.saved hs
  cast node x hx  := by
    by_cases hn : turn.node = node
    case neg => exact h.cast node x <| by rwa [after_cast_of_ne hn] at hx
    case pos =>
      subst hn
      cases turn
      case remove other => exact h.cast other x hx
      case move other m =>
        rw [Turn.node, after_cast] at hx
        have hi : (t.scene other).controller.node = other := p.node other
        cases (t.scene other).play_title? (m := m) with
        | inl ht => exact h.cast other x <| ht ▸ hx
        | inr ht =>
          cases ht with
          | inl ht => simp [ht] at hx
          | inr ht =>
            rw [ht, hi] at hx
            exact h.graph other x hx

theorem run (h : t.Titled g₀) (p : t.Placed) (turns : List Turn) : (t.run turns).Titled g₀ :=
  (run_invariant (p := fun t => t.Titled g₀ ∧ t.Placed)
    (fun _ turn h => ⟨h.left.after h.right turn, h.right.after turn⟩) ⟨h, p⟩ turns).left

end Titled

-- Two canvases that are the same for one node.
structure Alike (node : NodeId) (t t' : Troupe) : Prop where
  forms : t'.world.forms = t.world.forms
  data  : t'.graph.data? node = t.graph.data? node
  cast  : ∀ w, (t'.cast node).on w = (t.cast node).on w

namespace Alike

theorem after (a : Alike node t t') (p : t.Placed) (p' : t'.Placed) (h : turn.node = node) :
    Alike node (t.after turn) (t'.after turn) := by
  have forms := (after_forms t' turn).trans <| a.forms.trans (after_forms t turn).symm
  subst h
  cases turn
  case remove other =>
    have hd (t : Troupe) (p : t.Placed) : (t.after (.remove other)).graph.data? other = none :=
      remove_data? p.nodup
    exact { forms, data := (hd t' p').trans (hd t p).symm, cast := a.cast }
  case move other m =>
    have hs : t'.scene other = (t.cast other).on t'.world := a.cast t'.world
    have hi : (t.cast other).controller.node = other := p.node other
    have ⟨hv, hc⟩ := Scene.play_on (s := t.cast other) (m := m) p.nodup p'.nodup a.forms <| by
      rw [hi]
      exact a.data
    rw [← hs] at hv hc
    refine { forms, data := ?_, cast := fun w => ?_ }
    · have hd : t'.graph.data? other = t.graph.data? other := a.data
      rw [Turn.node, after_data? p, after_data? p', hv, hd]
      rfl
    · rw [Turn.node, after_cast, after_cast]
      exact congrArg (·.on w) hc

-- A turn of another node makes no difference.
theorem skip (a : Alike node t t') (p' : t'.Placed) (h : turn.node ≠ node) :
    Alike node t (t'.after turn) where
  forms  := (after_forms t' turn).trans a.forms
  data   := (after_data?_of_ne p' h).trans a.data
  cast w := by rw [after_cast_of_ne h, a.cast]

theorem run (a : Alike node t t') (p : t.Placed) (p' : t'.Placed) (turns : List Turn) :
    Alike node (t.run (turns.filter (·.node = node))) (t'.run turns) := by
  induction turns generalizing t t' with
  | nil               => exact a
  | cons turn rest ih =>
    by_cases h : turn.node = node
    case pos =>
      rw [List.filter_cons_of_pos (by simpa using h)]
      exact ih (a.after p p' h) (p.after turn) (p'.after turn)
    case neg =>
      rw [List.filter_cons_of_neg (by simpa using h)]
      exact ih (a.skip p' h) p (p'.after turn)

end Alike

theorem run_nodeIds (p : t.Placed) (turns : List Turn) :
    (t.run turns).graph.nodeIds.Sublist t.graph.nodeIds :=
  (run_invariant (p := fun t' => t'.graph.nodeIds.Sublist t.graph.nodeIds ∧ t'.Placed)
    (fun _ turn h => ⟨(after_nodeIds h.right turn).trans h.left, h.right.after turn⟩)
    ⟨.refl _, p⟩ turns).left

-- Nothing brings a node back.
theorem not_mem_of_remove (p : t.Placed) (h : .remove node ∈ turns) :
    node ∉ (t.run turns).graph.nodeIds := by
  induction turns generalizing t with
  | nil               => contradiction
  | cons turn rest ih =>
    cases List.mem_cons.mp h with
    | inr h => exact ih (p.after turn) h
    | inl h =>
      subst h
      have hr : (t.after (.remove node)).graph.nodeIds = _ := remove_nodeIds t.world node
      intro hm
      have hm := (run_nodeIds (p.after (.remove node)) rest).subset hm
      rw [hr] at hm
      exact p.nodup.not_mem_erase hm

-- A save on a node that is gone fails and leaves everything as it was.
theorem after_save_of_not_mem (p : t.Placed) {data : NodeData}
    (hw : (t.cast node).controller.working = some data) (h : node ∉ t.graph.nodeIds) :
    (t.cast node).controller.save t.world.store = .error (.graph (.nodeNotFound node)) ∧
    (t.after (.move node .save)).world = t.world ∧
    ((t.after (.move node .save)).cast node).controller = (t.cast node).controller := by
  have hs : (t.cast node).controller.save t.world.store = .error (.graph (.nodeNotFound _)) :=
    Controller.save_of_not_mem hw <| (p.node node).symm ▸ h
  have hp : (t.scene node).play .save = t.scene node := Scene.play_save_of_error hs
  rw [p.node node] at hs
  refine ⟨hs, congrArg Scene.world hp, ?_⟩
  rw [after_cast, hp]
  rfl

end Troupe

section

variable (w : World) (types : NodeId → NodeType)

theorem World.troupe_placed (hn : w.store.graph.nodeIds.Nodup) : (w.troupe types).Placed where
  node _ := rfl
  nodup  := hn

theorem World.troupe_titled : (w.troupe types).Titled w.store.graph where
  graph _ _ h := h
  cast        := nofun

end

namespace Troupe

-- Whoever configures a node works on a copy of what it holds. The graph changes by successful saves
-- alone, and in the end every node holds what was saved for it last, under the title that it had
-- when it was read. Nobody's copy depends on what the others do, and a save on a node that is gone
-- fails and leaves the copy as it is.
theorem configurations_isolated (w : World) (hn : w.store.graph.nodeIds.Nodup)
    (types : NodeId → NodeType) (turns : List Turn) :
    let t₀ := w.troupe types
    let t := t₀.run turns
    (∀ node m, (t.after (.move node m)).world = t.world ∨
      m = .save ∧ ∃ r, (t.cast node).controller.save t.world.store = .ok r) ∧
    ((∀ node, .remove node ∉ turns) → t.graph = w.store.graph.overlay (t₀.saved turns)) ∧
    (∀ node data, (t.cast node).controller.working = some data →
      w.store.graph.title? node = some (data.label, data.outcome)) ∧
    (∀ node v, (t.cast node).on v = ((t₀.run <| turns.filter (·.node = node)).cast node).on v) ∧
    ∀ node data, .remove node ∈ turns → (t.cast node).controller.working = some data →
      (t.cast node).controller.save t.world.store = .error (.graph (.nodeNotFound node)) ∧
      (t.after (.move node .save)).world = t.world ∧
      ((t.after (.move node .save)).cast node).controller = (t.cast node).controller := by
  intro t₀ t
  have p₀ : t₀.Placed := w.troupe_placed types hn
  have p : t.Placed := p₀.run turns
  have titled : t.Titled w.store.graph := (w.troupe_titled types).run p₀ turns
  refine ⟨fun node m => ?_, run_graph p₀, fun node data hw => ?_, fun node v => ?_,
    fun node data hr hw => ?_⟩
  · cases hs : (t.scene node).saved? m with
    | none      => exact .inl <| Scene.play_world_of_none hs
    | some data =>
      have ⟨hm, _, hr⟩ := Scene.saved?_eq_some hs
      exact .inr ⟨hm, hr⟩
  · exact titled.cast node _ <| by rw [Controller.title?, hw]; rfl
  · have a : Alike node t₀ t₀ := { forms := rfl, data := rfl, cast := fun _ => rfl }
    exact (a.run p₀ p₀ turns).cast v
  · exact after_save_of_not_mem p hw <| not_mem_of_remove p₀ hr

def note (id : String) : Node where
  id       := ⟨id⟩
  type     := "note"
  position := { x := 0, y := 0 }
  data     := { NodeData.empty with label := id }

def desk : World :=
  { World.quiet with store := .ofGraph { nodes := [note "a", note "b"], edges := [] } 0 }

def noteTypes (_ : NodeId) : NodeType :=
  { NodeType.plain "note" "Note" with properties := [.plain "text" "string"] }

-- Two nodes are configured at the same time.
def notes : List Turn := [
  .move ⟨"a"⟩ .begin, .move ⟨"b"⟩ .begin, .move ⟨"a"⟩ (.edit "text" (.str "x")),
  .move ⟨"b"⟩ (.edit "text" (.str "y"))]

-- Either the one node is saved then, or the other one is removed.
theorem configurations_isolated_notes :
    let t₀ := desk.troupe noteTypes
    let t := t₀.run (notes ++ [.move ⟨"a"⟩ .save])
    let t' := t₀.run (notes ++ [.remove ⟨"b"⟩])
    desk.store.graph.nodeIds.Nodup ∧
    t.graph = desk.store.graph.overlay (t₀.saved (notes ++ [.move ⟨"a"⟩ .save])) ∧
    t.graph.nodes.map (·.data.values.text? "text") = [some "x", none] ∧
    (t'.cast ⟨"b"⟩).controller.working.map (·.values.text? "text") = some (some "y") ∧
    (t'.cast ⟨"b"⟩).controller.save t'.world.store = .error (.graph (.nodeNotFound ⟨"b"⟩)) := by
  intro t₀ t t'
  have hn : desk.store.graph.nodeIds.Nodup := by decide
  have ⟨_, saved, _⟩ := configurations_isolated desk hn noteTypes (notes ++ [.move ⟨"a"⟩ .save])
  have ⟨_, _, _, _, gone⟩ := configurations_isolated desk hn noteTypes (notes ++ [.remove ⟨"b"⟩])
  have ha : t.graph.nodes.map (·.data.values.text? "text") = [some "x", none] := by
    decide +kernel
  have hb : (t'.cast ⟨"b"⟩).controller.working.map (·.values.text? "text") = some (some "y") := by
    decide +kernel
  have ⟨data, hw, _⟩ := Option.map_eq_some_iff.mp hb
  refine ⟨hn, saved ?_, ha, hb, (gone _ data ?_ hw).left⟩
  all_goals simp [notes]

end Troupe

end NodeEditor
