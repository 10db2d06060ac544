import Mathlib.Data.List.Induction
import NodeEditor.Live.Session
import NodeEditor.Proofs.Canvas.Sharing

namespace NodeEditor

theorem lookup_filter_ne {κ α : Type} [DecidableEq κ] (k key : κ) (entries : List (κ × α)) :
    (entries.filter (·.1 ≠ key)).lookup k = if k = key then none else entries.lookup k := by
  induction entries with
  | nil            => simp
  | cons e rest ih =>
    by_cases he : e.1 = key
    case pos =>
      rw [List.filter_cons_of_neg (by simpa using he), ih, List.lookup_cons, ← he]
      split
      case isTrue    => rfl
      case isFalse h => rw [beq_false_of_ne h]
    case neg =>
      rw [List.filter_cons_of_pos (by simpa using he), List.lookup_cons, List.lookup_cons, ih]
      by_cases hk : k = e.1
      case pos => simp [hk, he]
      case neg => rw [beq_false_of_ne hk]

-- What takes a node out of a graph or puts another graph in its place.
inductive Store.Call.Displaces (node : NodeId) : Store.Call → Prop
  | remove : Displaces node (.remove node)
  | replace {g : Graph} : Displaces node (.replace g)

namespace Graph

variable {g g' : Graph} {node other : NodeId} {n : Node} {type : String}

-- The type that a node has in a graph.
def type? (g : Graph) (node : NodeId) : Option String :=
  (g.node? node).map (·.type)

theorem type?_eq_find? : g.type? node =
    ((g.nodes.map fun n => (n.id, n.type)).find? (·.1 = node)).map (·.2) := by
  simp only [type?, node?, List.find?_map, Option.map_map]
  rfl

theorem type?_append {nodes : List Node} {edges : List Edge} (h : g.type? node = some type) :
    type? { nodes := g.nodes ++ nodes, edges := edges } node = some type := by
  have ⟨n, hn, ht⟩ := Option.map_eq_some_iff.mp h
  simp only [type?, node?] at hn ⊢
  rw [List.find?_append, hn]
  exact congrArg some ht

theorem type?_modify {f : Node → Node} (hm : g.modify other f = .ok g')
    (hf : ∀ n, ((f n).id, (f n).type) = (n.id, n.type)) : g'.type? node = g.type? node := by
  have ⟨_, hg⟩ := modify_ok_iff.mp hm
  rw [hg, type?_eq_find?, type?_eq_find?, map_modifyFirst hf]

-- What is not meant to take a node away leaves it where it is, and of the type that it has.
theorem Performs.type? {call : Store.Call} {answer : Store.Answer}
    (p : g.Performs call answer g') (hc : ¬call.Displaces node) (h : g.type? node = some type) :
    g'.type? node = some type := by
  cases p
  case place         => exact type?_append h
  case paste         => exact type?_append h
  case replaceData hm => rwa [type?_modify hm fun _ => rfl]
  case move hm       => rwa [type?_modify hm fun _ => rfl]
  case remove hr     =>
    rwa [Graph.type?, node?_remove? hr]
    rintro rfl
    exact hc .remove
  case replace       => exact absurd .replace hc
  all_goals exact h

end Graph

namespace Session

-- What can be done with a session, with the controllers that it handed out and with the store that
-- it shares.
inductive Act where
  | place (type : String) (position : Position)
  | controller (node : NodeId)
  | remove (node : NodeId)
  | paste (text : String)
  | close
  | unmount (place : Nat)
  | store (call : Store.Call)

-- What does nothing leaves the session as it was.
def after (s : Session) : Act → Session
  | .place type position => ((s.placeNode type position).map (·.2)).getD s
  | .controller node     => ((s.controller? node).map (·.2)).getD s
  | .remove node         => (s.removeNode node).2
  | .paste text          => (s.paste text).2.2
  | .close               => s.close
  | .unmount place       => s.unmountAt place
  | .store call          => s.withStore (s.store.perform call).2

def run (s : Session) (as : List Act) : Session :=
  as.foldl after s

-- That the session gives up the controller of a node.
inductive Act.Dismisses (node : NodeId) : Act → Prop
  | remove : Dismisses node (.remove node)
  | close : Dismisses node .close

-- That a node may go from the store without the session.
def Act.Bypasses (node : NodeId) (a : Act) : Prop :=
  ∃ call : Store.Call, a = .store call ∧ call.Displaces node

-- The kind of a node, if it is in the graph and its kind is in the catalog.
def kind? (s : Session) (node : NodeId) : Option NodeType :=
  (s.store.graph.type? node).bind s.catalog.get?

-- The nodes and the kinds that controllers were mounted for.
def posts (s : Session) : List (NodeId × NodeType) :=
  s.handed.map fun c => (c.node, c.type)

-- The kind that the controller in charge of a node was mounted for.
def charge? (s : Session) (node : NodeId) : Option NodeType :=
  ((s.inCharge.lookup node).bind (s.posts[·]?)).map (·.2)

-- Whoever is in charge of a node was mounted for it.
def Staffed (s : Session) : Prop :=
  ∀ node place, s.inCharge.lookup node = some place → ∃ t, s.posts[place]? = some (node, t)

-- What an act does to the controllers and to who is in charge.
inductive Restaffs (s : Session) : Act → Session → Prop
  | same {a s'} : (∀ node, a ≠ .controller node) → (∀ node, ¬a.Dismisses node) →
    s'.inCharge = s.inCharge → s'.posts = s.posts → Restaffs s a s'
  | idle {node} : (s.inCharge.lookup node).isSome ∨ s.kind? node = none →
    Restaffs s (.controller node) s
  | hire {node t s'} : s.inCharge.lookup node = none → s.kind? node = some t →
    s'.inCharge = (node, s.posts.length) :: s.inCharge → s'.posts = s.posts ++ [(node, t)] →
    Restaffs s (.controller node) s'
  | dismiss {node s'} : s'.inCharge = s.inCharge.filter (·.1 ≠ node) → s'.posts = s.posts →
    Restaffs s (.remove node) s'
  | close {s'} : s'.inCharge = [] → Restaffs s .close s'

variable {s s' : Session} {a : Act} {as : List Act} {node : NodeId} {t : NodeType} {place : Nat}

theorem run_append_singleton : s.run (as ++ [a]) = (s.run as).after a :=
  List.foldl_concat ..

section Staff

theorem posts_unmountAt : (s.unmountAt place).posts = s.posts := by
  have hu (c : Controller) : (c.unmount.node, c.unmount.type) = (c.node, c.type) := by
    rw [Controller.unmount]
    split <;> rfl
  refine List.ext_getElem? fun i => ?_
  simp only [posts, unmountAt, List.getElem?_map, List.getElem?_modify]
  split <;> cases s.handed[i]? <;> simp [hu]

theorem controller?_of_lookup (h : s.inCharge.lookup node = some place) :
    s.controller? node = some (place, s) := by
  rw [controller?, h]

-- With nobody in charge it is up to the graph and the catalog.
theorem controller?_of_lookup_none (h : s.inCharge.lookup node = none) :
    s.controller? node = (s.kind? node).map fun t => (s.handed.length, { s with
      handed   := s.handed ++ [.mount node t]
      inCharge := (node, s.handed.length) :: s.inCharge }) := by
  rw [controller?, h, kind?, Graph.type?]
  cases hn : s.store.graph.node? node with
  | none   => rfl
  | some n => cases ht : s.catalog.get? n.type <;> simp [bind, Option.bind, ht]

-- Whatever comes of it, the session then shares the store that the store gives.
theorem paste_session (s : Session) (text : String) :
    (s.paste text).2.2 = s.withStore (s.store.paste text).2 := by
  rw [paste]
  obtain ⟨pasted, store⟩ := s.store.paste text
  cases pasted <;> rfl

theorem after_restaffs (s : Session) (a : Act) : s.Restaffs a (s.after a) := by
  cases a
  case place type position =>
    simp only [after, placeNode]
    cases s.catalog.get? type
    all_goals exact .same nofun nofun rfl rfl
  case paste text =>
    rw [after, paste_session]
    exact .same nofun nofun rfl rfl
  case close         => exact .close rfl
  case unmount place => exact .same nofun nofun rfl posts_unmountAt
  case store call    => exact .same nofun nofun rfl rfl
  case controller node =>
    cases h : s.inCharge.lookup node with
    | some place =>
      simp only [after, controller?_of_lookup h]
      exact .idle <| .inl <| h ▸ rfl
    | none       =>
      simp only [after, controller?_of_lookup_none h]
      cases ht : s.kind? node with
      | none   => exact .idle <| .inr ht
      | some t => exact .hire h ht (by simp [posts]) (by simp [posts, Controller.mount])
  case remove node =>
    simp only [after, removeNode]
    cases h : s.inCharge.lookup node with
    | some place => exact .dismiss rfl posts_unmountAt
    | none       =>
      have hi : s.inCharge = s.inCharge.filter (·.1 ≠ node) := by
        refine (List.filter_eq_self.mpr fun e he => ?_).symm
        have hn : node ≠ e.1 := by simpa using List.lookup_eq_none_iff.mp h e he
        exact decide_eq_true hn.symm
      exact .dismiss hi rfl

theorem charge?_of_lookup (hs : s.Staffed) (h : s.inCharge.lookup node = some place) :
    ∃ t, s.charge? node = some t ∧ s.posts[place]? = some (node, t) := by
  have ⟨t, ht⟩ := hs node place h
  exact ⟨t, by simp [charge?, h, ht], ht⟩

theorem charge?_of_lookup_none (h : s.inCharge.lookup node = none) : s.charge? node = none := by
  simp [charge?, h]

theorem Restaffs.staffed (r : s.Restaffs a s') (hs : s.Staffed) : s'.Staffed := by
  intro node place h
  cases r with
  | idle _         => exact hs node place h
  | close hi       => simp [hi] at h
  | same _ _ hi hp =>
    rw [hp]
    exact hs node place <| hi ▸ h
  | dismiss hi hp  =>
    rw [hi, lookup_filter_ne] at h
    rw [hp]
    split at h
    · contradiction
    · exact hs node place h
  | @hire other t _ hl _ hi hp =>
    rw [hi, List.lookup_cons] at h
    rw [hp]
    by_cases ho : node = other
    case pos =>
      simp only [ho, beq_self_eq_true, Option.some.injEq] at h
      exact ⟨t, by simp [ho, ← h]⟩
    case neg =>
      rw [beq_false_of_ne ho] at h
      have ⟨t', ht⟩ := hs node place h
      have hl := (List.getElem?_eq_some_iff.mp ht).choose
      exact ⟨t', by rw [List.getElem?_append_left hl, ht]⟩

theorem charge?_eq_none_iff (hs : s.Staffed) :
    s.charge? node = none ↔ s.inCharge.lookup node = none := by
  constructor
  case mpr => exact charge?_of_lookup_none
  case mp  =>
    intro hc
    by_contra h
    have ⟨place, hl⟩ := Option.ne_none_iff_exists'.mp h
    have ⟨t, ht, _⟩ := charge?_of_lookup hs hl
    cases hc.symm.trans ht

theorem charge?_hire {other : NodeId} (hs : s.Staffed)
    (hi : s'.inCharge = (other, s.posts.length) :: s.inCharge)
    (hp : s'.posts = s.posts ++ [(other, t)]) :
    s'.charge? node = if node = other then some t else s.charge? node := by
  rw [charge?, hi, hp, List.lookup_cons]
  split
  case h_1 hn => simp [beq_iff_eq.mp hn]
  case h_2 hn =>
    rw [if_neg (by simpa using hn)]
    cases hl : s.inCharge.lookup node with
    | none       => simp [charge?, hl]
    | some place =>
      have ⟨t', hc, ht⟩ := charge?_of_lookup hs hl
      have hp := (List.getElem?_eq_some_iff.mp ht).choose
      simp [hc, List.getElem?_append_left hp, ht]

-- Who was in charge stays so until dismissed, and who is mounted takes charge.
theorem Restaffs.charge?_eq_some_iff (r : s.Restaffs a s') (hs : s.Staffed) :
    s'.charge? node = some t ↔
      s.charge? node = some t ∧ ¬a.Dismisses node ∨
      a = .controller node ∧ s.charge? node = none ∧ s.kind? node = some t := by
  cases r with
  | same hc hd hi hp     => simp [charge?, hi, hp, hc, hd]
  | close hi             => simp [charge?, hi, Act.Dismisses.close]
  | @idle other h        =>
    have hd : ¬(Act.controller other).Dismisses node := nofun
    suffices ¬(other = node ∧ s.charge? node = none ∧ s.kind? node = some t) by simp [hd, this]
    rintro ⟨rfl, hn, ht⟩
    cases h with
    | inl hl => simp [(charge?_eq_none_iff hs).mp hn] at hl
    | inr he => cases he.symm.trans ht
  | @dismiss other _ hi hp =>
    rw [charge?, hi, hp, lookup_filter_ne]
    by_cases ho : node = other
    case pos => simp [ho, Act.Dismisses.remove]
    case neg =>
      have hd : ¬(Act.remove other).Dismisses node := by
        rintro ⟨⟩
        exact ho rfl
      simp [ho, hd, charge?]
  | @hire other _ _ hl ht hi hp =>
    have hd : ¬(Act.controller other).Dismisses node := nofun
    rw [charge?_hire hs hi hp]
    by_cases ho : node = other
    case pos => simp [ho, charge?_of_lookup_none hl, ht]
    case neg => simp [ho, hd, Ne.symm ho]

end Staff

-- A controller is handed out for a node that was mounted for it as one of this kind.
def Gives (s : Session) (node : NodeId) (t : NodeType) : Prop :=
  ∃ place s' c, s.controller? node = some (place, s') ∧ s'.handed[place]? = some c ∧
    c.node = node ∧ c.type = t

-- A controller is handed out just if the node is in the graph and its kind in the catalog, and then
-- one for that kind.
def Current (s : Session) (node : NodeId) : Prop :=
  ((s.controller? node).isSome ↔ (s.kind? node).isSome) ∧
  ∀ t, s.kind? node = some t → s.Gives node t

section Giving

theorem handed_of_posts (h : s.posts[place]? = some (node, t)) :
    ∃ c, s.handed[place]? = some c ∧ c.node = node ∧ c.type = t := by
  simpa [posts] using h

-- Who is in charge is handed out, and else whoever the graph and the catalog ask for.
theorem controller?_eq (hs : s.Staffed) (node : NodeId) :
    (s.controller? node = none ∧ (s.charge? node).or (s.kind? node) = none) ∨
    ∃ t, s.Gives node t ∧ (s.charge? node).or (s.kind? node) = some t := by
  cases hl : s.inCharge.lookup node with
  | some place =>
    have ⟨t, ht, hp⟩ := charge?_of_lookup hs hl
    have ⟨c, hc⟩ := handed_of_posts hp
    exact .inr ⟨t, ⟨place, s, c, controller?_of_lookup hl, hc⟩, by simp [ht]⟩
  | none       =>
    rw [charge?_of_lookup_none hl, Option.none_or]
    have hg := controller?_of_lookup_none hl
    cases ht : s.kind? node with
    | none   => exact .inl ⟨by simp [hg, ht], rfl⟩
    | some t =>
      rw [ht] at hg
      exact .inr ⟨t, ⟨_, _, .mount node t, hg, by simp, rfl, rfl⟩, rfl⟩

theorem Gives.unique {t' : NodeType} (h : s.Gives node t) (h' : s.Gives node t') : t = t' := by
  obtain ⟨_, _, _, hg, hc, _, rfl⟩ := h
  obtain ⟨_, _, _, hg', hc', _, rfl⟩ := h'
  cases hg.symm.trans hg'
  cases hc.symm.trans hc'
  rfl

theorem gives_iff (hs : s.Staffed) :
    s.Gives node t ↔ (s.charge? node).or (s.kind? node) = some t := by
  cases controller?_eq hs node with
  | inl h =>
    rw [h.right]
    refine iff_of_false ?_ nofun
    rintro ⟨_, _, _, hg, _⟩
    cases h.left.symm.trans hg
  | inr h =>
    have ⟨t', hg, ht⟩ := h
    rw [ht, Option.some_inj]
    constructor
    case mp  => exact fun hg' => hg.unique hg'
    case mpr => rintro rfl; exact hg

theorem controller?_isSome_iff (hs : s.Staffed) :
    (s.controller? node).isSome ↔ ((s.charge? node).or (s.kind? node)).isSome := by
  cases controller?_eq hs node with
  | inl h => simp [h.left, h.right]
  | inr h =>
    have ⟨_, ⟨_, _, _, hg, _⟩, ht⟩ := h
    simp [hg, ht]

theorem current_iff (hs : s.Staffed) :
    s.Current node ↔ ∀ t, s.charge? node = some t → s.kind? node = some t := by
  simp only [Current, controller?_isSome_iff hs, gives_iff hs]
  cases s.charge? node with
  | none   => simp
  | some t => cases s.kind? node <;> simp [eq_comm]

end Giving

-- In a run of these acts a controller was mounted for a node of this kind, and it was not dismissed
-- since then.
inductive Keeps (s : Session) (node : NodeId) (t : NodeType) : List Act → Prop
  | mount {as : List Act} : (s.run as).charge? node = none → (s.run as).kind? node = some t →
    s.Keeps node t (as ++ [.controller node])
  | stay {as : List Act} {a : Act} : s.Keeps node t as → ¬a.Dismisses node →
    s.Keeps node t (as ++ [a])

section Runs

theorem run_staffed (hs : s.Staffed) (as : List Act) : (s.run as).Staffed := by
  induction as generalizing s with
  | nil         => exact hs
  | cons a _ ih => exact ih <| (s.after_restaffs a).staffed hs

-- The induction is on the last act.
theorem charge?_run_iff (hs : s.Staffed) (hn : s.charge? node = none) (as : List Act) :
    (s.run as).charge? node = some t ↔ s.Keeps node t as := by
  constructor
  case mp  =>
    induction as using List.reverseRecOn with
    | nil                      => simp [run, hn]
    | append_singleton as a ih =>
      rw [run_append_singleton, (after_restaffs ..).charge?_eq_some_iff (run_staffed hs _)]
      rintro (⟨hc, hd⟩ | ⟨rfl, hc, ht⟩)
      · exact .stay (ih hc) hd
      · exact .mount hc ht
  case mpr =>
    intro k
    induction k with
    | mount hc ht  =>
      rw [run_append_singleton, (after_restaffs ..).charge?_eq_some_iff (run_staffed hs _)]
      exact .inr ⟨rfl, hc, ht⟩
    | stay _ hd ih =>
      rw [run_append_singleton, (after_restaffs ..).charge?_eq_some_iff (run_staffed hs _)]
      exact .inl ⟨ih, hd⟩

-- The store is left alone or asked for something, and what it is asked for leaves the node.
theorem after_store (s : Session) (hd : ¬a.Dismisses node) (hb : ¬a.Bypasses node) :
    (s.after a).catalog = s.catalog ∧ ((s.after a).store = s.store ∨
      ∃ call, (s.after a).store = (s.store.perform call).2 ∧ ¬call.Displaces node) := by
  cases a
  case close         => exact absurd .close hd
  case unmount place => exact ⟨rfl, .inl rfl⟩
  case store call    => exact ⟨rfl, .inr ⟨call, rfl, fun h => hb ⟨call, rfl, h⟩⟩⟩
  case place type position =>
    simp only [after, placeNode]
    cases s.catalog.get? type with
    | none   => exact ⟨rfl, .inl rfl⟩
    | some t => exact ⟨rfl, .inr ⟨.place t position, rfl, nofun⟩⟩
  case paste text =>
    rw [after, paste_session]
    exact ⟨rfl, .inr ⟨.paste text, rfl, nofun⟩⟩
  case controller other =>
    cases hl : s.inCharge.lookup other with
    | some place =>
      simp only [after, controller?_of_lookup hl]
      exact ⟨rfl, .inl rfl⟩
    | none       =>
      simp only [after, controller?_of_lookup_none hl]
      cases s.kind? other
      all_goals exact ⟨rfl, .inl rfl⟩
  case remove other =>
    have hc : ¬(Store.Call.remove other).Displaces node := by
      rintro ⟨⟩
      exact hd .remove
    simp only [after, removeNode]
    cases s.inCharge.lookup other
    all_goals exact ⟨rfl, .inr ⟨.remove other, rfl, hc⟩⟩

theorem after_kind? (h : s.kind? node = some t) (hd : ¬a.Dismisses node)
    (hb : ¬a.Bypasses node) : (s.after a).kind? node = some t := by
  have ⟨type, hn, ht⟩ := Option.bind_eq_some_iff.mp h
  have ⟨hc, hs⟩ := s.after_store hd hb
  rw [kind?, hc]
  cases hs with
  | inl hs => rw [hs, hn, Option.bind_some, ht]
  | inr hs =>
    have ⟨call, hs, hc⟩ := hs
    have hp := (s.store.perform_refines call).performs.type? hc hn
    rw [hs, hp, Option.bind_some, ht]

theorem Keeps.kind? (k : s.Keeps node t as) (hb : ∀ a ∈ as, ¬a.Bypasses node) :
    (s.run as).kind? node = some t := by
  induction k with
  | mount _ ht   =>
    rw [run_append_singleton]
    exact after_kind? ht nofun <| hb _ <| by simp
  | stay _ hd ih =>
    rw [run_append_singleton]
    exact after_kind? (ih fun a ha => hb a <| by simp [ha]) hd <| hb _ <| by simp

end Runs

variable (catalog : Catalog) (store : Store) (settings : Settings)

-- The controller that was mounted for a node is handed out until it is dismissed, whatever becomes
-- of the node meanwhile. So what is handed out is current just if the node has still, or again, the
-- kind for which its controller was mounted, and always if the node does not go from the store
-- without the session.
theorem current_iff_keeps (as : List Act) (node : NodeId) :
    let s₀ := start catalog store settings
    let s := s₀.run as
    (s.Current node ↔ ∀ t, s₀.Keeps node t as → s.kind? node = some t) ∧
    (∀ t, s.Gives node t ↔
      s₀.Keeps node t as ∨ (∀ t', ¬s₀.Keeps node t' as) ∧ s.kind? node = some t) ∧
    ((∀ a ∈ as, ¬a.Bypasses node) → s.Current node) := by
  intro s₀ s
  have hs₀ : s₀.Staffed := nofun
  have hs : s.Staffed := run_staffed hs₀ as
  have hk (t : NodeType) : s.charge? node = some t ↔ s₀.Keeps node t as :=
    charge?_run_iff hs₀ rfl as
  have hc : s.Current node ↔ ∀ t, s₀.Keeps node t as → s.kind? node = some t := by
    simp only [current_iff hs, hk]
  refine ⟨hc, fun t => ?_, fun hb => hc.mpr fun t k => k.kind? hb⟩
  rw [gives_iff hs, Option.or_eq_some_iff]
  simp only [Option.eq_none_iff_forall_ne_some, hk, ne_eq]

-- A canvas with a single node of the one kind that there is.
def sample (t : NodeType) (node : NodeId) : Session :=
  let n : Node := { id := node, type := t.type, position := { x := 0, y := 0 }, data := .empty }
  start (.ofList [t]) (.ofGraph (Graph.empty.push n) 0) .standard

-- The node is removed through the session.
theorem current_iff_keeps_removed :
    let t := NodeType.plain "transform" "Transform"
    let as : List Act := [.controller ⟨"t"⟩, .unmount 0, .remove ⟨"t"⟩]
    let s := (sample t ⟨"t"⟩).run as
    (∀ a ∈ as, ¬a.Bypasses ⟨"t"⟩) ∧ s.Current ⟨"t"⟩ ∧ s.controller? ⟨"t"⟩ = none := by
  intro t as s
  have hb : ∀ a ∈ as, ¬a.Bypasses ⟨"t"⟩ := by simp [as, Act.Bypasses]
  have hc : s.controller? ⟨"t"⟩ = none := rfl
  exact ⟨hb, (current_iff_keeps _ _ _ as ⟨"t"⟩).right.right hb, hc⟩

-- The node has gone from the store, and its controller is handed out all the same.
theorem removed_node_not_current :
    let t := NodeType.plain "transform" "Transform"
    let s := (sample t ⟨"t"⟩).run [.controller ⟨"t"⟩, .store (.remove ⟨"t"⟩)]
    s.store.graph.nodes = [] ∧ s.Gives ⟨"t"⟩ t ∧ ¬s.Current ⟨"t"⟩ := by
  intro t s
  have hg : s.Gives ⟨"t"⟩ t := ⟨0, s, .mount ⟨"t"⟩ t, rfl, rfl, rfl, rfl⟩
  exact ⟨rfl, hg, fun hc => Bool.false_ne_true <| hc.left.mp rfl⟩

end Session

end NodeEditor
