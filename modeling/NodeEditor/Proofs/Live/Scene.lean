import NodeEditor.Proofs.Live.Errand

namespace NodeEditor

-- What is around a controller.
structure World where
  store          : Store
  forms          : Engine
  scrapeDefaults : ScrapeDefaults
  now            : Time.Moment
  clock          : Nat

def World.surroundings (w : World) : Surroundings where
  graph          := w.store.graph
  forms          := w.forms
  scrapeDefaults := w.scrapeDefaults
  now            := w.now
  clock          := w.clock

-- What can happen at any time. Answers come in any order, and meanwhile the store may be changed by
-- others and time passes. Each event is one stretch, in which nothing else happens.
inductive Event where
  | begin
  | edit (property : String) (value : Json)
  | save
  | cancel
  | unmount
  | record (payload : Json)
  | start (e : Errand)
  | answer (n : Nat) (w : Wait) (reply : Except TransportError w.Reply)
  | tick (time : Nat)
  | elsewhere (store : Store) (now : Time.Moment) (clock : Nat)

-- The part of a controller that an event may change. To unmount changes them all.
def Event.part? : Event → Option Part
  | begin | edit .. | save | cancel => some .working
  | unmount                         => none
  | record _                        => some .webhook
  | start e                         => some e.part
  | answer _ w _                    => some w.part
  | tick _                          => some .timing
  | elsewhere ..                    => some .working

-- Whether an event starts an errand or answers one.
def Event.onErrand : Event → Bool
  | start _ | answer .. => true
  | _                   => false

-- A controller at work. Its errands are numbered in the order in which they were started, and each
-- of them waits for an answer or has ended. `called` is what the backend has been asked for.
structure Scene where
  world      : World
  controller : Controller
  errands    : List Errand
  waiting    : List (Nat × Wait)
  ended      : List (Nat × Ending)
  called     : List Call
  posted     : List Notification

-- A world in which nothing else is going on.
def World.quiet : World where
  store          := .ofGraph .empty 0
  forms          := .bare
  scrapeDefaults := .standard
  now            := { day := 0, second := 0, nano := 0 }
  clock          := 0

-- The scene of a controller that has just been mounted.
def World.mount (w : World) (node : NodeId) (type : NodeType) : Scene where
  world      := w
  controller := .mount node type
  errands    := []
  waiting    := []
  ended      := []
  called     := []
  posted     := []

namespace Scene

def put (s : Scene) (c : Controller) : Scene :=
  { s with controller := c }

-- The scene when a stretch of an errand is over.
def absorb (s : Scene) (n : Nat) (t : Stretch) : Scene where
  world      := s.world
  controller := t.controller
  errands    := s.errands
  waiting    :=
    match t.progress with
    | .ended _   => s.waiting
    | .waiting w => (n, w) :: s.waiting
  ended      :=
    match t.progress with
    | .ended x   => (n, x) :: s.ended
    | .waiting _ => s.ended
  called     :=
    match t.progress with
    | .ended _   => s.called
    | .waiting w => s.called ++ [w.call t.controller.node]
  posted     := s.posted ++ t.posted

-- The scene with one more errand, which has still to do its first stretch.
def enlist (s : Scene) (e : Errand) : Scene :=
  { s with errands := s.errands ++ [e] }

-- The scene in which an errand waits no more.
def wake (s : Scene) (n : Nat) : Scene :=
  { s with waiting := s.waiting.filter (·.1 ≠ n) }

-- What fails leaves all as it was, and so does an answer that nothing waits for.
def after (s : Scene) : Event → Scene
  | .begin =>
    match s.controller.begin s.world.store.graph s.world.forms with
    | .ok c    => s.put c
    | .error _ => s
  | .edit property value =>
    match s.controller.edit s.world.forms property value with
    | .ok (c, _) => s.put c
    | .error _   => s
  | .save =>
    match s.controller.save s.world.store with
    | .ok (c, store) => { s with controller := c, world := { s.world with store := store } }
    | .error _       => s
  | .cancel         => s.put s.controller.cancel
  | .unmount        => s.put s.controller.unmount
  | .record payload => s.put (s.controller.recordEvent s.world.now payload).2
  | .start e        =>
    (s.enlist e).absorb s.errands.length <| e.start s.controller s.world.surroundings
  | .answer n w reply =>
    if (n, w) ∈ s.waiting then
      (s.wake n).absorb n <| s.controller.resume s.world.surroundings w reply
    else s
  | .tick time => s.put <| s.controller.tickAt time
  | .elsewhere store now clock =>
    { s with world := { s.world with store := store, now := now, clock := clock } }

def run (s : Scene) (es : List Event) : Scene :=
  es.foldl after s

variable {s s' : Scene} {e : Event} {es es₁ es₂ : List Event} {n m : Nat} {w : Wait} {x : Ending}

theorem run_cons : s.run (e :: es) = (s.after e).run es :=
  rfl

theorem run_append : s.run (es₁ ++ es₂) = (s.run es₁).run es₂ :=
  List.foldl_append

theorem run_invariant {p : Scene → Prop} (step : ∀ s e, p s → p (s.after e)) (h : p s)
    (es : List Event) : p (s.run es) := by
  induction es generalizing s with
  | nil         => exact h
  | cons e _ ih => exact ih <| step s e h

theorem after_answer {reply : Except TransportError w.Reply} (h : (n, w) ∈ s.waiting) :
    s.after (.answer n w reply) =
      (s.wake n).absorb n (s.controller.resume s.world.surroundings w reply) :=
  if_pos h

theorem after_answer_of_not_mem {reply : Except TransportError w.Reply}
    (h : (n, w) ∉ s.waiting) : s.after (.answer n w reply) = s :=
  if_neg h

-- Any other event leaves the errands, and all that is on record of them, as they are.
theorem after_of_not_onErrand (s : Scene) (h : ¬e.onErrand) :
    ∃ w c, s.after e = { s with world := w, controller := c } := by
  cases e
  case start | answer => exact absurd rfl h
  case begin | edit | save =>
    simp only [after]
    split <;> exact ⟨_, _, rfl⟩
  all_goals exact ⟨_, _, rfl⟩

theorem run_ticks (s : Scene) (times : List Nat) :
    s.run (times.map .tick) = s.put (times.foldl Controller.tickAt s.controller) := by
  induction times generalizing s with
  | nil         => rfl
  | cons _ _ ih => exact ih _

-- The ticks that are due make of the controller what the clock makes of it.
theorem run_dueTicks (s : Scene) (clock : Nat) :
    s.run ((s.controller.dueTicks clock).map .tick) = s.put (s.controller.elapse clock) := by
  rw [run_ticks, Controller.elapse_eq_foldl_tickAt]

section Controllers

-- An event changes one part of the controller and leaves the others, if it is not to unmount it.
theorem after_changes {p : Part} (h : e.part? = some p) :
    s.controller.Changes p (s.after e).controller := by
  cases e <;> cases h
  case begin =>
    simp only [after]
    split
    case h_1 hb => exact (Controller.begin_ok hb).right
    case h_2    => exact .working
  case edit =>
    simp only [after]
    split
    case h_1 he => exact (Controller.edit_ok he).right
    case h_2    => exact .working
  case save =>
    simp only [after]
    split
    case h_1 hs => exact (Controller.save_ok hs).right
    case h_2    => exact .working
  case cancel         => exact .working
  case record payload => exact s.controller.recordEvent_changes _ payload
  case start e        => exact Controller.start_changes e _ _
  case answer n w reply =>
    by_cases hw : (n, w) ∈ s.waiting
    case pos =>
      rw [after_answer hw]
      exact Controller.resume_changes _ _ w reply
    case neg =>
      rw [after_answer_of_not_mem hw]
      exact .refl
  case tick time      => exact s.controller.tickAt_changes time
  case elsewhere      => exact .working

theorem eq_unmount_of_part? (h : e.part? = none) : e = .unmount := by
  cases e <;> first | rfl | contradiction

theorem unmount_cases (c : Controller) : (¬c.mounted ∧ c.unmount = c) ∨
    (c.mounted ∧ c.unmount = { Controller.mount c.node c.type with mounted := false }) := by
  by_cases hm : c.mounted
  case pos => exact .inr ⟨hm, if_pos hm⟩
  case neg => exact .inl ⟨hm, if_neg hm⟩

theorem unmount_mounted (c : Controller) : c.unmount.mounted = false := by
  cases unmount_cases c with
  | inl h => simpa [h.right] using h.left
  | inr h => rw [h.right]

-- No event mounts a controller, and only one unmounts it.
theorem after_mounted (h : (s.after e).controller.mounted) :
    s.controller.mounted ∧ ∃ p, e.part? = some p := by
  cases hp : e.part? with
  | none   =>
    cases eq_unmount_of_part? hp
    exact absurd h <| by simp [after, put, unmount_mounted]
  | some p => exact ⟨(after_changes hp).mounted_eq ▸ h, p, rfl⟩

-- What a controller is mounted for stays.
theorem after_node (s : Scene) (e : Event) : (s.after e).controller.node = s.controller.node := by
  cases hp : e.part? with
  | some p => exact (after_changes hp).node_eq
  | none   =>
    cases eq_unmount_of_part? hp
    cases unmount_cases s.controller with
    | inl h | inr h => exact congrArg (·.node) h.right

theorem after_type (s : Scene) (e : Event) : (s.after e).controller.type = s.controller.type := by
  cases hp : e.part? with
  | some p => exact (after_changes hp).type_eq
  | none   =>
    cases eq_unmount_of_part? hp
    cases unmount_cases s.controller with
    | inl h | inr h => exact congrArg (·.type) h.right

end Controllers

-- An answer changes nothing around the controller.
theorem after_answer_world (s : Scene) (n : Nat) (w : Wait)
    (reply : Except TransportError w.Reply) : (s.after (.answer n w reply)).world = s.world := by
  by_cases hw : (n, w) ∈ s.waiting
  case pos => rw [after_answer hw]; rfl
  case neg => rw [after_answer_of_not_mem hw]

theorem after_forms (s : Scene) (e : Event) : (s.after e).world.forms = s.world.forms := by
  cases e
  case answer n w reply => rw [s.after_answer_world n w reply]
  case begin | edit | save =>
    simp only [after]
    split <;> rfl
  all_goals rfl

section Records

-- What is on record stays there.
structure Grows (s s' : Scene) : Prop where
  mounted : s'.controller.mounted → s.controller.mounted
  errands : s.errands <+: s'.errands
  ended   : s.ended ⊆ s'.ended

namespace Grows

theorem refl : s.Grows s where
  mounted := id
  errands := List.prefix_refl _
  ended   := List.Subset.refl _

theorem trans {s₁ s₂ s₃ : Scene} (g₁ : s₁.Grows s₂) (g₂ : s₂.Grows s₃) : s₁.Grows s₃ where
  mounted := g₁.mounted ∘ g₂.mounted
  errands := g₁.errands.trans g₂.errands
  ended   := List.Subset.trans g₁.ended g₂.ended

theorem errand (g : s.Grows s') {e : Errand} (h : s.errands[n]? = some e) :
    s'.errands[n]? = some e := by
  have ⟨_, he⟩ := g.errands
  rw [← he, List.getElem?_append_left (List.getElem?_eq_some_iff.mp h).choose, h]

end Grows

theorem mem_waiting_absorb {t : Stretch} :
    (m, w) ∈ (s.absorb n t).waiting ↔ (m, w) ∈ s.waiting ∨ m = n ∧ t.progress = .waiting w := by
  cases ht : t.progress <;> simp [absorb, ht, or_comm, eq_comm]

theorem mem_ended_absorb {t : Stretch} :
    (m, x) ∈ (s.absorb n t).ended ↔ (m, x) ∈ s.ended ∨ m = n ∧ t.progress = .ended x := by
  cases ht : t.progress <;> simp [absorb, ht, or_comm, eq_comm]

theorem ended_absorb (s : Scene) (n : Nat) (t : Stretch) : s.ended ⊆ (s.absorb n t).ended :=
  fun _ h => mem_ended_absorb.mpr <| .inl h

theorem after_records (s : Scene) (e : Event) :
    s.errands <+: (s.after e).errands ∧ s.ended ⊆ (s.after e).ended := by
  by_cases he : e.onErrand
  case neg =>
    obtain ⟨_, _, h⟩ := s.after_of_not_onErrand he
    rw [h]
    exact ⟨List.prefix_refl _, List.Subset.refl _⟩
  case pos =>
  cases e <;> cases he
  case start e =>
    exact ⟨List.prefix_append .., ended_absorb (s.enlist e) ..⟩
  case answer n w reply =>
    by_cases hw : (n, w) ∈ s.waiting
    case pos =>
      rw [after_answer hw]
      exact ⟨List.prefix_refl _, ended_absorb (s.wake n) ..⟩
    case neg =>
      rw [after_answer_of_not_mem hw]
      exact ⟨List.prefix_refl _, List.Subset.refl _⟩

theorem after_grows (s : Scene) (e : Event) : s.Grows (s.after e) where
  mounted h := (after_mounted h).left
  errands   := (s.after_records e).left
  ended     := (s.after_records e).right

theorem run_grows (s : Scene) (es : List Event) : s.Grows (s.run es) :=
  run_invariant (fun s' e g => g.trans <| s'.after_grows e) .refl es

-- The records agree: what waits is an errand that can come to such a wait and has not ended, and an
-- errand ends once.
structure Orderly (s : Scene) : Prop where
  awaits  : ∀ n w, (n, w) ∈ s.waiting → ∃ e, s.errands[n]? = some e ∧ e.Awaits w
  pending : ∀ n w, (n, w) ∈ s.waiting → ∀ x, (n, x) ∉ s.ended
  ended   : ∀ n x, (n, x) ∈ s.ended → n < s.errands.length
  once    : ∀ n x x', (n, x) ∈ s.ended → (n, x') ∈ s.ended → x = x'

namespace Orderly

theorem mount (w : World) (node : NodeId) (type : NodeType) : (w.mount node type).Orderly where
  awaits  := by simp [World.mount]
  pending := by simp [World.mount]
  ended   := by simp [World.mount]
  once    := by simp [World.mount]

theorem not_waiting (o : s.Orderly) (h : s.errands.length ≤ n) : (n, w) ∉ s.waiting := by
  intro hw
  have ⟨_, he, _⟩ := o.awaits n w hw
  exact absurd (List.getElem?_eq_some_iff.mp he).choose <| Nat.not_lt.mpr h

theorem not_ended (o : s.Orderly) (h : s.errands.length ≤ n) (x : Ending) : (n, x) ∉ s.ended :=
  fun hx => absurd (o.ended n x hx) <| Nat.not_lt.mpr h

theorem enlist (o : s.Orderly) (e : Errand) : (s.enlist e).Orderly where
  awaits n w h  := by
    have ⟨e', he, ha⟩ := o.awaits n w h
    have hn := (List.getElem?_eq_some_iff.mp he).choose
    exact ⟨e', by rw [Scene.enlist, List.getElem?_append_left hn, he], ha⟩
  pending       := o.pending
  ended n x h   := by
    have := o.ended n x h
    simp only [Scene.enlist, List.length_append, List.length_singleton]
    omega
  once          := o.once

theorem wake (o : s.Orderly) (n : Nat) : (s.wake n).Orderly where
  awaits m w h  := o.awaits m w (List.mem_filter.mp h).left
  pending m w h := o.pending m w (List.mem_filter.mp h).left
  ended         := o.ended
  once          := o.once

-- The stretch is of an errand that does not wait and has not ended.
theorem absorb (o : s.Orderly) {e : Errand} {t : Stretch} (he : s.errands[n]? = some e)
    (hw : ∀ w, (n, w) ∉ s.waiting) (hx : ∀ x, (n, x) ∉ s.ended)
    (ha : ∀ w, t.progress = .waiting w → e.Awaits w) : (s.absorb n t).Orderly where
  awaits m w h         := by
    cases mem_waiting_absorb.mp h with
    | inl h => exact o.awaits m w h
    | inr h =>
      obtain ⟨rfl, ht⟩ := h
      exact ⟨e, he, ha w ht⟩
  pending m w h x h'   := by
    cases mem_waiting_absorb.mp h with
    | inl h =>
      cases mem_ended_absorb.mp h' with
      | inl h' => exact o.pending m w h x h'
      | inr h' => exact hw w <| h'.left ▸ h
    | inr h =>
      cases mem_ended_absorb.mp h' with
      | inl h' => exact hx x <| h.left ▸ h'
      | inr h' => exact Progress.noConfusion <| h.right.symm.trans h'.right
  ended m x h          := by
    cases mem_ended_absorb.mp h with
    | inl h => exact o.ended m x h
    | inr h => exact h.left ▸ (List.getElem?_eq_some_iff.mp he).choose
  once m x x' h h'     := by
    cases mem_ended_absorb.mp h with
    | inl h =>
      cases mem_ended_absorb.mp h' with
      | inl h' => exact o.once m x x' h h'
      | inr h' => exact absurd (h'.left ▸ h) <| hx x
    | inr h =>
      cases mem_ended_absorb.mp h' with
      | inl h' => exact absurd (h.left ▸ h') <| hx x'
      | inr h' => exact Progress.ended.inj <| h.right.symm.trans h'.right

theorem after (o : s.Orderly) (e : Event) : (s.after e).Orderly := by
  by_cases he : e.onErrand
  case neg =>
    obtain ⟨_, _, h⟩ := s.after_of_not_onErrand he
    rw [h]
    exact { awaits := o.awaits, pending := o.pending, ended := o.ended, once := o.once }
  case pos =>
  cases e <;> cases he
  case start e =>
    refine (o.enlist e).absorb (e := e) ?_ ?_ ?_ fun w h => Controller.start_awaits h
    · simp [Scene.enlist]
    · exact fun w => o.not_waiting (Nat.le_refl _)
    · exact o.not_ended (Nat.le_refl _)
  case answer n w reply =>
    by_cases hw : (n, w) ∈ s.waiting
    case pos =>
      have ⟨e, he, ha⟩ := o.awaits n w hw
      rw [after_answer hw]
      refine (o.wake n).absorb he ?_ (o.pending n w hw) fun w' h => Controller.resume_awaits ha h
      exact fun w' h => by simp [Scene.wake] at h
    case neg =>
      rw [after_answer_of_not_mem hw]
      exact o

theorem run (o : s.Orderly) (es : List Event) : (s.run es).Orderly :=
  run_invariant (fun _ e o => o.after e) o es

end Orderly

end Records

end Scene

end NodeEditor
