import NodeEditor.Proofs.Live.Scene

namespace NodeEditor

namespace Controller

variable {node : NodeId} {type : NodeType}

-- What is left of a controller that was unmounted.
def retired (node : NodeId) (type : NodeType) : Controller :=
  { mount node type with mounted := false }

-- Nothing is shown, nothing is configured and nothing ticks, and nothing of it can be begun.
structure Inert (c : Controller) : Prop where
  live             : c.live = .initial
  working          : c.isConfiguring = false
  ticker           : c.ticker = none
  begin            : ∀ g forms, c.begin g forms = .error (.unmounted c.node)
  edit             : ∀ forms property value,
    c.edit forms property value = .error (.notConfiguring c.node)
  form             : ∀ [Pattern.Capacity] forms, c.form forms = .error (.notConfiguring c.node)
  validate         : ∀ [Pattern.Capacity], c.validate = .error (.notConfiguring c.node)
  save             : ∀ store, c.save store = .error (.notConfiguring c.node)
  selectCredential : ∀ s property credential,
    c.selectCredential s property credential = c.ends (.refused (.notConfiguring c.node))

theorem unmount_of_mounted {c : Controller} (h : c.mounted) : c.unmount = retired c.node c.type :=
  if_pos h

theorem retired_inert (node : NodeId) (type : NodeType) : (retired node type).Inert where
  live             := rfl
  working          := rfl
  ticker           := rfl
  begin _ _        := rfl
  edit _ _ _       := rfl
  form _           := rfl
  validate         := rfl
  save _           := rfl
  selectCredential := fun _ _ _ => rfl

theorem retired_start_controller (e : Errand) (s : Surroundings) :
    (e.start (retired node type) s).controller = retired node type := by
  cases e <;> rfl

theorem retired_start_posted (e : Errand) (s : Surroundings) :
    (e.start (retired node type) s).posted = [] := by
  cases e <;> rfl

-- Whatever the answer is, it ends the errand and does nothing else.
theorem retired_resume (node : NodeId) (type : NodeType) (s : Surroundings) (w : Wait)
    (reply : Except TransportError w.Reply) :
    ∃ x, (retired node type).resume s w reply = (retired node type).ends x := by
  cases w <;> exact ⟨_, rfl⟩

end Controller

open Controller

-- What an errand asks of the backend without a look at whether the controller is mounted.
def Errand.uncheckedCall? (node : NodeId) : Errand → Option Call
  | refreshTimer         => some (.timerStatus node)
  | commandTimer command => some (.timerCommand node command)
  | stopListening        => some (.stopListening node)
  | selectCredential ..  => none
  | startListening       => none
  | scrape               => none

def Event.uncheckedCall? (node : NodeId) : Event → Option Call
  | start e => e.uncheckedCall? node
  | _       => none

namespace Scene

variable {s : Scene} {e : Event} {es : List Event} {node : NodeId} {type : NodeType}

theorem after_retired_start (h : s.controller = retired node type) (e : Errand) :
    (s.after (.start e)).controller = retired node type ∧ (s.after (.start e)).posted = s.posted ∧
    (s.after (.start e)).called = s.called ++ (e.uncheckedCall? node).toList := by
  simp only [after, absorb, enlist, h, retired_start_controller, retired_start_posted,
    List.append_nil, true_and]
  cases e
  case refreshTimer | commandTimer | stopListening => rfl
  all_goals exact (List.append_nil _).symm

-- Nothing that happens changes a retired controller, and of all errands only some get as far as to
-- ask the backend.
theorem after_retired (h : s.controller = retired node type) (e : Event) :
    (s.after e).controller = retired node type ∧ (s.after e).posted = s.posted ∧
    (s.after e).called = s.called ++ (e.uncheckedCall? node).toList := by
  cases e
  case start e => exact after_retired_start h e
  case answer n w reply =>
    by_cases hw : (n, w) ∈ s.waiting
    case pos =>
      have ⟨x, hx⟩ := retired_resume node type s.world.surroundings w reply
      rw [after_answer hw, h, hx]
      exact ⟨rfl, List.append_nil _, (List.append_nil _).symm⟩
    case neg =>
      rw [after_answer_of_not_mem hw]
      exact ⟨h, rfl, (List.append_nil _).symm⟩
  case cancel | unmount | record | tick =>
    refine ⟨?_, rfl, (List.append_nil _).symm⟩
    simp only [after, put, h]
    rfl
  case begin | edit | save | elsewhere =>
    have i := retired_inert node type
    simp [after, h, i.begin, i.edit, i.save, Event.uncheckedCall?]

theorem after_retired_world (h : s.controller = retired node type)
    (he : ∀ store now clock, e ≠ .elsewhere store now clock) : (s.after e).world = s.world := by
  cases e
  case answer n w reply =>
    by_cases hw : (n, w) ∈ s.waiting
    case pos => rw [after_answer hw]; rfl
    case neg => rw [after_answer_of_not_mem hw]
  case elsewhere         => exact absurd rfl <| he _ _ _
  case begin | edit | save =>
    have i := retired_inert node type
    simp only [after, h, i.begin, i.edit, i.save]
  all_goals rfl

theorem run_retired (h : s.controller = retired node type) (es : List Event) :
    (s.run es).controller = retired node type ∧ (s.run es).posted = s.posted ∧
    (s.run es).called = s.called ++ es.filterMap (·.uncheckedCall? node) := by
  induction es generalizing s with
  | nil         => exact ⟨h, rfl, (List.append_nil _).symm⟩
  | cons e _ ih =>
    have ⟨hc, hp, ha⟩ := after_retired h e
    have ⟨hc', hp', ha'⟩ := ih hc
    refine ⟨hc', hp'.trans hp, ?_⟩
    rw [run_cons, ha', ha, List.append_assoc]
    cases he : e.uncheckedCall? node <;> simp [he]

-- Nothing mounts a controller again.
theorem run_of_unmount (hm : s.controller.mounted) (hu : .unmount ∈ es) :
    (s.run es).controller = retired s.controller.node s.controller.type := by
  induction es generalizing s with
  | nil         => contradiction
  | cons e _ ih =>
    cases hp : e.part? with
    | none   =>
      cases eq_unmount_of_part? hp
      have hr : (s.after .unmount).controller = retired _ _ := unmount_of_mounted hm
      exact (run_retired hr _).left
    | some p =>
      have hc := after_changes (s := s) hp
      have he : e ≠ .unmount := fun h => by simp [h, Event.part?] at hp
      rw [run_cons, ih (hc.mounted_eq ▸ hm) <| List.mem_of_ne_of_mem he.symm hu, hc.node_eq,
        hc.type_eq]

theorem not_mounted_of_unmount (w : World) (node : NodeId) (type : NodeType)
    (hu : .unmount ∈ es) : ¬((w.mount node type).run es).controller.mounted := by
  rw [run_of_unmount (s := w.mount node type) rfl hu]
  exact Bool.false_ne_true

-- Once unmounted, a controller is inert for ever: no event changes it, posts anything for its node
-- or writes to the graph, save what others do to the store.
theorem inert_of_unmount (w : World) (node : NodeId) (type : NodeType) (hu : .unmount ∈ es)
    (later : List Event) :
    let s := (w.mount node type).run es
    let s' := s.run later
    s'.controller.Inert ∧ s'.controller.node = node ∧ s'.controller = s.controller ∧
    s'.posted = s.posted ∧
    ∀ e, (∀ store now clock, e ≠ .elsewhere store now clock) → (s'.after e).world = s'.world := by
  intro s s'
  have hs : s.controller = retired node type := run_of_unmount (s := w.mount node type) rfl hu
  have ⟨hc, hp, _⟩ := run_retired hs later
  refine ⟨?_, ?_, ?_, hp, fun e => after_retired_world hc⟩
  · exact hc ▸ retired_inert node type
  · exact hc ▸ rfl
  · exact hc.trans hs.symm

-- The timer was told to start, and that was accepted before the unmount; its status comes after it.
theorem inert_of_unmount_late_answers :
    let status : TimerStatus := { TimerStatus.initial with isActive := true }
    let es : List Event := [
      .start .startListening, .start (.commandTimer .start), .answer 1 (.command .start) (.ok ()),
      .unmount]
    let later : List Event := [
      .answer 1 (.status true) (.ok status), .answer 0 .startListening (.error (.timeout "")),
      .begin]
    let s := (World.quiet.mount ⟨"t"⟩ (.plain "timer" "Timer")).run es
    let s' := s.run later
    .unmount ∈ es ∧ s.waiting = [(1, .status true), (0, .startListening)] ∧ s'.waiting = [] ∧
    s'.controller.Inert ∧ s'.controller = s.controller ∧ s'.posted = s.posted := by
  intro status es later s s'
  have hu : Event.unmount ∈ es := by simp [es]
  have ⟨hi, _, hc, hp, _⟩ :=
    inert_of_unmount World.quiet ⟨"t"⟩ (.plain "timer" "Timer") hu later
  exact ⟨hu, rfl, rfl, hi, hc, hp⟩

-- After an unmount the backend is asked just what is started without a look at whether the
-- controller is mounted. No answer is followed by another call.
theorem called_of_unmount (w : World) (node : NodeId) (type : NodeType) (hu : .unmount ∈ es)
    (later : List Event) :
    let s := (w.mount node type).run es
    (s.run later).called = s.called ++ later.filterMap (·.uncheckedCall? node) := by
  intro s
  have hs : s.controller = retired node type := run_of_unmount (s := w.mount node type) rfl hu
  exact (run_retired hs later).right.right

theorem called_of_unmount_restart :
    let es : List Event := [.start (.commandTimer .stop), .start .startListening, .unmount]
    let later : List Event := [
      .answer 0 (.command .stop) (.ok ()), .start .startListening, .start .scrape,
      .start (.commandTimer .trigger), .start (.selectCredential "key" ⟨"k"⟩)]
    let s := (World.quiet.mount ⟨"t"⟩ (.plain "timer" "Timer")).run es
    .unmount ∈ es ∧ s.called = [.timerCommand ⟨"t"⟩ .stop, .startListening ⟨"t"⟩] ∧
    (s.run later).called = s.called ++ [.timerCommand ⟨"t"⟩ .trigger] := by
  intro es later s
  have hu : Event.unmount ∈ es := by simp [es]
  exact ⟨hu, rfl, called_of_unmount World.quiet ⟨"t"⟩ (.plain "timer" "Timer") hu later⟩

-- To start a timer is such an errand.
theorem unmounted_start_timer_called :
    ∃ es : List Event, .unmount ∈ es ∧
      let s := (World.quiet.mount ⟨"t"⟩ (.plain "timer" "Timer")).run es
      (s.after (.start (.commandTimer .start))).called =
        s.called ++ [.timerCommand ⟨"t"⟩ .start] ∧
      (s.after (.start (.commandTimer .start))).called ≠ s.called :=
  ⟨[.unmount], by simp, rfl, List.cons_ne_nil _ _⟩

end Scene

end NodeEditor
