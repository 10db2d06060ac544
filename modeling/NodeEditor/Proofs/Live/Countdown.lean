import Mathlib.Data.List.Induction
import NodeEditor.Proofs.Live.Scene

namespace NodeEditor

namespace TimerCommand

variable {command : TimerCommand} {status : TimerStatus}

theorem assume_nextExecution : (command.assume status).nextExecution = status.nextExecution := by
  cases command <;> rfl

theorem assume_isActive (h : command ≠ .stop) (ha : status.isActive) :
    (command.assume status).isActive := by
  cases command
  case start   => rfl
  case stop    => contradiction
  case trigger => exact ha

end TimerCommand

namespace TimerView

-- The last known status says when the timer is due.
def Due (v : TimerView) : Prop :=
  ∃ status, v.status = some status ∧ status.nextExecution.isSome

-- A countdown is shown only while the timer is active and due.
def Paired (v : TimerView) : Prop :=
  v.countdown.isSome → v.isActive ∧ v.Due

end TimerView

namespace Controller

variable {c c' : Controller} {p : Part} {command : TimerCommand} {status : TimerStatus}

def Ticking (c : Controller) : Prop :=
  ∃ t, c.ticker = some t ∧ t.finished = false

-- What is shown is counted down, by a ticker that goes on, and to a moment that the status names.
structure Timed (c : Controller) : Prop where
  counted : c.live.timer.countdown.isSome → c.countdown.isSome
  ticking : c.live.timer.countdown.isSome → c.Ticking
  due     : c.countdown.isSome → c.live.timer.Due
  mounted : c.Ticking → c.mounted

-- A controller with the same timer, except for the error that is shown.
structure SameTimer (c c' : Controller) : Prop where
  mounted   : c'.mounted = c.mounted
  status    : c'.live.timer.status = c.live.timer.status
  shown     : c'.live.timer.countdown = c.live.timer.countdown
  countdown : c'.countdown = c.countdown
  ticker    : c'.ticker = c.ticker

theorem Changes.sameTimer (h : c.Changes p c') (hp : p ≠ .timing) : c.SameTimer c' where
  mounted   := h.mounted_eq
  status    := by rw [h.timer_eq hp]
  shown     := by rw [h.timer_eq hp]
  countdown := h.countdown_eq hp
  ticker    := h.ticker_eq hp

theorem SameTimer.refl : c.SameTimer c :=
  ⟨rfl, rfl, rfl, rfl, rfl⟩

theorem SameTimer.timed (h : c.SameTimer c') (t : c.Timed) : c'.Timed where
  counted := by rw [h.shown, h.countdown]; exact t.counted
  ticking := by rw [h.shown, Ticking, h.ticker]; exact t.ticking
  due     := by rw [h.countdown, TimerView.Due, h.status]; exact t.due
  mounted := by rw [Ticking, h.ticker, h.mounted]; exact t.mounted

theorem SameTimer.paired (h : c.SameTimer c') (hp : c.live.timer.Paired) :
    c'.live.timer.Paired := by
  rw [TimerView.Paired, TimerView.isActive, TimerView.Due, h.shown, h.status]
  exact hp

-- The controller after a command was accepted.
def told (c : Controller) (command : TimerCommand) : Controller :=
  c.withTimer fun t => { t with status := t.status.map command.assume, error := none }

theorem told_due (h : c.live.timer.Due) : (c.told command).live.timer.Due := by
  have ⟨status, hs, hn⟩ := h
  refine ⟨command.assume status, by simp [told, withTimer, hs], ?_⟩
  rw [TimerCommand.assume_nextExecution, hn]

theorem told_timed (t : c.Timed) : (c.told command).Timed where
  counted   := t.counted
  ticking   := t.ticking
  due h     := told_due <| t.due h
  mounted   := t.mounted

theorem told_paired (hc : command ≠ .stop) (hp : c.live.timer.Paired) :
    (c.told command).live.timer.Paired := by
  intro h
  have ⟨ha, hd⟩ := hp h
  refine ⟨?_, told_due hd⟩
  have ⟨status, hs, _⟩ := hd
  simp only [TimerView.isActive, told, withTimer, hs, Option.map_some, Option.getD_some] at ha ⊢
  exact TimerCommand.assume_isActive hc ha

section Statuses

-- What a controller took over from a status.
structure Shows (c : Controller) (status : TimerStatus) : Prop where
  known     : c.live.timer.status = some status
  shown     : c.live.timer.countdown.isSome = c.countdown.isSome
  countdown : c.countdown.isSome = (status.isActive && status.nextExecution.isSome)
  ticking   : status.isActive → c.Ticking

theorem Shows.due (h : c.Shows status) (hc : c.countdown.isSome) : c.live.timer.Due :=
  ⟨status, h.known, (Bool.and_eq_true_iff.mp <| h.countdown ▸ hc).right⟩

theorem Shows.isActive (h : c.Shows status) (hc : c.countdown.isSome) : status.isActive :=
  (Bool.and_eq_true_iff.mp <| h.countdown ▸ hc).left

theorem Shows.timed (h : c.Shows status) (hm : c.mounted) : c.Timed where
  counted hs := h.shown ▸ hs
  ticking hs := h.ticking <| h.isActive <| h.shown ▸ hs
  due        := h.due
  mounted _  := hm

theorem Shows.paired (h : c.Shows status) : c.live.timer.Paired := by
  intro hs
  have hc : c.countdown.isSome := h.shown ▸ hs
  refine ⟨?_, h.due hc⟩
  simp only [TimerView.isActive, h.known, Option.map_some, Option.getD_some, h.isActive hc]

theorem ensureTicker_ticking (c : Controller) (clock : Nat) : (c.ensureTicker clock).Ticking := by
  simp only [ensureTicker]
  split
  case h_1 t ht =>
    split
    case isTrue    => exact ⟨_, rfl, rfl⟩
    case isFalse h => exact ⟨t, ht, Bool.eq_false_iff.mpr h⟩
  case h_2 => exact ⟨_, rfl, rfl⟩

theorem ensureTicker_eq (c : Controller) (clock : Nat) :
    c.ensureTicker clock = { c with ticker := (c.ensureTicker clock).ticker } := by
  simp only [ensureTicker]
  repeat' split
  all_goals rfl

theorem applyTimerStatus_shows (c : Controller) (status : TimerStatus) (now : Time.Moment)
    (clock : Nat) : (c.applyTimerStatus status now clock).Shows status := by
  simp only [applyTimerStatus]
  split
  case isTrue ha =>
    refine ⟨?_, ?_, ?_, fun _ => ensureTicker_ticking ..⟩
    all_goals rw [ensureTicker_eq]
    all_goals simp [ha]
  case isFalse ha =>
    refine ⟨rfl, ?_, ?_, fun h => absurd h ha⟩
    all_goals simp [ha]

theorem applyTimerStatus_mounted {now : Time.Moment} {clock : Nat} :
    (c.applyTimerStatus status now clock).mounted = c.mounted :=
  (c.applyTimerStatus_changes status now clock).mounted_eq

theorem resumeStatus_timer (c : Controller) (s : Surroundings) (after : Bool)
    (answer : Except TransportError TimerStatus) :
    c.SameTimer (c.resumeStatus s after answer).controller ∨
    c.mounted ∧ ∃ status, answer = .ok status := by
  simp only [resumeStatus]
  split
  case isTrue  => exact .inl .refl
  case isFalse hm =>
    cases answer with
    | ok status => exact .inr ⟨by simpa using hm, status, rfl⟩
    | error _   => exact .inl ⟨rfl, rfl, rfl, rfl, rfl⟩

theorem resumeCommand_timer (c : Controller) (command : TimerCommand)
    (answer : Except TransportError Unit) :
    c.SameTimer (c.resumeCommand command answer).controller ∨
    answer = .ok () ∧ (c.resumeCommand command answer).controller = c.told command := by
  simp only [resumeCommand]
  split
  case isTrue  => exact .inl .refl
  case isFalse =>
    cases answer with
    | ok _    => exact .inr ⟨rfl, rfl⟩
    | error _ => exact .inl ⟨rfl, rfl, rfl, rfl, rfl⟩

end Statuses

section Ticks

variable {time : Nat}

theorem tickAt_eq_self (h : ¬c.Ticking) : c.tickAt time = c := by
  cases ht : c.ticker with
  | none   => simp only [tickAt, ht]
  | some t =>
    have hf : t.finished := by simpa using fun hf => h ⟨t, ht, hf⟩
    simp only [tickAt, ht, Ticker.tick, hf, if_true]
    rw [← ht]

-- What is shown after a tick, for a controller with a ticker that goes on.
theorem tickAt_eq (h : c.Ticking) (hm : c.mounted) (time : Nat) : ∃ t,
    c.tickAt time = { c with
      ticker := some t
      live   := { c.live with
        timer := { c.live.timer with
          countdown :=
            if c.live.timer.isActive then c.countdown.map (·.remaining time) else none } } } ∧
    t.finished = !c.live.timer.isActive := by
  have ⟨t, ht, hf⟩ := h
  simp only [tickAt, ht, Ticker.tick, hf, tick, hm]
  exact ⟨_, rfl, rfl⟩

theorem tickAt_shown (h : c.Ticking) (hm : c.mounted) (time : Nat)
    (hs : (c.tickAt time).live.timer.countdown.isSome) :
    c.live.timer.isActive ∧ c.countdown.isSome := by
  have ⟨_, ht, _⟩ := tickAt_eq h hm time
  rw [ht] at hs
  cases ha : c.live.timer.isActive <;> simp [ha] at hs
  exact ⟨rfl, hs⟩

theorem tickAt_paired (t : c.Timed) (h : c.Ticking) : (c.tickAt time).live.timer.Paired := by
  intro hs
  have ⟨ha, hc⟩ := tickAt_shown h (t.mounted h) time hs
  have ⟨_, ht, _⟩ := tickAt_eq h (t.mounted h) time
  rw [ht]
  exact ⟨ha, t.due hc⟩

-- A ticker goes on just as long as the timer is active, and only then anything is shown.
theorem tickAt_timed (t : c.Timed) : (c.tickAt time).Timed := by
  by_cases h : c.Ticking
  case neg =>
    rw [tickAt_eq_self h]
    exact t
  case pos =>
    have hm := t.mounted h
    have shown := tickAt_shown h hm time
    have ⟨t', ht, hf⟩ := tickAt_eq h hm time
    rw [ht] at shown ⊢
    exact {
      counted hs := (shown hs).right
      ticking hs := ⟨t', rfl, by rw [hf, (shown hs).left]; rfl⟩
      due        := t.due
      mounted _  := hm }

end Ticks

theorem mount_timed (node : NodeId) (type : NodeType) : (mount node type).Timed where
  counted := nofun
  ticking := nofun
  due     := nofun
  mounted := nofun

theorem unmount_timed (t : c.Timed) : c.unmount.Timed := by
  cases Scene.unmount_cases c with
  | inl h => exact h.right.symm ▸ t
  | inr h =>
    rw [h.right]
    exact {
      counted := nofun
      ticking := nofun
      due     := nofun
      mounted := nofun }

theorem unmount_paired (h : c.live.timer.Paired) : c.unmount.live.timer.Paired := by
  cases Scene.unmount_cases c with
  | inl hc => exact hc.right.symm ▸ h
  | inr hc =>
    rw [hc.right]
    exact nofun

end Controller

namespace Scene

variable {s : Scene} {e : Event} {es : List Event} {c : Controller}

-- That a command to stop is accepted.
inductive Stops (s : Scene) : Event → Prop
  | stop {n} : (n, .command .stop) ∈ s.waiting → s.Stops (.answer n (.command .stop) (.ok ()))

-- What recomputes the countdown that is shown: a status that is taken over, and a tick.
inductive Renews (s : Scene) : Event → Prop
  | status {n after status} : s.controller.mounted → (n, .status after) ∈ s.waiting →
    s.Renews (.answer n (.status after) (.ok status))
  | tick {time} : s.controller.Ticking → s.Renews (.tick time)

-- In a run of these events a command to stop was accepted, and since then the countdown has not been
-- recomputed.
inductive StoppedSince (s : Scene) : List Event → Prop
  | stop {es : List Event} {e : Event} : (s.run es).Stops e → s.StoppedSince (es ++ [e])
  | stay {es : List Event} {e : Event} :
    s.StoppedSince es → ¬(s.run es).Renews e → s.StoppedSince (es ++ [e])

-- What an event does to the timer. The cases may overlap.
inductive Retimes (s : Scene) : Event → Controller → Prop
  | same {e : Event} {c : Controller} : s.controller.SameTimer c → s.Retimes e c
  | told {n command} : (n, .command command) ∈ s.waiting →
    s.Retimes (.answer n (.command command) (.ok ())) (s.controller.told command)
  | shows {e : Event} {c : Controller} {status} : c.mounted → c.Shows status → s.Retimes e c
  | tick {time} : s.Retimes (.tick time) (s.controller.tickAt time)
  | unmount : s.Retimes .unmount s.controller.unmount

theorem after_status_shows {n : Nat} {after : Bool} (hm : s.controller.mounted)
    (hw : (n, .status after) ∈ s.waiting) (status : TimerStatus) :
    let c := (s.after (.answer n (.status after) (.ok status))).controller
    c.mounted ∧ c.Shows status := by
  have hc : (s.controller.resume s.world.surroundings (.status after) (.ok status)).controller =
      s.controller.applyTimerStatus status s.world.now s.world.clock := by
    simp only [Controller.resume, Controller.resumeStatus, hm]
    rfl
  rw [after_answer hw]
  simp only [absorb, hc]
  exact ⟨Controller.applyTimerStatus_mounted.trans hm, Controller.applyTimerStatus_shows ..⟩

theorem after_retimes (s : Scene) (e : Event) : s.Retimes e (s.after e).controller := by
  have untouched {p : Part} (hp : e.part? = some p) (ht : p ≠ .timing) :
      s.Retimes e (s.after e).controller :=
    .same <| (after_changes hp).sameTimer ht
  cases e
  case unmount   => exact .unmount
  case tick time => exact .tick
  case start e   =>
    cases e
    case refreshTimer | commandTimer => exact .same .refl
    all_goals exact untouched rfl nofun
  case answer n w reply =>
    by_cases hw : (n, w) ∈ s.waiting
    case neg =>
      rw [after_answer_of_not_mem hw]
      exact .same .refl
    case pos =>
      cases w
      case status after =>
        cases s.controller.resumeStatus_timer s.world.surroundings after reply with
        | inl h =>
          rw [after_answer hw]
          exact .same h
        | inr h =>
          obtain ⟨hm, status, rfl⟩ := h
          have ⟨hm', hs⟩ := after_status_shows hm hw status
          exact .shows hm' hs
      case command command =>
        have hr := s.controller.resumeCommand_timer command reply
        rw [after_answer hw]
        cases hr with
        | inl h => exact .same h
        | inr h =>
          obtain ⟨rfl, hc⟩ := h
          have ht : s.Retimes _ (s.controller.told command) := .told hw
          rw [← hc] at ht
          exact ht
      all_goals exact untouched rfl nofun
  all_goals exact untouched rfl nofun

theorem Retimes.timed (h : s.Retimes e c) (t : s.controller.Timed) : c.Timed := by
  cases h with
  | same h     => exact h.timed t
  | told _     => exact Controller.told_timed t
  | shows hm h => exact h.timed hm
  | tick       => exact Controller.tickAt_timed t
  | unmount    => exact Controller.unmount_timed t

theorem Retimes.paired (h : s.Retimes e c) (t : s.controller.Timed)
    (hp : s.controller.live.timer.Paired) (hs : ¬s.Stops e) : c.live.timer.Paired := by
  cases h with
  | same h    => exact h.paired hp
  | shows _ h => exact h.paired
  | unmount   => exact Controller.unmount_paired hp
  | told hw   =>
    refine Controller.told_paired ?_ hp
    rintro rfl
    exact hs <| .stop hw
  | tick      =>
    by_cases h : s.controller.Ticking
    case pos => exact Controller.tickAt_paired t h
    case neg =>
      rw [Controller.tickAt_eq_self h]
      exact hp

theorem renews_paired (t : s.controller.Timed) (h : s.Renews e) :
    (s.after e).controller.live.timer.Paired := by
  cases h with
  | status hm hw => exact (after_status_shows hm hw _).right.paired
  | tick h       => exact Controller.tickAt_paired t h

theorem run_timed (t : s.controller.Timed) (es : List Event) : (s.run es).controller.Timed :=
  run_invariant (p := fun s => s.controller.Timed) (fun s e t => (s.after_retimes e).timed t) t es

-- The induction is on the last event, since what matters is the last stop.
theorem run_paired (t : s.controller.Timed) (hp : s.controller.live.timer.Paired)
    (es : List Event) : (s.run es).controller.live.timer.Paired ∨ s.StoppedSince es := by
  induction es using List.reverseRecOn with
  | nil                      => exact .inl hp
  | append_singleton es e ih =>
    have t' := run_timed t es
    rw [run_append]
    by_cases hr : (s.run es).Renews e
    case pos => exact .inl <| renews_paired t' hr
    case neg =>
      by_cases hs : (s.run es).Stops e
      case pos => exact .inr <| .stop hs
      case neg => exact ih.imp (((s.run es).after_retimes e).paired t' · hs) (.stay · hr)

-- The countdown is shown only while the timer is active, and only for a status that says when it is
-- due, unless a command to stop was accepted. Then it stays until it is recomputed, for which the
-- ticker goes on.
theorem paired_or_stoppedSince (w : World) (node : NodeId) (type : NodeType) (es : List Event) :
    let s₀ := w.mount node type
    let s := s₀.run es
    (s.controller.live.timer.Paired ∨ s₀.StoppedSince es) ∧
    (s.controller.live.timer.countdown.isSome →
      s.controller.live.timer.Due ∧ s.controller.Ticking) ∧
    ∀ e, s.Renews e → (s.after e).controller.live.timer.Paired := by
  intro s₀ s
  have t₀ : s₀.controller.Timed := Controller.mount_timed node type
  have t : s.controller.Timed := run_timed t₀ es
  refine ⟨run_paired t₀ nofun es, ?_, fun e => renews_paired t⟩
  exact fun h => ⟨t.due <| t.counted h, t.ticking h⟩

-- A stop was accepted, and the status after it could not be loaded.
theorem stopped_timer_not_paired :
    let status : TimerStatus := { TimerStatus.initial with
      nextExecution := some { day := 0, second := 65, nano := 0 }
      isActive      := true }
    let s := (World.quiet.mount ⟨"t"⟩ (.plain "timer" "Timer")).run [
      .start .refreshTimer, .answer 0 (.status false) (.ok status),
      .start (.commandTimer .stop), .answer 1 (.command .stop) (.ok ()),
      .answer 1 (.status true) (.error (.timeout ""))]
    s.controller.mounted ∧ s.waiting = [] ∧ s.controller.live.timer.countdown = some 65 ∧
    s.controller.live.timer.isActive = false ∧ ¬s.controller.live.timer.Paired := by
  intro status s
  have hc : s.controller.live.timer.countdown = some 65 := by decide
  have ha : s.controller.live.timer.isActive = false := by decide
  refine ⟨rfl, rfl, hc, ha, fun hp => ?_⟩
  have h := (hp <| hc ▸ rfl).left
  rw [ha] at h
  contradiction

end Scene

end NodeEditor
