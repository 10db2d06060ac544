import NodeEditor.Proofs.Live.Countdown
import NodeEditor.Proofs.Live.Unmounted

namespace NodeEditor

-- What has become of a ticker that was started. It is finished when it has ended itself, and dropped
-- when the slot was given up that it was in.
inductive Fate where
  | live
  | finished
  | dropped
deriving DecidableEq, Repr

-- A ticker that has ended itself stays finished.
def Fate.drop : Fate → Fate
  | live     => dropped
  | finished => finished
  | dropped  => dropped

theorem Fate.drop_ne_live (f : Fate) : f.drop ≠ .live := by
  cases f <;> decide

-- The fate of a ticker in a slot.
def Ticker.fate (k : Ticker) : Fate :=
  if k.finished then .finished else .live

theorem Ticker.fate_eq_live_iff {k : Ticker} : k.fate = .live ↔ k.finished = false := by
  rw [fate]
  split <;> simp_all

-- All tickers that a controller has started, in that order, and which of them is in its slot.
structure Tickers where
  fates : List Fate
  kept  : Option Nat

namespace Tickers

variable {t : Tickers} {slot slot' : Option Ticker} {k : Ticker} {i j : Nat} {ticks : Bool}

def initial : Tickers where
  fates := []
  kept  := none

def Live (t : Tickers) : Prop :=
  .live ∈ t.fates

-- The fates when that of the ticker in the slot, if there is one, comes to be another.
def change (t : Tickers) (f : Fate → Fate) : List Fate :=
  match t.kept with
  | some i => t.fates.modify i f
  | none   => t.fates

def start (t : Tickers) (k : Ticker) : Tickers where
  fates := t.fates ++ [k.fate]
  kept  := some t.fates.length

def settle (t : Tickers) (k : Ticker) : Tickers where
  fates := t.change fun _ => k.fate
  kept  := t.kept

def drop (t : Tickers) : Tickers where
  fates := t.change .drop
  kept  := none

-- What becomes of the tickers when the slot holds first the one and then the other. A ticker is
-- told by what it holds, so that with no tick another content is another ticker, and the one that
-- was there before is dropped. A tick is the one in the slot's own doing.
def turn (t : Tickers) (ticks : Bool) : Option Ticker → Option Ticker → Tickers
  | none,   none    => t
  | none,   some k' => t.start k'
  | some _, none    => t.drop
  | some k, some k' => if ticks || k' = k then t.settle k' else t.drop.start k'

-- The ticker that is kept is the one in the slot, and no other one is live.
structure Fits (t : Tickers) (slot : Option Ticker) : Prop where
  kept : t.kept.bind (t.fates[·]?) = slot.map Ticker.fate
  live : ∀ i : Nat, t.fates[i]? = some .live → t.kept = some i

theorem length_change (t : Tickers) (f : Fate → Fate) :
    (t.change f).length = t.fates.length := by
  rw [change]
  split <;> simp

-- A ticker is started when the slot comes to hold one that was not in it.
theorem length_turn_iff : t.fates.length < (t.turn ticks slot slot').fates.length ↔
    ∃ k', slot' = some k' ∧ ∀ k, slot = some k → ¬ticks ∧ k' ≠ k := by
  cases slot with
  | none   => cases slot' <;> simp [turn, start]
  | some k =>
    cases slot' with
    | none    => simp [turn, drop, length_change]
    | some k' =>
      rw [turn]
      split
      case isTrue h  =>
        refine iff_of_false (by simp [settle, length_change]) fun ⟨k₂, hs, hn⟩ => ?_
        cases hs
        simp [hn k rfl] at h
      case isFalse h => simpa [start, drop, length_change] using h

theorem initial_fits : initial.Fits none where
  kept     := rfl
  live _ h := by cases h

namespace Fits

theorem unique (f : t.Fits slot) (hi : t.fates[i]? = some .live) (hj : t.fates[j]? = some .live) :
    i = j :=
  Option.some.inj <| (f.live i hi).symm.trans <| f.live j hj

theorem live_iff (f : t.Fits slot) : t.Live ↔ ∃ k, slot = some k ∧ k.finished = false := by
  rw [Live, List.mem_iff_getElem?]
  constructor
  case mp  =>
    intro ⟨i, hi⟩
    have hk : slot.map Ticker.fate = some .live := by rw [← f.kept, f.live i hi]; exact hi
    have ⟨k, hs, hf⟩ := Option.map_eq_some_iff.mp hk
    exact ⟨k, hs, Ticker.fate_eq_live_iff.mp hf⟩
  case mpr =>
    intro ⟨k, hs, hf⟩
    have hk : t.kept.bind (t.fates[·]?) = some .live := by
      rw [f.kept, hs, Option.map_some, Ticker.fate_eq_live_iff.mpr hf]
    have ⟨i, _, hi⟩ := Option.bind_eq_some_iff.mp hk
    exact ⟨i, hi⟩

theorem not_live (f : t.Fits none) : ¬t.Live :=
  fun hl => nomatch f.live_iff.mp hl

theorem live_change (f : t.Fits slot) {g : Fate → Fate} (h : (t.change g)[i]? = some .live) :
    t.kept = some i := by
  rw [change] at h
  split at h
  case h_2      => exact f.live i h
  case h_1 j hj =>
    by_cases hij : j = i
    case pos => exact hij ▸ hj
    case neg =>
      rw [List.getElem?_modify_ne _ _ hij] at h
      exact f.live i h

theorem drop (f : t.Fits slot) : t.drop.Fits none where
  kept     := rfl
  live i h := by
    have hk := f.live_change h
    have h : (t.change .drop)[i]? = some .live := h
    rw [change, hk, List.getElem?_modify_eq] at h
    have ⟨x, _, hx⟩ := Option.map_eq_some_iff.mp h
    exact absurd hx x.drop_ne_live

theorem settle (f : t.Fits (some k)) (k' : Ticker) : (t.settle k').Fits (some k') where
  kept     := by
    have ⟨i, hi, hf⟩ := Option.bind_eq_some_iff.mp f.kept
    simp [Tickers.settle, change, hi, hf]
  live _ h := f.live_change h

-- With no other live, it is the one that may be.
theorem start (hl : ¬t.Live) (k : Ticker) : (t.start k).Fits (some k) where
  kept     := by simp [Tickers.start]
  live i h := by
    rw [Tickers.start, List.getElem?_append] at h
    split at h
    case isTrue     => exact absurd (List.mem_of_getElem? h) hl
    case isFalse hi =>
      have h := (List.getElem?_eq_some_iff.mp h).choose
      rw [List.length_singleton] at h
      exact congrArg some <| show t.fates.length = i by omega

theorem turn (f : t.Fits slot) (ticks : Bool) (slot' : Option Ticker) :
    (t.turn ticks slot slot').Fits slot' := by
  cases slot with
  | none   =>
    cases slot' with
    | none    => exact f
    | some k' => exact start f.not_live k'
  | some k =>
    cases slot' with
    | none    => exact f.drop
    | some k' =>
      rw [Tickers.turn]
      split
      case isTrue  => exact f.settle k'
      case isFalse => exact start f.drop.not_live k'

end Fits

end Tickers

namespace Controller

theorem ensureTicker_of_ticking (c : Controller) (h : c.Ticking) {clock : Nat} :
    (c.ensureTicker clock).ticker = c.ticker := by
  have ⟨k, hs, hk⟩ := h
  simp [ensureTicker, hs, hk]

theorem ensureTicker_of_not_ticking (c : Controller) (h : ¬c.Ticking) {clock : Nat} :
    (c.ensureTicker clock).ticker = some (.start tickPeriod clock) := by
  cases hs : c.ticker with
  | none   => simp [ensureTicker, hs]
  | some k =>
    have hk : k.finished := by simpa using fun hk => h ⟨k, hs, hk⟩
    simp [ensureTicker, hs, hk]

theorem ensureTicker_congr {c c' : Controller} (h : c'.ticker = c.ticker) (clock : Nat) :
    (c'.ensureTicker clock).ticker = (c.ensureTicker clock).ticker := by
  simp only [ensureTicker, h]
  split
  case h_1 => split <;> first | rfl | exact h
  case h_2 => rfl

-- All that the slot takes in of a status is whether the timer is active.
theorem applyTimerStatus_ticker (c : Controller) (status : TimerStatus) (now : Time.Moment)
    (clock : Nat) : (c.applyTimerStatus status now clock).ticker =
      if status.isActive then (c.ensureTicker clock).ticker else none := by
  simp only [applyTimerStatus]
  split
  case isTrue  =>
    apply ensureTicker_congr
    rfl
  case isFalse => rfl

end Controller

def Event.ticks : Event → Bool
  | tick _ => true
  | _      => false

namespace Scene

variable {s : Scene} {e : Event} {es : List Event} {t : Tickers} {status : TimerStatus}

-- That a status is applied.
inductive Applies (s : Scene) : Event → TimerStatus → Prop
  | status {n : Nat} {after : Bool} {status : TimerStatus} : s.controller.mounted →
    (n, .status after) ∈ s.waiting → s.Applies (.answer n (.status after) (.ok status)) status

-- What an event makes of the tickers, as the slot shows it.
def nextTickers (s : Scene) (t : Tickers) (e : Event) : Tickers :=
  t.turn e.ticks s.controller.ticker (s.after e).controller.ticker

-- The tickers at the end of a run.
def tickers (s : Scene) (t : Tickers) : List Event → Tickers
  | []      => t
  | e :: es => (s.after e).tickers (s.nextTickers t e) es

theorem tickers_append {es₁ es₂ : List Event} :
    s.tickers t (es₁ ++ es₂) = (s.run es₁).tickers (s.tickers t es₁) es₂ := by
  induction es₁ generalizing s t with
  | nil         => rfl
  | cons e _ ih => exact ih

theorem run_fits (f : t.Fits s.controller.ticker) (es : List Event) :
    (s.tickers t es).Fits (s.run es).controller.ticker := by
  induction es generalizing s t with
  | nil         => exact f
  | cons e _ ih => exact ih <| f.turn e.ticks _

section Slots

variable {n : Nat}

theorem Applies.slot (h : s.Applies e status) : (s.after e).controller.ticker =
    if status.isActive then (s.controller.ensureTicker s.world.clock).ticker else none := by
  cases h with
  | status hm hw =>
    rw [← s.controller.applyTimerStatus_ticker status s.world.now, after_answer hw]
    simp only [absorb, Controller.resume, Controller.resumeStatus, hm]
    rfl

theorem Applies.ticking_iff (h : s.Applies e status) :
    (s.after e).controller.Ticking ↔ status.isActive := by
  have hs := h.slot
  split at hs
  case isTrue ha  =>
    have ⟨k, hk, hf⟩ := s.controller.ensureTicker_ticking s.world.clock
    exact iff_of_true ⟨k, hs.trans hk, hf⟩ ha
  case isFalse ha => exact iff_of_false (fun ⟨_, hk, _⟩ => nomatch hs.symm.trans hk) ha

theorem Applies.not_ticks (h : s.Applies e status) : ¬e.ticks := by
  cases h
  exact Bool.false_ne_true

theorem after_answer_status_slot {after : Bool} {reply : Except TransportError TimerStatus}
    (h : ∀ status, ¬s.Applies (.answer n (.status after) reply) status) :
    (s.after (.answer n (.status after) reply)).controller.ticker = s.controller.ticker := by
  by_cases hw : (n, .status after) ∈ s.waiting
  case neg => exact congrArg (·.controller.ticker) <| after_answer_of_not_mem hw
  case pos =>
    cases s.controller.resumeStatus_timer s.world.surroundings after reply with
    | inl hs =>
      have hr : s.after (.answer n (.status after) reply) = _ := after_answer hw
      exact hr ▸ hs.ticker
    | inr hs =>
      obtain ⟨hm, status, rfl⟩ := hs
      exact absurd (.status hm hw) <| h status

theorem after_answer_command_slot {command : TimerCommand} {reply : Except TransportError Unit} :
    (s.after (.answer n (.command command) reply)).controller.ticker = s.controller.ticker := by
  by_cases hw : (n, .command command) ∈ s.waiting
  case neg => exact congrArg (·.controller.ticker) <| after_answer_of_not_mem hw
  case pos =>
    have hr : s.after (.answer n (.command command) reply) = _ := after_answer hw
    have ht : (s.controller.resumeCommand command reply).controller.ticker =
        s.controller.ticker := by
      cases s.controller.resumeCommand_timer command reply with
      | inl hs => exact hs.ticker
      | inr hs => rw [hs.right]; rfl
    exact hr ▸ ht

-- What applies no status puts no ticker into the slot.
theorem after_slot (h : ∀ status, ¬s.Applies e status) (he : ¬e.ticks) :
    (s.after e).controller.ticker = s.controller.ticker ∨
    (s.after e).controller.ticker = none := by
  have untouched {p : Part} (hp : e.part? = some p) (ht : p ≠ .timing) :
      (s.after e).controller.ticker = s.controller.ticker :=
    (after_changes hp).ticker_eq ht
  cases e
  case tick    => exact absurd rfl he
  case unmount =>
    exact (unmount_cases s.controller).imp (congrArg (·.ticker) ·.right)
      (congrArg (·.ticker) ·.right)
  case start e =>
    cases e
    case refreshTimer | commandTimer => exact .inl rfl
    all_goals exact .inl <| untouched rfl nofun
  case answer n w reply =>
    cases w
    case status  => exact .inl <| after_answer_status_slot h
    case command => exact .inl after_answer_command_slot
    all_goals exact .inl <| untouched rfl nofun
  all_goals exact .inl <| untouched rfl nofun

theorem after_ticks_slot (he : e.ticks) (h : s.controller.ticker = none) :
    (s.after e).controller.ticker = none := by
  cases e <;> cases he
  case tick time =>
    have hc : s.controller.tickAt time = s.controller :=
      Controller.tickAt_eq_self fun ⟨_, hk, _⟩ => nomatch h.symm.trans hk
    exact (congrArg (·.ticker) hc).trans h

-- A ticker is started just by an active status that finds none live.
theorem started_iff (f : t.Fits s.controller.ticker) (e : Event) :
    t.fates.length < (s.nextTickers t e).fates.length ↔
      ∃ status, s.Applies e status ∧ status.isActive ∧ ¬t.Live := by
  rw [nextTickers, Tickers.length_turn_iff]
  constructor
  case mp  =>
    intro ⟨k, hk, hn⟩
    by_cases ha : ∃ status, s.Applies e status
    case pos =>
      have ⟨status, ha⟩ := ha
      rw [ha.slot] at hk
      split at hk
      case isFalse     => contradiction
      case isTrue hact =>
        refine ⟨status, ha, hact, fun hl => ?_⟩
        rw [s.controller.ensureTicker_of_ticking <| f.live_iff.mp hl] at hk
        exact (hn k hk).right rfl
    case neg =>
      by_cases he : e.ticks
      case pos =>
        cases hs : s.controller.ticker with
        | none    => exact nomatch (after_ticks_slot he hs).symm.trans hk
        | some k' => exact absurd he (hn k' hs).left
      case neg =>
        cases after_slot (not_exists.mp ha) he with
        | inl hs => exact absurd rfl (hn k <| hs.symm.trans hk).right
        | inr hs => exact nomatch hs.symm.trans hk
  case mpr =>
    intro ⟨status, ha, hact, hl⟩
    rw [f.live_iff] at hl
    refine ⟨.start Controller.tickPeriod s.world.clock, ?_, fun k hk => ⟨ha.not_ticks, fun h => ?_⟩⟩
    · rw [ha.slot, if_pos hact, s.controller.ensureTicker_of_not_ticking hl]
    · exact hl ⟨k, hk, h ▸ rfl⟩

end Slots

-- A tick on a timer that is not active clears what is shown and is the last one of its ticker.
theorem after_tick_of_not_isActive (h : s.controller.Ticking) (hm : s.controller.mounted)
    (ha : ¬s.controller.live.timer.isActive) (time : Nat) :
    (s.after (.tick time)).controller.live.timer.countdown = none ∧
    ¬(s.after (.tick time)).controller.Ticking := by
  have ⟨k, hc, hk⟩ := Controller.tickAt_eq h hm time
  have hc : (s.after (.tick time)).controller = _ := hc
  have ha : s.controller.live.timer.isActive = false := by simpa using ha
  rw [ha] at hk
  refine ⟨by simp [hc, ha], fun ⟨k', hs, hk'⟩ => ?_⟩
  rw [hc] at hs
  cases hs
  cases hk.symm.trans hk'

theorem tickers_retired {node : NodeId} {type : NodeType}
    (h : s.controller = .retired node type) (t : Tickers) (es : List Event) :
    s.tickers t es = t := by
  induction es generalizing s with
  | nil         => rfl
  | cons e _ ih =>
    have hr := (after_retired h e).left
    have ht : s.nextTickers t e = t := by rw [nextTickers, h, hr]; rfl
    rw [tickers, ht, ih hr]

-- Of all tickers that a controller has ever started at most one is live. A status that is applied
-- leaves one just if the timer is active, and starts it just if there is none. It ends itself with a
-- tick on a timer that is not active, and after the unmount there is none any more.
theorem ticker_unique (w : World) (node : NodeId) (type : NodeType) (es : List Event) :
    let s₀ := w.mount node type
    let s := s₀.run es
    let t := s₀.tickers .initial es
    (∀ i j : Nat, t.fates[i]? = some .live → t.fates[j]? = some .live → i = j) ∧
    (t.Live ↔ s.controller.Ticking) ∧
    (∀ e status, s.Applies e status → ((s.nextTickers t e).Live ↔ status.isActive)) ∧
    (∀ e, t.fates.length < (s.nextTickers t e).fates.length ↔
      ∃ status, s.Applies e status ∧ status.isActive ∧ ¬t.Live) ∧
    (∀ time, t.Live → ¬s.controller.live.timer.isActive →
      (s.after (.tick time)).controller.live.timer.countdown = none ∧
      ¬(s.nextTickers t (.tick time)).Live) ∧
    (.unmount ∈ es → ¬t.Live ∧ ∀ later, s₀.tickers .initial (es ++ later) = t) := by
  intro s₀ s t
  have f : t.Fits s.controller.ticker := run_fits Tickers.initial_fits es
  have next (e : Event) : (s.nextTickers t e).Live ↔ (s.after e).controller.Ticking :=
    (f.turn e.ticks _).live_iff
  have timed : s.controller.Timed := run_timed (Controller.mount_timed node type) es
  refine ⟨fun i j => f.unique, f.live_iff, fun e status ha => (next e).trans ha.ticking_iff,
    started_iff f, fun time hl ha => ?_, fun hu => ?_⟩
  · have ht := f.live_iff.mp hl
    have ⟨hc, hn⟩ := after_tick_of_not_isActive ht (timed.mounted ht) ha time
    exact ⟨hc, (next _).not.mpr hn⟩
  · have hr : s.controller = .retired node type := run_of_unmount (s := s₀) rfl hu
    refine ⟨fun hl => ?_, fun later => ?_⟩
    · have hm := timed.mounted <| f.live_iff.mp hl
      rw [hr] at hm
      contradiction
    · rw [tickers_append]
      exact tickers_retired hr t later

-- A stop is accepted, so that the ticker ends itself before the status comes, which is active again.
theorem ticker_unique_restart :
    let status : TimerStatus := { TimerStatus.initial with isActive := true }
    let es : List Event := [
      .start .refreshTimer, .answer 0 (.status false) (.ok status), .start (.commandTimer .stop),
      .answer 1 (.command .stop) (.ok ()), .tick 1, .answer 1 (.status true) (.ok status)]
    let s₀ := World.quiet.mount ⟨"t"⟩ (.plain "timer" "Timer")
    (s₀.tickers .initial es).fates = [.finished, .live] ∧ (s₀.run es).controller.Ticking ∧
    ∀ later, (s₀.tickers .initial (es ++ [.unmount] ++ later)).fates = [.finished, .dropped] := by
  intro status es s₀
  have ⟨_, live, _⟩ := ticker_unique World.quiet ⟨"t"⟩ (.plain "timer" "Timer") es
  have ⟨_, _, _, _, _, unmounted⟩ :=
    ticker_unique World.quiet ⟨"t"⟩ (.plain "timer" "Timer") (es ++ [.unmount])
  have hf : (s₀.tickers .initial es).fates = [.finished, .live] := by decide +kernel
  refine ⟨hf, live.mp ?_, fun later => ?_⟩
  · exact List.mem_of_getElem? (i := 1) (hf ▸ rfl)
  · rw [(unmounted <| List.mem_concat_self).right later]
    decide +kernel

end Scene

end NodeEditor
