import NodeEditor.Live.Actions

namespace NodeEditor

-- What a controller goes to the backend for.
inductive Errand where
  | selectCredential (property : String) (credential : CredentialId)
  | refreshTimer
  | commandTimer (command : TimerCommand)
  | startListening
  | stopListening
  | scrape
deriving DecidableEq, Repr

-- The parts of a controller that change independently of each other.
inductive Part where
  | working
  | timing
  | webhook
  | scrape
deriving DecidableEq, Repr

namespace Errand

-- The first stretch of an errand.
def start (e : Errand) (c : Controller) (s : Surroundings) : Stretch :=
  match e with
  | selectCredential property credential => c.selectCredential s property credential
  | refreshTimer                         => c.refreshTimer
  | commandTimer command                 => c.commandTimer command
  | startListening                       => c.startListening
  | stopListening                        => c.stopListening
  | scrape                               => c.scrape s

def part : Errand → Part
  | selectCredential ..            => .working
  | refreshTimer | commandTimer _  => .timing
  | startListening | stopListening => .webhook
  | scrape                         => .scrape

-- The waits that an errand can come to. Only a command comes to a second one.
inductive Awaits : Errand → Wait → Prop
  | secret {property credential} :
    Awaits (.selectCredential property credential) (.secret property credential)
  | status : Awaits .refreshTimer (.status false)
  | command {command} : Awaits (.commandTimer command) (.command command)
  | statusAfter {command} : Awaits (.commandTimer command) (.status true)
  | startListening : Awaits .startListening .startListening
  | stopListening : Awaits .stopListening .stopListening
  | scrape {request} : Awaits .scrape (.scrape request)

end Errand

def Wait.part : Wait → Part
  | secret ..                      => .working
  | status _ | command _           => .timing
  | startListening | stopListening => .webhook
  | scrape _                       => .scrape

namespace Controller

variable {c c' : Controller} {s : Surroundings} {e : Errand} {w w' : Wait} {p : Part}
  {reply : Except TransportError w.Reply} {node : NodeId} {type : NodeType}

-- One tick of the ticker, if there is one that has not finished.
def tickAt (c : Controller) (time : Nat) : Controller :=
  match c.ticker with
  | none   => c
  | some t =>
    let (t, c) := Ticker.tick tick (t, c) time
    { c with ticker := some t }

-- The ticks that are due at a time of the clock.
def dueTicks (c : Controller) (clock : Nat) : List Nat :=
  (c.ticker.map (·.due clock)).getD []

-- A controller in which at most one part is another.
inductive Changes (c : Controller) : Part → Controller → Prop
  | working {data} : Changes c .working { c with working := data }
  | timing {view countdown ticker} : Changes c .timing
    { c with live := { c.live with timer := view }, countdown := countdown, ticker := ticker }
  | webhook {view} : Changes c .webhook { c with live := { c.live with webhook := view } }
  | scrape {view} : Changes c .scrape { c with live := { c.live with scrape := view } }

namespace Changes

theorem refl : c.Changes p c := by
  cases p
  case working => exact .working
  case timing  => exact .timing
  case webhook => exact .webhook
  case scrape  => exact .scrape

theorem node_eq (h : c.Changes p c') : c'.node = c.node := by
  cases h <;> rfl

theorem type_eq (h : c.Changes p c') : c'.type = c.type := by
  cases h <;> rfl

theorem mounted_eq (h : c.Changes p c') : c'.mounted = c.mounted := by
  cases h <;> rfl

theorem timer_eq (h : c.Changes p c') (hp : p ≠ .timing) : c'.live.timer = c.live.timer := by
  cases h <;> trivial

theorem countdown_eq (h : c.Changes p c') (hp : p ≠ .timing) : c'.countdown = c.countdown := by
  cases h <;> trivial

theorem ticker_eq (h : c.Changes p c') (hp : p ≠ .timing) : c'.ticker = c.ticker := by
  cases h <;> trivial

theorem webhook_eq (h : c.Changes p c') (hp : p ≠ .webhook) :
    c'.live.webhook = c.live.webhook := by
  cases h <;> trivial

theorem scrape_eq (h : c.Changes p c') (hp : p ≠ .scrape) : c'.live.scrape = c.live.scrape := by
  cases h <;> trivial

end Changes

section Configuring

variable {g : Graph} {forms : Engine} {store : Store} {property : String} {value : Json}

-- What each of these does when it succeeds.

theorem begin_eq_ok (h : c.begin g forms = .ok c') : ∃ data values,
    c.mounted ∧ c.storedData? g = some data ∧
    c' = { c with working := some { data with values := values } } := by
  simp only [begin] at h
  split at h
  case isTrue     => contradiction
  case isFalse hm =>
    split at h
    case h_1         => contradiction
    case h_2 data hd =>
      cases h
      exact ⟨data, _, by simpa using hm, hd, rfl⟩

theorem edit_eq_ok {r : Controller × List String} (h : c.edit forms property value = .ok r) :
    ∃ data values, c.working = some data ∧
      r.1 = { c with working := some { data with values := values } } := by
  simp only [edit, working!, bind, Except.bind] at h
  cases hw : c.working with
  | none      => simp [hw] at h
  | some data =>
    simp only [hw] at h
    split at h
    case h_1 => cases h; exact ⟨data, _, rfl, rfl⟩
    case h_2 => contradiction

theorem save_eq_ok {r : Controller × Store} (h : c.save store = .ok r) : ∃ data,
    c.working = some data ∧ store.replaceData c.node data = (.ok (), r.2) ∧
    r.1 = { c with working := none } := by
  simp only [save, working!, bind, Except.bind] at h
  cases hw : c.working with
  | none      => simp [hw] at h
  | some data =>
    simp only [hw] at h
    split at h
    case h_1 hs => cases h; exact ⟨data, rfl, hs, rfl⟩
    case h_2    => contradiction

theorem begin_ok (h : c.begin g forms = .ok c') : c.mounted ∧ c.Changes .working c' := by
  have ⟨_, _, hm, _, hc⟩ := begin_eq_ok h
  exact ⟨hm, hc ▸ .working⟩

theorem edit_ok {r : Controller × List String} (h : c.edit forms property value = .ok r) :
    c.isConfiguring ∧ c.Changes .working r.1 := by
  have ⟨_, _, hw, hc⟩ := edit_eq_ok h
  exact ⟨by simp [isConfiguring, hw], hc ▸ .working⟩

theorem save_ok {r : Controller × Store} (h : c.save store = .ok r) :
    c.isConfiguring ∧ c.Changes .working r.1 := by
  have ⟨_, hw, _, hc⟩ := save_eq_ok h
  exact ⟨by simp [isConfiguring, hw], hc ▸ .working⟩

end Configuring

section Stretches

theorem selectCredential_changes (c : Controller) (s : Surroundings) (property : String)
    (credential : CredentialId) :
    c.Changes .working (c.selectCredential s property credential).controller := by
  simp only [selectCredential]
  split
  case h_1   => exact .working
  case h_2 h => exact (edit_ok h).right

theorem applyTimerStatus_changes (c : Controller) (status : TimerStatus) (now : Time.Moment)
    (clock : Nat) : c.Changes .timing (c.applyTimerStatus status now clock) := by
  simp only [applyTimerStatus, ensureTicker]
  repeat' split
  all_goals exact .timing

-- A stretch changes what its errand is about and nothing else.
theorem start_changes (e : Errand) (c : Controller) (s : Surroundings) :
    c.Changes e.part (e.start c s).controller := by
  cases e
  case selectCredential property credential => exact c.selectCredential_changes s _ _
  case refreshTimer         => exact .timing
  case commandTimer command => exact .timing
  case startListening =>
    simp only [Errand.start, startListening]
    repeat' split
    all_goals exact .webhook
  case stopListening => exact .webhook
  case scrape =>
    simp only [Errand.start, scrape]
    repeat' split
    all_goals exact .scrape

theorem resume_changes (c : Controller) (s : Surroundings) (w : Wait)
    (reply : Except TransportError w.Reply) : c.Changes w.part (c.resume s w reply).controller := by
  cases w
  case secret property credential =>
    simp only [resume, resumeSecret, applySecret]
    repeat' split
    all_goals exact .working
  case status after =>
    simp only [resume, resumeStatus]
    repeat' split
    case h_1 => exact c.applyTimerStatus_changes _ _ _
    all_goals exact .timing
  case command command =>
    simp only [resume, resumeCommand]
    repeat' split
    all_goals exact .timing
  case startListening =>
    simp only [resume, resumeStartListening]
    repeat' split
    all_goals exact .webhook
  case stopListening =>
    simp only [resume, resumeStopListening]
    split
    all_goals exact .webhook
  case scrape request =>
    simp only [resume, resumeScrape]
    repeat' split
    all_goals exact .scrape

theorem start_awaits (h : (e.start c s).progress = .waiting w) : e.Awaits w := by
  cases e
  case selectCredential property credential =>
    simp only [Errand.start, selectCredential] at h
    split at h <;> cases h
    exact .secret
  case refreshTimer         => cases h; exact .status
  case commandTimer command => cases h; exact .command
  case startListening =>
    simp only [Errand.start, startListening] at h
    repeat' split at h
    all_goals cases h
    exact .startListening
  case stopListening => cases h; exact .stopListening
  case scrape =>
    simp only [Errand.start, scrape] at h
    repeat' split at h
    all_goals cases h
    exact .scrape

-- What is waited for again is the status after a command.
theorem resume_waiting (h : (c.resume s w reply).progress = .waiting w') :
    ∃ command, w = .command command ∧ w' = .status true := by
  cases w
  case command command =>
    simp only [resume, resumeCommand] at h
    repeat' split at h
    all_goals cases h
    exact ⟨command, rfl, rfl⟩
  case secret property credential =>
    simp only [resume, resumeSecret, applySecret] at h
    repeat' split at h
    all_goals cases h
  case status after =>
    simp only [resume, resumeStatus] at h
    repeat' split at h
    all_goals cases h
  case startListening =>
    simp only [resume, resumeStartListening] at h
    repeat' split at h
    all_goals cases h
  case stopListening => cases h
  case scrape request =>
    simp only [resume, resumeScrape] at h
    repeat' split at h
    all_goals cases h

theorem resume_awaits (ha : e.Awaits w) (h : (c.resume s w reply).progress = .waiting w') :
    e.Awaits w' := by
  obtain ⟨_, rfl, rfl⟩ := resume_waiting h
  cases ha
  exact .statusAfter

end Stretches

theorem recordEvent_changes (c : Controller) (receivedAt : Time.Moment) (payload : Json) :
    c.Changes .webhook (c.recordEvent receivedAt payload).2 := by
  simp only [recordEvent]
  split
  all_goals exact .webhook

section Ticks

theorem tickAt_changes (c : Controller) (time : Nat) : c.Changes .timing (c.tickAt time) := by
  simp only [tickAt, Ticker.tick, tick]
  repeat' split
  all_goals exact .timing

-- To tick does not depend on the ticker that is kept, and keeps it.
theorem tickAt_ticker (c : Controller) (t : Ticker) (time : Nat) :
    ({ c with ticker := some t }).tickAt time =
      { (Ticker.tick tick (t, c) time).2 with
        ticker := some (Ticker.tick tick (t, c) time).1 } := by
  simp only [tickAt, Ticker.tick, tick]
  repeat' split
  all_goals rfl

theorem foldl_tickAt (times : List Nat) (c : Controller) (t : Ticker) :
    times.foldl tickAt { c with ticker := some t } =
      { (times.foldl (Ticker.tick tick) (t, c)).2 with
        ticker := some (times.foldl (Ticker.tick tick) (t, c)).1 } := by
  induction times generalizing c t with
  | nil             => rfl
  | cons time _ ih  => rw [List.foldl_cons, List.foldl_cons, tickAt_ticker, ih]

-- What the clock makes of a controller is what the ticks make of it that are due.
theorem elapse_eq_foldl_tickAt (c : Controller) (clock : Nat) :
    c.elapse clock = (c.dueTicks clock).foldl tickAt c := by
  cases h : c.ticker with
  | none   => simp [elapse, dueTicks, h]
  | some t =>
    have hc : c = { c with ticker := some t } := by rw [← h]
    have hf := foldl_tickAt (t.due clock) c t
    rw [← hc] at hf
    simp only [elapse, dueTicks, h, Ticker.run, Option.map_some, Option.getD_some, hf]

end Ticks

end Controller

end NodeEditor
