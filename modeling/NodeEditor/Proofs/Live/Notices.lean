import NodeEditor.Proofs.Live.Scraping
import NodeEditor.Proofs.Live.Unmounted

namespace NodeEditor

namespace Wait

-- What the user is told when the answer is a failure. To stop listening never fails for the user.
def complaint? : Wait → Option String
  | secret ..      => some "Could not load the selected credential"
  | status _       => some "Could not load timer status"
  | command told   => some s!"Could not {told.name} the timer"
  | startListening => some "Could not start listening for webhook calls"
  | stopListening  => none
  | scrape _       => some "Scrape failed"

-- What the user is told of an answer. Of those that are no failures only a scrape's is mentioned.
def remark? : (w : Wait) → Except TransportError w.Reply → Option (Level × String)
  | w, .error _             => w.complaint?.map (Level.error, ·)
  | .scrape _, .ok response =>
    some (.success, s!"Scraped {(response : ScrapeResponse).documents.length} documents")
  | .secret .., .ok _       => none
  | .status _, .ok _        => none
  | .command _, .ok _       => none
  | .startListening, .ok _  => none
  | .stopListening, .ok _   => none

end Wait

namespace Controller

variable {c c' : Controller} {w : Wait}

-- What the user is told of a scrape for which there is no address.
def noInput (c : Controller) : Notification :=
  c.notice .warning "Add a URL or connect a node that provides URLs"

section Stretches

theorem scrape_posted (c : Controller) (s : Surroundings) : (c.scrape s).posted =
    if (c.scrape s).progress.scraped? = some .noInput then [c.noInput] else [] := by
  simp only [scrape]
  split
  case isTrue  => rfl
  case isFalse =>
  split
  case isTrue  => rfl
  case isFalse =>
  split
  case isTrue  => rfl
  case isFalse => rfl

-- An errand starts with a message only if it is a scrape that ends right there.
theorem start_posted (e : Errand) (c : Controller) (s : Surroundings) : (e.start c s).posted =
    if (e.start c s).progress.scraped? = some .noInput then [c.noInput] else [] := by
  by_cases he : e = .scrape
  case pos => exact he ▸ c.scrape_posted s
  case neg =>
    rw [if_neg (by simp [(start_apart he c s).scraped])]
    cases e
    case scrape => contradiction
    case selectCredential =>
      simp only [Errand.start, selectCredential]
      split <;> rfl
    case startListening =>
      simp only [Errand.start, startListening]
      repeat' split
      all_goals rfl
    all_goals rfl

theorem applySecret_posted (c : Controller) (s : Surroundings) (property : String)
    (credential : CredentialId) (secret : Dict Json) :
    (c.applySecret s property credential secret).posted = [] := by
  simp only [applySecret]
  repeat' split
  all_goals rfl

-- What arrives after an unmount ends its errand and is passed over.
theorem resume_of_not_mounted (hm : c.mounted = false) (s : Surroundings) (w : Wait)
    (reply : Except TransportError w.Reply) : ∃ x, c.resume s w reply = c.ends x := by
  cases w
  all_goals
    simp only [resume, resumeSecret, resumeStatus, resumeCommand, resumeStartListening,
      resumeStopListening, resumeScrape, hm]
    exact ⟨_, rfl⟩

-- An answer is followed by its remark, however much the answer changes.
theorem resume_posted (hm : c.mounted) (s : Surroundings) (w : Wait)
    (reply : Except TransportError w.Reply) : (c.resume s w reply).posted =
    ((w.remark? reply).map fun r => c.notice r.1 r.2).toList := by
  cases w <;> cases reply
  case secret.ok property credential secret =>
    simp only [resume, resumeSecret, hm]
    exact c.applySecret_posted s property credential secret
  all_goals
    simp only [resume, resumeSecret, resumeStatus, resumeCommand, resumeStartListening,
      resumeScrape, hm]
    rfl

end Stretches

-- A controller in which no more is another than what a failed answer may change.
inductive Fails (c : Controller) : Wait → Controller → Prop
  | secret {property credential} : c.Fails (.secret property credential) c
  | status {afterCommand} (error : Option String) :
    c.Fails (.status afterCommand) (c.withTimer fun t => { t with error := error })
  | command {told} (error : Option String) :
    c.Fails (.command told) (c.withTimer fun t => { t with error := error })
  | startListening (listening : Bool) (error : Option String) : c.Fails .startListening
    (c.withWebhook fun w => { w with listening := listening, error := error })
  | stopListening (listening : Bool) : c.Fails .stopListening
    (c.withWebhook fun w => { w with listening := listening })
  | scrape {request} (scraping : Bool) (error : Option String) : c.Fails (.scrape request)
    (c.withScrape fun v => { v with scraping := scraping, error := error })

theorem Fails.refl (c : Controller) (w : Wait) : c.Fails w c := by
  cases w
  case secret         => exact .secret
  case status         => exact .status c.live.timer.error
  case command        => exact .command c.live.timer.error
  case startListening => exact .startListening c.live.webhook.listening c.live.webhook.error
  case stopListening  => exact .stopListening c.live.webhook.listening
  case scrape         => exact .scrape c.live.scrape.scraping c.live.scrape.error

-- A failure ends the errand, and of the controller it changes its own part.
theorem resume_error (c : Controller) (s : Surroundings) (w : Wait) (error : TransportError) :
    ∃ x, (c.resume s w (.error error)).progress = .ended x ∧
      c.Fails w (c.resume s w (.error error)).controller := by
  cases hm : c.mounted
  case false =>
    have ⟨x, hx⟩ := resume_of_not_mounted hm s w (.error error)
    exact ⟨x, hx ▸ rfl, hx ▸ .refl c w⟩
  case true  =>
    cases w
    all_goals
      simp only [resume, resumeSecret, resumeStatus, resumeCommand, resumeStartListening,
        resumeStopListening, resumeScrape, hm]
      refine ⟨_, rfl, ?_⟩
    case secret         => exact .secret
    case status         => exact .status _
    case command        => exact .command _
    case startListening => exact .startListening _ _
    case stopListening  => exact .stopListening _
    case scrape         => exact .scrape _ _

end Controller

namespace Scene

variable {s : Scene} {e : Event} {es : List Event} {n : Nat} {w : Wait} {x : ScrapeEnding}
  {m : Notification} {ms : List Notification}

-- That an event has to be reported, and how: each failed answer while the controller is mounted, if
-- it is not to a stop of listening, each answer to a scrape, and each scrape without an address.
inductive Reports (s : Scene) : Event → Notification → Prop
  | failed {n : Nat} {w : Wait} {error : TransportError} {text : String} :
    s.controller.mounted → (n, w) ∈ s.waiting → w.complaint? = some text →
    s.Reports (.answer n w (.error error)) (s.controller.notice .error text)
  | scraped {n : Nat} {request : ScrapeRequest} {response : ScrapeResponse} :
    s.controller.mounted → (n, .scrape request) ∈ s.waiting →
    s.Reports (.answer n (.scrape request) (.ok response))
      (s.controller.notice .success s!"Scraped {response.documents.length} documents")
  | noInput {e : Event} {n : Nat} : s.Ends e n .noInput → s.Reports e s.controller.noInput

-- The messages of a run that has to be reported: one for each of its reports, in their order.
inductive Tells : Scene → List Event → List Notification → Prop
  | nil {s : Scene} : s.Tells [] []
  | tell {s : Scene} {e : Event} {m : Notification} {es : List Event} {ms : List Notification} :
    s.Reports e m → (s.after e).Tells es ms → s.Tells (e :: es) (m :: ms)
  | skip {s : Scene} {e : Event} {es : List Event} {ms : List Notification} :
    (∀ m, ¬s.Reports e m) → (s.after e).Tells es ms → s.Tells (e :: es) ms

-- What is never reported: a stop of listening, a scrape that finds another one running, and all that
-- happens after the unmount.
inductive Quiet (s : Scene) : Event → Prop
  | stop : s.Quiet (.start .stopListening)
  | stopped {n : Nat} {reply : Except TransportError Unit} : s.Quiet (.answer n .stopListening reply)
  | busy {e : Event} {n : Nat} : s.Ends e n .busy → s.Quiet e
  | unmounted {e : Event} : ¬s.controller.mounted → s.Quiet e

section Events

theorem ends_start_iff (o : s.Orderly) {e : Errand} : s.Ends (.start e) n x ↔
    n = s.errands.length ∧
      (e.start s.controller s.world.surroundings).progress.scraped? = some x := by
  have hm : (n, .scraped x) ∈ (s.after (.start e)).ended ↔ (n, .scraped x) ∈ s.ended ∨ _ :=
    mem_scraped_absorb
  rw [Option.map_eq_some_iff] at hm
  constructor
  case mp  =>
    intro h
    have ⟨_, hx, he⟩ := (hm.mp h.left).resolve_left h.right
    cases he
    exact ⟨rfl, hx⟩
  case mpr =>
    intro ⟨hn, hx⟩
    cases hn
    exact ⟨hm.mpr <| .inr ⟨x, hx, rfl⟩, o.not_ended (Nat.le_refl _) _⟩

-- Only with a call does a scrape come to one of these endings, and only while mounted.
theorem Scrapes.start {v : ScrapeView} {q : List (Nat × ScrapeRequest)}
    (h : s.Scrapes e v q (some (n, x))) (hx : x = .busy ∨ x = .noInput) :
    e = .start .scrape ∧ s.controller.mounted := by
  cases h with
  | busy hm | noInput hm              => exact ⟨rfl, hm⟩
  | off | late | completed | failed => cases hx <;> contradiction

theorem Ends.start (h : s.Ends e n x) (o : s.Orderly) (hx : x = .busy ∨ x = .noInput) :
    e = .start .scrape ∧ s.controller.mounted := by
  have ⟨y, b⟩ := after_bears o e
  exact (b.eq_of_ends h ▸ b.scrapes).start hx

theorem posted_start (s : Scene) (e : Errand) : (s.after (.start e)).posted =
    s.posted ++ (e.start s.controller s.world.surroundings).posted :=
  rfl

theorem posted_answer (h : (n, w) ∈ s.waiting) (reply : Except TransportError w.Reply) :
    (s.after (.answer n w reply)).posted =
      s.posted ++ (s.controller.resume s.world.surroundings w reply).posted := by
  rw [after_answer h]
  rfl

-- What has to be reported is reported.
theorem Reports.posted (r : s.Reports e m) (o : s.Orderly) :
    (s.after e).posted = s.posted ++ [m] := by
  cases r with
  | failed hm hw ht =>
    rw [posted_answer hw, Controller.resume_posted hm, Wait.remark?, ht]
    rfl
  | scraped hm hw   =>
    rw [posted_answer hw, Controller.resume_posted hm]
    rfl
  | noInput he      =>
    cases (he.start o (.inr rfl)).left
    rw [posted_start, Controller.start_posted, if_pos ((ends_start_iff o).mp he).right]

-- The remark on an answer is its report.
theorem reports_answer (hm : s.controller.mounted) (hw : (n, w) ∈ s.waiting)
    {reply : Except TransportError w.Reply} {r : Level × String} (hr : w.remark? reply = some r) :
    s.Reports (.answer n w reply) (s.controller.notice r.1 r.2) := by
  cases reply with
  | error _ =>
    have ⟨text, ht, hr⟩ := Option.map_eq_some_iff.mp hr
    exact hr ▸ .failed hm hw ht
  | ok _    =>
    cases w <;> cases hr
    exact .scraped hm hw

-- And nothing else is.
theorem posted_of_not_reports (o : s.Orderly) (h : ∀ m, ¬s.Reports e m) :
    (s.after e).posted = s.posted := by
  by_cases he : e.onErrand
  case neg =>
    obtain ⟨_, _, hs⟩ := s.after_of_not_onErrand he
    rw [hs]
  case pos =>
  cases e <;> cases he
  case start e =>
    rw [posted_start, Controller.start_posted, if_neg, List.append_nil]
    exact fun hx => h _ <| .noInput <| (ends_start_iff o).mpr ⟨rfl, hx⟩
  case answer n w reply =>
    by_cases hw : (n, w) ∈ s.waiting
    case neg => rw [after_answer_of_not_mem hw]
    case pos =>
      rw [posted_answer hw]
      cases hm : s.controller.mounted
      case false =>
        have ⟨x, hx⟩ := Controller.resume_of_not_mounted hm s.world.surroundings w reply
        rw [hx]
        exact List.append_nil _
      case true  =>
        rw [Controller.resume_posted hm]
        cases hr : w.remark? reply with
        | none   => exact List.append_nil _
        | some r => exact absurd (reports_answer hm hw hr) <| h _

theorem Reports.node (r : s.Reports e m) : m.node = some s.controller.node := by
  cases r <;> rfl

theorem Quiet.not_reports (q : s.Quiet e) (o : s.Orderly) (m : Notification) :
    ¬s.Reports e m := by
  intro r
  cases q with
  | stop         =>
    cases r with
    | noInput h => cases (h.start o (.inr rfl)).left
  | stopped      =>
    cases r with
    | failed _ _ ht => cases ht
    | noInput h     => cases (h.start o (.inr rfl)).left
  | busy hb      =>
    cases (hb.start o (.inl rfl)).left
    cases r with
    | noInput h =>
      cases ((ends_start_iff o).mp hb).right.symm.trans ((ends_start_iff o).mp h).right
  | unmounted hm =>
    cases r with
    | failed h | scraped h => exact hm h
    | noInput h            => exact hm (h.start o (.inr rfl)).right

end Events

section Runs

theorem run_tells (o : s.Orderly) (es : List Event) :
    ∃ ms, s.Tells es ms ∧ (s.run es).posted = s.posted ++ ms := by
  induction es generalizing s with
  | nil         => exact ⟨[], .nil, (List.append_nil _).symm⟩
  | cons e _ ih =>
    have ⟨ms, ht, hp⟩ := ih <| o.after e
    rw [run_cons, hp]
    by_cases h : ∃ m, s.Reports e m
    case pos =>
      have ⟨m, r⟩ := h
      exact ⟨m :: ms, .tell r ht, by rw [r.posted o, List.append_assoc]; rfl⟩
    case neg =>
      have h := not_exists.mp h
      exact ⟨ms, .skip h ht, by rw [posted_of_not_reports o h]⟩

theorem Tells.node (t : s.Tells es ms) : ∀ m ∈ ms, m.node = some s.controller.node := by
  induction t with
  | nil         => exact nofun
  | tell r _ ih =>
    intro m hm
    cases hm with
    | head      => exact r.node
    | tail _ hm => exact after_node .. ▸ ih m hm
  | skip _ _ ih =>
    intro m hm
    exact after_node .. ▸ ih m hm

-- A failed answer ends its errand, and what else it changes is its own part of the controller.
theorem after_error (hw : (n, w) ∈ s.waiting) (error : TransportError) :
    ∃ c x ms, s.controller.Fails w c ∧ s.after (.answer n w (.error error)) = { s with
      controller := c
      waiting    := s.waiting.filter (·.1 ≠ n)
      ended      := (n, x) :: s.ended
      posted     := s.posted ++ ms } := by
  have ⟨x, hx, hf⟩ := s.controller.resume_error s.world.surroundings w error
  refine ⟨_, x, (s.controller.resume s.world.surroundings w (.error error)).posted, hf, ?_⟩
  rw [after_answer hw, absorb, hx]
  rfl

end Runs

-- The messages of a controller are the reports of its run, one for each and in their order, and all
-- for its node. A failed answer changes its own part of the controller, and of the rest nothing but
-- that the errand is over.
theorem posted_once (w : World) (node : NodeId) (type : NodeType) (es : List Event) :
    let s₀ := w.mount node type
    let s := s₀.run es
    s₀.Tells es s.posted ∧
    (∀ m ∈ s.posted, m.node = some node) ∧
    (∀ e m, s.Reports e m → (s.after e).posted = s.posted ++ [m]) ∧
    (∀ e, s.Quiet e → (s.after e).posted = s.posted) ∧
    (.unmount ∈ es → ∀ e, s.Quiet e) ∧
    ∀ n w error, (n, w) ∈ s.waiting →
      ∃ c x ms, s.controller.Fails w c ∧ s.after (.answer n w (.error error)) = { s with
        controller := c
        waiting    := s.waiting.filter (·.1 ≠ n)
        ended      := (n, x) :: s.ended
        posted     := s.posted ++ ms } := by
  intro s₀ s
  have o₀ : s₀.Orderly := .mount w node type
  have o : s.Orderly := o₀.run es
  have ⟨ms, ht, hp⟩ := run_tells o₀ es
  have hp : s.posted = ms := hp
  refine ⟨hp ▸ ht, fun m hm => ht.node m <| hp ▸ hm, fun e m r => r.posted o, fun e q => ?_,
    fun hu e => .unmounted <| not_mounted_of_unmount w node type hu, fun n w error hw => ?_⟩
  · exact posted_of_not_reports o <| q.not_reports o
  · exact after_error hw error

-- Three calls overlap. The command is accepted, and fails in its second half; the stop of listening
-- fails as well, and nobody is told.
theorem posted_once_overlap :
    let s₀ := World.quiet.mount ⟨"t"⟩ (.plain "timer" "Timer")
    let es : List Event := [
      .start (.commandTimer .start), .start .startListening, .start .stopListening, .start .scrape,
      .answer 1 .startListening (.error (.timeout "")), .answer 0 (.command .start) (.ok ()),
      .answer 2 .stopListening (.error (.timeout "")),
      .answer 0 (.status true) (.error (.timeout ""))]
    s₀.Tells es [
      { level := .warning, message := "Add a URL or connect a node that provides URLs",
        node := some ⟨"t"⟩ },
      { level := .error, message := "Could not start listening for webhook calls",
        node := some ⟨"t"⟩ },
      { level := .error, message := "Could not load timer status", node := some ⟨"t"⟩ }] := by
  intro s₀ es
  exact (posted_once World.quiet ⟨"t"⟩ (.plain "timer" "Timer") es).left

end Scene

end NodeEditor
