import NodeEditor.Proofs.Live.Scene

namespace NodeEditor

-- What is asked of the backend with a wait for a scrape.
def Wait.request? : Wait → Option ScrapeRequest
  | scrape request => some request
  | _              => none

theorem Wait.part_ne {w : Wait} (h : w.request? = none) : w.part ≠ .scrape := by
  cases w
  case scrape => contradiction
  all_goals nofun

theorem Errand.part_ne {e : Errand} (h : e ≠ .scrape) : e.part ≠ .scrape := by
  cases e
  case scrape => contradiction
  all_goals nofun

namespace Progress

def request? : Progress → Option ScrapeRequest
  | waiting w => w.request?
  | ended _   => none

def scraped? : Progress → Option ScrapeEnding
  | ended (.scraped x) => some x
  | _                  => none

end Progress

namespace Controller

variable {e : Errand} {w : Wait}

-- What is not about scraping asks for none and ends none.
structure Apart (p : Progress) : Prop where
  request : p.request? = none
  scraped : p.scraped? = none

theorem start_apart (h : e ≠ .scrape) (c : Controller) (s : Surroundings) :
    Apart (e.start c s).progress := by
  cases e
  case scrape => contradiction
  case selectCredential =>
    simp only [Errand.start, selectCredential]
    split
    all_goals exact ⟨rfl, rfl⟩
  case startListening =>
    simp only [Errand.start, startListening]
    repeat' split
    all_goals exact ⟨rfl, rfl⟩
  all_goals exact ⟨rfl, rfl⟩

theorem resume_apart (h : w.request? = none) (c : Controller) (s : Surroundings)
    (reply : Except TransportError w.Reply) : Apart (c.resume s w reply).progress := by
  cases w
  case scrape => contradiction
  case secret =>
    simp only [resume, resumeSecret, applySecret]
    repeat' split
    all_goals exact ⟨rfl, rfl⟩
  case status =>
    simp only [resume, resumeStatus, refreshEnding]
    repeat' split
    all_goals exact ⟨rfl, rfl⟩
  case command =>
    simp only [resume, resumeCommand]
    repeat' split
    all_goals exact ⟨rfl, rfl⟩
  case startListening =>
    simp only [resume, resumeStartListening]
    repeat' split
    all_goals exact ⟨rfl, rfl⟩
  case stopListening => exact ⟨rfl, rfl⟩

end Controller

namespace Scene

variable {s : Scene} {e : Event} {n m : Nat} {w : Wait} {x : ScrapeEnding}

def shown (s : Scene) : ScrapeView :=
  s.controller.live.scrape

-- The requests to scrape that the backend has still to answer.
def inFlight (s : Scene) : List (Nat × ScrapeRequest) :=
  s.waiting.filterMap fun (n, w) => w.request?.map (n, ·)

theorem mem_inFlight_iff {request : ScrapeRequest} :
    (n, request) ∈ s.inFlight ↔ (n, .scrape request) ∈ s.waiting := by
  simp only [inFlight, List.mem_filterMap, Option.map_eq_some_iff, Prod.exists, Prod.mk.injEq]
  constructor
  case mp  =>
    rintro ⟨m, w, hw, _, hr, rfl, rfl⟩
    cases w <;> cases hr
    exact hw
  case mpr => exact fun hw => ⟨n, _, hw, request, rfl, rfl, rfl⟩

theorem inFlight_absorb (s : Scene) (n : Nat) (t : Stretch) :
    (s.absorb n t).inFlight = (t.progress.request?.map (n, ·)).toList ++ s.inFlight := by
  cases ht : t.progress with
  | ended _   => simp [inFlight, absorb, ht, Progress.request?]
  | waiting w => cases hw : w.request? <;> simp [inFlight, absorb, ht, Progress.request?, hw]

theorem shown_absorb (s : Scene) (n : Nat) (t : Stretch) :
    (s.absorb n t).shown = t.controller.live.scrape :=
  rfl

theorem inFlight_wake (s : Scene) (n : Nat) :
    (s.wake n).inFlight = s.inFlight.filter (·.1 ≠ n) := by
  simp only [inFlight, wake]
  induction s.waiting with
  | nil            => rfl
  | cons p rest ih =>
    obtain ⟨m, w⟩ := p
    cases hw : w.request? <;> by_cases hm : m = n <;> simp_all

theorem mem_scraped_absorb {t : Stretch} : (m, .scraped x) ∈ (s.absorb n t).ended ↔
    (m, .scraped x) ∈ s.ended ∨ t.progress.scraped?.map (n, ·) = some (m, x) := by
  rw [mem_ended_absorb]
  refine or_congr_right ?_
  cases ht : t.progress with
  | waiting w => simp [Progress.scraped?]
  | ended y   => cases y <;> simp [Progress.scraped?, eq_comm, and_comm]

theorem mem_scraped_absorb_of_apart {t : Stretch} (ha : Controller.Apart t.progress) :
    (m, .scraped x) ∈ (s.absorb n t).ended ↔ (m, .scraped x) ∈ s.ended := by
  simp [mem_scraped_absorb, ha.scraped]

-- What is found is what scrapes have brought so far, and stays when another one fails.
def found (s : Scene) : List ScrapedDocument × Option ScrapeProgress :=
  (s.shown.documents, s.shown.progress)

-- What an event does to a scrape: what is shown and what is in flight after it, and which call has
-- come to what ending, if any.
inductive Scrapes (s : Scene) :
    Event → ScrapeView → List (Nat × ScrapeRequest) → Option (Nat × ScrapeEnding) → Prop
  | apart {e : Event} : e.part? ≠ some .scrape → e ≠ .unmount → s.Scrapes e s.shown s.inFlight none
  | unmount : s.Scrapes .unmount s.controller.unmount.live.scrape s.inFlight none
  | off : ¬s.controller.mounted →
    s.Scrapes (.start .scrape) s.shown s.inFlight (some (s.errands.length, .unmounted))
  | busy : s.controller.mounted → s.shown.scraping →
    s.Scrapes (.start .scrape) s.shown s.inFlight (some (s.errands.length, .busy))
  | noInput : s.controller.mounted → ¬s.shown.scraping →
    s.Scrapes (.start .scrape) { s.shown with error := none } s.inFlight
      (some (s.errands.length, .noInput))
  | request {request : ScrapeRequest} : s.controller.mounted → ¬s.shown.scraping →
    s.Scrapes (.start .scrape) { s.shown with scraping := true, error := none }
      ((s.errands.length, request) :: s.inFlight) none
  | stale {n : Nat} {request : ScrapeRequest} {reply : Except TransportError ScrapeResponse} :
    (n, request) ∉ s.inFlight →
    s.Scrapes (.answer n (.scrape request) reply) s.shown s.inFlight none
  | late {n : Nat} {request : ScrapeRequest} {reply : Except TransportError ScrapeResponse} :
    (n, request) ∈ s.inFlight → ¬s.controller.mounted →
    s.Scrapes (.answer n (.scrape request) reply) s.shown (s.inFlight.filter (·.1 ≠ n))
      (some (n, .unmounted))
  | completed {n : Nat} {request : ScrapeRequest} {response : ScrapeResponse} :
    (n, request) ∈ s.inFlight → s.controller.mounted →
    s.Scrapes (.answer n (.scrape request) (.ok response))
      { s.shown with
        scraping  := false
        documents := response.documents
        progress  := some response.progress }
      (s.inFlight.filter (·.1 ≠ n)) (some (n, .completed response.documents.length))
  | failed {n : Nat} {request : ScrapeRequest} {error : TransportError} {text : String} :
    (n, request) ∈ s.inFlight → s.controller.mounted →
    s.Scrapes (.answer n (.scrape request) (.error error))
      { s.shown with scraping := false, error := some text }
      (s.inFlight.filter (·.1 ≠ n)) (some (n, .failed))

-- An event that does this to a scrape, and with which just this ending comes on record.
structure Bears (s : Scene) (e : Event) (x : Option (Nat × ScrapeEnding)) : Prop where
  scrapes : s.Scrapes e (s.after e).shown (s.after e).inFlight x
  ended   : ∀ m y, (m, .scraped y) ∈ (s.after e).ended ↔
    (m, .scraped y) ∈ s.ended ∨ x = some (m, y)

-- An event that has to do with another part of the controller.
theorem Bears.apart {p : Part} (hp : e.part? = some p) (hs : p ≠ .scrape)
    (hi : (s.after e).inFlight = s.inFlight)
    (he : ∀ m y, (m, .scraped y) ∈ (s.after e).ended ↔ (m, .scraped y) ∈ s.ended) :
    s.Bears e none where
  scrapes   := by
    have hv : (s.after e).shown = s.shown := (after_changes hp).scrape_eq hs
    rw [hv, hi]
    exact .apart (by simpa [hp] using hs) fun h => by simp [h, Event.part?] at hp
  ended m y := by simp [he]

theorem after_start_bears (s : Scene) : ∃ x, s.Bears (.start .scrape) x := by
  refine ⟨_, ?_, fun m y => mem_scraped_absorb⟩
  simp only [after, inFlight_absorb, shown_absorb, Errand.start, Controller.scrape]
  split
  case isTrue hm => exact .off (by simpa using hm)
  case isFalse hm =>
  have hm : s.controller.mounted := by simpa using hm
  split
  case isTrue hs => exact .busy hm hs
  case isFalse hs =>
  split
  case isTrue  => exact .noInput hm hs
  case isFalse => exact .request hm hs

theorem after_answer_bears (s : Scene) (n : Nat) (request : ScrapeRequest)
    (reply : Except TransportError ScrapeResponse) :
    ∃ x, s.Bears (.answer n (.scrape request) reply) x := by
  by_cases hw : (n, request) ∈ s.inFlight
  case neg =>
    have hs : s.after (.answer n (.scrape request) reply) = s :=
      after_answer_of_not_mem fun h => hw <| mem_inFlight_iff.mpr h
    refine ⟨none, ?_, by simp [hs]⟩
    rw [hs]
    exact .stale hw
  case pos =>
    have hs : s.after (.answer n (.scrape request) reply) = _ :=
      after_answer <| mem_inFlight_iff.mp hw
    refine ⟨_, ?_, fun m y => hs ▸ mem_scraped_absorb⟩
    simp only [hs, inFlight_absorb, inFlight_wake, shown_absorb, Controller.resume,
      Controller.resumeScrape]
    split
    case isTrue hm => exact .late hw (by simpa using hm)
    case isFalse hm =>
    have hm : s.controller.mounted := by simpa using hm
    cases reply with
    | ok _    => exact .completed hw hm
    | error _ => exact .failed hw hm

-- An answer to something else leaves what is in flight: no errand waits for two things.
theorem filter_inFlight (o : s.Orderly) (hw : (n, w) ∈ s.waiting) (h : w.request? = none) :
    s.inFlight.filter (·.1 ≠ n) = s.inFlight := by
  refine List.filter_eq_self.mpr fun ⟨m, request⟩ hm => decide_eq_true ?_
  rintro rfl
  have ⟨e, he, ha⟩ := o.awaits _ _ hw
  have ⟨e', he', ha'⟩ := o.awaits _ _ <| mem_inFlight_iff.mp hm
  cases he.symm.trans he'
  cases ha'
  cases ha
  contradiction

theorem after_bears (o : s.Orderly) (e : Event) : ∃ x, s.Bears e x := by
  by_cases he : e.onErrand
  case neg =>
    obtain ⟨_, _, h⟩ := s.after_of_not_onErrand he
    cases e
    case unmount        => exact ⟨none, .unmount, fun _ _ => (or_iff_left fun h => by cases h).symm⟩
    case start | answer => exact absurd rfl he
    all_goals exact ⟨none, .apart rfl nofun (by rw [h]; rfl) (by simp [h])⟩
  case pos =>
  cases e <;> cases he
  case start e =>
    by_cases hs : e = .scrape
    case pos => exact hs ▸ s.after_start_bears
    case neg =>
      have ha := Controller.start_apart hs s.controller s.world.surroundings
      refine ⟨none, .apart rfl (Errand.part_ne hs) ?_ fun _ _ => mem_scraped_absorb_of_apart ha⟩
      exact (inFlight_absorb ..).trans <| by rw [ha.request]; rfl
  case answer n w reply =>
    cases hr : w.request? with
    | some request =>
      cases w <;> cases hr
      exact s.after_answer_bears n request reply
    | none         =>
      have hp := Wait.part_ne hr
      by_cases hw : (n, w) ∈ s.waiting
      case pos =>
        have ha := Controller.resume_apart hr s.controller s.world.surroundings reply
        refine ⟨none, .apart rfl hp ?_ fun m y => ?_⟩
        · rw [after_answer hw, inFlight_absorb, ha.request, inFlight_wake, filter_inFlight o hw hr]
          rfl
        · rw [after_answer hw]
          exact mem_scraped_absorb_of_apart ha
      case neg =>
        have hs : s.after (.answer n w reply) = s := after_answer_of_not_mem hw
        exact ⟨none, .apart rfl hp (by rw [hs]) (by simp [hs])⟩

theorem after_mounted_iff :
    (s.after e).controller.mounted ↔ s.controller.mounted ∧ e ≠ .unmount := by
  cases hp : e.part? with
  | none   =>
    cases eq_unmount_of_part? hp
    simp [after, put, unmount_mounted]
  | some p =>
    have he : e ≠ .unmount := fun h => by simp [h, Event.part?] at hp
    simp [(after_changes hp).mounted_eq, he]

-- While the controller is mounted, the flag is up just as long as its one request is in flight.
structure Guarded (s : Scene) : Prop where
  single : s.inFlight.length ≤ 1
  guard  : s.controller.mounted → (s.shown.scraping ↔ s.inFlight ≠ [])
  idle   : ¬s.controller.mounted → ¬s.shown.scraping

namespace Guarded

variable {v : ScrapeView} {q : List (Nat × ScrapeRequest)} {y : Option (Nat × ScrapeEnding)}

theorem mount (w : World) (node : NodeId) (type : NodeType) : (w.mount node type).Guarded where
  single   := Nat.zero_le 1
  guard    := by simp [World.mount, Controller.mount, shown, inFlight, LiveState.initial]
  idle h _ := h rfl

-- The answer is to the one request.
theorem filter_inFlight (g : s.Guarded) {request : ScrapeRequest} (h : (n, request) ∈ s.inFlight) :
    s.inFlight.filter (·.1 ≠ n) = [] := by
  have ⟨r, hr⟩ := List.length_eq_one_iff.mp <|
    Nat.le_antisymm g.single <| List.length_pos_of_mem h
  rw [hr, List.mem_singleton] at h
  simp [hr, ← h]

theorem scrapes (g : s.Guarded) (h : s.Scrapes e v q y) : q.length ≤ 1 ∧
    (s.controller.mounted ∧ e ≠ .unmount → (v.scraping ↔ q ≠ [])) ∧
    (¬(s.controller.mounted ∧ e ≠ .unmount) → ¬v.scraping) := by
  cases h with
  | apart _ he => exact ⟨g.single, fun h => g.guard h.left, fun h => g.idle (h ⟨·, he⟩)⟩
  | unmount    =>
    refine ⟨g.single, fun h => absurd rfl h.right, fun _ => ?_⟩
    cases unmount_cases s.controller with
    | inl h => exact h.right.symm ▸ g.idle h.left
    | inr h =>
      rw [h.right]
      exact Bool.false_ne_true
  | off | busy | stale => exact ⟨g.single, fun h => g.guard h.left, fun h => g.idle (h ⟨·, nofun⟩)⟩
  | noInput hm hs      => exact ⟨g.single, fun h => g.guard h.left, fun _ => hs⟩
  | request hm hs      =>
    have hq : s.inFlight = [] := Classical.not_not.mp fun hq => hs <| (g.guard hm).mpr hq
    exact ⟨by simp [hq], fun _ => by simp, fun h => absurd ⟨hm, nofun⟩ h⟩
  | late hw hm         =>
    rw [g.filter_inFlight hw]
    exact ⟨Nat.zero_le 1, fun h => absurd h.left hm, fun _ => g.idle hm⟩
  | completed hw _ | failed hw _ =>
    rw [g.filter_inFlight hw]
    exact ⟨Nat.zero_le 1, by simp, by simp⟩

theorem after (g : s.Guarded) (o : s.Orderly) (e : Event) : (s.after e).Guarded := by
  have ⟨_, b⟩ := after_bears o e
  have ⟨single, guard, idle⟩ := g.scrapes b.scrapes
  rw [← after_mounted_iff] at guard idle
  exact ⟨single, guard, idle⟩

theorem run (g : s.Guarded) (o : s.Orderly) (es : List Event) : (s.run es).Guarded :=
  (run_invariant (p := fun s => s.Guarded ∧ s.Orderly)
    (fun _ e h => ⟨h.left.after h.right e, h.right.after e⟩) ⟨g, o⟩ es).left

-- A call ends with the flag down, if it is not one that finds the flag up.
theorem ends (g : s.Guarded) (h : s.Scrapes e v q (some (n, x))) (hb : x ≠ .busy) :
    ¬v.scraping := by
  cases h with
  | off hm | late _ hm           => exact g.idle hm
  | busy                         => contradiction
  | noInput _ hs                 => exact hs
  | completed hw _ | failed hw _ => exact Bool.false_ne_true

end Guarded

-- That a call to scrape comes to an ending with an event.
def Ends (s : Scene) (e : Event) (n : Nat) (x : ScrapeEnding) : Prop :=
  (n, .scraped x) ∈ (s.after e).ended ∧ (n, .scraped x) ∉ s.ended

-- What a call leaves behind that comes to an ending: what the answer brought if it is completed,
-- and else what there was before.
def Leaves (s : Scene) (e : Event) (n : Nat)
    (found : List ScrapedDocument × Option ScrapeProgress) : ScrapeEnding → Prop
  | .completed count => ∃ request response, e = .answer n (.scrape request) (.ok response) ∧
    count = response.documents.length ∧ found = (response.documents, some response.progress)
  | _ => found = s.found

section Endings

variable {v : ScrapeView} {q : List (Nat × ScrapeRequest)} {y : Option (Nat × ScrapeEnding)}

theorem Bears.eq_of_ends (b : s.Bears e y) (h : s.Ends e n x) : y = some (n, x) :=
  ((b.ended n x).mp h.left).resolve_left h.right

theorem Scrapes.not_ended (h : s.Scrapes e v q (some (n, x))) (o : s.Orderly) :
    (n, .scraped x) ∉ s.ended := by
  cases h with
  | off | busy | noInput               => exact o.not_ended (Nat.le_refl _) _
  | late hw | completed hw | failed hw => exact o.pending n _ (mem_inFlight_iff.mp hw) _

theorem Bears.ends (b : s.Bears e (some (n, x))) (o : s.Orderly) : s.Ends e n x :=
  ⟨(b.ended n x).mpr <| .inr rfl, b.scrapes.not_ended o⟩

theorem Scrapes.answered {request : ScrapeRequest} {reply : Except TransportError ScrapeResponse}
    (h : s.Scrapes (.answer n (.scrape request) reply) v q y) (hw : (n, request) ∈ s.inFlight) :
    ∃ x ≠ .busy, y = some (n, x) := by
  cases h with
  | apart hp _ => exact absurd rfl hp
  | stale hn   => exact absurd hw hn
  | late | completed | failed => exact ⟨_, by nofun, rfl⟩

theorem Scrapes.leaves (h : s.Scrapes e v q (some (n, x))) :
    s.Leaves e n (v.documents, v.progress) x := by
  cases h with
  | completed => exact ⟨_, _, rfl, rfl, rfl⟩
  | _         => rfl

theorem Scrapes.found_eq (h : s.Scrapes e v q none) : (v.documents, v.progress) = s.found ∨
    e = .unmount ∧ s.controller.mounted ∧ (v.documents, v.progress) = ([], none) := by
  cases h with
  | unmount =>
    rw [Controller.unmount]
    split
    case isTrue hm => exact .inr ⟨rfl, hm, rfl⟩
    case isFalse   => exact .inl rfl
  | _       => exact .inl rfl

theorem after_scrape_of_scraping (hm : s.controller.mounted) (hs : s.shown.scraping) :
    s.after (.start .scrape) = { s with
      errands := s.errands ++ [.scrape]
      ended   := (s.errands.length, .scraped .busy) :: s.ended } := by
  have hc : s.controller.scrape s.world.surroundings = s.controller.ends (.scraped .busy) := by
    rw [Controller.scrape, if_neg (by simp [hm])]
    exact if_pos hs
  simp [after, Errand.start, hc, absorb, enlist, Controller.ends]

end Endings

-- At most one scrape is in flight, and the flag is up just as long: a call that finds it up changes
-- nothing, any other ends with the flag down, and one that waits ends with its answer. What was
-- found is what the last completed call brought, until an unmount clears it.
theorem scrape_guarded (w : World) (node : NodeId) (type : NodeType) (es : List Event) :
    let s := (w.mount node type).run es
    s.inFlight.length ≤ 1 ∧
    (s.controller.mounted → (s.shown.scraping ↔ s.inFlight ≠ [])) ∧
    (s.shown.scraping → s.after (.start .scrape) = { s with
      errands := s.errands ++ [.scrape]
      ended   := (s.errands.length, .scraped .busy) :: s.ended }) ∧
    (∀ n request reply, (n, request) ∈ s.inFlight →
      ∃ x ≠ .busy, s.Ends (.answer n (.scrape request) reply) n x) ∧
    (∀ e n x, s.Ends e n x →
      (x ≠ .busy → ¬(s.after e).shown.scraping) ∧ s.Leaves e n (s.after e).found x) ∧
    ∀ e, (∀ n x, ¬s.Ends e n x) → (s.after e).found = s.found ∨
      e = .unmount ∧ s.controller.mounted ∧ (s.after e).found = ([], none) := by
  intro s
  have o : s.Orderly := (Orderly.mount w node type).run es
  have g : s.Guarded := (Guarded.mount w node type).run (.mount w node type) es
  refine ⟨g.single, g.guard, fun hs => ?_, fun n request reply hw => ?_, fun e n x hx => ?_,
    fun e hn => ?_⟩
  · exact after_scrape_of_scraping (Classical.not_not.mp fun hm => g.idle hm hs) hs
  · have ⟨_, b⟩ := after_bears o (.answer n (.scrape request) reply)
    obtain ⟨x, hx, rfl⟩ := b.scrapes.answered hw
    exact ⟨x, hx, b.ends o⟩
  · have ⟨y, b⟩ := after_bears o e
    cases b.eq_of_ends hx
    exact ⟨g.ends b.scrapes, b.scrapes.leaves⟩
  · have ⟨y, b⟩ := after_bears o e
    cases y with
    | none        => exact b.scrapes.found_eq
    | some ending => exact (hn _ _ <| b.ends o).elim

-- A node with a page to scrape.
def page : Node where
  id       := ⟨"t"⟩
  type     := "scraper"
  position := { x := 0, y := 0 }
  data     := { NodeData.empty with values := .ofList [("url", .str "https://example.com")] }

def pageScene : Scene :=
  let w := { World.quiet with store := .ofGraph (Graph.empty.push page) 0 }
  w.mount page.id (.plain page.type "Scraper")

def pageRequest : ScrapeRequest :=
  .ofNode pageScene.world.store.graph page.id .standard

-- The second call finds the first one in flight, whose answer is a failure.
theorem scrape_guarded_page :
    let s := pageScene.run [.start .scrape, .start .scrape]
    s.inFlight = [(0, pageRequest)] ∧ s.ended = [(1, .scraped .busy)] ∧
    ∃ x ≠ .busy, s.Ends (.answer 0 (.scrape pageRequest) (.error (.timeout ""))) 0 x := by
  intro s
  have hi : s.inFlight = [(0, pageRequest)] := rfl
  have ⟨_, _, _, answered, _⟩ := scrape_guarded pageScene.world page.id
    (.plain page.type "Scraper") [.start .scrape, .start .scrape]
  exact ⟨hi, rfl, answered 0 pageRequest _ <| hi ▸ .head _⟩

-- An unmount clears what was found, and no call comes to an ending with it.
theorem unmount_clears_found :
    let doc : ScrapedDocument := {
      url := "https://example.com", title := none, content := "", metadata := {} }
    let response : ScrapeResponse := { ScrapeResponse.empty with documents := [doc] }
    let s := pageScene.run [.start .scrape, .answer 0 (.scrape pageRequest) (.ok response)]
    s.ended = [(0, .scraped (.completed 1))] ∧ s.found.1 = [doc] ∧
    (s.after .unmount).found = ([], none) ∧ ∀ n x, ¬s.Ends .unmount n x := by
  intro doc response s
  exact ⟨rfl, rfl, rfl, fun n x h => h.right h.left⟩

end Scene

end NodeEditor
