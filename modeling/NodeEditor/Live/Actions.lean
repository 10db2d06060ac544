import NodeEditor.Live.Backend
import NodeEditor.Live.Controller
import NodeEditor.Live.Notification

/-!
Actions that need the backend. An action runs in stretches: a stretch changes the controller and
either ends the action or leaves a wait for the answer to a call, with which the next stretch starts.
Between two stretches anything may happen. A failure becomes a message and part of the controller's
state; what arrives after the controller was unmounted changes nothing.
-/

namespace NodeEditor

inductive ScrapeEnding where
  | completed (documents : Nat)
  | failed
  | busy
  | noInput
  | unmounted
deriving DecidableEq, Repr

inductive Wait where
  | secret (property : String) (credential : CredentialId)
  | status (afterCommand : Bool)
  | command (told : TimerCommand)
  | startListening
  | stopListening
  | scrape (request : ScrapeRequest)
deriving DecidableEq

namespace Wait

def call (node : NodeId) : Wait → Call
  | .secret _ credential => .credentialSecret credential
  | .status _ => .timerStatus node
  | .command told => .timerCommand node told
  | .startListening => .startListening node
  | .stopListening => .stopListening node
  | .scrape asked => .scrape node asked

def Reply : Wait → Type
  | .secret _ _ => Dict Json
  | .status _ => TimerStatus
  | .command _ => Unit
  | .startListening => Unit
  | .stopListening => Unit
  | .scrape _ => ScrapeResponse

def plainReply : (w : Wait) → w.Reply
  | .secret _ _ => ({} : Dict Json)
  | .status _ => TimerStatus.initial
  | .command _ => ()
  | .startListening => ()
  | .stopListening => ()
  | .scrape _ => ScrapeResponse.empty

-- Reads the body of an answer. Where an answer holds nothing, its body does not matter.
def readReply : (w : Wait) → Json → Except ShapeError w.Reply
  | .secret _ _ => Shape.dict
  | .status _ => TimerStatus.shape.read
  | .command _ => fun _ => .ok ()
  | .startListening => fun _ => .ok ()
  | .stopListening => fun _ => .ok ()
  | .scrape _ => ScrapeResponse.shape.read

end Wait

inductive Ending where
  | filled (properties : List String)
  | refused (error : SessionError)
  | accepted (yes : Bool)
  | settled
  | scraped (ending : ScrapeEnding)
deriving DecidableEq

inductive Progress where
  | ended (ending : Ending)
  | waiting (wait : Wait)

-- What a stretch does: the controller after it, the messages it posts, and where it leaves the
-- action.
structure Stretch where
  controller : Controller
  posted : List Notification
  progress : Progress

-- What a stretch sees around the controller: the graph, the forms, the defaults of scrapes, the
-- present moment and the time of the clock.
structure Surroundings where
  graph : Graph
  forms : Engine
  scrapeDefaults : ScrapeDefaults
  now : Time.Moment
  clock : Nat

namespace Controller

def notice (c : Controller) (level : Level) (message : String) : Notification :=
  { level := level, message := message, node := some c.node }

def ends (c : Controller) (e : Ending) : Stretch :=
  { controller := c, posted := [], progress := .ended e }

def endsWith (c : Controller) (level : Level) (message : String) (e : Ending) : Stretch :=
  { controller := c, posted := [c.notice level message], progress := .ended e }

def waits (c : Controller) (w : Wait) : Stretch :=
  { controller := c, posted := [], progress := .waiting w }

def withTimer (c : Controller) (f : TimerView → TimerView) : Controller :=
  { c with live := { c.live with timer := f c.live.timer } }

def withWebhook (c : Controller) (f : WebhookView → WebhookView) : Controller :=
  { c with live := { c.live with webhook := f c.live.webhook } }

def withScrape (c : Controller) (f : ScrapeView → ScrapeView) : Controller :=
  { c with live := { c.live with scrape := f c.live.scrape } }

-- Chooses a credential in the working copy and asks for its secret.
def selectCredential (c : Controller) (s : Surroundings) (property : String)
    (credential : CredentialId) : Stretch :=
  match c.edit s.forms property (.str credential.text) with
  | .error e => c.ends (.refused e)
  | .ok (c, _) => c.waits (.secret property credential)

-- Fills in a secret, if the working copy still names its credential.
def applySecret (c : Controller) (s : Surroundings) (property : String)
    (credential : CredentialId) (secret : Dict Json) : Stretch :=
  match c.working with
  | none => c.ends (.refused (.notConfiguring c.node))
  | some data =>
    if data.values.text? property ≠ some credential.text then c.ends (.filled [])
    else
      let (values, filled) := hydrate c.type.properties data.values secret
      let (values, _) := s.forms.derive c.type.properties values
      { c with working := some { data with values := values } }.ends (.filled filled)

def resumeSecret (c : Controller) (s : Surroundings) (property : String)
    (credential : CredentialId) (answer : Except TransportError (Dict Json)) : Stretch :=
  if !c.mounted then c.ends (.refused (.unmounted c.node))
  else
    match answer with
    | .error _ => c.endsWith .error "Could not load the selected credential" (.filled [])
    | .ok secret => c.applySecret s property credential secret

def refreshTimer (c : Controller) : Stretch :=
  c.waits (.status false)

-- What a refresh gives, by itself or at the end of a command.
def refreshEnding (afterCommand : Bool) : Ending :=
  if afterCommand then .accepted true else .settled

def resumeStatus (c : Controller) (s : Surroundings) (afterCommand : Bool)
    (answer : Except TransportError TimerStatus) : Stretch :=
  let ending := refreshEnding afterCommand
  if !c.mounted then c.ends ending
  else
    match answer with
    | .ok status => (c.applyTimerStatus status s.now s.clock).ends ending
    | .error _ =>
      let message := "Could not load timer status"
      (c.withTimer fun t => { t with error := some message }).endsWith .error message ending

def commandTimer (c : Controller) (command : TimerCommand) : Stretch :=
  c.waits (.command command)

-- The answer to a command. An accepted one is followed by a refresh.
def resumeCommand (c : Controller) (command : TimerCommand) (answer : Except TransportError Unit) :
    Stretch :=
  if !c.mounted then c.ends (.accepted false)
  else
    match answer with
    | .error _ =>
      let message := s!"Could not {command.name} the timer"
      (c.withTimer fun t => { t with error := some message }).endsWith .error message
        (.accepted false)
    | .ok () =>
      (c.withTimer fun t => { t with status := t.status.map command.assume, error := none }).waits
        (.status true)

def startListening (c : Controller) : Stretch :=
  if !c.mounted then c.ends (.accepted false)
  else if c.live.webhook.listening then c.ends (.accepted true)
  else (c.withWebhook fun w => { w with listening := true, error := none }).waits .startListening

-- The answer to a start of listening. A refusal takes it back.
def resumeStartListening (c : Controller) (answer : Except TransportError Unit) : Stretch :=
  if !c.mounted then c.ends (.accepted false)
  else
    match answer with
    | .ok () => c.ends (.accepted true)
    | .error _ =>
      let message := "Could not start listening for webhook calls"
      (c.withWebhook fun w => { w with listening := false, error := some message }).endsWith .error
        message (.accepted false)

def stopListening (c : Controller) : Stretch :=
  c.waits .stopListening

-- The answer to a stop of listening. Whatever it is, the controller listens no more.
def resumeStopListening (c : Controller) : Stretch :=
  let c := if c.mounted then c.withWebhook fun w => { w with listening := false } else c
  c.ends .settled

-- Starts a scrape, unless one is running or there is no address.
def scrape (c : Controller) (s : Surroundings) : Stretch :=
  if !c.mounted then c.ends (.scraped .unmounted)
  else if c.live.scrape.scraping then c.ends (.scraped .busy)
  else
    let request := ScrapeRequest.ofNode s.graph c.node s.scrapeDefaults
    if request.hasNoUrls then
      (c.withScrape fun v => { v with error := none }).endsWith .warning
        "Add a URL or connect a node that provides URLs" (.scraped .noInput)
    else (c.withScrape fun v => { v with scraping := true, error := none }).waits (.scrape request)

def resumeScrape (c : Controller) (answer : Except TransportError ScrapeResponse) : Stretch :=
  if !c.mounted then c.ends (.scraped .unmounted)
  else
    match answer with
    | .ok response =>
      let count := response.documents.length
      (c.withScrape fun v =>
        { v with
          scraping := false
          documents := response.documents
          progress := some response.progress }).endsWith .success s!"Scraped {count} documents"
        (.scraped (.completed count))
    | .error _ =>
      let message := "Scrape failed"
      (c.withScrape fun v => { v with scraping := false, error := some message }).endsWith .error
        message (.scraped .failed)

def resume (c : Controller) (s : Surroundings) (w : Wait) (answer : Except TransportError w.Reply) :
    Stretch :=
  match w, answer with
  | .secret property credential, answer => c.resumeSecret s property credential answer
  | .status afterCommand, answer => c.resumeStatus s afterCommand answer
  | .command command, answer => c.resumeCommand command answer
  | .startListening, answer => c.resumeStartListening answer
  | .stopListening, _ => c.resumeStopListening
  | .scrape _, answer => c.resumeScrape answer

end Controller

end NodeEditor
