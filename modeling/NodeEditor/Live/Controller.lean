import NodeEditor.Canvas.Actions
import NodeEditor.Canvas.Curl
import NodeEditor.Canvas.Store
import NodeEditor.Form.Engine
import NodeEditor.Live.Clock
import NodeEditor.Live.Scrape
import NodeEditor.Live.Timer

/-!
Controllers: what the editor keeps about one node on the canvas besides the graph. A controller is
mounted until its node goes. While its node is configured it holds a working copy of the data, which
reaches the graph when it is saved; the rest is the state of timer, webhook and scrape.
-/

namespace NodeEditor

structure WebhookEvent where
  receivedAt : Time.Moment
  payload : Json

structure TimerView where
  status : Option TimerStatus
  countdown : Option Nat
  error : Option String
deriving DecidableEq, Repr

def TimerView.isActive (v : TimerView) : Bool :=
  (v.status.map (·.isActive)).getD false

structure WebhookView where
  listening : Bool
  events : List WebhookEvent
  error : Option String

structure ScrapeView where
  scraping : Bool
  documents : List ScrapedDocument
  progress : Option ScrapeProgress
  error : Option String

structure LiveState where
  timer : TimerView
  webhook : WebhookView
  scrape : ScrapeView

namespace LiveState

def initial : LiveState where
  timer := { status := none, countdown := none, error := none }
  webhook := { listening := false, events := [], error := none }
  scrape := { scraping := false, documents := [], progress := none, error := none }

def activity (s : LiveState) : Activity where
  timerActive := s.timer.isActive
  listening := s.webhook.listening
  scraping := s.scrape.scraping

def toJson (s : LiveState) : Json :=
  let event (e : WebhookEvent) : Json :=
    .obj [("receivedAt", .str e.receivedAt.utcText), ("payload", e.payload)]
  .obj [
    ("timer", .obj [
      ("status", .ofOption TimerStatus.toJson s.timer.status),
      ("countdown", .ofOption .ofNat s.timer.countdown),
      ("error", .ofOption .str s.timer.error)]),
    ("webhook", .obj [
      ("listening", .bool s.webhook.listening),
      ("events", .arr (s.webhook.events.map event)),
      ("error", .ofOption .str s.webhook.error)]),
    ("scrape", .obj [
      ("scraping", .bool s.scrape.scraping),
      ("documents", .arr (s.scrape.documents.map ScrapedDocument.toJson)),
      ("progress", .ofOption ScrapeProgress.toJson s.scrape.progress),
      ("error", .ofOption .str s.scrape.error)])]

end LiveState

inductive SessionError where
  | notConfiguring (node : NodeId)
  | unmounted (node : NodeId)
  | graph (error : GraphError)
  | form (error : FormError)
deriving DecidableEq, Repr

def SessionError.message : SessionError → String
  | .notConfiguring node => s!"node {node.text} is not being configured"
  | .unmounted node => s!"node {node.text} is unmounted"
  | .graph e => e.message
  | .form e => e.message

-- The state of one node. `working` is there while the node is configured.
structure Controller where
  node : NodeId
  type : NodeType
  mounted : Bool
  working : Option NodeData
  live : LiveState
  countdown : Option Countdown
  ticker : Option Ticker

namespace Controller

def mount (node : NodeId) (type : NodeType) : Controller where
  node := node
  type := type
  mounted := true
  working := none
  live := .initial
  countdown := none
  ticker := none

-- Unmounts a controller: its state is cleared and its ticker stops.
def unmount (c : Controller) : Controller :=
  if c.mounted then { mount c.node c.type with mounted := false } else c

def isConfiguring (c : Controller) : Bool :=
  c.working.isSome

def storedData? (c : Controller) (g : Graph) : Option NodeData :=
  (g.node? c.node).map (·.data)

-- Starts to configure the node on a copy of its data. Values that do not fit are replaced by their
-- defaults or dropped, and derived fields are computed.
def begin (c : Controller) (g : Graph) (forms : Engine) : Except SessionError Controller :=
  if !c.mounted then .error (.unmounted c.node)
  else
    match c.storedData? g with
    | none => .error (.graph (.nodeNotFound c.node))
    | some data =>
      let (values, _) := conform c.type.properties data.values
      let (values, _) := forms.derive c.type.properties values
      .ok { c with working := some { data with values := values } }

def working! (c : Controller) : Except SessionError NodeData :=
  match c.working with
  | some data => .ok data
  | none => .error (.notConfiguring c.node)

def form [Pattern.Capacity] (c : Controller) (forms : Engine) :
    Except SessionError (List Widget) :=
  c.working!.map fun data => forms.render c.type.properties data.values

def validate [Pattern.Capacity] (c : Controller) : Except SessionError Report :=
  c.working!.map fun data => NodeEditor.validate c.type.properties data.values

-- Edits the working copy. Gives the names of all that changed.
def edit (c : Controller) (forms : Engine) (property : String) (value : Json) :
    Except SessionError (Controller × List String) := do
  let data ← c.working!
  match forms.edit c.type.properties data.values property value with
  | .ok (values, changed) => .ok ({ c with working := some { data with values := values } }, changed)
  | .error e => .error (.form e)

def save (c : Controller) (s : Store) : Except SessionError (Controller × Store) := do
  let data ← c.working!
  match s.replaceData c.node data with
  | (.ok (), s) => .ok ({ c with working := none }, s)
  | (.error e, _) => .error (.graph e)

def cancel (c : Controller) : Controller :=
  { c with working := none }

-- The request of the node as a command, for kinds that offer it.
def curl? (c : Controller) (g : Graph) : Option String :=
  if c.type.capabilities.curl then (c.storedData? g).bind fun data => Curl.command? data.values
  else none

def recordEvent (c : Controller) (receivedAt : Time.Moment) (payload : Json) : Bool × Controller :=
  if c.live.webhook.listening then
    let events := c.live.webhook.events ++ [{ receivedAt := receivedAt, payload := payload }]
    (true, { c with live := { c.live with webhook := { c.live.webhook with events := events } } })
  else (false, c)

-- One tick of the countdown, at a time of the clock. Says whether to go on ticking.
def tick (clock : Nat) (c : Controller) : Bool × Controller :=
  if !c.mounted then (false, c)
  else
    let shown := if c.live.timer.isActive then c.countdown.map (·.remaining clock) else none
    (c.live.timer.isActive,
      { c with live := { c.live with timer := { c.live.timer with countdown := shown } } })

def elapse (c : Controller) (clock : Nat) : Controller :=
  match c.ticker with
  | none => c
  | some t =>
    let (t, c) := t.run tick c clock
    { c with ticker := some t }

def tickPeriod : Nat := Time.Moment.nanosPerSecond

def ensureTicker (c : Controller) (clock : Nat) : Controller :=
  match c.ticker with
  | some t => if t.finished then { c with ticker := some (.start tickPeriod clock) } else c
  | none => { c with ticker := some (.start tickPeriod clock) }

-- Takes over a timer's status: the countdown starts anew, and the ticker goes on just as long as
-- the timer is active.
def applyTimerStatus (c : Controller) (status : TimerStatus) (now : Time.Moment) (clock : Nat) :
    Controller :=
  let countdown :=
    (status.nextExecution.filter fun _ => status.isActive).map fun next =>
      Countdown.towards next now clock
  let timer : TimerView :=
    { status := some status
      countdown := countdown.map (·.remaining clock)
      error := none }
  let c := { c with countdown := countdown, live := { c.live with timer := timer } }
  if status.isActive then c.ensureTicker clock else { c with ticker := none }

-- How a controller is written: the values of the working copy, and what is shown of the actions.
def toJson (c : Controller) : Json :=
  .obj [
    ("node", .str c.node.text),
    ("type", .str c.type.type),
    ("mounted", .bool c.mounted),
    ("configuring", .bool c.isConfiguring),
    ("working", .ofOption (fun d : NodeData => .obj d.values.entries) c.working),
    ("status", c.live.activity.toJson),
    ("runtime", c.live.toJson)]

end Controller

end NodeEditor
