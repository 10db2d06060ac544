import NodeEditor.Canvas.Rendering
import NodeEditor.Canvas.Store
import NodeEditor.Form.Engine
import NodeEditor.Inspector.CommandLine
import NodeEditor.Inspector.Environment
import NodeEditor.Live.Backend
import NodeEditor.Live.Clock

/-!
The commands of the inspector. Each gives the text to print; files and the backend are reached
through a `Host`, so that the commands themselves are pure.
-/

namespace NodeEditor.Inspector

inductive InspectError where
  | unreadable (path reason : String)
  | unwritable (path reason : String)
  | invalidInput (path reason : String)
  | unknownNodeType (type : String)
  | invalidNodeId (value : String)
  | backend (reason : String)
  | output (reason : String)
deriving DecidableEq, Repr

def InspectError.message : InspectError → String
  | .unreadable path reason => s!"failed to read {path}: {reason}"
  | .unwritable path reason => s!"failed to write {path}: {reason}"
  | .invalidInput path reason => s!"invalid contents in {path}: {reason}"
  | .unknownNodeType type => s!"unknown node type: {type}"
  | .invalidNodeId value => s!"invalid node ID: '{value}'"
  | .backend reason => s!"backend request failed: {reason}"
  | .output reason => s!"failed to serialize output: {reason}"

-- What the inspector runs on: files, which fail with a reason, the backend, the present moment, and
-- a number from which new names are made.
structure Host (m : Type → Type) where
  readFile : String → m (Except String String)
  writeFile : String → String → m (Except String Unit)
  fetchCatalog : m (Except TransportError Catalog)
  timerCommand : NodeId → TimerCommand → m (Except TransportError Unit)
  timerStatus : NodeId → m (Except TransportError TimerStatus)
  now : m Time.Moment
  nextName : m Nat

def Config.write (config : Config) (j : Json) : String :=
  if config.pretty then j.pretty else j.compact

def readNodeId (value : String) : Except InspectError NodeId :=
  match Id.parse .node value with
  | .ok id => .ok id
  | .error _ => .error (.invalidNodeId value)

def readJson (path text : String) : Except InspectError Json :=
  match Json.parse text with
  | .ok j => .ok j
  | .error e => .error (.invalidInput path e.message)

def readGraph (path text : String) : Except InspectError Graph := do
  let j ← readJson path text
  match Graph.shape.read j with
  | .ok g => .ok g
  | .error e => .error (.invalidInput path e.message)

def readCatalog (path text : String) : Except InspectError Catalog :=
  match Catalog.parse text with
  | .ok c => .ok c
  | .error e => .error (.invalidInput path e.message)

def padRight (width : Nat) (s : String) : String :=
  s ++ String.ofList (List.replicate (width - s.toList.length) ' ')

def palette (c : Catalog) : String :=
  let line (t : NodeType) : String := s!"  {padRight 24 t.type} {t.label}"
  String.intercalate "\n" (c.palette.flatMap fun g => g.category :: g.entries.map line)

def render (c : Catalog) (g : Graph) (config : Config) : String :=
  let icons := IconRegistry.ofCatalog c config.settings.assetBasePath
  config.write (.arr ((renderGraph c icons g fun _ => .idle).map RenderedNode.toJson))

-- The form of a kind for given values, which may be of any shape.
def form [Pattern.Capacity] (c : Catalog) (type : String) (values : Json) (config : Config) :
    Except InspectError String :=
  match c.get? type with
  | none => .error (.unknownNodeType type)
  | some t =>
    let raw := Dict.ofList (values.entries?.getD [])
    let (values, issues) := conform t.properties raw
    let engine := Engine.standard config.settings.webhookBaseUrl
    let (values, _) := engine.derive t.properties values
    let widgets := engine.render t.properties values
    let report := validate t.properties values
    .ok (config.write (Json.sorted (.obj [
      ("nodeType", .str t.type),
      ("widgets", .arr (widgets.map Widget.toJson)),
      ("errors", report.toJson),
      ("rejected", .ofTexts (issues.map FormError.message))])))

def copy (g : Graph) (nodes : List String) : Except InspectError String :=
  (nodes.mapM readNodeId).map fun selected => (Fragment.ofSelection g selected).text

def paste (g : Graph) (path text : String) (next : Nat) : Except InspectError Graph :=
  match (Store.ofGraph g next).paste text with
  | (.ok _, s) => .ok s.graph
  | (.error e, _) => .error (.invalidInput path e.message)

def timerReport (status : TimerStatus) (now : Time.Moment) (config : Config) : String :=
  let countdown :=
    (status.nextExecution.filter fun _ => status.isActive).map fun next =>
      (Countdown.towards next now 0).remaining 0
  config.write (Json.sorted (.obj [
    ("status", status.toJson),
    ("countdown", .ofOption .ofNat countdown)]))

section Run

variable {m : Type → Type} [Monad m]

def Host.text (host : Host m) (path : String) : ExceptT InspectError m String := do
  match ← host.readFile path with
  | .ok text => pure text
  | .error reason => throw (.unreadable path reason)

def asked {α : Type} (answer : m (Except TransportError α)) : ExceptT InspectError m α := do
  match ← answer with
  | .ok a => pure a
  | .error e => throw (.backend e.message)

def Host.catalog (host : Host m) (path : Option String) : ExceptT InspectError m Catalog := do
  match path with
  | some path => readCatalog path (← host.text path)
  | none => asked host.fetchCatalog

def Host.graph (host : Host m) (path : String) : ExceptT InspectError m Graph := do
  readGraph path (← host.text path)

-- Sends a command to a timer, if there is one, and reports on the timer.
def runTimer (host : Host m) (config : Config) (command : Option TimerCommand) (node : String) :
    ExceptT InspectError m String := do
  let id ← readNodeId node
  if let some command := command then
    asked (host.timerCommand id command)
  let status ← asked (host.timerStatus id)
  return timerReport status (← host.now) config

-- Pastes a fragment into a graph; the result is printed or written to a file.
def runPaste (host : Host m) (config : Config) (graph fragment : String)
    (output : Option String) : ExceptT InspectError m String := do
  let text ← host.text fragment
  let g ← host.graph graph
  let pasted ← paste g fragment text (← host.nextName)
  let written := config.write pasted.toJson
  match output with
  | none => return written
  | some path =>
    match ← host.writeFile path written with
    | .ok () => return s!"Wrote {path}"
    | .error reason => throw (.unwritable path reason)

def run [Pattern.Capacity] (host : Host m) (config : Config) (i : Invocation) :
    ExceptT InspectError m String := do
  match i.command with
  | .palette => return palette (← host.catalog i.catalog)
  | .render graph =>
    let catalog ← host.catalog i.catalog
    return render catalog (← host.graph graph) config
  | .form type values =>
    let catalog ← host.catalog i.catalog
    let values ←
      match values with
      | some path => readJson path (← host.text path)
      | none => pure (.obj [])
    form catalog type values config
  | .copy graph nodes => copy (← host.graph graph) nodes
  | .paste graph fragment output => runPaste host config graph fragment output
  | .timer command node => runTimer host config command node

end Run

end NodeEditor.Inspector
