import NodeEditor.Canvas.Rendering
import NodeEditor.Live.Actions

/-!
Sessions: a canvas that is open, with its catalog, the shared graph and the controllers of its nodes.
Controllers that were handed out stay usable after the session gave them up, so all of them are kept,
and beside them which one is in charge of which node.
-/

namespace NodeEditor

-- An open canvas. `handed` are all controllers ever handed out; `inCharge` says at which place of
-- them is the one of a node.
structure Session where
  catalog : Catalog
  icons : IconRegistry
  forms : Engine
  scrapeDefaults : ScrapeDefaults
  store : Store
  handed : List Controller
  inCharge : List (NodeId × Nat)
  clock : Nat

namespace Session

def start (catalog : Catalog) (store : Store) (settings : Settings) : Session where
  catalog := catalog
  icons := .ofCatalog catalog settings.assetBasePath
  forms := .standard settings.webhookBaseUrl
  scrapeDefaults := settings.scrape
  store := store
  handed := []
  inCharge := []
  clock := 0

def surroundings (s : Session) (now : Time.Moment) : Surroundings where
  graph := s.store.graph
  forms := s.forms
  scrapeDefaults := s.scrapeDefaults
  now := now
  clock := s.clock

-- Puts a controller in the place of one that was handed out.
def put (s : Session) (place : Nat) (c : Controller) : Session :=
  { s with handed := s.handed.set place c }

def withStore (s : Session) (store : Store) : Session :=
  { s with store := store }

-- Places a node of a kind; none of a kind that the catalog does not know.
def placeNode (s : Session) (type : String) (position : Position) : Option (NodeId × Session) :=
  (s.catalog.get? type).map fun t =>
    let (id, store) := s.store.place t position
    (id, s.withStore store)

-- The place of the controller in charge of a node; one is mounted if there is none yet and the node
-- is in the graph and of a known kind.
def controller? (s : Session) (node : NodeId) : Option (Nat × Session) :=
  match s.inCharge.lookup node with
  | some place => some (place, s)
  | none => do
    let n ← s.store.graph.node? node
    let t ← s.catalog.get? n.type
    let place := s.handed.length
    pure (place,
      { s with
        handed := s.handed ++ [.mount node t]
        inCharge := (node, place) :: s.inCharge })

def unmountAt (s : Session) (place : Nat) : Session :=
  { s with handed := s.handed.modify place Controller.unmount }

-- Removes a node with its edges and unmounts its controller. Says whether there was such a node.
def removeNode (s : Session) (node : NodeId) : Bool × Session :=
  let s :=
    match s.inCharge.lookup node with
    | some place =>
      { s.unmountAt place with inCharge := s.inCharge.filter fun e => e.1 ≠ node }
    | none => s
  let (removed, store) := s.store.remove node
  (removed.isSome, s.withStore store)

def copy (s : Session) (selected : List NodeId) : String :=
  s.store.copy selected

def pasteRejected : Notification :=
  { level := .error, message := "Clipboard does not contain workflow nodes", node := none }

-- Pastes a clipboard text. A text that is no fragment gives a message and changes nothing.
def paste (s : Session) (text : String) : Option PasteSummary × List Notification × Session :=
  let (pasted, store) := s.store.paste text
  match pasted with
  | .ok summary => (some summary, [], s.withStore store)
  | .error _ => (none, [pasteRejected], s.withStore store)

-- What is going on at a node, as its controller knows.
def activity (s : Session) (node : NodeId) : Activity :=
  match (s.inCharge.lookup node).bind (s.handed[·]?) with
  | some c => c.live.activity
  | none => .idle

def render (s : Session) : List RenderedNode :=
  renderGraph s.catalog s.icons s.store.graph s.activity

def setAssetBase (s : Session) (base : String) : Session :=
  { s with icons := { s.icons with assetBase := base } }

def close (s : Session) : Session :=
  { s.inCharge.foldl (fun s e => s.unmountAt e.2) s with inCharge := [] }

def elapse (s : Session) (nanos : Nat) : Session :=
  let clock := s.clock + nanos
  { s with clock := clock, handed := s.handed.map (·.elapse clock) }

end Session

end NodeEditor
