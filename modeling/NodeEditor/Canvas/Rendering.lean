import NodeEditor.Canvas.Actions
import NodeEditor.Canvas.Graph
import NodeEditor.Canvas.Icons

/-!
What is drawn for a node: header, icon, handles along its sides, and the actions that it offers.
-/

namespace NodeEditor

instance floatNatCast : NatCast Float := ⟨Float.ofNat⟩

-- A handle of a node, at a fraction of its side; outputs are sources. The fraction is a number of
-- some type: nodes are drawn with doubles.
structure PlacedHandle (α : Type) where
  handle : Handle
  side : Side
  fraction : α
  isSource : Bool
  connected : Bool

namespace PlacedHandle

-- Where the handle with an index stands among those of its side.
def fractionOf {α : Type} [NatCast α] [Div α] (index count : Nat) : α :=
  ((index + 1 : Nat) : α) / ((count + 1 : Nat) : α)

def toJson (h : PlacedHandle Float) : Json :=
  .obj [
    ("name", .str h.handle.name),
    ("label", .str h.handle.label),
    ("side", .str h.side.name),
    ("fraction", .ofFloat h.fraction),
    ("isSource", .bool h.isSource),
    ("connectable", .bool h.handle.connectable),
    ("connected", .bool h.connected)]

end PlacedHandle

-- Whether an edge ends at a handle of a node, as its source or as its target.
def isConnected (edges : List Edge) (node : NodeId) (handle : String) (isSource : Bool) : Bool :=
  edges.any fun e =>
    if isSource then e.source = node && e.sourceHandle = handle
    else e.target = node && e.targetHandle = handle

-- The handles of a kind with their sides, inputs first: inputs are on the left and outputs on the
-- right if they name no side.
def sidedHandles (t : NodeType) : List (Handle × Side × Bool) :=
  t.inputs.map (fun h => (h, h.sideOr .left, false)) ++
    t.outputs.map fun h => (h, h.sideOr .right, true)

def layoutHandles (α : Type) [NatCast α] [Div α] (t : NodeType) (node : NodeId)
    (edges : List Edge) : List (PlacedHandle α) :=
  Side.all.flatMap fun side =>
    let handles := (sidedHandles t).filter fun h => h.2.1 = side
    handles.zipIdx.map fun ((handle, _, isSource), index) =>
      { handle := handle
        side := side
        fraction := PlacedHandle.fractionOf index handles.length
        isSource := isSource
        connected := isConnected edges node handle.name isSource }

inductive Glow where
  | success
  | error
  | neutral
deriving DecidableEq, Repr

namespace Glow

def ofOutcome : Option Outcome → Glow
  | some .success => .success
  | some .error => .error
  | some .pending => .neutral
  | none => .neutral

def name : Glow → String
  | .success => "success_glow"
  | .error => "error_glow"
  | .neutral => "neutral"

def color? : Glow → Option String
  | .success => some "#22c55e"
  | .error => some "#ef4444"
  | .neutral => none

end Glow

structure RenderedNode where
  id : NodeId
  type : String
  label : String
  description : Option String
  position : Position
  icon : Icon
  colors : Gradient
  handles : List (PlacedHandle Float)
  affordances : List Affordance
  glow : Glow

namespace RenderedNode

def toJson (n : RenderedNode) : Json :=
  .obj [
    ("id", .str n.id.text),
    ("nodeType", .str n.type),
    ("label", .str n.label),
    ("description", .ofOption .str n.description),
    ("position", n.position.toJson),
    ("icon", n.icon.toJson),
    ("colors", n.colors.toJson),
    ("handles", .arr (n.handles.map PlacedHandle.toJson)),
    ("affordances", .arr (n.affordances.map Affordance.toJson)),
    ("status", .str n.glow.name)]

end RenderedNode

-- What a node is called: its own title, else that of its kind.
def nodeTitle (t : Option NodeType) (n : Node) : String :=
  if Text.isBlankText n.data.label then (t.map NodeType.label).getD n.type else n.data.label

-- Draws a node. One of an unknown kind has no handles, no actions and neutral colours.
def renderNode (catalog : Catalog) (icons : IconRegistry) (edges : List Edge) (now : Activity)
    (n : Node) : RenderedNode :=
  let t := catalog.get? n.type
  { id := n.id
    type := n.type
    label := nodeTitle t n
    description := t.bind (·.description)
    position := n.position
    icon := icons.resolve n.type
    colors := (t.bind (·.colors)).getD .neutral
    handles := (t.map (layoutHandles Float · n.id edges)).getD []
    affordances := (t.map fun t => affordances t.capabilities now).getD []
    glow := .ofOutcome n.data.outcome }

def renderGraph (catalog : Catalog) (icons : IconRegistry) (g : Graph) (now : NodeId → Activity) :
    List RenderedNode :=
  g.nodes.map fun n => renderNode catalog icons g.edges (now n.id) n

end NodeEditor
