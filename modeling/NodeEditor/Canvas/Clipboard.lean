import NodeEditor.Canvas.Graph
import NodeEditor.Json.Reader
import NodeEditor.Json.Writer

/-!
The clipboard: a selection of nodes with the edges between them, as text. A text is read whole or not
at all; in a fragment that was read every edge joins two of its nodes.
-/

namespace NodeEditor

structure Fragment where
  nodes : List Node
  edges : List Edge

inductive ClipboardError where
  | invalidJson (reason : String)
  | missingGraphArrays
  | invalidShape (reason : String)
  | danglingEdge (edge : EdgeId) (node : NodeId)
  | serializeFailed (reason : String)
deriving DecidableEq, Repr

def ClipboardError.message : ClipboardError → String
  | .invalidJson reason => s!"clipboard is not valid JSON: {reason}"
  | .missingGraphArrays => "clipboard JSON has no 'nodes' or 'edges' array"
  | .invalidShape reason => s!"clipboard graph is malformed: {reason}"
  | .danglingEdge edge node =>
    s!"edge {edge.text} references node {node.text} outside the copied selection"
  | .serializeFailed reason => s!"failed to serialize selection: {reason}"

namespace Fragment

def empty : Fragment := { nodes := [], edges := [] }

def shape : RecordShape Fragment where
  name := "ClipboardFragment"
  blank := empty
  fields := [
    .optional "nodes" (Shape.list Node.shape.read) fun v f => { f with nodes := v },
    .optional "edges" (Shape.list Edge.shape.read) fun v f => { f with edges := v }]

def toJson (f : Fragment) : Json :=
  .obj [("nodes", .arr (f.nodes.map Node.toJson)), ("edges", .arr (f.edges.map Edge.toJson))]

def text (f : Fragment) : String :=
  f.toJson.compact

-- The selected nodes and the edges between them. Names of no node are passed over.
def ofSelection (g : Graph) (selected : List NodeId) : Fragment :=
  { nodes := g.nodes.filter fun n => selected.contains n.id
    edges := g.edges.filter fun e => selected.contains e.source && selected.contains e.target }

-- The first edge with an end outside the fragment, and that end, the source before the target.
def dangling? (f : Fragment) : Option (EdgeId × NodeId) :=
  let ids := f.nodes.map (·.id)
  f.edges.findSome? fun e =>
    ([e.source, e.target].find? fun node => !ids.contains node).map fun node => (e.id, node)

def hasArray (j : Json) (key : String) : Bool :=
  ((j.get? key).bind Json.items?).isSome

def parse (text : String) : Except ClipboardError Fragment :=
  match Json.parse text with
  | .error e => .error (.invalidJson e.message)
  | .ok j =>
    if !hasArray j "nodes" && !hasArray j "edges" then .error .missingGraphArrays
    else
      match shape.read j with
      | .error e => .error (.invalidShape e.message)
      | .ok f =>
        match f.dangling? with
        | some (edge, node) => .error (.danglingEdge edge node)
        | none => .ok f

end Fragment

end NodeEditor
