import NodeEditor.Canvas.Node
import NodeEditor.Catalog.Catalog

/-!
Graphs: nodes, and edges from an output handle of one node to an input handle of another. Both are
lists in the order in which they came.
-/

namespace NodeEditor

structure Link where
  source : NodeId
  sourceHandle : String
  target : NodeId
  targetHandle : String
deriving DecidableEq, Repr

structure Edge extends Link where
  id : EdgeId
deriving DecidableEq, Repr

namespace Edge

def touches (e : Edge) (node : NodeId) : Bool :=
  e.source = node || e.target = node

def shape : RecordShape Edge where
  name := "Edge"
  blank :=
    { id := ⟨""⟩, source := ⟨""⟩, sourceHandle := "", target := ⟨""⟩, targetHandle := "" }
  fields := [
    .required "id" Shape.text fun v e => { e with id := ⟨v⟩ },
    .required "source" Shape.text fun v e => { e with source := ⟨v⟩ },
    .required "sourceHandle" Shape.text fun v e => { e with sourceHandle := v },
    .required "target" Shape.text fun v e => { e with target := ⟨v⟩ },
    .required "targetHandle" Shape.text fun v e => { e with targetHandle := v }]

def toJson (e : Edge) : Json :=
  .obj [
    ("id", .str e.id.text),
    ("source", .str e.source.text),
    ("sourceHandle", .str e.sourceHandle),
    ("target", .str e.target.text),
    ("targetHandle", .str e.targetHandle)]

end Edge

inductive GraphError where
  | nodeNotFound (node : NodeId)
  | duplicateNode (node : NodeId)
  | unknownNodeType (node : NodeId) (type : String)
  | sourceHandleNotFound (node : NodeId) (handle : String)
  | targetHandleNotFound (node : NodeId) (handle : String)
  | duplicateEdge (edge : EdgeId)
deriving DecidableEq, Repr

def GraphError.message : GraphError → String
  | .nodeNotFound node => s!"node not found: {node.text}"
  | .duplicateNode node => s!"node already exists: {node.text}"
  | .unknownNodeType node type => s!"node {node.text} has unknown type '{type}'"
  | .sourceHandleNotFound node handle =>
    s!"output handle '{handle}' not found on node {node.text}"
  | .targetHandleNotFound node handle => s!"input handle '{handle}' not found on node {node.text}"
  | .duplicateEdge edge => s!"handles are already connected by edge {edge.text}"

structure Graph where
  nodes : List Node
  edges : List Edge

def modifyFirst {α : Type} (p : α → Bool) (f : α → α) : List α → List α
  | [] => []
  | a :: as => if p a then f a :: as else a :: modifyFirst p f as

namespace Graph

instance : BEq Graph := ⟨fun g h => g.nodes == h.nodes && g.edges == h.edges⟩

def empty : Graph := { nodes := [], edges := [] }

instance : Inhabited Graph := ⟨empty⟩

def shape : RecordShape Graph where
  name := "WorkflowGraph"
  blank := empty
  fields := [
    .optional "nodes" (Shape.list Node.shape.read) fun v g => { g with nodes := v },
    .optional "edges" (Shape.list Edge.shape.read) fun v g => { g with edges := v }]

def toJson (g : Graph) : Json :=
  .obj [("nodes", .arr (g.nodes.map Node.toJson)), ("edges", .arr (g.edges.map Edge.toJson))]

def nodeIds (g : Graph) : List NodeId :=
  g.nodes.map (·.id)

def edgeIds (g : Graph) : List EdgeId :=
  g.edges.map (·.id)

def node? (g : Graph) (node : NodeId) : Option Node :=
  g.nodes.find? (·.id = node)

def containsNode (g : Graph) (node : NodeId) : Bool :=
  (g.node? node).isSome

def containsEdge (g : Graph) (edge : EdgeId) : Bool :=
  g.edges.any (·.id = edge)

def push (g : Graph) (n : Node) : Graph :=
  { g with nodes := g.nodes ++ [n] }

def insert (g : Graph) (n : Node) : Except GraphError Graph :=
  if g.containsNode n.id then .error (.duplicateNode n.id) else .ok (g.push n)

-- Removes a node with all edges that end at it. Gives nothing if there is no such node.
def remove? (g : Graph) (node : NodeId) : Option (Node × Graph) :=
  (g.node? node).map fun n =>
    (n, { nodes := g.nodes.eraseP (·.id = node), edges := g.edges.filter (!·.touches node) })

def modify (g : Graph) (node : NodeId) (f : Node → Node) : Except GraphError Graph :=
  if g.containsNode node then
    .ok { g with nodes := modifyFirst (·.id = node) f g.nodes }
  else .error (.nodeNotFound node)

def replaceData (g : Graph) (node : NodeId) (data : NodeData) : Except GraphError Graph :=
  g.modify node fun n => { n with data := data }

def move (g : Graph) (node : NodeId) (position : Position) : Except GraphError Graph :=
  g.modify node fun n => { n with position := position }

def typeOf (g : Graph) (catalog : Catalog) (node : NodeId) : Except GraphError NodeType :=
  match g.node? node with
  | none => .error (.nodeNotFound node)
  | some n =>
    match catalog.get? n.type with
    | some t => .ok t
    | none => .error (.unknownNodeType node n.type)

-- Checks that an edge may join two handles: both nodes are of known kinds, both handles are there
-- and connectable, and no edge joins them yet.
def checkLink (g : Graph) (catalog : Catalog) (l : Link) : Except GraphError Unit := do
  let source ← g.typeOf catalog l.source
  let target ← g.typeOf catalog l.target
  if (source.connectionOutput? l.sourceHandle).isNone then
    .error (.sourceHandleNotFound l.source l.sourceHandle)
  else if (target.connectionInput? l.targetHandle).isNone then
    .error (.targetHandleNotFound l.target l.targetHandle)
  else
    match g.edges.find? (·.toLink = l) with
    | some e => .error (.duplicateEdge e.id)
    | none => .ok ()

def pushEdge (g : Graph) (e : Edge) : Graph :=
  { g with edges := g.edges ++ [e] }

-- Removes an edge. Gives nothing if there is no such edge.
def disconnect? (g : Graph) (edge : EdgeId) : Option (Edge × Graph) :=
  (g.edges.find? (·.id = edge)).map fun e =>
    (e, { g with edges := g.edges.eraseP (·.id = edge) })

-- The nodes with an edge into a node, one for each edge, in the order of the edges.
def predecessors (g : Graph) (node : NodeId) : List Node :=
  (g.edges.filter (·.target = node)).filterMap fun e => g.node? e.source

def touching (g : Graph) (node : NodeId) : List Edge :=
  g.edges.filter (·.touches node)

end Graph

end NodeEditor
