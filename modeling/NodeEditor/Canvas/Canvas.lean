import NodeEditor.Canvas.Clipboard

/-!
The canvas: a graph under edit. New nodes and edges get names that are not taken; pasting makes a
copy of a fragment under new names, a little to the right and below.
-/

namespace NodeEditor

-- A graph, the supply of new names, and how many serials of it are drawn.
structure Canvas where
  graph : Graph
  next : Nat
  supply : Supply := .counted

-- A copy of a fragment under new names, and the old and new names of its nodes.
structure Duplicate where
  fragment : Fragment
  renamed : List (NodeId × NodeId)

namespace Duplicate

-- The new name of a node; of two nodes of one name the later counts.
def newName? (renamed : List (NodeId × NodeId)) (node : NodeId) : Option NodeId :=
  renamed.reverse.lookup node

def idMap (d : Duplicate) : List (NodeId × NodeId) :=
  (d.renamed.map (·.1)).eraseDups.filterMap fun old =>
    (newName? d.renamed old).map fun new => (old, new)

end Duplicate

namespace Canvas

-- Places a new node of a kind, with the defaults of its properties.
def place (c : Canvas) (t : NodeType) (position : Position) : NodeId × Canvas :=
  let (id, next) := c.supply.fresh c.graph.nodeIds c.next
  let node := { id := id, type := t.type, position := position, data := .ofType t }
  (id, { c with graph := c.graph.push node, next := next })

def connect (c : Canvas) (catalog : Catalog) (l : Link) : Except GraphError (EdgeId × Canvas) := do
  c.graph.checkLink catalog l
  let (id, next) := c.supply.fresh c.graph.edgeIds c.next
  .ok (id, { c with graph := c.graph.pushEdge { toLink := l, id := id }, next := next })

def pasteOffset : Position := { x := 30.0, y := 30.0 }

def copyNode (n : Node) (id : NodeId) : Node :=
  { n with id := id, position := n.position.offset pasteOffset }

def relink? (renamed : List (NodeId × NodeId)) (l : Link) : Option Link := do
  let source ← Duplicate.newName? renamed l.source
  let target ← Duplicate.newName? renamed l.target
  pure { l with source := source, target := target }

-- Copies a fragment under names that are not taken. Edges that leave the fragment are dropped.
def duplicate (c : Canvas) (f : Fragment) : Duplicate × Nat :=
  let (nodeIds, next) := c.supply.freshNames c.graph.nodeIds f.nodes.length c.next
  let renamed := (f.nodes.map (·.id)).zip nodeIds
  let links := f.edges.filterMap fun e => relink? renamed e.toLink
  let (edgeIds, next) := c.supply.freshNames c.graph.edgeIds links.length next
  ({ fragment :=
      { nodes := f.nodes.zipWith copyNode nodeIds
        edges := links.zipWith (fun l id => { toLink := l, id := id }) edgeIds }
     renamed := renamed }, next)

-- Adds a copy of a fragment behind all that is there.
def paste (c : Canvas) (f : Fragment) : Duplicate × Canvas :=
  let (copy, next) := c.duplicate f
  (copy,
    { c with
      graph :=
        { nodes := c.graph.nodes ++ copy.fragment.nodes
          edges := c.graph.edges ++ copy.fragment.edges }
      next := next })

end Canvas

end NodeEditor
