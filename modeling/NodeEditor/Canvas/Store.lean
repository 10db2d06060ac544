import NodeEditor.Canvas.Canvas

/-!
The store: the canvas that all parts of an editor share. Every change makes a new revision; a change
that fails makes none.
-/

namespace NodeEditor

structure Store where
  canvas : Canvas
  revision : Nat

structure PasteSummary where
  nodes : List NodeId
  edges : List EdgeId
deriving DecidableEq, Repr

def PasteSummary.toJson (p : PasteSummary) : Json :=
  .obj [
    ("nodes", .ofTexts (p.nodes.map (·.text))),
    ("edges", .ofTexts (p.edges.map (·.text)))]

namespace Store

def ofGraph (g : Graph) (next : Nat) (supply : Supply := .counted) : Store :=
  { canvas := { graph := g, next := next, supply := supply }, revision := 0 }

def graph (s : Store) : Graph :=
  s.canvas.graph

def publish (s : Store) (c : Canvas) : Store :=
  { canvas := c, revision := s.revision + 1 }

def replace (s : Store) (g : Graph) : Store :=
  s.publish { s.canvas with graph := g }

-- A change is made to a copy of the canvas. The copy is published only when the change succeeds.
def tryModify {ε α : Type} (s : Store) (change : Canvas → Except ε (α × Canvas)) :
    Except ε α × Store :=
  match change s.canvas with
  | .ok (a, copy) => (.ok a, s.publish copy)
  | .error e      => (.error e, s)

-- A change that leaves all but the graph of the canvas alone.
def tryModifyGraph {ε α : Type} (s : Store) (change : Graph → Except ε (α × Graph)) :
    Except ε α × Store :=
  s.tryModify fun c => (change c.graph).map fun (a, g) => (a, { c with graph := g })

-- This cannot fail.
def place (s : Store) (t : NodeType) (position : Position) : NodeId × Store :=
  let (id, c) := s.canvas.place t position
  (id, s.publish c)

def remove (s : Store) (node : NodeId) : Option Node × Store :=
  let (removed, s) := s.tryModifyGraph fun g => (g.remove? node).elim (.error ()) .ok
  (removed.toOption, s)

def replaceData (s : Store) (node : NodeId) (data : NodeData) : Except GraphError Unit × Store :=
  s.tryModifyGraph fun g => (g.replaceData node data).map ((), ·)

def move (s : Store) (node : NodeId) (position : Position) : Except GraphError Unit × Store :=
  s.tryModifyGraph fun g => (g.move node position).map ((), ·)

def connect (s : Store) (catalog : Catalog) (l : Link) : Except GraphError EdgeId × Store :=
  s.tryModify fun c => c.connect catalog l

def copy (s : Store) (selected : List NodeId) : String :=
  (Fragment.ofSelection s.graph selected).text

-- The text is read before anything is changed.
def paste (s : Store) (text : String) : Except ClipboardError PasteSummary × Store :=
  match Fragment.parse text with
  | .ok f    => s.tryModify fun c =>
    let (copy, c) := c.paste f
    .ok ({ nodes := copy.fragment.nodes.map (·.id), edges := copy.fragment.edges.map (·.id) }, c)
  | .error e => (.error e, s)

end Store

end NodeEditor
