import NodeEditor.Catalog.NodeType
import NodeEditor.Form.Values
import NodeEditor.Id

/-!
Nodes on the canvas. The data of a node is written as one flat object: what the canvas shows, and the
values of the properties beside it. A value whose name the canvas uses itself is written under
`$values`, so that every document reads back as it was.
-/

namespace NodeEditor

structure Position where
  x : Float
  y : Float
deriving DecidableEq

namespace Position

instance : BEq Position := ⟨fun p q => p.x == q.x && p.y == q.y⟩

def offset (p delta : Position) : Position :=
  { x := p.x + delta.x, y := p.y + delta.y }

def shape : RecordShape Position where
  name := "Position"
  blank := { x := 0.0, y := 0.0 }
  fields := [
    .required "x" Shape.float fun v p => { p with x := v },
    .required "y" Shape.float fun v p => { p with y := v }]

def toJson (p : Position) : Json :=
  .obj [("x", .ofFloat p.x), ("y", .ofFloat p.y)]

end Position

inductive Outcome where
  | success
  | error
  | pending
deriving DecidableEq, Repr

namespace Outcome

def named : List (String × Outcome) :=
  [("success", .success), ("error", .error), ("pending", .pending)]

def name : Outcome → String
  | .success => "success"
  | .error => "error"
  | .pending => "pending"

def read : Json → Except ShapeError Outcome :=
  Shape.choice named

end Outcome

-- What a node holds: its title, the outcome of its last run, and the values of its properties.
structure NodeData where
  label : String
  outcome : Option Outcome
  values : ValueBag

namespace NodeData

def empty : NodeData := { label := "", outcome := none, values := {} }

instance : BEq NodeData :=
  ⟨fun a b => a.label == b.label && a.outcome == b.outcome && a.values == b.values⟩

def isReserved (name : String) : Bool :=
  name = "label" || name = "validationStatus" || name = "$values"

def toJson (d : NodeData) : Json :=
  let shadowed := d.values.filterKeys isReserved
  let plain := d.values.filterKeys (!isReserved ·)
  .obj ([("label", .str d.label)] ++
    (match d.outcome with
      | some o => [("validationStatus", .str o.name)]
      | none => []) ++
    plain.entries ++
    (if shadowed.isEmpty then [] else [("$values", .obj shadowed.entries)]))

def readUnder {α : Type} (raw : Dict Json) (key : String) (absent : α)
    (read : Json → Except ShapeError α) : Except ShapeError α :=
  match raw.get? key with
  | some j => read j
  | none => .ok absent

def read (j : Json) : Except ShapeError NodeData := do
  let raw ← Shape.dict j
  let label ← readUnder raw "label" "" Shape.text
  let outcome ← readUnder raw "validationStatus" none (Shape.optional Outcome.read)
  let shadowed ← readUnder raw "$values" {} Shape.dict
  .ok { label := label, outcome := outcome,
        values := (raw.filterKeys (!isReserved ·)).union shadowed }

def ofType (t : NodeType) : NodeData :=
  { label := t.label, outcome := none, values := t.defaults }

end NodeData

structure Node where
  id : NodeId
  type : String
  position : Position
  data : NodeData

namespace Node

instance : BEq Node :=
  ⟨fun a b => a.id == b.id && a.type == b.type && a.position == b.position && a.data == b.data⟩

def shape : RecordShape Node where
  name := "NodeInstance"
  blank := { id := ⟨""⟩, type := "", position := { x := 0.0, y := 0.0 }, data := .empty }
  fields := [
    .required "id" Shape.text fun v n => { n with id := ⟨v⟩ },
    .required "type" Shape.text fun v n => { n with type := v },
    .required "position" Position.shape.read fun v n => { n with position := v },
    .optional "data" NodeData.read fun v n => { n with data := v }]

def toJson (n : Node) : Json :=
  .obj [
    ("id", .str n.id.text),
    ("type", .str n.type),
    ("position", n.position.toJson),
    ("data", n.data.toJson)]

end Node

end NodeEditor
