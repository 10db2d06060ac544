import NodeEditor.Json.Shape
import NodeEditor.Text.Blank
import NodeEditor.Text.Case

/-!
Handles: the named points of a node at which edges end.
-/

namespace NodeEditor

inductive Side where
  | top
  | right
  | bottom
  | left
deriving DecidableEq, Repr

namespace Side

def all : List Side := [.top, .right, .bottom, .left]

def name : Side → String
  | .top => "top"
  | .right => "right"
  | .bottom => "bottom"
  | .left => "left"

def isHorizontal : Side → Bool
  | .top | .bottom => true
  | .right | .left => false

-- The side of that name; blanks around it and the case of letters do not matter.
def named? (s : String) : Option Side :=
  all.find? fun side => Text.sameIgnoringAsciiCase side.name (Text.trim s)

def unknownMessage (s : String) : String :=
  s!"unknown handle side '{s}'"

end Side

structure Handle where
  name : String
  payload : String
  side : Option Side
  connectable : Bool
  displayName : Option String
deriving DecidableEq, Repr

namespace Handle

def plain (name payload : String) : Handle :=
  { name := name, payload := payload, side := none, connectable := true, displayName := none }

def sideOr (h : Handle) (fallback : Side) : Side :=
  h.side.getD fallback

def label (h : Handle) : String :=
  h.displayName.getD h.name

-- A side is read from anything: what names no side is no side.
def readSide (j : Json) : Except ShapeError (Option Side) :=
  .ok (j.text?.bind Side.named?)

def shape : RecordShape Handle where
  name := "HandleSpec"
  blank := plain "" ""
  fields := [
    .required "name" Shape.text fun v h => { h with name := v },
    .optional "type" Shape.text fun v h => { h with payload := v },
    (Field.optional "direction" readSide fun v h => { h with side := v }).orNamed ["position"],
    (Field.optional "is_connection" Shape.bool fun v h => { h with connectable := v }).orNamed
      ["isConnection"],
    (Field.optional "displayName" (Shape.optional Shape.text)
      fun v h => { h with displayName := v }).orNamed ["display_name"]]

def toJson (h : Handle) : Json :=
  .obj [
    ("name", .str h.name),
    ("type", .str h.payload),
    ("direction", .ofOption (fun s : Side => .str s.name) h.side),
    ("is_connection", .bool h.connectable),
    ("displayName", .ofOption .str h.displayName)]

end Handle

end NodeEditor
