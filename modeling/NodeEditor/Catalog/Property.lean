import NodeEditor.Catalog.Kind
import NodeEditor.Json.Shape

/-!
Properties: the fields that a kind of node has for its configuration. An entry that cannot be read
becomes a property that says why, so that it costs no other entry.
-/

namespace NodeEditor

structure Choice where
  name : String
  value : Json

namespace Choice

instance : BEq Choice := ⟨fun a b => a.name == b.name && a.value == b.value⟩

def shape : RecordShape Choice where
  name := "SelectOption"
  blank := { name := "", value := .null }
  fields := [
    (Field.required "name" Shape.text fun v c => { c with name := v }).orNamed ["label"],
    .required "value" Shape.any fun v c => { c with value := v }]

def toJson (c : Choice) : Json :=
  .obj [("name", .str c.name), ("value", c.value)]

end Choice

structure Rules where
  pattern : Option String
  minLength : Option Nat
  maxLength : Option Nat
  message : Option String
deriving DecidableEq, Repr

namespace Rules

def none : Rules :=
  { pattern := .none, minLength := .none, maxLength := .none, message := .none }

def shape : RecordShape Rules where
  name := "ValidationRules"
  blank := none
  fields := [
    .optional "pattern" (Shape.optional Shape.text) fun v r => { r with pattern := v },
    .optional "minLength" (Shape.optional Shape.size) fun v r => { r with minLength := v },
    .optional "maxLength" (Shape.optional Shape.size) fun v r => { r with maxLength := v },
    .optional "message" (Shape.optional Shape.text) fun v r => { r with message := v }]

def toJson (r : Rules) : Json :=
  .obj [
    ("pattern", .ofOption .str r.pattern),
    ("minLength", .ofOption .ofNat r.minLength),
    ("maxLength", .ofOption .ofNat r.maxLength),
    ("message", .ofOption .str r.message)]

end Rules

structure Display where
  shown : Dict Json

namespace Display

def shape : RecordShape Display where
  name := "DisplayOptions"
  blank := { shown := {} }
  fields := [.optional "show" Shape.dict fun v _ => { shown := v }]

def toJson (d : Display) : Json :=
  .obj [("show", .obj d.shown.entries)]

end Display

structure Property where
  name : String
  displayName : Option String
  tag : String
  default : Option Json
  placeholder : Option String
  hint : Option String
  required : Bool
  rules : Option Rules
  display : Option Display
  colSpan : Option Nat
  options : List Choice
  min : Option Float
  max : Option Float
  step : Option Float
  serviceType : Option String
  language : Option String
  rows : Option Nat
  schemaError : Option String

namespace Property

-- A property with a name and a tag, and nothing else.
def plain (name tag : String) : Property where
  name := name
  displayName := none
  tag := tag
  default := none
  placeholder := none
  hint := none
  required := false
  rules := none
  display := none
  colSpan := none
  options := []
  min := none
  max := none
  step := none
  serviceType := none
  language := none
  rows := none
  schemaError := none

def shape : RecordShape Property where
  name := "PropertyDescriptor"
  blank := plain "" ""
  fields := [
    .required "name" Shape.text fun v p => { p with name := v },
    .optional "displayName" (Shape.optional Shape.text) fun v p => { p with displayName := v },
    .optional "type" Shape.text fun v p => { p with tag := v },
    .optional "default" (Shape.optional Shape.any) fun v p => { p with default := v },
    .optional "placeholder" (Shape.optional Shape.text) fun v p => { p with placeholder := v },
    .optional "hint" (Shape.optional Shape.text) fun v p => { p with hint := v },
    .optional "required" Shape.bool fun v p => { p with required := v },
    .optional "validation" (Shape.optional Rules.shape.read) fun v p => { p with rules := v },
    .optional "displayOptions" (Shape.optional Display.shape.read)
      fun v p => { p with display := v },
    .optional "colSpan" (Shape.optional Shape.byte) fun v p => { p with colSpan := v },
    .optional "options" (Shape.list Choice.shape.read) fun v p => { p with options := v },
    .optional "min" (Shape.optional Shape.float) fun v p => { p with min := v },
    .optional "max" (Shape.optional Shape.float) fun v p => { p with max := v },
    .optional "step" (Shape.optional Shape.float) fun v p => { p with step := v },
    .optional "serviceType" (Shape.optional Shape.text) fun v p => { p with serviceType := v },
    .optional "language" (Shape.optional Shape.text) fun v p => { p with language := v },
    .optional "rows" (Shape.optional Shape.short) fun v p => { p with rows := v }]

-- How a property is written; that it could not be read is not.
def toJson (p : Property) : Json :=
  .obj [
    ("name", .str p.name),
    ("displayName", .ofOption .str p.displayName),
    ("type", .str p.tag),
    ("default", p.default.getD .null),
    ("placeholder", .ofOption .str p.placeholder),
    ("hint", .ofOption .str p.hint),
    ("required", .bool p.required),
    ("validation", .ofOption Rules.toJson p.rules),
    ("displayOptions", .ofOption Display.toJson p.display),
    ("colSpan", .ofOption .ofNat p.colSpan),
    ("options", .arr (p.options.map Choice.toJson)),
    ("min", .ofOption .ofFloat p.min),
    ("max", .ofOption .ofFloat p.max),
    ("step", .ofOption .ofFloat p.step),
    ("serviceType", .ofOption .str p.serviceType),
    ("language", .ofOption .str p.language),
    ("rows", .ofOption .ofNat p.rows)]

def textUnder (key : String) (j : Json) : String :=
  ((j.get? key).bind Json.text?).getD ""

-- The stand-in for an entry that cannot be read. It keeps the name and the tag if they are texts.
def unreadable (entry : Json) (reason : String) : Property :=
  { plain (textUnder "name" entry) (textUnder "type" entry) with schemaError := some reason }

def ofEntry (entry : Json) : Property :=
  match shape.read entry with
  | .ok p => p
  | .error e => unreadable entry e.message

def readList (j : Json) : Except ShapeError (List Property) :=
  (Shape.list Shape.any j).map (List.map ofEntry)

def kind (p : Property) : Except UnknownKind PropertyKind :=
  match p.schemaError with
  | some reason => .error { tag := p.tag, reason := some reason }
  | none => PropertyKind.ofTag p.tag

def label (p : Property) : String :=
  p.displayName.getD p.name

def columns (p : Property) : Nat :=
  p.colSpan.getD 2

def dependencies (p : Property) : List String :=
  match p.display with
  | some d => d.shown.keys
  | none => []

def shownWhen (p : Property) (dependency : String) (value : Json) : Property :=
  let shown := (p.display.getD { shown := {} }).shown
  { p with display := some { shown := shown.insert dependency value } }

end Property

end NodeEditor
