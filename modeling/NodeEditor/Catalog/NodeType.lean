import NodeEditor.Catalog.Handle
import NodeEditor.Catalog.Property

/-!
Kinds of nodes: what a kind is called and how it looks, its handles, the properties of its
configuration and the actions it supports.
-/

namespace NodeEditor

inductive IconSource where
  | symbol (name : String)
  | asset (path : String)
deriving DecidableEq, Repr

namespace IconSource

-- A text names a symbol; an object with a path names an asset.
def read : Json → Except ShapeError IconSource
  | .str s => .ok (.symbol s)
  | .obj entries =>
    match entries.lookup "path" with
    | some (.str path) => .ok (.asset path)
    | _ => .error (.noVariant "IconSpec")
  | _ => .error (.noVariant "IconSpec")

def toJson : IconSource → Json
  | .symbol name => .str name
  | .asset path => .obj [("path", .str path)]

end IconSource

structure Gradient where
  start : String
  stop : String
deriving DecidableEq, Repr

namespace Gradient

def neutral : Gradient := { start := "#4b5563", stop := "#1f2937" }

def read : Json → Except ShapeError Gradient
  | .arr [] => .error (.invalidLength 0 expected)
  | .arr [a] => do
    let _ ← Shape.text a
    .error (.invalidLength 1 expected)
  | .arr (a :: b :: rest) => do
    let start ← Shape.text a
    let stop ← Shape.text b
    if rest.isEmpty then .ok { start := start, stop := stop }
    else .error (.invalidLength (rest.length + 2) "fewer elements in array")
  | j => .error (.invalidType j "tuple struct GradientPair")
where
  expected : String := "tuple struct GradientPair with 2 elements"

def toJson (g : Gradient) : Json :=
  .arr [.str g.start, .str g.stop]

end Gradient

structure Capabilities where
  timer : Bool
  webhook : Bool
  scrape : Bool
  curl : Bool
deriving DecidableEq, Repr

namespace Capabilities

def none : Capabilities := { timer := false, webhook := false, scrape := false, curl := false }

def isEmpty (c : Capabilities) : Bool :=
  !(c.timer || c.webhook || c.scrape || c.curl)

def shape : RecordShape Capabilities where
  name := "Capabilities"
  blank := none
  fields := [
    (Field.optional "timerControls" Shape.bool fun v c => { c with timer := v }).orNamed
      ["supportsTimerControls"],
    (Field.optional "webhookControls" Shape.bool fun v c => { c with webhook := v }).orNamed
      ["supportsWebhookControls"],
    (Field.optional "scrapeControls" Shape.bool fun v c => { c with scrape := v }).orNamed
      ["supportsScrapeControls"],
    (Field.optional "curlExport" Shape.bool fun v c => { c with curl := v }).orNamed
      ["supportsCurlExport"]]

def toJson (c : Capabilities) : Json :=
  .obj [
    ("timerControls", .bool c.timer),
    ("webhookControls", .bool c.webhook),
    ("scrapeControls", .bool c.scrape),
    ("curlExport", .bool c.curl)]

end Capabilities

structure NodeType where
  type : String
  name : String
  displayName : Option String
  description : Option String
  category : Option String
  icon : Option IconSource
  colors : Option Gradient
  inputs : List Handle
  outputs : List Handle
  properties : List Property
  capabilities : Capabilities

namespace NodeType

def plain (type name : String) : NodeType where
  type := type
  name := name
  displayName := none
  description := none
  category := none
  icon := none
  colors := none
  inputs := []
  outputs := []
  properties := []
  capabilities := .none

def shape : RecordShape NodeType where
  name := "NodeTypeDescriptor"
  blank := plain "" ""
  fields := [
    .required "type" Shape.text fun v t => { t with type := v },
    .optional "name" Shape.text fun v t => { t with name := v },
    .optional "displayName" (Shape.optional Shape.text) fun v t => { t with displayName := v },
    .optional "description" (Shape.optional Shape.text) fun v t => { t with description := v },
    .optional "category" (Shape.optional Shape.text) fun v t => { t with category := v },
    .optional "icon" (Shape.optional IconSource.read) fun v t => { t with icon := v },
    .optional "colors" (Shape.optional Gradient.read) fun v t => { t with colors := v },
    .optional "inputs" (Shape.list Handle.shape.read) fun v t => { t with inputs := v },
    .optional "outputs" (Shape.list Handle.shape.read) fun v t => { t with outputs := v },
    .optional "properties" Property.readList fun v t => { t with properties := v },
    .optional "capabilities" Capabilities.shape.read fun v t => { t with capabilities := v }]

def toJson (t : NodeType) : Json :=
  .obj [
    ("type", .str t.type),
    ("name", .str t.name),
    ("displayName", .ofOption .str t.displayName),
    ("description", .ofOption .str t.description),
    ("category", .ofOption .str t.category),
    ("icon", .ofOption IconSource.toJson t.icon),
    ("colors", .ofOption Gradient.toJson t.colors),
    ("inputs", .arr (t.inputs.map Handle.toJson)),
    ("outputs", .arr (t.outputs.map Handle.toJson)),
    ("properties", .arr (t.properties.map Property.toJson)),
    ("capabilities", t.capabilities.toJson)]

-- What the kind is called: its display name, else its name, else its type.
def label (t : NodeType) : String :=
  match t.displayName with
  | some display => if display ≠ "" then display else inner
  | none => inner
where
  inner : String := if t.name ≠ "" then t.name else t.type

def input? (t : NodeType) (name : String) : Option Handle :=
  t.inputs.find? (·.name = name)

def output? (t : NodeType) (name : String) : Option Handle :=
  t.outputs.find? (·.name = name)

-- The first input of that name, if edges may end at it.
def connectionInput? (t : NodeType) (name : String) : Option Handle :=
  (t.input? name).filter (·.connectable)

-- The first output of that name, if edges may start at it.
def connectionOutput? (t : NodeType) (name : String) : Option Handle :=
  (t.output? name).filter (·.connectable)

def property? (t : NodeType) (name : String) : Option Property :=
  t.properties.find? (·.name = name)

-- The declared defaults; of two for one name the later counts.
def defaults (t : NodeType) : Dict Json :=
  Dict.ofList (t.properties.filterMap fun p => p.default.map fun v => (p.name, v))

-- The conditions on names that no property has, each with the property that it hides.
def unresolvedDependencies (t : NodeType) : List (String × String) :=
  t.properties.flatMap fun p =>
    (p.dependencies.filter fun d => (t.property? d).isNone).map fun d => (p.name, d)

end NodeType

end NodeEditor
