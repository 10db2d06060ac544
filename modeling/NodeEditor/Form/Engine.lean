import NodeEditor.Form.Derivation
import NodeEditor.Form.Widget

/-!
Forms: widgets for the properties that show, edits with the derived fields that follow from them, and
the report of all that is wrong.
-/

namespace NodeEditor

structure Report where
  errors : Dict (List String)

namespace Report

def empty : Report := { errors := {} }

def push (r : Report) (property message : String) : Report :=
  { errors := r.errors.insert property ((r.errors.get? property).getD [] ++ [message]) }

def errorsFor (r : Report) (property : String) : List String :=
  (r.errors.get? property).getD []

def isValid (r : Report) : Bool :=
  r.errors.isEmpty

def toJson (r : Report) : Json :=
  .obj [("errors", .obj (r.errors.entries.map fun e => (e.1, Json.ofTexts e.2)))]

end Report

-- The report on the fields that show; fields without a readable kind are passed over.
def validate [Pattern.Capacity] (properties : List Property) (values : ValueBag) : Report :=
  properties.foldl (fun report p =>
    if isVisible p values then
      match p.kind with
      | .ok kind =>
        (fieldErrors p kind (values.get? p.name)).foldl (·.push p.name) report
      | .error _ => report
    else report) .empty

-- What forms need besides properties and values: derived fields, and credentials to choose.
structure Engine where
  derivations : List Derivation
  credentials : List Credential

namespace Engine

def bare : Engine := { derivations := [], credentials := [] }

-- The engine for nodes that listen to webhooks at a base address.
def standard (webhookBase : String) : Engine :=
  { derivations := [.standardWebhook webhookBase], credentials := [] }

def render [Pattern.Capacity] (e : Engine) (properties : List Property) (values : ValueBag) :
    List Widget :=
  (properties.filter (isVisible · values)).map fun p => Widget.build p values e.credentials

def declared (e : Engine) (properties : List Property) : List Derivation :=
  e.derivations.filter fun d => properties.any (·.name = d.target)

-- Computes all declared derived fields anew. Gives the targets whose values changed.
def derive (e : Engine) (properties : List Property) (values : ValueBag) :
    ValueBag × List String :=
  Derivation.runAll (e.declared properties) values

-- The property that an edit is about, and the value in its shape.
def acceptEdit (properties : List Property) (name : String) (value : Json) :
    Except FormError Json := do
  match properties.find? (·.name = name) with
  | none => .error (.unknownProperty name)
  | some p =>
    match p.kind with
    | .error e => .error (.unsupportedKind p.name e.tag)
    | .ok kind =>
      if kind = .title ∨ kind = .readOnly then .error (.notEditable p.name)
      else
        match coerce? kind value with
        | none => .error (.typeMismatch p.name kind.valueType)
        | some value => .ok value

-- Sets a property and computes the derived fields that depend on it. Gives the names of all that
-- changed, the property first; nothing changes if the property has the value already.
def edit (e : Engine) (properties : List Property) (values : ValueBag) (name : String)
    (value : Json) : Except FormError (ValueBag × List String) := do
  let value ← acceptEdit properties name value
  if values.get? name == some value then .ok (values, [])
  else
    let dependents := (e.declared properties).filter (·.inputs.contains name)
    let (values, changed) := Derivation.runAll dependents (values.insert name value)
    .ok (values, (name :: changed).eraseDups)

end Engine

end NodeEditor
