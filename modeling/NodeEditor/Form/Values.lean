import NodeEditor.Catalog.Property
import NodeEditor.Decimal.Reading
import NodeEditor.Text.Blank

/-!
The values of a node by the names of its properties. Values come from outside in any shape;
`conform` makes those of declared properties fit their kinds and leaves all others alone.
-/

namespace NodeEditor

abbrev ValueBag := Dict Json

inductive FormError where
  | unknownProperty (property : String)
  | unsupportedKind (property tag : String)
  | typeMismatch (property : String) (expected : ValueType)
  | notEditable (property : String)
deriving DecidableEq, Repr

def FormError.message : FormError → String
  | .unknownProperty property => s!"unknown property '{property}'"
  | .unsupportedKind property tag => s!"property '{property}' has unsupported type '{tag}'"
  | .typeMismatch property expected => s!"property '{property}' expects a {expected.name} value"
  | .notEditable property => s!"property '{property}' is not editable"

def ValueBag.text? (values : ValueBag) (name : String) : Option String :=
  (values.get? name).bind Json.text?

-- A value converted to what a kind stores: numbers and booleans written as text are read, numbers
-- become texts.
def coerce? (kind : PropertyKind) (value : Json) : Option Json :=
  if kind.valueType.accepts value then some value
  else
    match kind.valueType, value with
    | .number, .str s =>
      match Decimal.float? (Text.trimChars s.toList) with
      | some f => if f.isFinite then some (.num (.float f)) else none
      | none => none
    | .boolean, .str s =>
      if Text.trim s = "true" then some (.bool true)
      else if Text.trim s = "false" then some (.bool false)
      else none
    | .text, .num n => some (.str n.text)
    | _, _ => none

-- One property's part in conforming: a value that does not fit is replaced by the default, or
-- dropped, and reported.
def conformProperty (state : ValueBag × List FormError) (p : Property) :
    ValueBag × List FormError :=
  let (bag, issues) := state
  match bag.get? p.name with
  | none => (bag, issues)
  | some value =>
    match p.kind with
    | .error e => (bag, issues ++ [.unsupportedKind p.name e.tag])
    | .ok kind =>
      match coerce? kind value with
      | some conformed => (bag.insert p.name conformed, issues)
      | none =>
        let issues := issues ++ [.typeMismatch p.name kind.valueType]
        match p.default with
        | some value => (bag.insert p.name value, issues)
        | none => (bag.erase p.name, issues)

-- Makes values fit the declared properties, in their order, and reports those that did not.
def conform (properties : List Property) (raw : ValueBag) : ValueBag × List FormError :=
  properties.foldl conformProperty (raw, [])

-- Whether a credential's secret may fill a property of the kind.
def fillable (kind : PropertyKind) : Bool :=
  kind ≠ .credentialSelect && kind ≠ .title

def hydrateProperty (secret : Dict Json) (state : ValueBag × List String) (p : Property) :
    ValueBag × List String :=
  let (bag, filled) := state
  match p.kind with
  | .error _ => (bag, filled)
  | .ok kind =>
    if fillable kind then
      match (secret.get? p.name).bind (coerce? kind) with
      | some value => (bag.insert p.name value, filled ++ [p.name])
      | none => (bag, filled)
    else (bag, filled)

-- Copies the fields of a secret into the properties of the same names. Gives the names filled.
def hydrate (properties : List Property) (values : ValueBag) (secret : Dict Json) :
    ValueBag × List String :=
  properties.foldl (hydrateProperty secret) (values, [])

-- Whether a property shows: every value it depends on is there and equal to the wanted one.
def isVisible (p : Property) (values : ValueBag) : Bool :=
  match p.display with
  | none => true
  | some d => d.shown.entries.all fun e =>
    match values.get? e.1 with
    | some value => value == e.2
    | none => false

end NodeEditor
