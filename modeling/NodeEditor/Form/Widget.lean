import NodeEditor.Form.Rules
import NodeEditor.Form.SourceText
import NodeEditor.Json.Writer

/-!
Widgets: what a form shows for one property. The control holds the state of its kind, computed from
the value, so that showing it needs no more reading.
-/

namespace NodeEditor

structure Credential where
  id : String
  name : String
  serviceType : String
deriving DecidableEq, Repr

namespace Credential

def shape : RecordShape Credential where
  name := "CredentialChoice"
  blank := { id := "", name := "", serviceType := "" }
  fields := [
    .required "id" Shape.text fun v c => { c with id := v },
    .required "name" Shape.text fun v c => { c with name := v },
    .required "serviceType" Shape.text fun v c => { c with serviceType := v }]

def toJson (c : Credential) : Json :=
  .obj [("id", .str c.id), ("name", .str c.name), ("serviceType", .str c.serviceType)]

end Credential

inductive Control where
  | textInput (value : String)
  | textArea (value : String) (rows : Nat)
  | codeEditor (language : Option String) (rows : Nat) (lines : List NumberedLine) (text : String)
  | jsonEditor (text : String) (parsed : Option Json) (parseError : Option String)
  | select (options : List Choice) (selected : Option Nat)
  | checkbox (checked : Bool)
  | password (value masked : String)
  | range (min max step value : Float) (label : String)
  | dateTime (value : String) (parsed : Option Time.Moment) (parseError : Option String)
  | readOnly (display : String)
  | credentialPicker (serviceType : Option String) (selected : Option String)
      (choices : List Credential)
  | title (text : String)
  | schemaError (message : String)

namespace Control

def shownText : Option Json → String
  | none => ""
  | some .null => ""
  | some j => j.plainText

-- The editor of a structured value. A text is what is being typed.
def ofJson : Option Json → Control
  | none => .jsonEditor "" none none
  | some .null => .jsonEditor "" none none
  | some (.str s) =>
    if Text.isBlankText s then .jsonEditor s none none
    else
      match Json.parse s with
      | .ok j => .jsonEditor s (some j) none
      | .error e => .jsonEditor s none (some e.message)
  | some j => .jsonEditor j.pretty (some j) none

def ofDateTime (value : Option Json) : Control :=
  let text := shownText value
  if Text.isBlankText text then .dateTime text none none
  else
    match readPicked text with
    | .ok m => .dateTime text (some m) none
    | .error e => .dateTime text none (some e)

def clamp (low high n : Float) : Float :=
  if n < low then low else if n > high then high else n

-- The slider of a number: from zero to a hundred in steps of one where nothing else is said.
def ofRange (p : Property) (value : Option Json) : Control :=
  let low := p.min.getD 0.0
  let top := p.max.getD 100.0
  let high := if top < low then low else top
  let current := clamp low high ((value.bind Json.float?).getD low)
  let step := (p.step.filter fun s => s > 0.0).getD 1.0
  .range low high step current (numberLabel current)

def build (p : Property) (kind : PropertyKind) (stored : Option Json)
    (credentials : List Credential) : Control :=
  let value := effectiveValue p stored
  match kind with
  | .text => .textInput (shownText value)
  | .textarea => .textArea (shownText value) (p.rows.getD 4)
  | .code =>
    let text := shownText value
    .codeEditor p.language (p.rows.getD 10) (numberLines text) text
  | .json => ofJson value
  | .select => .select p.options (value.bind fun v => p.options.findIdx? (·.value == v))
  | .checkbox => .checkbox ((value.bind Json.bool?).getD false)
  | .password =>
    let text := shownText value
    .password text (String.ofList (List.replicate text.toList.length '•'))
  | .range => ofRange p value
  | .dateTime => ofDateTime value
  | .readOnly => .readOnly (shownText value)
  | .credentialSelect =>
    .credentialPicker p.serviceType (value.bind Json.text?)
      (credentials.filter fun c =>
        match p.serviceType with
        | some service => c.serviceType = service
        | none => true)
  | .title => .title p.label

-- How a control is written. The value behind a password is not.
def toJson : Control → Json
  | .textInput value => .obj [("widget", .str "text_input"), ("value", .str value)]
  | .textArea value rows =>
    .obj [("widget", .str "text_area"), ("value", .str value), ("rows", .ofNat rows)]
  | .codeEditor language rows lines text =>
    .obj [
      ("widget", .str "code_editor"),
      ("language", .ofOption .str language),
      ("rows", .ofNat rows),
      ("lines", .arr (lines.map NumberedLine.toJson)),
      ("text", .str text)]
  | .jsonEditor text parsed parseError =>
    .obj [
      ("widget", .str "json_editor"),
      ("text", .str text),
      ("parsed", parsed.getD .null),
      ("parse_error", .ofOption .str parseError)]
  | .select options selected =>
    .obj [
      ("widget", .str "select"),
      ("options", .arr (options.map Choice.toJson)),
      ("selected", .ofOption .ofNat selected)]
  | .checkbox checked => .obj [("widget", .str "checkbox"), ("checked", .bool checked)]
  | .password _ masked => .obj [("widget", .str "password"), ("masked", .str masked)]
  | .range min max step value label =>
    .obj [
      ("widget", .str "range"),
      ("min", .ofFloat min),
      ("max", .ofFloat max),
      ("step", .ofFloat step),
      ("value", .ofFloat value),
      ("value_label", .str label)]
  | .dateTime value parsed parseError =>
    .obj [
      ("widget", .str "date_time"),
      ("value", .str value),
      ("parsed", .ofOption (fun m => .str (Time.Moment.text m)) parsed),
      ("parse_error", .ofOption .str parseError)]
  | .readOnly display => .obj [("widget", .str "read_only"), ("display", .str display)]
  | .credentialPicker serviceType selected choices =>
    .obj [
      ("widget", .str "credential_picker"),
      ("service_type", .ofOption .str serviceType),
      ("selected", .ofOption .str selected),
      ("choices", .arr (choices.map Credential.toJson))]
  | .title text => .obj [("widget", .str "title"), ("text", .str text)]
  | .schemaError message => .obj [("widget", .str "schema_error"), ("message", .str message)]

end Control

structure Widget where
  property : String
  label : String
  columns : Nat
  required : Bool
  hint : Option String
  placeholder : Option String
  control : Control
  errors : List String

namespace Widget

def hasErrors (w : Widget) : Bool :=
  !w.errors.isEmpty

-- The widget of a property. A property without a readable kind shows why.
def build [Pattern.Capacity] (p : Property) (values : ValueBag) (credentials : List Credential) :
    Widget :=
  let value := values.get? p.name
  let (control, errors) :=
    match p.kind with
    | .ok kind => (Control.build p kind value credentials, fieldErrors p kind value)
    | .error e => (Control.schemaError e.message, [])
  { property := p.name
    label := p.label
    columns := p.columns
    required := p.required
    hint := p.hint
    placeholder := p.placeholder
    control := control
    errors := errors }

def toJson (w : Widget) : Json :=
  .obj [
    ("property", .str w.property),
    ("label", .str w.label),
    ("colSpan", .ofNat w.columns),
    ("required", .bool w.required),
    ("hint", .ofOption .str w.hint),
    ("placeholder", .ofOption .str w.placeholder),
    ("control", w.control.toJson),
    ("errors", .ofTexts w.errors)]

end Widget

end NodeEditor
