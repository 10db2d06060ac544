import NodeEditor.Json.Basic
import NodeEditor.Text.Case

/-!
The kinds of properties and the values that each of them stores.
-/

namespace NodeEditor

inductive PropertyKind where
  | text
  | textarea
  | select
  | checkbox
  | password
  | range
  | dateTime
  | code
  | json
  | credentialSelect
  | readOnly
  | title
deriving DecidableEq, Repr

inductive ValueType where
  | text
  | boolean
  | number
  | any
  | nothing
deriving DecidableEq, Repr

namespace ValueType

def name : ValueType → String
  | .text => "text"
  | .boolean => "boolean"
  | .number => "number"
  | .any => "any"
  | .nothing => "nothing"

-- Whether a value is of the type. Null stands for a cleared field and is of every type.
def accepts : ValueType → Json → Bool
  | _, .null => true
  | .text, .str _ => true
  | .boolean, .bool _ => true
  | .number, .num _ => true
  | .any, _ => true
  | _, _ => false

end ValueType

-- Why a property has no kind: its tag is none, or its entry could not be read for a reason.
structure UnknownKind where
  tag : String
  reason : Option String
deriving DecidableEq, Repr

def UnknownKind.message (e : UnknownKind) : String :=
  match e.reason with
  | some reason => s!"malformed property schema: {reason}"
  | none => if e.tag = "" then "property has no type" else s!"unsupported property type '{e.tag}'"

namespace PropertyKind

def tag : PropertyKind → String
  | .text => "text"
  | .textarea => "textarea"
  | .select => "select"
  | .checkbox => "checkbox"
  | .password => "password"
  | .range => "range"
  | .dateTime => "date_time"
  | .code => "code"
  | .json => "json"
  | .credentialSelect => "credential_select"
  | .readOnly => "read_only"
  | .title => "title"

def valueType : PropertyKind → ValueType
  | .text | .textarea | .password | .dateTime | .code | .credentialSelect => .text
  | .checkbox => .boolean
  | .range => .number
  | .select | .json | .readOnly => .any
  | .title => .nothing

def spellings : List (String × PropertyKind) := [
  ("text", .text), ("string", .text), ("textarea", .textarea), ("select", .select),
  ("options", .select), ("checkbox", .checkbox), ("boolean", .checkbox),
  ("password", .password), ("range", .range), ("slider", .range), ("datetime", .dateTime),
  ("code", .code), ("json", .json), ("credentialselect", .credentialSelect),
  ("credential", .credentialSelect), ("credentialsselect", .credentialSelect),
  ("readonly", .readOnly), ("title", .title), ("notice", .title)]

def normalizeTag (tag : String) : String :=
  String.ofList ((tag.toList.filter fun c => c ≠ '-' && c ≠ '_').flatMap Text.lowerChar)

def ofTag (tag : String) : Except UnknownKind PropertyKind :=
  match spellings.lookup (normalizeTag tag) with
  | some kind => .ok kind
  | none => .error { tag := tag, reason := none }

end PropertyKind

end NodeEditor
