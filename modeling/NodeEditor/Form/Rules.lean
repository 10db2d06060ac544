import NodeEditor.Form.NumberLabel
import NodeEditor.Form.Values
import NodeEditor.Json.Reader
import NodeEditor.Pattern.Reading
import NodeEditor.Time.Reading

/-!
The messages of a field: what is wrong with its value. A missing value is checked as the default
that the form shows.
-/

namespace NodeEditor

def isUnfilled : Json → Bool
  | .null => true
  | .str s => Text.isBlankText s
  | .arr [] => true
  | _ => false

-- Reads what a date and time field holds, or says what is wrong.
def readPicked (s : String) : Except String Time.Moment :=
  match Time.picked? (Text.trimChars s.toList) with
  | some m => .ok m
  | none => .error s!"'{Text.trim s}' is not a valid date and time"

section

variable [Pattern.Capacity]

-- Reads a pattern that the whole text must match. A pattern that cannot be read is none.
def wholePattern? (pattern : String) : Option Pattern.Regex :=
  Pattern.parse? ("^(?:" ++ pattern ++ ")$").toList

-- The message about a pattern, if the text does not match it.
def patternErrors (p : Property) (rules : Rules) (text : String) : List String :=
  match rules.pattern.bind wholePattern? with
  | none => []
  | some regex =>
    if regex.matchesSome text.toList then []
    else [rules.message.getD s!"{p.label} has an invalid format"]

def textErrors (p : Property) (text : String) : List String :=
  match p.rules with
  | none => []
  | some rules =>
    let length := text.toList.length
    let short :=
      match rules.minLength with
      | some least => if length < least then [s!"Must be at least {least} characters"] else []
      | none => []
    let long :=
      match rules.maxLength with
      | some most => if length > most then [s!"Must be at most {most} characters"] else []
      | none => []
    short ++ long ++ patternErrors p rules text

end

def boundErrors (p : Property) (n : Float) : List String :=
  let low :=
    match p.min with
    | some least => if n < least then [s!"Must be at least {numberLabel least}"] else []
    | none => []
  let high :=
    match p.max with
    | some most => if n > most then [s!"Must be at most {numberLabel most}"] else []
    | none => []
  low ++ high

def kindErrors (p : Property) (kind : PropertyKind) (value : Json) : List String :=
  match kind with
  | .range =>
    match value.float? with
    | some n => boundErrors p n
    | none => []
  | .json =>
    match value with
    | .str s =>
      match Json.parse s with
      | .ok _ => []
      | .error e => [s!"Invalid JSON: {e.message}"]
    | _ => []
  | .dateTime =>
    match value with
    | .str s =>
      match readPicked s with
      | .ok _ => []
      | .error e => [e]
    | _ => []
  | .select =>
    if p.options.isEmpty || p.options.any (·.value == value) then []
    else ["Not one of the available options"]
  | _ => []

-- The value that a field shows: the stored one, else the default.
def effectiveValue (p : Property) (value : Option Json) : Option Json :=
  value.orElse fun _ => p.default

def fieldErrors [Pattern.Capacity] (p : Property) (kind : PropertyKind) (value : Option Json) :
    List String :=
  if kind = .title then []
  else
    match (effectiveValue p value).filter (!isUnfilled ·) with
    | none => if p.required then [s!"{p.label} is required"] else []
    | some value =>
      if kind.valueType.accepts value then
        (match value with
          | .str s => textErrors p s
          | _ => []) ++ kindErrors p kind value
      else [s!"Expected a {kind.valueType.name} value"]

end NodeEditor
