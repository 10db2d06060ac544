import NodeEditor.Form.Values
import NodeEditor.Json.Reader
import NodeEditor.Json.Writer
import NodeEditor.Text.Case

/-!
The request of a node as a command for a shell. Everything that comes from the values is quoted, the
method apart.
-/

namespace NodeEditor.Curl

-- A text between single quotes. A quote inside it ends the quotes, stands escaped, and starts them
-- again.
def shellQuote (s : String) : String :=
  let escaped (c : Char) : List Char := if c = '\'' then ['\'', '\\', '\'', '\''] else [c]
  String.ofList ('\'' :: s.toList.flatMap escaped ++ ['\''])

-- The name and value of a header in a list: an object with a name, or a key instead.
def headerItem? (item : Json) : Option (String × String) := do
  let name ← (item.get? "name").orElse fun _ => item.get? "key"
  let name ← name.text?
  pure (name, ((item.get? "value").map Json.plainText).getD "")

-- The headers that a value holds: an object, a list, or a text that holds one of these. A text
-- inside a text is shorter than the text, so `fuel` of the length of the text is enough.
def headersWithin : Nat → Json → List (String × String)
  | fuel, .str s =>
    match fuel, Json.parse s with
    | fuel + 1, .ok j => headersWithin fuel j
    | _, _ => []
  | _, .obj entries => entries.map fun (name, value) => (name, value.plainText)
  | _, .arr items => items.filterMap headerItem?
  | _, _ => []

def headers (j : Json) : List (String × String) :=
  match j with
  | .str s => headersWithin (s.toList.length + 1) (.str s)
  | j => headersWithin 0 j

-- The body that a value holds; a blank text is none.
def body? : Json → Option String
  | .null => none
  | .str s => if Text.isBlankText s then none else some s
  | j => some j.compact

-- The text of a value without blanks around it, if any is left.
def filledText? (values : ValueBag) (name : String) : Option String :=
  ((values.text? name).map Text.trim).filter (· ≠ "")

-- The command for the request that the values describe, if they have an address.
def command? (values : ValueBag) : Option String :=
  (filledText? values "url").map fun url =>
    let method := Text.toUpper ((filledText? values "method").getD "GET")
    let headerParts := (((values.get? "headers").map headers).getD []).map
      fun (name, value) => "-H " ++ shellQuote s!"{name}: {value}"
    let bodyPart := ((values.get? "body").bind body?).toList.map fun b => "--data " ++ shellQuote b
    String.intercalate " \\\n  " (s!"curl -X {method} {shellQuote url}" :: headerParts ++ bodyPart)

end NodeEditor.Curl
