import NodeEditor.Form.Values

/-!
Derived fields: values that follow from other values.
-/

namespace NodeEditor

-- A rule that computes the value of one property from others.
structure Derivation where
  target : String
  inputs : List String
  compute : ValueBag → Option Json

namespace Derivation

-- The last parts of a webhook's address: its path without blanks and leading slashes, if any is
-- left.
def webhookPath? (values : ValueBag) (path : String) : Option String :=
  match values.text? path with
  | none => none
  | some raw =>
    let cleaned := Text.trimStartOf '/' (Text.trim raw)
    if cleaned = "" then none else some cleaned

-- The address on which a webhook listens. The environment "test" has addresses of its own.
def webhookAddress? (base path environment : String) (values : ValueBag) : Option String :=
  (webhookPath? values path).map fun cleaned =>
    let segment := if values.text? environment = some "test" then "webhook-test" else "webhook"
    let root := Text.trimEndOf '/' base
    s!"{root}/{segment}/{cleaned}"

def webhook (base target path environment : String) : Derivation where
  target := target
  inputs := [path, environment]
  compute values := (webhookAddress? base path environment values).map .str

def standardWebhook (base : String) : Derivation :=
  webhook base "webhookUrl" "path" "environment"

-- Writes the value of a rule, or clears its target where there is none. Gives the target if its
-- value changed.
def run (state : ValueBag × List String) (d : Derivation) : ValueBag × List String :=
  let (values, changed) := state
  match d.compute values with
  | some value =>
    if values.get? d.target == some value then (values, changed)
    else (values.insert d.target value, changed ++ [d.target])
  | none =>
    if values.contains d.target then (values.erase d.target, changed ++ [d.target])
    else (values, changed)

def runAll (rules : List Derivation) (values : ValueBag) : ValueBag × List String :=
  rules.foldl run (values, [])

end Derivation

end NodeEditor
