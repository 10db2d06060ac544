import NodeEditor.Decimal.Reading
import NodeEditor.Decimal.Shortest
import NodeEditor.Live.Settings
import NodeEditor.Text.Case

/-!
Settings from variables of the environment. The name of a variable is a path into the settings; its
text is taken for a boolean, an integer or a number if it is one, and then converted to what the
setting at that path holds.
-/

namespace NodeEditor.Inspector

structure Config where
  settings : Settings
  pretty : Bool
deriving DecidableEq, Repr

inductive Scalar where
  | bool (value : Bool)
  | int (value : Int)
  | float (value : Float)
  | text (value : String)

inductive Tree where
  | leaf (value : Scalar)
  | node (branches : List (String × Tree))

structure ConfigError where
  found : String
  expected : String
  path : String
  fromEnvironment : Bool
deriving DecidableEq, Repr

def ConfigError.message (e : ConfigError) : String :=
  s!"invalid type: {e.found}, expected {e.expected} for key `{e.path}`" ++
    (if e.fromEnvironment then " in the environment" else "")

namespace Scalar

def int? (s : String) : Option Int :=
  let (negative, digits) := Decimal.takeSign s.toList
  if digits = [] ∨ !digits.all Char.isDigit then none
  else
    let n : Int := Decimal.digitsValue digits
    let n := if negative then -n else n
    if -0x8000000000000000 ≤ n ∧ n < 0x8000000000000000 then some n else none

def ofText (s : String) : Scalar :=
  if Text.toLower s = "true" then .bool true
  else if Text.toLower s = "false" then .bool false
  else
    match int? s, Decimal.float? s.toList with
    | some n, _ => .int n
    | none, some f => .float f
    | none, none => .text s

def floatText (f : Float) : String :=
  if f.isNaN then "NaN"
  else if f.isInf then (if f < 0.0 then "-inf" else "inf")
  else Decimal.Layout.positional.text f

def described : Scalar → String
  | .bool b => s!"boolean `{b}`"
  | .int n => s!"64-bit integer `{n}`"
  | .float f => s!"floating point `{floatText f}`"
  | .text s => s!"string {Text.quoted s}"

-- What a value is, where a group of settings is wanted.
def describedInGroup : Scalar → String
  | .int n => s!"integer `{n}`"
  | .float f =>
    let text := floatText f
    let whole := f.isFinite && !text.toList.contains '.'
    s!"floating point `{text}" ++ (if whole then ".0`" else "`")
  | v => v.described

def wordBool? (s : String) : Option Bool :=
  let word := Text.toLower s
  if ["true", "on", "yes"].contains word then some true
  else if ["false", "off", "no"].contains word then some false
  else none

-- A value as a boolean: a number that is not zero is true.
def toBool? : Scalar → Option Bool
  | .bool b => some b
  | .int n => some (n ≠ 0)
  | .float f => some (f != 0.0)
  | .text s =>
    if s = "1" then some true else if s = "0" then some false else wordBool? s

-- A number rounded to an integer, a half away from zero, and moved into 64 bits.
def roundToCount (f : Float) : Nat :=
  f.round.toUInt64.toNat

def toCount : Scalar → Except String Nat
  | .bool b => .ok (if b then 1 else 0)
  | .int n => if 0 ≤ n then .ok n.toNat else .error "an unsigned 64 bit or less integer"
  | .float f => .ok (roundToCount f)
  | .text s =>
    match wordBool? s with
    | some b => .ok (if b then 1 else 0)
    | none => .error "an integer"

def toText : Scalar → String
  | .bool b => toString b
  | .int n => toString n
  | .float f => floatText f
  | .text s => s

end Scalar

namespace Tree

def empty : Tree := .node []

-- Puts a branch over an earlier one of the same name.
def setBranch (name : String) (t : Tree) (branches : List (String × Tree)) :
    List (String × Tree) :=
  (name, t) :: branches.filter (·.1 ≠ name)

-- Puts a value at a path. A value on the way gives place to a group.
def insert (value : Scalar) : List String → Tree → Tree
  | [], _ => .leaf value
  | name :: path, t =>
    let branches :=
      match t with
      | .node branches => branches
      | .leaf _ => []
    .node (setBranch name (insert value path ((branches.lookup name).getD empty)) branches)

def branches (t : Tree) (group path : String) : Except ConfigError (List (String × Tree)) :=
  match t with
  | .node branches => .ok branches
  | .leaf v =>
    .error { found := v.describedInGroup, expected := "struct " ++ group, path := path,
             fromEnvironment := false }

-- A single setting, converted; `wanted` says what is wanted of a group.
def scalar {α : Type} (t : Tree) (path wanted : String) (convert : Scalar → Except String α) :
    Except ConfigError α :=
  match t with
  | .node _ => .error { found := "map", expected := wanted, path := path, fromEnvironment := false }
  | .leaf v =>
    match convert v with
    | .ok a => .ok a
    | .error expected =>
      .error { found := v.described, expected := expected, path := path, fromEnvironment := true }

def bool (t : Tree) (path : String) : Except ConfigError Bool :=
  t.scalar path "a boolean" fun v =>
    match v.toBool? with
    | some b => .ok b
    | none => .error "a boolean"

def count (t : Tree) (path : String) : Except ConfigError Nat :=
  t.scalar path "an integer" Scalar.toCount

def text (t : Tree) (path : String) : Except ConfigError String :=
  t.scalar path "a string" fun v => .ok v.toText

end Tree

-- How one setting of a group is read from the tree below it.
structure Setting (α : Type) where
  name : String
  read : Tree → String → α → Except ConfigError α

def Setting.of {α β : Type} (name : String) (read : Tree → String → Except ConfigError β)
    (set : β → α → α) : Setting α where
  name := name
  read t path a := (read t path).map (set · a)

-- Reads a group of settings; those that are not there keep their defaults.
def readGroup {α : Type} (settings : List (Setting α)) (group : String) (start : α) (t : Tree)
    (path : String) : Except ConfigError α := do
  let branches ← t.branches group path
  settings.foldlM (fun a s =>
    match branches.lookup s.name with
    | none => .ok a
    | some t => s.read t (if path = "" then s.name else s!"{path}.{s.name}") a) start

def readScrapeDefaults : Tree → String → Except ConfigError ScrapeDefaults :=
  readGroup [
    .of "user_agent" Tree.text fun v d => { d with userAgent := v },
    .of "min_content_length" Tree.count fun v d => { d with minContentLength := v },
    .of "max_concurrent" Tree.count fun v d => { d with maxConcurrent := v },
    .of "timeout_seconds" Tree.count fun v d => { d with timeoutSeconds := v },
    .of "retry_attempts" Tree.count fun v d => { d with retryAttempts := v }]
    "ScrapeDefaults" .standard

def readSettings : Tree → String → Except ConfigError Settings :=
  readGroup [
    .of "api_base_url" Tree.text fun v s => { s with apiBaseUrl := v },
    .of "request_timeout_seconds" Tree.count fun v s => { s with requestTimeoutSeconds := v },
    .of "asset_base_path" Tree.text fun v s => { s with assetBasePath := v },
    .of "webhook_base_url" Tree.text fun v s => { s with webhookBaseUrl := v },
    .of "scrape" readScrapeDefaults fun v s => { s with scrape := v }]
    "RuntimeConfig" .standard

namespace Config

def standard : Config := { settings := .standard, pretty := false }

def ofTree (t : Tree) : Except ConfigError Config :=
  readGroup [
    .of "runtime" readSettings fun v c => { c with settings := v },
    .of "pretty" Tree.bool fun v c => { c with pretty := v }]
    "InspectConfig" standard t ""

def namePrefix : List Char := "flowcanvas__".toList

def splitPairs : List Char → List Char → List String
  | part, '_' :: '_' :: cs => String.ofList part.reverse :: splitPairs [] cs
  | part, c :: cs => splitPairs (c :: part) cs
  | part, [] => [String.ofList part.reverse]

def isPathPart (s : String) : Bool :=
  s ≠ "" && s.toList.all fun c => c.isAlphanum || c = '_' || c = '-'

-- The path that the name of a variable stands for, in any case of letters; names that start
-- otherwise are none.
def path? (name : String) : Option (List String) :=
  let name := (Text.toLower name).toList
  if namePrefix.isPrefixOf name then
    let parts := splitPairs [] (name.drop namePrefix.length)
    if parts.all isPathPart then some parts else none
  else none

def ofVariables (given : List (String × String)) : Except ConfigError Config :=
  ofTree (given.foldl (fun t (name, value) =>
    match path? name with
    | some path => t.insert (.ofText value) path
    | none => t) .empty)

def variableNames : List String := [
  "FLOWCANVAS__PRETTY",
  "FLOWCANVAS__RUNTIME__API_BASE_URL",
  "FLOWCANVAS__RUNTIME__REQUEST_TIMEOUT_SECONDS",
  "FLOWCANVAS__RUNTIME__ASSET_BASE_PATH",
  "FLOWCANVAS__RUNTIME__WEBHOOK_BASE_URL",
  "FLOWCANVAS__RUNTIME__SCRAPE__USER_AGENT",
  "FLOWCANVAS__RUNTIME__SCRAPE__MIN_CONTENT_LENGTH",
  "FLOWCANVAS__RUNTIME__SCRAPE__MAX_CONCURRENT",
  "FLOWCANVAS__RUNTIME__SCRAPE__TIMEOUT_SECONDS",
  "FLOWCANVAS__RUNTIME__SCRAPE__RETRY_ATTEMPTS"]

end Config

end NodeEditor.Inspector
