import NodeEditor.Json.Dict
import NodeEditor.Json.Basic
import NodeEditor.Text.Quoted

/-!
Reading values into types. A record is read from an object, whose entries are visited in order, or
from an array of its fields in their declared order. Unknown keys are passed over.
-/

namespace NodeEditor

inductive ShapeError where
  | invalidType (found : Json) (expected : String)
  | invalidValue (found : String) (expected : String)
  | invalidLength (length : Nat) (expected : String)
  | missingField (name : String)
  | duplicateField (name : String)
  | unknownVariant (name : String) (known : List String)
  | noVariant (name : String)
  | unreadable (reason : String)

def Json.described : Json → String
  | .null => "null"
  | .bool b => s!"boolean `{b}`"
  | .num (.int n) => s!"integer `{n}`"
  | .num (.float f) => s!"floating point `{(Number.float f).text}`"
  | .str s => s!"string {Text.quoted s}"
  | .arr _ => "sequence"
  | .obj _ => "map"

def alternatives : List String → String
  | [] => ""
  | [a] => s!"`{a}`"
  | [a, b] => s!"`{a}` or `{b}`"
  | names => "one of " ++ String.intercalate ", " (names.map fun n => s!"`{n}`")

def ShapeError.message : ShapeError → String
  | .invalidType found expected => s!"invalid type: {found.described}, expected {expected}"
  | .invalidValue found expected => s!"invalid value: {found}, expected {expected}"
  | .invalidLength length expected => s!"invalid length {length}, expected {expected}"
  | .missingField name => s!"missing field `{name}`"
  | .duplicateField name => s!"duplicate field `{name}`"
  | .unknownVariant name known => s!"unknown variant `{name}`, expected {alternatives known}"
  | .noVariant name => s!"data did not match any variant of untagged enum {name}"
  | .unreadable reason => reason

namespace Shape

variable {α β : Type}

def any (j : Json) : Except ShapeError Json :=
  .ok j

def text : Json → Except ShapeError String
  | .str s => .ok s
  | j => .error (.invalidType j "a string")

def bool : Json → Except ShapeError Bool
  | .bool b => .ok b
  | j => .error (.invalidType j "a boolean")

def float : Json → Except ShapeError Float
  | .num n => .ok n.toFloat
  | j => .error (.invalidType j "f64")

-- Reads a natural number below `bound`; the type's name is for messages.
def natBelow (bound : Nat) (name : String) : Json → Except ShapeError Nat
  | .num (.int n) =>
    if 0 ≤ n ∧ n < bound then .ok n.toNat else .error (.invalidValue s!"integer `{n}`" name)
  | j => .error (.invalidType j name)

def byte : Json → Except ShapeError Nat := natBelow 0x100 "u8"

def short : Json → Except ShapeError Nat := natBelow 0x10000 "u16"

def long : Json → Except ShapeError Nat := natBelow 0x10000000000000000 "u64"

def size : Json → Except ShapeError Nat := natBelow 0x10000000000000000 "usize"

def optional (read : Json → Except ShapeError α) : Json → Except ShapeError (Option α)
  | .null => .ok none
  | j => (read j).map some

def list (read : Json → Except ShapeError α) : Json → Except ShapeError (List α)
  | .arr items => items.mapM read
  | j => .error (.invalidType j "a sequence")

def dict : Json → Except ShapeError (Dict Json)
  | .obj entries => .ok (Dict.ofList entries)
  | j => .error (.invalidType j "a map")

-- Reads the name of one of several values; an object may hold it as its only key, with null.
def choice (variants : List (String × α)) : Json → Except ShapeError α
  | .str s => named s
  | .obj [(key, content)] => do
    let a ← named key
    match content with
    | .null => .ok a
    | j => .error (.invalidType j "unit")
  | .obj _ => .error (.invalidValue "map" "map with a single key")
  | j => .error (.invalidType j "string or map")
where
  named (s : String) : Except ShapeError α :=
    match variants.lookup s with
    | some a => .ok a
    | none => .error (.unknownVariant s (variants.map Prod.fst))

end Shape

-- A field of a record: how a value under its name, or one of its other names, is put in.
structure Field (α : Type) where
  name : String
  aliases : List String
  isRequired : Bool
  put : Json → α → Except ShapeError α

namespace Field

variable {α β : Type}

def optional (name : String) (read : Json → Except ShapeError β) (set : β → α → α) : Field α where
  name := name
  aliases := []
  isRequired := false
  put j a := (read j).map (set · a)

def required (name : String) (read : Json → Except ShapeError β) (set : β → α → α) : Field α :=
  { optional name read set with isRequired := true }

def orNamed (f : Field α) (names : List String) : Field α :=
  { f with aliases := names }

def answersTo (f : Field α) (key : String) : Bool :=
  f.name = key || f.aliases.contains key

end Field

-- A record type: its name in messages, the record of absent fields, and the fields in order.
structure RecordShape (α : Type) where
  name : String
  blank : α
  fields : List (Field α)

namespace RecordShape

variable {α : Type}

-- Puts in the entries one after the other; `seen` are the names of fields already put in.
def visit (fields : List (Field α)) :
    List (String × Json) → List String → α → Except ShapeError (List String × α)
  | [], seen, a => .ok (seen, a)
  | (key, j) :: rest, seen, a =>
    match fields.find? (·.answersTo key) with
    | none => visit fields rest seen a
    | some f =>
      if seen.contains f.name then .error (.duplicateField f.name)
      else do
        let a ← f.put j a
        visit fields rest (f.name :: seen) a

def readEntries (s : RecordShape α) (entries : List (String × Json)) : Except ShapeError α := do
  let (seen, a) ← visit s.fields entries [] s.blank
  match s.fields.find? fun f => f.isRequired && !seen.contains f.name with
  | some f => .error (.missingField f.name)
  | none => .ok a

def arity (s : RecordShape α) : String :=
  let n := s.fields.length
  s!"struct {s.name} with {n} element" ++ (if n = 1 then "" else "s")

def fill (expected : String) (total : Nat) :
    Nat → List (Field α) → List Json → α → Except ShapeError α
  | _, [], [], a => .ok a
  | _, [], _ :: _, _ => .error (.invalidLength total "fewer elements in array")
  | i, f :: fs, [], a =>
    if f.isRequired then .error (.invalidLength i expected) else fill expected total (i + 1) fs [] a
  | i, f :: fs, j :: js, a => do
    let a ← f.put j a
    fill expected total (i + 1) fs js a

def read (s : RecordShape α) : Json → Except ShapeError α
  | .obj entries => s.readEntries entries
  | .arr items => fill s.arity items.length 0 s.fields items s.blank
  | j => .error (.invalidType j s!"struct {s.name}")

end RecordShape

end NodeEditor
