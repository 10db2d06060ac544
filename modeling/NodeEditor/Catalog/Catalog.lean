import NodeEditor.Catalog.NodeType
import NodeEditor.Json.Dict
import NodeEditor.Json.Reader
import NodeEditor.Text.Blank

/-!
The catalog: the kinds of nodes that there are, in a map from their types, and beside it the types
in the order of the document they come from. Entries that are no kind are left out, and of several
entries for one type the first counts.
-/

namespace NodeEditor

inductive CatalogError where
  | invalidJson (reason : String)
  | notAnArray (found : String)
deriving DecidableEq, Repr

def CatalogError.message : CatalogError → String
  | .invalidJson reason => s!"catalog is not valid JSON: {reason}"
  | .notAnArray found => s!"catalog must be an array of descriptors, found {found}"

structure Catalog where
  kinds : Dict NodeType
  order : List String

structure PaletteGroup where
  category : String
  entries : List NodeType

namespace Catalog

def empty : Catalog := { kinds := {}, order := [] }

instance : Inhabited Catalog := ⟨empty⟩

def get? (c : Catalog) (type : String) : Option NodeType :=
  c.kinds.get? type

def contains (c : Catalog) (type : String) : Bool :=
  c.kinds.contains type

def size (c : Catalog) : Nat :=
  c.order.length

def isEmpty (c : Catalog) : Bool :=
  c.order.isEmpty

-- The kinds in the order they were added in.
def types (c : Catalog) : List NodeType :=
  c.order.filterMap c.get?

-- The catalog with one more kind, unless the type is there already.
def add (c : Catalog) (t : NodeType) : Catalog :=
  if c.contains t.type then c
  else { kinds := c.kinds.insert t.type t, order := c.order ++ [t.type] }

def ofList (types : List NodeType) : Catalog :=
  types.foldl add empty

-- What a value is, in the words of a catalog's error.
def valueName : Json → String
  | .null => "null"
  | .bool _ => "boolean"
  | .num _ => "number"
  | .str _ => "string"
  | .arr _ => "array"
  | .obj _ => "object"

def ofJson : Json → Except CatalogError Catalog
  | .arr entries => .ok (ofList (entries.filterMap fun e => (NodeType.shape.read e).toOption))
  | j => .error (.notAnArray (valueName j))

def parse (text : String) : Except CatalogError Catalog :=
  match Json.parse text with
  | .ok j => ofJson j
  | .error e => .error (.invalidJson e.message)

def uncategorized : String := "Other"

def categoryOf (t : NodeType) : String :=
  match t.category with
  | some c => if Text.isBlankText c then uncategorized else c
  | none => uncategorized

-- The kinds by category: categories in increasing order, kinds of one category as they come.
def palette (c : Catalog) : List PaletteGroup :=
  let groups : Dict (List NodeType) :=
    c.types.foldl (fun d t =>
      d.insert (categoryOf t) ((d.get? (categoryOf t)).getD [] ++ [t])) {}
  groups.entries.map fun g => { category := g.1, entries := g.2 }

end Catalog

end NodeEditor
