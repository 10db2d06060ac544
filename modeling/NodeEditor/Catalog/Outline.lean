import NodeEditor.Catalog.Catalog

/-!
Outlines: what a catalog says about its kinds once all defaults are filled in, written for listings.
-/

namespace NodeEditor

-- A handle with the side it gets if it names none.
def Handle.outline (fallback : Side) (h : Handle) : Json :=
  .obj [
    ("name", .str h.name),
    ("label", .str h.label),
    ("side", .str (h.sideOr fallback).name),
    ("connectable", .bool h.connectable)]

-- The kind of a property by its tag, or why there is none.
def Property.kindOutline (p : Property) : Json :=
  match p.kind with
  | .ok kind => .str kind.tag
  | .error e =>
    .obj [
      ("tag", .str e.tag),
      ("reason", .ofOption .str e.reason),
      ("message", .str e.message)]

def Property.outline (p : Property) : Json :=
  .obj [
    ("name", .str p.name),
    ("label", .str p.label),
    ("colSpan", .ofNat p.columns),
    ("dependencies", .ofTexts p.dependencies),
    ("schemaError", .ofOption .str p.schemaError),
    ("kind", p.kindOutline)]

def NodeType.outline (t : NodeType) : Json :=
  .obj [
    ("descriptor", t.toJson),
    ("label", .str t.label),
    ("defaults", .obj t.defaults.entries),
    ("unresolved", .arr (t.unresolvedDependencies.map fun (p, d) => .arr [.str p, .str d])),
    ("capabilitiesEmpty", .bool t.capabilities.isEmpty),
    ("inputs", .arr (t.inputs.map (Handle.outline .left))),
    ("outputs", .arr (t.outputs.map (Handle.outline .right))),
    ("properties", .arr (t.properties.map Property.outline))]

def PaletteGroup.outline (g : PaletteGroup) : Json :=
  .obj [("category", .str g.category), ("types", .ofTexts (g.entries.map (·.type)))]

-- What the catalog finds under a type, and there under the name of a handle or property.
def Catalog.lookup (c : Catalog) (type name : String) : Json :=
  match c.get? type with
  | none => .obj [("contains", .bool false)]
  | some t =>
    let label (h : Handle) : Json := .str h.label
    .obj [
      ("contains", .bool true),
      ("input", .ofOption label (t.input? name)),
      ("output", .ofOption label (t.output? name)),
      ("connectionInput", .bool (t.connectionInput? name).isSome),
      ("connectionOutput", .bool (t.connectionOutput? name).isSome),
      ("property", .ofOption (fun p : Property => .str p.tag) (t.property? name))]

end NodeEditor
