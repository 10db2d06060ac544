import NodeEditor.Catalog.Catalog

/-!
Icons of nodes. An icon that was registered for a kind comes first, then the one that the catalog
names or, for a kind that names none, the image of the kind's own name; kinds that the catalog does
not know get a box.
-/

namespace NodeEditor

inductive Icon where
  | inline (svg : String)
  | asset (url : String)
  | fallback (symbol : String)
deriving DecidableEq, Repr

def Icon.toJson : Icon → Json
  | .inline svg => .obj [("kind", .str "inline"), ("svg", .str svg)]
  | .asset url => .obj [("kind", .str "asset"), ("url", .str url)]
  | .fallback symbol => .obj [("kind", .str "fallback"), ("symbol", .str symbol)]

structure IconRegistry where
  inlined : Dict String
  sources : Dict (Option IconSource)
  assetBase : String

namespace IconRegistry

def empty (assetBase : String) : IconRegistry :=
  { inlined := {}, sources := {}, assetBase := assetBase }

def ofCatalog (c : Catalog) (assetBase : String) : IconRegistry :=
  { empty assetBase with sources := Dict.ofList (c.types.map fun t => (t.type, t.icon)) }

-- Registers an icon for a kind, before that of the catalog.
def registerInline (r : IconRegistry) (type svg : String) : IconRegistry :=
  { r with inlined := r.inlined.insert type svg }

def isAbsolute (path : String) : Bool :=
  ["http://", "https://", "data:"].any fun start => start.toList.isPrefixOf path.toList

-- The address of an image: an absolute one as it is, any other behind the base with one slash
-- between them.
def joinAsset (base path : String) : String :=
  if isAbsolute path then path
  else
    let base := Text.trimEndOf '/' base
    if base = "" then path else base ++ "/" ++ Text.trimStartOf '/' path

-- The image of a kind that the catalog knows, unless all names that it could have are blank.
def assetPath? (type : String) (source : Option IconSource) : Option String :=
  let declared :=
    match source with
    | some (.asset path) => if Text.isBlankText path then none else some path
    | some (.symbol name) => if Text.isBlankText name then none else some s!"{name}.svg"
    | none => none
  declared.orElse fun _ => if Text.isBlankText type then none else some s!"{type}.svg"

def resolve (r : IconRegistry) (type : String) : Icon :=
  match r.inlined.get? type with
  | some svg => .inline svg
  | none =>
    match (r.sources.get? type).bind (assetPath? type) with
    | some path => .asset (joinAsset r.assetBase path)
    | none => .fallback "box"

end IconRegistry

end NodeEditor
