import NodeEditor.Decimal.Shortest

/-!
JSON values. Integers and floating-point numbers are different values; an object is a list of
entries, in the order in which it is written. Reading yields entries in increasing key order with
distinct keys (`Json.Ordered`), and equality follows the entries.
-/

namespace NodeEditor

inductive Number where
  | int (value : Int)
  | float (value : Float)
deriving DecidableEq

namespace Number

-- Numbers of different kinds differ, even `1` and `1.0`; the two zeros are equal.
def same : Number → Number → Bool
  | .int a, .int b => a == b
  | .float a, .float b => a == b
  | _, _ => false

instance : BEq Number := ⟨same⟩

def toFloat : Number → Float
  | .int n => Float.ofInt n
  | .float f => f

-- Doubles are written without an exponent from `0.00001` up to sixteen digits, and with a point.
def layout : Decimal.Layout :=
  { leastPlain := -5, greatestPlain := 15, keepPoint := true }

def text : Number → String
  | .int n => toString n
  | .float f => layout.text f

end Number

inductive Json where
  | null
  | bool (value : Bool)
  | num (value : Number)
  | str (value : String)
  | arr (items : List Json)
  | obj (entries : List (String × Json))

namespace Json

instance : Inhabited Json := ⟨.null⟩

mutual

def same : Json → Json → Bool
  | .null, .null => true
  | .bool a, .bool b => a == b
  | .num a, .num b => a.same b
  | .str a, .str b => a == b
  | .arr a, .arr b => sameItems a b
  | .obj a, .obj b => sameEntries a b
  | _, _ => false

def sameItems : List Json → List Json → Bool
  | [], [] => true
  | a :: as, b :: bs => same a b && sameItems as bs
  | _, _ => false

def sameEntries : List (String × Json) → List (String × Json) → Bool
  | [], [] => true
  | (k, a) :: as, (l, b) :: bs => k == l && same a b && sameEntries as bs
  | _, _ => false

end

instance : BEq Json := ⟨same⟩

def get? (key : String) : Json → Option Json
  | .obj entries => entries.lookup key
  | _ => none

def text? : Json → Option String
  | .str s => some s
  | _ => none

theorem text?_eq_some_iff {j : Json} {s : String} : j.text? = some s ↔ j = .str s := by
  cases j <;> simp [text?]

theorem bind_text?_eq_some_iff {o : Option Json} {s : String} :
    o.bind text? = some s ↔ o = some (.str s) := by
  simp [Option.bind_eq_some_iff, text?_eq_some_iff]

def bool? : Json → Option Bool
  | .bool b => some b
  | _ => none

def float? : Json → Option Float
  | .num n => some n.toFloat
  | _ => none

def items? : Json → Option (List Json)
  | .arr items => some items
  | _ => none

def entries? : Json → Option (List (String × Json))
  | .obj entries => some entries
  | _ => none

-- A double; one that is not finite is written as null.
def ofFloat (f : Float) : Json :=
  if f.isFinite then .num (.float f) else .null

def ofNat (n : Nat) : Json :=
  .num (.int n)

def ofOption {α : Type} (f : α → Json) : Option α → Json
  | some a => f a
  | none => .null

def ofTexts (texts : List String) : Json :=
  .arr (texts.map .str)

mutual

-- The value with the entries of every object in increasing key order.
def sorted : Json → Json
  | .arr items => .arr (sortedItems items)
  | .obj entries => .obj ((sortedEntries entries).mergeSort fun a b => a.1 ≤ b.1)
  | j => j

def sortedItems : List Json → List Json
  | [] => []
  | j :: js => sorted j :: sortedItems js

def sortedEntries : List (String × Json) → List (String × Json)
  | [] => []
  | (k, j) :: es => (k, sorted j) :: sortedEntries es

end

mutual

-- Every object in the value has its keys in strictly increasing order.
def Ordered : Json → Prop
  | .arr items => OrderedItems items
  | .obj entries => (entries.map Prod.fst).Pairwise (· < ·) ∧ OrderedEntries entries
  | _ => True

def OrderedItems : List Json → Prop
  | [] => True
  | j :: js => Ordered j ∧ OrderedItems js

def OrderedEntries : List (String × Json) → Prop
  | [] => True
  | (_, j) :: es => Ordered j ∧ OrderedEntries es

end

end Json

end NodeEditor
