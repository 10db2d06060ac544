import NodeEditor.Pattern.Reading

/-!
An estimate of the size of the machines for expressions, for programs that build none.
-/

namespace NodeEditor.Pattern

-- A rough count of the bytes that a machine for a set of characters takes, read from either end.
def setSize (set : Text.Intervals) : Nat :=
  if set.all fun i => i.2 < 128 then 32 + 8 * set.length
  else match set with
    | [(a, b)] => if a = b then 32 * (Char.ofNat a).utf8Size else 336
    | _ => 336 + 60 * set.length

-- A rough count of the bytes that a machine for an expression takes.
def Regex.size : Regex → Nat
  | .empty => 32
  | .chars set => setSize set
  | .look _ => 32
  | .cat r s => r.size + s.size
  | .alt r s => r.size + s.size + 40
  | .rep r least none => r.size * max least 1 + 40
  | .rep r least (some most) => r.size * max least most + 36 * (most - least) + 32

def sizeLimit : Nat := 10 * 0x100000

def isSmall (cs : List Char) : Bool :=
  (read? cs).all (·.value.size ≤ sizeLimit)

end NodeEditor.Pattern
