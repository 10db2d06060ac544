import NodeEditor.Decimal.Shortest

/-!
Numbers as labels: whole numbers below a thousand million million without a point, all others with
as many digits as they need and never an exponent.
-/

namespace NodeEditor

def isWhole (s : Decimal.Scaled) : Bool :=
  if s.exponent < 0 then s.mantissa % Nat.pow 2 s.exponent.natAbs = 0 else true

-- The whole number that a double is; the fraction is dropped.
def wholePart (s : Decimal.Scaled) : Int :=
  let n :=
    if s.exponent < 0 then s.mantissa / Nat.pow 2 s.exponent.natAbs
    else s.mantissa * Nat.pow 2 s.exponent.natAbs
  if s.negative then -(n : Int) else n

def numberLabel (f : Float) : String :=
  let s := Decimal.Scaled.ofFloat f
  if isWhole s && f.abs < 1e15 then toString (wholePart s) else Decimal.Layout.positional.text f

end NodeEditor
