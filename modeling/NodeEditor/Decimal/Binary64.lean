/-!
Finite doubles as exact numbers: a sign and `mantissa · 2 ^ exponent`, together with the interval of
numbers that round to the double.
-/

namespace NodeEditor.Decimal

-- The exact value of a finite double is `± mantissa · 2 ^ exponent`.
structure Scaled where
  negative : Bool
  mantissa : Nat
  exponent : Int
deriving DecidableEq, Repr

def leastNormal : Nat := 0x10000000000000

-- Takes a double apart; infinities and NaN give values that no finite double has.
def Scaled.ofFloat (f : Float) : Scaled :=
  let bits := f.toBits.toNat
  let biased : Nat := bits / leastNormal % 0x800
  let fraction := bits % leastNormal
  { negative := bits / 0x8000000000000000 = 1
    mantissa := if biased = 0 then fraction else fraction + leastNormal
    exponent := Int.ofNat (if biased = 0 then 1 else biased) - 1075 }

-- The numbers between `low / scale` and `high / scale` round to `value / scale`; the ends do so
-- when `closed`.
structure Rounding where
  low : Nat
  value : Nat
  high : Nat
  scale : Nat
  closed : Bool

-- The rounding interval of a mantissa and an exponent. Below the least normal mantissa the next
-- smaller double is only half as far away, except at the lowest exponent.
def Rounding.ofScaled (s : Scaled) : Rounding :=
  let gap := if s.mantissa = leastNormal ∧ s.exponent > -1074 then 1 else 2
  let shift := s.exponent - 2
  let up := Nat.pow 2 shift.toNat
  { low := (4 * s.mantissa - gap) * up
    value := 4 * s.mantissa * up
    high := (4 * s.mantissa + 2) * up
    scale := Nat.pow 2 (-shift).toNat
    closed := s.mantissa % 2 = 0 }

-- Whether `n / d` rounds to the value, where `d` counts units of `1 / scale`.
def Rounding.holds (r : Rounding) (factor n d : Nat) : Bool :=
  if r.closed then r.low * factor ≤ n * d && n * d ≤ r.high * factor
  else r.low * factor < n * d && n * d < r.high * factor

end NodeEditor.Decimal
