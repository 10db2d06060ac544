import NodeEditor.Decimal.Binary64

/-!
The fewest decimal digits that read back as a given double and, of those, the nearest. For one, two, up
to seventeen digits the two neighbours of the value on the decimal grid are tested exactly; the first
grid with a neighbour in the rounding interval wins.
-/

namespace NodeEditor.Decimal

-- A positive decimal `d.ddd · 10 ^ exponent`, first digit not zero and last digit not zero.
structure Digits where
  digits : List Char
  exponent : Int
deriving DecidableEq, Repr

-- The number of decimal digits before the point of `n / d` (at least one), or minus the number of
-- zeros that follow the point when `n < d`.
def magnitude (n d : Nat) : Int :=
  if d ≤ n then ((Nat.toDigits 10 (n / d)).length : Int)
  else go 400 n 0
where
  go : Nat → Nat → Nat → Int
    | 0, _, j => -(j : Int)
    | fuel + 1, m, j => if d ≤ 10 * m then -(j : Int) else go fuel (10 * m) (j + 1)

-- The neighbour of the value on the grid of step `10 ^ k` that rounds to it; of two the nearer, at
-- equal distance the even one.
def onGrid? (r : Rounding) (k : Int) : Option Nat :=
  let factor := Nat.pow 10 (-k).toNat
  let d := r.scale * Nat.pow 10 k.toNat
  let n := r.value * factor
  let below := n / d
  let above := below + 1
  let down := 0 < below && r.holds factor below d
  let up := r.holds factor above d
  if down && up then
    let twice := 2 * (n - below * d)
    if twice < d ∨ (twice = d ∧ below % 2 = 0) then some below else some above
  else if down then some below
  else if up then some above
  else none

def searchGrids (r : Rounding) (size : Int) : Nat → Nat → Nat × Int
  | 0, _ => (0, 0)
  | fuel + 1, count =>
    match onGrid? r (size - count) with
    | some n => (n, size - count)
    | none => searchGrids r size fuel (count + 1)

def dropZeros (ds : List Char) : List Char :=
  (ds.reverse.dropWhile (· = '0')).reverse

def shortest? (s : Scaled) : Option Digits :=
  if s.mantissa = 0 then none
  else
    let r := Rounding.ofScaled s
    let (n, k) := searchGrids r (magnitude r.value r.scale) 17 1
    let ds := Nat.toDigits 10 n
    some { digits := dropZeros ds, exponent := (ds.length : Int) + k - 1 }

-- How digits are written out. Exponents of the first digit from `leastPlain` to `greatestPlain` are
-- written without an exponent; `keepPoint` gives whole numbers a `.0`.
structure Layout where
  leastPlain : Int
  greatestPlain : Int
  keepPoint : Bool

def Layout.plain (l : Layout) (d : Digits) : List Char :=
  if d.exponent < 0 then
    ['0', '.'] ++ List.replicate (-d.exponent - 1).toNat '0' ++ d.digits
  else
    let whole := d.exponent.toNat + 1
    if d.digits.length ≤ whole then
      d.digits ++ List.replicate (whole - d.digits.length) '0' ++
        (if l.keepPoint then ['.', '0'] else [])
    else d.digits.take whole ++ ['.'] ++ d.digits.drop whole

def scientific (d : Digits) : List Char :=
  let fraction := d.digits.drop 1
  d.digits.take 1 ++ (if fraction = [] then [] else '.' :: fraction) ++
    ['e', if d.exponent < 0 then '-' else '+'] ++ Nat.toDigits 10 d.exponent.natAbs

def Layout.unsigned (l : Layout) (s : Scaled) : List Char :=
  match shortest? s with
  | none => if l.keepPoint then ['0', '.', '0'] else ['0']
  | some d =>
    if l.leastPlain ≤ d.exponent ∧ d.exponent ≤ l.greatestPlain then l.plain d else scientific d

def Layout.text (l : Layout) (f : Float) : String :=
  let s := Scaled.ofFloat f
  String.ofList (if s.negative then '-' :: l.unsigned s else l.unsigned s)

-- Every digit is written out and whole numbers have no point.
def Layout.positional : Layout :=
  { leastPlain := -400, greatestPlain := 400, keepPoint := false }

end NodeEditor.Decimal
