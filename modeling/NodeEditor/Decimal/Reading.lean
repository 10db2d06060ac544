/-!
Decimal numbers read from text and rounded to the nearest double, half to even.
-/

namespace NodeEditor.Decimal

def infinity : Float := 1.0 / 0.0

def notANumber : Float := 0.0 / 0.0

def digitsValue (ds : List Char) : Nat :=
  ds.foldl (fun n c => 10 * n + (c.toNat - '0'.toNat)) 0

-- The double nearest to `n · 10 ^ e`. Beyond four hundred places the result is infinite or zero.
def nearest (n : Nat) (e : Int) : Float :=
  if n = 0 then 0.0
  else
    let size := ((Nat.toDigits 10 n).length : Int) + e
    if size > 400 then infinity
    else if size < -400 then 0.0
    else if e < 0 then Float.ofScientific n true e.natAbs
    else Float.ofScientific n false e.natAbs

def takeSign : List Char → Bool × List Char
  | '-' :: cs => (true, cs)
  | '+' :: cs => (false, cs)
  | cs => (false, cs)

-- The exponent after `e`, to the end of the text; no exponent is zero.
def exponent? : List Char → Option Int
  | [] => some 0
  | c :: cs =>
    if c = 'e' ∨ c = 'E' then
      let (negative, ds) := takeSign cs
      if ds ≠ [] ∧ ds.all Char.isDigit then
        some (if negative then -(digitsValue ds : Int) else digitsValue ds)
      else none
    else none

-- A number without sign: digits with an optional point, at least one digit, an optional exponent.
def unsigned? (cs : List Char) : Option Float :=
  let whole := cs.takeWhile Char.isDigit
  let rest := cs.dropWhile Char.isDigit
  let (fraction, tail) :=
    match rest with
    | '.' :: more => (more.takeWhile Char.isDigit, more.dropWhile Char.isDigit)
    | _ => ([], rest)
  if whole = [] ∧ fraction = [] then none
  else (exponent? tail).map fun e => nearest (digitsValue (whole ++ fraction)) (e - fraction.length)

-- The names of infinity and of what is not a number, in any case of letters.
def named? (cs : List Char) : Option Float :=
  match String.ofList (cs.map Char.toLower) with
  | "inf" | "infinity" => some infinity
  | "nan" => some notANumber
  | _ => none

-- Reads a decimal number, or the name of an infinite one, with an optional sign.
def float? (cs : List Char) : Option Float :=
  let (negative, body) := takeSign cs
  ((unsigned? body).orElse fun _ => named? body).map fun f => if negative then -f else f

end NodeEditor.Decimal
