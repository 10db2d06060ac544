import NodeEditor.Json.Basic
import NodeEditor.Json.Fault

/-!
Numbers of a JSON text. A number without point and exponent is an integer as far as 64 bits go. Any
other number is its leading digits, as many as 64 bits hold, scaled by one power of ten; the digits
beyond are dropped, and each scaling step rounds.
-/

namespace NodeEditor.Json

def maxSignificand : Nat := 0xFFFFFFFFFFFFFFFF

def maxExponent : Nat := 0x7FFFFFFF

-- Extends a number by the digits in front, as long as it stays within `limit`. Gives the number,
-- how many digits it took, and the rest.
def takeDigits (limit : Nat) : Nat → Nat → List Char → Nat × Nat × List Char
  | n, count, [] => (n, count, [])
  | n, count, c :: cs =>
    if c.isDigit then
      let next := 10 * n + (c.toNat - '0'.toNat)
      if next ≤ limit then takeDigits limit next (count + 1) cs else (n, count, c :: cs)
    else (n, count, c :: cs)

def startsWithDigit : List Char → Bool
  | c :: _ => c.isDigit
  | [] => false

-- A power of ten up to the three hundred and eighth.
def powerOfTen (n : Nat) : Float :=
  Float.ofScientific 1 false n

-- Divides by `10 ^ n`, at most `10 ^ 308` at a time.
def divideByPower : Nat → Float → Nat → Float
  | 0, f, _ => f
  | fuel + 1, f, n =>
    if n ≤ 308 then f / powerOfTen n
    else if f == 0.0 then f
    else divideByPower fuel (f / powerOfTen 308) (n - 308)

-- A significand scaled by a power of ten; nothing when it is too great for a double.
def scale? (significand : Nat) (exponent : Int) : Option Float :=
  let f := Float.ofNat significand
  if exponent < 0 then some (divideByPower 8 f exponent.natAbs)
  else if exponent ≤ 308 then
    let g := f * powerOfTen exponent.natAbs
    if g.isInf then none else some g
  else if significand = 0 then some f
  else none

-- The double of a sign, significand and exponent, or a fault at the rest.
def finishFloat (negative : Bool) (significand : Nat) (exponent : Int) (rest : List Char) :
    Except Stop (Number × List Char) :=
  match scale? significand exponent with
  | some f => .ok (.float (if negative then -f else f), rest)
  | none => .error (.before .numberOutOfRange rest)

-- Reads the digits of an exponent that goes up or down from `start`. An exponent that is too great
-- to be read makes the number zero, or too great as well.
def readPower (negative : Bool) (significand : Nat) (start : Int) (down : Bool) (ds : List Char) :
    Except Stop (Number × List Char) :=
  if startsWithDigit ds then
    let (e, _, rest) := takeDigits maxExponent 0 0 ds
    if startsWithDigit rest then
      if significand ≠ 0 ∧ ¬down then .error (.at .numberOutOfRange rest)
      else .ok (.float (if negative then -0.0 else 0.0), rest.dropWhile Char.isDigit)
    else finishFloat negative significand (if down then start - e else start + e) rest
  else
    match ds with
    | [] => .error (.before .endInValue [])
    | _ => .error (.at .badNumber ds)

def readExponent (negative : Bool) (significand : Nat) (start : Int) (cs : List Char) :
    Except Stop (Number × List Char) :=
  match cs with
  | '+' :: ds => readPower negative significand start false ds
  | '-' :: ds => readPower negative significand start true ds
  | _ => readPower negative significand start false cs

def readScale (negative : Bool) (significand : Nat) (exponent : Int) (cs : List Char) :
    Except Stop (Number × List Char) :=
  match cs with
  | 'e' :: rest => readExponent negative significand exponent rest
  | 'E' :: rest => readExponent negative significand exponent rest
  | _ => finishFloat negative significand exponent cs

def readFraction (negative : Bool) (significand : Nat) (start : Int) (cs : List Char) :
    Except Stop (Number × List Char) :=
  let (n, count, rest) := takeDigits maxSignificand significand 0 cs
  if startsWithDigit rest then
    readScale negative n (start - count) (rest.dropWhile Char.isDigit)
  else if count = 0 then
    match rest with
    | [] => .error (.at .endInValue [])
    | _ => .error (.at .badNumber rest)
  else readScale negative n (start - count) rest

-- Reads what follows the digits of a whole part whose last `dropped` digits are not in the
-- significand.
def readTail (negative : Bool) (significand : Nat) (dropped : Nat) (cs : List Char) :
    Except Stop (Number × List Char) :=
  match cs with
  | '.' :: rest => readFraction negative significand dropped rest
  | _ => readScale negative significand dropped cs

-- A whole number; below the range of 64 bits, and for minus zero, it is a double.
def wholeNumber (negative : Bool) (n : Nat) : Number :=
  if negative then
    if 0 < n ∧ n ≤ 0x8000000000000000 then .int (-(n : Int)) else .float (-(Float.ofNat n))
  else .int n

-- Whether a whole part goes on with a point or an exponent.
def hasTail : List Char → Bool
  | '.' :: _ | 'e' :: _ | 'E' :: _ => true
  | _ => false

-- Reads what follows the digits of a whole part that fit into the significand.
def readAfterWhole (negative : Bool) (significand : Nat) (cs : List Char) :
    Except Stop (Number × List Char) :=
  if startsWithDigit cs then
    readTail negative significand (cs.takeWhile Char.isDigit).length (cs.dropWhile Char.isDigit)
  else if hasTail cs then readTail negative significand 0 cs
  else .ok (wholeNumber negative significand, cs)

def readNumber (negative : Bool) (cs : List Char) : Except Stop (Number × List Char) :=
  match cs with
  | [] => .error (.before .endInValue [])
  | '0' :: rest =>
    if startsWithDigit rest then .error (.at .badNumber rest) else readAfterWhole negative 0 rest
  | c :: _ =>
    if c.isDigit then
      let (n, _, rest) := takeDigits maxSignificand 0 0 cs
      readAfterWhole negative n rest
    else .error (.at .badNumber cs)

end NodeEditor.Json
