import NodeEditor.Json.Fault
import NodeEditor.Text.Blank
import NodeEditor.Time.Moment

/-!
Dates and times read from text: the strict form of time stamps, a relaxed form that allows blanks
between the parts, and local times with or without seconds.
-/

namespace NodeEditor.Time

inductive TimeError where
  | outOfRange
  | impossible
  | invalid
  | tooShort
  | tooLong
deriving DecidableEq, Repr

def TimeError.message : TimeError → String
  | .outOfRange => "input is out of range"
  | .impossible => "no possible date and time matching input"
  | .invalid => "input contains invalid characters"
  | .tooShort => "premature end of input"
  | .tooLong => "trailing input"

-- The parts of a date and time with the distance of its zone from universal time, in seconds.
structure Parts where
  year : Int
  month : Nat
  day : Nat
  hour : Nat
  minute : Nat
  second : Nat
  nano : Nat
  offset : Int

-- A reader of a part at the front of a text.
abbrev Reading (α : Type) := List Char → Except TimeError (α × List Char)

def number (least most : Nat) : Reading Nat := fun cs =>
  if Json.byteCount cs < least then .error .tooShort
  else
    let ds := (cs.take most).takeWhile Char.isDigit
    if ds.length < least then .error .invalid
    else .ok (ds.foldl (fun n c => 10 * n + (c.toNat - '0'.toNat)) 0, cs.drop ds.length)

def within (low high : Nat) (read : Reading Nat) : Reading Nat := fun cs => do
  let (n, rest) ← read cs
  if low ≤ n ∧ n ≤ high then .ok (n, rest) else .error .outOfRange

def mark (c : Char) (cs : List Char) : Except TimeError (List Char) :=
  match cs with
  | [] => .error .tooShort
  | d :: rest => if d = c then .ok rest else .error .invalid

-- A year of any length behind a sign, of up to four digits without one.
def signedYear : Reading Int := fun cs => do
  let checked (y : Int) (rest : List Char) : Except TimeError (Int × List Char) :=
    if -2147483648 ≤ y ∧ y ≤ 2147483647 then .ok (y, rest) else .error .outOfRange
  match cs with
  | '-' :: more => do
    let (n, rest) ← number 1 more.length.succ more
    checked (-(n : Int)) rest
  | '+' :: more => do
    let (n, rest) ← number 1 more.length.succ more
    checked n rest
  | _ => do
    let (n, rest) ← number 1 4 cs
    checked n rest

-- What follows the point of a second: nine digits count, further ones are passed over.
def fraction : Reading Nat := fun cs => do
  let ds := (cs.take 9).takeWhile Char.isDigit
  let (n, rest) ← number 1 9 cs
  .ok (n * Nat.pow 10 (9 - ds.length), rest.dropWhile Char.isDigit)

-- A fraction of a second, zero where there is no point.
def optionalFraction : Reading Nat
  | '.' :: rest => fraction rest
  | cs => .ok (0, cs)

-- The distance from universal time, in seconds. `separate` reads what stands between hours and
-- minutes.
def zone (separate : List Char → Except TimeError (List Char)) : Reading Int := fun cs =>
  match cs with
  | [] => .error .tooShort
  | c :: rest =>
    if c = 'z' ∨ c = 'Z' then .ok (0, rest)
    else if c = 'u' ∨ c = 'U' then
      match rest with
      | t :: u :: more =>
        if t.toLower = 't' ∧ u.toLower = 'c' then .ok (0, more) else .error .invalid
      | _ => .error .invalid
    else if c = '+' ∨ c = '-' ∨ c = '−' then do
      let (hours, rest) ← twoDigits rest
      let rest ← separate rest
      let (minutes, rest) ← twoDigits rest
      if minutes ≥ 60 then .error .outOfRange
      else
        let seconds : Int := hours * 3600 + minutes * 60
        .ok (if c = '+' then seconds else -seconds, rest)
    else .error .invalid
where
  twoDigits : Reading Nat := fun cs =>
    if Json.byteCount cs < 2 then .error .tooShort
    else
      match cs with
      | a :: b :: rest =>
        if a.isDigit ∧ b.isDigit then
          .ok ((a.toNat - '0'.toNat) * 10 + (b.toNat - '0'.toNat), rest)
        else .error .invalid
      | _ => .error .invalid

-- The moment of the parts in their own zone. A sixtieth second is a leap second.
def Parts.localMoment (p : Parts) : Except TimeError Moment :=
  let date : Date := { year := p.year, month := p.month, day := p.day }
  if date.exists? then
    let second := if p.second = 60 then 59 else p.second
    let nano := if p.second = 60 then p.nano + Moment.nanosPerSecond else p.nano
    .ok { day := date.toDays, second := p.hour * 3600 + p.minute * 60 + second, nano := nano }
  else .error .outOfRange

def Parts.moment (p : Parts) : Except TimeError Moment := do
  let m ← p.localMoment
  if p.offset.natAbs ≥ 86400 then .error .outOfRange
  else
    let utc := m.addSeconds (-p.offset)
    if utc.inCalendar then .ok utc else .error .impossible

def dayBreak (cs : List Char) : Except TimeError (List Char) :=
  match cs with
  | [] => .error .tooShort
  | c :: rest => if c = 't' ∨ c = 'T' ∨ c = ' ' then .ok rest else .error .invalid

def strict (cs : List Char) : Except TimeError Moment := do
  let (year, cs) ← number 4 4 cs
  let cs ← mark '-' cs
  let (month, cs) ← within 1 12 (number 2 2) cs
  let cs ← mark '-' cs
  let (day, cs) ← within 1 31 (number 2 2) cs
  let cs ← dayBreak cs
  let (hour, cs) ← within 0 23 (number 2 2) cs
  let cs ← mark ':' cs
  let (minute, cs) ← within 0 59 (number 2 2) cs
  let cs ← mark ':' cs
  let (second, cs) ← within 0 60 (number 2 2) cs
  let (nano, cs) ← optionalFraction cs
  let (offset, cs) ← zone (mark ':') cs
  if cs ≠ [] then .error .tooLong
  else
    Parts.moment ⟨year, month, day, hour, minute, second, nano, offset⟩

def loose (low high : Nat) : Reading Nat := fun cs =>
  within low high (number 1 2) (Text.trimLeft cs)

def looseMark (c : Char) (cs : List Char) : Except TimeError (List Char) :=
  mark c (Text.trimLeft cs)

def looseSeparator (cs : List Char) : Except TimeError (List Char) :=
  .ok (cs.dropWhile fun c => c = ':' || Text.isBlank c)

def looseZone : Reading Int := fun cs =>
  match cs with
  | a :: b :: c :: rest =>
    if [a, b, c].map Char.toLower = ['u', 't', 'c'] then .ok (0, rest) else zone looseSeparator cs
  | _ => zone looseSeparator cs

-- Reads a time stamp that may have blanks between its parts and numbers without leading zeros.
def relaxed (cs : List Char) : Except TimeError Moment := do
  let (year, cs) ← signedYear (Text.trimLeft cs)
  let cs ← looseMark '-' cs
  let (month, cs) ← loose 1 12 cs
  let cs ← looseMark '-' cs
  let (day, cs) ← loose 1 31 cs
  let cs ← dayBreak cs
  let (hour, cs) ← loose 0 23 cs
  let cs ← looseMark ':' cs
  let (minute, cs) ← loose 0 59 cs
  let cs ← looseMark ':' cs
  let (second, cs) ← loose 0 60 cs
  let (nano, cs) ← optionalFraction cs
  let (offset, cs) ← looseZone (Text.trimLeft cs)
  if Text.trimLeft cs ≠ [] then .error .tooLong
  else
    Parts.moment ⟨year, month, day, hour, minute, second, nano, offset⟩

-- Reads a local date and time; `between` reads what stands between them, and the seconds are there
-- when `seconds`.
def localTime (between : List Char → Except TimeError (List Char)) (seconds : Bool)
    (cs : List Char) : Except TimeError Moment := do
  let (year, cs) ← signedYear (Text.trimLeft cs)
  let cs ← mark '-' cs
  let (month, cs) ← loose 1 12 cs
  let cs ← mark '-' cs
  let (day, cs) ← loose 1 31 cs
  let cs ← between cs
  let (hour, cs) ← loose 0 23 cs
  let cs ← mark ':' cs
  let (minute, cs) ← loose 0 59 cs
  let (second, cs) ← if seconds then do
      let cs ← mark ':' cs
      loose 0 60 cs
    else .ok (0, cs)
  if cs ≠ [] then .error .tooLong
  else
    Parts.localMoment ⟨year, month, day, hour, minute, second, 0, 0⟩

-- The forms of a local time, in the order in which they are tried.
def localForms : List (List Char → Except TimeError Moment) :=
  let blank (cs : List Char) : Except TimeError (List Char) := .ok (Text.trimLeft cs)
  [localTime (mark 'T') true, localTime (mark 'T') false, localTime blank true,
    localTime blank false]

-- Reads what a date and time picker may hold: a time stamp, taken to universal time, or a local
-- time.
def picked? (cs : List Char) : Option Moment :=
  match strict cs with
  | .ok m => some m
  | .error _ => localForms.findSome? fun form => (form cs).toOption

end NodeEditor.Time
