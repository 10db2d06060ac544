/-!
Moments: a day of the Gregorian calendar, a second of it and nanoseconds, which count on past a
thousand million within a leap second.
-/

namespace NodeEditor.Time

structure Date where
  year : Int
  month : Nat
  day : Nat
deriving DecidableEq, Repr

namespace Date

-- Days before 1970-01-01 count down. A year starts in March here, so that the leap day ends it.
def toDays (d : Date) : Int :=
  let y := if d.month ≤ 2 then d.year - 1 else d.year
  let era := y / 400
  let yearOfEra := y - era * 400
  let shifted := if d.month > 2 then d.month - 3 else d.month + 9
  let dayOfYear := (153 * shifted + 2) / 5 + d.day - 1
  era * 146097 + (yearOfEra * 365 + yearOfEra / 4 - yearOfEra / 100 + dayOfYear) - 719468

def ofDays (days : Int) : Date :=
  let z := days + 719468
  let era := z / 146097
  let dayOfEra := z - era * 146097
  let yearOfEra := (dayOfEra - dayOfEra / 1460 + dayOfEra / 36524 - dayOfEra / 146096) / 365
  let dayOfYear := dayOfEra - (365 * yearOfEra + yearOfEra / 4 - yearOfEra / 100)
  let shifted := (5 * dayOfYear + 2) / 153
  let day := dayOfYear - (153 * shifted + 2) / 5 + 1
  let month := if shifted < 10 then shifted + 3 else shifted - 9
  let year := yearOfEra + era * 400 + (if month ≤ 2 then 1 else 0)
  { year := year, month := month.toNat, day := day.toNat }

def isLeap (year : Int) : Bool :=
  year % 4 = 0 && (year % 100 ≠ 0 || year % 400 = 0)

def daysIn (year : Int) (month : Nat) : Nat :=
  if month = 2 then (if isLeap year then 29 else 28)
  else if month = 4 ∨ month = 6 ∨ month = 9 ∨ month = 11 then 30
  else 31

def firstYear : Int := -262143

def lastYear : Int := 262142

def exists? (d : Date) : Bool :=
  firstYear ≤ d.year && d.year ≤ lastYear && 1 ≤ d.month && d.month ≤ 12 &&
    1 ≤ d.day && d.day ≤ daysIn d.year d.month

end Date

structure Moment where
  day : Int
  second : Nat
  nano : Nat
deriving DecidableEq, Repr

namespace Moment

def nanosPerSecond : Nat := 1000000000

-- The moment that many seconds later; a leap second stays one.
def addSeconds (m : Moment) (seconds : Int) : Moment :=
  let total := m.day * 86400 + m.second + seconds
  { day := total / 86400, second := (total % 86400).toNat, nano := m.nano }

def inCalendar (m : Moment) : Bool :=
  (Date.ofDays m.day).exists?

-- Nanoseconds from the second moment to the first. A leap second between them counts.
def nanosSince (m n : Moment) : Int :=
  let a := m.day * 86400 + m.second
  let b := n.day * 86400 + n.second
  let leap : Int :=
    if m.second > n.second then (if n.nano ≥ nanosPerSecond then 1 else 0)
    else if m.second < n.second then (if m.nano ≥ nanosPerSecond then -1 else 0)
    else 0
  (a - b + leap) * nanosPerSecond + ((m.nano : Int) - n.nano)

def padded (width n : Nat) : String :=
  let ds := Nat.toDigits 10 n
  String.ofList (List.replicate (width - ds.length) '0' ++ ds)

def yearText (year : Int) : String :=
  if 0 ≤ year ∧ year ≤ 9999 then padded 4 year.toNat
  else (if year < 0 then "-" else "+") ++ padded 4 year.natAbs

-- Three, six or nine digits, as few as are exact; none for a whole second.
def fractionText (nano : Nat) : String :=
  if nano = 0 then ""
  else if nano % 1000000 = 0 then "." ++ padded 3 (nano / 1000000)
  else if nano % 1000 = 0 then "." ++ padded 6 (nano / 1000)
  else "." ++ padded 9 nano

def text (m : Moment) : String :=
  let d := Date.ofDays m.day
  let leap := m.nano ≥ nanosPerSecond
  let second := m.second % 60 + (if leap then 1 else 0)
  let nano := if leap then m.nano - nanosPerSecond else m.nano
  s!"{yearText d.year}-{padded 2 d.month}-{padded 2 d.day}T{padded 2 (m.second / 3600)}:" ++
    s!"{padded 2 (m.second / 60 % 60)}:{padded 2 second}{fractionText nano}"

def utcText (m : Moment) : String :=
  m.text ++ "Z"

end Moment

end NodeEditor.Time
