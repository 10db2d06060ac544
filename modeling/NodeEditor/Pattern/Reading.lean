import NodeEditor.Pattern.Sets

/-!
Reading regular expressions. Flags hold to the end of the group in which they are set. There is no
look-around and there are no back references; an expression that is not understood is none.
-/

namespace NodeEditor.Pattern

open Text (Intervals)
open Reader

def skipBlanks : Reader Unit := do
  let _ ← many (takeIf Text.isBlank) (return ())

-- Reads a count and the blanks around it.
def Flags.readCount (f : Flags) : Reader Nat := do
  skipBlanks
  let digits ← many (takeIf Char.isDigit) f.skip
  skipBlanks
  guard (digits ≠ [])
  let n := digits.foldl (fun n c => 10 * n + (c.toNat - '0'.toNat)) 0
  guard (n < 0x100000000)
  return n

def closeBrace : Reader Unit := do
  guard ((← next) = '\x7d')

-- Reads how many rounds a repetition may have at most, after how many it must have.
def Flags.readMost (f : Flags) (least : Nat) : Reader (Option Nat) := do
  if ← follows [','] then
    f.skip
    if ← follows ['\x7d'] then return none
    else
      let most ← f.readCount
      closeBrace
      guard (least ≤ most)
      return some most
  else
    closeBrace
    return some least

-- A repetition may be lazy. That does not change what it matches.
def readLazy : Reader Unit := do
  let _ ← follows ['?']

def Flags.readBounds (f : Flags) : Reader (Nat × Option Nat) := do
  f.skip
  let least ← f.readCount
  let most ← f.readMost least
  f.skip
  readLazy
  return (least, most)

def isBoundaryLetter (c : Char) : Bool :=
  c.isAlpha || c = '-'

def namedBoundary? (ascii : Bool) (name : List Char) : Option Assertion :=
  match String.ofList name with
  | "start" => some (.wordStart ascii)
  | "end" => some (.wordEnd ascii)
  | "start-half" => some (.wordStartHalf ascii)
  | "end-half" => some (.wordEndHalf ascii)
  | _ => none

-- A repetition is a level of its own.
def Nested.repeated (r : Nested Regex) (least : Nat) (most : Option Nat) : Nested Regex :=
  { value := .rep r.value least most, depth := r.depth + 1 }

-- Reads what follows `\b`. A brace opens the name of a kind of boundary if a letter comes next, and
-- the bounds of a repetition otherwise.
def Flags.readBoundary (f : Flags) : Reader (Nested Regex) := do
  let boundary : Regex := .look (.wordBoundary !f.unicode)
  if ← follows ['\x7b'] then
    f.skip
    match ← ahead with
    | none => failure
    | some c =>
      if isBoundaryLetter c then
        return .flat (.look (← namedBoundary? (!f.unicode) (← f.takeBraced)))
      else
        let (least, most) ← f.readBounds
        return (Nested.flat boundary).repeated least most
  else return .flat boundary

def Flags.dotSet? (f : Flags) : Option Intervals :=
  if !f.unicode then none
  else if f.dotAll then some [(0, Intervals.last)]
  else if f.anyBreak then some (Intervals.complement [(0x0A, 0x0A), (0x0D, 0x0D)])
  else some (Intervals.complement [(0x0A, 0x0A)])

def Flags.primitive? (f : Flags) : Primitive → Option Regex
  | .literal c => (f.single? c).map .chars
  | .set s => (f.allowed? s).map .chars
  | .look condition => some (.look condition)
  | .dot => f.dotSet?.map .chars

def Flags.lineStart (f : Flags) : Assertion :=
  if f.multiLine then (if f.anyBreak then .lineStartAnyBreak else .lineStart) else .textStart

def Flags.lineEnd (f : Flags) : Assertion :=
  if f.multiLine then (if f.anyBreak then .lineEndAnyBreak else .lineEnd) else .textEnd

def Flags.put? (f : Flags) (on : Bool) : Char → Option Flags
  | 'i' => some { f with ignoreCase := on }
  | 'm' => some { f with multiLine := on }
  | 's' => some { f with dotAll := on }
  | 'U' => some f
  | 'u' => some { f with unicode := on }
  | 'R' => some { f with anyBreak := on }
  | 'x' => some { f with spaced := on }
  | _ => none

-- Turns flags on, and off after a dash. No letter may stand twice, and no dash at the end. `seen`
-- is what is read already, the latest first.
def Flags.putAll? (f : Flags) (seen : List Char) : List Char → Option Flags
  | [] => if seen.head? = some '-' then none else some f
  | c :: cs =>
    if seen.contains c then none
    else if c = '-' then f.putAll? (c :: seen) cs
    else do (← f.put? (!seen.contains '-') c).putAll? (c :: seen) cs

def isNameLetter (c : Char) : Bool :=
  c = '_' || Text.alphabetic.mem c.toNat

def isGroupName : List Char → Bool
  | [] => false
  | first :: others =>
    isNameLetter first && others.all fun c =>
      isNameLetter c || ['.', '[', ']'].contains c || (Text.categoryGroup 'N').mem c.toNat

-- A piece of an expression. Sets and groups are only opened by it.
inductive Piece where
  | stop
  | bar
  | item (r : Nested Regex)
  | repeated (least : Nat) (most : Option Nat)
  | flags (f : Flags)
  | set
  | group (inner : Flags) (name : Option (List Char))

def Flags.readNamed (f : Flags) : Reader Piece := do
  let name ← many (takeUpTo '>') (return ())
  guard (isGroupName name)
  return .group f (some name)

def Flags.readFlags (f : Flags) : Reader Piece := do
  let letters ← many (takeIf fun c => c ≠ ':' && c ≠ ')') (return ())
  let mark ← next
  let g ← f.putAll? [] letters
  if mark = ':' then return .group g none
  else
    guard (letters ≠ [])
    return .flags g

-- Reads what follows an opening parenthesis. Look-around is refused with all else that is no flag
-- and no name.
def Flags.readOpening (f : Flags) : Reader Piece := do
  f.skip
  if ← follows ['?', 'P', '<'] then f.readNamed
  else if ← follows ['?', '<'] then f.readNamed
  else if ← follows ['?'] then f.readFlags
  else return .group f none

-- Reads the rest of a piece, whose first character is read. There is none at the end of a group.
def Flags.readAfter (f : Flags) : Option Char → Reader Piece
  | none => return .stop
  | some '|' => return .bar
  | some '(' => f.readOpening
  | some '[' => return .set
  | some '?' => do
    readLazy
    return .repeated 0 (some 1)
  | some '*' => do
    readLazy
    return .repeated 0 none
  | some '+' => do
    readLazy
    return .repeated 1 none
  | some '\x7b' => do
    let (least, most) ← f.readBounds
    return .repeated least most
  | some '\\' => do
    if ← follows ['b'] then return .item (← f.readBoundary)
    else return .item (.flat (← f.primitive? (← f.readEscape)))
  | some '.' => return .item (.flat (← f.primitive? .dot))
  | some '^' => return .item (.flat (.look f.lineStart))
  | some '$' => return .item (.flat (.look f.lineEnd))
  | some c => return .item (.flat (← f.primitive? (.literal c)))

def Flags.readPiece (f : Flags) : Reader Piece := do
  f.skip
  f.readAfter (← takeIf (· ≠ ')'))

-- Joins the items read so far, the latest first; the places of flags match nothing.
def joinItems (items : List (Option (Nested Regex))) : Nested Regex :=
  { value := (items.filterMap id).foldl
      (fun later r => if later = .empty then r.value else .cat r.value later) .empty
    depth := rowDepth (items.map fun item => item.elim 0 (·.depth)) }

def joinBranches (last : Nested Regex) (branches : List (Nested Regex)) : Nested Regex :=
  { value := branches.foldl (fun later r => .alt r.value later) last.value
    depth := rowDepth ((last :: branches).map (·.depth)) }

-- A group as far as it is read: the flags that hold now, the names of all groups so far, and the
-- branches and the items of the last branch, the latest first.
structure Group where
  flags : Flags
  names : List (List Char)
  branches : List (Nested Regex)
  items : List (Option (Nested Regex))

namespace Group

def start (f : Flags) (names : List (List Char)) : Group :=
  { flags := f, names := names, branches := [], items := [] }

def blank : Group :=
  start .standard []

def regex (g : Group) : Nested Regex :=
  joinBranches (joinItems g.items) g.branches

def push (g : Group) (item : Option (Nested Regex)) : Group :=
  { g with items := item :: g.items }

def split (g : Group) : Group :=
  { g with branches := joinItems g.items :: g.branches, items := [] }

def repeated? (g : Group) (least : Nat) (most : Option Nat) : Option Group :=
  match g.items with
  | some r :: earlier => some { g with items := some (r.repeated least most) :: earlier }
  | _ => none

-- A group inside this one. A name may stand only once.
def enter? (g : Group) (inner : Flags) : Option (List Char) → Option Group
  | none => some (start inner g.names)
  | some name => if g.names.contains name then none else some (start inner (name :: g.names))

-- A group inside this one is read to its end, and is a level of its own.
def leave (g inner : Group) : Group :=
  let item := { inner.regex with depth := inner.regex.depth + 1 }
  { g with names := inner.names, items := some item :: g.items }

-- Goes on after a piece. `goOn` reads to the end of a group, and `readSet` a set that is opened.
def after (goOn : Group → Reader Group) (readSet : Flags → Reader (Nested Intervals)) (g : Group) :
    Piece → Reader Group
  | .stop => return g
  | .bar => goOn g.split
  | .item r => goOn (g.push (some r))
  | .repeated least most => do goOn (← g.repeated? least most)
  | .flags f => goOn { g.push none with flags := f }
  | .set => do
    let s ← readSet g.flags
    let chars := Regex.chars (← g.flags.allowed? s.value)
    goOn (g.push (some { value := chars, depth := s.depth }))
  | .group inner name => do
    let inner ← goOn (← g.enter? inner name)
    guard ((← next) = ')')
    goOn (g.leave inner)

-- Reads to the end of a group or of the text.
def read : Nat → Group → Reader Group
  | 0, _ => failure
  | fuel + 1, g => do g.after (read fuel) (·.readSet fuel) (← g.flags.readPiece)

end Group

-- Reads a regular expression of any size.
def read? (cs : List Char) : Option (Nested Regex) :=
  match Group.read (cs.length + 1) .blank cs with
  | some (g, []) => some g.regex
  | _ => none

def maxDepth : Nat := 250

-- Which expressions can be built into a machine. The size of machines is limited; how large the one
-- for an expression gets is up to those who build it.
class Capacity where
  fits : List Char → Bool

-- Reads a regular expression; nothing where it is not understood, nested too deep or too large.
def parse? [Capacity] (cs : List Char) : Option Regex :=
  ((read? cs).filter fun r => r.depth ≤ maxDepth && Capacity.fits cs).map (·.value)

end NodeEditor.Pattern
