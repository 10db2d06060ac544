import NodeEditor.Pattern.Reader
import NodeEditor.Pattern.Regex
import NodeEditor.Text.Blank
import NodeEditor.Text.Case

/-!
Reading sets of characters: shorthands, properties and sets in brackets, as the flags want them.
-/

namespace NodeEditor.Pattern

open Text (Intervals)
open Reader

-- Something read, and how many levels deep it is written, one inside the other.
structure Nested (α : Type) where
  value : α
  depth : Nat

def Nested.flat {α : Type} (a : α) : Nested α :=
  { value := a, depth := 0 }

-- How deep a row of parts is written. One part alone makes no row.
def rowDepth : List Nat → Nat
  | [] => 0
  | [depth] => depth
  | depths => depths.foldr max 0 + 1

structure Flags where
  ignoreCase : Bool
  multiLine : Bool
  dotAll : Bool
  unicode : Bool
  anyBreak : Bool
  spaced : Bool

def Flags.standard : Flags :=
  { ignoreCase := false
    multiLine := false
    dotAll := false
    unicode := true
    anyBreak := false
    spaced := false }

def dropSpaced : (inComment : Bool) → List Char → List Char
  | _, [] => []
  | true, c :: cs => dropSpaced (c ≠ '\n') cs
  | false, c :: cs =>
    if Text.isBlank c then dropSpaced false cs
    else if c = '#' then dropSpaced true cs
    else c :: cs

-- Drops blanks and comments in front if the flags say so.
def Flags.skip (f : Flags) : Reader Unit := fun cs =>
  some ((), if f.spaced then dropSpaced false cs else cs)

-- The set of one character, in all its cases if case is ignored; none where the mode does not allow
-- it.
def Flags.single? (f : Flags) (c : Char) : Option Intervals :=
  let one : Intervals := [(c.toNat, c.toNat)]
  if !f.unicode && c.toNat ≥ 128 then none
  else if f.ignoreCase then
    if f.unicode then some one.caseClosure
    else some (Intervals.union one
      [(c.toLower.toNat, c.toLower.toNat), (c.toUpper.toNat, c.toUpper.toNat)])
  else some one

-- A set in all the cases of its members, if case is ignored.
def Flags.fold (f : Flags) (s : Intervals) : Intervals :=
  if f.ignoreCase then
    if f.unicode then s.caseClosure
    else s.union ((Intervals.inter s [(0x41, 0x5A)]).map (fun r => (r.1 + 32, r.2 + 32)) ++
      (Intervals.inter s [(0x61, 0x7A)]).map (fun r => (r.1 - 32, r.2 - 32)))
  else s

-- A set as it may stand in an expression: without Unicode it must stay within ASCII.
def Flags.allowed? (f : Flags) (s : Intervals) : Option Intervals :=
  if f.unicode || s.all (fun r => r.2 < 128) then some s else none

def negateIf (negated : Bool) (s : Intervals) : Intervals :=
  if negated then s.complement else s

def Flags.shorthand (f : Flags) (c : Char) : Intervals :=
  let s : Intervals :=
    match c.toLower with
    | 'd' => if f.unicode then Text.decimalDigits else [(0x30, 0x39)]
    | 's' => if f.unicode then Text.whiteSpace else [(9, 13), (0x20, 0x20)]
    | _ => if f.unicode then wordSet else asciiWordSet
  negateIf c.isUpper s

def isMeta (c : Char) : Bool :=
  "\\.+*?()|[]\x7b\x7d^$#&-~".toList.contains c

-- Whether a backslash may stand before a character without changing it.
def isEscapable (c : Char) : Bool :=
  isMeta c || (c.toNat < 128 && !c.isAlphanum && c ≠ '<' && c ≠ '>')

inductive Primitive where
  | literal (c : Char)
  | set (s : Intervals)
  | look (condition : Assertion)
  | dot

def hexChar? (digits : List Char) : Option Char := do
  let n ← Text.hexNumber? digits
  if n < 0xD800 ∨ (0xDFFF < n ∧ n ≤ 0x10FFFF) then some (Char.ofNat n) else none

-- Takes `count` digits, with blanks between them where the flags allow it.
def Flags.takeHex (f : Flags) : Nat → Reader (List Char)
  | 0 => return []
  | count + 1 => do
    f.skip
    let c ← next
    guard (Text.hexValue? c).isSome
    return c :: (← f.takeHex count)

-- Takes the characters up to a closing brace, without the blanks the flags allow.
def Flags.takeBraced (f : Flags) : Reader (List Char) := do
  f.skip
  many (takeUpTo '\x7d') f.skip

def Flags.readHex (f : Flags) (digits : Nat) : Reader Char := do
  f.skip
  if ← follows ['\x7b'] then
    let c ← hexChar? (← f.takeBraced)
    f.skip
    return c
  else
    let c ← hexChar? (← f.takeHex digits)
    f.skip
    return c

-- Splits a name at its first sign of comparison; true where the sign is `!=`.
def splitValue : List Char → List Char → Option (Bool × List Char × List Char)
  | _, [] => none
  | before, '!' :: '=' :: rest => some (true, before.reverse, rest)
  | before, c :: rest => splitValue (c :: before) rest

def splitAt (mark : Char) (name : List Char) : Option (List Char × List Char) :=
  match name.dropWhile (· ≠ mark) with
  | [] => none
  | _ :: value => some (name.takeWhile (· ≠ mark), value)

-- The set that a property's name, with or without a value, denotes.
def namedSet? (name : List Char) : Option Intervals :=
  match splitValue [] name with
  | some (_, property, value) => (Text.classWithValue? property value).map Intervals.complement
  | none =>
    match splitAt ':' name with
    | some (property, value) => Text.classWithValue? property value
    | none =>
      match splitAt '=' name with
      | some (property, value) => Text.classWithValue? property value
      | none => Text.classNamed? name

def Flags.readPropertySet (f : Flags) : Reader Intervals := do
  f.skip
  if ← follows ['\x7b'] then
    namedSet? (← f.takeBraced)
  else
    let c ← next
    guard (c ≠ '\\')
    f.skip
    Text.classNamed? [c]

def Flags.readProperty (f : Flags) (negated : Bool) : Reader Intervals := do
  guard f.unicode
  let s ← f.readPropertySet
  return negateIf negated (f.fold (Intervals.normalize s))

-- Reads what follows a backslash, except for `b`, which no set can hold.
def Flags.readEscape (f : Flags) : Reader Primitive := do
  let c ← next
  let ascii := !f.unicode
  if c.isDigit then failure
  else if c = 'x' then return .literal (← f.readHex 2)
  else if c = 'u' then return .literal (← f.readHex 4)
  else if c = 'U' then return .literal (← f.readHex 8)
  else if c = 'p' then return .set (← f.readProperty false)
  else if c = 'P' then return .set (← f.readProperty true)
  else if ['d', 's', 'w', 'D', 'S', 'W'].contains c then return .set (f.shorthand c)
  else if isEscapable c then return .literal c
  else
    match c with
    | 'a' => return .literal '\x07'
    | 'f' => return .literal '\x0c'
    | 't' => return .literal '\t'
    | 'n' => return .literal '\n'
    | 'r' => return .literal '\r'
    | 'v' => return .literal '\x0b'
    | 'A' => return .look .textStart
    | 'z' => return .look .textEnd
    | 'B' => return .look (.notWordBoundary ascii)
    | '<' => return .look (.wordStart ascii)
    | '>' => return .look (.wordEnd ascii)
    | _ => failure

def asciiClasses : List (String × Intervals) :=
  [("alnum", [(0x30, 0x39), (0x41, 0x5A), (0x61, 0x7A)]),
    ("alpha", [(0x41, 0x5A), (0x61, 0x7A)]),
    ("ascii", [(0, 0x7F)]),
    ("blank", [(9, 9), (0x20, 0x20)]),
    ("cntrl", [(0, 0x1F), (0x7F, 0x7F)]),
    ("digit", [(0x30, 0x39)]),
    ("graph", [(0x21, 0x7E)]),
    ("lower", [(0x61, 0x7A)]),
    ("print", [(0x20, 0x7E)]),
    ("punct", [(0x21, 0x2F), (0x3A, 0x40), (0x5B, 0x60), (0x7B, 0x7E)]),
    ("space", [(9, 13), (0x20, 0x20)]),
    ("upper", [(0x41, 0x5A)]),
    ("word", asciiWordSet),
    ("xdigit", [(0x30, 0x39), (0x41, 0x46), (0x61, 0x66)])]

-- What may follow a bracket to name a class, each name as it is and negated.
def asciiClassWords : List (List Char × Bool × Intervals) :=
  asciiClasses.flatMap fun (name, s) =>
    [((":" ++ name ++ ":]").toList, false, s), ((":^" ++ name ++ ":]").toList, true, s)]

def Flags.readAsciiClass (f : Flags) : Reader (Option Intervals) := do
  match ← firstOf asciiClassWords with
  | some (negated, s) => return some (negateIf negated (f.fold s))
  | none => return none

inductive SetOp where
  | inter
  | diff
  | symmetric

def SetOp.apply (a b : Intervals) : SetOp → Intervals
  | .inter => a.inter b
  | .diff => a.diff b
  | .symmetric => (a.diff b).union (b.diff a)

def joinMembers (members : List (Nested Intervals)) : Nested Intervals :=
  { value := Intervals.normalize (members.flatMap (·.value))
    depth := rowDepth (members.map (·.depth)) }

def Flags.applyPending (f : Flags) (pending : Option (SetOp × Nested Intervals))
    (s : Nested Intervals) : Nested Intervals :=
  match pending with
  | none => s
  | some (op, left) =>
    { value := op.apply (f.fold left.value) (f.fold s.value)
      depth := max left.depth s.depth + 1 }

-- Reads one end of a range, or a set, in brackets.
def Flags.readItem (f : Flags) : Reader Primitive := do
  let c ← next
  if c = '\\' then f.readEscape else return .literal c

def Flags.alone? (f : Flags) : Primitive → Option Intervals
  | .literal c => if !f.unicode && c.toNat ≥ 128 then none else some [(c.toNat, c.toNat)]
  | .set s => some s
  | _ => none

def Flags.range? (f : Flags) : Primitive → Primitive → Option Intervals
  | .literal a, .literal b =>
    if a ≤ b ∧ (f.unicode ∨ b.toNat < 128) then some [(a.toNat, b.toNat)] else none
  | _, _ => none

def dash : Intervals :=
  [(0x2D, 0x2D)]

-- Reads on after an item that may start a range. Says also whether the sign of a difference is
-- read after it, which is two dashes with nothing between them.
def Flags.readSpan (f : Flags) : Nat → Primitive → Reader (List Intervals × Bool)
  | 0, _ => failure
  | fuel + 1, first => do
    f.skip
    if ← follows ['-'] then
      if ← follows ['-'] then return ([← f.alone? first], true)
      else
        f.skip
        match ← ahead with
        | some ']' => return ([← f.alone? first, dash], false)
        | some '-' =>
          let s ← f.alone? first
          let (others, isDifference) ← f.readSpan fuel (.literal '-')
          return (s :: others, isDifference)
        | _ => return ([← f.range? first (← f.readItem)], false)
    else return ([← f.alone? first], false)

inductive SetPiece where
  | close
  | members (members : List Intervals)
  | operator (op : SetOp) (before : List Intervals)
  | nested

def setMarks : List (List Char × SetPiece) :=
  [(['['], .nested),
    ([']'], .close),
    (['&', '&'], .operator .inter []),
    (['-', '-'], .operator .diff []),
    (['~', '~'], .operator .symmetric [])]

-- Reads the rest of a piece, whose mark is read if it has one.
def Flags.readMarked (f : Flags) (fuel : Nat) : Option SetPiece → Reader SetPiece
  | some .nested => do
    match ← f.readAsciiClass with
    | some s => return .members [s]
    | none => return .nested
  | some piece => return piece
  | none => do
    let (members, isDifference) ← f.readSpan fuel (← f.readItem)
    return if isDifference then .operator .diff members else .members members

def Flags.readSetPiece (f : Flags) (fuel : Nat) : Reader SetPiece := do
  f.skip
  f.readMarked fuel (← firstOf setMarks)

-- Reads the start of a set: whether it is negated, and the characters that stand for themselves
-- only here.
def Flags.openSet (f : Flags) : Reader (Bool × List Intervals) := do
  f.skip
  let negated ← follows ['^']
  f.skip
  let dashes ← many (takeIf (· = '-')) f.skip
  if dashes ≠ [] then return (negated, dashes.map fun _ => dash)
  else if ← follows [']'] then
    f.skip
    return (negated, [[(0x5D, 0x5D)]])
  else return (negated, [])

-- Reads a set whose members are read by `rest`.
def Flags.readSetBy (f : Flags) (rest : List (Nested Intervals) → Reader (Nested Intervals)) :
    Reader (Nested Intervals) := do
  let (negated, start) ← f.openSet
  let s ← rest (start.map .flat)
  return { value := negateIf negated (f.fold (Intervals.normalize s.value)), depth := s.depth + 1 }

-- Reads the members of a set up to its closing bracket. `pending` is what stands before the last
-- operator, and `members` what is read since.
def Flags.readMembers (f : Flags) : Nat → Option (SetOp × Nested Intervals) →
    List (Nested Intervals) → Reader (Nested Intervals)
  | 0, _, _ => failure
  | fuel + 1, pending, members => do
    match ← f.readSetPiece fuel with
    | .close => return f.applyPending pending (joinMembers members)
    | .members more => f.readMembers fuel pending (members ++ more.map .flat)
    | .operator op more =>
      let left := f.applyPending pending (joinMembers (members ++ more.map .flat))
      f.readMembers fuel (some (op, left)) []
    | .nested =>
      let s ← f.readSetBy (f.readMembers fuel none)
      f.readMembers fuel pending (members ++ [s])

def Flags.readSet (f : Flags) (fuel : Nat) : Reader (Nested Intervals) :=
  f.readSetBy (f.readMembers fuel none)

end NodeEditor.Pattern
