import NodeEditor.Text.CaseTable
import NodeEditor.Text.Intervals

/-!
Upper case, lower case and case folding of characters, by the Unicode mappings. A character may map
to several (`ß` to `SS`), so a mapping gives a list.
-/

namespace NodeEditor.Text

-- A run of code points that move by one distance, every `stride`-th of them.
structure CaseRun where
  first : Nat
  last : Nat
  stride : Nat
  target : Nat

namespace CaseRun

def ofWord? (w : List Char) : Option CaseRun := do
  match splitWhere (· = ':') w with
  | [source, target] =>
    let t ← hexNumber? target
    match splitWhere (· = '/') source with
    | [range] =>
      let (a, b) ← Intervals.ofWord? range
      some { first := a, last := b, stride := 1, target := t }
    | [range, step] =>
      let (a, b) ← Intervals.ofWord? range
      let k ← hexNumber? step
      some { first := a, last := b, stride := k, target := t }
    | _ => none
  | _ => none

-- Where the run sends a code point, if it holds it.
def image? (r : CaseRun) (n : Nat) : Option Nat :=
  if r.first ≤ n ∧ n ≤ r.last ∧ (n - r.first) % r.stride = 0 then some (r.target + (n - r.first))
  else none

def pairs (r : CaseRun) : List (Nat × Nat) :=
  (List.range (r.last - r.first + 1)).filterMap fun i =>
    if i % r.stride = 0 then some (r.first + i, r.target + i) else none

end CaseRun

def caseRuns (s : List String) : List CaseRun :=
  (tableWords s).filterMap CaseRun.ofWord?

def caseWords (s : List String) : List (Nat × List Char) :=
  (tableWords s).filterMap fun w =>
    match splitWhere (· = ':') w with
    | [source, target] => do
      let n ← hexNumber? source
      let codes ← (splitWhere (· = '+') target).mapM hexNumber?
      some (n, codes.map Char.ofNat)
    | _ => none

-- A case mapping: the characters with several images, then the runs.
structure CaseMap where
  several : List (Nat × List Char)
  runs : List CaseRun

-- The image of a character; a character in no entry maps to itself.
def CaseMap.apply (m : CaseMap) (c : Char) : List Char :=
  match m.several.lookup c.toNat with
  | some cs => cs
  | none =>
    match m.runs.findSome? (·.image? c.toNat) with
    | some n => [Char.ofNat n]
    | none => [c]

def upperMap : CaseMap := { several := caseWords upperWords, runs := caseRuns upperRuns }

def lowerMap : CaseMap := { several := caseWords lowerWords, runs := caseRuns lowerRuns }

-- Upper case of one character; ASCII is decided without the table.
def upperChar (c : Char) : List Char :=
  if c.toNat < 128 then [c.toUpper] else upperMap.apply c

-- Lower case of one character; ASCII is decided without the table.
def lowerChar (c : Char) : List Char :=
  if c.toNat < 128 then [c.toLower] else lowerMap.apply c

def toUpper (s : String) : String :=
  String.ofList (s.toList.flatMap upperChar)

def toLower (s : String) : String :=
  String.ofList (s.toList.flatMap lowerChar)

def sameIgnoringAsciiCase (s t : String) : Bool :=
  s.toList.map Char.toLower = t.toList.map Char.toLower

-- Every code point that case folding moves, with its folded form.
def foldPairs : List (Nat × Nat) :=
  (caseRuns foldRuns).flatMap CaseRun.pairs

-- All code points whose folded form is the folded form of a member.
def Intervals.caseClosure (s : Intervals) : Intervals :=
  let folded := foldPairs.filterMap fun p => if s.mem p.1 || s.mem p.2 then some p.2 else none
  s.union (foldPairs.flatMap fun p =>
    if folded.contains p.2 then [(p.1, p.1), (p.2, p.2)] else [])

end NodeEditor.Text
