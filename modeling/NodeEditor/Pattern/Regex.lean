import NodeEditor.Text.Category

/-!
Regular expressions over characters, with assertions about the place between two characters.
Matching follows the partial derivatives: a set of expressions that stands for what may still come,
moved on by one character at a time.
-/

namespace NodeEditor.Pattern

-- A condition on the place between the character before and the character after it.
inductive Assertion where
  | textStart
  | textEnd
  | lineStart
  | lineEnd
  | lineStartAnyBreak
  | lineEndAnyBreak
  | wordBoundary (ascii : Bool)
  | notWordBoundary (ascii : Bool)
  | wordStart (ascii : Bool)
  | wordEnd (ascii : Bool)
  | wordStartHalf (ascii : Bool)
  | wordEndHalf (ascii : Bool)
deriving DecidableEq, Repr

inductive Regex where
  | empty
  | chars (set : Text.Intervals)
  | look (condition : Assertion)
  | cat (first second : Regex)
  | alt (left right : Regex)
  | rep (body : Regex) (least : Nat) (most : Option Nat)
deriving DecidableEq

def wordSet : Text.Intervals := Text.wordCharacters

def asciiWordSet : Text.Intervals := [(0x30, 0x39), (0x41, 0x5A), (0x5F, 0x5F), (0x61, 0x7A)]

def isWord (ascii : Bool) : Option Char → Bool
  | none => false
  | some c =>
    if c.toNat < 128 then asciiWordSet.mem c.toNat else !ascii && wordSet.mem c.toNat

def Assertion.holds (prev next : Option Char) : Assertion → Bool
  | .textStart => prev = none
  | .textEnd => next = none
  | .lineStart => prev = none || prev = some '\n'
  | .lineEnd => next = none || next = some '\n'
  | .lineStartAnyBreak =>
    prev = none || prev = some '\n' || (prev = some '\r' && next ≠ some '\n')
  | .lineEndAnyBreak =>
    next = none || next = some '\r' || (next = some '\n' && prev ≠ some '\r')
  | .wordBoundary ascii => isWord ascii prev != isWord ascii next
  | .notWordBoundary ascii => isWord ascii prev == isWord ascii next
  | .wordStart ascii => !isWord ascii prev && isWord ascii next
  | .wordEnd ascii => isWord ascii prev && !isWord ascii next
  | .wordStartHalf ascii => !isWord ascii prev
  | .wordEndHalf ascii => !isWord ascii next

-- Whether a repetition can have any number of rounds.
def inOrder (least : Nat) (most : Option Nat) : Bool :=
  most.all (least ≤ ·)

namespace Regex

def nullable (prev next : Option Char) : Regex → Bool
  | .empty => true
  | .chars _ => false
  | .look condition => condition.holds prev next
  | .cat r s => r.nullable prev next && s.nullable prev next
  | .alt r s => r.nullable prev next || s.nullable prev next
  | .rep r least most => inOrder least most && (least = 0 || r.nullable prev next)

def followedBy : Regex → Regex → Regex
  | .empty, s => s
  | r, s => .cat r s

-- What may come after a match has taken the character `c`.
def derivatives (prev : Option Char) (c : Char) : Regex → List Regex
  | .empty => []
  | .chars set => if set.mem c.toNat then [.empty] else []
  | .look _ => []
  | .cat r s =>
    (r.derivatives prev c).map (·.followedBy s) ++
      (if r.nullable prev (some c) then s.derivatives prev c else [])
  | .alt r s => r.derivatives prev c ++ s.derivatives prev c
  | .rep r least most =>
    if most = some 0 || !inOrder least most then []
    else
      -- rounds that match nothing here may come before this one
      let left := if r.nullable prev (some c) then 0 else least - 1
      (r.derivatives prev c).map (·.followedBy (.rep r left (most.map (· - 1))))

-- Whether a match starts somewhere in the text, or one that has begun can be ended.
def searchFrom (r : Regex) (begun : List Regex) (prev : Option Char) : List Char → Bool
  | [] => (r :: begun).any (nullable prev none)
  | c :: cs =>
    (r :: begun).any (nullable prev (some c)) ||
      searchFrom r ((r :: begun).flatMap (derivatives prev c)).eraseDups (some c) cs

def matchesSome (r : Regex) (text : List Char) : Bool :=
  searchFrom r [] none text

end Regex

end NodeEditor.Pattern
