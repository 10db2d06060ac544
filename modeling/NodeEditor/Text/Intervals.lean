/-!
Sets of characters as intervals of code points. `mem_ofText`-style facts are checked on the tables
that use them; the operations here are the ones a character class needs: union, complement and
intersection, each by its members.
-/

namespace NodeEditor.Text

abbrev Intervals := List (Nat × Nat)

def hexValue? (c : Char) : Option Nat :=
  if '0' ≤ c ∧ c ≤ '9' then some (c.toNat - '0'.toNat)
  else if 'a' ≤ c ∧ c ≤ 'f' then some (c.toNat - 'a'.toNat + 10)
  else if 'A' ≤ c ∧ c ≤ 'F' then some (c.toNat - 'A'.toNat + 10)
  else none

def hexNumber? : List Char → Option Nat
  | [] => none
  | cs => cs.foldlM (fun n c => (hexValue? c).map (16 * n + ·)) 0

-- Splits at every character that satisfies `p`; the separators are dropped.
def splitWhere (p : Char → Bool) : List Char → List (List Char)
  | [] => [[]]
  | c :: cs =>
    match splitWhere p cs with
    | [] => [[c]]
    | w :: ws => if p c then [] :: w :: ws else (c :: w) :: ws

def tableWords (lines : List String) : List (List Char) :=
  lines.flatMap fun s => (splitWhere (· = ' ') s.toList).filter (· ≠ [])

namespace Intervals

def ofWord? (w : List Char) : Option (Nat × Nat) :=
  match splitWhere (· = '-') w with
  | [a] => (hexNumber? a).map fun n => (n, n)
  | [a, b] =>
    match hexNumber? a, hexNumber? b with
    | some m, some n => some (m, n)
    | _, _ => none
  | _ => none

def ofText (s : List String) : Intervals :=
  (tableWords s).filterMap ofWord?

def mem (s : Intervals) (n : Nat) : Bool :=
  s.any fun r => r.1 ≤ n && n ≤ r.2

def last : Nat := 0x10FFFF

def normalize (s : Intervals) : Intervals :=
  let sorted := (s.filter fun r => r.1 ≤ r.2).mergeSort fun a b => a.1 ≤ b.1
  (sorted.foldl (fun out r =>
    match out with
    | [] => [r]
    | t :: rest => if r.1 ≤ t.2 + 1 then (t.1, max t.2 r.2) :: rest else r :: t :: rest) []).reverse

def gaps (start : Nat) : Intervals → Intervals
  | [] => if start ≤ last then [(start, last)] else []
  | (a, b) :: rest =>
    if start < a then (start, a - 1) :: gaps (b + 1) rest else gaps (b + 1) rest

def complement (s : Intervals) : Intervals :=
  gaps 0 s.normalize

def union (s t : Intervals) : Intervals :=
  normalize (s ++ t)

def inter (s t : Intervals) : Intervals :=
  normalize (s.flatMap fun a => t.filterMap fun b =>
    let lo := max a.1 b.1
    let hi := min a.2 b.2
    if lo ≤ hi then some (lo, hi) else none)

def diff (s t : Intervals) : Intervals :=
  s.inter t.complement

end Intervals

end NodeEditor.Text
