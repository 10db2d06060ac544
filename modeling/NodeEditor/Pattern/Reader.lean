/-!
Readers of text. A reader takes what it understands from the front of a text. All of them are put
together from a few that look at one character or one word at a time.
-/

namespace NodeEditor.Pattern

abbrev Reader := StateT (List Char) Option

namespace Reader

def next : Reader Char := fun cs =>
  match cs with
  | [] => none
  | c :: cs => some (c, cs)

-- The character in front, which is left there. A closing parenthesis counts as the end.
def ahead : Reader (Option Char) := fun cs => some (cs.head?.filter (· ≠ ')'), cs)

-- Takes a word if it is in front, and says whether it was.
def follows (word : List Char) : Reader Bool := fun cs =>
  if word.isPrefixOf cs then some (true, cs.drop word.length) else some (false, cs)

def takeIf (p : Char → Bool) : Reader (Option Char) := fun cs =>
  match cs with
  | [] => some (none, [])
  | c :: rest => if p c then some (some c, rest) else some (none, cs)

-- Takes a character that is not the mark, or the mark.
def takeUpTo (mark : Char) : Reader (Option Char) := do
  let c ← next
  return if c = mark then none else some c

def manyWithin (one : Reader (Option Char)) (between : Reader Unit) : Nat → Reader (List Char)
  | 0 => failure
  | fuel + 1 => do
    match ← one with
    | none => return []
    | some c =>
      between
      return c :: (← manyWithin one between fuel)

-- Takes characters as long as there are any to take, and what is between them.
def many (one : Reader (Option Char)) (between : Reader Unit) : Reader (List Char) := fun cs =>
  manyWithin one between (cs.length + 1) cs

-- The first of the words that is in front, by what it stands for.
def firstOf {α : Type} : List (List Char × α) → Reader (Option α)
  | [] => return none
  | (word, a) :: others => do
    if ← follows word then return some a
    else firstOf others

end Reader

end NodeEditor.Pattern
