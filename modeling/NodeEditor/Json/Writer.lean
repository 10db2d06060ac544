import NodeEditor.Json.Basic

/-!
JSON text. `compact` writes no spaces; `pretty` indents by two and puts each item on a line of its
own. Entries are written in the order of the value.
-/

namespace NodeEditor.Json

def controlEscape (c : Char) : List Char :=
  let digit (n : Nat) : Char := (Nat.toDigits 16 n).headD '0'
  ['\\', 'u', '0', '0', digit (c.toNat / 16), digit (c.toNat % 16)]

def escapeChar (c : Char) : List Char :=
  if c = '"' then ['\\', '"']
  else if c = '\\' then ['\\', '\\']
  else if c = '\x08' then ['\\', 'b']
  else if c = '\x0c' then ['\\', 'f']
  else if c = '\n' then ['\\', 'n']
  else if c = '\r' then ['\\', 'r']
  else if c = '\t' then ['\\', 't']
  else if c.toNat < 0x20 then controlEscape c
  else [c]

def writeString (s : String) : List Char :=
  '"' :: s.toList.flatMap escapeChar ++ ['"']

mutual

def write : Json → List Char
  | .null => ['n', 'u', 'l', 'l']
  | .bool true => ['t', 'r', 'u', 'e']
  | .bool false => ['f', 'a', 'l', 's', 'e']
  | .num n => n.text.toList
  | .str s => writeString s
  | .arr [] => ['[', ']']
  | .arr (j :: js) => '[' :: write j ++ writeItems js ++ [']']
  | .obj [] => ['\x7b', '\x7d']
  | .obj ((k, j) :: es) => '\x7b' :: writeString k ++ ':' :: write j ++ writeEntries es ++ ['\x7d']

def writeItems : List Json → List Char
  | [] => []
  | j :: js => ',' :: write j ++ writeItems js

def writeEntries : List (String × Json) → List Char
  | [] => []
  | (k, j) :: es => ',' :: writeString k ++ ':' :: write j ++ writeEntries es

end

def compact (j : Json) : String :=
  String.ofList j.write

def lineBreak (depth : Nat) : List Char :=
  '\n' :: List.replicate (2 * depth) ' '

mutual

def writeIndented (depth : Nat) : Json → List Char
  | .arr (j :: js) =>
    '[' :: lineBreak (depth + 1) ++ writeIndented (depth + 1) j ++
      writeIndentedItems (depth + 1) js ++ lineBreak depth ++ [']']
  | .obj ((k, j) :: es) =>
    '\x7b' :: lineBreak (depth + 1) ++ writeString k ++ ':' :: ' ' :: writeIndented (depth + 1) j ++
      writeIndentedEntries (depth + 1) es ++ lineBreak depth ++ ['\x7d']
  | .arr [] => ['[', ']']
  | .obj [] => ['\x7b', '\x7d']
  | .null => write .null
  | .bool b => write (.bool b)
  | .num n => write (.num n)
  | .str s => write (.str s)

-- Items after the first, each on a line of its own.
def writeIndentedItems (depth : Nat) : List Json → List Char
  | [] => []
  | j :: js => ',' :: lineBreak depth ++ writeIndented depth j ++ writeIndentedItems depth js

-- Entries after the first, each on a line of its own.
def writeIndentedEntries (depth : Nat) : List (String × Json) → List Char
  | [] => []
  | (k, j) :: es =>
    ',' :: lineBreak depth ++ writeString k ++ ':' :: ' ' :: writeIndented depth j ++
      writeIndentedEntries depth es

end

def pretty (j : Json) : String :=
  String.ofList (writeIndented 0 j)

-- The text of a value where a text is wanted: a string as it is, anything else as JSON.
def plainText : Json → String
  | .str s => s
  | j => j.compact

end NodeEditor.Json
