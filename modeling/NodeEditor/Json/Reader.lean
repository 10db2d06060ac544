import NodeEditor.Json.Dict
import NodeEditor.Json.NumberReader
import NodeEditor.Text.Intervals

/-!
Reading JSON text. Of entries with one key the last counts, and the entries of an object come in key
order. At most 127 arrays and objects may stand inside each other. Every reader gives the value and
the rest of the text; each step takes at least one character, so the length of the text is fuel
enough.
-/

namespace NodeEditor.Json

def isSpace (c : Char) : Bool :=
  c = ' ' || c = '\n' || c = '\t' || c = '\r'

def skipSpace (cs : List Char) : List Char :=
  cs.dropWhile isSpace

-- Reads the rest of a word whose first letter is known.
def readWord : List Char → List Char → Except Stop (List Char)
  | [], cs => .ok cs
  | _ :: _, [] => .error (.before .endInValue [])
  | w :: ws, c :: cs => if c = w then readWord ws cs else .error (.at .noWord (c :: cs))

def readHex (cs : List Char) : Except Stop (Nat × List Char) :=
  match cs with
  | a :: b :: c :: d :: rest =>
    match Text.hexNumber? [a, b, c, d] with
    | some n => .ok (n, rest)
    | none => .error { fault := .badEscape, rest := cs, past := 4 }
  | _ =>
    if byteCount cs < 4 then .error (.before .endInString [])
    else .error { fault := .badEscape, rest := cs, past := 4 }

-- Reads the second half of a character that is written as two escapes.
def readLowSurrogate (high : Nat) (cs : List Char) : Except Stop (Char × List Char) :=
  match cs with
  | [] => .error (.before .endInString [])
  | '\\' :: [] => .error (.before .endInString [])
  | '\\' :: 'u' :: rest => do
    let (low, rest) ← readHex rest
    if 0xDC00 ≤ low ∧ low ≤ 0xDFFF then
      .ok (Char.ofNat ((high - 0xD800) * 0x400 + (low - 0xDC00) + 0x10000), rest)
    else .error (.before .loneSurrogate rest)
  | '\\' :: rest => .error (.at .endOfHexEscape rest)
  | _ => .error (.at .endOfHexEscape cs)

def readEscape (cs : List Char) : Except Stop (Char × List Char) :=
  match cs with
  | [] => .error (.before .endInString [])
  | '"' :: rest => .ok ('"', rest)
  | '\\' :: rest => .ok ('\\', rest)
  | '/' :: rest => .ok ('/', rest)
  | 'b' :: rest => .ok ('\x08', rest)
  | 'f' :: rest => .ok ('\x0c', rest)
  | 'n' :: rest => .ok ('\n', rest)
  | 'r' :: rest => .ok ('\r', rest)
  | 't' :: rest => .ok ('\t', rest)
  | 'u' :: rest => do
    let (n, rest) ← readHex rest
    if 0xDC00 ≤ n ∧ n ≤ 0xDFFF then .error (.before .loneSurrogate rest)
    else if 0xD800 ≤ n ∧ n ≤ 0xDBFF then readLowSurrogate n rest
    else .ok (Char.ofNat n, rest)
  | _ => .error (.at .badEscape cs)

def readChars : Nat → List Char → Except Stop (List Char × List Char)
  | 0, cs => .error (.before .endInString cs)
  | fuel + 1, cs =>
    match cs with
    | [] => .error (.before .endInString [])
    | '"' :: rest => .ok ([], rest)
    | '\\' :: rest => do
      let (c, rest) ← readEscape rest
      let (s, rest) ← readChars fuel rest
      .ok (c :: s, rest)
    | c :: rest =>
      if c.toNat < 0x20 then .error (.at .controlCharacter cs)
      else do
        let (s, rest) ← readChars fuel rest
        .ok (c :: s, rest)

def readString (cs : List Char) : Except Stop (String × List Char) := do
  let (s, rest) ← readChars (cs.length + 1) cs
  .ok (String.ofList s, rest)

-- Goes to the next item of a list: nothing at its end, the rest from the item on otherwise.
def nextItem (first : Bool) (cs : List Char) : Except Stop (Option (List Char) × List Char) :=
  match skipSpace cs with
  | [] => .error (.at .endInList [])
  | ']' :: rest => .ok (none, rest)
  | ',' :: rest =>
    if first then .ok (some (',' :: rest), [])
    else
      match skipSpace rest with
      | [] => .error (.at .endInValue [])
      | ']' :: more => .error (.at .trailingComma (']' :: more))
      | item => .ok (some item, [])
  | item => if first then .ok (some item, []) else .error (.at .noListComma item)

-- Goes to the next key of an object, behind its opening quote: nothing at the end.
def nextKey (first : Bool) (cs : List Char) : Except Stop (Option (List Char) × List Char) :=
  match skipSpace cs with
  | [] => .error (.at .endInObject [])
  | '\x7d' :: rest => .ok (none, rest)
  | c :: rest =>
    if first then
      if c = '"' then .ok (some rest, []) else .error (.at .keyNotString (c :: rest))
    else if c = ',' then
      match skipSpace rest with
      | [] => .error (.at .endInValue [])
      | '"' :: key => .ok (some key, [])
      | '\x7d' :: more => .error (.at .trailingComma ('\x7d' :: more))
      | more => .error (.at .keyNotString more)
    else .error (.at .noObjectComma (c :: rest))

def readColon (cs : List Char) : Except Stop (List Char) :=
  match skipSpace cs with
  | [] => .error (.at .endInObject [])
  | ':' :: rest => .ok rest
  | rest => .error (.at .noColon rest)

mutual

-- Reads a value; `depth` more arrays and objects may be opened.
def readValue : Nat → Nat → List Char → Except Stop (Json × List Char)
  | 0, _, cs => .error (.before .endInValue cs)
  | fuel + 1, depth, cs =>
    match skipSpace cs with
    | [] => .error (.at .endInValue [])
    | c :: rest =>
      if c = 'n' then do
        let rest ← readWord ['u', 'l', 'l'] rest
        .ok (.null, rest)
      else if c = 't' then do
        let rest ← readWord ['r', 'u', 'e'] rest
        .ok (.bool true, rest)
      else if c = 'f' then do
        let rest ← readWord ['a', 'l', 's', 'e'] rest
        .ok (.bool false, rest)
      else if c = '-' then do
        let (n, rest) ← readNumber true rest
        .ok (.num n, rest)
      else if c.isDigit then do
        let (n, rest) ← readNumber false (c :: rest)
        .ok (.num n, rest)
      else if c = '"' then do
        let (s, rest) ← readString rest
        .ok (.str s, rest)
      else if c = '[' then
        match depth with
        | 0 => .error (.at .tooDeep (c :: rest))
        | depth + 1 => do
          let (items, rest) ← readItems fuel depth true rest
          .ok (.arr items, rest)
      else if c = '\x7b' then
        match depth with
        | 0 => .error (.at .tooDeep (c :: rest))
        | depth + 1 => do
          let (entries, rest) ← readEntries fuel depth true rest
          .ok (.obj (Dict.ofList entries).entries, rest)
      else .error (.at .noValue (c :: rest))

def readItems : Nat → Nat → Bool → List Char → Except Stop (List Json × List Char)
  | 0, _, _, cs => .error (.before .endInList cs)
  | fuel + 1, depth, first, cs => do
    match ← nextItem first cs with
    | (none, rest) => .ok ([], rest)
    | (some item, _) => do
      let (j, rest) ← readValue fuel depth item
      let (js, rest) ← readItems fuel depth false rest
      .ok (j :: js, rest)

-- Reads the entries of an object and its closing brace, in the order of the text.
def readEntries : Nat → Nat → Bool → List Char → Except Stop (List (String × Json) × List Char)
  | 0, _, _, cs => .error (.before .endInObject cs)
  | fuel + 1, depth, first, cs => do
    match ← nextKey first cs with
    | (none, rest) => .ok ([], rest)
    | (some key, _) => do
      let (k, rest) ← readString key
      let rest ← readColon rest
      let (j, rest) ← readValue fuel depth rest
      let (es, rest) ← readEntries fuel depth false rest
      .ok ((k, j) :: es, rest)

end

def maxDepth : Nat := 127

def parseChars (cs : List Char) : Except Stop Json := do
  let (j, rest) ← readValue (2 * cs.length + 2) maxDepth cs
  match skipSpace rest with
  | [] => .ok j
  | more => .error (.at .trailingCharacters more)

-- Reads a text that holds one value, or tells what is wrong with it and where.
def parse (text : String) : Except SyntaxError Json :=
  match parseChars text.toList with
  | .ok j => .ok j
  | .error stop => .error (stop.locate text.toList)

end NodeEditor.Json
