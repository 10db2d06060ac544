/-!
What can be wrong with a JSON text, and where. A reader stops at a rest of the text; the place is
counted in lines and in bytes since the last line break.
-/

namespace NodeEditor.Json

inductive Fault where
  | endInValue
  | endInObject
  | endInList
  | endInString
  | noValue
  | noWord
  | noColon
  | noObjectComma
  | noListComma
  | keyNotString
  | trailingComma
  | trailingCharacters
  | badNumber
  | numberOutOfRange
  | badEscape
  | controlCharacter
  | endOfHexEscape
  | loneSurrogate
  | tooDeep
deriving DecidableEq, Repr

def Fault.message : Fault → String
  | .endInValue => "EOF while parsing a value"
  | .endInObject => "EOF while parsing an object"
  | .endInList => "EOF while parsing a list"
  | .endInString => "EOF while parsing a string"
  | .noValue => "expected value"
  | .noWord => "expected ident"
  | .noColon => "expected `:`"
  | .noObjectComma => "expected `,` or `\x7d`"
  | .noListComma => "expected `,` or `]`"
  | .keyNotString => "key must be a string"
  | .trailingComma => "trailing comma"
  | .trailingCharacters => "trailing characters"
  | .badNumber => "invalid number"
  | .numberOutOfRange => "number out of range"
  | .badEscape => "invalid escape"
  | .controlCharacter => "control character (\\u0000-\\u001F) found while parsing a string"
  | .endOfHexEscape => "unexpected end of hex escape"
  | .loneSurrogate => "lone leading surrogate in hex escape"
  | .tooDeep => "recursion limit exceeded"

-- A fault at a rest of the text, `past` bytes into it.
structure Stop where
  fault : Fault
  rest : List Char
  past : Nat

def Stop.at (fault : Fault) (rest : List Char) : Stop :=
  { fault := fault, rest := rest, past := 1 }

def Stop.before (fault : Fault) (rest : List Char) : Stop :=
  { fault := fault, rest := rest, past := 0 }

def byteCount (cs : List Char) : Nat :=
  cs.foldr (fun c n => c.utf8Size + n) 0

-- A line, counted from one, and the bytes after its start.
structure Place where
  line : Nat
  column : Nat
deriving DecidableEq, Repr

def Place.after : Nat → Place → List Char → Place
  | _, p, [] => p
  | offset, p, c :: cs =>
    if offset = 0 then p
    else if c = '\n' then Place.after (offset - 1) { line := p.line + 1, column := 0 } cs
    else if offset < c.utf8Size then { p with column := p.column + offset }
    else Place.after (offset - c.utf8Size) { p with column := p.column + c.utf8Size } cs

structure SyntaxError where
  fault : Fault
  place : Place
deriving DecidableEq, Repr

def SyntaxError.message (e : SyntaxError) : String :=
  s!"{e.fault.message} at line {e.place.line} column {e.place.column}"

def Stop.locate (text : List Char) (s : Stop) : SyntaxError :=
  let total := byteCount text
  let offset := min total (total - byteCount s.rest + s.past)
  { fault := s.fault, place := Place.after offset { line := 1, column := 0 } text }

end NodeEditor.Json
