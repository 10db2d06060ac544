import NodeEditor.Json.Basic
import NodeEditor.Text.Intervals

/-!
The text of a source editor: its numbered lines, and the tab key.
-/

namespace NodeEditor

-- A line of a source text with its number, counted from one.
structure NumberedLine where
  number : Nat
  text : String
deriving DecidableEq, Repr

def NumberedLine.toJson (l : NumberedLine) : Json :=
  .obj [("number", .ofNat l.number), ("text", .str l.text)]

def dropReturn (cs : List Char) : List Char :=
  if cs.getLast? = some '\r' then cs.dropLast else cs

-- The lines of a text. A text without line breaks, even the empty one, is one line.
def numberLines (source : String) : List NumberedLine :=
  (Text.splitWhere (· = '\n') source.toList).zipIdx.map fun (line, i) =>
    { number := i + 1, text := String.ofList (dropReturn line) }

def tabText : String := "  "

-- The last place between two characters that is at most `place` bytes from the start of a text. It
-- is looked for byte by byte, going back.
def boundaryBefore (source : String) : Nat → source.Pos
  | 0 => source.startPos
  | place + 1 =>
    if h : String.Pos.Raw.IsValid source ⟨place + 1⟩ then source.pos ⟨place + 1⟩ h
    else boundaryBefore source place

-- Inserts a tab at a cursor, counted in bytes, and gives the cursor behind it.
def insertTab (source : String) (cursor : Nat) : String × Nat :=
  let place := boundaryBefore source (min cursor source.utf8ByteSize)
  ((source.sliceTo place).copy ++ tabText ++ (source.sliceFrom place).copy,
    place.offset.byteIdx + tabText.utf8ByteSize)

end NodeEditor
