import NodeEditor.Text.Blank
import NodeEditor.Text.Intervals

/-!
Addresses on the web, as clients take them apart: a scheme, an authority, the segments of a path, and
what stands behind a question mark and a number sign. The authority, which names a host, is read by
others.
-/

namespace NodeEditor

-- The segments are as they are written, with dots resolved.
structure WebAddress where
  scheme : List Char
  authority : List Char
  segments : List (List Char)
  query : Option (List Char)
  fragment : Option (List Char)
deriving DecidableEq

namespace WebAddress

-- The schemes of addresses with an authority and a path.
def schemes : List (List Char) :=
  ["http", "https", "ws", "wss", "ftp"].map String.toList

-- Tabs and line breaks are dropped wherever they stand.
def isSkipped (c : Char) : Bool :=
  c = '\t' || c = '\n' || c = '\r'

def strip (cs : List Char) : List Char :=
  cs.filter (!isSkipped ·)

-- At both ends blanks and control characters are dropped as well.
def isPadding (c : Char) : Bool :=
  c ≤ ' '

def clean (cs : List Char) : List Char :=
  Text.dropEndWhile isPadding ((strip cs).dropWhile isPadding)

-- The web takes the one slash for the other.
def isSlash (c : Char) : Bool :=
  c = '/' || c = '\\'

def utf8 (cs : List Char) : List UInt8 :=
  cs.flatMap String.utf8EncodeChar

-- The byte that two hexadecimal digits stand for.
def byte? (a b : Char) : Option UInt8 := do
  let high ← Text.hexValue? a
  let low ← Text.hexValue? b
  return UInt8.ofNat (16 * high + low)

-- The bytes that a part of an address stands for. Other characters than those of an escape are put
-- in escapes on the way if need be, and come out of them as they went in.
def decode : List Char → List UInt8
  | [] => []
  | '%' :: a :: b :: rest =>
    match byte? a b with
    | some x => x :: decode rest
    | none => String.utf8EncodeChar '%' ++ decode (a :: b :: rest)
  | c :: rest => String.utf8EncodeChar c ++ decode rest

def isDot (w : List Char) : Bool :=
  decode w = utf8 ['.']

def isDots (w : List Char) : Bool :=
  decode w = utf8 ['.', '.']

-- One dot stays where it is, and two dots go back by one, also if they are put in escapes.
def enter (segments : List (List Char)) (w : List Char) : List (List Char) :=
  if isDots w then segments.dropLast
  else if isDot w then segments
  else segments ++ [w]

-- Enters what stands between the slashes of a path. Dots at its end leave an empty segment.
def enterAll (segments : List (List Char)) : List (List Char) → List (List Char)
  | [] => segments
  | [w] => enter segments w ++ if isDots w || isDot w then [[]] else []
  | w :: w' :: ws => enterAll (enter segments w) (w' :: ws)

-- The segments of a path that is empty or begins with a slash.
def segmentsOf (path : List Char) : List (List Char) :=
  enterAll [] (Text.splitWhere isSlash (path.drop 1))

-- A text up to a mark, and what is behind the mark if there is one.
def cut (mark : Char) (cs : List Char) : List Char × Option (List Char) :=
  (cs.takeWhile (· ≠ mark), (cs.dropWhile (· ≠ mark)).tail?)

-- Reads an address of which nothing is to be dropped any more. An authority is read for its scheme.
def readChars? (authority? : List Char → List Char → Option (List Char)) (cs : List Char) :
    Option WebAddress :=
  let hash := cut '#' cs
  let question := cut '?' hash.1
  match cut ':' question.1 with
  | (_, none) => none
  | (scheme, some rest) =>
    let scheme := scheme.map Char.toLower
    let rest := rest.dropWhile isSlash
    let authority := rest.takeWhile (!isSlash ·)
    if scheme ∈ schemes ∧ authority ≠ [] then
      (authority? scheme authority).map fun authority =>
        { scheme := scheme
          authority := authority
          segments := segmentsOf (rest.dropWhile (!isSlash ·))
          query := question.2
          fragment := hash.2 }
    else none

def read? (authority? : List Char → List Char → Option (List Char)) (text : String) :
    Option WebAddress :=
  readChars? authority? (clean text.toList)

end WebAddress

end NodeEditor
