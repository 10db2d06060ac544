import NodeEditor.Text.CategoryTable
import NodeEditor.Text.ScriptTable
import NodeEditor.Text.Intervals

/-!
Unicode properties of characters by name, and the classes built from them: letters and marks that
make words, and characters that are not printed as they are.
-/

namespace NodeEditor.Text

def categories : List (String × Intervals) :=
  categoryIntervals.map fun p => (p.1, Intervals.ofText p.2)

def category (name : String) : Intervals :=
  (categories.lookup name).getD []

-- The intervals of all categories whose name starts with a letter.
def categoryGroup (initial : Char) : Intervals :=
  (categories.filter fun p => p.1.toList.head? = some initial).flatMap (·.2)

def unassigned : Intervals :=
  Intervals.complement (categories.flatMap (·.2))

def alphabetic : Intervals :=
  Intervals.normalize (categoryGroup 'L' ++ category "Nl" ++ Intervals.ofText otherAlphabetic ++
    Intervals.ofText alphabeticMarks)

def lowercase : Intervals :=
  Intervals.normalize (category "Ll" ++ Intervals.ofText otherLowercase)

def uppercase : Intervals :=
  Intervals.normalize (category "Lu" ++ Intervals.ofText otherUppercase)

def whiteSpace : Intervals :=
  [(9, 13), (0x20, 0x20), (0x85, 0x85), (0xA0, 0xA0), (0x1680, 0x1680), (0x2000, 0x200A),
    (0x2028, 0x2029), (0x202F, 0x202F), (0x205F, 0x205F), (0x3000, 0x3000)]

-- Characters that make words: letters, marks, digits, joining punctuation and joiners.
def wordCharacters : Intervals :=
  Intervals.normalize (alphabetic ++ categoryGroup 'M' ++ category "Nd" ++ category "Pc" ++
    [(0x200C, 0x200D)])

def decimalDigits : Intervals :=
  category "Nd"

-- Characters that a quoted text does not show as they are: controls, formats, unassigned code
-- points, separators other than the space, and marks that would join the character before them.
def unprintable : Intervals :=
  Intervals.normalize (categoryGroup 'C' ++ unassigned ++ category "Zl" ++ category "Zp" ++
    (category "Zs").filter (· ≠ (0x20, 0x20)) ++ category "Mn" ++ category "Me" ++
    Intervals.ofText otherGraphemeExtend)

-- The name of a property as it is compared: without case, blanks, `-` and `_`.
def looseName (cs : List Char) : List Char :=
  (cs.filter fun c => !(c = ' ' || c = '_' || c = '-')).map Char.toLower

def categoryNames : List (String × String) := [
  ("uppercaseletter", "Lu"), ("lowercaseletter", "Ll"), ("titlecaseletter", "Lt"),
  ("modifierletter", "Lm"), ("otherletter", "Lo"), ("nonspacingmark", "Mn"),
  ("spacingmark", "Mc"), ("enclosingmark", "Me"), ("decimalnumber", "Nd"), ("digit", "Nd"),
  ("letternumber", "Nl"), ("othernumber", "No"), ("connectorpunctuation", "Pc"),
  ("dashpunctuation", "Pd"), ("openpunctuation", "Ps"), ("closepunctuation", "Pe"),
  ("initialpunctuation", "Pi"), ("finalpunctuation", "Pf"), ("otherpunctuation", "Po"),
  ("mathsymbol", "Sm"), ("currencysymbol", "Sc"), ("modifiersymbol", "Sk"), ("othersymbol", "So"),
  ("spaceseparator", "Zs"), ("lineseparator", "Zl"), ("paragraphseparator", "Zp"),
  ("control", "Cc"), ("cntrl", "Cc"), ("format", "Cf"), ("privateuse", "Co")]

def categoryGroupNames : List (String × Char) := [
  ("l", 'L'), ("letter", 'L'), ("m", 'M'), ("mark", 'M'), ("combiningmark", 'M'), ("n", 'N'),
  ("number", 'N'), ("p", 'P'), ("punctuation", 'P'), ("punct", 'P'), ("s", 'S'), ("symbol", 'S'),
  ("z", 'Z'), ("separator", 'Z')]

def categoryNamed? (name : List Char) : Option Intervals :=
  let text := String.ofList name
  match categoryGroupNames.lookup text with
  | some initial => some (categoryGroup initial)
  | none =>
    match categoryNames.lookup text with
    | some short => some (category short)
    | none =>
      if text = "c" ∨ text = "other" then some (categoryGroup 'C' ++ unassigned)
      else if text = "cn" ∨ text = "unassigned" then some unassigned
      else if text = "cs" ∨ text = "surrogate" then some []
      else if text = "lc" ∨ text = "casedletter" then
        some (category "Lu" ++ category "Ll" ++ category "Lt")
      else if text = "any" then some [(0, Intervals.last)]
      else if text = "ascii" then some [(0, 127)]
      else if text = "assigned" then some unassigned.complement
      else (categories.find? fun p => looseName p.1.toList = name).map (·.2)

def scriptNames : List (String × String) := [
  ("latn", "latin"), ("grek", "greek"), ("cyrl", "cyrillic"), ("hani", "han"), ("hira", "hiragana"),
  ("kana", "katakana"), ("hang", "hangul"), ("arab", "arabic"), ("hebr", "hebrew"), ("thai", "thai"),
  ("deva", "devanagari"), ("armn", "armenian"), ("geor", "georgian"), ("zyyy", "common"),
  ("zinh", "inherited"), ("qaai", "inherited"), ("beng", "bengali"), ("taml", "tamil"),
  ("telu", "telugu"), ("ethi", "ethiopic"), ("khmr", "khmer"), ("laoo", "lao"), ("mong", "mongolian"),
  ("tibt", "tibetan"), ("bopo", "bopomofo"), ("goth", "gothic"), ("runr", "runic"), ("ogam", "ogham")]

def scriptNamed? (name : List Char) : Option Intervals :=
  let full := ((scriptNames.lookup (String.ofList name)).map String.toList).getD name
  (scriptIntervals.find? fun p => looseName p.1.toList = full).map (Intervals.ofText ·.2)

def propertyNamed? (name : List Char) : Option Intervals :=
  match String.ofList name with
  | "alphabetic" | "alpha" => some alphabetic
  | "lowercase" | "lower" => some lowercase
  | "uppercase" | "upper" => some uppercase
  | "whitespace" | "wspace" | "space" => some whiteSpace
  | "joincontrol" | "joinc" => some [(0x200C, 0x200D)]
  | "asciihexdigit" | "ahex" => some [(0x30, 0x39), (0x41, 0x46), (0x61, 0x66)]
  | _ => none

def withoutIs (name : List Char) : List Char :=
  match name with
  | 'i' :: 's' :: rest => if rest = ['c'] then name else rest
  | _ => name

-- The class that a one-part name denotes: a property, a category or a script.
def classNamed? (raw : List Char) : Option Intervals :=
  let name := withoutIs (looseName raw)
  if String.ofList name = "cf" ∨ String.ofList name = "sc" ∨ String.ofList name = "lc" then
    categoryNamed? name
  else
    match propertyNamed? name with
    | some s => some s
    | none =>
      match categoryNamed? name with
      | some s => some s
      | none => scriptNamed? name

def classWithValue? (rawName rawValue : List Char) : Option Intervals :=
  let value := withoutIs (looseName rawValue)
  match String.ofList (withoutIs (looseName rawName)) with
  | "generalcategory" | "gc" => categoryNamed? value
  | "script" | "sc" | "scriptextensions" | "scx" => scriptNamed? value
  | _ => none

end NodeEditor.Text
