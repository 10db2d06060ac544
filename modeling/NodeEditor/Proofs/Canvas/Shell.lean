import Mathlib.Algebra.Order.Ring.Nat
import NodeEditor.Canvas.Curl

namespace NodeEditor.Shell

-- What a shell takes a text apart into: words, and the characters of operators.
inductive Token where
  | word (text : String)
  | operator (c : Char)
deriving DecidableEq, Repr

-- What the next character stands in. The last two are behind a backslash.
inductive Mode where
  | bare
  | quoted
  | doubled
  | escaped
  | doubledEscaped
deriving DecidableEq, Repr

-- A text that has been read up to some place: the tokens that are complete, and the characters of
-- the word that is under way, if there is one.
structure Reading where
  tokens : List Token
  word   : Option (List Char)
  mode   : Mode
deriving DecidableEq, Repr

def isBlank (c : Char) : Bool :=
  c ∈ [' ', '\t']

-- A line break ends a command, as a semicolon does.
def isOperator (c : Char) : Bool :=
  c ∈ ['&', '|', ';', '<', '>', '(', ')', '\n']

def isQuote (c : Char) : Bool :=
  c ∈ ['\'', '"', '\\']

-- The characters that a shell replaces by something else: those of parameters and commands, also
-- between double quotes, and those of file names.
def expands (c : Char) : Bool :=
  c ∈ ['$', '\x60']

def matchesFiles (c : Char) : Bool :=
  c ∈ ['*', '?', '[']

-- A comment or a home directory, where a word starts with it.
def expandsFirst (c : Char) : Bool :=
  c ∈ ['#', '~']

-- A character that stands for itself without quotes.
def isPlain (c : Char) : Bool :=
  !(isQuote c || isBlank c || isOperator c || expands c || matchesFiles c)

-- A word that can be written without quotes.
structure IsBare (cs : List Char) : Prop where
  nonempty : cs ≠ []
  plain    : ∀ c ∈ cs, isPlain c
  first    : ∀ c ∈ cs.head?, ¬expandsFirst c

theorem isBare_iff {cs : List Char} :
    IsBare cs ↔ cs ≠ [] ∧ cs.all isPlain ∧ cs.head?.all (!expandsFirst ·) := by
  rw [List.all_eq_true, Option.all_eq_true]
  simp only [Bool.not_eq_true', ← Bool.not_eq_true]
  exact ⟨fun h => ⟨h.nonempty, h.plain, h.first⟩, fun ⟨hn, hp, hf⟩ => ⟨hn, hp, hf⟩⟩

instance (cs : List Char) : Decidable (IsBare cs) :=
  decidable_of_iff _ isBare_iff.symm

namespace Reading

def start : Reading where
  tokens := []
  word   := none
  mode   := .bare

def put (r : Reading) (c : Char) : Reading :=
  { r with word := some (r.word.getD [] ++ [c]) }

-- A quote starts a word, even if there is nothing in it.
def openQuote (r : Reading) (mode : Mode) : Reading :=
  { r with word := some (r.word.getD []), mode := mode }

def turn (r : Reading) (mode : Mode) : Reading :=
  { r with mode := mode }

def endWord (r : Reading) : Reading :=
  match r.word with
  | none   => r
  | some w => { r with tokens := r.tokens ++ [.word (String.ofList w)], word := none }

def push (r : Reading) (t : Token) : Reading :=
  { r with tokens := r.tokens ++ [t] }

-- Whether a character outside quotes is replaced by something else.
def isReplaced (r : Reading) (c : Char) : Bool :=
  expands c || matchesFiles c || r.word.isNone && expandsFirst c

-- Reads one character. Nothing is read where it would be replaced by something else, since what
-- that is depends on more than the text.
def step (r : Reading) (c : Char) : Option Reading :=
  match r.mode with
  | .bare =>
    if c = '\'' then some (r.openQuote .quoted)
    else if c = '"' then some (r.openQuote .doubled)
    else if c = '\\' then some (r.turn .escaped)
    else if isBlank c then some r.endWord
    else if isOperator c then some (r.endWord.push (.operator c))
    else if r.isReplaced c then none
    else some (r.put c)
  | .quoted =>
    if c = '\'' then some (r.turn .bare) else some (r.put c)
  | .doubled =>
    if c = '"' then some (r.turn .bare)
    else if c = '\\' then some (r.turn .doubledEscaped)
    else if expands c then none
    else some (r.put c)
  | .escaped =>
    if c = '\n' then some (r.turn .bare) else some ((r.put c).turn .bare)
  | .doubledEscaped =>
    if c = '\n' then some (r.turn .doubled)
    else if expands c || c = '"' || c = '\\' then some ((r.put c).turn .doubled)
    else some (((r.put '\\').put c).turn .doubled)

def run (r : Reading) (cs : List Char) : Option Reading :=
  cs.foldlM step r

-- A text may not end between quotes or with a backslash.
def finish (r : Reading) : Option (List Token) :=
  if r.mode = .bare then some r.endWord.tokens else none

-- The same behind other tokens.
def behind (r : Reading) (ts : List Token) : Reading :=
  { r with tokens := ts ++ r.tokens }

end Reading

-- The tokens of a text in which nothing is replaced and every quote is closed.
def read (text : String) : Option (List Token) :=
  (Reading.start.run text.toList).bind Reading.finish

open Reading

variable {r r' : Reading} {ts : List Token} {word : Option (List Char)} {w cs ds : List Char}
  {c : Char}

theorem run_cons : r.run (c :: cs) = (r.step c).bind (·.run cs) :=
  List.foldlM_cons

theorem run_append : r.run (cs ++ ds) = (r.run cs).bind (·.run ds) :=
  List.foldlM_append

section Frame

@[simp]
theorem mode_behind : (r.behind ts).mode = r.mode :=
  rfl

@[simp]
theorem put_behind : (r.behind ts).put c = (r.put c).behind ts :=
  rfl

@[simp]
theorem openQuote_behind {mode : Mode} :
    (r.behind ts).openQuote mode = (r.openQuote mode).behind ts :=
  rfl

@[simp]
theorem turn_behind {mode : Mode} : (r.behind ts).turn mode = (r.turn mode).behind ts :=
  rfl

@[simp]
theorem push_behind {t : Token} : (r.behind ts).push t = (r.push t).behind ts := by
  simp [push, behind]

@[simp]
theorem endWord_behind : (r.behind ts).endWord = r.endWord.behind ts := by
  cases h : r.word <;> simp [endWord, behind, h]

theorem step_behind : (r.behind ts).step c = (r.step c).map (·.behind ts) := by
  have replaced : (r.behind ts).isReplaced c = r.isReplaced c := rfl
  simp only [step, mode_behind, replaced]
  split
  all_goals simp [apply_ite (Option.map fun r : Reading => r.behind ts)]

-- What is read does not depend on the tokens before it.
theorem run_behind : (r.behind ts).run cs = (r.run cs).map (·.behind ts) := by
  induction cs generalizing r with
  | nil          => rfl
  | cons c cs ih =>
    rw [run_cons, run_cons, step_behind]
    cases r.step c with
    | none   => rfl
    | some r => exact ih

end Frame

section Words

theorem step_plain (hc : isPlain c) (hw : word = none → ¬expandsFirst c) :
    step ⟨ts, word, .bare⟩ c = some ⟨ts, some (word.getD [] ++ [c]), .bare⟩ := by
  simp only [isPlain, isQuote, Bool.not_eq_true', Bool.or_eq_false_iff, decide_eq_false_iff_not,
    List.mem_cons, List.not_mem_nil, or_false, not_or] at hc
  obtain ⟨⟨⟨⟨⟨h₁, h₂, h₃⟩, hb⟩, ho⟩, he⟩, hf⟩ := hc
  have hr : isReplaced ⟨ts, word, .bare⟩ c = false := by
    cases word with
    | none   => simp [isReplaced, he, hf, hw rfl]
    | some _ => simp [isReplaced, he, hf]
  simp [step, h₁, h₂, h₃, hb, ho, hr, put]

theorem run_plain (h : ∀ c ∈ cs, isPlain c) :
    run ⟨ts, some w, .bare⟩ cs = some ⟨ts, some (w ++ cs), .bare⟩ := by
  induction cs generalizing w with
  | nil          => simp [run]
  | cons c cs ih =>
    rw [run_cons, step_plain (h c List.mem_cons_self) (by simp), Option.bind_some,
      ih fun c hc => h c (List.mem_cons_of_mem _ hc)]
    simp

theorem run_bare (h : IsBare cs) : run ⟨ts, none, .bare⟩ cs = some ⟨ts, some cs, .bare⟩ := by
  cases cs with
  | nil       => exact absurd rfl h.nonempty
  | cons c cs =>
    have hc : isPlain c := h.plain c List.mem_cons_self
    rw [run_cons, step_plain hc fun _ => h.first c rfl, Option.bind_some,
      run_plain fun c hc => h.plain c (List.mem_cons_of_mem _ hc)]
    rfl

-- Between single quotes, with each quote of the text written as `'\''`.
theorem run_quoted : run ⟨ts, some w, .quoted⟩
    (cs.flatMap fun c => if c = '\'' then ['\'', '\\', '\'', '\''] else [c]) =
      some ⟨ts, some (w ++ cs), .quoted⟩ := by
  induction cs generalizing w with
  | nil          => simp [run]
  | cons c cs ih =>
    have hc : run ⟨ts, some w, .quoted⟩ (if c = '\'' then ['\'', '\\', '\'', '\''] else [c]) =
        some ⟨ts, some (w ++ [c]), .quoted⟩ := by
      split
      case isTrue h  => rw [h]; rfl
      case isFalse h => simp [run, step, h, put]
    rw [List.flatMap_cons, run_append, hc, Option.bind_some, ih]
    simp

-- A quoted text goes on with the word under way as it is, whatever it holds.
theorem run_shellQuote_word (s : String) : run ⟨ts, word, .bare⟩ (Curl.shellQuote s).toList =
    some ⟨ts, some (word.getD [] ++ s.toList), .bare⟩ := by
  have ho : step ⟨ts, word, .bare⟩ '\'' = some ⟨ts, some (word.getD []), .quoted⟩ := rfl
  rw [Curl.shellQuote, String.toList_ofList, List.cons_append, run_cons, ho, Option.bind_some,
    run_append, run_quoted]
  rfl

theorem run_shellQuote (s : String) : run ⟨ts, none, .bare⟩ (Curl.shellQuote s).toList =
    some ⟨ts, some s.toList, .bare⟩ :=
  run_shellQuote_word s

theorem step_blank {s : String} (h : isBlank c) :
    step ⟨ts, some s.toList, .bare⟩ c = some ⟨ts ++ [.word s], none, .bare⟩ := by
  have hc : c = ' ' ∨ c = '\t' := by simpa [isBlank] using h
  cases hc with
  | inl hc => subst hc; simp [step, isBlank, endWord]
  | inr hc => subst hc; simp [step, isBlank, endWord]

theorem run_blank {s : String} : run ⟨ts, some s.toList, .bare⟩ [' '] =
    some ⟨ts ++ [.word s], none, .bare⟩ :=
  run_cons.trans <| by rw [step_blank rfl]; rfl

-- A line that ends with a backslash goes on in the next one.
theorem run_lineBreak {s : String} : run ⟨ts, some s.toList, .bare⟩ [' ', '\\', '\n', ' ', ' '] =
    some ⟨ts ++ [.word s], none, .bare⟩ := by
  rw [← List.singleton_append, run_append, run_blank]
  rfl

theorem finish_word {s : String} : finish ⟨ts, some s.toList, .bare⟩ = some (ts ++ [.word s]) := by
  simp [finish, endWord]

theorem finish_eq_some_iff : r.finish = some ts ↔ r.mode = .bare ∧ r.endWord.tokens = ts := by
  simp [finish]

-- The tokens of a text that is complete come out in the middle of another, too.
theorem run_of_read {s : String} {us : List Token} (h : read s = some us) :
    run ⟨ts, none, .bare⟩ (s.toList ++ [' ']) = some ⟨ts ++ us, none, .bare⟩ := by
  have ⟨⟨tokens, word, mode⟩, hr, hf⟩ := Option.bind_eq_some_iff.mp h
  have hs : start.behind ts = ⟨ts, none, .bare⟩ := by simp [behind, start]
  obtain ⟨rfl, rfl⟩ := finish_eq_some_iff.mp hf
  rw [← hs, run_append, run_behind, hr]
  cases word <;> simp [behind, run, step, isBlank, endWord]

end Words

section Sizes

def Token.size : Token → Nat
  | .word text  => text.length
  | .operator _ => 0

-- The characters of all words.
def Reading.size (r : Reading) : Nat :=
  (r.tokens.map Token.size).sum + (r.word.getD []).length

-- A backslash between double quotes may turn out to be one of the characters of the word.
def Mode.size : Mode → Nat
  | .doubledEscaped => 1
  | _               => 0

@[simp]
theorem size_put : (r.put c).size = r.size + 1 := by
  simp [put, Reading.size, Nat.add_assoc]

@[simp]
theorem size_openQuote {mode : Mode} : (r.openQuote mode).size = r.size :=
  rfl

@[simp]
theorem size_turn {mode : Mode} : (r.turn mode).size = r.size :=
  rfl

@[simp]
theorem size_push : (r.push (.operator c)).size = r.size := by
  simp [push, Reading.size, Token.size]

@[simp]
theorem size_endWord : r.endWord.size = r.size := by
  cases h : r.word <;> simp [endWord, Reading.size, Token.size, h]

theorem word_endWord : r.endWord.word = none := by
  cases h : r.word <;> simp [endWord, h]

@[simp]
theorem mode_put : (r.put c).mode = r.mode :=
  rfl

@[simp]
theorem mode_openQuote {mode : Mode} : (r.openQuote mode).mode = mode :=
  rfl

@[simp]
theorem mode_turn {mode : Mode} : (r.turn mode).mode = mode :=
  rfl

@[simp]
theorem mode_push {t : Token} : (r.push t).mode = r.mode :=
  rfl

@[simp]
theorem mode_endWord : r.endWord.mode = r.mode := by
  cases h : r.word <;> simp [endWord, h]

-- No character gives more than itself.
theorem step_size (h : r.step c = some r') :
    r'.size + r'.mode.size ≤ r.size + r.mode.size + 1 := by
  cases hm : r.mode <;> simp only [step, hm] at h
  all_goals repeat' split at h
  all_goals cases h
  all_goals simp [Mode.size, hm, Nat.add_assoc]

theorem run_size (h : r.run cs = some r') :
    r'.size + r'.mode.size ≤ r.size + r.mode.size + cs.length := by
  induction cs generalizing r with
  | nil          =>
    cases h
    exact Nat.le_refl _
  | cons c cs ih =>
    rw [run_cons] at h
    have ⟨r₁, hr, h⟩ := Option.bind_eq_some_iff.mp h
    have := step_size hr
    have := ih h
    simp only [List.length_cons]
    omega

-- Outside quotes, just the plain characters give as much.
theorem plain_of_step_size (hm : r.mode = .bare) (h : r.step c = some r')
    (hs : r.size < r'.size + r'.mode.size) :
    isPlain c ∧ (r.word = none → ¬expandsFirst c) ∧ r'.mode = .bare ∧ r'.size = r.size + 1 := by
  simp only [step, hm] at h
  repeat' split at h
  case isFalse h₁ h₂ h₃ hb ho hr =>
    cases h
    simp only [isReplaced, Bool.or_eq_true, Bool.and_eq_true, Option.isNone_iff_eq_none,
      not_or, not_and] at hr
    obtain ⟨⟨he, hf⟩, hw⟩ := hr
    exact ⟨by simp [isPlain, isQuote, h₁, h₂, h₃, hb, ho, he, hf], hw, hm, size_put⟩
  all_goals cases h
  all_goals simp [Mode.size, hm] at hs

theorem plain_of_run_size (hm : r.mode = .bare) (h : r.run cs = some r')
    (hs : r'.size = r.size + cs.length) :
    (∀ c ∈ cs, isPlain c) ∧ (r.word = none → ∀ c ∈ cs.head?, ¬expandsFirst c) := by
  induction cs generalizing r with
  | nil          => simp
  | cons c cs ih =>
    rw [run_cons] at h
    have ⟨r₁, hr, h⟩ := Option.bind_eq_some_iff.mp h
    have hl := run_size h
    simp only [List.length_cons] at hs
    have ⟨hp, hf, hm₁, hs₁⟩ := plain_of_step_size hm hr (by omega)
    have ⟨hps, _⟩ := ih hm₁ h (by omega)
    exact ⟨List.forall_mem_cons.mpr ⟨hp, hps⟩, by simpa using hf⟩

end Sizes

theorem read_of_isBare {s : String} (h : IsBare s.toList) : read s = some [.word s] := by
  have hs : start = ⟨[], none, .bare⟩ := rfl
  simp [read, hs, run_bare h, finish, endWord]

-- A text is read back as the one word that it is just if it needs no quotes.
theorem read_eq_self_iff {s : String} : read s = some [.word s] ↔ IsBare s.toList := by
  constructor
  case mpr => exact read_of_isBare
  case mp  =>
    intro h
    have ⟨r, hr, hf⟩ := Option.bind_eq_some_iff.mp h
    have ⟨hm, ht⟩ := finish_eq_some_iff.mp hf
    have hs : r.size = start.size + s.toList.length := by
      rw [← size_endWord, Reading.size, ht, word_endWord]
      simp [Reading.size, start, Token.size, String.length_toList]
    have ⟨hp, hf⟩ := plain_of_run_size rfl hr hs
    exact {
      nonempty := by
        intro h
        rw [h] at hr
        cases hr
        contradiction
      plain    := hp
      first    := hf rfl }

-- A quoted text is read back as it is, whatever it holds: it goes on with the word under way and
-- leaves the quotes again, and as a word of its own it ends where the text does or at a blank.
theorem shellQuote_read_back (s : String) (ts : List Token) :
    (∀ word, run ⟨ts, word, .bare⟩ (Curl.shellQuote s).toList =
      some ⟨ts, some (word.getD [] ++ s.toList), .bare⟩) ∧
    (run ⟨ts, none, .bare⟩ (Curl.shellQuote s).toList).bind finish = some (ts ++ [.word s]) ∧
    (∀ blank rest, isBlank blank →
      run ⟨ts, none, .bare⟩ ((Curl.shellQuote s).toList ++ blank :: rest) =
        run ⟨ts ++ [.word s], none, .bare⟩ rest) ∧
    ∀ t, Curl.shellQuote t = Curl.shellQuote s → t = s := by
  have whole (t : String) :
      (run ⟨ts, none, .bare⟩ (Curl.shellQuote t).toList).bind finish = some (ts ++ [.word t]) := by
    rw [run_shellQuote, Option.bind_some, finish_word]
  refine ⟨fun word => run_shellQuote_word s, whole s, ?blank, ?injective⟩
  case blank =>
    intro blank rest hb
    rw [run_append, run_shellQuote, Option.bind_some, run_cons, step_blank hb, Option.bind_some]
  case injective =>
    intro t h
    have ht := whole t
    rw [h, whole s] at ht
    simpa using ht.symm

end NodeEditor.Shell
