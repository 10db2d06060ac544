import NodeEditor.Proofs.Canvas.Shell
import NodeEditor.Proofs.Json.Extent
import NodeEditor.Proofs.Text.Parts

namespace NodeEditor

namespace Curl

open Shell

-- The headers that a value lists.
inductive Lists : Json → List (String × String) → Prop
  | entries {es} : Lists (.obj es) (es.map fun e => (e.1, e.2.plainText))
  | items {js} : Lists (.arr js) (js.filterMap headerItem?)
  | text {s j hs} : Json.parse s = .ok j → Lists j hs → Lists (.str s) hs
  | unreadable {s e} : Json.parse s = .error e → Lists (.str s) []
  | null : Lists .null []
  | bool {b} : Lists (.bool b) []
  | num {n} : Lists (.num n) []

theorem headersWithin_lists_of_ne {j : Json} {fuel : Nat} (h : ∀ s, j ≠ .str s) :
    Lists j (headersWithin fuel j) := by
  rw [headersWithin.eq_def]
  cases j with
  | str s  => exact absurd rfl (h s)
  | obj _  => exact .entries
  | arr _  => exact .items
  | null   => exact .null
  | bool _ => exact .bool
  | num _  => exact .num

-- A text inside a text is shorter, so that the fuel is enough for whatever is read.
theorem headersWithin_lists_of_lt {s : String} {fuel : Nat} (h : s.length < fuel) :
    Lists (.str s) (headersWithin fuel (.str s)) := by
  induction fuel generalizing s with
  | zero         => exact absurd h (Nat.not_lt_zero _)
  | succ fuel ih =>
    cases hp : Json.parse s with
    | error e => simpa [headersWithin, hp] using Lists.unreadable hp
    | ok j    =>
      have hj : Lists j (headersWithin fuel j) := by
        by_cases ht : ∃ t, j = .str t
        case pos =>
          obtain ⟨t, rfl⟩ := ht
          have := Json.parse_str_length hp
          exact ih (by omega)
        case neg => exact headersWithin_lists_of_ne fun t e => ht ⟨t, e⟩
      simpa [headersWithin, hp] using Lists.text hp hj

theorem headers_lists (j : Json) : Lists j (headers j) := by
  cases j with
  | str s => exact headersWithin_lists_of_lt (by simp [String.length_toList])
  | _     => exact headersWithin_lists_of_ne nofun

-- The headers of the values, none if nothing is there to list them.
def Headed (values : ValueBag) (hs : List (String × String)) : Prop :=
  (values.get? "headers").elim (hs = []) (Lists · hs)

def headersOf (values : ValueBag) : List (String × String) :=
  ((values.get? "headers").map headers).getD []

theorem headersOf_headed (values : ValueBag) : Headed values (headersOf values) := by
  cases h : values.get? "headers" with
  | none   => simp [Headed, headersOf, h]
  | some j => simpa [Headed, headersOf, h] using headers_lists j

-- The body that a value stands for: a text is it as it is written, and any other value is written
-- down. Nothing and a blank text are no body.
inductive Carries : Json → Option String → Prop
  | null : Carries .null none
  | blank {s} : Text.isBlankText s → Carries (.str s) none
  | text {s} : ¬Text.isBlankText s → Carries (.str s) (some s)
  | other {j} : j ≠ .null → (∀ s, j ≠ .str s) → Carries j (some j.compact)

theorem body?_carries (j : Json) : Carries j (body? j) := by
  cases j with
  | null  => exact .null
  | str s =>
    by_cases hs : Text.isBlankText s
    case pos => simpa [body?, hs] using Carries.blank hs
    case neg => simpa [body?, hs] using Carries.text hs
  | _     => exact .other nofun nofun

-- The body of the values, none if nothing is there for it.
def Bodied (values : ValueBag) (body : Option String) : Prop :=
  (values.get? "body").elim (body = none) (Carries · body)

def bodyOf (values : ValueBag) : Option String :=
  (values.get? "body").bind body?

theorem bodyOf_bodied (values : ValueBag) : Bodied values (bodyOf values) := by
  cases h : values.get? "body" with
  | none   => simp [Bodied, bodyOf, h]
  | some j => simpa [Bodied, bodyOf, h] using body?_carries j

-- The method in upper case, or `GET` if there is none.
def method (values : ValueBag) : String :=
  Text.toUpper ((filledText? values "method").getD "GET")

-- The options of the command with their arguments.
def options (headers : List (String × String)) (body : Option String) : List (String × String) :=
  headers.map (fun h => ("-H", h.1 ++ ": " ++ h.2)) ++ body.toList.map fun b => ("--data", b)

def optionText (o : String × String) : String :=
  o.1 ++ " " ++ shellQuote o.2

-- The command for a method that is written as it is.
def text (method address : String) (os : List (String × String)) : String :=
  String.intercalate " \\\n  "
    (("curl -X " ++ method ++ " " ++ shellQuote address) :: os.map optionText)

-- What the command is meant to be, with given tokens where the method stands.
def tokens (method : List Token) (address : String) (os : List (String × String)) : List Token :=
  [.word "curl", .word "-X"] ++ method ++ [.word address] ++
    os.flatMap fun o => [.word o.1, .word o.2]

theorem command?_eq (values : ValueBag) : command? values =
    (filledText? values "url").map fun address =>
      text (method values) address (options (headersOf values) (bodyOf values)) := by
  have header (h : String × String) : optionText ("-H", h.1 ++ ": " ++ h.2) =
      "-H " ++ shellQuote (h.1 ++ ": " ++ h.2) := rfl
  have body (b : String) : optionText ("--data", b) = "--data " ++ shellQuote b := rfl
  simp only [text, options, List.map_append, List.map_map, Function.comp_def, header, body]
  rfl

variable {values : ValueBag} {ts : List Token} {s : String} {os : List (String × String)}

theorem run_optionText {o : String × String} (h : IsBare o.1.toList) :
    Reading.run ⟨ts, none, .bare⟩ (optionText o).toList =
      some ⟨ts ++ [.word o.1], some o.2.toList, .bare⟩ := by
  have hb : Reading.run ⟨ts, some o.1.toList, .bare⟩ " ".toList = _ := run_blank
  simp only [optionText, String.toList_append, run_append, run_bare h, hb, Option.bind_some,
    run_shellQuote]

theorem run_options (h : ∀ o ∈ os, IsBare o.1.toList) :
    (Reading.run ⟨ts, some s.toList, .bare⟩
      ((os.map optionText).flatMap fun part =>
        " \\\n  ".toList ++ part.toList)).bind Reading.finish =
      some (ts ++ [.word s] ++ os.flatMap fun o => [.word o.1, .word o.2]) := by
  induction os generalizing ts s with
  | nil          =>
    rw [List.flatMap_nil, List.append_nil]
    exact finish_word
  | cons o os ih =>
    have ⟨ho, hos⟩ := List.forall_mem_cons.mp h
    have hl : Reading.run ⟨ts, some s.toList, .bare⟩ " \\\n  ".toList = _ := run_lineBreak
    simp only [List.map_cons, List.flatMap_cons, run_append, hl, Option.bind_some,
      run_optionText ho]
    rw [ih hos]
    simp

theorem options_bare (headers : List (String × String)) (body : Option String) :
    ∀ o ∈ options headers body, IsBare o.1.toList := by
  have header : IsBare "-H".toList := by decide
  have data : IsBare "--data".toList := by decide
  simp only [options, List.forall_mem_append, List.forall_mem_map]
  exact ⟨fun _ _ => header, fun _ _ => data⟩

theorem toList_intercalate (sep part : String) (parts : List String) :
    (String.intercalate sep (part :: parts)).toList =
      part.toList ++ parts.flatMap fun part => sep.toList ++ part.toList := by
  rw [String.toList_intercalate]
  induction parts generalizing part with
  | nil          => simp [List.intercalate]
  | cons p ps ih =>
    rw [List.map_cons, List.map_cons, List.intercalate_cons_cons, ← List.map_cons, ih]
    simp

theorem filledText?_of_text? {name text : String} (ht : values.text? name = some text)
    (hb : ¬Text.isBlankText text) : filledText? values name = some (Text.trim text) := by
  simpa [filledText?, ht, Text.trim_eq_empty_iff] using hb

-- What the method is by itself, it is in the command, and all else is as it is meant to be.
theorem read_text {method address : String} (hm : Shell.read method = some ts)
    (ho : ∀ o ∈ os, IsBare o.1.toList) :
    Shell.read (text method address os) = some (tokens ts address os) := by
  have curl : Reading.start.run "curl -X ".toList =
      some ⟨[.word "curl", .word "-X"], none, .bare⟩ := by
    decide
  have rest : (Reading.run ⟨[.word "curl", .word "-X"] ++ ts, none, .bare⟩
      ((shellQuote address).toList ++ (os.map optionText).flatMap fun part =>
        " \\\n  ".toList ++ part.toList)).bind Reading.finish = some (tokens ts address os) := by
    rw [run_append, run_shellQuote, Option.bind_some, run_options ho]
    rfl
  have split : (text method address os).toList = "curl -X ".toList ++
      ((method.toList ++ [' ']) ++ ((shellQuote address).toList ++
        (os.map optionText).flatMap fun part => " \\\n  ".toList ++ part.toList)) := by
    rw [text, toList_intercalate]
    simp only [String.toList_append, List.append_assoc]
    rfl
  rw [Shell.read, split, run_append, curl, Option.bind_some, run_append, run_of_read hm,
    Option.bind_some, rest]

-- The method is the one word that is not quoted. The command is as it is meant to be if the method
-- needs no quotes; otherwise it is what the method makes of it, and nothing else in the values
-- matters.
theorem command_read_as_meant {address : String} (ha : values.text? "url" = some address)
    (hb : ¬Text.isBlankText address) :
    ∃ command headers body, command? values = some command ∧ Headed values headers ∧
      Bodied values body ∧
      let os := options headers body
      (IsBare (method values).toList →
        Shell.read command =
          some (tokens [.word (method values)] (Text.trim address) os)) ∧
      ∀ ts, Shell.read (method values) = some ts →
        Shell.read command = some (tokens ts (Text.trim address) os) ∧
        (ts = [.word (method values)] ↔ IsBare (method values).toList) := by
  have hc := command?_eq values
  rw [filledText?_of_text? ha hb] at hc
  have ho := options_bare (headersOf values) (bodyOf values)
  refine ⟨_, headersOf values, bodyOf values, hc, headersOf_headed values, bodyOf_bodied values,
    ?_, ?_⟩
  case refine_1 =>
    intro h
    exact read_text (read_eq_self_iff.mpr h) ho
  case refine_2 =>
    intro ts h
    refine ⟨read_text h ho, ?_⟩
    rw [← read_eq_self_iff, h, Option.some_inj]

-- A request with a quote and other characters in its values that mean something to a shell.
def note : ValueBag := .ofList [
  ("url", .str " https://example.com "), ("method", .str "post"),
  ("headers", .obj [("X-Note", .str "it's $HOME")]), ("body", .str "a; 'b'")]

theorem command_read_as_meant_note :
    note.text? "url" = some " https://example.com " ∧ ¬Text.isBlankText " https://example.com " ∧
    IsBare (method note).toList ∧
    ∃ command, command? note = some command ∧ Shell.read command = some ([
      "curl", "-X", "POST", "https://example.com", "-H", "X-Note: it's $HOME", "--data",
      "a; 'b'"].map .word) := by
  have ha : note.text? "url" = some " https://example.com " := by decide +kernel
  have hb : ¬Text.isBlankText " https://example.com " := by decide
  have hm : method note = "POST" := by decide +kernel
  have hp : IsBare (method note).toList := by
    rw [hm]
    decide
  have ⟨command, headers, body, hc, hh, hs, hr, _⟩ := command_read_as_meant ha hb
  refine ⟨ha, hb, hp, command, hc, ?_⟩
  have hl : note.get? "headers" = some (.obj [("X-Note", .str "it's $HOME")]) := rfl
  have ht : note.get? "body" = some (.str "a; 'b'") := rfl
  rw [Headed, hl] at hh
  rw [Bodied, ht] at hs
  cases hh
  cases hs with
  | blank hs   => exact absurd hs <| by decide
  | other _ hs => exact absurd rfl <| hs _
  | text       =>
    rw [hr hp]
    decide +kernel

-- A request with a second command in its method.
def reboot : ValueBag := .ofList [
  ("url", .str "https://example.com"), ("method", .str "get; reboot")]

theorem method_runs_command :
    reboot.text? "url" = some "https://example.com" ∧ ¬Text.isBlankText "https://example.com" ∧
    ∃ command, command? reboot = some command ∧
      Shell.read command = some [
        .word "curl", .word "-X", .word "GET", .operator ';', .word "REBOOT",
        .word "https://example.com"] ∧
      Shell.read command ≠ some (tokens [.word (method reboot)] "https://example.com" []) := by
  have hc : command? reboot = some "curl -X GET; REBOOT 'https://example.com'" := by
    decide +kernel
  have hm : method reboot = "GET; REBOOT" := by decide +kernel
  refine ⟨by decide +kernel, by decide, _, hc, ?_, ?_⟩
  · decide +kernel
  · rw [hm]
    decide +kernel

end Curl

end NodeEditor
