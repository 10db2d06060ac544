import Mathlib.Data.List.Basic
import NodeEditor.Form.Engine

namespace NodeEditor

-- A value that says nothing: null, a text of blanks, an empty list.
inductive Blank : Json → Prop
  | null : Blank .null
  | text {s : String} (h : ∀ c ∈ s.toList, Text.isBlank c) : Blank (.str s)
  | list : Blank (.arr [])

variable {p : Property} {kind : PropertyKind} {v : Json} {s : String} {b : ValueBag}
  {credentials : List Credential} {stored : Option Json}

theorem isUnfilled_iff : isUnfilled v ↔ Blank v := by
  constructor
  case mp =>
    intro h
    unfold isUnfilled at h
    split at h
    case h_1 => exact .null
    case h_2 => exact .text <| List.all_eq_true.mp h
    case h_3 => exact .list
    case h_4 => cases h
  case mpr =>
    rintro (_ | h | _)
    · rfl
    · exact List.all_eq_true.mpr h
    · rfl

theorem not_isBlankText (h : ¬Blank (.str s)) : Text.isBlankText s = false :=
  Bool.eq_false_iff.mpr fun hb => h <| .text <| List.all_eq_true.mp hb

namespace Control

def parseError? : Control → Option String
  | .jsonEditor _ _ e | .dateTime _ _ e => e
  | _                                   => none

end Control

namespace Property

-- Rules for texts that ask for nothing, or none.
def Ruleless (p : Property) : Prop :=
  ∀ rules, p.rules = some rules →
    rules.minLength = none ∧ rules.maxLength = none ∧ rules.pattern = none

theorem Ruleless.textErrors [Pattern.Capacity] (r : p.Ruleless) (s : String) :
    textErrors p s = [] := by
  cases hr : p.rules with
  | none       => simp [NodeEditor.textErrors, hr]
  | some rules =>
    have ⟨hs, hl, hp⟩ := r rules hr
    simp [NodeEditor.textErrors, patternErrors, hr, hs, hl, hp]

end Property

theorem fieldErrors_of_blank [Pattern.Capacity] (ht : kind ≠ .title)
    (hv : ∀ v, effectiveValue p stored = some v → Blank v) :
    fieldErrors p kind stored = if p.required then [s!"{p.label} is required"] else [] := by
  have hf : (effectiveValue p stored).filter (!isUnfilled ·) = none := by
    simpa [Option.filter_eq_none_iff, isUnfilled_iff] using hv
  simp [fieldErrors, ht, hf]

-- Without rules for texts all that is found wrong with a value is what its kind says.
theorem fieldErrors_of_filled [Pattern.Capacity] (ht : kind ≠ .title) (r : p.Ruleless)
    (hv : effectiveValue p stored = some v) (hb : ¬Blank v) (ha : kind.valueType.accepts v) :
    fieldErrors p kind stored = kindErrors p kind v := by
  have hu : isUnfilled v = false := Bool.eq_false_iff.mpr <| mt isUnfilled_iff.mp hb
  have hf : (effectiveValue p stored).filter (!isUnfilled ·) = some v := by
    simp [hv, Option.filter, hu]
  simp only [fieldErrors, ht, if_false, hf, ha, if_true]
  split
  case h_1 s => rw [r.textErrors, List.nil_append]
  case h_2   => rw [List.nil_append]

-- Editors find nothing wrong where there is nothing to read.

theorem Control.ofJson_parseError? (hb : Blank v) : (ofJson (some v)).parseError? = none := by
  cases hb with
  | null   => rfl
  | text h => simp [ofJson, Text.isBlankText, List.all_eq_true.mpr h, parseError?]
  | list   => rfl

theorem Control.ofDateTime_parseError? (ha : ValueType.text.accepts v) (hb : Blank v) :
    (ofDateTime (some v)).parseError? = none := by
  cases hb with
  | null   => rfl
  | text h =>
    simp [ofDateTime, shownText, Json.plainText, Text.isBlankText, List.all_eq_true.mpr h,
      parseError?]
  | list   => cases ha

-- What an editor shows for a value that says something, and what is reported of it. A text is read
-- or said to be wrong, and the report repeats just what the editor says; a list of choices has its
-- first one of that value marked, or the report says that there is none.
inductive Judged (p : Property) : PropertyKind → Json → Control → List String → Prop
  | malformed {s : String} {e : Json.SyntaxError} (h : Json.parse s = .error e) :
    Judged p .json (.str s) (.jsonEditor s none (some e.message)) [s!"Invalid JSON: {e.message}"]
  | read {s : String} {j : Json} (h : Json.parse s = .ok j) :
    Judged p .json (.str s) (.jsonEditor s (some j) none) []
  | structured {v : Json} (h : ∀ s, v ≠ .str s) :
    Judged p .json v (.jsonEditor v.pretty (some v) none) []
  | untimely {s e : String} (h : readPicked s = .error e) :
    Judged p .dateTime (.str s) (.dateTime s none (some e)) [e]
  | timely {s : String} {m : Time.Moment} (h : readPicked s = .ok m) :
    Judged p .dateTime (.str s) (.dateTime s (some m) none) []
  | unlisted {v : Json} (h : ∀ c ∈ p.options, ¬c.value == v) :
    Judged p .select v (.select p.options none) ["Not one of the available options"]
  | listed {v : Json} {i : Nat} (hi : i < p.options.length) (h : p.options[i].value == v)
    (hf : ∀ j (_ : j < i), ¬p.options[j].value == v) :
    Judged p .select v (.select p.options (some i)) []

namespace Judged

theorem of_json (hb : ¬Blank v) :
    Judged p .json v (Control.ofJson (some v)) (kindErrors p .json v) := by
  cases v with
  | null  => exact absurd .null hb
  | str s =>
    simp only [Control.ofJson, not_isBlankText hb, Bool.false_eq_true, if_false, kindErrors]
    cases h : Json.parse s with
    | error e => exact .malformed h
    | ok j    => exact .read h
  | _     => exact .structured (by simp)

theorem of_dateTime (ha : ValueType.text.accepts v) (hb : ¬Blank v) :
    Judged p .dateTime v (Control.ofDateTime (some v)) (kindErrors p .dateTime v) := by
  cases v with
  | null  => exact absurd .null hb
  | str s =>
    simp only [Control.ofDateTime, Control.shownText, Json.plainText, not_isBlankText hb,
      Bool.false_eq_true, if_false, kindErrors]
    cases h : readPicked s with
    | error e => exact .untimely h
    | ok m    => exact .timely h
  | _     => cases ha

theorem of_select (ho : p.options ≠ []) : Judged p .select v
    (.select p.options (p.options.findIdx? (·.value == v))) (kindErrors p .select v) := by
  have ho : p.options.isEmpty = false := by simpa using ho
  cases h : p.options.findIdx? (·.value == v) with
  | none   =>
    have hn : ∀ c ∈ p.options, ¬c.value == v := by simpa [List.findIdx?_eq_none_iff] using h
    have ha : p.options.any (·.value == v) = false := by simpa using hn
    simpa [kindErrors, ho, ha] using Judged.unlisted hn
  | some i =>
    have ⟨hi, hv, hf⟩ := List.findIdx?_eq_some_iff_getElem.mp h
    have ha : p.options.any (·.value == v) := List.any_eq_true.mpr ⟨_, List.getElem_mem hi, hv⟩
    simpa [kindErrors, ha] using Judged.listed hi hv hf

end Judged

-- The editors of structured values, of times and of choices say the same as the report: nothing is
-- wrong with a value that says nothing, but that it may be required, and all else is judged alike.
theorem editor_agrees [Pattern.Capacity] (b : ValueBag) (credentials : List Credential)
    (hk : p.kind = .ok kind)
    (hs : kind ∈ [.json, .dateTime, .select]) (r : p.Ruleless)
    (ha : ∀ v, effectiveValue p (b.get? p.name) = some v → kind.valueType.accepts v) :
    ((∀ v, effectiveValue p (b.get? p.name) = some v → Blank v) →
      (Widget.build p b credentials).control.parseError? = none ∧
      (Widget.build p b credentials).errors =
        if p.required then [s!"{p.label} is required"] else []) ∧
    ∀ v, effectiveValue p (b.get? p.name) = some v → ¬Blank v →
      (kind = .select → p.options ≠ []) →
      Judged p kind v (Widget.build p b credentials).control
        (Widget.build p b credentials).errors := by
  have ht : kind ≠ .title := by rintro rfl; simp at hs
  have hc : (Widget.build p b credentials).control =
      .build p kind (b.get? p.name) credentials := by simp [Widget.build, hk]
  have he : (Widget.build p b credentials).errors = fieldErrors p kind (b.get? p.name) := by
    simp [Widget.build, hk]
  simp only [List.mem_cons, List.not_mem_nil, or_false] at hs
  rw [hc, he]
  constructor
  case left =>
    intro hv
    refine ⟨?_, fieldErrors_of_blank ht hv⟩
    cases hf : effectiveValue p (b.get? p.name) with
    | none   => rcases hs with rfl | rfl | rfl <;> simp only [Control.build, hf] <;> rfl
    | some v =>
      rcases hs with rfl | rfl | rfl <;> simp only [Control.build, hf]
      · exact Control.ofJson_parseError? <| hv v hf
      · exact Control.ofDateTime_parseError? (ha v hf) <| hv v hf
      · rfl
  case right =>
    intro v hv hb ho
    rw [fieldErrors_of_filled ht r hv hb (ha v hv)]
    rcases hs with rfl | rfl | rfl <;> simp only [Control.build, hv]
    · exact .of_json hb
    · exact .of_dateTime (ha v hv) hb
    · exact .of_select (ho rfl)

-- A text that is being typed, a time between blanks that is given by default, and two choices of
-- one value.

def bodyField : Property :=
  { Property.plain "body" "json" with required := true }

def timeField : Property :=
  { Property.plain "time" "date-time" with default := some (.str " 2026-03-01T09:30 ") }

def methodField : Property :=
  { Property.plain "method" "select" with
    options := [⟨"Get", .str "GET"⟩, ⟨"Post", .str "POST"⟩, ⟨"Send", .str "POST"⟩] }

def typedValues : ValueBag :=
  Dict.ofList [("body", .str "[1,"), ("method", .str "POST")]

theorem editor_agrees_typed :
    let _ : Pattern.Capacity := { fits := fun _ => true }
    bodyField.kind = .ok .json ∧ timeField.kind = .ok .dateTime ∧ methodField.kind = .ok .select ∧
    bodyField.Ruleless ∧ timeField.Ruleless ∧ methodField.Ruleless ∧
    Judged bodyField .json (.str "[1,") (Widget.build bodyField typedValues []).control
      ["Invalid JSON: EOF while parsing a value at line 1 column 3"] ∧
    Judged timeField .dateTime (.str " 2026-03-01T09:30 ")
      (Widget.build timeField typedValues []).control [] ∧
    Judged methodField .select (.str "POST") (.select methodField.options (some 1)) [] := by
  intro _
  have filled {s : String} (c : Char) (hc : c ∈ s.toList) (hn : Text.isBlank c = false) :
      ¬Blank (.str s) := fun h => by
    cases h with
    | text h => exact absurd (h c hc) <| by simp [hn]
  have hb : bodyField.kind = .ok .json := by decide +kernel
  have ht : timeField.kind = .ok .dateTime := by decide +kernel
  have hm : methodField.kind = .ok .select := by decide +kernel
  have eb : (Widget.build bodyField typedValues []).errors =
      ["Invalid JSON: EOF while parsing a value at line 1 column 3"] := by decide +kernel
  have et : (Widget.build timeField typedValues []).errors = [] := by decide +kernel
  have em : (Widget.build methodField typedValues []).errors = [] := by decide +kernel
  have cm : (Widget.build methodField typedValues []).control =
      .select methodField.options (some 1) := rfl
  have jb := (editor_agrees typedValues [] hb (by simp) nofun fun _ h => by cases h; rfl).right _ rfl
    (filled '1' (by decide) rfl) nofun
  have jt := (editor_agrees typedValues [] ht (by simp) nofun fun _ h => by cases h; rfl).right _ rfl
    (filled '2' (by decide) rfl) nofun
  have jm := (editor_agrees typedValues [] hm (by simp) nofun fun _ h => by cases h; rfl).right _ rfl
    (filled 'P' (by decide) rfl) fun _ => by decide
  exact ⟨hb, ht, hm, nofun, nofun, nofun, eb ▸ jb, et ▸ jt, em ▸ cm ▸ jm⟩

end NodeEditor
