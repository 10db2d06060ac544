import NodeEditor.Proofs.Form.Report
import NodeEditor.Proofs.Pattern.Enclosed
import NodeEditor.Proofs.Pattern.Matching

namespace NodeEditor

open Pattern (parse? enclosed Enclosable ClosesNothing)

variable {p : Property} {kind : PropertyKind} {rules : Rules} {values : ValueBag}
  {pattern s name : String} {before after : List Property} {r : Pattern.Regex}

section

variable [Pattern.Capacity]

theorem wholePattern?_eq (pattern : String) :
    wholePattern? pattern = parse? (enclosed pattern.toList) := by
  simp [wholePattern?, enclosed]

end

-- A property without its pattern.
def Property.unpatterned (p : Property) : Property :=
  { p with rules := p.rules.map fun r => { r with pattern := none } }

-- What is said where the pattern of a property is not matched.
def Property.patternMessage (p : Property) : String :=
  (p.rules.bind (·.message)).getD s!"{p.label} has an invalid format"

-- A property whose value is a text that its pattern is asked about.
structure Property.Asks (p : Property) (values : ValueBag) (pattern s : String) : Prop where
  visible  : isVisible p values
  value    : effectiveValue p (values.get? p.name) = some (.str s)
  filled   : Text.isBlankText s = false
  accepted : ∃ kind, p.kind = .ok kind ∧ kind ≠ .title ∧ kind.valueType.accepts (.str s)
  pattern  : p.rules.bind (·.pattern) = some pattern

-- A report that says more of one field than another does, and the same of all others.
structure Report.Adds (more less : Report) (name : String) (messages : List String) : Prop where
  here      : ∃ before after, more.errorsFor name = before ++ messages ++ after ∧
    less.errorsFor name = before ++ after
  elsewhere : ∀ other, other ≠ name → more.errorsFor other = less.errorsFor other

theorem kindErrors_unpatterned {v : Json} :
    kindErrors p.unpatterned kind v = kindErrors p kind v := by
  cases kind <;> rfl

section

variable [Pattern.Capacity]

theorem errorsFor_validate (hv : isVisible p values) (hk : p.kind = .ok kind) :
    (validate (before ++ p :: after) values).errorsFor name =
      (validate before values).errorsFor name ++
      ((if p.name = name then fieldErrors p kind (values.get? p.name) else []) ++
      (validate after values).errorsFor name) := by
  have he : (Widget.build p values Engine.bare.credentials).errors =
      fieldErrors p kind (values.get? p.name) := by
    simp [Widget.build, hk]
  simp only [Engine.bare.validate_eq_ofMessages, Report.errorsFor_ofMessages, Engine.render_append,
    Engine.render_cons_of_visible hv, List.flatMap_append, List.flatMap_cons,
    Report.textsFor_append, Widget.textsFor_messages, Widget.build_property, he]

-- The message about the pattern comes after those about the length.
theorem textErrors_eq (hr : p.rules = some rules) :
    textErrors p s = textErrors p.unpatterned s ++ patternErrors p rules s := by
  simp [textErrors, Property.unpatterned, hr, patternErrors]

theorem fieldErrors_text {v : Option Json} (he : effectiveValue p v = some (.str s))
    (hb : Text.isBlankText s = false) (ht : kind ≠ .title)
    (ha : kind.valueType.accepts (.str s)) :
    fieldErrors p kind v = textErrors p s ++ kindErrors p kind (.str s) := by
  have hu : isUnfilled (.str s) = false := hb
  simp [fieldErrors, he, Option.filter, hu, ht, ha]

theorem Property.Asks.adds (h : p.Asks values pattern s) (hr : p.rules = some rules)
    (before after : List Property) : Report.Adds (validate (before ++ p :: after) values)
      (validate (before ++ p.unpatterned :: after) values) p.name (patternErrors p rules s) := by
  obtain ⟨kind, hk, ht, ha⟩ := h.accepted
  have hf : fieldErrors p kind (values.get? p.name) = textErrors p.unpatterned s ++
      patternErrors p rules s ++ kindErrors p kind (.str s) := by
    rw [fieldErrors_text h.value h.filled ht ha, textErrors_eq hr]
  have hf' : fieldErrors p.unpatterned kind (values.get? p.name) =
      textErrors p.unpatterned s ++ kindErrors p kind (.str s) := by
    rw [← kindErrors_unpatterned]
    exact fieldErrors_text h.value h.filled ht ha
  have hv' : isVisible p.unpatterned values := h.visible
  have hk' : p.unpatterned.kind = .ok kind := hk
  have hn : p.unpatterned.name = p.name := rfl
  constructor
  case here =>
    refine ⟨(validate before values).errorsFor p.name ++ textErrors p.unpatterned s,
      kindErrors p kind (.str s) ++ (validate after values).errorsFor p.name, ?_, ?_⟩
    · rw [errorsFor_validate h.visible hk, if_pos rfl, hf]
      simp only [List.append_assoc]
    · rw [errorsFor_validate hv' hk', if_pos hn, hn, hf']
      simp only [List.append_assoc]
  case elsewhere =>
    intro other ho
    rw [errorsFor_validate h.visible hk, errorsFor_validate hv' hk', hn, if_neg ho.symm,
      if_neg ho.symm]

theorem patternErrors_of_none (hp : rules.pattern = some pattern)
    (hw : wholePattern? pattern = none) : patternErrors p rules s = [] := by
  simp [patternErrors, hp, hw]

-- What is said of a text because of a pattern. One that can be enclosed must match the whole text,
-- and any other is passed over; a pattern that is none is passed over too, if it closes no group and
-- cannot be enclosed, as it could if only its size spoke against it.
structure Property.Heeds (p : Property) (pattern s : String) (messages : List String) : Prop where
  once    : messages = [] ∨ messages = [p.patternMessage]
  whole   : ∀ r, parse? pattern.toList = some r → Enclosable pattern.toList →
    (messages = [] ↔ r.Matches none s.toList none)
  spoilt  : ∀ r, parse? pattern.toList = some r → ¬Enclosable pattern.toList → messages = []
  invalid : parse? pattern.toList = none → ClosesNothing pattern.toList →
    ¬Enclosable pattern.toList → messages = []

theorem patternErrors_heeds (hr : p.rules = some rules) (hp : rules.pattern = some pattern) :
    p.Heeds pattern s (patternErrors p rules s) where
  once := by
    have hm : rules.message.getD s!"{p.label} has an invalid format" = p.patternMessage := by
      simp [Property.patternMessage, hr]
    simp only [patternErrors, hm]
    repeat' split
    all_goals simp
  whole r hv he := by
    rw [← Pattern.Regex.matchesSome_whole_iff]
    have hw := Pattern.parse?_enclosed hv he
    simp [patternErrors, hp, wholePattern?_eq, hw]
  spoilt r hv he := by
    obtain ⟨_, hr, -⟩ := Pattern.parse?_eq_some_iff.mp hv
    exact patternErrors_of_none hp <| (wholePattern?_eq pattern).trans <|
      Pattern.parse?_enclosed_of_not_enclosable hr he
  invalid _ hc he := patternErrors_of_none hp <| (wholePattern?_eq pattern).trans <|
    Pattern.parse?_enclosed_of_closesNothing hc he

end

def pathField (pattern : String) : Property :=
  { Property.plain "path" "text" with rules := some { Rules.none with pattern := some pattern } }

def pathValue (s : String) : ValueBag :=
  .ofList [("path", .str s)]

-- What `[a-z]+` is read as.
def letters : Pattern.Regex :=
  .rep (.chars [(0x61, 0x7A)]) 1 none

theorem pathField_asks (pattern : String) (hb : Text.isBlankText s = false) :
    (pathField pattern).Asks (pathValue s) pattern s where
  visible  := rfl
  value    := by simp [effectiveValue, pathValue, pathField, Property.plain, Dict.get?_ofList]
  filled   := hb
  accepted :=
    ⟨.text, show (Property.plain "path" "text").kind = _ by decide +kernel, by decide, rfl⟩
  pattern  := rfl

theorem letters_enclosable [Pattern.Capacity]
    (h : Pattern.Capacity.fits (enclosed "[a-z]+".toList)) : Enclosable "[a-z]+".toList where
  closed  := by decide +kernel
  shallow := by
    have h : (Pattern.read? "[a-z]+".toList).any (·.depth + 2 ≤ Pattern.maxDepth) := by
      decide +kernel
    simpa [Option.any_eq_true] using h
  small   := h

theorem letters_not_matches : ¬letters.Matches none "new orders!".toList none := by
  rw [← Pattern.Regex.matchesSome_whole_iff]
  decide +kernel

end NodeEditor
