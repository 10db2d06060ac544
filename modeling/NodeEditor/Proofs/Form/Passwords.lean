import NodeEditor.Proofs.Form.Report

namespace NodeEditor

-- A control without the password that is behind its dots. Neither what is written of it nor what is
-- reported depends on more.
def Control.veiled : Control → Control
  | .password _ masked => .password "" masked
  | control            => control

theorem Control.toJson_veiled (c : Control) : c.veiled.toJson = c.toJson := by
  cases c <;> rfl

def Widget.veiled (w : Widget) : Widget :=
  { w with control := w.control.veiled }

theorem Widget.toJson_veiled (w : Widget) : w.veiled.toJson = w.toJson := by
  simp [toJson, veiled, Control.toJson_veiled]

theorem Widget.messages_veiled (w : Widget) : w.veiled.messages = w.messages :=
  rfl

variable {e : Engine} {properties : List Property} {p : Property} {name : String} {b c : ValueBag}
  {s t : String} {credentials : List Credential} {rules : Rules}

theorem isVisible_congr (h : ∀ k ∈ p.dependencies, b.get? k = c.get? k) :
    isVisible p b = isVisible p c := by
  unfold isVisible
  cases hd : p.display with
  | none   => rfl
  | some d =>
    simp only [Property.dependencies, hd] at h
    rw [Bool.eq_iff_iff, List.all_eq_true, List.all_eq_true]
    refine forall₂_congr fun e he => ?_
    rw [h e.1 <| List.mem_map_of_mem he]

section

variable [Pattern.Capacity]

theorem Widget.build_congr (h : b.get? p.name = c.get? p.name) :
    build p b credentials = build p c credentials := by
  simp only [build, h]

-- A password that is not blank is checked against the rules for texts and nothing else.
theorem fieldErrors_password : fieldErrors p .password (some (.str s)) =
    if Text.isBlankText s then if p.required then [s!"{p.label} is required"] else []
    else textErrors p s := by
  have hu : isUnfilled (.str s) = Text.isBlankText s := rfl
  cases hb : Text.isBlankText s <;>
    simp [fieldErrors, effectiveValue, Option.filter, hu, hb, kindErrors, PropertyKind.valueType,
      ValueType.accepts]

-- Two texts that no rule of a property tells apart.
structure Property.Blurs (p : Property) (s t : String) : Prop where
  length   : s.toList.length = t.toList.length
  blank    : Text.isBlankText s = Text.isBlankText t
  patterns : ∀ rules, p.rules = some rules → ∀ pattern, rules.pattern = some pattern →
    ∀ regex, wholePattern? pattern = some regex →
    regex.matchesSome s.toList = regex.matchesSome t.toList

namespace Property.Blurs

theorem patternErrors_eq (h : p.Blurs s t) (hr : p.rules = some rules) :
    patternErrors p rules s = patternErrors p rules t := by
  unfold patternErrors
  cases hw : rules.pattern.bind wholePattern? with
  | none       => rfl
  | some regex =>
    have ⟨pattern, hp, hx⟩ := Option.bind_eq_some_iff.mp hw
    simp only [h.patterns rules hr pattern hp regex hx]

theorem textErrors_eq (h : p.Blurs s t) : textErrors p s = textErrors p t := by
  unfold textErrors
  cases hr : p.rules with
  | none       => rfl
  | some rules => simp only [h.length, h.patternErrors_eq hr]

theorem fieldErrors_eq (h : p.Blurs s t) : fieldErrors p .password (some (.str s)) =
    fieldErrors p .password (some (.str t)) := by
  rw [fieldErrors_password, fieldErrors_password, h.blank, h.textErrors_eq]

theorem build_veiled (h : p.Blurs s t) (hk : p.kind = .ok .password)
    (hs : b.get? p.name = some (.str s)) (ht : c.get? p.name = some (.str t)) :
    (Widget.build p b credentials).veiled = (Widget.build p c credentials).veiled := by
  simp [Widget.build, Widget.veiled, hk, hs, ht, h.fieldErrors_eq, Control.build, Control.veiled,
    Control.shownText, effectiveValue, Json.plainText, h.length]

end Property.Blurs

-- A name that passwords alone have, and on which it does not depend what shows.
structure Secluded (properties : List Property) (name : String) : Prop where
  passwords : ∀ p ∈ properties, p.name = name → p.kind = .ok .password
  unread    : ∀ p ∈ properties, name ∉ p.dependencies

-- Values that are the same but for one password.
structure ValueBag.DifferAt (b c : ValueBag) (name s t : String) : Prop where
  left   : b.get? name = some (.str s)
  right  : c.get? name = some (.str t)
  others : ∀ k, k ≠ name → b.get? k = c.get? k

theorem build_veiled (hs : Secluded properties name) (hd : b.DifferAt c name s t)
    (hb : ∀ p ∈ properties, p.name = name → p.Blurs s t) (hp : p ∈ properties) :
    (Widget.build p b credentials).veiled = (Widget.build p c credentials).veiled := by
  by_cases hn : p.name = name
  case neg => rw [Widget.build_congr <| hd.others _ hn]
  case pos =>
    subst hn
    exact (hb p hp rfl).build_veiled (hs.passwords p hp rfl) hd.left hd.right

theorem render_veiled (hs : Secluded properties name) (hd : b.DifferAt c name s t)
    (hb : ∀ p ∈ properties, p.name = name → p.Blurs s t) :
    (e.render properties b).map Widget.veiled = (e.render properties c).map Widget.veiled := by
  have hv : properties.filter (isVisible · b) = properties.filter (isVisible · c) :=
    List.filter_congr fun p hp => isVisible_congr fun k hk =>
      hd.others k fun h => hs.unread p hp <| h ▸ hk
  rw [Engine.render, Engine.render, hv, List.map_map, List.map_map]
  exact List.map_congr_left fun p hp => build_veiled hs hd hb <| List.mem_of_mem_filter hp

-- A password shows in a form by its length and by what the rules for it say, and in nothing else.
theorem password_unseen (hs : Secluded properties name) (hd : b.DifferAt c name s t)
    (hb : ∀ p ∈ properties, p.name = name → p.Blurs s t) :
    (e.render properties b).map Widget.toJson = (e.render properties c).map Widget.toJson ∧
    validate properties b = validate properties c := by
  have hr := render_veiled (e := e) hs hd hb
  constructor
  case left =>
    have hj : Widget.toJson = Widget.toJson ∘ Widget.veiled := funext fun w => w.toJson_veiled.symm
    rw [hj, ← List.map_map, hr, List.map_map]
  case right =>
    have hm (l : List Widget) : l.flatMap Widget.messages =
        (l.map Widget.veiled).flatMap Widget.messages := by
      simp only [List.flatMap_map, Widget.messages_veiled]
    rw [e.validate_eq_ofMessages, e.validate_eq_ofMessages, hm, hr, ← hm]

end

-- A token of one letter and some digits, beside a note.

def tokenField : Property :=
  { Property.plain "token" "password" with
    required := true
    rules := some { Rules.none with pattern := some "[a-z][0-9]+", minLength := some 8 } }

def tokenForm : List Property :=
  [tokenField, .plain "note" "text"]

def withToken (token : String) : ValueBag :=
  Dict.ofList [("note", .str "see below"), ("token", .str token)]

theorem tokenForm_secluded : Secluded tokenForm "token" where
  passwords := by
    have ht : PropertyKind.ofTag "password" = .ok .password := by decide +kernel
    simp [tokenForm, tokenField, Property.plain, Property.kind, ht]
  unread    := by
    simp [tokenForm, tokenField, Property.plain, Property.dependencies]

theorem withToken_differAt (s t : String) :
    (withToken s).DifferAt (withToken t) "token" s t := by
  have h (s k : String) : (withToken s).get? k =
      if k = "token" then some (.str s) else if k = "note" then some (.str "see below") else none :=
    Dict.get?_ofList.trans <| by simp [Dict.lookup_cons_eq]
  exact {
    left   := h s _
    right  := h t _
    others := fun k hk => by rw [h, h, if_neg hk, if_neg hk] }

-- What the pattern for tokens is read as.
def tokenPattern : Pattern.Regex :=
  .cat (.look .textStart) <| .cat
    (.cat (.chars [(0x61, 0x7A)]) (.rep (.chars [(0x30, 0x39)]) 1 none)) (.look .textEnd)

theorem eq_tokenPattern [Pattern.Capacity] {regex : Pattern.Regex}
    (h : wholePattern? "[a-z][0-9]+" = some regex) : regex = tokenPattern := by
  have ht : (Pattern.read? ("^(?:" ++ "[a-z][0-9]+" ++ ")$").toList).map (·.value) =
      some tokenPattern := by
    decide +kernel
  rw [wholePattern?, Pattern.parse?, Option.map_eq_some_iff] at h
  obtain ⟨r, hr, rfl⟩ := h
  rw [(Option.filter_eq_some_iff.mp hr).left, Option.map_some] at ht
  exact Option.some.inj ht

theorem tokenField_blurs [Pattern.Capacity] : tokenField.Blurs "k12345" "x98765" where
  length   := by decide
  blank    := by decide
  patterns rules hr pattern hp regex hw := by
    have hp : pattern = "[a-z][0-9]+" := by
      cases hr
      exact (Option.some.inj hp).symm
    subst hp
    cases eq_tokenPattern hw
    decide +kernel

theorem password_unseen_token :
    let _ : Pattern.Capacity := { fits := fun _ => true }
    Secluded tokenForm "token" ∧
    (withToken "k12345").DifferAt (withToken "x98765") "token" "k12345" "x98765" ∧
    (∀ p ∈ tokenForm, p.name = "token" → p.Blurs "k12345" "x98765") ∧
    (Engine.bare.render tokenForm (withToken "k12345")).map Widget.toJson =
      (Engine.bare.render tokenForm (withToken "x98765")).map Widget.toJson ∧
    validate tokenForm (withToken "k12345") = validate tokenForm (withToken "x98765") := by
  intro _
  have hb : ∀ p ∈ tokenForm, p.name = "token" → p.Blurs "k12345" "x98765" := by
    simpa [tokenForm, Property.plain] using fun _ => tokenField_blurs
  have hd := withToken_differAt "k12345" "x98765"
  exact ⟨tokenForm_secluded, hd, hb, password_unseen tokenForm_secluded hd hb⟩

end NodeEditor
