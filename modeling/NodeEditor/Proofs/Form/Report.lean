import Mathlib.Data.List.Induction
import NodeEditor.Form.Engine
import NodeEditor.Proofs.Json.Dict

namespace NodeEditor

namespace Report

variable {messages : List (String × String)} {name : String}

-- The report of messages, each with the name of its field, in the order in which they come.
def ofMessages (messages : List (String × String)) : Report :=
  messages.foldl (fun r m => r.push m.1 m.2) .empty

def textsFor (name : String) (messages : List (String × String)) : List String :=
  (messages.filter (·.1 = name)).map Prod.snd

theorem textsFor_append (name : String) (l₁ l₂ : List (String × String)) :
    textsFor name (l₁ ++ l₂) = textsFor name l₁ ++ textsFor name l₂ := by
  simp only [textsFor, List.filter_append, List.map_append]

theorem textsFor_singleton (name : String) (m : String × String) :
    textsFor name [m] = if name = m.1 then [m.2] else [] := by
  by_cases h : name = m.1
  case pos => simp [textsFor, h]
  case neg => simp [textsFor, h, Ne.symm h]

theorem get?_ofMessages (messages : List (String × String)) (name : String) :
    (ofMessages messages).errors.get? name =
      if textsFor name messages = [] then none else some (textsFor name messages) := by
  induction messages using List.reverseRecOn with
  | nil                       => rfl
  | append_singleton rest m ih =>
    have hp : ofMessages (rest ++ [m]) = (ofMessages rest).push m.1 m.2 := by simp [ofMessages]
    rw [hp, push, Dict.get?_insert, textsFor_append, textsFor_singleton]
    by_cases h : name = m.1
    case neg => simp [h, ih]
    case pos =>
      subst h
      rw [ih]
      by_cases ht : textsFor m.1 rest = [] <;> simp [ht]

theorem errorsFor_ofMessages : (ofMessages messages).errorsFor name = textsFor name messages := by
  rw [errorsFor, get?_ofMessages]
  split <;> simp [*]

theorem contains_ofMessages :
    (ofMessages messages).errors.contains name ↔ textsFor name messages ≠ [] := by
  rw [Dict.contains, get?_ofMessages]
  split <;> simp [*]

theorem isValid_ofMessages : (ofMessages messages).isValid ↔ messages = [] := by
  cases messages with
  | nil         => exact iff_of_true rfl rfl
  | cons m rest =>
    have hc : (ofMessages (m :: rest)).errors.contains m.1 := contains_ofMessages.mpr <| by
      simp [textsFor]
    have he : (ofMessages (m :: rest)).errors.entries ≠ [] := by
      intro h
      simp [Dict.contains, Dict.get?, h] at hc
    simpa [isValid, Dict.isEmpty] using he

end Report

namespace Widget

variable {p : Property} {values : ValueBag} {credentials : List Credential} {name : String}
  {unknown : UnknownKind} {widgets : List Widget} {w : Widget}

-- The messages that a widget shows, with the name of its property.
def messages (w : Widget) : List (String × String) :=
  w.errors.map (w.property, ·)

theorem messages_eq_nil_iff : w.messages = [] ↔ w.errors = [] :=
  List.map_eq_nil_iff

theorem textsFor_messages : Report.textsFor name w.messages =
    if w.property = name then w.errors else [] := by
  by_cases h : w.property = name
  case pos => simp [Report.textsFor, messages, h, List.filter_map, Function.comp_def]
  case neg => simp [Report.textsFor, messages, h]

theorem textsFor_flatMap : Report.textsFor name (widgets.flatMap messages) =
    (widgets.filter (·.property = name)).flatMap (·.errors) := by
  induction widgets with
  | nil            => rfl
  | cons w rest ih =>
    rw [List.flatMap_cons, Report.textsFor_append, textsFor_messages, ih, List.filter_cons]
    by_cases h : w.property = name <;> simp [h]

theorem build_of_error [Pattern.Capacity] (h : p.kind = .error unknown) (values : ValueBag)
    (credentials : List Credential) :
    (build p values credentials).property = p.name ∧
    (build p values credentials).control = .schemaError unknown.message ∧
    (build p values credentials).errors = [] := by
  simp [build, h]

theorem build_property [Pattern.Capacity] : (build p values credentials).property = p.name := by
  cases h : p.kind <;> simp [build]

end Widget

namespace Engine

open Widget

section

variable [Pattern.Capacity] {e : Engine} {properties before after : List Property}
  {values : ValueBag} {p : Property} {unknown : UnknownKind}

-- The report says what the widgets show, one after the other.
theorem validate_eq_ofMessages (e : Engine) (properties : List Property) (values : ValueBag) :
    validate properties values = .ofMessages ((e.render properties values).flatMap messages) := by
  let push := fun (r : Report) (w : Widget) => w.messages.foldl (fun r m => r.push m.1 m.2) r
  calc validate properties values
    _ = properties.foldl (fun r p =>
          if isVisible p values then push r (build p values e.credentials) else r) .empty := by
      refine List.foldl_ext _ _ _ fun r p _ => ?_
      cases hk : p.kind <;> simp [push, build, messages, hk, List.foldl_map]
    _ = (e.render properties values).foldl push .empty := by
      rw [render, List.foldl_map, List.foldl_filter]
    _ = .ofMessages ((e.render properties values).flatMap messages) := by
      rw [Report.ofMessages, List.foldl_flatMap]

theorem render_append : e.render (before ++ after) values =
    e.render before values ++ e.render after values := by
  simp only [render, List.filter_append, List.map_append]

theorem render_cons_of_visible (h : isVisible p values) : e.render (p :: after) values =
    build p values e.credentials :: e.render after values := by
  simp [render, h]

theorem render_cons_of_hidden (h : isVisible p values = false) :
    e.render (p :: after) values = e.render after values := by
  simp [render, h]

-- What a form shows and what is reported of it are the same.
structure Agrees (e : Engine) (properties : List Property) (values : ValueBag) : Prop where
  order    : (e.render properties values).map (·.property) =
    (properties.filter (isVisible · values)).map (·.name)
  messages : ∀ name, (validate properties values).errorsFor name =
    ((e.render properties values).filter (·.property = name)).flatMap (·.errors)
  entries  : ∀ name, (validate properties values).errors.contains name ↔
    (validate properties values).errorsFor name ≠ []
  valid    : (validate properties values).isValid ↔
    ∀ w ∈ e.render properties values, w.hasErrors = false
  hidden   : ∀ before p after, properties = before ++ p :: after → isVisible p values = false →
    e.render properties values = e.render (before ++ after) values ∧
    validate properties values = validate (before ++ after) values
  unknown  : ∀ before p after, properties = before ++ p :: after → isVisible p values →
    ∀ unknown, p.kind = .error unknown →
    (∃ w, e.render properties values = e.render before values ++ w :: e.render after values ∧
      w.property = p.name ∧ w.control = .schemaError unknown.message ∧ w.errors = []) ∧
    validate properties values = validate (before ++ after) values

theorem report_agrees (e : Engine) (properties : List Property) (values : ValueBag) :
    e.Agrees properties values where
  order := by
    simp [render, Function.comp_def, build_property]
  messages name := by
    rw [e.validate_eq_ofMessages, Report.errorsFor_ofMessages, textsFor_flatMap]
  entries name := by
    rw [e.validate_eq_ofMessages, Report.contains_ofMessages, Report.errorsFor_ofMessages]
  valid := by
    rw [e.validate_eq_ofMessages, Report.isValid_ofMessages, List.flatMap_eq_nil_iff]
    simp [messages_eq_nil_iff, hasErrors]
  hidden before p after hp hv := by
    have hr : e.render properties values = e.render (before ++ after) values := by
      rw [hp, render_append, render_cons_of_hidden hv, render_append]
    exact ⟨hr, by rw [e.validate_eq_ofMessages, hr, ← e.validate_eq_ofMessages]⟩
  unknown before p after hp hv unknown hk := by
    have hr : e.render properties values = e.render before values ++
        build p values e.credentials :: e.render after values := by
      rw [hp, render_append, render_cons_of_visible hv]
    have hb := build_of_error hk values e.credentials
    refine ⟨⟨_, hr, hb⟩, ?_⟩
    have hm := messages_eq_nil_iff.mpr hb.right.right
    simp only [e.validate_eq_ofMessages, hr, render_append, List.flatMap_append, List.flatMap_cons,
      hm, List.nil_append]

end

-- Two fields of one name, and between them one that is hidden and one of a kind that there is not.

def urlField (label : String) : Property :=
  { Property.plain "url" "text" with displayName := some label, required := true }

def hiddenField : Property :=
  { Property.plain "retries" "range" with required := true }.shownWhen "mode" (.str "advanced")

def oddField : Property :=
  { Property.plain "tone" "colour-wheel" with required := true }

def mixedForm : List Property :=
  [urlField "From", hiddenField, oddField, urlField "To"]

theorem report_agrees_mixed :
    let _ : Pattern.Capacity := { fits := fun _ => true }
    isVisible hiddenField {} = false ∧ isVisible oddField {} ∧
    oddField.kind = .error { tag := "colour-wheel", reason := none } ∧
    (validate mixedForm {}).errorsFor "url" = ["From is required", "To is required"] ∧
    (validate mixedForm {}).errors.keys = ["url"] ∧ bare.Agrees mixedForm {} := by
  intro _
  refine ⟨by decide, by decide, by decide +kernel, ?_, ?_, report_agrees bare mixedForm {}⟩
  · decide +kernel
  · decide +kernel

end Engine

end NodeEditor
