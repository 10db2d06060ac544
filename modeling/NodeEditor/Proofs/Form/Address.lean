import NodeEditor.Form.Engine
import NodeEditor.Proofs.Form.Derivation

namespace NodeEditor

-- The value that a field shows: the stored one, else the default.
def Property.shown (p : Property) (b : ValueBag) : Option Json :=
  effectiveValue p (b.get? p.name)

def Property.showsText (p : Property) (b : ValueBag) (text : String) : Bool :=
  (p.shown b).bind Json.text? = some text

-- That a property of a name and a kind is among others.
structure Property.Declared (p : Property) (properties : List Property) (name : String)
    (kind : PropertyKind) : Prop where
  mem  : p ∈ properties
  name : p.name = name
  kind : p.kind = .ok kind

-- The fields from which and into which the address of a webhook is derived.
structure AddressForm (properties : List Property) (path environment url : Property) : Prop where
  path        : path.Declared properties "path" .text
  environment : environment.Declared properties "environment" .select
  url         : url.Declared properties "webhookUrl" .readOnly

-- The values with which a form opens: they are made to fit, then all derived fields are derived.
def opened (base : String) (properties : List Property) (raw : ValueBag) : ValueBag :=
  ((Engine.standard base).derive properties (conform properties raw).1).1

-- The part of an address that a path makes.
def pathPart (path : String) : String :=
  Text.trimStartOf '/' (Text.trim path)

def address (base : String) (test : Bool) (path : String) : String :=
  let segment := if test then "webhook-test" else "webhook"
  let root := Text.trimEndOf '/' base
  s!"{root}/{segment}/{path}"

variable {properties : List Property} {path environment url p : Property} {b raw : ValueBag}
  {base part text s : String} {name : String} {credentials : List Credential} {test test' : Bool}

theorem address_inj : address base test part = address base test' part ↔ test = test' := by
  constructor
  case mpr => exact congrArg (address base · part)
  case mp  =>
    intro h
    have hl := congrArg String.length h
    cases test <;> cases test' <;> simp [address, toString] at hl ⊢
    all_goals exact absurd hl <| by decide

namespace Property

theorem shown_of_get? {o : Option Json} (h : b.get? p.name = o) :
    p.shown b = o.or p.default := by
  rw [shown, h]
  cases o <;> rfl

theorem control_of_text [Pattern.Capacity] (h : p.kind = .ok .text) :
    (Widget.build p b credentials).control = .textInput (Control.shownText (p.shown b)) := by
  simp [Widget.build, h, Control.build, shown]

theorem control_of_readOnly [Pattern.Capacity] (h : p.kind = .ok .readOnly) :
    (Widget.build p b credentials).control = .readOnly (Control.shownText (p.shown b)) := by
  simp [Widget.build, h, Control.build, shown]

end Property

theorem ValueBag.text?_eq_some_iff : b.text? name = some s ↔ b.get? name = some (.str s) :=
  Json.bind_text?_eq_some_iff

theorem Derivation.compute_standardWebhook : (standardWebhook base).compute b =
    (b.text? "path").bind fun path =>
      if pathPart path = "" then none
      else some (.str (address base (b.text? "environment" = some "test") (pathPart path))) := by
  simp only [standardWebhook, webhook, webhookAddress?, webhookPath?, pathPart]
  cases b.text? "path" with
  | none   => rfl
  | some s =>
    by_cases hs : Text.trimStartOf '/' (Text.trim s) = "" <;> simp [hs, address]

theorem Derivation.standardWebhook_apart (base : String) : Apart [standardWebhook base] where
  textual d hd := List.mem_singleton.mp hd ▸ webhook_textual ..
  targets := List.nodup_singleton _
  inputs d hd d' hd' := by
    rw [List.mem_singleton.mp hd, List.mem_singleton.mp hd']
    simp [standardWebhook, webhook]

namespace AddressForm

-- What is stored under the address is what the path and the environment that are stored give.
theorem get?_url (f : AddressForm properties path environment url) (base : String)
    (raw : ValueBag) :
    (opened base properties raw).get? url.name =
      (Derivation.standardWebhook base).compute (opened base properties raw) := by
  have hd : (Engine.standard base).declared properties = [.standardWebhook base] := by
    simpa [Engine.declared, Engine.standard, Derivation.standardWebhook, Derivation.webhook] using
      ⟨url, f.url.mem, f.url.name⟩
  have ha := Derivation.standardWebhook_apart base
  have hm := List.mem_singleton_self (Derivation.standardWebhook base)
  rw [f.url.name, opened, Engine.derive, hd, ha.compute_runAll hm]
  exact ha.get?_runAll hm

theorem shown_url_of_text (f : AddressForm properties path environment url)
    (h : (opened base properties raw).text? "path" = some s) (hp : pathPart s ≠ "") :
    Control.shownText (url.shown (opened base properties raw)) =
      address base ((opened base properties raw).text? "environment" = some "test")
        (pathPart s) := by
  have hg := f.get?_url base raw
  rw [Derivation.compute_standardWebhook, h, Option.bind_some, if_neg hp] at hg
  rw [Property.shown_of_get? hg]
  rfl

theorem shown_url_of_none (f : AddressForm properties path environment url)
    (h : (opened base properties raw).text? "path" = none) :
    url.shown (opened base properties raw) = url.default := by
  have hg := f.get?_url base raw
  rw [Derivation.compute_standardWebhook, h, Option.bind_none] at hg
  rw [Property.shown_of_get? hg, Option.none_or]

theorem shownText_path (f : AddressForm properties path environment url)
    (h : b.text? "path" = some s) : Control.shownText (path.shown b) = s := by
  have hg := ValueBag.text?_eq_some_iff.mp h
  rw [Property.shown_of_get? (f.path.name ▸ hg)]
  rfl

-- The environment that is stored is the one that is shown, unless none is stored and the default
-- would have been the one for tests.
theorem shows_test_iff (f : AddressForm properties path environment url) :
    (decide (b.text? "environment" = some "test") = environment.showsText b "test") ↔
      b.contains "environment" ∨ environment.default ≠ some (.str "test") := by
  have hn := f.environment.name
  rw [Property.showsText, decide_eq_decide, ValueBag.text?_eq_some_iff,
    Json.bind_text?_eq_some_iff, Dict.contains]
  cases hg : b.get? "environment" with
  | none   => simp [Property.shown_of_get? (hn ▸ hg)]
  | some v => simp [Property.shown_of_get? (hn ▸ hg)]

end AddressForm

-- The address that a form shows is that of the path and the environment that it shows just where
-- both are stored: where the path is but a default no address is derived, and where the environment
-- is but a default it does not count.
theorem shown_address_iff [Pattern.Capacity] (f : AddressForm properties path environment url)
    (hp : (Widget.build path (opened base properties raw) credentials).control = .textInput text)
    (hn : pathPart text ≠ "") :
    let b := opened base properties raw
    let meant := address base (environment.showsText b "test") (pathPart text)
    (Widget.build url b credentials).control = .readOnly meant ↔
      ((b.text? "path").isSome ∧
        (b.contains "environment" ∨ environment.default ≠ some (.str "test"))) ∨
      ((b.text? "path").isNone ∧ Control.shownText url.default = meant) := by
  intro b meant
  rw [Property.control_of_readOnly f.url.kind, Control.readOnly.injEq]
  rw [Property.control_of_text f.path.kind, Control.textInput.injEq] at hp
  cases hs : b.text? "path" with
  | none   => simp [f.shown_url_of_none hs, b]
  | some s =>
    have ht : s = text := (f.shownText_path hs).symm.trans hp
    subst ht
    simp [f.shown_url_of_text hs hn, b, meant, address_inj, f.shows_test_iff]

-- A form whose environment is the one for tests if nothing else is said.

def hookPath : Property :=
  .plain "path" "text"

def hookEnvironment : Property :=
  { Property.plain "environment" "select" with
    default := some (.str "test")
    options := [⟨"Test", .str "test"⟩, ⟨"Production", .str "production"⟩] }

def hookUrl : Property :=
  .plain "webhookUrl" "read_only"

def hookFields : List Property :=
  [hookPath, hookEnvironment, hookUrl]

def hookBase : String :=
  "https://hooks.example.com/"

theorem hookFields_form : AddressForm hookFields hookPath hookEnvironment hookUrl where
  path        := ⟨by simp [hookFields], rfl, by decide +kernel⟩
  environment := ⟨by simp [hookFields], rfl, by decide +kernel⟩
  url         := ⟨by simp [hookFields], rfl, by decide +kernel⟩

def onlyPath : ValueBag :=
  Dict.ofList [("path", .str "/orders")]

def pathForTests : ValueBag :=
  Dict.ofList [("environment", .str "test"), ("path", .str "/orders")]

theorem shows_path [Pattern.Capacity] (h : b.text? "path" = some s) :
    (Widget.build hookPath b []).control = .textInput s := by
  rw [Property.control_of_text hookFields_form.path.kind, hookFields_form.shownText_path h]

theorem shows_url [Pattern.Capacity] (h : b.text? "webhookUrl" = some s) :
    (Widget.build hookUrl b []).control = .readOnly s := by
  have hg := ValueBag.text?_eq_some_iff.mp h
  rw [Property.control_of_readOnly hookFields_form.url.kind, Property.shown_of_get? hg]
  rfl

theorem shown_address_iff_tests :
    let _ : Pattern.Capacity := { fits := fun _ => true }
    let b := opened hookBase hookFields pathForTests
    AddressForm hookFields hookPath hookEnvironment hookUrl ∧
    (Widget.build hookPath b []).control = .textInput "/orders" ∧ pathPart "/orders" ≠ "" ∧
    (b.text? "path").isSome ∧ b.contains "environment" ∧ hookEnvironment.showsText b "test" ∧
    (Widget.build hookUrl b []).control =
      .readOnly (address hookBase true (pathPart "/orders")) := by
  intro _ b
  have hp : (Widget.build hookPath b []).control = .textInput "/orders" :=
    shows_path <| by decide +kernel
  have hn : pathPart "/orders" ≠ "" := by decide
  have hs : (b.text? "path").isSome := by decide +kernel
  have he : b.contains "environment" := by decide +kernel
  have ht : hookEnvironment.showsText b "test" := by decide +kernel
  refine ⟨hookFields_form, hp, hn, hs, he, ht, ?_⟩
  exact ht ▸ (shown_address_iff hookFields_form hp hn).mpr (.inl ⟨hs, .inl he⟩)

-- Here the form shows the environment for tests, and an address that is not for tests.
theorem default_environment_ignored :
    let _ : Pattern.Capacity := { fits := fun _ => true }
    let b := opened hookBase hookFields onlyPath
    AddressForm hookFields hookPath hookEnvironment hookUrl ∧
    (Widget.build hookPath b []).control = .textInput "/orders" ∧ pathPart "/orders" ≠ "" ∧
    hookEnvironment.showsText b "test" ∧
    (Widget.build hookUrl b []).control =
      .readOnly "https://hooks.example.com/webhook/orders" ∧
    (Widget.build hookUrl b []).control ≠
      .readOnly (address hookBase true (pathPart "/orders")) := by
  intro _ b
  have hp : b.text? "path" = some "/orders" := by decide +kernel
  have ht : hookEnvironment.showsText b "test" := by decide +kernel
  have hu : (Widget.build hookUrl b []).control =
      .readOnly "https://hooks.example.com/webhook/orders" := shows_url <| by decide +kernel
  refine ⟨hookFields_form, shows_path hp, by decide, ht, hu, ?_⟩
  rw [hu, ne_eq, Control.readOnly.injEq]
  decide

end NodeEditor
