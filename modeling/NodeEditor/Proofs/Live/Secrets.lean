import NodeEditor.Proofs.Form.Hydrate
import NodeEditor.Proofs.Live.Scene

namespace NodeEditor

namespace Controller

variable {c : Controller} {s : Surroundings} {property : String} {credential : CredentialId}

-- The controller when a secret is filled in and it is working on these data.
def hydrated (c : Controller) (forms : Engine) (data : NodeData) (secret : Dict Json) :
    Controller :=
  let values := (hydrate c.type.properties data.values secret).1
  let values := (forms.derive c.type.properties values).1
  { c with working := some { data with values := values } }

-- A secret is for a working copy that still names its credential, and for no other.
theorem applySecret_cases (c : Controller) (s : Surroundings) (property : String)
    (credential : CredentialId) (secret : Dict Json) :
    (c.applySecret s property credential secret).controller = c ∨
    ∃ data, c.working = some data ∧ data.values.text? property = some credential.text ∧
      (c.applySecret s property credential secret).controller = c.hydrated s.forms data secret := by
  simp only [applySecret]
  split
  case h_1         => exact .inl rfl
  case h_2 data hw =>
    split
    case isTrue    => exact .inl rfl
    case isFalse h => exact .inr ⟨data, hw, Classical.not_not.mp h, rfl⟩

theorem resumeSecret_eq (c : Controller) (s : Surroundings) (property : String)
    (credential : CredentialId) (reply : Except TransportError (Dict Json)) :
    (c.resumeSecret s property credential reply).controller = c ∨
    ∃ secret, reply = .ok secret ∧ c.mounted ∧
      c.resumeSecret s property credential reply = c.applySecret s property credential secret := by
  simp only [resumeSecret]
  split
  case isTrue     => exact .inl rfl
  case isFalse hm =>
    cases reply with
    | error _   => exact .inl rfl
    | ok secret => exact .inr ⟨secret, rfl, by simpa using hm, rfl⟩

theorem resumeSecret_cases (c : Controller) (s : Surroundings) (property : String)
    (credential : CredentialId) (reply : Except TransportError (Dict Json)) :
    (c.resumeSecret s property credential reply).controller = c ∨
    ∃ secret data, reply = .ok secret ∧ c.mounted ∧ c.working = some data ∧
      data.values.text? property = some credential.text ∧
      (c.resumeSecret s property credential reply).controller = c.hydrated s.forms data secret := by
  cases c.resumeSecret_eq s property credential reply with
  | inl h => exact .inl h
  | inr h =>
    have ⟨secret, hr, hm, hc⟩ := h
    rw [hc]
    refine (c.applySecret_cases s property credential secret).imp_right fun h => ?_
    have ⟨data, hw, ht, hc⟩ := h
    exact ⟨secret, data, hr, hm, hw, ht, hc⟩

end Controller

namespace Scene

variable {s : Scene} {n : Nat} {property : String} {credential : CredentialId}

-- An errand was to choose the credential for the property, and the controller is still mounted and
-- configures these data, in which the choice stands.
structure Chosen (s : Scene) (n : Nat) (property : String) (credential : CredentialId)
    (data : NodeData) : Prop where
  errand  : s.errands[n]? = some (.selectCredential property credential)
  mounted : s.controller.mounted
  working : s.controller.working = some data
  current : data.values.text? property = some credential.text

theorem after_secret_cases (o : s.Orderly) (reply : Except TransportError (Dict Json)) :
    let s' := s.after (.answer n (.secret property credential) reply)
    s'.controller = s.controller ∨ ∃ secret data values, reply = .ok secret ∧
      s.Chosen n property credential data ∧
      s.world.forms.Fills s.controller.type.properties secret data.values values ∧
      s'.controller = { s.controller with working := some { data with values := values } } := by
  intro s'
  by_cases hw : (n, .secret property credential) ∈ s.waiting
  case neg => exact .inl <| congrArg (·.controller) <| after_answer_of_not_mem hw
  case pos =>
    have hs : s' = _ := after_answer hw
    rw [hs]
    cases s.controller.resumeSecret_cases s.world.surroundings property credential reply with
    | inl h => exact .inl h
    | inr h =>
      have ⟨secret, data, hr, hm, hd, ht, hc⟩ := h
      have ⟨e, he, ha⟩ := o.awaits n _ hw
      cases ha
      exact .inr ⟨secret, data, _, hr, ⟨he, hm, hd, ht⟩, Engine.derive_hydrate_fills .., hc⟩

-- A secret that arrives changes nothing but the working copy, and that only if the controller is
-- mounted and the working copy names, in the property that was chosen for, the very credential that
-- the secret is of. What it then touches are derived fields and properties that it has a value for,
-- and no choice of a credential and no title, unless another property has its name.
theorem secret_fills_chosen (w : World) (node : NodeId) (type : NodeType) (es : List Event)
    (n : Nat) (property : String) (credential : CredentialId)
    (reply : Except TransportError (Dict Json)) :
    let s := (w.mount node type).run es
    let s' := s.after (.answer n (.secret property credential) reply)
    s'.world = s.world ∧
    (s'.controller = s.controller ∨ ∃ secret data values, reply = .ok secret ∧
      s.Chosen n property credential data ∧
      w.forms.Fills type.properties secret data.values values ∧
      s'.controller =
        { s.controller with working := some { data with values := values } }) := by
  intro s s'
  have o : s.Orderly := (Orderly.mount w node type).run es
  have ⟨hf, ht⟩ : s.world.forms = w.forms ∧ s.controller.type = type :=
    run_invariant (p := fun s => s.world.forms = w.forms ∧ s.controller.type = type)
      (fun s e h => ⟨(s.after_forms e).trans h.left, (s.after_type e).trans h.right⟩)
      ⟨rfl, rfl⟩ es
  refine ⟨s.after_answer_world n (.secret property credential) reply, ?_⟩
  refine (after_secret_cases o reply).imp_right fun h => ?_
  have ⟨secret, data, values, hr, chosen, fills, hc⟩ := h
  rw [hf, ht] at fills
  exact ⟨secret, data, values, hr, chosen, fills, hc⟩

-- A node that has nothing yet, of a kind with these properties.
def vault : Node where
  id       := ⟨"t"⟩
  type     := "http"
  position := { x := 0, y := 0 }
  data     := .empty

def vaultWorld : World :=
  { World.quiet with store := .ofGraph (Graph.empty.push vault) 0 }

def vaultType (properties : List Property) : NodeType :=
  { NodeType.plain vault.type "HTTP" with properties := properties }

-- Two credentials are chosen one after the other, and the secret of the first one comes too late.
theorem secret_fills_chosen_superseded :
    let t := vaultType [.plain "credential" "credential_select", .plain "apiKey" "password"]
    let secret (key : String) : Dict Json := .ofList [("apiKey", .str key)]
    let es : List Event := [
      .begin, .start (.selectCredential "credential" ⟨"cred_1"⟩),
      .start (.selectCredential "credential" ⟨"cred_2"⟩),
      .answer 0 (.secret "credential" ⟨"cred_1"⟩) (.ok (secret "key_1"))]
    let s := (vaultWorld.mount vault.id t).run es
    let s' := s.after (.answer 1 (.secret "credential" ⟨"cred_2"⟩) (.ok (secret "key_2")))
    s.controller.working.map (·.values.text? "apiKey") = some none ∧
    s'.controller.working.map (·.values.text? "apiKey") = some (some "key_2") ∧
    ∃ data, s.Chosen 1 "credential" ⟨"cred_2"⟩ data := by
  intro t secret es s s'
  have hs : s.controller.working.map (·.values.text? "apiKey") = some none := by decide +kernel
  have hs' : s'.controller.working.map (·.values.text? "apiKey") = some (some "key_2") := by
    decide +kernel
  have ⟨_, h⟩ := secret_fills_chosen vaultWorld vault.id t es 1 "credential" ⟨"cred_2"⟩
    (.ok (secret "key_2"))
  refine ⟨hs, hs', ?_⟩
  cases h with
  | inl h =>
    have hc : s'.controller = s.controller := h
    rw [hc, hs] at hs'
    contradiction
  | inr h =>
    have ⟨_, data, _, _, chosen, _⟩ := h
    exact ⟨data, chosen⟩

-- A property that may be filled has the name of the one that names the credential.
theorem secret_overwrites_choice :
    let choice := Property.plain "credential" "credential_select"
    let t := vaultType [choice, .plain "credential" "text"]
    let es : List Event := [.begin, .start (.selectCredential "credential" ⟨"cred_1"⟩)]
    let secret : Dict Json := .ofList [("credential", .str "cred_2")]
    let s := (vaultWorld.mount vault.id t).run es
    let s' := s.after (.answer 0 (.secret "credential" ⟨"cred_1"⟩) (.ok secret))
    choice ∈ t.properties ∧ choice.kind = .ok .credentialSelect ∧
    choice.name ∉ (vaultWorld.forms.declared t.properties).map (·.target) ∧
    s.controller.working.map (·.values.text? choice.name) = some (some "cred_1") ∧
    s'.controller.working.map (·.values.text? choice.name) = some (some "cred_2") := by
  intro choice t es secret s s'
  have hk : PropertyKind.ofTag "credential_select" = .ok .credentialSelect := by decide +kernel
  exact ⟨List.mem_cons_self, hk, List.not_mem_nil, by decide +kernel, by decide +kernel⟩

end Scene

end NodeEditor
