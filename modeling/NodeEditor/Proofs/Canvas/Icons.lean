import NodeEditor.Canvas.Icons
import NodeEditor.Proofs.Catalog.Loading
import NodeEditor.Proofs.Text.Parts

namespace NodeEditor

open Text

-- The name that an icon goes by.
def IconSource.text : IconSource → String
  | .symbol name => name
  | .asset path  => path

-- The image that a kind refers to: the one that its icon names or, where no icon names one, that of
-- its own name.
inductive NodeType.RefersTo (t : NodeType) : String → Prop
  | asset {path} : t.icon = some (.asset path) → ¬isBlankText path → RefersTo t path
  | symbol {name} : t.icon = some (.symbol name) → ¬isBlankText name → RefersTo t (name ++ ".svg")
  | type : (∀ i, t.icon = some i → isBlankText i.text) → ¬isBlankText t.type →
    RefersTo t (t.type ++ ".svg")

namespace IconRegistry

-- A kind that the registry has from its catalog, with no icon registered in front of it.
structure Draws (r : IconRegistry) (t : NodeType) : Prop where
  listed : ∃ c : Catalog, (c.types.map (·.type)).Nodup ∧ t ∈ c.types ∧
    r.sources = (ofCatalog c r.assetBase).sources
  plain  : r.inlined.get? t.type = none

-- An address that is a base without the slashes at its end, one slash, and a path without the
-- slashes at its start.
inductive Joins : String → String → String → Prop
  | intro {base path} (m n : Nat) : base.toList.getLast? ≠ some '/' → path.toList.head? ≠ some '/' →
    Joins (base ++ times m '/') (times n '/' ++ path) (base ++ "/" ++ path)

-- A base with nothing in it but slashes.
def IsRoot (base : String) : Prop :=
  ∀ c ∈ base.toList, c = '/'

instance (base : String) : Decidable (IsRoot base) :=
  List.decidableBAll (· = '/') base.toList

variable {r : IconRegistry} {t : NodeType} {base path url : String}

theorem assetPath?_of_refersTo (h : t.RefersTo path) : assetPath? t.type t.icon = some path := by
  cases h with
  | asset hi hb  => simp [assetPath?, hi, hb]
  | symbol hi hb => simp [assetPath?, hi, hb]; rfl
  | type hu hb   =>
    cases hi : t.icon with
    | none   => simp [assetPath?, hb]; rfl
    | some i =>
      cases i with
      | asset path  =>
        have hu : isBlankText path := hu _ hi
        simp [assetPath?, hu, hb]; rfl
      | symbol name =>
        have hu : isBlankText name := hu _ hi
        simp [assetPath?, hu, hb]; rfl

theorem assetPath?_eq_some_iff : assetPath? t.type t.icon = some path ↔ t.RefersTo path := by
  constructor
  case mpr => exact assetPath?_of_refersTo
  case mp  =>
    intro h
    have only {p} (hp : t.RefersTo p) : t.RefersTo path :=
      Option.some.inj (assetPath?_of_refersTo hp |>.symm.trans h) ▸ hp
    by_cases hu : ∀ i, t.icon = some i → isBlankText i.text
    case neg =>
      push Not at hu
      have ⟨i, hi, hb⟩ := hu
      cases i with
      | asset _  => exact only <| .asset hi hb
      | symbol _ => exact only <| .symbol hi hb
    case pos =>
      by_cases hb : isBlankText t.type
      case neg => exact only <| .type hu hb
      case pos =>
        cases hi : t.icon with
        | none   => simp [assetPath?, hi, hb] at h
        | some i =>
          cases i with
          | asset path  =>
            have hu : isBlankText path := hu _ hi
            simp [assetPath?, hi, hu, hb] at h
          | symbol name =>
            have hu : isBlankText name := hu _ hi
            simp [assetPath?, hi, hu, hb] at h

theorem Draws.get?_sources (d : r.Draws t) : r.sources.get? t.type = some t.icon := by
  have ⟨c, hn, ht, hs⟩ := d.listed
  have hk : ((c.types.map fun t => (t.type, t.icon)).map Prod.fst).Nodup := by
    rwa [List.map_map]
  rw [hs, ofCatalog, Dict.get?_ofList, Dict.lookup_reverse hk, Dict.lookup_eq_some_iff hk]
  exact List.mem_map_of_mem ht

theorem Draws.resolve_eq_asset_iff (d : r.Draws t) :
    r.resolve t.type = .asset url ↔ ∃ path, t.RefersTo path ∧ joinAsset r.assetBase path = url := by
  rw [resolve, d.plain, d.get?_sources]
  simp only [Option.bind_some, ← assetPath?_eq_some_iff]
  cases assetPath? t.type t.icon <;> simp

theorem Draws.resolve_eq (d : r.Draws t) (h : t.RefersTo path) :
    r.resolve t.type = .asset (joinAsset r.assetBase path) :=
  d.resolve_eq_asset_iff.mpr ⟨path, h, rfl⟩

theorem trimEndOf_eq_empty_iff : trimEndOf '/' base = "" ↔ IsRoot base := by
  rw [trimEndOf, String.ofList_eq_empty_iff]
  simp [dropEndWhile, IsRoot]

theorem joins_iff :
    Joins base path url ↔ url = trimEndOf '/' base ++ "/" ++ trimStartOf '/' path := by
  constructor
  case mp  =>
    intro h
    have ⟨m, n, hb, hp⟩ := h
    rw [trimEndOf_eq_iff.mpr ⟨hb, m, rfl⟩, trimStartOf_eq_iff.mpr ⟨hp, n, rfl⟩]
  case mpr =>
    intro h
    have ⟨hb, m, hm⟩ := trimEndOf_eq_iff (c := '/') (s := base) |>.mp rfl
    have ⟨hp, n, hn⟩ := trimStartOf_eq_iff (c := '/') (s := path) |>.mp rfl
    have hj := Joins.intro m n hb hp
    rwa [← hm, ← hn, ← h] at hj

theorem IsRoot.left {slashes : String} (h : IsRoot (base ++ slashes)) : IsRoot base := by
  intro c hc
  apply h
  rw [String.toList_append]
  exact List.mem_append_left _ hc

theorem joinAsset_of_isRoot (h : IsRoot base) : joinAsset base path = path := by
  rw [joinAsset, trimEndOf_eq_empty_iff.mpr h]
  simp

theorem joins_joinAsset (h : ¬IsRoot base) (ha : ¬isAbsolute path) :
    Joins base path (joinAsset base path) := by
  rw [joins_iff, joinAsset, if_neg ha, if_neg <| trimEndOf_eq_empty_iff.not.mpr h]

theorem Joins.resolve_eq (h : Joins r.assetBase path url) (d : r.Draws t) (hp : t.RefersTo path)
    (hr : ¬IsRoot r.assetBase) (ha : ¬isAbsolute path) : r.resolve t.type = .asset url := by
  rw [d.resolve_eq hp, joins_iff.mp (joins_joinAsset hr ha), joins_iff.mp h]

-- More slashes where the two meet make no difference.
theorem Joins.more (h : Joins base path url) (m n : Nat) :
    Joins (base ++ times m '/') (times n '/' ++ path) url := by
  cases h with
  | @intro b p m' n' hb hp =>
    have hm : b ++ times m' '/' ++ times m '/' = b ++ times (m' + m) '/' := by
      rw [times_add, String.append_assoc]
    have hn : times n '/' ++ (times n' '/' ++ p) = times (n + n') '/' ++ p := by
      rw [times_add, String.append_assoc]
    rw [hm, hn]
    exact .intro _ _ hb hp

theorem Joins.head?_eq (h : Joins base path url) (hr : ¬IsRoot base) :
    url.toList.head? = base.toList.head? := by
  have hn : (trimEndOf '/' base).toList ≠ [] := by
    rwa [ne_eq, String.toList_eq_nil_iff, trimEndOf_eq_empty_iff]
  have ⟨_, m, hm⟩ := trimEndOf_eq_iff (c := '/') (s := base) |>.mp rfl
  have hb : base.toList = (trimEndOf '/' base).toList ++ (times m '/').toList := by
    rw [← String.toList_append, ← hm]
  rw [joins_iff.mp h, hb, String.append_assoc, String.toList_append]
  rw [List.head?_append_of_ne_nil _ hn, List.head?_append_of_ne_nil _ hn]

theorem eq_trimStartOf_iff (path : String) : path = "" ++ "/" ++ trimStartOf '/' path ↔
    ∃ name, path = "/" ++ name ∧ name.toList.head? ≠ some '/' := by
  constructor
  case mp  => exact fun h => ⟨_, h, trimStartOf_eq_iff.mp rfl |>.left⟩
  case mpr =>
    intro ⟨name, hp, hn⟩
    rw [trimStartOf_eq_iff.mpr ⟨hn, 1, hp⟩]
    exact hp

theorem not_isAbsolute_slashes (ha : ¬isAbsolute path) (n : Nat) :
    ¬isAbsolute (times n '/' ++ path) := by
  cases n with
  | zero   => simpa [times] using ha
  | succ n => simp [isAbsolute, toList_times, List.replicate_succ]

-- The address that a registry has for an image at a path.
structure Addresses (r : IconRegistry) (path url : String) : Prop where
  once   : Joins r.assetBase path url ↔
    ¬IsRoot r.assetBase ∨ ∃ name, path = "/" ++ name ∧ name.toList.head? ≠ some '/'
  root   : IsRoot r.assetBase → url = path
  rooted : ¬IsRoot r.assetBase → r.assetBase.toList.head? = some '/' → url.toList.head? = some '/'
  same   : ¬IsRoot r.assetBase → ∀ {r' t' m n}, Draws r' t' → t'.RefersTo (times n '/' ++ path) →
    r'.assetBase = r.assetBase ++ times m '/' → r'.resolve t'.type = .asset url

theorem asset_joined (d : r.Draws t) (h : t.RefersTo path) (ha : ¬isAbsolute path) :
    ∃ url, r.resolve t.type = .asset url ∧ r.Addresses path url := by
  refine ⟨_, d.resolve_eq h, {
    once   := ?once
    root   := joinAsset_of_isRoot
    rooted := ?rooted
    same   := ?same }⟩
  case once =>
    by_cases hr : IsRoot r.assetBase
    case neg => exact iff_of_true (joins_joinAsset hr ha) <| .inl hr
    case pos =>
      rw [joinAsset_of_isRoot hr, joins_iff, trimEndOf_eq_empty_iff.mpr hr]
      exact (eq_trimStartOf_iff path).trans (or_iff_right <| not_not_intro hr).symm
  case rooted => exact fun hr hb => (joins_joinAsset hr ha).head?_eq hr |>.trans hb
  case same =>
    intro hr r' t' m n d' h' hb
    have hr' : ¬IsRoot r'.assetBase := fun h => hr (hb ▸ h).left
    have hj : Joins r'.assetBase (times n '/' ++ path) _ := hb ▸ (joins_joinAsset hr ha).more m n
    exact hj.resolve_eq d' h' hr' <| not_isAbsolute_slashes ha n

-- A kind with an image, and one with a name for its image.
def request : NodeType :=
  { NodeType.plain "http-request" "" with icon := some (.asset "/http.svg") }

def hook : NodeType :=
  { NodeType.plain "webhook-trigger" "" with icon := some (.symbol "webhook") }

def calls : Catalog := .ofList [request, hook]

theorem draws_calls (base : String) (h : t ∈ calls.types) : (ofCatalog calls base).Draws t where
  listed := ⟨calls, by decide, h, rfl⟩
  plain  := rfl

theorem asset_joined_request :
    (ofCatalog calls "/static/icons//").Draws request ∧ request.RefersTo "/http.svg" ∧
    ¬isAbsolute "/http.svg" ∧
    (ofCatalog calls "/static/icons//").resolve request.type =
      .asset "/static/icons/http.svg" := by
  have d := draws_calls "/static/icons//" (t := request) List.mem_cons_self
  have h : request.RefersTo "/http.svg" := .asset rfl (by decide)
  have ha : ¬isAbsolute "/http.svg" := by decide
  have ⟨url, hu, hs⟩ := asset_joined d h ha
  have hr : ¬IsRoot "/static/icons//" := by decide
  have hj := joins_iff.mp <| hs.once.mpr (.inl hr)
  refine ⟨d, h, ha, hu.trans ?_⟩
  rw [hj]
  decide

-- Where there is nothing in the base but slashes, they are lost.
theorem root_base_lost :
    (ofCatalog calls "/").Draws hook ∧ hook.RefersTo "webhook.svg" ∧ ¬isAbsolute "webhook.svg" ∧
    (ofCatalog calls "/").resolve hook.type = .asset "webhook.svg" ∧
    ¬Joins "/" "webhook.svg" "webhook.svg" ∧ Joins "/" "webhook.svg" "/webhook.svg" := by
  have d := draws_calls "/" (t := hook) (List.mem_cons_of_mem _ List.mem_cons_self)
  have hn : ¬isBlankText "webhook" := by decide
  have he : "webhook" ++ ".svg" = "webhook.svg" := by decide
  have h : hook.RefersTo "webhook.svg" := he ▸ .symbol rfl hn
  refine ⟨d, h, by decide, by decide, ?_, ?_⟩
  · rw [joins_iff]
    decide
  · rw [joins_iff]
    decide

end IconRegistry

end NodeEditor
