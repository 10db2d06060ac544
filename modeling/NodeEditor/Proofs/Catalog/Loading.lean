import Mathlib.Data.List.Dedup
import Mathlib.Data.List.Induction
import Mathlib.Data.List.Perm.Lattice
import NodeEditor.Catalog.Catalog
import NodeEditor.Proofs.Json.Dict

namespace NodeEditor.Catalog

-- The kind that an entry of a document is read as.
def readable? (entry : Json) : Option NodeType :=
  (NodeType.shape.read entry).toOption

-- The kind of the entry at a place, if it is readable and no readable one before it is of its type.
def listed? (entries : List Json) (i : Nat) : Option NodeType :=
  (entries[i]?.bind readable?).filter fun t =>
    !(entries.take i).any fun e => (readable? e).any (·.type = t.type)

-- The kinds by category, as the palette collects them.
def groups (types : List NodeType) : Dict (List NodeType) :=
  types.foldl (fun d t => d.insert (categoryOf t) ((d.get? (categoryOf t)).getD [] ++ [t])) {}

-- The order and the map hold the same: each type is in the order once, just those are in the map,
-- and a kind is there under its own type.
structure InStep (c : Catalog) : Prop where
  nodup : c.order.Nodup
  known : ∀ {k}, k ∈ c.order ↔ c.contains k
  own   : ∀ {k t}, c.get? k = some t → t.type = k

-- Groups with all of some kinds, each in the group of its category: its own one, or the common one
-- if it has none or a blank one.
structure Sorts (groups : List PaletteGroup) (types : List NodeType) : Prop where
  increasing : (groups.map (·.category)).Pairwise (· < ·)
  inOrder    : ∀ g ∈ groups, g.entries.Sublist types
  nonempty   : ∀ g ∈ groups, g.entries ≠ []
  complete   : (groups.flatMap (·.entries)).Perm types
  own        : ∀ g ∈ groups, ∀ t ∈ g.entries,
    (t.category = some g.category ∧ Text.isBlankText g.category = false) ∨
    ((∀ category, t.category = some category → Text.isBlankText category) ∧ g.category = "Other")

variable {c : Catalog} {t : NodeType} {types : List NodeType} {entry : Json} {entries : List Json}
  {k : String} {i : Nat}

section Listing

@[simp]
theorem ofList_append_singleton : ofList (types ++ [t]) = (ofList types).add t := by
  rw [ofList, List.foldl_append, ← ofList, List.foldl_cons, List.foldl_nil]

theorem contains_iff_get? : c.contains k ↔ ∃ t, c.get? k = some t :=
  Option.isSome_iff_exists

theorem get?_eq_none_iff : c.get? k = none ↔ ¬c.contains k :=
  Option.not_isSome_iff_eq_none.symm

theorem get?_add : (c.add t).get? k = (c.get? k).or (if t.type = k then some t else none) := by
  rw [add]
  split
  case isFalse h =>
    have hn : c.get? t.type = none := get?_eq_none_iff.mpr h
    rw [get?, Dict.get?_insert, ← get?]
    grind
  case isTrue h =>
    have ⟨_, hs⟩ := contains_iff_get?.mp h
    grind

theorem contains_add : (c.add t).contains k ↔ c.contains k ∨ t.type = k := by
  rw [← not_iff_not, not_or, ← get?_eq_none_iff, ← get?_eq_none_iff, get?_add,
    Option.or_eq_none_iff]
  simp

-- A type stands for the first kind of that type.
theorem get?_ofList : (ofList types).get? k = types.find? (·.type = k) := by
  induction types using List.reverseRecOn with
  | nil                       => rfl
  | append_singleton _ _ ih =>
    rw [ofList_append_singleton, get?_add, ih, List.find?_append, List.find?_singleton]
    simp

theorem contains_ofList : (ofList types).contains k ↔ k ∈ types.map (·.type) := by
  simp [contains_iff_get?, get?_ofList, ← Option.isSome_iff_exists]

theorem empty_inStep : empty.InStep where
  nodup  := List.nodup_nil
  known  := iff_of_false List.not_mem_nil Bool.false_ne_true
  own h  := nomatch h

-- A kind that is new gets its place in the map and in the order at once, another one in neither.
theorem InStep.add (s : c.InStep) (t : NodeType) : (c.add t).InStep := by
  by_cases h : c.contains t.type
  case pos => rwa [Catalog.add, if_pos h]
  case neg =>
    have ho : (c.add t).order = c.order ++ [t.type] := by rw [Catalog.add, if_neg h]
    refine ⟨?nodup, ?known, ?own⟩
    case nodup =>
      rw [ho]
      exact s.nodup.append (List.nodup_singleton _) <| by simpa using mt s.known.mp h
    case known =>
      intro k
      rw [ho, contains_add, List.mem_append, s.known, List.mem_singleton, eq_comm (a := k)]
    case own =>
      intro k u hu
      rw [get?_add, Option.or_eq_some_iff] at hu
      cases hu with
      | inl hu => exact s.own hu
      | inr hu => grind

theorem ofList_inStep (types : List NodeType) : (ofList types).InStep := by
  induction types using List.reverseRecOn with
  | nil                       => exact empty_inStep
  | append_singleton _ _ ih => exact ofList_append_singleton ▸ ih.add _

-- Where the two are in step, the order names the types of the kinds that are listed.
theorem InStep.map_types (s : c.InStep) : c.types.map (·.type) = c.order := by
  rw [types, List.map_filterMap]
  have h : ∀ k ∈ c.order, (c.get? k).map (·.type) = some k := fun k hk => by
    have ⟨t, ht⟩ := contains_iff_get?.mp <| s.known.mp hk
    rw [ht, Option.map_some, s.own ht]
  rw [List.filterMap_congr h, List.filterMap_some]

theorem InStep.size_eq (s : c.InStep) : c.size = c.types.length := by
  rw [size, ← s.map_types, List.length_map]

theorem InStep.types_nodup (s : c.InStep) : (c.types.map (·.type)).Nodup :=
  s.map_types ▸ s.nodup

-- Look-up finds whatever is listed.
theorem InStep.get?_eq_some_iff (s : c.InStep) : c.get? k = some t ↔ t ∈ c.types ∧ t.type = k := by
  rw [types, List.mem_filterMap]
  constructor
  case mp =>
    exact fun h => ⟨⟨k, s.known.mpr <| contains_iff_get?.mpr ⟨t, h⟩, h⟩, s.own h⟩
  case mpr =>
    intro ⟨⟨l, _, h⟩, hk⟩
    exact hk ▸ s.own h ▸ h

theorem InStep.types_add (s : c.InStep) (t : NodeType) :
    (c.add t).types = if c.contains t.type then c.types else c.types ++ [t] := by
  by_cases h : c.contains t.type
  case pos => rw [Catalog.add, if_pos h, if_pos h]
  case neg =>
    have hn : c.get? t.type = none := get?_eq_none_iff.mpr h
    have ho : (c.add t).order = c.order ++ [t.type] := by rw [Catalog.add, if_neg h]
    have he : ∀ k ∈ c.order, (c.add t).get? k = c.get? k := fun k hk => by
      have ⟨u, hu⟩ := contains_iff_get?.mp <| s.known.mp hk
      rw [get?_add, hu, Option.some_or]
    have ht : (c.add t).get? t.type = some t := by simp [get?_add, hn]
    rw [if_neg h, types, ho, List.filterMap_append, List.filterMap_congr he]
    simp [types, ht]

theorem length_ofList : (ofList types).types.length = (types.map (·.type)).dedup.length := by
  have s := ofList_inStep types
  have h : ((ofList types).types.map (·.type)).Perm (types.map (·.type)).dedup :=
    (List.perm_ext_iff_of_nodup s.types_nodup (List.nodup_dedup _)).mpr fun k => by
      rw [List.mem_dedup, s.map_types, s.known, contains_ofList]
  simpa using h.length_eq

end Listing

section Reading

theorem listed?_append_of_lt (h : i < entries.length) :
    listed? (entries ++ [entry]) i = listed? entries i := by
  rw [listed?, listed?, List.getElem?_append_left h, List.take_append_of_le_length h.le]

theorem listed?_append_length : listed? (entries ++ [entry]) entries.length =
    (readable? entry).filter fun t => !(ofList (entries.filterMap readable?)).contains t.type := by
  have h : ∀ t : NodeType, (entries.any fun e => (readable? e).any (·.type = t.type)) =
      (ofList (entries.filterMap readable?)).contains t.type := fun t => by
    rw [Bool.eq_iff_iff, contains_ofList, List.mem_map]
    simp only [List.any_eq_true, Option.any_eq_true, decide_eq_true_eq, List.mem_filterMap]
    grind
  simp [listed?, h]

-- The catalog lists the entries that are the first readable ones of their type, as they come.
theorem types_ofList : (ofList (entries.filterMap readable?)).types =
    (List.range entries.length).filterMap (listed? entries) := by
  induction entries using List.reverseRecOn with
  | nil                            => rfl
  | append_singleton entries entry ih =>
    have hl : (List.range entries.length).filterMap (listed? (entries ++ [entry])) =
        (ofList (entries.filterMap readable?)).types := by
      rw [ih]
      exact List.filterMap_congr fun i hi => listed?_append_of_lt <| List.mem_range.mp hi
    rw [List.length_append, List.length_singleton, List.range_succ, List.filterMap_append,
      List.filterMap_append, hl]
    simp only [List.filterMap_cons, List.filterMap_nil, listed?_append_length]
    cases readable? entry with
    | none   => simp
    | some t =>
      simp only [ofList_append_singleton, (ofList_inStep _).types_add]
      cases h : (ofList (entries.filterMap readable?)).contains t.type <;> simp [Option.filter, h]

end Reading

section Palette

theorem get?_groups : (groups types).get? k =
    if k ∈ types.map categoryOf then some (types.filter (categoryOf · = k)) else none := by
  induction types using List.reverseRecOn with
  | nil                           => rfl
  | append_singleton types t ih =>
    rw [groups, List.foldl_append, ← groups, List.foldl_cons, List.foldl_nil, Dict.get?_insert]
    by_cases hk : k = categoryOf t
    case neg => simp [ih, hk, Ne.symm hk]
    case pos =>
      subst hk
      have ht : ((groups types).get? (categoryOf t)).getD [] =
          types.filter (categoryOf · = categoryOf t) := by
        rw [ih]
        split
        case isTrue    => rfl
        case isFalse h => exact (List.filter_eq_nil_iff.mpr <| by simpa using h).symm
      simp [ht]

-- Lists of those that go to one place each are together the whole list.
theorem flatMap_filter_perm {α β : Type} [DecidableEq β] {f : α → β} {as : List α} {bs : List β}
    (hb : bs.Nodup) (h : ∀ a ∈ as, f a ∈ bs) :
    (bs.flatMap fun b => as.filter (f · = b)).Perm as := by
  induction bs generalizing as with
  | nil          => rw [List.eq_nil_iff_forall_not_mem.mpr fun a ha => nomatch h a ha]; rfl
  | cons b bs ih =>
    have ⟨hm, hn⟩ := List.nodup_cons.mp hb
    -- Those for the later places are all among what is left when those for the first are gone.
    have hf : ∀ b' ∈ bs, as.filter (f · = b') =
        (as.filter fun a => !decide (f a = b)).filter (f · = b') := fun b' hb' => by
      rw [List.filter_filter]
      refine List.filter_congr fun a _ => ?_
      have : b' ≠ b := fun he => hm <| he ▸ hb'
      grind
    have hl : ∀ a ∈ as.filter fun a => !decide (f a = b), f a ∈ bs := fun a ha => by
      have ⟨ha, hne⟩ := List.mem_filter.mp ha
      exact (List.mem_cons.mp <| h a ha).resolve_left <| by simpa using hne
    rw [List.flatMap_cons, List.flatMap_congr hf]
    exact ((ih hn hl).append_left _).trans <| List.filter_append_perm ..

theorem categoryOf_eq_iff {category : String} : categoryOf t = category ↔
    (t.category = some category ∧ Text.isBlankText category = false) ∨
    ((∀ c, t.category = some c → Text.isBlankText c) ∧ category = "Other") := by
  rw [categoryOf]
  cases t.category with
  | none   => simpa [uncategorized] using eq_comm
  | some c =>
    cases hb : Text.isBlankText c <;> grind [uncategorized]

theorem mem_palette {g : PaletteGroup} : g ∈ c.palette ↔ g.category ∈ c.types.map categoryOf ∧
    g.entries = c.types.filter (categoryOf · = g.category) := by
  have hp : c.palette = (groups c.types).entries.map fun e => ⟨e.1, e.2⟩ := rfl
  have hg : g ∈ c.palette ↔ (groups c.types).get? g.category = some g.entries := by
    rw [hp, Dict.get?_eq_some_iff]
    constructor
    case mp  =>
      intro h
      obtain ⟨_, he, rfl⟩ := List.mem_map.mp h
      exact he
    case mpr => exact fun h => List.mem_map.mpr ⟨_, h, rfl⟩
  rw [hg, get?_groups]
  split <;> simp_all [eq_comm]

theorem palette_categories : c.palette.map (·.category) = (groups c.types).keys := by
  rw [show c.palette = (groups c.types).entries.map fun e => ⟨e.1, e.2⟩ from rfl, List.map_map]
  rfl

theorem palette_sorts (c : Catalog) : Sorts c.palette c.types where
  increasing := palette_categories ▸ (groups c.types).ordered
  inOrder g hg := (mem_palette.mp hg).right ▸ List.filter_sublist
  nonempty g hg := by
    have ⟨hc, he⟩ := mem_palette.mp hg
    obtain ⟨t, ht, h⟩ := List.mem_map.mp hc
    rw [he]
    exact List.ne_nil_of_mem <| List.mem_filter.mpr ⟨ht, by simpa using h⟩
  complete := by
    have h : c.palette.flatMap (·.entries) =
        (c.palette.map (·.category)).flatMap fun k => c.types.filter (categoryOf · = k) := by
      rw [List.flatMap_map]
      exact List.flatMap_congr fun g hg => (mem_palette.mp hg).right
    rw [h]
    refine flatMap_filter_perm (palette_categories ▸ (groups c.types).keys_nodup) fun t ht => ?_
    let g : PaletteGroup := ⟨categoryOf t, c.types.filter (categoryOf · = categoryOf t)⟩
    exact List.mem_map.mpr ⟨g, mem_palette.mpr ⟨List.mem_map_of_mem ht, rfl⟩, rfl⟩
  own g hg t ht := by
    rw [(mem_palette.mp hg).right] at ht
    exact categoryOf_eq_iff.mp <| by simpa using (List.mem_filter.mp ht).right

-- A kind is in one group only, since groups differ in their categories.
theorem Sorts.existsUnique {groups : List PaletteGroup} (s : Sorts groups types) (ht : t ∈ types) :
    ∃! g, g ∈ groups ∧ t ∈ g.entries := by
  obtain ⟨g, hg, hm⟩ := List.mem_flatMap.mp <| s.complete.mem_iff.mpr ht
  refine ⟨g, ⟨hg, hm⟩, fun g' ⟨hg', hm'⟩ => ?_⟩
  have hc := (categoryOf_eq_iff.mpr <| s.own g' hg' t hm').symm.trans <|
    categoryOf_eq_iff.mpr <| s.own g hg t hm
  exact List.inj_on_of_nodup_map s.increasing.nodup hg' hg hc

end Palette

-- Of a document the first readable entry of every type is kept, as they come; what cannot be read
-- does not matter. The palette has every kind of the catalog in one place.
theorem ofJson_keeps_first (entries : List Json) : ∃ c, ofJson (.arr entries) = .ok c ∧
    c.InStep ∧
    c.types = (List.range entries.length).filterMap (listed? entries) ∧
    (c.types.map (·.type)).Nodup ∧
    c.size = c.types.length ∧
    c.types.length = ((entries.filterMap readable?).map (·.type)).dedup.length ∧
    (∀ k, c.get? k = (entries.filterMap readable?).find? (·.type = k)) ∧
    (∀ k t, c.get? k = some t ↔ t ∈ c.types ∧ t.type = k) ∧
    ofJson (.arr <| entries.filter fun e => (readable? e).isSome) = .ok c ∧
    Sorts c.palette c.types ∧
    (∀ t ∈ c.types, ∃! g, g ∈ c.palette ∧ t ∈ g.entries) ∧
    ((c.palette.flatMap (·.entries)).map (·.type)).Nodup := by
  have hf : (entries.filter fun e => (readable? e).isSome).filterMap readable? =
      entries.filterMap readable? := by
    rw [List.filterMap_filter]
    refine List.filterMap_congr fun e _ => ?_
    cases h : readable? e <;> simp
  have s  := ofList_inStep <| entries.filterMap readable?
  have hs := palette_sorts <| ofList (entries.filterMap readable?)
  refine ⟨ofList (entries.filterMap readable?), rfl, s, types_ofList, s.types_nodup, s.size_eq,
    length_ofList, fun _ => get?_ofList, fun _ _ => s.get?_eq_some_iff,
    congrArg (Except.ok <| ofList ·) hf, hs, fun t ht => hs.existsUnique ht, ?_⟩
  exact (hs.complete.map _).nodup_iff.mpr s.types_nodup

example : (ofJson <| .arr [
      .obj [("type", .str "a"), ("name", .str "first")],
      .null,
      .obj [("type", .str "a"), ("name", .str "second")],
      .obj [("name", .str "untyped")],
      .obj [("type", .str "b"), ("category", .str " ")]]).toOption.map (fun c =>
        (c.types.map (·.name), c.palette.map fun g => (g.category, g.entries.map (·.type)))) =
    some (["first", ""], [("Other", ["a", "b"])]) := by
  decide +kernel

end NodeEditor.Catalog
