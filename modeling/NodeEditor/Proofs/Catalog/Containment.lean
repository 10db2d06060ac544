import NodeEditor.Proofs.Catalog.Descriptor
import NodeEditor.Proofs.Text.Parts

namespace NodeEditor

section

variable {ε α β : Type} {read : α → Except ε β} {e e' : α} {g : β → β}

theorem mapM_cons_ok_iff {x : α} {xs : List α} {bs : List β} : (x :: xs).mapM read = .ok bs ↔
    ∃ b, read x = .ok b ∧ ∃ rest, xs.mapM read = .ok rest ∧ bs = b :: rest := by
  simp only [List.mapM_cons, bind_ok_iff, pure, Except.pure, Except.ok.injEq, eq_comm (b := bs)]

-- Where one item is read as another is, but for a change, so is a list with it.
theorem mapM_modify_ok_iff (h : ∀ b', read e' = .ok b' ↔ ∃ b, read e = .ok b ∧ b' = g b)
    (left right : List α) (bs' : List β) : (left ++ e' :: right).mapM read = .ok bs' ↔
    ∃ bs, (left ++ e :: right).mapM read = .ok bs ∧ bs' = bs.modify left.length g := by
  induction left generalizing bs' with
  | nil            =>
    simp only [List.nil_append, mapM_cons_ok_iff, h]
    constructor
    · rintro ⟨_, ⟨b, hb, rfl⟩, bs, hbs, rfl⟩
      exact ⟨b :: bs, ⟨b, hb, bs, hbs, rfl⟩, rfl⟩
    · rintro ⟨_, ⟨b, hb, bs, hbs, rfl⟩, rfl⟩
      exact ⟨g b, ⟨b, hb, rfl⟩, bs, hbs, rfl⟩
  | cons x left ih =>
    simp only [List.cons_append, mapM_cons_ok_iff, ih]
    constructor
    · rintro ⟨b, hb, _, ⟨bs, hbs, rfl⟩, rfl⟩
      exact ⟨b :: bs, ⟨b, hb, bs, hbs, rfl⟩, rfl⟩
    · rintro ⟨_, ⟨b, hb, bs, hbs, rfl⟩, rfl⟩
      exact ⟨b, hb, _, ⟨bs, hbs, rfl⟩, rfl⟩

end

namespace Text

variable {l w r : List Char} {c : Char}

-- What has no blanks in it is all that is left of it between blanks.
theorem trimChars_append (hl : ∀ c ∈ l, isBlank c) (hw : ∀ c ∈ w, isBlank c = false)
    (hr : ∀ c ∈ r, isBlank c) : trimChars (l ++ w ++ r) = w := by
  have hd : trimLeft (l ++ w ++ r) = if w = [] then [] else w ++ r := by
    rw [trimLeft, List.append_assoc, List.dropWhile_append_of_pos hl]
    cases w with
    | nil      => simpa using hr
    | cons c w => simp [hw c List.mem_cons_self]
  rw [trimChars, hd, dropEndWhile]
  split
  case isTrue h  => exact h.symm
  case isFalse h =>
    have hs : w.reverse.dropWhile isBlank = w.reverse := List.dropWhile_eq_self_iff.mpr <| by
      simp_all
    rw [List.reverse_append, List.dropWhile_append_of_pos (by simpa using hr), hs,
      List.reverse_reverse]

-- Blanks are no letters.
theorem toLower_of_isBlank (h : isBlank c) : c.toLower = c := by
  rw [Char.toLower]
  split
  case isFalse   => rfl
  case isTrue hc =>
    have hA : 65 ≤ c.toNat := hc.left
    have hZ : c.toNat ≤ 90 := hc.right
    simp only [isBlank, Bool.or_eq_true, Bool.and_eq_true, decide_eq_true_eq] at h
    omega

end Text

namespace Side

variable {side : Side} {s : String}

-- A text that names a side: its name in letters of any case, between blanks.
def Spelt (side : Side) (s : String) : Prop :=
  ∃ l w r, s.toList = l ++ w ++ r ∧ (∀ c ∈ l, Text.isBlank c) ∧ (∀ c ∈ r, Text.isBlank c) ∧
    w.map Char.toLower = side.name.toList

theorem named?_eq_some_iff_trim :
    named? s = some side ↔ (Text.trim s).toList.map Char.toLower = side.name.toList := by
  have hn (side : Side) : Text.sameIgnoringAsciiCase side.name (Text.trim s) ↔
      (Text.trim s).toList.map Char.toLower = side.name.toList := by
    have : side.name.toList.map Char.toLower = side.name.toList := by cases side <;> decide
    rw [Text.sameIgnoringAsciiCase, this, decide_eq_true_iff, eq_comm]
  refine ⟨fun h => (hn side).mp <| by simpa using List.find?_some h, fun h => ?_⟩
  cases side <;> simp [named?, all, Text.sameIgnoringAsciiCase, h] <;> decide

theorem named?_eq_some_iff : named? s = some side ↔ side.Spelt s := by
  rw [named?_eq_some_iff_trim, Text.trim, String.toList_ofList]
  constructor
  case mp =>
    intro h
    obtain ⟨l, r, hs, hl, hr⟩ := Text.exists_trimChars s.toList
    exact ⟨l, _, r, hs, hl, hr, h⟩
  case mpr =>
    rintro ⟨l, w, r, hs, hl, hr, hw⟩
    have hb : side.name.toList.all (!Text.isBlank ·) := by cases side <;> decide
    have hn : ∀ c ∈ w, Text.isBlank c = false := fun c hc => by
      by_contra h
      rw [Bool.not_eq_false] at h
      have hm : c ∈ side.name.toList := hw ▸ Text.toLower_of_isBlank h ▸ List.mem_map_of_mem hc
      simpa [h] using List.all_eq_true.mp hb c hm
    rw [hs, Text.trimChars_append hl hn hr, hw]

end Side

namespace Handle

variable {v : Json} {e e' : Json} {h' : Handle}

-- The side that a value names.
def sideIn (v : Json) : Option Side :=
  v.text?.bind Side.named?

theorem sideIn_eq_some_iff {side : Side} :
    sideIn v = some side ↔ ∃ s, v = .str s ∧ side.Spelt s := by
  cases v <;> simp [sideIn, Json.text?, Side.named?_eq_some_iff]

-- An entry for a handle, and the same one with another value for the side, under either of the keys
-- for it.
inductive Turned (v : Json) : Json → Json → Prop where
  | intro {key : String} (h : key ∈ ["direction", "position"]) (before after : List (String × Json))
      (u : Json) :
      Turned v (.obj (before ++ (key, u) :: after)) (.obj (before ++ (key, v) :: after))

theorem exists_read_iff_side {key : String} (hk : key ∈ ["direction", "position"])
    (before after : List (String × Json)) : ∃ Rest : Handle → Prop, ∀ v h,
      shape.read (.obj (before ++ (key, v) :: after)) = .ok h ↔
        ∃ b, Rest b ∧ h = { b with side := sideIn v } := by
  have hf : shape.fields.find? (·.answersTo key) = some ((Field.optional "direction" readSide
      fun v h => { h with side := v }).orNamed ["position"]) := by
    simp only [List.mem_cons, List.not_mem_nil, or_false] at hk
    rcases hk with rfl | rfl <;> rfl
  obtain ⟨Rest, hr⟩ := shape_orderly.exists_read_iff hf before after
  refine ⟨Rest, fun v h => (hr v h).trans ?_⟩
  exact exists_congr fun b => and_congr_right' <| by
    simp [Field.orNamed, Field.optional, readSide, sideIn, Except.map, eq_comm]

-- Whatever stands for the side, the handle is read, and the same but for its side.
theorem read_turned (ht : Turned v e e') :
    shape.read e' = .ok h' ↔ ∃ h, shape.read e = .ok h ∧ h' = { h with side := sideIn v } := by
  obtain ⟨hk, before, after, u⟩ := ht
  have ⟨_, hr⟩ := exists_read_iff_side hk before after
  simp only [hr]
  constructor
  · rintro ⟨b, hb, rfl⟩
    exact ⟨_, ⟨b, hb, rfl⟩, rfl⟩
  · rintro ⟨_, ⟨b, hb, rfl⟩, rfl⟩
    exact ⟨b, hb, rfl⟩

end Handle

namespace NodeType

open Json

variable {before after : List (String × Json)} {e e' v : Json} {t' : NodeType}

theorem exists_read_iff_properties (before after : List (String × Json)) :
    ∃ Rest : NodeType → Prop, ∀ items t,
      shape.read (.obj (before ++ ("properties", .arr items) :: after)) = .ok t ↔
        ∃ b, Rest b ∧ t = { b with properties := items.map .ofEntry } := by
  have hf : shape.fields.find? (·.answersTo "properties") =
      some (.optional "properties" Property.readList fun v t => { t with properties := v }) := rfl
  have ⟨Rest, hr⟩ := shape_orderly.exists_read_iff hf before after
  refine ⟨Rest, fun items t => (hr _ t).trans ?_⟩
  exact exists_congr fun b => and_congr_right' <| by
    simp [Field.optional, Property.readList_arr, Except.map, eq_comm]

-- A list of handles is read for each of two fields in the same way.
theorem read_handles {key : String} (get : NodeType → List Handle)
    (set : List Handle → NodeType → NodeType)
    (hf : shape.fields.find? (·.answersTo key) =
      some (.optional key (Shape.list Handle.shape.read) set))
    (hg : ∀ hs t, get (set hs t) = hs) (hs : ∀ hs hs' t, set hs (set hs' t) = set hs t)
    (ht : Handle.Turned v e e') (before after : List (String × Json)) (left right : List Json) :
    shape.read (.obj (before ++ (key, .arr (left ++ e' :: right)) :: after)) = .ok t' ↔
      ∃ t, shape.read (.obj (before ++ (key, .arr (left ++ e :: right)) :: after)) = .ok t ∧
        t' = set ((get t).modify left.length fun h => { h with side := Handle.sideIn v }) t := by
  have ⟨Rest, hr⟩ := shape_orderly.exists_read_iff hf before after
  have hm := mapM_modify_ok_iff (fun _ => Handle.read_turned ht) left right
  simp only [hr, Field.put_optional_ok_iff, Shape.list, hm]
  constructor
  · rintro ⟨b, hb, _, ⟨hs', hh, rfl⟩, rfl⟩
    exact ⟨_, ⟨b, hb, hs', hh, rfl⟩, by rw [hg, hs]⟩
  · rintro ⟨_, ⟨b, hb, hs', hh, rfl⟩, rfl⟩
    exact ⟨b, hb, _, ⟨hs', hh, rfl⟩, by rw [hg, hs]⟩

-- What the entries for properties, and the values for the sides of handles, can do to a kind of
-- node that is read from an object with them, whatever else the object holds.
structure Contained (before after : List (String × Json)) : Prop where
  property   : ∀ items i v t',
    shape.read (.obj (before ++ ("properties", .arr (items.set i v)) :: after)) = .ok t' ↔
      ∃ t, shape.read (.obj (before ++ ("properties", .arr items) :: after)) = .ok t ∧
        t' = { t with properties := t.properties.set i (.ofEntry v) }
  properties : ∀ items t,
    shape.read (.obj (before ++ ("properties", .arr items) :: after)) = .ok t →
      t.properties = items.map .ofEntry
  unreadable : ∀ entry error, Property.shape.read entry = .error error →
    let p := Property.ofEntry entry
    p.kind = .error { tag := p.tag, reason := some error.message } ∧
      (∀ s, entry.get? "name" = some (.str s) → p.name = s) ∧
      ∀ s, entry.get? "type" = some (.str s) → p.tag = s
  readable   : ∀ entry p, Property.shape.read entry = .ok p → Property.ofEntry entry = p
  input      : ∀ v e e', Handle.Turned v e e' → ∀ left right t',
    shape.read (.obj (before ++ ("inputs", .arr (left ++ e' :: right)) :: after)) = .ok t' ↔
      ∃ t, shape.read (.obj (before ++ ("inputs", .arr (left ++ e :: right)) :: after)) = .ok t ∧
        t' = { t with inputs := t.inputs.modify left.length fun h =>
          { h with side := Handle.sideIn v } }
  output     : ∀ v e e', Handle.Turned v e e' → ∀ left right t',
    shape.read (.obj (before ++ ("outputs", .arr (left ++ e' :: right)) :: after)) = .ok t' ↔
      ∃ t, shape.read (.obj (before ++ ("outputs", .arr (left ++ e :: right)) :: after)) = .ok t ∧
        t' = { t with outputs := t.outputs.modify left.length fun h =>
          { h with side := Handle.sideIn v } }
  handle     : ∀ v e e', Handle.Turned v e e' → ∀ h', Handle.shape.read e' = .ok h' ↔
    ∃ h, Handle.shape.read e = .ok h ∧ h' = { h with side := Handle.sideIn v }
  side       : ∀ v side, Handle.sideIn v = some side ↔ ∃ s, v = .str s ∧ side.Spelt s

-- A bad entry for a property damages nothing but that property, and a bad side nothing but that
-- side.
theorem damage_contained (before after : List (String × Json)) : Contained before after where
  property items i v t' := by
    have ⟨_, hr⟩ := exists_read_iff_properties before after
    simp only [hr]
    constructor
    · rintro ⟨b, hb, rfl⟩
      exact ⟨_, ⟨b, hb, rfl⟩, by rw [List.map_set]⟩
    · rintro ⟨_, ⟨b, hb, rfl⟩, rfl⟩
      exact ⟨b, hb, by rw [List.map_set]⟩
  properties items t h := by
    have ⟨_, hr⟩ := exists_read_iff_properties before after
    obtain ⟨_, _, rfl⟩ := (hr items t).mp h
    rfl
  unreadable entry error h := by
    have he : Property.ofEntry entry = .unreadable entry error.message := by
      rw [Property.ofEntry, h]
    rw [he]
    have ht (key s : String) (hs : entry.get? key = some (.str s)) :
        Property.textUnder key entry = s := by rw [Property.textUnder, hs]; rfl
    exact ⟨rfl, ht "name", ht "type"⟩
  readable entry p h := by rw [Property.ofEntry, h]
  input v e e' ht left right t' :=
    read_handles (·.inputs) (fun hs t => { t with inputs := hs }) rfl (fun _ _ => rfl)
      (fun _ _ _ => rfl) ht before after left right
  output v e e' ht left right t' :=
    read_handles (·.outputs) (fun hs t => { t with outputs := hs }) rfl (fun _ _ => rfl)
      (fun _ _ _ => rfl) ht before after left right
  handle v e e' ht h' := Handle.read_turned ht
  side v side := Handle.sideIn_eq_some_iff

end NodeType

end NodeEditor
