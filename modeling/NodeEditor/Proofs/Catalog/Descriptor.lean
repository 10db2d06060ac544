import NodeEditor.Catalog.NodeType
import NodeEditor.Proofs.Catalog.Property
import NodeEditor.Proofs.Json.Stored

namespace NodeEditor

open Json

variable {r : Json → Json} {keeps : Number → Prop}

theorem Side.named?_name (s : Side) : named? s.name = some s := by
  cases s <;> decide +kernel

namespace Handle

theorem shape_orderly : shape.Orderly where
  names := by decide
  apart := by
    simp only [shape, List.pairwise_cons, List.forall_mem_cons, List.not_mem_nil, false_implies,
      implies_true, List.Pairwise.nil, and_true, Field.apart_required_iff, Field.apart_orNamed_iff]
    repeat' apply And.intro
    all_goals exact Field.apart_of_set fun _ _ _ => rfl

theorem toJson_eq (h : Handle) : h.toJson = .obj (shape.entries [.str h.name, .str h.payload,
    .ofOption (fun s : Side => .str s.name) h.side, .bool h.connectable,
    .ofOption .str h.displayName]) :=
  rfl

theorem stored (h : Handle) : ∀ n ∈ h.toJson.numbers, n.Stored := by
  rw [toJson_eq, RecordShape.forall_numbers_entries rfl]
  simp only [List.forall_mem_cons]
  exact ⟨nofun, nofun, stored_ofOption fun _ _ => nofun, nofun, stored_text _, List.forall_mem_nil _⟩

theorem read_rearranged (hr : Rearranges r keeps) (h : Handle) :
    shape.read (r h.toJson) = .ok h := by
  have hs : readSide (r (.ofOption (fun s : Side => .str s.name) h.side)) = .ok h.side := by
    cases h.side with
    | none   => rw [ofOption, hr.null]; rfl
    | some s => rw [ofOption, hr.str, readSide, text?, Option.bind_some, s.named?_name]
  rw [toJson_eq]
  refine shape_orderly.read_rearranged hr rfl ?_
  simp [RecordShape.read_arr, RecordShape.fill, shape, Field.optional, Field.required, Field.orNamed,
    Shape.text, Shape.bool, hr.str, hr.bool, hs, read_text hr, bind, Except.bind, Except.map]

end Handle

namespace Capabilities

theorem shape_orderly : shape.Orderly where
  names := by decide
  apart := by
    simp only [shape, List.pairwise_cons, List.forall_mem_cons, List.not_mem_nil, false_implies,
      implies_true, List.Pairwise.nil, and_true, Field.apart_orNamed_iff]
    repeat' apply And.intro
    all_goals exact Field.apart_of_set fun _ _ _ => rfl

theorem read_rearranged (hr : Rearranges r keeps) (c : Capabilities) :
    shape.read (r c.toJson) = .ok c := by
  have he : c.toJson = .obj (shape.entries [.bool c.timer, .bool c.webhook, .bool c.scrape,
    .bool c.curl]) := rfl
  rw [he]
  refine shape_orderly.read_rearranged hr rfl ?_
  simp [RecordShape.read_arr, RecordShape.fill, shape, Field.optional, Field.orNamed, Shape.bool,
    hr.bool, bind, Except.bind, Except.map]

end Capabilities

theorem IconSource.read_rearranged (hr : Rearranges r keeps) (i : IconSource) :
    read (r i.toJson) = .ok i := by
  have ho : i.toJson.Ordered := by
    cases i <;> simp [toJson, Ordered, OrderedEntries]
  rw [hr.fixed ho <| by cases i <;> simp [toJson, numbers, numbersEntries]]
  cases i <;> rfl

theorem Gradient.read_rearranged (hr : Rearranges r keeps) (g : Gradient) :
    read (r g.toJson) = .ok g := by
  rw [hr.fixed (by simp [toJson, Ordered, OrderedItems]) (by simp [toJson, numbers, numbersItems])]
  rfl

namespace NodeType

variable {t : NodeType} {j : Json}

theorem shape_orderly : shape.Orderly where
  names := by decide
  apart := by
    simp only [shape, List.pairwise_cons, List.forall_mem_cons, List.not_mem_nil, false_implies,
      implies_true, List.Pairwise.nil, and_true, Field.apart_required_iff]
    repeat' apply And.intro
    all_goals exact Field.apart_of_set fun _ _ _ => rfl

-- What holds of a kind that has been read: its properties are sound, but for stand-ins.
def Sound (t : NodeType) : Prop :=
  ∀ p ∈ t.properties, p.schemaError = none → p.Sound

theorem toJson_eq (t : NodeType) : t.toJson = .obj (shape.entries [.str t.type, .str t.name,
    .ofOption .str t.displayName, .ofOption .str t.description, .ofOption .str t.category,
    .ofOption IconSource.toJson t.icon, .ofOption Gradient.toJson t.colors,
    .arr (t.inputs.map Handle.toJson), .arr (t.outputs.map Handle.toJson),
    .arr (t.properties.map Property.toJson), t.capabilities.toJson]) :=
  rfl

theorem stored (h : ∀ p ∈ t.properties, p.Sound) : ∀ n ∈ t.toJson.numbers, n.Stored := by
  rw [toJson_eq, RecordShape.forall_numbers_entries rfl]
  simp only [List.forall_mem_cons]
  exact ⟨nofun, nofun, stored_text _, stored_text _, stored_text _,
    stored_ofOption fun i _ => by cases i <;> exact nofun, stored_ofOption fun _ _ => nofun,
    stored_list fun x _ => x.stored, stored_list fun x _ => x.stored,
    stored_list fun p hp => p.stored (h p hp), nofun, List.forall_mem_nil _⟩

theorem read_rearranged (hr : Rearranges r keeps) (h : ∀ p ∈ t.properties, p.Sound)
    (hk : ∀ n ∈ t.toJson.numbers, keeps n) : shape.read (r t.toJson) = .ok t := by
  rw [toJson_eq] at hk ⊢
  have hk := (RecordShape.forall_numbers_entries rfl).mp hk
  simp only [List.forall_mem_cons] at hk
  obtain ⟨-, -, -, -, -, hi, hc, hin, hout, hp, -⟩ := hk
  have hi : Shape.optional IconSource.read (r (.ofOption IconSource.toJson t.icon)) = .ok t.icon :=
    read_ofOption hr nofun hi fun i _ _ => i.read_rearranged hr
  have hc : Shape.optional Gradient.read (r (.ofOption Gradient.toJson t.colors)) = .ok t.colors :=
    read_ofOption hr nofun hc fun g _ _ => g.read_rearranged hr
  have hin : Shape.list Handle.shape.read (r (.arr (t.inputs.map Handle.toJson))) = .ok t.inputs :=
    read_list hr hin fun x _ _ => x.read_rearranged hr
  have hout : Shape.list Handle.shape.read (r (.arr (t.outputs.map Handle.toJson))) =
      .ok t.outputs :=
    read_list hr hout fun x _ _ => x.read_rearranged hr
  refine shape_orderly.read_rearranged hr rfl ?_
  simp [RecordShape.read_arr, RecordShape.fill, shape, Field.optional, Field.required, Shape.text,
    hr.str, read_text hr, hi, hc, hin, hout, Property.readList_rearranged hr h hp,
    Capabilities.read_rearranged hr, bind, Except.bind, Except.map]

theorem Sound.congr {t' : NodeType} (h : t.Sound) (he : t'.properties = t.properties) : t'.Sound :=
  fun p hp => h p (he ▸ hp)

theorem sound_of_read (hj : j.Sound) (h : shape.read j = .ok t) : t.Sound := by
  refine RecordShape.read_preserves (s := shape) (P := Sound) sound_hereditary hj
    (fun p hp => absurd hp List.not_mem_nil) ?_ h
  simp only [shape, List.forall_mem_cons, Field.preserves_required_iff]
  exact ⟨
    Field.preserves_of_set fun _ _ _ _ _ h => h.congr rfl,
    Field.preserves_of_set fun _ _ _ _ _ h => h.congr rfl,
    Field.preserves_of_set fun _ _ _ _ _ h => h.congr rfl,
    Field.preserves_of_set fun _ _ _ _ _ h => h.congr rfl,
    Field.preserves_of_set fun _ _ _ _ _ h => h.congr rfl,
    Field.preserves_of_set fun _ _ _ _ _ h => h.congr rfl,
    Field.preserves_of_set fun _ _ _ _ _ h => h.congr rfl,
    Field.preserves_of_set fun _ _ _ _ _ h => h.congr rfl,
    Field.preserves_of_set fun _ _ _ _ _ h => h.congr rfl,
    Field.preserves_of_set fun _ _ _ hj hv _ => Property.sound_of_readList hj hv,
    Field.preserves_of_set fun _ _ _ _ _ h => h.congr rfl,
    List.forall_mem_nil _⟩

-- A kind that has been read, of whatever spelling, is read again from what is written for it: in
-- the order in which it is written, with its keys in order, and from its text, which is a document
-- of the same sort.
theorem read_toJson (hj : j.Sound) (h : shape.read j = .ok t)
    (hp : ∀ p ∈ t.properties, p.schemaError = none) :
    shape.read t.toJson = .ok t ∧ shape.read t.toJson.sorted = .ok t ∧
    (t.toJson.depth ≤ maxDepth →
      (∀ x : Float, .float x ∈ t.toJson.numbers → (Number.float x).Legible) →
      ∃ j', Json.parse t.toJson.compact = .ok j' ∧ j'.Sound ∧ shape.read j' = .ok t) ∧
    ∀ t', shape.read t.toJson = .ok t' ∨ shape.read t.toJson.sorted = .ok t' →
      t'.toJson = t.toJson := by
  have hs : ∀ p ∈ t.properties, p.Sound := fun p hm => sound_of_read hj h p hm <| hp p hm
  have hw : shape.read t.toJson = .ok t := read_rearranged rearranges_id hs fun _ _ => trivial
  have hk : shape.read t.toJson.sorted = .ok t :=
    read_rearranged rearranges_sorted hs fun _ _ => trivial
  refine ⟨hw, hk, fun hd hf => ?_, fun t' ht => ?_⟩
  · have hn : ∀ n ∈ t.toJson.numbers, n.reread = some n := fun n hm => by
      apply Number.legible_iff.mp
      have hs := stored hs n hm
      cases n with
      | int i   => exact Number.legible_int hs.left hs.right
      | float x => exact hf x hm
    have he : Json.parse t.toJson.compact = .ok t.toJson.echo := parse_eq_echo hd fun n hm => by
      rw [hn n hm]
      rfl
    exact ⟨_, he, sound_of_parse he, read_rearranged rearranges_echo hs hn⟩
  · rcases ht with ht | ht
    · rw [Except.ok.inj <| ht.symm.trans hw]
    · rw [Except.ok.inj <| ht.symm.trans hk]

-- A clock in an older spelling: other keys for sides and options, a side that is none, nulls and keys
-- that no field has.
def olderClock : Json := .obj [
  ("accent", .num (.int 7)),
  ("capabilities", .obj [("supportsTimerControls", .bool true)]),
  ("description", .null),
  ("icon", .obj [("path", .str "clock.svg"), ("size", .num (.int 2))]),
  ("inputs", .arr [
    .obj [("display_name", .null), ("isConnection", .bool false), ("name", .str "start"),
      ("position", .str " Left ")],
    .obj [("direction", .str "inwards"), ("name", .str "stop"), ("type", .str "main")]]),
  ("name", .str "Clock"),
  ("properties", .arr [
    .obj [("default", .num (.int 60)),
      ("displayOptions", .obj [("show", .obj [("mode", .str "every")])]),
      ("min", .num (.int 1)), ("name", .str "interval"),
      ("options", .arr [.obj [("label", .str "Hour"), ("value", .num (.int 60))]]),
      ("type", .str "number"), ("validation", .obj [("minLength", .num (.int 1))])]]),
  ("type", .str "clock")]

def clock : NodeType :=
  { plain "clock" "Clock" with
    icon := some (.asset "clock.svg")
    inputs := [
      { Handle.plain "start" "" with side := some .left, connectable := false },
      Handle.plain "stop" "main"]
    properties := [
      { Property.plain "interval" "number" with
        default := some (.num (.int 60))
        rules := some { Rules.none with minLength := some 1 }
        display := some { shown := .ofList [("mode", .str "every")] }
        options := [{ name := "Hour", value := .num (.int 60) }]
        min := some (Float.ofInt 1) }]
    capabilities := { Capabilities.none with timer := true } }

theorem olderClock_read : shape.read olderClock = .ok clock :=
  rfl

theorem olderClock_sound : olderClock.Sound where
  ordered := by
    simp only [olderClock, Ordered, OrderedEntries, OrderedItems, and_true, true_and]
    decide
  stored  := by
    have hn : olderClock.numbers = [.int 7, .int 2, .int 60, .int 1, .int 60, .int 1] := rfl
    simp [hn, Number.Stored]

theorem clock_doubles (x : Float) (hx : .float x ∈ clock.toJson.numbers) :
    (Number.float x).Legible := by
  have hn : ∀ n ∈ clock.toJson.numbers, n.reread = some n := by decide +kernel
  exact Number.legible_iff.mpr <| hn _ hx

theorem read_toJson_clock :
    olderClock.Sound ∧ shape.read olderClock = .ok clock ∧
    (∀ p ∈ clock.properties, p.schemaError = none) ∧
    shape.read clock.toJson = .ok clock ∧ shape.read clock.toJson.sorted = .ok clock ∧
    ∃ j', Json.parse clock.toJson.compact = .ok j' ∧ j'.Sound ∧ shape.read j' = .ok clock := by
  have hp : ∀ p ∈ clock.properties, p.schemaError = none := by simp [clock, Property.plain]
  obtain ⟨hw, hs, ht, -⟩ := read_toJson olderClock_sound olderClock_read hp
  exact ⟨olderClock_sound, olderClock_read, hp, hw, hs, ht (by decide +kernel) clock_doubles⟩

end NodeType

end NodeEditor
