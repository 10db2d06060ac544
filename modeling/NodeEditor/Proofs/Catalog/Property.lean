import NodeEditor.Catalog.Property
import NodeEditor.Proofs.Json.ReadBack

namespace NodeEditor

open Json

variable {r : Json → Json} {keeps : Number → Prop}

namespace Choice

variable {c : Choice} {j : Json}

theorem shape_orderly : shape.Orderly where
  names := by decide
  apart := by
    simp only [shape, List.pairwise_cons, List.forall_mem_cons, List.not_mem_nil, false_implies,
      implies_true, List.Pairwise.nil, and_true, Field.apart_required_iff, Field.apart_orNamed_iff]
    exact Field.apart_of_set fun _ _ _ => rfl

theorem toJson_eq (c : Choice) : c.toJson = .obj (shape.entries [.str c.name, c.value]) :=
  rfl

theorem read_rearranged (hr : Rearranges r keeps) (hv : c.value.Ordered)
    (hk : ∀ n ∈ c.toJson.numbers, keeps n) : shape.read (r c.toJson) = .ok c := by
  rw [toJson_eq]
  refine shape_orderly.read_rearranged hr rfl ?_
  have hk : ∀ n ∈ c.value.numbers, keeps n := fun n hn => hk n <| by
    simpa [toJson, numbers, numbersEntries] using hn
  rw [List.map_cons, List.map_cons, hr.str, hr.fixed hv hk]
  rfl

theorem sound_of_read (hj : j.Sound) (h : shape.read j = .ok c) : c.value.Sound := by
  refine RecordShape.read_preserves (P := fun c => c.value.Sound) sound_hereditary hj ?_ ?_ h
  · exact ⟨trivial, nofun⟩
  · simp only [shape, List.forall_mem_cons, Field.preserves_required_iff,
      Field.preserves_orNamed_iff]
    exact ⟨Field.preserves_of_set fun _ _ _ _ _ h => h,
      Field.preserves_of_set fun j v a hq hv _ => Except.ok.inj hv ▸ hq, List.forall_mem_nil _⟩

theorem stored (hv : c.value.Sound) : ∀ n ∈ c.toJson.numbers, n.Stored := by
  simpa [toJson, numbers, numbersEntries] using hv.stored

end Choice

namespace Rules

variable {x : Rules} {j : Json}

-- Lengths are sizes of the machine.
structure Sound (x : Rules) : Prop where
  minLength : ∀ n, x.minLength = some n → n < 0x10000000000000000
  maxLength : ∀ n, x.maxLength = some n → n < 0x10000000000000000

theorem shape_orderly : shape.Orderly where
  names := by decide
  apart := by
    simp only [shape, List.pairwise_cons, List.forall_mem_cons, List.not_mem_nil, false_implies,
      implies_true, List.Pairwise.nil, and_true]
    refine ⟨⟨?_, ?_, ?_⟩, ⟨?_, ?_⟩, ?_⟩
    all_goals exact Field.apart_of_set fun _ _ _ => rfl

theorem toJson_eq (x : Rules) : x.toJson = .obj (shape.entries [.ofOption .str x.pattern,
    .ofOption .ofNat x.minLength, .ofOption .ofNat x.maxLength, .ofOption .str x.message]) :=
  rfl

theorem stored (h : x.Sound) : ∀ n ∈ x.toJson.numbers, n.Stored := by
  rw [toJson_eq, RecordShape.forall_numbers_entries rfl]
  simp only [List.forall_mem_cons]
  exact ⟨stored_text _, stored_nat h.minLength le_rfl, stored_nat h.maxLength le_rfl,
    stored_text _, List.forall_mem_nil _⟩

theorem read_rearranged (hr : Rearranges r keeps) (h : x.Sound)
    (hk : ∀ n ∈ x.toJson.numbers, keeps n) : shape.read (r x.toJson) = .ok x := by
  rw [toJson_eq] at hk ⊢
  have hk := (RecordShape.forall_numbers_entries rfl).mp hk
  simp only [List.forall_mem_cons] at hk
  obtain ⟨-, hmin, hmax, -⟩ := hk
  refine shape_orderly.read_rearranged hr rfl ?_
  simp [RecordShape.read_arr, RecordShape.fill, shape, Field.optional, read_text hr, Shape.size,
    read_nat hr h.minLength hmin, read_nat hr h.maxLength hmax, bind, Except.bind, Except.map]

theorem sound_of_read (hj : j.Sound) (h : shape.read j = .ok x) : x.Sound := by
  refine RecordShape.read_preserves (s := shape) (P := Sound) sound_hereditary hj
    ⟨nofun, nofun⟩ ?_ h
  simp only [shape, List.forall_mem_cons]
  exact ⟨
    Field.preserves_of_set fun _ _ _ _ _ h => { h with },
    Field.preserves_of_set fun _ _ _ _ hv h => { h with minLength := lt_of_optional_ok hv },
    Field.preserves_of_set fun _ _ _ _ hv h => { h with maxLength := lt_of_optional_ok hv },
    Field.preserves_of_set fun _ _ _ _ _ h => { h with },
    List.forall_mem_nil _⟩

end Rules

namespace Display

variable {d : Display} {j : Json}

def Sound (d : Display) : Prop :=
  ∀ e ∈ d.shown.entries, e.2.Sound

theorem shape_orderly : shape.Orderly where
  names := List.pairwise_singleton ..
  apart := List.pairwise_singleton ..

theorem toJson_eq (d : Display) : d.toJson = .obj (shape.entries [.obj d.shown.entries]) :=
  rfl

theorem stored (h : d.Sound) : ∀ n ∈ d.toJson.numbers, n.Stored := by
  rw [toJson_eq, RecordShape.forall_numbers_entries rfl, List.forall_mem_singleton,
    forall_numbers_obj_iff]
  exact fun e he => (h e he).stored

theorem read_rearranged (hr : Rearranges r keeps) (h : d.Sound)
    (hk : ∀ n ∈ d.toJson.numbers, keeps n) : shape.read (r d.toJson) = .ok d := by
  have ho : (Json.obj d.shown.entries).Ordered :=
    ⟨d.shown.ordered, orderedEntries_iff.mpr fun e he => (h e he).ordered⟩
  have hs : r (.obj d.shown.entries) = .obj d.shown.entries := hr.fixed ho fun n hn => hk n <| by
    simpa [toJson, numbers, numbersEntries] using hn
  rw [toJson_eq]
  refine shape_orderly.read_rearranged hr rfl ?_
  simp [RecordShape.read_arr, RecordShape.fill, shape, Field.optional, hs, Shape.dict,
    Dict.ofList_entries, bind, Except.bind, Except.map]

theorem sound_of_read (hj : j.Sound) (h : shape.read j = .ok d) : d.Sound := by
  refine RecordShape.read_preserves (s := shape) (P := Sound) sound_hereditary hj
    (List.forall_mem_nil _) ?_ h
  simp only [shape, List.forall_mem_singleton]
  refine Field.preserves_of_set fun j v _ hj hv _ => ?_
  cases j with
  | obj es =>
    obtain rfl := Except.ok.inj hv
    exact fun e he => sound_hereditary.values hj e <| Dict.mem_of_mem_ofList he
  | _      => cases hv

end Display

namespace Property

variable {p : Property} {j : Json}

-- What holds of a property that has been read.
structure Sound (p : Property) : Prop where
  readable : p.schemaError = none
  default  : ∀ v, p.default = some v → v ≠ .null ∧ v.Sound
  rules    : ∀ x, p.rules = some x → x.Sound
  display  : ∀ d, p.display = some d → d.Sound
  colSpan  : ∀ n, p.colSpan = some n → n < 0x100
  options  : ∀ c ∈ p.options, c.value.Sound
  min      : ∀ f, p.min = some f → f.isFinite
  max      : ∀ f, p.max = some f → f.isFinite
  step     : ∀ f, p.step = some f → f.isFinite
  rows     : ∀ n, p.rows = some n → n < 0x10000

theorem shape_orderly : shape.Orderly where
  names := by decide
  apart := by
    simp only [shape, List.pairwise_cons, List.forall_mem_cons, List.not_mem_nil, false_implies,
      implies_true, List.Pairwise.nil, and_true, Field.apart_required_iff]
    repeat' apply And.intro
    all_goals exact Field.apart_of_set fun _ _ _ => rfl

theorem sound_of_read (hj : j.Sound) (h : shape.read j = .ok p) : p.Sound := by
  refine RecordShape.read_preserves (s := shape) (P := Sound) sound_hereditary hj ?_ ?_ h
  · exact ⟨rfl, nofun, nofun, nofun, nofun, nofun, nofun, nofun, nofun, nofun⟩
  simp only [shape, List.forall_mem_cons, Field.preserves_required_iff]
  exact ⟨
    Field.preserves_of_set fun _ _ _ _ _ h => { h with },
    Field.preserves_of_set fun _ _ _ _ _ h => { h with },
    Field.preserves_of_set fun _ _ _ _ _ h => { h with },
    Field.preserves_of_set fun j v _ hj hv h => { h with
      default := fun d hd => by
        have ⟨hn, hd⟩ := exists_of_optional_ok ((show v = some d from hd) ▸ hv)
        exact Except.ok.inj hd ▸ ⟨hn, hj⟩ },
    Field.preserves_of_set fun _ _ _ _ _ h => { h with },
    Field.preserves_of_set fun _ _ _ _ _ h => { h with },
    Field.preserves_of_set fun _ _ _ _ _ h => { h with },
    Field.preserves_of_set fun _ _ _ hj hv h => { h with
      rules := fun x hx => Rules.sound_of_read hj (exists_of_optional_ok <| hx ▸ hv).right },
    Field.preserves_of_set fun _ _ _ hj hv h => { h with
      display := fun d hd => Display.sound_of_read hj (exists_of_optional_ok <| hd ▸ hv).right },
    Field.preserves_of_set fun _ _ _ _ hv h => { h with colSpan := lt_of_optional_ok hv },
    Field.preserves_of_set fun _ _ _ hj hv h => { h with
      options := fun c hc => by
        obtain ⟨js, rfl, i, hi, hr⟩ := exists_of_list_ok hv hc
        exact Choice.sound_of_read (sound_hereditary.items hj i hi) hr },
    Field.preserves_of_set fun _ _ _ hj hv h => { h with min := isFinite_of_optional_ok hj hv },
    Field.preserves_of_set fun _ _ _ hj hv h => { h with max := isFinite_of_optional_ok hj hv },
    Field.preserves_of_set fun _ _ _ hj hv h => { h with step := isFinite_of_optional_ok hj hv },
    Field.preserves_of_set fun _ _ _ _ _ h => { h with },
    Field.preserves_of_set fun _ _ _ _ _ h => { h with },
    Field.preserves_of_set fun _ _ _ _ hv h => { h with rows := lt_of_optional_ok hv },
    List.forall_mem_nil _⟩

theorem toJson_eq (p : Property) : p.toJson = .obj (shape.entries [.str p.name,
    .ofOption .str p.displayName, .str p.tag, p.default.getD .null, .ofOption .str p.placeholder,
    .ofOption .str p.hint, .bool p.required, .ofOption Rules.toJson p.rules,
    .ofOption Display.toJson p.display, .ofOption .ofNat p.colSpan,
    .arr (p.options.map Choice.toJson), .ofOption .ofFloat p.min, .ofOption .ofFloat p.max,
    .ofOption .ofFloat p.step, .ofOption .str p.serviceType, .ofOption .str p.language,
    .ofOption .ofNat p.rows]) :=
  rfl

theorem stored (h : p.Sound) : ∀ n ∈ p.toJson.numbers, n.Stored := by
  have hd : ∀ n ∈ (p.default.getD .null).numbers, n.Stored := by
    cases hv : p.default with
    | none   => exact nofun
    | some v => exact (h.default v hv).right.stored
  rw [toJson_eq, RecordShape.forall_numbers_entries rfl]
  simp only [List.forall_mem_cons]
  exact ⟨nofun, stored_text _, nofun, hd, stored_text _, stored_text _, nofun,
    stored_ofOption fun x hx => x.stored (h.rules x hx),
    stored_ofOption fun d hd => d.stored (h.display d hd),
    stored_nat h.colSpan (by decide), stored_list fun c hc => c.stored (h.options c hc),
    stored_float h.min, stored_float h.max, stored_float h.step, stored_text _, stored_text _,
    stored_nat h.rows (by decide), List.forall_mem_nil _⟩

theorem read_rearranged (hr : Rearranges r keeps) (h : p.Sound)
    (hk : ∀ n ∈ p.toJson.numbers, keeps n) : shape.read (r p.toJson) = .ok p := by
  rw [toJson_eq] at hk ⊢
  have hk := (RecordShape.forall_numbers_entries rfl).mp hk
  simp only [List.forall_mem_cons] at hk
  obtain ⟨-, -, -, hd, -, -, -, hx, hs, hc, ho, hmin, hmax, hstep, -, -, hrows, -⟩ := hk
  have hd : Shape.optional Shape.any (r (p.default.getD .null)) = .ok p.default := by
    cases hv : p.default with
    | none   => rw [Option.getD_none, hr.null]; rfl
    | some v =>
      have ⟨hn, hv'⟩ := h.default v hv
      rw [hv, Option.getD_some] at hd
      rw [Option.getD_some, hr.fixed hv'.ordered hd, optional_of_ne hn]
      rfl
  have hx : Shape.optional Rules.shape.read (r (.ofOption Rules.toJson p.rules)) = .ok p.rules :=
    read_ofOption hr nofun hx fun x hx => x.read_rearranged hr (h.rules x hx)
  have hs : Shape.optional Display.shape.read (r (.ofOption Display.toJson p.display)) =
      .ok p.display :=
    read_ofOption hr nofun hs fun d hd => d.read_rearranged hr (h.display d hd)
  have ho : Shape.list Choice.shape.read (r (.arr (p.options.map Choice.toJson))) =
      .ok p.options :=
    read_list hr ho fun c hc => c.read_rearranged hr (h.options c hc).ordered
  refine shape_orderly.read_rearranged hr rfl ?_
  simp [RecordShape.read_arr, RecordShape.fill, shape, Field.optional, Field.required, Shape.text,
    Shape.bool, Shape.byte, Shape.short, hr.str, hr.bool, read_text hr, hd, hx, hs, ho,
    read_nat hr h.colSpan hc, read_nat hr h.rows hrows, read_float hr h.min hmin,
    read_float hr h.max hmax, read_float hr h.step hstep, plain, bind, Except.bind, Except.map]
  exact congrArg (fun e => { p with schemaError := e }) h.readable.symm

theorem readList_arr (js : List Json) : readList (.arr js) = .ok (js.map ofEntry) := by
  have hl : js.mapM Shape.any = .ok js := mapM_ok_of_forall fun _ _ => rfl
  rw [readList, Shape.list, hl]
  rfl

theorem readList_rearranged (hr : Rearranges r keeps) {ps : List Property}
    (h : ∀ p ∈ ps, p.Sound) (hk : ∀ n ∈ (Json.arr (ps.map toJson)).numbers, keeps n) :
    readList (r (.arr (ps.map toJson))) = .ok ps := by
  have hk := List.forall_mem_map.mp <| forall_numbers_arr_iff.mp hk
  have he : ∀ p ∈ ps, ofEntry (r p.toJson) = p := fun p hp => by
    rw [ofEntry, p.read_rearranged hr (h p hp) (hk p hp)]
  rw [hr.arr, List.map_map, readList_arr, List.map_map]
  exact congrArg Except.ok <| (List.map_congr_left he).trans <| List.map_id ps

theorem sound_of_readList {ps : List Property} (hj : j.Sound) (h : readList j = .ok ps) :
    ∀ p ∈ ps, p.schemaError = none → p.Sound := by
  cases j with
  | arr js =>
    rw [readList_arr] at h
    obtain rfl := Except.ok.inj h
    refine List.forall_mem_map.mpr fun e he hs => ?_
    rw [ofEntry] at hs ⊢
    cases hp : shape.read e with
    | ok p    => exact sound_of_read (sound_hereditary.items hj e he) hp
    | error _ => simp [hp, unreadable] at hs
  | _      => cases h

end Property

end NodeEditor
