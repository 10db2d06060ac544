import Mathlib.Data.List.Pairwise
import Mathlib.Data.List.Perm.Basic
import NodeEditor.Json.Shape
import NodeEditor.Proofs.Json.Ordered

namespace NodeEditor

section

variable {ε α β : Type} {step : α → β → Except ε α} {a b : α} {xs ys : List β}

-- Two steps of which either may be taken first, where both succeed.
def Exchange (step : α → β → Except ε α) (x y : β) : Prop :=
  ∀ a b, (step a x >>= (step · y)) = .ok b ↔ (step a y >>= (step · x)) = .ok b

theorem Exchange.symm {x y : β} (h : Exchange step x y) : Exchange step y x :=
  fun a b => (h a b).symm

theorem foldlM_perm (p : xs.Perm ys) (h : xs.Pairwise (Exchange step)) :
    xs.foldlM step a = .ok b ↔ ys.foldlM step a = .ok b := by
  induction p generalizing a with
  | nil               => rfl
  | cons x _ ih       =>
    simp only [List.foldlM_cons, bind_ok_iff, ih (List.pairwise_cons.mp h).right]
  | swap x y l        =>
    have hx : Exchange step y x := (List.pairwise_cons.mp h).left x List.mem_cons_self
    have hl (x y : β) : (x :: y :: l).foldlM step a =
        (step a x >>= (step · y)) >>= fun c => l.foldlM step c := by
      rw [List.foldlM_cons, bind_assoc]
      rfl
    rw [hl, hl, bind_ok_iff, bind_ok_iff]
    exact exists_congr fun c => and_congr_left' <| hx a c
  | trans p _ ih₁ ih₂ =>
    exact (ih₁ h).trans <| ih₂ <| (p.pairwise_iff fun h => h.symm).mp h

theorem foldlM_preserves {P : α → Prop} (hs : ∀ x ∈ xs, ∀ a b, P a → step a x = .ok b → P b)
    (ha : P a) (h : xs.foldlM step a = .ok b) : P b := by
  induction xs generalizing a with
  | nil          => cases h; exact ha
  | cons x xs ih =>
    obtain ⟨c, hc, h⟩ := bind_ok_iff.mp h
    have ⟨hx, hs⟩ := List.forall_mem_cons.mp hs
    exact ih hs (hx a c ha hc) h

end

-- What goes over from a value to all that it is made of.
structure Json.Hereditary (Q : Json → Prop) : Prop where
  items  : ∀ {js}, Q (.arr js) → ∀ j ∈ js, Q j
  values : ∀ {es}, Q (.obj es) → ∀ e ∈ es, Q e.2

namespace Field

variable {α β γ : Type} {f g : Field α} {P : α → Prop}

theorem answersTo_name (f : Field α) : f.answersTo f.name := by
  simp [answersTo]

-- Two fields of which either may be put in first.
def Apart (f g : Field α) : Prop :=
  ∀ j j' a b, (f.put j a >>= g.put j') = .ok b ↔ (g.put j' a >>= f.put j) = .ok b

instance : Std.Symm (Apart (α := α)) where
  symm _ _ h j j' a b := (h j' j a b).symm

theorem put_optional_ok_iff {name : String} {read : Json → Except ShapeError β}
    {set : β → α → α} {j : Json} {a b : α} :
    (optional name read set).put j a = .ok b ↔ ∃ v, read j = .ok v ∧ b = set v a := by
  simp only [optional]
  cases read j <;> simp [Except.map, eq_comm]

-- Whether a field is required and what else it is named does not matter here.

theorem apart_required_iff {name : String} {read : Json → Except ShapeError β} {set : β → α → α} :
    ((required name read set).Apart g ↔ (optional name read set).Apart g) ∧
    (g.Apart (required name read set) ↔ g.Apart (optional name read set)) :=
  ⟨.rfl, .rfl⟩

theorem apart_orNamed_iff {names : List String} :
    ((f.orNamed names).Apart g ↔ f.Apart g) ∧ (g.Apart (f.orNamed names) ↔ g.Apart f) :=
  ⟨.rfl, .rfl⟩

theorem apart_of_set {name name' : String} {read : Json → Except ShapeError β}
    {read' : Json → Except ShapeError γ} {set : β → α → α} {set' : γ → α → α}
    (h : ∀ v w a, set' w (set v a) = set v (set' w a)) :
    (optional name read set).Apart (optional name' read' set') := by
  intro j j' a b
  simp only [bind_ok_iff, put_optional_ok_iff]
  grind

-- To put in values of which `Q` holds keeps what holds of a record.
def Preserves (f : Field α) (Q : Json → Prop) (P : α → Prop) : Prop :=
  ∀ j a b, Q j → P a → f.put j a = .ok b → P b

theorem preserves_required_iff {name : String} {read : Json → Except ShapeError β}
    {set : β → α → α} {Q : Json → Prop} :
    (required name read set).Preserves Q P ↔ (optional name read set).Preserves Q P :=
  .rfl

theorem preserves_orNamed_iff {names : List String} {Q : Json → Prop} :
    (f.orNamed names).Preserves Q P ↔ f.Preserves Q P :=
  .rfl

theorem preserves_of_set {name : String} {read : Json → Except ShapeError β} {set : β → α → α}
    {Q : Json → Prop} (h : ∀ j v a, Q j → read j = .ok v → P a → P (set v a)) :
    (optional name read set).Preserves Q P := fun j a b hq hp hb => by
  obtain ⟨v, hv, rfl⟩ := put_optional_ok_iff.mp hb
  exact h j v a hq hv hp

end Field

namespace RecordShape

variable {α : Type} {s : RecordShape α} {fields : List (Field α)} {es es' : List (String × Json)}
  {js : List Json} {seen seen' : List String} {a b : α}

-- The fields that entries are for, with what is to be put in.
def hits (fields : List (Field α)) (es : List (String × Json)) : List (Field α × Json) :=
  es.filterMap fun e => (fields.find? (·.answersTo e.1)).map (·, e.2)

def putHit (a : α) (h : Field α × Json) : Except ShapeError α :=
  h.1.put h.2 a

theorem visit_ok_iff : visit fields es seen a = .ok (seen', b) ↔
    (hits fields es).foldlM putHit a = .ok b ∧
    ((hits fields es).map (·.1.name)).Nodup ∧ (∀ h ∈ hits fields es, h.1.name ∉ seen) ∧
    seen' = ((hits fields es).map (·.1.name)).reverse ++ seen := by
  induction es generalizing seen a with
  | nil            => simp [visit, hits, pure, Except.pure, eq_comm, and_comm]
  | cons e rest ih =>
    obtain ⟨key, j⟩ := e
    rw [visit]
    cases hf : fields.find? (·.answersTo key) with
    | none   =>
      simp only [ih]
      simp [hits, hf]
    | some f =>
      have hh : hits fields ((key, j) :: rest) = (f, j) :: hits fields rest := by simp [hits, hf]
      simp only [hh]
      by_cases hs : f.name ∈ seen
      case pos => simp [hs]
      case neg =>
        simp only [hs, List.contains_eq_mem, decide_false, Bool.false_eq_true, if_false, bind_ok_iff,
          ih, List.foldlM_cons, putHit]
        grind

theorem readEntries_ok_iff : s.readEntries es = .ok a ↔
    (hits s.fields es).foldlM putHit s.blank = .ok a ∧
    ((hits s.fields es).map (·.1.name)).Nodup ∧
    ∀ f ∈ s.fields, f.isRequired → f.name ∈ (hits s.fields es).map (·.1.name) := by
  rw [readEntries]
  constructor
  case mp =>
    intro h
    obtain ⟨⟨seen, b⟩, hv, h⟩ := bind_ok_iff.mp h
    obtain ⟨hp, hn, -, rfl⟩ := visit_ok_iff.mp hv
    dsimp only at h
    split at h
    case h_1    => cases h
    case h_2 hm =>
      cases h
      refine ⟨hp, hn, fun f hf hr => ?_⟩
      simpa [hr] using List.find?_eq_none.mp hm f hf
  case mpr =>
    intro ⟨hp, hn, hr⟩
    refine bind_ok_iff.mpr ⟨_, visit_ok_iff.mpr ⟨hp, hn, by simp, rfl⟩, ?_⟩
    dsimp only
    rw [List.find?_eq_none.mpr fun f hf => ?_]
    have := hr f hf
    simp_all

-- A shape whose fields can be told apart, and put in in any order.
structure Orderly (s : RecordShape α) : Prop where
  names : s.fields.Pairwise fun f g => f.answersTo g.name = false
  apart : s.fields.Pairwise Field.Apart

namespace Orderly

theorem find?_name (o : s.Orderly) {f : Field α} (hf : f ∈ s.fields) :
    s.fields.find? (·.answersTo f.name) = some f := by
  have h := o.names
  generalize s.fields = fields at hf h
  induction fields with
  | nil          => cases hf
  | cons g fs ih =>
    have ⟨hg, hs⟩ := List.pairwise_cons.mp h
    cases hf with
    | head      => simp [Field.answersTo_name]
    | tail _ hf => simp [hg f hf, ih hf hs]

theorem names_nodup (o : s.Orderly) : (s.fields.map (·.name)).Nodup :=
  List.pairwise_map.mpr <| o.names.imp fun {f g} h he => by
    rw [← he, f.answersTo_name] at h
    cases h

theorem pairwise_hits (o : s.Orderly) (h : ((hits s.fields es).map (·.1.name)).Nodup) :
    (hits s.fields es).Pairwise (Exchange putHit) := by
  refine (List.pairwise_map.mp h).imp_of_mem fun {x y} hx hy hne => ?_
  have hm : ∀ h ∈ hits s.fields es, h.1 ∈ s.fields := fun h hh => by
    obtain ⟨e, -, he⟩ := List.mem_filterMap.mp hh
    obtain ⟨f, hf, rfl⟩ := Option.map_eq_some_iff.mp he
    exact List.mem_of_find?_eq_some hf
  have ha := o.apart.forall (hm x hx) (hm y hy) fun he => hne <| he ▸ rfl
  exact fun a b => ha x.2 y.2 a b

-- The order of its entries does not matter to what a record is read as.
theorem readEntries_perm (o : s.Orderly) (p : es.Perm es') :
    s.readEntries es = .ok a ↔ s.readEntries es' = .ok a := by
  have hp : (hits s.fields es).Perm (hits s.fields es') := p.filterMap _
  simp only [readEntries_ok_iff, (hp.map _).nodup_iff, (hp.map _).mem_iff]
  refine and_congr_left fun ⟨hn, _⟩ => foldlM_perm hp ?_
  exact o.pairwise_hits <| (hp.map _).nodup_iff.mpr hn

end Orderly

-- A record is read as the other entries are, with what one entry holds put in last.
theorem Orderly.exists_read_iff (o : s.Orderly) {f : Field α} {key : String}
    (hf : s.fields.find? (·.answersTo key) = some f) (before after : List (String × Json)) :
    ∃ Rest : α → Prop, ∀ j a,
      s.read (.obj (before ++ (key, j) :: after)) = .ok a ↔ ∃ b, Rest b ∧ f.put j b = .ok a := by
  let es := before ++ after
  let names := (hits s.fields es).map (·.1.name) ++ [f.name]
  have hp (j : Json) : (before ++ (key, j) :: after).Perm (es ++ [(key, j)]) :=
    List.perm_middle.trans (List.perm_append_singleton _ _).symm
  have hh (j : Json) : hits s.fields (es ++ [(key, j)]) = hits s.fields es ++ [(f, j)] := by
    simp [hits, hf]
  refine ⟨fun b => (hits s.fields es).foldlM putHit s.blank = .ok b ∧ names.Nodup ∧
    ∀ g ∈ s.fields, g.isRequired → g.name ∈ names, fun j a => ?_⟩
  rw [read, o.readEntries_perm (hp j), readEntries_ok_iff, hh, List.foldlM_append, bind_ok_iff]
  simp only [List.foldlM_cons, List.foldlM_nil, putHit, bind_pure, List.map_append, List.map_cons,
    List.map_nil]
  exact ⟨fun ⟨⟨b, hb, ha⟩, hn⟩ => ⟨b, ⟨hb, hn⟩, ha⟩, fun ⟨b, ⟨hb, hn⟩, ha⟩ => ⟨⟨b, hb, ha⟩, hn⟩⟩

-- A value for each field, in the order of the fields.
def entries (s : RecordShape α) (js : List Json) : List (String × Json) :=
  (s.fields.zip js).map fun w => (w.1.name, w.2)

theorem read_arr (s : RecordShape α) (js : List Json) :
    s.read (.arr js) = fill s.arity js.length 0 s.fields js s.blank :=
  rfl

theorem fill_eq_foldlM {expected : String} {total i : Nat} (h : js.length = fields.length) :
    fill expected total i fields js a = (fields.zip js).foldlM putHit a := by
  induction fields generalizing js i a with
  | nil           => cases js <;> [rfl; cases h]
  | cons f fs ih =>
    cases js with
    | nil       => cases h
    | cons j js =>
      rw [fill, List.zip_cons_cons, List.foldlM_cons]
      exact bind_congr fun a => ih <| Nat.succ.inj h

theorem names_zip (h : js.length = s.fields.length) :
    (s.fields.zip js).map (·.1.name) = s.fields.map (·.name) :=
  List.map_map.symm.trans <| congrArg (List.map (·.name)) <| List.map_fst_zip h.ge

theorem keys_entries (h : js.length = s.fields.length) :
    (s.entries js).map Prod.fst = s.fields.map (·.name) := by
  rw [entries, List.map_map, ← names_zip h]
  rfl

namespace Orderly

theorem hits_entries (o : s.Orderly) : hits s.fields (s.entries js) = s.fields.zip js := by
  rw [hits, entries, List.filterMap_map]
  refine (List.filterMap_congr fun w hw => ?_).trans List.filterMap_some
  simp [o.find?_name (List.of_mem_zip hw).left]

-- A record is read from an object with all its fields as from an array of them.
theorem read_entries (o : s.Orderly) (h : js.length = s.fields.length) :
    s.read (.obj (s.entries js)) = .ok a ↔ s.read (.arr js) = .ok a := by
  have hn := o.names_nodup
  simp only [read, readEntries_ok_iff, o.hits_entries, names_zip h, fill_eq_foldlM h, hn, true_and,
    and_iff_left_iff_imp]
  exact fun _ f hf _ => List.mem_map_of_mem hf

end Orderly

theorem fill_preserves {P : α → Prop} {Q : Json → Prop} {expected : String} {total i : Nat}
    (hj : ∀ j ∈ js, Q j) (ha : P a) (hp : ∀ f ∈ fields, f.Preserves Q P)
    (h : fill expected total i fields js a = .ok b) : P b := by
  induction fields generalizing js i a with
  | nil          => cases js <;> cases h; exact ha
  | cons f fs ih =>
    have ⟨hf, hs⟩ := List.forall_mem_cons.mp hp
    cases js with
    | nil       =>
      rw [fill] at h
      split at h
      · cases h
      · exact ih hj ha hs h
    | cons j js =>
      have ⟨hq, hjs⟩ := List.forall_mem_cons.mp hj
      obtain ⟨c, hc, h⟩ := bind_ok_iff.mp h
      exact ih hjs (hf j a c hq ha hc) hs h

-- What holds of the record of absent fields, and goes over from a record to one with a field put in,
-- holds of all records that are read.
theorem read_preserves {P : α → Prop} {Q : Json → Prop} {j : Json} (hq : Json.Hereditary Q)
    (hj : Q j) (hb : P s.blank) (hp : ∀ f ∈ s.fields, f.Preserves Q P) (h : s.read j = .ok a) :
    P a := by
  cases j with
  | obj es =>
    refine foldlM_preserves (fun x hx a b ha hb => ?_) hb (readEntries_ok_iff.mp h).left
    obtain ⟨e, he, hx⟩ := List.mem_filterMap.mp hx
    obtain ⟨f, hf, rfl⟩ := Option.map_eq_some_iff.mp hx
    exact hp f (List.mem_of_find?_eq_some hf) e.2 a b (hq.values hj e he) ha hb
  | arr js =>
    exact fill_preserves (hq.items hj) hb hp h
  | _ => cases h

end RecordShape

end NodeEditor
