import NodeEditor.Proofs.Json.Echo
import NodeEditor.Proofs.Json.Record

namespace NodeEditor

theorem Dict.ofList_perm {α : Type} {entries : List (String × α)}
    (hn : (entries.map Prod.fst).Nodup) : (ofList entries).entries.Perm entries := by
  refine (List.perm_ext_iff_of_nodup (keys_nodup _).of_map hn.of_map).mpr fun e => ?_
  rw [← lookup_eq_some_iff hn, ← lookup_reverse hn, ← get?_ofList, get?_eq_some_iff]

namespace Json

variable {r : Json → Json} {keeps : Number → Prop} {j : Json}

theorem forall_numbers_arr_iff {js : List Json} :
    (∀ n ∈ (arr js).numbers, keeps n) ↔ ∀ j ∈ js, ∀ n ∈ j.numbers, keeps n := by
  rw [numbers, numbersItems_eq_flatMap, List.forall_mem_flatMap]

theorem forall_numbers_obj_iff {es : List (String × Json)} :
    (∀ n ∈ (obj es).numbers, keeps n) ↔ ∀ e ∈ es, ∀ n ∈ e.2.numbers, keeps n := by
  rw [numbers, numbersEntries_eq_flatMap, List.forall_mem_flatMap]

-- What keeps values as they are but for the order of the entries of objects. Where the entries are in
-- order nothing changes, as long as the numbers are among those that are kept.
structure Rearranges (r : Json → Json) (keeps : Number → Prop) : Prop where
  fixed : ∀ {j}, j.Ordered → (∀ n ∈ j.numbers, keeps n) → r j = j
  arr   : ∀ js, r (.arr js) = .arr (js.map r)
  obj   : ∀ {es}, (es.map Prod.fst).Nodup →
    ∃ es', r (.obj es) = .obj es' ∧ es'.Perm (es.map fun e => (e.1, r e.2))

theorem rearranges_id : Rearranges id fun _ => True where
  fixed _ _ := rfl
  arr js := by simp
  obj {es} _ := ⟨es, rfl, by simp⟩

section Sorted

theorem sortedItems_eq_map (js : List Json) : sortedItems js = js.map sorted := by
  induction js with
  | nil         => rfl
  | cons _ _ ih => rw [sortedItems, ih, List.map_cons]

theorem sortedEntries_eq_map (es : List (String × Json)) :
    sortedEntries es = es.map fun e => (e.1, e.2.sorted) := by
  induction es with
  | nil         => rfl
  | cons _ _ ih => rw [sortedEntries, ih, List.map_cons]

mutual

theorem sorted_of_ordered {j : Json} (h : j.Ordered) : j.sorted = j := by
  match j with
  | .null | .bool _ | .num _ | .str _ => rfl
  | .arr js => rw [sorted, sortedItems_of_ordered h]
  | .obj es =>
    rw [sorted, sortedEntries_of_ordered h.right, List.mergeSort_of_pairwise]
    exact (List.pairwise_map.mp h.left).imp fun {a b} h => decide_eq_true <|
      String.not_lt.mp fun h' => String.lt_irrefl _ <| String.lt_trans h h'

theorem sortedItems_of_ordered {js : List Json} (h : OrderedItems js) : sortedItems js = js := by
  match js with
  | []      => rfl
  | j :: js => rw [sortedItems, sorted_of_ordered h.left, sortedItems_of_ordered h.right]

theorem sortedEntries_of_ordered {es : List (String × Json)} (h : OrderedEntries es) :
    sortedEntries es = es := by
  match es with
  | []           => rfl
  | (k, j) :: es => rw [sortedEntries, sorted_of_ordered h.left, sortedEntries_of_ordered h.right]

end

theorem rearranges_sorted : Rearranges sorted fun _ => True where
  fixed h _ := sorted_of_ordered h
  arr js := by rw [sorted, sortedItems_eq_map]
  obj {es} _ := ⟨_, rfl, sortedEntries_eq_map es ▸ List.mergeSort_perm ..⟩

end Sorted

theorem rearranges_echo : Rearranges echo fun n => n.reread = some n where
  fixed := echo_of_ordered
  arr js := by rw [echo, echoItems_eq_map]
  obj {es} hn := by
    have he : echoEntries es = es.map fun e => (e.1, e.2.echo) := by
      induction es with
      | nil         => rfl
      | cons _ _ ih => rw [echoEntries, ih (List.nodup_cons.mp hn).right, List.map_cons]
    refine ⟨_, rfl, he ▸ Dict.ofList_perm ?_⟩
    rwa [he, List.map_map]

end Json

namespace RecordShape

variable {α : Type} {s : RecordShape α} {js : List Json} {a : α} {r : Json → Json}
  {keeps : Number → Prop}

theorem map_entries : (s.entries js).map (fun e => (e.1, r e.2)) = s.entries (js.map r) := by
  simp [entries, List.zip_map_right, Function.comp_def]

theorem forall_numbers_entries (hl : js.length = s.fields.length) :
    (∀ n ∈ (Json.obj (s.entries js)).numbers, keeps n) ↔ ∀ j ∈ js, ∀ n ∈ j.numbers, keeps n := by
  have hj : (s.fields.zip js).map Prod.snd = js := List.map_snd_zip hl.le
  rw [Json.forall_numbers_obj_iff, entries, List.forall_mem_map]
  conv_rhs => rw [← hj, List.forall_mem_map]

-- A record is read from its fields in any order.
theorem Orderly.read_rearranged (o : s.Orderly) (hr : Json.Rearranges r keeps)
    (hl : js.length = s.fields.length) (h : s.read (.arr (js.map r)) = .ok a) :
    s.read (r (.obj (s.entries js))) = .ok a := by
  obtain ⟨es, he, p⟩ := hr.obj (keys_entries hl ▸ o.names_nodup)
  rw [map_entries] at p
  rw [he]
  refine (o.readEntries_perm p).mpr <| (o.read_entries ?_).mpr h
  rwa [List.length_map]

end RecordShape

end NodeEditor
