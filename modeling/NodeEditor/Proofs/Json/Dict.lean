import Mathlib.Data.List.Sort
import NodeEditor.Json.Dict

namespace NodeEditor.Dict

variable {α : Type} {d e : Dict α} {k key : String} {value v : α} {entries : List (String × α)}

theorem lookup_cons_eq :
    ((key, value) :: entries).lookup k = if k = key then some value else entries.lookup k := by
  rw [List.lookup_cons]
  split <;> simp_all

theorem lookup_insertEntry :
    (insertEntry key value entries).lookup k = if k = key then some value else entries.lookup k := by
  induction entries with
  | nil => exact lookup_cons_eq
  | cons e rest ih =>
    obtain ⟨l, w⟩ := e
    simp only [insertEntry]
    split
    case isTrue => exact lookup_cons_eq
    case isFalse =>
      split
      case isTrue h  => subst h; simp only [lookup_cons_eq]; split <;> rfl
      case isFalse h =>
        simp only [lookup_cons_eq, ih]
        split
        case isTrue h'  => rw [if_neg fun he => h <| he.symm.trans h']
        case isFalse h' => rfl

-- Where every key stands once, an entry is what its key is looked up as.
theorem lookup_eq_some_iff (hn : (entries.map Prod.fst).Nodup) :
    entries.lookup k = some v ↔ (k, v) ∈ entries := by
  induction entries with
  | nil => simp
  | cons e rest ih =>
    obtain ⟨l, w⟩ := e
    rw [List.map_cons, List.nodup_cons] at hn
    rw [lookup_cons_eq, List.mem_cons]
    split
    case isTrue h =>
      subst h
      have : (k, v) ∉ rest := fun h => hn.left <| List.mem_map.mpr ⟨_, h, rfl⟩
      simp [this, eq_comm]
    case isFalse h => simp [ih hn.right, h]

theorem lookup_eq_none_of_not_mem (h : key ∉ entries.map Prod.fst) : entries.lookup key = none :=
  List.lookup_eq_none_iff.mpr fun p hp => by
    simpa using fun he : key = p.1 => h <| he ▸ List.mem_map_of_mem hp

theorem keys_nodup (d : Dict α) : (d.entries.map Prod.fst).Nodup :=
  d.ordered.nodup

theorem get?_eq_some_iff : d.get? k = some v ↔ (k, v) ∈ d.entries :=
  lookup_eq_some_iff d.keys_nodup

-- Maps that answer alike are equal.
theorem ext_get? (h : ∀ k, d.get? k = e.get? k) : d = e := by
  have hd := List.pairwise_map.mp d.ordered
  have he := List.pairwise_map.mp e.ordered
  refine Dict.ext <| List.Perm.eq_of_pairwise (fun a b _ _ hab hba => ?_) hd he ?_
  · exact absurd (String.lt_trans hab hba) (String.lt_irrefl _)
  · refine (List.perm_ext_iff_of_nodup ?_ ?_).mpr fun _ => ?_
    · exact d.keys_nodup.of_map
    · exact e.keys_nodup.of_map
    · rw [← get?_eq_some_iff, ← get?_eq_some_iff, h]

theorem get?_insert : (d.insert key value).get? k = if k = key then some value else d.get? k :=
  lookup_insertEntry

theorem get?_filterKeys {p : String → Bool} :
    (d.filterKeys p).get? k = if p k then d.get? k else none := by
  ext v
  rw [get?_eq_some_iff, filterKeys, List.mem_filter, ← get?_eq_some_iff]
  split <;> simp [*]

theorem get?_erase : (d.erase key).get? k = if k = key then none else d.get? k := by
  refine (get?_filterKeys (p := (· ≠ key))).trans ?_
  by_cases h : k = key <;> simp [h]

-- The map with what is given under a key, or with nothing there.
def assign (d : Dict α) (key : String) : Option α → Dict α
  | some value => d.insert key value
  | none       => d.erase key

theorem get?_assign {o : Option α} :
    (d.assign key o).get? k = if k = key then o else d.get? k := by
  cases o with
  | some _ => exact get?_insert
  | none   => exact get?_erase

theorem assign_eq_self {o : Option α} (h : d.get? key = o) : d.assign key o = d := by
  refine ext_get? fun k => ?_
  rw [get?_assign]
  split
  case isTrue hk => exact hk ▸ h.symm
  case isFalse   => rfl

-- Of the entries put over a map the last of a key counts.
theorem get?_insertAll : (entries.foldl (fun d e => d.insert e.1 e.2) d).get? k =
    (entries.reverse.lookup k).or (d.get? k) := by
  induction entries generalizing d with
  | nil => rfl
  | cons e rest ih =>
    rw [List.foldl_cons, ih, get?_insert, List.reverse_cons, List.lookup_append, Option.or_assoc,
      lookup_cons_eq]
    split <;> rfl

theorem entries_insertAll :
    (entries.foldl (fun d e => d.insert e.1 e.2) d).entries =
      entries.foldl (fun es e => insertEntry e.1 e.2 es) d.entries := by
  induction entries generalizing d with
  | nil         => rfl
  | cons _ _ ih => exact ih

theorem entries_ofList :
    (ofList entries).entries = entries.foldl (fun es e => insertEntry e.1 e.2 es) [] :=
  entries_insertAll

theorem get?_ofList : (ofList entries).get? k = entries.reverse.lookup k :=
  get?_insertAll.trans Option.or_none

theorem lookup_reverse (hn : (entries.map Prod.fst).Nodup) :
    entries.reverse.lookup k = entries.lookup k := by
  ext v
  rw [lookup_eq_some_iff hn, lookup_eq_some_iff, List.mem_reverse]
  rwa [List.map_reverse, List.nodup_reverse]

theorem get?_union : (d.union e).get? k = (e.get? k).or (d.get? k) := by
  rw [union, get?_insertAll, lookup_reverse e.keys_nodup]
  rfl

theorem ofList_entries (d : Dict α) : ofList d.entries = d :=
  ext_get? fun _ => get?_ofList.trans <| lookup_reverse d.keys_nodup

end NodeEditor.Dict
