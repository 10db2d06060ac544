/-!
Finite maps from texts, kept as entries in strictly increasing key order. Each operation is said
through `get?`; two maps with the same entries are equal.
-/

namespace NodeEditor

variable {α β : Type}

-- Puts an entry in its place in a sorted list, over an entry of the same key.
def insertEntry (key : String) (value : α) : List (String × α) → List (String × α)
  | [] => [(key, value)]
  | (k, v) :: rest =>
    if key < k then (key, value) :: (k, v) :: rest
    else if key = k then (key, value) :: rest
    else (k, v) :: insertEntry key value rest

theorem mem_keys_insertEntry {key k : String} {value : α} {entries : List (String × α)} :
    k ∈ (insertEntry key value entries).map Prod.fst ↔ k = key ∨ k ∈ entries.map Prod.fst := by
  induction entries with
  | nil => simp [insertEntry]
  | cons e rest ih =>
    obtain ⟨l, v⟩ := e
    by_cases h : key < l
    · simp [insertEntry, h]
    · by_cases h' : key = l
      · subst h'; simp [insertEntry]
      · simp only [insertEntry, h, h', if_false, List.map_cons, List.mem_cons, ih]
        grind

theorem pairwise_insertEntry {key : String} {value : α} {entries : List (String × α)}
    (h : (entries.map Prod.fst).Pairwise (· < ·)) :
    ((insertEntry key value entries).map Prod.fst).Pairwise (· < ·) := by
  induction entries with
  | nil => simp [insertEntry]
  | cons e rest ih =>
    obtain ⟨l, v⟩ := e
    simp only [List.map_cons, List.pairwise_cons] at h
    by_cases h₁ : key < l
    · simp only [insertEntry, h₁, if_true, List.map_cons, List.pairwise_cons, List.mem_cons]
      refine ⟨fun a ha => ?_, h⟩
      rcases ha with rfl | ha
      · exact h₁
      · exact String.lt_trans h₁ (h.1 a ha)
    · by_cases h₂ : key = l
      · subst h₂
        simpa [insertEntry, h₁] using h
      · simp only [insertEntry, h₁, h₂, if_false, List.map_cons, List.pairwise_cons]
        refine ⟨fun a ha => ?_, ih h.2⟩
        rcases mem_keys_insertEntry.1 ha with rfl | ha
        · exact Decidable.byContradiction fun h₃ =>
            h₂ (String.le_antisymm (String.not_lt.1 h₃) (String.not_lt.1 h₁))
        · exact h.1 a ha

structure Dict (α : Type) where
  entries : List (String × α)
  ordered : (entries.map Prod.fst).Pairwise (· < ·)

namespace Dict

@[ext] theorem ext {d e : Dict α} (h : d.entries = e.entries) : d = e := by
  cases d; cases e; simp_all

def empty : Dict α := ⟨[], by simp⟩

instance : Inhabited (Dict α) := ⟨empty⟩
instance : EmptyCollection (Dict α) := ⟨empty⟩

instance [BEq α] : BEq (Dict α) := ⟨fun d e => d.entries == e.entries⟩

def get? (d : Dict α) (key : String) : Option α :=
  d.entries.lookup key

def contains (d : Dict α) (key : String) : Bool :=
  (d.get? key).isSome

-- The map with a value under a key, over an earlier one.
def insert (d : Dict α) (key : String) (value : α) : Dict α :=
  ⟨insertEntry key value d.entries, pairwise_insertEntry d.ordered⟩

def erase (d : Dict α) (key : String) : Dict α :=
  ⟨d.entries.filter (·.1 ≠ key), (d.ordered.sublist (List.filter_sublist.map _))⟩

def filterKeys (d : Dict α) (p : String → Bool) : Dict α :=
  ⟨d.entries.filter (p ·.1), (d.ordered.sublist (List.filter_sublist.map _))⟩

-- Collects entries; of two with the same key the later wins.
def ofList (entries : List (String × α)) : Dict α :=
  entries.foldl (fun d e => d.insert e.1 e.2) empty

-- The first map with the entries of the second put over its own.
def union (d e : Dict α) : Dict α :=
  e.entries.foldl (fun d e => d.insert e.1 e.2) d

def keys (d : Dict α) : List String :=
  d.entries.map Prod.fst

def size (d : Dict α) : Nat :=
  d.entries.length

def isEmpty (d : Dict α) : Bool :=
  d.entries.isEmpty

end Dict

end NodeEditor
