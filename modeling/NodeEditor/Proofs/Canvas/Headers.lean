import Mathlib.Logic.Relation
import NodeEditor.Proofs.Canvas.Curl
import NodeEditor.Proofs.Json.Echo

namespace NodeEditor.Curl

open Json Relation

-- A text holds the value that it is the JSON of.
inductive Holds : Json → Json → Prop
  | intro {s j} : parse s = .ok j → Holds (.str s) j

-- The first value that is no text, from a value on through all the texts that hold each other.
structure Innermost (j v : Json) : Prop where
  inside : ReflTransGen Holds j v
  noText : ∀ s, v ≠ .str s

-- One of the texts inside each other is no JSON.
def Unreadable (j : Json) : Prop :=
  ∃ s e, ReflTransGen Holds j (.str s) ∧ parse s = .error e

-- The name of an item is what it has as its name, or as its key if it has no name.
inductive Names (item : Json) (name : String) : Prop
  | name : item.get? "name" = some (.str name) → Names item name
  | key  : item.get? "name" = none → item.get? "key" = some (.str name) → Names item name

def valueOf (item : Json) : String :=
  (item.get? "value").elim "" plainText

-- One header for each item with a name, in order.
inductive Itemizes : List Json → List (String × String) → Prop
  | nil : Itemizes [] []
  | named {item items name hs} : Names item name → Itemizes items hs →
    Itemizes (item :: items) ((name, valueOf item) :: hs)
  | unnamed {item items hs} : (∀ name, ¬Names item name) → Itemizes items hs →
    Itemizes (item :: items) hs

-- The headers of a value that is no text: those of its keys in increasing order, those of its
-- items, or none.
inductive Yields : Json → List (String × String) → Prop
  | entries {es} : (es.map Prod.fst).Pairwise (· < ·) →
    Yields (.obj es) (es.map fun e => (e.1, e.2.plainText))
  | items {js hs} : Itemizes js hs → Yields (.arr js) hs
  | null : Yields .null []
  | bool {b} : Yields (.bool b) []
  | num {n} : Yields (.num n) []

-- A value put into a text, that into another one, and so on.
def wrapped : Nat → Json → Json
  | 0, j     => j
  | n + 1, j => .str (wrapped n j).compact

variable {j k v item : Json} {js : List Json} {hs hs' : List (String × String)}
  {name value : String}

section Unwrapping

-- The bytes of a text, so that any text has more of them than what is none.
def bytes : Json → Nat
  | .str s => s.utf8ByteSize + 1
  | _      => 0

theorem Holds.bytes_lt (h : Holds j k) : bytes k < bytes j := by
  have ⟨h⟩ := h
  cases k with
  | str t => exact Nat.succ_lt_succ <| parse_str_utf8ByteSize h
  | _     => exact Nat.succ_pos _

theorem holds_wellFounded : WellFounded fun k j => Holds j k :=
  Subrelation.wf (r := InvImage (· < ·) bytes) Holds.bytes_lt <| InvImage.wf bytes Nat.lt_wfRel.wf

theorem Lists.unique (h : Lists j hs) (h' : Lists j hs') : hs = hs' := by
  induction h with
  | entries       => cases h'; rfl
  | items         => cases h'; rfl
  | text hp _ ih  =>
    cases h' with
    | text hp' h'     => exact ih <| Except.ok.inj (hp.symm.trans hp') ▸ h'
    | unreadable he => cases hp.symm.trans he
  | unreadable he =>
    cases h' with
    | text hp _       => cases hp.symm.trans he
    | unreadable _  => rfl
  | null          => cases h'; rfl
  | bool          => cases h'; rfl
  | num           => cases h'; rfl

-- The headers of a text are those of the value that it holds.
theorem Holds.headers_eq (h : Holds j k) : headers j = headers k := by
  have ⟨h⟩ := h
  exact (headers_lists _).unique <| .text h <| headers_lists k

theorem headers_eq_of_inside (h : ReflTransGen Holds j k) : headers j = headers k := by
  induction h with
  | refl        => rfl
  | tail _ h ih => exact ih.trans h.headers_eq

theorem Unreadable.headers_eq_nil (h : Unreadable j) : headers j = [] := by
  have ⟨_, _, hi, he⟩ := h
  rw [headers_eq_of_inside hi]
  exact (headers_lists _).unique <| .unreadable he

theorem innermost_or_unreadable (j : Json) : (∃ v, Innermost j v) ∨ Unreadable j := by
  induction j using holds_wellFounded.induction with
  | _ j ih =>
    by_cases hs : ∃ s, j = .str s
    case neg => exact .inl ⟨j, .refl, fun s h => hs ⟨s, h⟩⟩
    case pos =>
      have ⟨s, hs⟩ := hs
      subst hs
      cases hp : parse s with
      | error e => exact .inr ⟨s, e, .refl, hp⟩
      | ok k    =>
        have hk : Holds (.str s) k := ⟨hp⟩
        cases ih k hk with
        | inl h =>
          have ⟨v, hv⟩ := h
          exact .inl ⟨v, .head hk hv.inside, hv.noText⟩
        | inr h =>
          have ⟨t, e, hi, he⟩ := h
          exact .inr ⟨t, e, .head hk hi, he⟩

theorem ordered_of_inside (ho : j.Ordered) (h : ReflTransGen Holds j k) : k.Ordered := by
  cases h with
  | refl     => exact ho
  | tail _ h =>
    have ⟨h⟩ := h
    exact ordered_of_parse h

end Unwrapping

section Listing

theorem headerItem?_eq (item : Json) : headerItem? item =
    (((item.get? "name").orElse fun _ => item.get? "key").bind text?).map (·, valueOf item) := by
  have hv : valueOf item = ((item.get? "value").map plainText).getD "" := by
    rw [valueOf]
    cases item.get? "value" <;> rfl
  rw [headerItem?, hv]
  cases (item.get? "name").orElse fun _ => item.get? "key" with
  | none   => rfl
  | some j => cases j <;> rfl

theorem names_iff : Names item name ↔
    ((item.get? "name").orElse fun _ => item.get? "key") = some (.str name) := by
  constructor
  case mp  =>
    intro h
    cases h with
    | name h   => rw [h]; rfl
    | key h h' => rw [h]; exact h'
  case mpr =>
    intro h
    cases hn : item.get? "name" with
    | none   => exact .key hn <| by rwa [hn] at h
    | some j => exact .name <| by rwa [hn] at h ⊢

theorem headerItem?_eq_some_iff :
    headerItem? item = some (name, value) ↔ Names item name ∧ value = valueOf item := by
  rw [headerItem?_eq, Option.map_eq_some_iff, names_iff, ← bind_text?_eq_some_iff]
  simp [eq_comm]

theorem itemizes_filterMap (js : List Json) : Itemizes js (js.filterMap headerItem?) := by
  induction js with
  | nil          => exact .nil
  | cons item js ih =>
    cases h : headerItem? item with
    | none   =>
      rw [List.filterMap_cons_none h]
      apply Itemizes.unnamed _ ih
      intro name hn
      have := headerItem?_eq_some_iff.mpr ⟨hn, rfl⟩
      rw [h] at this
      contradiction
    | some p =>
      have ⟨hn, hv⟩ := headerItem?_eq_some_iff.mp h
      rw [List.filterMap_cons_some h, ← p.eta, hv]
      exact .named hn ih

theorem headers_yields (ho : v.Ordered) (hv : ∀ s, v ≠ .str s) : Yields v (headers v) := by
  cases v with
  | str s  => exact absurd rfl (hv s)
  | obj es => exact .entries ho.left
  | arr js => exact .items <| itemizes_filterMap js
  | null   => exact .null
  | bool _ => exact .bool
  | num _  => exact .num

end Listing

section Wrapping

-- What is read back from its own text.
structure Rereadable (j : Json) : Prop where
  ordered : j.Ordered
  shallow : j.depth ≤ maxDepth
  legible : ∀ n ∈ j.numbers, n.Legible

theorem Rereadable.holds (h : Rereadable j) : Holds (.str j.compact) j := by
  have hn (n : Number) (hn : n ∈ j.numbers) : n.reread = some n :=
    Number.legible_iff.mp <| h.legible n hn
  have hp := parse_eq_echo h.shallow fun n hm => Option.isSome_of_eq_some <| hn n hm
  rw [echo_of_ordered h.ordered hn] at hp
  exact ⟨hp⟩

theorem Rereadable.str (s : String) : Rereadable (.str s) where
  ordered := trivial
  shallow := Nat.zero_le _
  legible := nofun

theorem Rereadable.wrapped (h : Rereadable j) (n : Nat) : Rereadable (wrapped n j) := by
  cases n with
  | zero   => exact h
  | succ n => exact .str _

theorem headers_wrapped (h : Rereadable j) (n : Nat) : headers (wrapped n j) = headers j := by
  induction n with
  | zero      => rfl
  | succ n ih => exact (h.wrapped n).holds.headers_eq.trans ih

end Wrapping

-- The headers of a value are read through all the texts that hold each other.
structure Unwraps (j : Json) (hs : List (String × String)) : Prop where
  ends       : Acc (fun k j => Holds j k) j
  shorter    : ∀ {s t}, ReflTransGen Holds j (.str s) → Holds (.str s) (.str t) →
    t.utf8ByteSize < s.utf8ByteSize
  inside     : ∀ {k}, ReflTransGen Holds j k → headers k = hs
  innermost  : ∀ {v}, Innermost j v → Yields v hs
  unreadable : Unreadable j → hs = []
  complete   : (∃ v, Innermost j v) ∨ Unreadable j
  wrapped    : ∀ n, j.depth ≤ maxDepth → (∀ x ∈ j.numbers, x.Legible) →
    headers (wrapped n j) = hs

theorem headers_unwraps (j : Json) (ho : j.Ordered) : Unwraps j (headers j) where
  ends                := holds_wellFounded.apply j
  shorter _ h         := by
    have ⟨h⟩ := h
    exact parse_str_utf8ByteSize h
  inside h            := (headers_eq_of_inside h).symm
  innermost {v} h     := by
    rw [headers_eq_of_inside h.inside]
    exact headers_yields (ordered_of_inside ho h.inside) h.noText
  unreadable h        := h.headers_eq_nil
  complete            := innermost_or_unreadable j
  wrapped n hd hn     := headers_wrapped ⟨ho, hd, hn⟩ n

-- A list with a header that has a name, one that has a key and one that has a name which is none.
def notes : Json := .arr [
  .obj [("name", .str "X-Note"), ("value", .str "it's")],
  .obj [("key", .str "X-Tries"), ("value", .num (.int 3))],
  .obj [("key", .str "X-Lost"), ("name", .null)]]

theorem headers_unwraps_notes :
    notes.Ordered ∧ notes.depth ≤ maxDepth ∧ (∀ x ∈ notes.numbers, x.Legible) ∧
    headers (wrapped 3 notes) = [("X-Note", "it's"), ("X-Tries", "3")] := by
  have ho : notes.Ordered := by
    simp only [notes, Ordered, OrderedItems, OrderedEntries, and_true, List.map_cons, List.map_nil]
    decide
  have hd : notes.depth ≤ maxDepth := by decide
  have hn : ∀ x ∈ notes.numbers, x.Legible := by
    have h : notes.numbers = [.int 3] := rfl
    rw [h, List.forall_mem_singleton]
    exact Number.legible_int (by decide) (by decide)
  refine ⟨ho, hd, hn, ?_⟩
  rw [(headers_unwraps notes ho).wrapped 3 hd hn]
  decide

end NodeEditor.Curl
