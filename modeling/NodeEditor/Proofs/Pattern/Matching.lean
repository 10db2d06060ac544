import Mathlib.Data.List.Basic
import NodeEditor.Pattern.Regex

/-!
What a regular expression matches between two characters, and that the search by derivatives finds
a match wherever there is one.
-/

namespace NodeEditor.Pattern

variable {r s : Regex} {prev next : Option Char} {c : Char} {w u v text : List Char}

-- The character behind a place once a word has been passed.
def lastOr (prev : Option Char) : List Char → Option Char
  | [] => prev
  | c :: cs => lastOr (some c) cs

-- The character ahead of a place where a word stands.
def headOr : List Char → Option Char → Option Char
  | [], next => next
  | c :: _, _ => some c

@[simp] theorem lastOr_nil : lastOr prev [] = prev := rfl
@[simp] theorem lastOr_cons : lastOr prev (c :: w) = lastOr (some c) w := rfl
@[simp] theorem headOr_nil : headOr [] next = next := rfl
@[simp] theorem headOr_cons : headOr (c :: w) next = some c := rfl

theorem lastOr_eq_none_iff : lastOr prev w = none ↔ prev = none ∧ w = [] := by
  induction w generalizing prev <;> simp [*]

theorem headOr_none_eq_none_iff : headOr w none = none ↔ w = [] := by
  cases w <;> simp

-- Some number of rounds, one after another.
def Rounds (round : Option Char → List Char → Option Char → Prop) :
    Nat → Option Char → List Char → Option Char → Prop
  | 0, _, w, _ => w = []
  | n + 1, prev, w, next =>
    ∃ u v, w = u ++ v ∧ round prev u (headOr v next) ∧ Rounds round n (lastOr prev u) v next

def InBounds (least : Nat) (most : Option Nat) (n : Nat) : Prop :=
  least ≤ n ∧ ∀ m, most = some m → n ≤ m

-- Whether an expression matches a word that stands between two characters, or at an end of the text
-- where there is none.
def Regex.Matches : Regex → Option Char → List Char → Option Char → Prop
  | .empty, _, w, _ => w = []
  | .chars set, _, w, _ => ∃ c, w = [c] ∧ set.mem c.toNat
  | .look condition, prev, w, next => w = [] ∧ condition.holds prev next
  | .cat r s, prev, w, next =>
    ∃ u v, w = u ++ v ∧ r.Matches prev u (headOr v next) ∧ s.Matches (lastOr prev u) v next
  | .alt r s, prev, w, next => r.Matches prev w next ∨ s.Matches prev w next
  | .rep r least most, prev, w, next =>
    ∃ n, InBounds least most n ∧ Rounds r.Matches n prev w next

section

variable {round : Option Char → List Char → Option Char → Prop} {n k least : Nat}
variable {most : Option Nat}

theorem rounds_nil_iff : Rounds round n prev [] next ↔ n = 0 ∨ round prev [] next := by
  induction n with
  | zero      => simp [Rounds]
  | succ n ih => simpa [Rounds, ih] using Or.inr

-- The first round that takes a character comes after some that take none.
theorem rounds_cons_iff : Rounds round n prev (c :: w) next ↔
    ∃ k < n, (k + 1 < n → round prev [] (some c)) ∧ ∃ u v, w = u ++ v ∧
      round prev (c :: u) (headOr v next) ∧ Rounds round k (lastOr (some c) u) v next := by
  induction n with
  | zero      => simp [Rounds]
  | succ n ih =>
    constructor
    · rintro ⟨_ | ⟨_, u⟩, v, he, hr, hs⟩
      · obtain rfl : c :: w = v := he
        obtain ⟨k, hk, -, h⟩ := ih.mp hs
        exact ⟨k, by omega, fun _ => hr, h⟩
      · obtain ⟨rfl, rfl⟩ := List.cons.inj he
        exact ⟨n, by omega, fun h => absurd h (by omega), u, v, rfl, hr, hs⟩
    · rintro ⟨k, hk, he, u, v, rfl, hr, hs⟩
      by_cases h : k = n
      case pos =>
        subst h
        exact ⟨c :: u, v, rfl, hr, hs⟩
      case neg =>
        have he := he (by omega)
        exact ⟨[], c :: (u ++ v), rfl, he, ih.mpr ⟨k, by omega, fun _ => he, u, v, rfl, hr, hs⟩⟩

theorem inOrder_iff : inOrder least most ↔ InBounds least most least := by
  cases most <;> simp [inOrder, InBounds]

theorem InBounds.inOrder (h : InBounds least most n) : inOrder least most :=
  inOrder_iff.mpr ⟨Nat.le_refl _, fun m hm => Nat.le_trans h.left (h.right m hm)⟩

-- What is left to be done after the first round that takes a character, if rounds that take none
-- may come before it.
theorem inBounds_left_iff (least : Nat) (most : Option Nat) (k : Nat) (b : Bool) :
    (∃ n, InBounds least most n ∧ k < n ∧ (k + 1 < n → b)) ↔
      (most ≠ some 0 ∧ inOrder least most) ∧
      InBounds (if b then 0 else least - 1) (most.map (· - 1)) k := by
  constructor
  · rintro ⟨n, hb, hk, he⟩
    refine ⟨⟨?_, hb.inOrder⟩, ?_, ?_⟩
    · rintro rfl
      have := hb.right 0 rfl
      omega
    · cases b with
      | true  => exact Nat.zero_le k
      | false =>
        have := hb.left
        have : ¬k + 1 < n := fun h => absurd (he h) (by simp)
        simp only [Bool.false_eq_true, if_false]
        omega
    · intro m hm
      obtain ⟨m, rfl, rfl⟩ := Option.map_eq_some_iff.mp hm
      have := hb.right m rfl
      omega
  · rintro ⟨⟨h0, ho⟩, hl, hm⟩
    have ho := (inOrder_iff.mp ho).right
    have hk : ∀ m, most = some m → k + 1 ≤ m := by
      rintro m rfl
      have h0 : m ≠ 0 := fun h => h0 (h ▸ rfl)
      have := hm (m - 1) rfl
      omega
    cases b with
    | true  =>
      refine ⟨max least (k + 1), ⟨Nat.le_max_left .., fun m h => ?_⟩, by omega, fun _ => rfl⟩
      exact Nat.max_le.mpr ⟨ho m h, hk m h⟩
    | false =>
      simp only [Bool.false_eq_true, if_false] at hl
      exact ⟨k + 1, ⟨by omega, hk⟩, by omega, fun h => absurd h (by omega)⟩

end

namespace Regex

theorem matches_nil_iff : r.Matches prev [] next ↔ r.nullable prev next := by
  induction r generalizing prev next with
  | empty | chars | look => simp [Matches, nullable]
  | cat r s hr hs        => simp [Matches, nullable, hr, hs]
  | alt r s hr hs        => simp [Matches, nullable, hr, hs]
  | rep r least most hr  =>
    simp only [Matches, rounds_nil_iff, hr, nullable, Bool.and_eq_true, Bool.or_eq_true,
      decide_eq_true_eq]
    constructor
    · rintro ⟨n, hb, h⟩
      refine ⟨hb.inOrder, h.imp_left fun h0 => ?_⟩
      subst h0
      exact Nat.le_zero.mp hb.left
    · rintro ⟨ho, h⟩
      exact ⟨least, inOrder_iff.mp ho, h⟩

theorem matches_followedBy :
    (r.followedBy s).Matches prev w next ↔ (cat r s).Matches prev w next := by
  cases r <;> simp [followedBy, Matches]

theorem exists_mem_followedBy {ds : List Regex} :
    (∃ d ∈ ds.map (·.followedBy s), d.Matches prev w next) ↔
      ∃ u v, w = u ++ v ∧ (∃ d ∈ ds, d.Matches prev u (headOr v next)) ∧
        s.Matches (lastOr prev u) v next := by
  constructor
  · rintro ⟨_, hm, h⟩
    obtain ⟨d, hd, rfl⟩ := List.mem_map.mp hm
    obtain ⟨u, v, he, hr, hs⟩ := matches_followedBy.mp h
    exact ⟨u, v, he, ⟨d, hd, hr⟩, hs⟩
  · rintro ⟨u, v, he, ⟨d, hd, hr⟩, hs⟩
    exact ⟨_, List.mem_map_of_mem hd, matches_followedBy.mpr ⟨u, v, he, hr, hs⟩⟩

theorem exists_mem_derivatives_rep {least : Nat} {most : Option Nat} :
    (∃ d ∈ (rep r least most).derivatives prev c, d.Matches (some c) w next) ↔
      (most ≠ some 0 ∧ inOrder least most) ∧
      ∃ u v, w = u ++ v ∧ (∃ d ∈ r.derivatives prev c, d.Matches (some c) u (headOr v next)) ∧
        (rep r (if r.nullable prev (some c) then 0 else least - 1) (most.map (· - 1))).Matches
          (lastOr (some c) u) v next := by
  by_cases h : most ≠ some 0 ∧ inOrder least most
  case pos =>
    have hc : ¬(most = some 0 || !inOrder least most) := by simpa using h
    simp only [derivatives, if_neg hc, exists_mem_followedBy, iff_true_intro h, true_and]
  case neg =>
    have hc : (most = some 0 || !inOrder least most) := by simpa [imp_iff_not_or] using h
    simp [derivatives, hc, h]

theorem matches_cons_iff :
    r.Matches prev (c :: w) next ↔ ∃ d ∈ r.derivatives prev c, d.Matches (some c) w next := by
  induction r generalizing prev w next with
  | empty | look => simp [Matches, derivatives]
  | chars set =>
    by_cases h : set.mem c.toNat <;> simp [Matches, derivatives, h]
  | alt r s hr hs =>
    simp [Matches, derivatives, hr, hs, or_and_right, exists_or]
  | cat r s hr hs =>
    simp only [derivatives, List.mem_append, or_and_right, exists_or, exists_mem_followedBy, ← hr]
    constructor
    · rintro ⟨_ | ⟨_, u⟩, v, he, hu, hv⟩
      · obtain rfl : c :: w = v := he
        have hu : r.nullable prev (some c) := matches_nil_iff.mp hu
        rw [if_pos hu]
        exact .inr (hs.mp hv)
      · obtain ⟨rfl, rfl⟩ := List.cons.inj he
        exact .inl ⟨u, v, rfl, hu, hv⟩
    · rintro (⟨u, v, rfl, hu, hv⟩ | ⟨d, hd, hw⟩)
      · exact ⟨c :: u, v, rfl, hu, hv⟩
      · split at hd
        case isTrue hn => exact ⟨[], c :: w, rfl, matches_nil_iff.mpr hn, hs.mpr ⟨d, hd, hw⟩⟩
        case isFalse   => cases hd
  | rep r least most hr =>
    have hl (k : Nat) := inBounds_left_iff least most k (r.nullable prev (some c))
    simp only [exists_mem_derivatives_rep, ← hr, Matches, rounds_cons_iff, matches_nil_iff]
    constructor
    · rintro ⟨n, hb, k, hk, hn, u, v, rfl, hu, hv⟩
      have ⟨ho, hb⟩ := (hl k).mp ⟨n, hb, hk, hn⟩
      exact ⟨ho, u, v, rfl, hu, k, hb, hv⟩
    · rintro ⟨ho, u, v, rfl, hu, k, hb, hv⟩
      have ⟨n, hb, hk, hn⟩ := (hl k).mpr ⟨ho, hb⟩
      exact ⟨n, hb, k, hk, hn, u, v, rfl, hu, hv⟩

-- Whether an expression matches from here on, however far.
def Starts (r : Regex) (prev : Option Char) (text : List Char) : Prop :=
  ∃ w rest, text = w ++ rest ∧ r.Matches prev w (headOr rest none)

theorem starts_nil_iff : r.Starts prev [] ↔ r.nullable prev none := by
  simp [Starts, matches_nil_iff]

theorem starts_cons_iff : r.Starts prev (c :: text) ↔
    r.nullable prev (some c) ∨ ∃ d ∈ r.derivatives prev c, d.Starts (some c) text := by
  constructor
  · rintro ⟨_ | ⟨_, w⟩, rest, he, h⟩
    · obtain rfl : c :: text = rest := he
      exact .inl <| matches_nil_iff.mp h
    · obtain ⟨rfl, rfl⟩ := List.cons.inj he
      obtain ⟨d, hd, h⟩ := matches_cons_iff.mp h
      exact .inr ⟨d, hd, w, rest, rfl, h⟩
  · rintro (h | ⟨d, hd, w, rest, rfl, h⟩)
    · exact ⟨[], c :: text, rfl, matches_nil_iff.mpr h⟩
    · exact ⟨c :: w, rest, rfl, matches_cons_iff.mpr ⟨d, hd, h⟩⟩

-- Whether an expression matches from some place on.
def Occurs (r : Regex) (prev : Option Char) (text : List Char) : Prop :=
  ∃ before rest, text = before ++ rest ∧ r.Starts (lastOr prev before) rest

theorem occurs_nil_iff : r.Occurs prev [] ↔ r.Starts prev [] := by
  simp [Occurs]

theorem occurs_cons_iff :
    r.Occurs prev (c :: text) ↔ r.Starts prev (c :: text) ∨ r.Occurs (some c) text := by
  constructor
  · rintro ⟨_ | ⟨_, before⟩, rest, he, h⟩
    · obtain rfl : c :: text = rest := he
      exact .inl h
    · obtain ⟨rfl, rfl⟩ := List.cons.inj he
      exact .inr ⟨before, rest, rfl, h⟩
  · rintro (h | ⟨before, rest, rfl, h⟩)
    · exact ⟨[], c :: text, rfl, h⟩
    · exact ⟨c :: before, rest, rfl, h⟩

theorem searchFrom_iff {begun : List Regex} :
    searchFrom r begun prev text ↔ (∃ d ∈ begun, d.Starts prev text) ∨ r.Occurs prev text := by
  induction text generalizing begun prev with
  | nil         => simp [searchFrom, occurs_nil_iff, starts_nil_iff, or_comm]
  | cons c cs ih =>
    have hs : (∃ d ∈ r :: begun, d.Starts prev (c :: cs)) ↔
        (r :: begun).any (nullable prev (some c)) ∨
        ∃ d ∈ ((r :: begun).flatMap (derivatives prev c)).eraseDups, d.Starts (some c) cs := by
      simp only [starts_cons_iff, and_or_left, exists_or, List.any_eq_true, List.mem_eraseDups,
        List.mem_flatMap]
      refine or_congr_right ⟨?_, ?_⟩
      · rintro ⟨d, hd, e, he, h⟩
        exact ⟨e, ⟨d, hd, he⟩, h⟩
      · rintro ⟨e, ⟨d, hd, he⟩, h⟩
        exact ⟨d, hd, e, he, h⟩
    rw [searchFrom, Bool.or_eq_true, ih, ← or_assoc, ← hs, occurs_cons_iff]
    simp [or_assoc, or_left_comm]

-- The search finds a match wherever in the text there is one.
theorem matchesSome_iff : r.matchesSome text ↔ ∃ before w rest, text = before ++ (w ++ rest) ∧
    r.Matches (lastOr none before) w (headOr rest none) := by
  simp only [matchesSome, searchFrom_iff, List.not_mem_nil, false_and, exists_false, false_or]
  constructor
  · rintro ⟨before, _, rfl, w, rest, rfl, h⟩
    exact ⟨before, w, rest, rfl, h⟩
  · rintro ⟨before, w, rest, rfl, h⟩
    exact ⟨before, _, rfl, w, rest, rfl, h⟩

-- Between the two ends of the text there is only the whole of it.
theorem matchesSome_whole_iff :
    (cat (look .textStart) (cat r (look .textEnd))).matchesSome text ↔
      r.Matches none text none := by
  simp only [matchesSome_iff, Matches, Assertion.holds, decide_eq_true_eq]
  constructor
  · rintro ⟨before, _, rest, rfl, _, _, rfl, ⟨rfl, hs⟩, w, _, rfl, h, rfl, he⟩
    obtain rfl := (lastOr_eq_none_iff.mp hs).right
    obtain rfl := headOr_none_eq_none_iff.mp he
    simpa using h
  · intro h
    exact ⟨[], text, [], by simp, [], text, rfl, ⟨rfl, rfl⟩, text, [], by simp, h, rfl, rfl⟩

end Regex

end NodeEditor.Pattern
