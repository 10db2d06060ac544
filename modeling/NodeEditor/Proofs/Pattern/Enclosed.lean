import NodeEditor.Proofs.Pattern.Readers

/-!
What a text that is put between the two ends of a group is read as.
-/

namespace NodeEditor.Pattern

open Reader

variable {cs p rest : List Char} {g inner : Group} {r : Nested Regex} {n : Nat}

-- A pattern as the only group between the start and the end of the text.
def enclosed (p : List Char) : List Char :=
  '^' :: '(' :: '?' :: ':' :: (p ++ [')', '$'])

-- A group, and the row in which it stands with the two ends, are two levels more.
def Nested.enclosed (r : Nested Regex) : Nested Regex :=
  { value := .cat (.look .textStart) (.cat r.value (.look .textEnd)), depth := r.depth + 2 }

namespace Reader

theorem next_eq_some_iff {c : Char} : next cs = some (c, rest) ↔ cs = c :: rest := by
  cases cs <;> simp [next]

theorem guard_eq_some_iff {q : Prop} [Decidable q] {u : Unit} :
    (guard q : Reader Unit) cs = some (u, rest) ↔ q ∧ cs = rest := by
  by_cases h : q
  case pos =>
    have hg : (guard q : Reader Unit) = pure () := if_pos h
    change (guard q : Reader Unit) cs = some ((), rest) ↔ _
    rw [hg]
    change some ((), cs) = some ((), rest) ↔ _
    simp [h]
  case neg =>
    have hg : (guard q : Reader Unit) = failure := if_neg h
    rw [hg]
    change none = some (u, rest) ↔ _
    simp [h]

end Reader

namespace Group

-- The start of the text is read, and then a group.
def around (inner : Group) : Group :=
  (blank.push (some (.flat (.look .textStart)))).leave inner

theorem read_of_piece {piece : Piece} (h : g.flags.readPiece cs = some (piece, rest)) :
    Group.read (n + 1) g cs = g.after (Group.read n) (·.readSet n) piece rest := by
  simp [Group.read, bind, StateT.bind, h]

theorem read_enclosed : Group.read (n + 2) blank (enclosed p) = some (g, rest) ↔
    ∃ inner after, Group.read n blank (p ++ [')', '$']) = some (inner, ')' :: after) ∧
      Group.read n (around inner) after = some (g, rest) := by
  have hc : blank.flags.readPiece (enclosed p) = some (.item (.flat (.look .textStart)), _) := rfl
  have ho : (blank.push (some (.flat (.look .textStart)))).flags.readPiece
      ('(' :: '?' :: ':' :: (p ++ [')', '$'])) =
      some (.group .standard none, p ++ [')', '$']) := rfl
  rw [read_of_piece hc]
  change Group.read (n + 1) (blank.push _) _ = _ ↔ _
  rw [read_of_piece ho]
  change (do
    let inner ← Group.read n blank
    guard ((← next) = ')')
    Group.read n (around inner) : Reader Group) _ = _ ↔ _
  constructor
  · intro h
    obtain ⟨inner, _, hi, h⟩ := bind_eq_some_iff.mp h
    obtain ⟨c, after, hn, h⟩ := bind_eq_some_iff.mp h
    obtain ⟨_, _, hc, hg⟩ := bind_eq_some_iff.mp h
    obtain rfl := next_eq_some_iff.mp hn
    obtain ⟨rfl, rfl⟩ := guard_eq_some_iff.mp hc
    exact ⟨inner, _, hi, hg⟩
  · rintro ⟨inner, after, hi, hg⟩
    have hc : (guard (')' = ')') : Reader Unit) after = some ((), after) :=
      guard_eq_some_iff.mpr ⟨rfl, rfl⟩
    exact bind_eq_some_iff.mpr ⟨inner, _, hi, bind_eq_some_iff.mpr ⟨')', after, rfl,
      bind_eq_some_iff.mpr ⟨(), after, hc, hg⟩⟩⟩

theorem read_end (hf : g.flags = .standard) : Group.read (n + 2) g ['$'] =
    some (g.push (some (.flat (.look .textEnd))), []) := by
  have hd : g.flags.readPiece ['$'] = some (.item (.flat (.look .textEnd)), []) := hf ▸ rfl
  have he : (g.push (some (.flat (.look .textEnd)))).flags.readPiece [] = some (.stop, []) :=
    show g.flags.readPiece [] = _ from hf ▸ rfl
  rw [read_of_piece hd]
  exact read_of_piece he

end Group

theorem read?_eq_some_iff (hn : cs.length < n) :
    read? cs = some r ↔ ∃ g, Group.read n .blank cs = some (g, []) ∧ g.regex = r := by
  have hr : Group.read n .blank cs = Group.read (cs.length + 1) .blank cs :=
    (Group.settled_read .blank).eq hn
  rw [read?, hr]
  split <;> simp_all

theorem read?_enclosed_iff : read? (enclosed p) = some r ↔ ∃ inner after g,
    Group.read (p.length + 5) .blank (p ++ [')', '$']) = some (inner, ')' :: after) ∧
      Group.read (p.length + 5) (.around inner) after = some (g, []) ∧ g.regex = r := by
  rw [read?_eq_some_iff (n := p.length + 5 + 2) (by simp [enclosed])]
  simp only [Group.read_enclosed]
  constructor
  · rintro ⟨g, ⟨inner, after, hi, hg⟩, hr⟩
    exact ⟨inner, after, g, hi, hg, hr⟩
  · rintro ⟨inner, after, g, hi, hg, hr⟩
    exact ⟨g, ⟨inner, after, hi, hg⟩, hr⟩

-- The parenthesis after a pattern is taken by nothing in it, but by a comment at its end.
theorem exists_read_of_read? (hr : read? p = some r) : ∃ g : Group, g.regex = r ∧
    ((read? (p ++ [')']) = none ∧
        Group.read (p.length + 5) .blank (p ++ [')', '$']) = some (g, [')', '$'])) ∨
      (read? (p ++ [')']) = some r ∧
        Group.read (p.length + 5) .blank (p ++ [')', '$']) = some (g, []))) := by
  obtain ⟨g, hg, hr⟩ := (read?_eq_some_iff (n := p.length + 5) (by omega)).mp hr
  have hp (r : Nested Regex) : read? (p ++ [')']) = some r ↔
      ∃ g, Group.read (p.length + 5) .blank (p ++ [')']) = some (g, []) ∧ g.regex = r :=
    read?_eq_some_iff (by simp)
  refine ⟨g, hr, ?_⟩
  rcases (Group.local_read _ _).onward hg with h | ⟨-, -, h⟩
  · refine .inl ⟨Option.eq_none_iff_forall_ne_some.mpr fun r hr => ?_, h ['$']⟩
    obtain ⟨g', hg', -⟩ := (hp r).mp hr
    cases hg'.symm.trans (h [])
  · exact .inr ⟨(hp r).mpr ⟨g, h [] (by simp), hr⟩, h ['$'] (by simp)⟩

-- A pattern that does not end in a comment is read as it is by itself.
theorem read?_enclosed (hr : read? p = some r) (hp : read? (p ++ [')']) = none) :
    read? (enclosed p) = some r.enclosed := by
  obtain ⟨g, rfl, ⟨-, h⟩ | ⟨hs, -⟩⟩ := exists_read_of_read? hr
  · exact read?_enclosed_iff.mpr ⟨g, ['$'], _, h, Group.read_end rfl, rfl⟩
  · cases hp.symm.trans hs

-- A comment at the end of a pattern takes the parenthesis with it, and the group is never closed.
theorem read?_enclosed_comment (hr : read? p = some r) (hp : read? (p ++ [')']) ≠ none) :
    read? (enclosed p) = none := by
  obtain ⟨g, -, ⟨hn, -⟩ | ⟨-, h⟩⟩ := exists_read_of_read? hr
  · exact absurd hn hp
  · refine Option.eq_none_iff_forall_ne_some.mpr fun r he => ?_
    obtain ⟨_, _, _, hi, -⟩ := read?_enclosed_iff.mp he
    cases hi.symm.trans h

-- What is no pattern by itself is read only where it closes the group that is put around it.
theorem exists_of_read?_enclosed (hr : read? p = none) (he : read? (enclosed p) = some r) :
    ∃ q rest, p = q ++ ')' :: rest ∧ (read? q).isSome := by
  obtain ⟨inner, after, -, hi, -⟩ := read?_enclosed_iff.mp he
  have hl := Group.local_read (p.length + 5) .blank
  rcases hl.back hi with hs | ⟨before, hb, he⟩
  · have := hs.subset List.mem_cons_self
    simp at this
  cases before with
  | nil           =>
    have := (read?_eq_some_iff (by omega)).mpr ⟨inner, hb, rfl⟩
    cases hr.symm.trans this
  | cons c before =>
    obtain ⟨rfl, -⟩ := List.cons.inj he
    obtain ⟨q, rfl⟩ := hl.suffix hb
    refine ⟨q, before, rfl, ?_⟩
    rcases hl.back hb with hs | ⟨before', hq, he⟩
    · have := hs.length_le
      simp only [List.length_cons] at this
      omega
    · obtain rfl : before' = [] := by simpa using congrArg List.length he
      rw [(read?_eq_some_iff (by rw [List.length_append]; omega)).mpr ⟨inner, hq, rfl⟩]
      rfl

-- No parenthesis in the text closes a group around it.
def ClosesNothing (p : List Char) : Prop :=
  ∀ q rest, p = q ++ ')' :: rest → read? q = none

section

variable [Capacity]

-- A pattern may be put between the two ends of a group as it is: it does not end in a comment, and
-- it is neither nested too deep nor too large with what is put around it.
structure Enclosable (p : List Char) : Prop where
  closed  : read? (p ++ [')']) = none
  shallow : ∃ r, read? p = some r ∧ r.depth + 2 ≤ maxDepth
  small   : Capacity.fits (enclosed p)

theorem parse?_eq_some_iff {s : Regex} : parse? p = some s ↔
    ∃ r, read? p = some r ∧ (r.depth ≤ maxDepth ∧ Capacity.fits p) ∧ r.value = s := by
  simp [parse?, Option.filter_eq_some_iff, and_assoc]

theorem parse?_enclosed {s : Regex} (hp : parse? p = some s) (he : Enclosable p) :
    parse? (enclosed p) = some (.cat (.look .textStart) (.cat s (.look .textEnd))) := by
  obtain ⟨r, hr, -, rfl⟩ := parse?_eq_some_iff.mp hp
  have ⟨r', hr', hd⟩ := he.shallow
  cases hr.symm.trans hr'
  exact parse?_eq_some_iff.mpr ⟨r.enclosed, read?_enclosed hr he.closed, ⟨hd, he.small⟩, rfl⟩

theorem parse?_enclosed_of_not_enclosable (hr : read? p = some r) (he : ¬Enclosable p) :
    parse? (enclosed p) = none := by
  refine Option.eq_none_iff_forall_ne_some.mpr fun s h => ?_
  obtain ⟨r', h, ⟨hd, hs⟩, -⟩ := parse?_eq_some_iff.mp h
  by_cases hc : read? (p ++ [')']) = none
  case pos =>
    cases h.symm.trans (read?_enclosed hr hc)
    exact he ⟨hc, ⟨r, hr, hd⟩, hs⟩
  case neg => cases h.symm.trans (read?_enclosed_comment hr hc)

theorem parse?_enclosed_of_closesNothing (hc : ClosesNothing p) (he : ¬Enclosable p) :
    parse? (enclosed p) = none := by
  cases hr : read? p with
  | some r => exact parse?_enclosed_of_not_enclosable hr he
  | none   =>
    refine Option.eq_none_iff_forall_ne_some.mpr fun s h => ?_
    obtain ⟨r, h, -⟩ := parse?_eq_some_iff.mp h
    obtain ⟨q, rest, hq, hs⟩ := exists_of_read?_enclosed hr h
    simp [hc q rest hq] at hs

end

end NodeEditor.Pattern
