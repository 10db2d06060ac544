import Mathlib.Logic.Function.Iterate
import Mathlib.Logic.Relation
import NodeEditor.Form.SourceText
import NodeEditor.Proofs.Text.Parts

namespace NodeEditor

open String Relation

-- A place inside a character is left for the one before it. There is none before the first.
inductive GoesBack (source : String) : Nat → Nat → Prop
  | step {place} : ¬Pos.Raw.IsValid source ⟨place + 1⟩ → GoesBack source (place + 1) place

-- The tab key, pressed so many times where the cursor is.
def pressTab (n : Nat) (source : String) (cursor : Nat) : String × Nat :=
  (fun s => insertTab s.1 s.2)^[n] (source, cursor)

variable {source before after : String} {cursor n : Nat}

theorem boundaryBefore_of_isValid (h : Pos.Raw.IsValid source ⟨n⟩) :
    boundaryBefore source n = source.pos ⟨n⟩ h := by
  cases n with
  | zero   => rfl
  | succ n => exact dif_pos h

theorem boundaryBefore_succ (h : ¬Pos.Raw.IsValid source ⟨n + 1⟩) :
    boundaryBefore source (n + 1) = boundaryBefore source n :=
  dif_neg h

theorem goesBack_boundaryBefore (source : String) (n : Nat) :
    ReflTransGen (GoesBack source) n (boundaryBefore source n).offset.byteIdx := by
  induction n with
  | zero      => exact .refl
  | succ n ih =>
    by_cases h : Pos.Raw.IsValid source ⟨n + 1⟩
    case pos => rw [boundaryBefore_of_isValid h]; exact .refl
    case neg => rw [boundaryBefore_succ h]; exact .head (.step h) ih

theorem boundaryBefore_le (source : String) (n : Nat) :
    (boundaryBefore source n).offset.byteIdx ≤ n := by
  induction n with
  | zero      => exact Nat.le_refl 0
  | succ n ih =>
    by_cases h : Pos.Raw.IsValid source ⟨n + 1⟩
    case pos => rw [boundaryBefore_of_isValid h]; exact Nat.le_refl _
    case neg => rw [boundaryBefore_succ h]; exact Nat.le_succ_of_le ih

-- No place between two characters is passed by.
theorem le_boundaryBefore (p : source.Pos) (h : p.offset.byteIdx ≤ n) :
    p ≤ boundaryBefore source n := by
  induction n with
  | zero      => exact h
  | succ n ih =>
    by_cases hv : Pos.Raw.IsValid source ⟨n + 1⟩
    case pos => rw [boundaryBefore_of_isValid hv]; exact h
    case neg =>
      rw [boundaryBefore_succ hv]
      apply ih
      apply Nat.le_of_lt_succ
      apply Nat.lt_of_le_of_ne h
      intro hp
      exact hv (hp ▸ p.isValid)

theorem insertTab_of_splits
    (h : (boundaryBefore source (min cursor source.utf8ByteSize)).Splits before after) :
    insertTab source cursor = (before ++ tabText ++ after, before.utf8ByteSize + 2) := by
  have ht : tabText.utf8ByteSize = 2 := rfl
  rw [insertTab, h.copy_sliceTo_eq, h.copy_sliceFrom_eq, h.offset_eq_rawEndPos, ht]
  rfl

-- Between two characters a tab is inserted where the cursor is.
theorem insertTab_append (before after : String) :
    insertTab (before ++ after) before.utf8ByteSize =
      (before ++ tabText ++ after, before.utf8ByteSize + 2) := by
  have hv : Pos.Raw.IsValid (before ++ after) ⟨before.utf8ByteSize⟩ :=
    Pos.Raw.isValid_rawEndPos.append_right after
  apply insertTab_of_splits
  rw [utf8ByteSize_append, Nat.min_eq_left (Nat.le_add_right _ _), boundaryBefore_of_isValid hv]
  exact Pos.splits_append_rawEndPos

-- Each time the cursor is behind what has been inserted, and that is between two characters.
theorem pressTab_append (n : Nat) (before after : String) :
    pressTab n (before ++ after) before.utf8ByteSize =
      (before ++ Text.times (2 * n) ' ' ++ after, before.utf8ByteSize + 2 * n) := by
  induction n with
  | zero      => simp [pressTab, Text.times]
  | succ n ih =>
    have hs : (before ++ Text.times (2 * n) ' ').utf8ByteSize = before.utf8ByteSize + 2 * n := by
      have hc : ' '.utf8Size = 1 := rfl
      rw [utf8ByteSize_append, Text.utf8ByteSize_times, hc, Nat.mul_one]
    have ht : before ++ Text.times (2 * n) ' ' ++ tabText =
        before ++ Text.times (2 * (n + 1)) ' ' := by
      rw [Nat.mul_succ, Text.times_add, append_assoc]
      rfl
    have hp := Function.iterate_succ_apply' (fun s => insertTab s.1 s.2) n
      (before ++ after, before.utf8ByteSize)
    rw [← pressTab, ← pressTab, ih, ← hs] at hp
    rw [hp, insertTab_append, ht, hs, Nat.mul_succ, Nat.add_assoc]

section Splitting

-- The text parted where a tab goes.
variable (hs : (boundaryBefore source (min cursor source.utf8ByteSize)).Splits before after)

include hs

theorem offset_of_splits :
    (boundaryBefore source (min cursor source.utf8ByteSize)).offset.byteIdx =
      before.utf8ByteSize := by
  rw [hs.offset_eq_rawEndPos]
  rfl

-- Nothing that the text begins with, and that ends at the cursor or before it, is longer than what
-- is before the tab.
theorem begins_of_splits {p q : String} (h : source = p ++ q) (hp : p.utf8ByteSize ≤ cursor) :
    ∃ r, before = p ++ r := by
  have hq := Pos.splits_ofEqAppend h
  have hn : (Pos.ofEqAppend h).offset.byteIdx ≤ min cursor source.utf8ByteSize := by
    rw [hq.offset_eq_rawEndPos]
    apply Nat.le_min_of_le_of_le hp
    rw [h, utf8ByteSize_append]
    exact Nat.le_add_right _ _
  have ⟨r, hr, _⟩ := (hq.le_iff_exists_eq_append hs).mp <| le_boundaryBefore _ hn
  exact ⟨r, hr⟩

theorem isValid_insertTab :
    Pos.Raw.IsValid (insertTab source cursor).1 ⟨(insertTab source cursor).2⟩ := by
  have he : (before ++ tabText).rawEndPos = ⟨before.utf8ByteSize + 2⟩ :=
    Pos.Raw.ext utf8ByteSize_append
  rw [insertTab_of_splits hs, ← he]
  exact Pos.Raw.isValid_rawEndPos.append_right after

-- After the first tab it is as if the cursor had been between the two parts.
theorem pressTab_succ_of_splits (n : Nat) : pressTab (n + 1) source cursor =
    pressTab (n + 1) (before ++ after) before.utf8ByteSize := by
  rw [pressTab, pressTab, Function.iterate_succ_apply, Function.iterate_succ_apply]
  rw [insertTab_of_splits hs, insertTab_append]

end Splitting

-- The tab key with the cursor at a place: the text is parted into what is before the tab and what
-- is after it.
structure TabsAt (source : String) (cursor : Nat) (before after : String) : Prop where
  whole    : source = before ++ after
  within   : before.utf8ByteSize ≤ cursor
  longest  : ∀ {p q}, source = p ++ q → p.utf8ByteSize ≤ cursor → ∃ r, before = p ++ r
  search   : ReflTransGen (GoesBack source) (min cursor source.utf8ByteSize) before.utf8ByteSize
  found    : Pos.Raw.IsValid source ⟨before.utf8ByteSize⟩
  inserted : insertTab source cursor = (before ++ "  " ++ after, before.utf8ByteSize + 2)
  boundary : Pos.Raw.IsValid (insertTab source cursor).1 ⟨(insertTab source cursor).2⟩
  pressed  : ∀ n, pressTab (n + 1) source cursor =
    (before ++ Text.times (2 * (n + 1)) ' ' ++ after, before.utf8ByteSize + 2 * (n + 1))

-- A tab is inserted behind the last character that is complete at the cursor, wherever that is.
theorem tab_between_characters (source : String) (cursor : Nat) :
    ∃ before after, TabsAt source cursor before after := by
  let place := boundaryBefore source (min cursor source.utf8ByteSize)
  have hs := place.splits
  have hb := offset_of_splits hs
  exact ⟨_, _, {
    whole     := hs.eq_append
    within    := Nat.le_trans (hb ▸ boundaryBefore_le source _) (Nat.min_le_left _ _)
    longest   := begins_of_splits hs
    search    := hb ▸ goesBack_boundaryBefore source _
    found     := hb ▸ place.isValid
    inserted  := insertTab_of_splits hs
    boundary  := isValid_insertTab hs
    pressed n := (pressTab_succ_of_splits hs n).trans <| pressTab_append (n + 1) _ _ }⟩

example : insertTab "xé" 2 = ("x  é", 3) := by
  decide

end NodeEditor
