import Mathlib.Data.List.DropRight
import NodeEditor.Text.Blank
import NodeEditor.Text.Intervals

namespace NodeEditor.Text

variable {p : Char → Bool} {cs w : List Char} {s : String} {c : Char}

theorem splitWhere_eq_splitOnP (p : Char → Bool) (cs : List Char) :
    splitWhere p cs = cs.splitOnP p := by
  induction cs with
  | nil          => rfl
  | cons c cs ih =>
    rw [splitWhere, List.splitOnP_cons_eq_if_modifyHead, ih]
    cases hs : cs.splitOnP p with
    | nil       => exact absurd hs <| List.splitOnP_ne_nil p cs
    | cons w ws => rfl

-- A part of a text is one of its rest, or it is the first one of these with a character more.
theorem mem_splitOnP_cons (hw : w ∈ (c :: cs).splitOnP p) :
    w = [] ∨ w ∈ cs.splitOnP p ∨ ∃ v, w = c :: v ∧ v ∈ cs.splitOnP p ∧ p c = false := by
  rw [List.splitOnP_cons_eq_if_modifyHead] at hw
  cases hs : cs.splitOnP p with
  | nil       => exact absurd hs <| List.splitOnP_ne_nil p cs
  | cons v ws =>
    rw [hs] at hw
    split at hw
    case isTrue hd  => exact (List.mem_cons.mp hw).imp_right .inl
    case isFalse hd =>
      rcases List.mem_cons.mp hw with rfl | hw
      · exact .inr <| .inr ⟨v, rfl, .head _, by simpa using hd⟩
      · exact .inr <| .inl <| .tail _ hw

-- No separator is left in a part.
theorem not_of_mem_splitOnP (hw : w ∈ cs.splitOnP p) (hc : c ∈ w) : p c = false := by
  induction cs generalizing w with
  | nil          =>
    rw [List.splitOnP_nil, List.mem_singleton] at hw
    exact absurd hc <| hw ▸ List.not_mem_nil
  | cons d cs ih =>
    rcases mem_splitOnP_cons hw with rfl | hw | ⟨v, rfl, hv, hd⟩
    · exact absurd hc List.not_mem_nil
    · exact ih hw hc
    · rcases List.mem_cons.mp hc with rfl | hc
      · exact hd
      · exact ih hv hc

-- A part is found in the text.
theorem sublist_of_mem_splitOnP (hw : w ∈ cs.splitOnP p) : w.Sublist cs := by
  induction cs generalizing w with
  | nil          =>
    rw [List.splitOnP_nil, List.mem_singleton] at hw
    exact hw ▸ List.Sublist.refl _
  | cons d cs ih =>
    rcases mem_splitOnP_cons hw with rfl | hw | ⟨v, rfl, hv, _⟩
    · exact List.nil_sublist _
    · exact (ih hw).cons d
    · exact (ih hv).cons_cons d

theorem exists_trimChars (cs : List Char) : ∃ l r, cs = l ++ trimChars cs ++ r ∧
    (∀ c ∈ l, isBlank c) ∧ ∀ c ∈ r, isBlank c := by
  refine ⟨cs.takeWhile isBlank, (trimLeft cs).rtakeWhile isBlank, ?_,
    fun _ => List.mem_takeWhile_imp, fun _ => List.mem_rtakeWhile_imp⟩
  calc cs
    _ = cs.takeWhile isBlank ++ trimLeft cs := List.takeWhile_append_dropWhile.symm
    _ = cs.takeWhile isBlank ++ (trimChars cs ++ (trimLeft cs).rtakeWhile isBlank) :=
      congrArg _ <| (List.rdropWhile_append_rtakeWhile ..).symm
    _ = _ := (List.append_assoc ..).symm

theorem exists_trim (s : String) :
    ∃ l r, s = l ++ trim s ++ r ∧ isBlankText l ∧ isBlankText r := by
  have ⟨l, r, hs, hl, hr⟩ := exists_trimChars s.toList
  refine ⟨String.ofList l, String.ofList r, ?_, ?_, ?_⟩
  · rw [trim, ← String.ofList_append, ← String.ofList_append, ← hs, String.ofList_toList]
  · simpa [isBlankText] using hl
  · simpa [isBlankText] using hr

theorem trim_eq_empty_iff : trim s = "" ↔ isBlankText s := by
  constructor
  case mp =>
    intro h
    have ⟨l, r, hs, hl, hr⟩ := exists_trim s
    rw [h, String.append_empty] at hs
    rw [isBlankText] at hl hr
    rw [isBlankText, hs, String.toList_append, List.all_append, hl, hr, Bool.and_self]
  case mpr =>
    intro h
    have hd : s.toList.dropWhile isBlank = [] :=
      List.dropWhile_eq_nil_iff.mpr <| List.all_eq_true.mp h
    rw [trim, trimChars, trimLeft, hd]
    rfl

-- A text with something in it and no blanks around that.
structure Trimmed (s : String) : Prop where
  nonempty : s ≠ ""
  first    : ∀ c ∈ s.toList.head?, isBlank c = false
  last     : ∀ c ∈ s.toList.getLast?, isBlank c = false

theorem trim_trimmed (h : trim s ≠ "") : Trimmed (trim s) where
  nonempty   := h
  first c hc := by
    rw [trim, String.toList_ofList] at hc
    obtain ⟨rest, hr⟩ : trimChars s.toList <+: trimLeft s.toList := List.rdropWhile_prefix ..
    have hd := List.head?_dropWhile_not isBlank s.toList
    rw [← trimLeft, ← hr, List.head?_append, hc] at hd
    exact hd
  last c hc  := by
    rw [trim, String.toList_ofList] at hc
    obtain ⟨hn, rfl⟩ := List.mem_getLast?_eq_getLast hc
    exact Bool.not_eq_true _ ▸ List.rdropWhile_last_not isBlank (trimLeft s.toList) hn

-- What is kept of some texts, as they come: nothing of one without anything but blanks in it, and of
-- another one what is between the blanks around it.
inductive Keeps : List String → List String → Prop
  | nil : Keeps [] []
  | blank {text texts kept} : isBlankText text → Keeps texts kept → Keeps (text :: texts) kept
  | text {l r text texts kept} : isBlankText l → isBlankText r → Trimmed text → Keeps texts kept →
      Keeps ((l ++ text ++ r) :: texts) (text :: kept)

namespace Keeps

variable {texts kept : List String} {u : String} {c : Char}

theorem mem (k : Keeps texts kept) (h : u ∈ kept) :
    Trimmed u ∧ ∃ text ∈ texts, ∀ c ∈ u.toList, c ∈ text.toList := by
  induction k with
  | nil                   => exact absurd h List.not_mem_nil
  | blank _ _ ih          =>
    have ⟨hu, t, ht, hc⟩ := ih h
    exact ⟨hu, t, .tail _ ht, hc⟩
  | text _ _ trimmed _ ih =>
    cases h with
    | head     => exact ⟨trimmed, _, .head _, fun c hc => by simp [hc]⟩
    | tail _ h =>
      have ⟨hu, t, ht, hc⟩ := ih h
      exact ⟨hu, t, .tail _ ht, hc⟩

theorem trimmed (k : Keeps texts kept) (h : u ∈ kept) : Trimmed u :=
  (k.mem h).left

end Keeps

section Ends

variable {t : String} {ds : List Char}

-- A character, so many times.
def times (n : Nat) (c : Char) : String :=
  String.ofList (List.replicate n c)

theorem toList_times (n : Nat) (c : Char) : (times n c).toList = List.replicate n c :=
  String.toList_ofList

theorem times_add (m n : Nat) (c : Char) : times (m + n) c = times m c ++ times n c := by
  rw [times, ← List.replicate_append_replicate, String.ofList_append]
  rfl

theorem utf8ByteSize_times (n : Nat) (c : Char) : (times n c).utf8ByteSize = n * c.utf8Size := by
  induction n with
  | zero      => rw [Nat.zero_mul]; rfl
  | succ n ih =>
    have h1 : times 1 c = String.singleton c := String.singleton_eq_ofList.symm
    rw [times_add, h1, String.utf8ByteSize_append, String.utf8ByteSize_singleton, ih, Nat.succ_mul]

theorem dropWhile_eq_iff : cs.dropWhile (· = c) = ds ↔
    ds.head? ≠ some c ∧ ∃ n, cs = List.replicate n c ++ ds := by
  constructor
  case mp  =>
    intro h
    have hl : cs.takeWhile (· = c) = List.replicate _ c :=
      List.eq_replicate_of_mem fun d hd => by simpa using List.mem_takeWhile_imp hd
    refine ⟨?_, (cs.takeWhile (· = c)).length, ?_⟩
    · intro hd
      have := List.head?_dropWhile_not (· = c) cs
      simp [h, hd] at this
    · rw [← hl, ← h, List.takeWhile_append_dropWhile]
  case mpr =>
    intro ⟨hd, n, hn⟩
    rw [hn, List.dropWhile_append_of_pos (by simp)]
    cases ds with
    | nil       => rfl
    | cons d ds => exact List.dropWhile_cons_of_neg <| by simpa using hd

-- What is left of a text when a character is taken from one of its ends as often as it is there.

theorem trimStartOf_eq_iff :
    trimStartOf c s = t ↔ t.toList.head? ≠ some c ∧ ∃ n, s = times n c ++ t := by
  rw [trimStartOf, ← String.toList_inj, String.toList_ofList, dropWhile_eq_iff]
  simp only [← String.toList_inj, String.toList_append, toList_times]

theorem trimEndOf_eq_iff :
    trimEndOf c s = t ↔ t.toList.getLast? ≠ some c ∧ ∃ n, s = t ++ times n c := by
  rw [trimEndOf, dropEndWhile, ← String.toList_inj, String.toList_ofList, List.reverse_eq_iff,
    dropWhile_eq_iff, List.head?_reverse]
  simp only [← String.toList_inj, String.toList_append, toList_times, List.reverse_eq_iff,
    List.reverse_append, List.reverse_reverse, List.reverse_replicate]

end Ends

end NodeEditor.Text
