import Mathlib.Data.List.Forall2
import NodeEditor.Proofs.Json.NumberText

namespace NodeEditor

section

variable {ε α β : Type} {r : Except ε α}

theorem toOption_bind {f : α → Except ε β} :
    (r >>= f).toOption = r.toOption.bind fun a => (f a).toOption := by
  cases r <;> rfl

theorem toOption_eq_some_iff {a : α} : r.toOption = some a ↔ r = .ok a := by
  cases r <;> simp [Except.toOption]

end

section

variable {ε α β : Type} {read : β → Except ε α} {write : α → β} {as : List α} {bs : List β}

theorem mapM_ok_of_forall (h : ∀ a ∈ as, read (write a) = .ok a) :
    as.mapM (fun a => read (write a)) = .ok as := by
  induction as with
  | nil => rfl
  | cons a as ih =>
    have ha := h a List.mem_cons_self
    have ih := ih fun a ha => h a <| List.mem_cons_of_mem _ ha
    simp only [List.mapM_cons, ha, ih]
    rfl

theorem map_eq_of_forall₂ {γ : Type} {f : α → γ} {g : β → γ}
    (h : bs.Forall₂ (fun b a => f a = g b) as) : as.map f = bs.map g := by
  induction h with
  | nil         => rfl
  | cons h _ ih => rw [List.map_cons, List.map_cons, h, ih]

theorem forall₂_of_mapM_ok (h : bs.mapM read = .ok as) :
    bs.Forall₂ (fun b a => read b = .ok a) as := by
  induction bs generalizing as with
  | nil =>
    cases h
    exact .nil
  | cons b bs ih =>
    rw [List.mapM_cons] at h
    cases hb : read b with
    | error _ => simp [hb, bind, Except.bind] at h
    | ok a =>
      cases hs : bs.mapM read with
      | error _ => simp [hb, hs, bind, Except.bind] at h
      | ok as' =>
        simp only [hb, hs, bind, Except.bind, pure, Except.pure, Except.ok.injEq] at h
        exact h ▸ .cons hb (ih hs)

end

namespace Json

section

variable {fuel : Nat} {c : Char} {cs rest : List Char}

theorem readHex_controlEscape {n : Nat} (h : n < 0x20) :
    Text.hexNumber? ['0', '0', (Nat.toDigits 16 (n / 16)).headD '0',
      (Nat.toDigits 16 (n % 16)).headD '0'] = some n := by
  have : ∀ n < 0x20, Text.hexNumber? ['0', '0', (Nat.toDigits 16 (n / 16)).headD '0',
      (Nat.toDigits 16 (n % 16)).headD '0'] = some n := by decide
  exact this n h

theorem readEscape_controlEscape (h : c.toNat < 0x20) :
    readEscape ((controlEscape c).drop 1 ++ rest) = .ok (c, rest) := by
  have hn := readHex_controlEscape h
  simp only [controlEscape, List.drop_succ_cons, List.drop_zero, List.cons_append, List.nil_append]
  simp only [readEscape, readHex, hn, bind, Except.bind]
  rw [if_neg (by omega), if_neg (by omega), Char.ofNat_toNat]

-- A character stands for itself, or behind a backslash for what the reader takes it for.
theorem escapeChar_cases (c : Char) :
    (∃ e, escapeChar c = '\\' :: e ∧ ∀ rest, readEscape (e ++ rest) = .ok (c, rest)) ∨
    (escapeChar c = [c] ∧ c ≠ '"' ∧ c ≠ '\\' ∧ ¬c.toNat < 0x20) := by
  rw [escapeChar]
  split
  case isTrue h => exact .inl ⟨_, rfl, fun _ => by subst h; rfl⟩
  case isFalse hq =>
  split
  case isTrue h => exact .inl ⟨_, rfl, fun _ => by subst h; rfl⟩
  case isFalse hb =>
  iterate 5
    split
    case isTrue h => exact .inl ⟨_, rfl, fun _ => by subst h; rfl⟩
  split
  case isTrue h  => exact .inl ⟨_, rfl, fun _ => readEscape_controlEscape h⟩
  case isFalse h => exact .inr ⟨rfl, hq, hb, h⟩

theorem readChars_escapeChar : readChars (fuel + 1) (escapeChar c ++ rest) =
    (readChars fuel rest).map fun s => (c :: s.1, s.2) := by
  rcases escapeChar_cases c with ⟨e, he, hr⟩ | ⟨he, hq, hb, hc⟩
  · simp only [he, List.cons_append, readChars, hr, bind, Except.bind]
    cases readChars fuel rest <;> rfl
  · simp only [he, List.cons_append, List.nil_append, readChars, hc, if_false, bind, Except.bind]
    cases readChars fuel rest <;> rfl

theorem escapeChar_ne_nil (c : Char) : escapeChar c ≠ [] := by
  rcases escapeChar_cases c with ⟨_, he, _⟩ | ⟨he, _⟩ <;> simp [he]

theorem readChars_write (h : cs.length < fuel) :
    readChars fuel (cs.flatMap escapeChar ++ '"' :: rest) = .ok (cs, rest) := by
  induction cs generalizing fuel with
  | nil =>
    cases fuel with
    | zero      => contradiction
    | succ fuel => rfl
  | cons c cs ih =>
    cases fuel with
    | zero      => contradiction
    | succ fuel =>
      have ih := ih <| Nat.lt_of_succ_lt_succ h
      rw [List.flatMap_cons, List.append_assoc, readChars_escapeChar, ih]
      rfl

-- Every string is read as it was, whatever it holds.
theorem readString_write (s : String) :
    readString (s.toList.flatMap escapeChar ++ '"' :: rest) = .ok (s, rest) := by
  have hl : s.toList.length ≤ (s.toList.flatMap escapeChar).length := by
    generalize s.toList = cs
    induction cs with
    | nil => exact Nat.le_refl 0
    | cons c cs ih =>
      have := List.length_pos_iff.mpr <| escapeChar_ne_nil c
      rw [List.flatMap_cons, List.length_append, List.length_cons]
      omega
  rw [readString, readChars_write (by rw [List.length_append]; omega)]
  simp [bind, Except.bind]

end

mutual

-- What the text of a value reads as where `depth` more arrays and objects may be opened. Strings
-- are kept, numbers become what their texts read as, and the entries of objects are put in order.
def reread : Nat → Json → Option Json
  | _, .null             => some .null
  | _, .bool b           => some (.bool b)
  | _, .num n            => n.reread.map .num
  | _, .str s            => some (.str s)
  | 0, .arr _            => none
  | depth + 1, .arr js   => (rereadItems depth js).map .arr
  | 0, .obj _            => none
  | depth + 1, .obj es   => (rereadEntries depth es).map fun es => .obj (Dict.ofList es).entries

def rereadItems : Nat → List Json → Option (List Json)
  | _, []          => some []
  | depth, j :: js =>
    (reread depth j).bind fun j => (rereadItems depth js).map fun js => j :: js

def rereadEntries : Nat → List (String × Json) → Option (List (String × Json))
  | _, []               => some []
  | depth, (k, j) :: es =>
    (reread depth j).bind fun j => (rereadEntries depth es).map fun es => (k, j) :: es

end

-- What a value's text starts with: no blank, no comma and no closing bracket.
def IsOpening (c : Char) : Prop :=
  c.isDigit ∨ c ∈ ['n', 't', 'f', '"', '[', '\x7b', '-', '.', 'e']

section

variable {c : Char} {j : Json} {js : List Json} {es : List (String × Json)} {cs rest : List Char}

theorem write_opening (j : Json) : ∃ c cs, j.write = c :: cs ∧ IsOpening c := by
  cases j
  case num n =>
    have ⟨cs, hn, ht⟩ := n.text_isNumeral
    rcases ht with ht | ht
    · obtain ⟨c, tl, rfl, hc⟩ := hn.head
      refine ⟨c, tl, ht, ?_⟩
      rcases hc with hc | rfl | rfl <;> simp [IsOpening, *]
    · exact ⟨'-', cs, ht, by simp [IsOpening]⟩
  case bool b => cases b <;> exact ⟨_, _, rfl, by simp [IsOpening]⟩
  case arr js => cases js <;> exact ⟨_, _, rfl, by simp [IsOpening]⟩
  case obj es =>
    cases es
    case nil       => exact ⟨_, _, rfl, by simp [IsOpening]⟩
    case cons e es => exact ⟨_, _, rfl, by simp [IsOpening]⟩
  all_goals exact ⟨_, _, rfl, by simp [IsOpening]⟩

theorem length_write_pos (j : Json) : 0 < j.write.length := by
  have ⟨_, _, hw, _⟩ := j.write_opening
  exact hw ▸ Nat.succ_pos _

theorem IsOpening.not_isSpace (h : IsOpening c) : isSpace c = false := by
  refine Bool.eq_false_iff.mpr fun hs => ?_
  simp only [isSpace, Bool.or_eq_true, decide_eq_true_eq] at hs
  rcases hs with ((rfl | rfl) | rfl) | rfl <;> simp [IsOpening] at h

theorem IsOpening.skipSpace (h : IsOpening c) : skipSpace (c :: cs) = c :: cs :=
  List.dropWhile_cons_of_neg <| by simp [h.not_isSpace]

theorem nextItem_write (j : Json) (rest : List Char) :
    nextItem true (j.write ++ rest) = .ok (some (j.write ++ rest), []) := by
  have ⟨c, cs, hw, ho⟩ := j.write_opening
  rw [hw, List.cons_append, nextItem, ho.skipSpace]
  split <;> simp_all [IsOpening]

theorem nextItem_comma (j : Json) (rest : List Char) :
    nextItem false (',' :: j.write ++ rest) = .ok (some (j.write ++ rest), []) := by
  have ⟨c, cs, hw, ho⟩ := j.write_opening
  have hs : Json.skipSpace (',' :: c :: cs ++ rest) = ',' :: c :: (cs ++ rest) := rfl
  rw [hw, nextItem, hs]
  simp only [ho.skipSpace, Bool.false_eq_true, if_false]
  split <;> simp_all [IsOpening]

variable {fuel depth : Nat}

theorem readNumber_delimited (neg : Bool) (h : IsNumeral cs) (hr : Delimited rest) :
    (readNumber neg (cs ++ rest)).toOption =
      ((readNumber neg cs).toOption.map Prod.fst).map (·, rest) := by
  obtain ⟨-, ds, tail, hd, ht, rfl⟩ := h
  have ⟨a, ha⟩ := readNumber_takesWhole neg hd ht
  have hn := ha [] .nil
  rw [List.append_nil] at hn
  rw [ha rest hr, hn]
  cases a <;> rfl

theorem readValue_numeral (h : IsNumeral cs) (hr : Delimited rest) :
    (readValue (fuel + 1) depth (cs ++ rest)).toOption =
      ((readNumber false cs).toOption.map Prod.fst).map fun n => (.num n, rest) := by
  have hn := readNumber_delimited false h hr
  obtain ⟨c, tl, rfl, hc⟩ := h.head
  have ho : IsOpening c := by rcases hc with hc | rfl | rfl <;> simp [IsOpening, *]
  rw [List.cons_append] at hn ⊢
  rw [readValue, ho.skipSpace]
  rcases hc with hc | rfl | rfl
  · have hw : c ≠ 'n' ∧ c ≠ 't' ∧ c ≠ 'f' ∧ c ≠ '-' := by
      refine ⟨?_, ?_, ?_, ?_⟩ <;> rintro rfl <;> contradiction
    simp only [hw, hc, if_true, if_false]
    rw [toOption_bind, hn]
    cases (readNumber false (c :: tl)).toOption <;> rfl
  all_goals
    rw [readNumber_not_digit rfl]
    rfl

theorem readValue_number (n : Number) (hr : Delimited rest) :
    (readValue (fuel + 1) depth (n.text.toList ++ rest)).toOption =
      n.reread.map fun n => (.num n, rest) := by
  have ⟨cs, hn, ht⟩ := n.text_isNumeral
  rcases ht with rfl | ht
  · rw [readValue_numeral hn hr, n.reread_of_numeral hn]
  · have hm : ∀ cs, readValue (fuel + 1) depth ('-' :: cs) =
        readNumber true cs >>= fun r => .ok (.num r.1, r.2) := fun _ => rfl
    rw [n.reread_of_minus ht, ht, List.cons_append, hm, toOption_bind,
      readNumber_delimited true hn hr]
    cases (readNumber true cs).toOption <;> rfl

-- Reading on from one item or entry to the next.

variable {first : Bool} {text item more : List Char} {k : String} {a : Option Json}

theorem readItems_cons {as : Option (List Json)} (hn : nextItem first text = .ok (some item, []))
    (hv : (readValue fuel depth item).toOption = a.map (·, more))
    (hi : (readItems fuel depth false more).toOption = as.map (·, rest)) :
    (readItems (fuel + 1) depth first text).toOption =
      (a.bind fun j => as.map fun js => j :: js).map (·, rest) := by
  have hs : readItems (fuel + 1) depth first text =
      readValue fuel depth item >>= fun v => readItems fuel depth false v.2 >>= fun s =>
        .ok (v.1 :: s.1, s.2) := by
    rw [readItems, hn]
    rfl
  rw [hs, toOption_bind, hv]
  cases a with
  | none   => rfl
  | some j =>
    simp only [Option.map_some, Option.bind_some, toOption_bind, hi]
    cases as <;> rfl

theorem readEntries_cons {as : Option (List (String × Json))}
    (hn : nextKey first text = .ok (some (k.toList.flatMap escapeChar ++ '"' :: ':' :: item), []))
    (hv : (readValue fuel depth item).toOption = a.map (·, more))
    (he : (readEntries fuel depth false more).toOption = as.map (·, rest)) :
    (readEntries (fuel + 1) depth first text).toOption =
      (a.bind fun j => as.map fun es => (k, j) :: es).map (·, rest) := by
  have hs : readEntries (fuel + 1) depth first text =
      readValue fuel depth item >>= fun v => readEntries fuel depth false v.2 >>= fun s =>
        .ok ((k, v.1) :: s.1, s.2) := by
    rw [readEntries, hn]
    simp only [bind, Except.bind, readString_write]
    rfl
  rw [hs, toOption_bind, hv]
  cases a with
  | none   => rfl
  | some j =>
    simp only [Option.map_some, Option.bind_some, toOption_bind, he]
    cases as <;> rfl

theorem readValue_list : (readValue (fuel + 1) (depth + 1) ('[' :: cs)).toOption =
    (readItems fuel depth true cs).toOption.map fun r => (.arr r.1, r.2) := by
  have hs : readValue (fuel + 1) (depth + 1) ('[' :: cs) =
      readItems fuel depth true cs >>= fun r => .ok (.arr r.1, r.2) := rfl
  rw [hs, toOption_bind]
  cases (readItems fuel depth true cs).toOption <;> rfl

theorem readValue_object : (readValue (fuel + 1) (depth + 1) ('\x7b' :: cs)).toOption =
    (readEntries fuel depth true cs).toOption.map fun r =>
      (.obj (Dict.ofList r.1).entries, r.2) := by
  have hs : readValue (fuel + 1) (depth + 1) ('\x7b' :: cs) =
      readEntries fuel depth true cs >>= fun r => .ok (.obj (Dict.ofList r.1).entries, r.2) := rfl
  rw [hs, toOption_bind]
  cases (readEntries fuel depth true cs).toOption <;> rfl

theorem writeItems_delimited (js : List Json) (rest : List Char) :
    Delimited (writeItems js ++ ']' :: rest) := by
  cases js <;> simp [writeItems, Delimited]

theorem writeEntries_delimited (es : List (String × Json)) (rest : List Char) :
    Delimited (writeEntries es ++ '\x7d' :: rest) := by
  cases es <;> simp [writeEntries, Delimited]

end

-- By induction on the value. Two units of fuel for each character of the text suffice: whoever goes
-- through items or entries spends one unit on each, and each has a character besides what it holds.

mutual

theorem readValue_write (j : Json) (fuel depth : Nat) {rest : List Char} (hr : Delimited rest)
    (hf : 2 * (j.write ++ rest).length + 2 ≤ fuel) :
    (readValue fuel depth (j.write ++ rest)).toOption = (j.reread depth).map (·, rest) := by
  obtain ⟨fuel, rfl⟩ : ∃ n, fuel = n + 1 := ⟨fuel - 1, by omega⟩
  match j with
  | .null => rfl
  | .bool true => rfl
  | .bool false => rfl
  | .num n =>
    rw [write, readValue_number n hr, reread]
    cases n.reread <;> rfl
  | .str s =>
    have hs : readValue (fuel + 1) depth ((Json.str s).write ++ rest) =
        readString (s.toList.flatMap escapeChar ++ '"' :: rest) >>= fun r =>
          .ok (.str r.1, r.2) := by
      simp [write, writeString]
      rfl
    rw [hs, readString_write]
    rfl
  | .arr js =>
    cases depth with
    | zero => cases js <;> rfl
    | succ depth =>
      obtain ⟨fuel, rfl⟩ : ∃ n, fuel = n + 1 := ⟨fuel - 1, by simp at hf; omega⟩
      match js with
      | []      => rfl
      | j :: js =>
        simp only [write, List.cons_append, List.append_assoc, List.nil_append,
          List.length_cons, List.length_append] at hf ⊢
        have hj := length_write_pos j
        have hv := readValue_write j fuel depth (writeItems_delimited js rest) (by grind)
        have hi := readItems_write js fuel depth rest (by grind)
        rw [readValue_list, readItems_cons (nextItem_write j _) hv hi, reread, rereadItems]
        simp only [Option.map_map]
        rfl
  | .obj es =>
    cases depth with
    | zero => cases es <;> rfl
    | succ depth =>
      obtain ⟨fuel, rfl⟩ : ∃ n, fuel = n + 1 := ⟨fuel - 1, by simp at hf; omega⟩
      match es with
      | []           => rfl
      | (k, j) :: es =>
        simp only [write, writeString, List.cons_append, List.append_assoc, List.nil_append,
          List.length_cons, List.length_append] at hf ⊢
        have hv := readValue_write j fuel depth (writeEntries_delimited es rest) (by grind)
        have he := readEntries_write es fuel depth rest (by grind)
        rw [readValue_object, readEntries_cons rfl hv he, reread, rereadEntries]
        simp only [Option.map_map]
        rfl

theorem readItems_write (js : List Json) (fuel depth : Nat) (rest : List Char)
    (hf : 2 * (writeItems js ++ ']' :: rest).length + 3 ≤ fuel) :
    (readItems fuel depth false (writeItems js ++ ']' :: rest)).toOption =
      (rereadItems depth js).map (·, rest) := by
  obtain ⟨fuel, rfl⟩ : ∃ n, fuel = n + 1 := ⟨fuel - 1, by omega⟩
  match js with
  | []      => rfl
  | j :: js =>
    simp only [writeItems, List.cons_append, List.append_assoc, List.length_cons,
      List.length_append] at hf ⊢
    have hv := readValue_write j fuel depth (writeItems_delimited js rest) (by grind)
    have hi := readItems_write js fuel depth rest (by grind)
    rw [← List.cons_append, readItems_cons (nextItem_comma j _) hv hi, rereadItems]

theorem readEntries_write (es : List (String × Json)) (fuel depth : Nat) (rest : List Char)
    (hf : 2 * (writeEntries es ++ '\x7d' :: rest).length + 3 ≤ fuel) :
    (readEntries fuel depth false (writeEntries es ++ '\x7d' :: rest)).toOption =
      (rereadEntries depth es).map (·, rest) := by
  obtain ⟨fuel, rfl⟩ : ∃ n, fuel = n + 1 := ⟨fuel - 1, by omega⟩
  match es with
  | []           => rfl
  | (k, j) :: es =>
    simp only [writeEntries, writeString, List.cons_append, List.append_assoc, List.nil_append,
      List.length_cons, List.length_append] at hf ⊢
    have hv := readValue_write j fuel depth (writeEntries_delimited es rest) (by grind)
    have he := readEntries_write es fuel depth rest (by grind)
    rw [readEntries_cons rfl hv he, rereadEntries]

end

-- The text of a value is read whole; that fails just where the text of a number in it is unreadable
-- or where too many arrays and objects stand inside each other.
theorem parse_compact (j : Json) : (parse j.compact).toOption = j.reread maxDepth := by
  have hv := readValue_write j (2 * j.write.length + 2) maxDepth .nil (by simp)
  rw [List.append_nil] at hv
  have hp : (parseChars j.write).toOption = j.reread maxDepth := by
    rw [parseChars, toOption_bind, hv]
    cases j.reread maxDepth <;> rfl
  rw [← hp, parse, compact, String.toList_ofList]
  cases parseChars j.write <;> rfl

end Json

end NodeEditor
