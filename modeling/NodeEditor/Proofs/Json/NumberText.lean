import NodeEditor.Json.Reader
import NodeEditor.Json.Writer

namespace NodeEditor.Json

-- What may follow a value inside an array or an object, or at the end of a text.
def Delimited : List Char → Prop
  | []     => True
  | c :: _ => c = ',' ∨ c = ']' ∨ c = '\x7d'

-- What a reader makes of `cs` does not depend on what follows, and all that follows is left.
def TakesWhole {α : Type} (read : List Char → Except Stop (α × List Char)) (cs : List Char) :
    Prop :=
  ∃ a : Option α, ∀ rest, Delimited rest → (read (cs ++ rest)).toOption = a.map (·, rest)

def IsDigits (cs : List Char) : Prop :=
  ∀ c ∈ cs, c.isDigit

-- A point with digits behind it, or nothing.
def IsFraction (cs : List Char) : Prop :=
  cs = [] ∨ ∃ ds, IsDigits ds ∧ cs = '.' :: ds

-- An exponent with its sign, or nothing.
def IsExponent (cs : List Char) : Prop :=
  cs = [] ∨ ∃ sign ds, (sign = '+' ∨ sign = '-') ∧ IsDigits ds ∧ cs = 'e' :: sign :: ds

-- What may stand behind the digits of a whole part.
def IsTail (cs : List Char) : Prop :=
  ∃ frac exp, IsFraction frac ∧ IsExponent exp ∧ cs = frac ++ exp

section

variable {limit n count : Nat} {ds rest cs : List Char}

@[simp]
theorem startsWithDigit_cons {c : Char} : startsWithDigit (c :: cs) = c.isDigit :=
  rfl

theorem Delimited.nil : Delimited [] :=
  trivial

theorem Delimited.not_startsWithDigit (h : Delimited rest) : startsWithDigit rest = false := by
  cases rest with
  | nil       => rfl
  | cons c cs => rcases h with rfl | rfl | rfl <;> rfl

theorem Delimited.not_hasTail (h : Delimited rest) : hasTail rest = false := by
  cases rest with
  | nil       => rfl
  | cons c cs => rcases h with rfl | rfl | rfl <;> rfl

theorem takeDigits_append (h : startsWithDigit rest = false) :
    takeDigits limit n count (ds ++ rest) =
      ((takeDigits limit n count ds).1, (takeDigits limit n count ds).2.1,
        (takeDigits limit n count ds).2.2 ++ rest) := by
  induction ds generalizing n count with
  | nil =>
    cases rest with
    | nil       => rfl
    | cons c cs => simp only [startsWithDigit] at h; simp [takeDigits, h]
  | cons d ds ih =>
    simp only [List.cons_append, takeDigits]
    split <;> try rfl
    split <;> try rfl
    exact ih

theorem takeDigits_isDigits (h : IsDigits ds) : IsDigits (takeDigits limit n count ds).2.2 := by
  induction ds generalizing n count with
  | nil => exact h
  | cons d ds ih =>
    simp only [takeDigits]
    split <;> try exact h
    split <;> try exact h
    exact ih fun c hc => h c <| List.mem_cons_of_mem _ hc

-- The digits that do not fit are left in front of what follows.
theorem exists_takeDigits (limit n count : Nat) (hd : IsDigits ds) :
    ∃ v k r, IsDigits r ∧ ∀ rest, startsWithDigit rest = false →
      takeDigits limit n count (ds ++ rest) = (v, k, r ++ rest) :=
  ⟨_, _, _, takeDigits_isDigits hd, fun _ => takeDigits_append⟩

theorem dropDigits_append (hd : IsDigits ds) (h : startsWithDigit rest = false) :
    (ds ++ rest).dropWhile Char.isDigit = rest := by
  rw [List.dropWhile_append_of_pos hd]
  cases rest with
  | nil       => rfl
  | cons c cs => exact List.dropWhile_cons_of_neg <| by simpa [startsWithDigit] using h

theorem takeWhileDigits_append (hd : IsDigits ds) (h : startsWithDigit rest = false) :
    (ds ++ rest).takeWhile Char.isDigit = ds := by
  rw [List.takeWhile_append_of_pos hd]
  cases rest with
  | nil       => exact List.append_nil ds
  | cons c cs => rw [List.takeWhile_cons_of_neg, List.append_nil]; simpa using h

theorem IsExponent.append_not_digit (h : IsExponent cs) (hr : Delimited rest) :
    startsWithDigit (cs ++ rest) = false := by
  rcases h with rfl | ⟨_, _, _, _, rfl⟩
  · exact hr.not_startsWithDigit
  · rfl

theorem IsTail.append_not_digit (h : IsTail cs) (hr : Delimited rest) :
    startsWithDigit (cs ++ rest) = false := by
  obtain ⟨_, _, rfl | ⟨_, _, rfl⟩, he, rfl⟩ := h
  · exact he.append_not_digit hr
  · rfl

theorem IsTail.hasTail_append (h : IsTail cs) (hr : Delimited rest) :
    hasTail (cs ++ rest) = !cs.isEmpty := by
  obtain ⟨_, _, rfl | ⟨_, _, rfl⟩, rfl | ⟨_, _, _, _, rfl⟩, rfl⟩ := h
  · exact hr.not_hasTail
  all_goals rfl

end

section

variable {neg : Bool} {sig dropped : Nat} {e start : Int} {ds cs frac exp : List Char}

theorem finishFloat_takesWhole (neg : Bool) (sig : Nat) (e : Int) :
    TakesWhole (finishFloat neg sig e) [] := by
  refine ⟨(scale? sig e).map fun f => .float (if neg then -f else f), fun rest _ => ?_⟩
  simp only [finishFloat, List.nil_append]
  cases scale? sig e <;> rfl

theorem readPower_takesWhole {down : Bool} (hd : IsDigits ds) :
    TakesWhole (readPower neg sig start down) ds := by
  cases ds with
  | nil =>
    refine ⟨none, fun rest hr => ?_⟩
    simp only [readPower, List.nil_append, hr.not_startsWithDigit]
    cases rest <;> rfl
  | cons d ds =>
    have hs : d.isDigit := hd d List.mem_cons_self
    have ⟨n, _, r, hrd, ht⟩ := exists_takeDigits maxExponent 0 0 hd
    simp only [List.cons_append] at ht
    cases r with
    | nil =>
      have ⟨a, ha⟩ := finishFloat_takesWhole neg sig <|
        if down then start - n else start + n
      refine ⟨a, fun rest hr => ?_⟩
      have hr' := hr.not_startsWithDigit
      rw [← ha rest hr]
      simp [readPower, hs, ht rest hr', hr']
    | cons d' r =>
      have hs' : d'.isDigit := hrd d' List.mem_cons_self
      have hdrop {rest} (hr : startsWithDigit rest = false) := dropDigits_append hrd hr
      simp only [List.cons_append] at hdrop
      have hp {rest} (hr : startsWithDigit rest = false) :
          readPower neg sig start down (d :: ds ++ rest) =
            if sig ≠ 0 ∧ ¬down then .error (.at .numberOutOfRange (d' :: (r ++ rest)))
            else .ok (.float (if neg then -0.0 else 0.0), rest) := by
        simp [readPower, hs, ht rest hr, hs', hdrop hr]
      by_cases ho : sig ≠ 0 ∧ ¬down
      case pos =>
        refine ⟨none, fun rest hr => ?_⟩
        rw [hp hr.not_startsWithDigit, if_pos ho]
        rfl
      case neg =>
        refine ⟨some (.float (if neg then -0.0 else 0.0)), fun rest hr => ?_⟩
        rw [hp hr.not_startsWithDigit, if_neg ho]
        rfl

theorem readExponent_takesWhole {sign : Char} (hs : sign = '+' ∨ sign = '-') (hd : IsDigits ds) :
    TakesWhole (readExponent neg sig start) (sign :: ds) := by
  rcases hs with rfl | rfl
  · exact readPower_takesWhole hd
  · exact readPower_takesWhole hd

theorem readScale_takesWhole (neg : Bool) (sig : Nat) (e : Int) (he : IsExponent exp) :
    TakesWhole (readScale neg sig e) exp := by
  rcases he with rfl | ⟨sign, ds, hs, hd, rfl⟩
  · have ⟨a, ha⟩ := finishFloat_takesWhole neg sig e
    refine ⟨a, fun rest hr => ?_⟩
    rw [← ha rest hr]
    cases rest with
    | nil       => rfl
    | cons c cs => rcases hr with rfl | rfl | rfl <;> rfl
  · exact readExponent_takesWhole hs hd

theorem readFraction_takesWhole (hd : IsDigits ds) (he : IsExponent exp) :
    TakesWhole (readFraction neg sig start) (ds ++ exp) := by
  have ⟨n, k, r, hrd, ht⟩ := exists_takeDigits maxSignificand sig 0 hd
  have ⟨a, ha⟩ := readScale_takesWhole neg n (start - k) he
  cases r with
  | nil =>
    by_cases hk : k = 0
    case pos =>
      refine ⟨none, fun rest hr => ?_⟩
      have hr' := he.append_not_digit hr
      simp only [readFraction, List.append_assoc, ht _ hr', List.nil_append, hr', hk]
      cases exp ++ rest <;> rfl
    case neg =>
      refine ⟨a, fun rest hr => ?_⟩
      have hr' := he.append_not_digit hr
      simp [readFraction, ht _ hr', hr', hk, ha rest hr]
  | cons d r =>
    refine ⟨a, fun rest hr => ?_⟩
    have hr' := he.append_not_digit hr
    have hs : d.isDigit := hrd d List.mem_cons_self
    have hdrop := dropDigits_append hrd hr'
    rw [List.cons_append] at hdrop
    simp [readFraction, ht _ hr', hs, hdrop, ha rest hr]

theorem readTail_takesWhole (neg : Bool) (sig dropped : Nat) (ht : IsTail cs) :
    TakesWhole (readTail neg sig dropped) cs := by
  obtain ⟨_, _, rfl | ⟨ds, hd, rfl⟩, he, rfl⟩ := ht
  · have ⟨a, ha⟩ := readScale_takesWhole neg sig dropped he
    refine ⟨a, fun rest hr => ?_⟩
    rw [← ha rest hr]
    rcases he with rfl | ⟨_, _, _, _, rfl⟩
    · cases rest with
      | nil       => rfl
      | cons c cs => rcases hr with rfl | rfl | rfl <;> rfl
    · rfl
  · exact readFraction_takesWhole hd he

theorem readAfterWhole_takesWhole (neg : Bool) (sig : Nat) (hd : IsDigits ds) (ht : IsTail cs) :
    TakesWhole (readAfterWhole neg sig) (ds ++ cs) := by
  cases ds with
  | nil =>
    cases cs with
    | nil =>
      refine ⟨some (wholeNumber neg sig), fun rest hr => ?_⟩
      simp [readAfterWhole, hr.not_startsWithDigit, hr.not_hasTail]
      rfl
    | cons c cs =>
      have ⟨a, ha⟩ := readTail_takesWhole neg sig 0 ht
      refine ⟨a, fun rest hr => ?_⟩
      have hn := ht.append_not_digit hr
      have hh := ht.hasTail_append hr
      rw [← ha rest hr]
      simp only [List.cons_append, List.nil_append] at hn hh ⊢
      simp [readAfterWhole, hn, hh]
  | cons d ds =>
    have ⟨a, ha⟩ := readTail_takesWhole neg sig (d :: ds).length ht
    refine ⟨a, fun rest hr => ?_⟩
    have hs : d.isDigit := hd d List.mem_cons_self
    have hn := ht.append_not_digit hr
    rw [← ha rest hr, List.append_assoc, readAfterWhole, takeWhileDigits_append hd hn,
      dropDigits_append hd hn]
    simp [hs]

theorem readNumber_not_digit (h : startsWithDigit cs = false) :
    (readNumber neg cs).toOption = none := by
  cases cs with
  | nil => rfl
  | cons c cs =>
    rw [startsWithDigit_cons] at h
    have hc : c ≠ '0' := fun hc => by simp [hc] at h
    simp [readNumber, h]
    rfl

theorem readNumber_takesWhole (neg : Bool) (hd : IsDigits ds) (ht : IsTail cs) :
    TakesWhole (readNumber neg) (ds ++ cs) := by
  cases ds with
  | nil => exact ⟨none, fun rest hr => readNumber_not_digit <| ht.append_not_digit hr⟩
  | cons d ds =>
    have hs : d.isDigit := hd d List.mem_cons_self
    by_cases hz : d = '0'
    case pos =>
      subst hz
      cases ds with
      | nil =>
        have ⟨a, ha⟩ := readAfterWhole_takesWhole neg 0 (List.forall_mem_nil _) ht
        refine ⟨a, fun rest hr => ?_⟩
        have hn := ht.append_not_digit hr
        rw [← ha rest hr]
        simp [readNumber, hn]
      | cons d' ds =>
        -- A whole part that starts with zero has no further digit.
        have hs' : d'.isDigit := hd d' <| .tail _ List.mem_cons_self
        refine ⟨none, fun rest hr => ?_⟩
        simp [readNumber, hs']
        rfl
    case neg =>
      have ⟨n, _, r, hrd, hn⟩ := exists_takeDigits maxSignificand 0 0 hd
      have ⟨a, ha⟩ := readAfterWhole_takesWhole neg n hrd ht
      refine ⟨a, fun rest hr => ?_⟩
      have hn := hn _ (ht.append_not_digit hr)
      rw [← ha rest hr]
      simp only [List.cons_append] at hn
      simp [readNumber, hs, hn]

end

-- The texts that are written for numbers without their sign.
def IsNumeral (cs : List Char) : Prop :=
  cs ≠ [] ∧ ∃ ds tail, IsDigits ds ∧ IsTail tail ∧ cs = ds ++ tail

section

open Decimal

variable {n : Nat} {k : Int} {ds : List Char} {d : Digits} {f : Float}

theorem toDigits_isDigits : IsDigits (Nat.toDigits 10 n) :=
  fun _ => Nat.isDigit_of_mem_toDigits (by decide) (by decide)

theorem zero_isDigits : IsDigits ['0'] := by
  simp [IsDigits]

theorem isNumeral_toDigits : IsNumeral (Nat.toDigits 10 n) :=
  ⟨Nat.toDigits_ne_nil, _, [], toDigits_isDigits, ⟨[], [], .inl rfl, .inl rfl, rfl⟩,
    List.append_nil _ |>.symm⟩

theorem isNumeral_point {fs : List Char} (hd : IsDigits ds) (hf : IsDigits fs) :
    IsNumeral (ds ++ '.' :: fs) :=
  ⟨by simp, ds, '.' :: fs, hd, ⟨'.' :: fs, [], .inr ⟨fs, hf, rfl⟩, .inl rfl, by simp⟩, rfl⟩

theorem shortest?_isDigits {s : Scaled} (h : shortest? s = some d) : IsDigits d.digits := by
  simp only [shortest?] at h
  split at h
  case isTrue  => contradiction
  case isFalse =>
    injection h with h
    intro c hc
    rw [← h, dropZeros, List.mem_reverse] at hc
    exact toDigits_isDigits c <| List.mem_reverse.mp <| (List.dropWhile_sublist _).subset hc

theorem replicate_isDigits : IsDigits (List.replicate n '0') := by
  intro c hc
  rw [List.eq_of_mem_replicate hc]
  rfl

theorem IsDigits.append {es : List Char} (hd : IsDigits ds) (he : IsDigits es) :
    IsDigits (ds ++ es) :=
  fun c hc => (List.mem_append.mp hc).elim (hd c) (he c)

theorem plain_isNumeral (hd : IsDigits d.digits) : IsNumeral (Number.layout.plain d) := by
  simp only [Layout.plain, Number.layout]
  split
  case isTrue =>
    exact isNumeral_point zero_isDigits <| replicate_isDigits.append hd
  case isFalse =>
    split
    case isTrue =>
      exact isNumeral_point (hd.append replicate_isDigits) zero_isDigits
    case isFalse =>
      rw [List.append_assoc]
      exact isNumeral_point (fun c hc => hd c <| List.mem_of_mem_take hc)
        fun c hc => hd c <| List.mem_of_mem_drop hc

theorem scientific_isNumeral (hd : IsDigits d.digits) : IsNumeral (scientific d) := by
  have he : IsExponent <|
      ['e', if d.exponent < 0 then '-' else '+'] ++ Nat.toDigits 10 d.exponent.natAbs := by
    refine .inr ⟨_, _, ?_, toDigits_isDigits, rfl⟩
    split <;> simp
  have hf : IsFraction <| if d.digits.drop 1 = [] then [] else '.' :: d.digits.drop 1 := by
    split
    case isTrue  => exact .inl rfl
    case isFalse => exact .inr ⟨_, fun c hc => hd c <| List.mem_of_mem_drop hc, rfl⟩
  refine ⟨by simp [scientific], d.digits.take 1, _, fun c hc => hd c <| List.mem_of_mem_take hc,
    ⟨_, _, hf, he, rfl⟩, ?_⟩
  simp [scientific]

theorem IsNumeral.head {cs : List Char} (h : IsNumeral cs) :
    ∃ c tl, cs = c :: tl ∧ (c.isDigit ∨ c = '.' ∨ c = 'e') := by
  obtain ⟨hn, ds, _, hd, ⟨_, _, hf, he, rfl⟩, rfl⟩ := h
  cases ds with
  | cons d ds => exact ⟨d, _, rfl, .inl <| hd d List.mem_cons_self⟩
  | nil =>
    rcases hf with rfl | ⟨_, _, rfl⟩
    · rcases he with rfl | ⟨_, _, _, _, rfl⟩
      · contradiction
      · exact ⟨'e', _, rfl, by simp⟩
    · exact ⟨'.', _, rfl, by simp⟩

end

end NodeEditor.Json

namespace NodeEditor.Number

open Json Decimal

-- What the text of a number reads as.
def reread (n : Number) : Option Number :=
  match n.text.toList with
  | '-' :: cs => (readNumber true cs).toOption.map Prod.fst
  | cs        => (readNumber false cs).toOption.map Prod.fst

theorem text_int (n : Int) : (Number.int n).text.toList =
    if n < 0 then '-' :: Nat.toDigits 10 n.natAbs else Nat.toDigits 10 n.natAbs := by
  simp only [text, Int.toString_eq_repr, Int.repr_eq_if]
  by_cases h : n < 0
  case pos =>
    rw [if_neg (by omega), if_pos h, String.toList_append, Nat.toList_repr]
    rw [show (-n).toNat = n.natAbs by omega]
    rfl
  case neg =>
    rw [if_pos (by omega), if_neg h, Nat.toList_repr]
    rw [show n.toNat = n.natAbs by omega]

theorem unsigned_isNumeral (s : Scaled) : IsNumeral (layout.unsigned s) := by
  simp only [Layout.unsigned]
  split
  case h_1 =>
    exact isNumeral_point zero_isDigits zero_isDigits
  case h_2 hs =>
    have hd := shortest?_isDigits hs
    split
    case isTrue  => exact plain_isNumeral hd
    case isFalse => exact scientific_isNumeral hd

theorem text_isNumeral (n : Number) :
    ∃ cs, IsNumeral cs ∧ (n.text.toList = cs ∨ n.text.toList = '-' :: cs) := by
  cases n with
  | float f =>
    refine ⟨_, unsigned_isNumeral (Scaled.ofFloat f), ?_⟩
    simp only [text, Layout.text, String.toList_ofList]
    split
    case isTrue  => exact .inr rfl
    case isFalse => exact .inl rfl
  | int n =>
    refine ⟨Nat.toDigits 10 n.natAbs, isNumeral_toDigits, ?_⟩
    rw [text_int]
    split
    case isTrue  => exact .inr rfl
    case isFalse => exact .inl rfl

theorem reread_of_minus {n : Number} {cs : List Char} (h : n.text.toList = '-' :: cs) :
    n.reread = (readNumber true cs).toOption.map Prod.fst := by
  simp [reread, h]

theorem reread_of_numeral {n : Number} (h : IsNumeral n.text.toList) :
    n.reread = (readNumber false n.text.toList).toOption.map Prod.fst := by
  have hm : ∀ cs, n.text.toList ≠ '-' :: cs := by
    intro cs hc
    obtain ⟨c, _, hh, hd⟩ := h.head
    injection hh.symm.trans hc with hh
    simp [hh] at hd
  simp only [reread]

-- Integers of 64 bits, signed or not, read as what they are.

theorem le_ofDigitChars (ds : List Char) (n : Nat) : n ≤ Nat.ofDigitChars 10 ds n := by
  induction ds generalizing n with
  | nil => exact Nat.le_refl n
  | cons d ds ih =>
    rw [Nat.ofDigitChars_cons]
    exact Nat.le_trans (by omega) (ih _)

theorem takeDigits_of_le (limit n count : Nat) {ds : List Char} (hd : IsDigits ds)
    (hl : Nat.ofDigitChars 10 ds n ≤ limit) :
    takeDigits limit n count ds = (Nat.ofDigitChars 10 ds n, count + ds.length, []) := by
  induction ds generalizing n count with
  | nil => rfl
  | cons d ds ih =>
    rw [Nat.ofDigitChars_cons] at hl ⊢
    have hs : d.isDigit := hd d List.mem_cons_self
    have hn := Nat.le_trans (le_ofDigitChars ds _) hl
    rw [takeDigits, if_pos hs, if_pos hn, ih _ _ (fun c hc => hd c <| .tail _ hc) hl,
      List.length_cons]
    simp [Nat.add_comm, Nat.add_left_comm]

theorem toDigits_head {n : Nat} (hn : 0 < n) : (Nat.toDigits 10 n).head? ≠ some '0' := by
  induction n using Nat.base_induction 10 (by decide) with
  | single m hm =>
    rw [Nat.toDigits_of_lt_base hm]
    simp only [List.head?_cons, ne_eq, Option.some.injEq, Nat.digitChar_eq_zero]
    omega
  | digit m k hk hm ih =>
    have hh := ih hm
    rw [← Nat.toDigits_append_toDigits (by decide) hm hk]
    cases hd : Nat.toDigits 10 m with
    | nil       => exact absurd hd Nat.toDigits_ne_nil
    | cons d ds => simpa [hd] using hh

theorem readNumber_toDigits (neg : Bool) {n : Nat} (hn : n ≤ maxSignificand) :
    readNumber neg (Nat.toDigits 10 n) = .ok (wholeNumber neg n, []) := by
  cases n with
  | zero => rw [Nat.toDigits_zero]; rfl
  | succ n =>
    have hd := toDigits_isDigits (n := n + 1)
    have hh := toDigits_head (n := n + 1) (by omega)
    have ht := takeDigits_of_le maxSignificand 0 0 hd <| by
      simpa using hn
    rw [Nat.ofDigitChars_ten_toDigits] at ht
    generalize Nat.toDigits 10 (n + 1) = ds at hd hh ht ⊢
    cases ds with
    | nil => simp [takeDigits] at ht
    | cons d ds =>
      have hs : d.isDigit := hd d List.mem_cons_self
      have hz : d ≠ '0' := fun hz => hh <| by simp [hz]
      simp [readNumber, hs, ht]
      rfl

theorem reread_int {n : Int} (hl : -0x8000000000000000 ≤ n) (hu : n < 0x10000000000000000) :
    (int n).reread = some (int n) := by
  have hm : n.natAbs ≤ maxSignificand := by simp only [maxSignificand]; omega
  have ht := text_int n
  split at ht
  case isTrue hn =>
    rw [reread_of_minus ht, readNumber_toDigits true hm]
    simp only [Except.toOption, Option.map_some, wholeNumber, if_true]
    rw [if_pos (by omega), show -(n.natAbs : Int) = n by omega]
  case isFalse hn =>
    rw [reread_of_numeral (ht ▸ isNumeral_toDigits), ht, readNumber_toDigits false hm]
    simp only [Except.toOption, Option.map_some, wholeNumber, Bool.false_eq_true, if_false]
    rw [show (n.natAbs : Int) = n by omega]

end NodeEditor.Number
