import Mathlib.Data.List.Basic
import NodeEditor.Pattern.Reading

/-!
Reading is local: what a reader makes of a text does not depend on what comes after a closing
parenthesis that it does not take. Only a comment at the end of the text goes on behind it.
-/

namespace NodeEditor.Pattern

open Reader

variable {α β : Type} {F F' : Reader α} {G G' : α → Reader β} {cs rest t : List Char} {a a' : α}
  {b : β}

theorem Reader.bind_eq_some_iff : (F >>= G) cs = some (b, rest) ↔
    ∃ a mid, F cs = some (a, mid) ∧ G a mid = some (b, rest) := by
  simp [bind, StateT.bind, Option.bind_eq_some_iff]

-- What a reader gives for a text, it gives for the text with a closing parenthesis after it too,
-- and stops in front of that or, in a comment, at the end of its line. If it stops before the
-- parenthesis then it gives the same for the text alone.
structure Local (F : Reader α) : Prop where
  suffix : ∀ {cs a rest}, F cs = some (a, rest) → rest <:+ cs
  onward : ∀ {cs a rest}, F cs = some (a, rest) →
    (∀ t, F (cs ++ ')' :: t) = some (a, rest ++ ')' :: t)) ∨
      cs ≠ [] ∧ rest = [] ∧ ∀ t, '\n' ∉ t → F (cs ++ ')' :: t) = some (a, [])
  back : ∀ {cs t a rest}, F (cs ++ ')' :: t) = some (a, rest) →
    rest <:+ t ∨ ∃ before, F cs = some (a, before) ∧ rest = before ++ ')' :: t

theorem Local.of_rigid (hs : ∀ {cs a rest}, F cs = some (a, rest) → rest <:+ cs)
    (h : ∀ cs t, F (cs ++ ')' :: t) = (F cs).map fun r => (r.1, r.2 ++ ')' :: t)) : Local F where
  suffix := hs
  onward hf := .inl fun t => by rw [h, hf, Option.map_some]
  back hf := by
    rw [h, Option.map_eq_some_iff] at hf
    obtain ⟨⟨_, before⟩, hf, he⟩ := hf
    cases he
    exact .inr ⟨before, hf, rfl⟩

theorem Local.bind (hf : Local F) (hg : ∀ a, Local (G a)) : Local (F >>= G) where
  suffix h := by
    obtain ⟨a, mid, h, h'⟩ := bind_eq_some_iff.mp h
    exact ((hg a).suffix h').trans (hf.suffix h)
  onward h := by
    obtain ⟨a, mid, h, h'⟩ := bind_eq_some_iff.mp h
    rcases hf.onward h with hm | ⟨hc, rfl, hm⟩
    · rcases (hg a).onward h' with hr | ⟨hc, rfl, hr⟩
      · exact .inl fun t => bind_eq_some_iff.mpr ⟨a, _, hm t, hr t⟩
      · refine .inr ⟨?_, rfl, fun t ht => bind_eq_some_iff.mpr ⟨a, _, hm t, hr t ht⟩⟩
        rintro rfl
        exact hc <| List.suffix_nil.mp (hf.suffix ‹F [] = _›)
    · obtain rfl := List.suffix_nil.mp ((hg a).suffix h')
      exact .inr ⟨hc, rfl, fun t ht => bind_eq_some_iff.mpr ⟨a, _, hm t ht, h'⟩⟩
  back h := by
    obtain ⟨a, mid, h, h'⟩ := bind_eq_some_iff.mp h
    rcases hf.back h with hm | ⟨before, hb, rfl⟩
    · exact .inl <| ((hg a).suffix h').trans hm
    · refine ((hg a).back h').imp_right ?_
      rintro ⟨mid, hm, rfl⟩
      exact ⟨mid, bind_eq_some_iff.mpr ⟨a, before, hb, hm⟩, rfl⟩

theorem Local.ite {p : Prop} [Decidable p] (ht : Local F) (he : Local F') :
    Local (if p then F else F') := by
  split
  · exact ht
  · exact he

theorem local_pure (a : α) : Local (pure a : Reader α) :=
  .of_rigid (fun h => by cases h; exact List.suffix_rfl) fun _ _ => rfl

theorem local_fail : Local (failure : Reader α) :=
  .of_rigid nofun fun _ _ => rfl

theorem local_lift (o : Option α) : Local (liftM o : Reader α) := by
  cases o with
  | none   => exact local_fail
  | some a => exact local_pure a

theorem local_guard (p : Prop) [Decidable p] : Local (guard p : Reader Unit) :=
  .ite (local_pure ()) local_fail

theorem local_next : Local next where
  suffix {cs _ _} h := by
    cases cs <;> cases h
    exact List.suffix_cons ..
  onward {cs _ _} h := by
    cases cs <;> cases h
    exact .inl fun _ => rfl
  back {cs _ _ _} h := by
    cases cs <;> cases h
    · exact .inl List.suffix_rfl
    · exact .inr ⟨_, rfl, rfl⟩

theorem local_ahead : Local ahead :=
  .of_rigid (fun h => by cases h; exact List.suffix_rfl) <| by
    rintro (_ | ⟨c, cs⟩) t <;> rfl

theorem local_takeIf {p : Char → Bool} (hp : p ')' = false) : Local (takeIf p) := by
  refine .of_rigid ?_ ?_
  · rintro (_ | ⟨c, cs⟩) _ _ h
    · cases h
      exact List.suffix_rfl
    · rw [takeIf] at h
      split at h <;> cases h
      · exact List.suffix_cons ..
      · exact List.suffix_rfl
  · rintro (_ | ⟨c, cs⟩) t
    · simp [takeIf, hp]
    · by_cases h : p c <;> simp [takeIf, h]

theorem local_takeUpTo (mark : Char) : Local (takeUpTo mark) :=
  local_next.bind fun _ => local_pure _

theorem isPrefixOf_append {word : List Char} (hw : ')' ∉ word) :
    word.isPrefixOf (cs ++ ')' :: t) = word.isPrefixOf cs := by
  induction word generalizing cs with
  | nil           => simp
  | cons c rest ih =>
    have hc : (c == ')') = false := beq_false_of_ne fun h => hw (h ▸ List.mem_cons_self)
    cases cs with
    | nil      => simp [List.isPrefixOf, hc]
    | cons d _ => simp [List.isPrefixOf, ih fun h => hw (List.mem_cons_of_mem _ h)]

theorem local_follows {word : List Char} (hw : ')' ∉ word) : Local (follows word) := by
  refine .of_rigid (fun h => ?_) fun cs t => ?_
  · rw [follows] at h
    split at h <;> cases h
    · exact List.drop_suffix ..
    · exact List.suffix_rfl
  · rw [follows, follows, isPrefixOf_append hw]
    by_cases h : word.isPrefixOf cs
    case pos =>
      have hl := (List.isPrefixOf_iff_prefix.mp h).length_le
      simp [h, List.drop_append_of_le_length hl]
    case neg => simp [h]

theorem Local.ifFollows {word : List Char} (hw : ')' ∉ word) (ht : Local F) (he : Local F') :
    Local (do if ← follows word then F else F') :=
  (local_follows hw).bind fun _ => .ite ht he

theorem local_firstOf {words : List (List Char × α)} (hw : ∀ w ∈ words, ')' ∉ w.1) :
    Local (firstOf words) := by
  induction words with
  | nil           => exact local_pure none
  | cons w others ih =>
    have hw := List.forall_mem_cons.mp hw
    exact .ifFollows hw.left (local_pure _) (ih hw.right)

theorem dropSpaced_suffix {b : Bool} : dropSpaced b cs <:+ cs := by
  induction cs generalizing b with
  | nil          => exact List.nil_suffix
  | cons c cs ih =>
    have hs {b : Bool} : dropSpaced b cs <:+ c :: cs := ih.trans (List.suffix_cons ..)
    cases b with
    | true  => exact hs
    | false =>
      rw [dropSpaced]
      repeat' split
      · exact hs
      · exact hs
      · exact List.suffix_rfl

theorem dropSpaced_comment (ht : '\n' ∉ t) : dropSpaced true t = [] := by
  induction t with
  | nil          => rfl
  | cons c cs ih =>
    have hc : c ≠ '\n' := fun h => ht (h ▸ List.mem_cons_self)
    simpa [dropSpaced, hc] using ih fun h => ht (List.mem_cons_of_mem _ h)

-- A comment at the end of the text goes on behind the parenthesis.
theorem dropSpaced_append (inComment : Bool) (cs : List Char) :
    (∀ t, dropSpaced inComment (cs ++ ')' :: t) = dropSpaced inComment cs ++ ')' :: t) ∨
      (inComment ∨ cs ≠ []) ∧ dropSpaced inComment cs = [] ∧
      ∀ t, dropSpaced inComment (cs ++ ')' :: t) = dropSpaced true t := by
  induction cs generalizing inComment with
  | nil =>
    cases inComment with
    | true  => exact .inr ⟨.inl rfl, rfl, fun _ => rfl⟩
    | false => exact .inl fun _ => rfl
  | cons c cs ih =>
    have hi (b : Bool) := (ih b).imp_right fun h =>
      And.intro (Or.inr (List.cons_ne_nil c cs) : inComment ∨ c :: cs ≠ []) h.right
    cases inComment with
    | true  => exact hi _
    | false =>
      simp only [List.cons_append, dropSpaced]
      split
      · exact hi _
      split
      · exact hi _
      · exact .inl fun _ => rfl

theorem local_skip (f : Flags) : Local f.skip := by
  cases hf : f.spaced with
  | false =>
    have : f.skip = pure () := funext fun cs => by
      rw [Flags.skip, hf]
      rfl
    rw [this]
    exact local_pure ()
  | true  =>
    have : f.skip = fun cs => some ((), dropSpaced false cs) :=
      funext fun cs => by rw [Flags.skip, if_pos hf]
    rw [this]
    refine ⟨?_, ?_, ?_⟩
    · rintro cs _ _ ⟨⟩
      exact dropSpaced_suffix
    · rintro cs _ _ ⟨⟩
      rcases dropSpaced_append false cs with h | ⟨hc, he, h⟩
      · exact .inl fun t => by rw [h]
      · exact .inr ⟨hc.resolve_left Bool.false_ne_true, he,
          fun t ht => by rw [h, dropSpaced_comment ht]⟩
    · rintro cs t _ _ ⟨⟩
      rcases dropSpaced_append false cs with h | ⟨-, -, h⟩
      · exact .inr ⟨_, rfl, h t⟩
      · exact .inl <| h t ▸ dropSpaced_suffix

-- Whenever the reader gives this, it has taken something.
def Takes (F : Reader α) (a : α) : Prop :=
  ∀ ⦃cs rest⦄, F cs = some (a, rest) → rest.length < cs.length

theorem Takes.bind (hf : Local F) (hg : ∀ a, Local (G a)) (h : ∀ a, Takes F a ∨ Takes (G a) b) :
    Takes (F >>= G) b := by
  intro cs rest hb
  obtain ⟨a, mid, hm, hr⟩ := bind_eq_some_iff.mp hb
  have hl := (hf.suffix hm).length_le
  have hl' := ((hg a).suffix hr).length_le
  rcases h a with ht | ht
  · exact Nat.lt_of_le_of_lt hl' (ht hm)
  · exact Nat.lt_of_lt_of_le (ht hr) hl

theorem takes_pure (h : a ≠ a') : Takes (pure a : Reader α) a' := by
  rintro cs rest ⟨⟩
  exact absurd rfl h

theorem takes_next (c : Char) : Takes next c := by
  rintro (_ | ⟨c, cs⟩) _ ⟨⟩
  exact Nat.lt_succ_self _

theorem takes_takeIf (p : Char → Bool) (c : Char) : Takes (takeIf p) (some c) := by
  rintro (_ | ⟨c, cs⟩) _ h
  · cases h
  · rw [takeIf] at h
    split at h <;> cases h
    exact Nat.lt_succ_self _

theorem takes_takeUpTo (mark : Char) (c : Option Char) : Takes (takeUpTo mark) c :=
  .bind local_next (fun _ => local_pure _) fun _ => .inl <| takes_next _

theorem takes_follows {word : List Char} (hw : word ≠ []) : Takes (follows word) true := by
  intro cs rest h
  rw [follows] at h
  split at h <;> cases h
  have hp := (List.isPrefixOf_iff_prefix.mp ‹_›).length_le
  have := List.length_pos_iff.mpr hw
  rw [List.length_drop]
  omega

theorem takes_firstOf {words : List (List Char × α)} (hw : ∀ w ∈ words, w.1 ≠ [] ∧ ')' ∉ w.1)
    (a : α) : Takes (firstOf words) (some a) := by
  induction words with
  | nil           => exact takes_pure nofun
  | cons w others ih =>
    have hw := List.forall_mem_cons.mp hw
    have hl : Local (firstOf others) := local_firstOf fun w h => (hw.right w h).right
    refine .bind (local_follows hw.left.right) (fun _ => .ite (local_pure _) hl) ?_
    rintro (_ | _)
    · exact .inr (ih hw.right)
    · exact .inl (takes_follows hw.left.left)

section

variable {n m : Nat} {R : Nat → Reader α}

-- Two readers that do the same on all texts shorter than a bound.
def AgreeBelow (n : Nat) (F F' : Reader α) : Prop :=
  ∀ cs, cs.length < n → F cs = F' cs

theorem AgreeBelow.rfl : AgreeBelow n F F :=
  fun _ _ => Eq.refl _

theorem AgreeBelow.bind (hl : Local F) (h : AgreeBelow n F F')
    (hg : ∀ a, AgreeBelow n (G a) (G' a)) : AgreeBelow n (F >>= G) (F' >>= G') := by
  intro cs hc
  simp only [Bind.bind, StateT.bind, ← h cs hc]
  cases hf : F cs with
  | none   => exact Eq.refl _
  | some r => exact hg _ _ <| Nat.lt_of_le_of_lt (hl.suffix hf).length_le hc

theorem AgreeBelow.ite {p : Prop} [Decidable p] {E E' : Reader α} (ht : AgreeBelow n F F')
    (he : AgreeBelow n E E') : AgreeBelow n (if p then F else E) (if p then F' else E') := by
  split
  · exact ht
  · exact he

-- Once something is taken, what follows need agree on shorter texts only.
theorem AgreeBelow.after (h : AgreeBelow (n + 1) F F') (ht : ∀ a, Takes F a ∨ G a = G' a)
    (hg : ∀ a, AgreeBelow n (G a) (G' a)) : AgreeBelow (n + 1) (F >>= G) (F' >>= G') := by
  intro cs hc
  simp only [Bind.bind, StateT.bind, ← h cs hc]
  cases hf : F cs with
  | none   => exact Eq.refl _
  | some r =>
    rcases ht r.1 with ht | he
    · exact hg _ _ <| by have := ht hf; omega
    · exact congrFun he _

-- More fuel than the text has characters makes no difference.
def Settled (R : Nat → Reader α) : Prop :=
  ∀ ⦃n m⦄, n ≤ m → AgreeBelow n (R n) (R m)

theorem Settled.eq (hs : Settled R) (h : cs.length < n) : R n cs = R (cs.length + 1) cs :=
  (hs h cs (Nat.lt_succ_self _)).symm

theorem length_lt_append : cs.length < (cs ++ t).length + 1 := by
  rw [List.length_append]
  omega

theorem Local.of_settled (hl : ∀ n, Local (R n)) (hs : Settled R) :
    Local fun cs => R (cs.length + 1) cs where
  suffix h := (hl _).suffix h
  onward {cs a rest} h := by
    -- What is read with the parenthesis alone after the text decides for all that may come then.
    have hp (t : List Char) : R ((cs ++ ')' :: t).length + 1) (cs ++ [')']) =
        R ((cs ++ [')']).length + 1) (cs ++ [')']) := hs.eq (by simp)
    have hl (t : List Char) := (hl ((cs ++ ')' :: t).length + 1)).onward <|
      (hs.eq length_lt_append).trans h
    rcases hl [] with hs | ⟨hc, rfl, hs⟩
    · refine .inl fun t => (hl t).elim (fun h => h t) ?_
      rintro ⟨-, rfl, ht⟩
      have := (ht [] (by simp)).symm.trans <| (hp t).trans (hs [])
      simp at this
    · refine .inr ⟨hc, rfl, fun t ht => (hl t).elim (fun h => ?_) fun h => h.right.right t ht⟩
      have := (h []).symm.trans <| (hp t).trans (hs [] (by simp))
      simp at this
  back {cs t a rest} h := by
    have hn : R ((cs ++ ')' :: t).length + 1) cs = R (cs.length + 1) cs := hs.eq length_lt_append
    exact hn ▸ (hl _).back h

section

variable {one : Reader (Option Char)} {between : Reader Unit}

theorem local_manyWithin (ho : Local one) (hb : Local between) (fuel : Nat) :
    Local (manyWithin one between fuel) := by
  induction fuel with
  | zero         => exact local_fail
  | succ fuel ih =>
    refine ho.bind ?_
    rintro (_ | c)
    · exact local_pure _
    · exact hb.bind fun _ => ih.bind fun _ => local_pure _

theorem settled_manyWithin (ho : Local one) (ht : ∀ c, Takes one (some c)) (hb : Local between) :
    Settled (manyWithin one between) := by
  intro n
  induction n with
  | zero      => exact fun _ _ _ h => absurd h (Nat.not_lt_zero _)
  | succ n ih =>
    rintro (_ | m) hm
    · cases hm
    refine AgreeBelow.rfl.after ?_ ?_
    · rintro (_ | c)
      · exact .inr (Eq.refl _)
      · exact .inl (ht c)
    · rintro (_ | c)
      · exact .rfl
      · exact AgreeBelow.rfl.bind hb fun _ =>
          (ih (Nat.le_of_succ_le_succ hm)).bind (local_manyWithin ho hb n) fun _ => .rfl

theorem local_many (ho : Local one) (ht : ∀ c, Takes one (some c)) (hb : Local between) :
    Local (many one between) :=
  .of_settled (local_manyWithin ho hb) (settled_manyWithin ho ht hb)

theorem local_manyIf {p : Char → Bool} (hp : p ')' = false) (hb : Local between) :
    Local (many (takeIf p) between) :=
  local_many (local_takeIf hp) (takes_takeIf p) hb

theorem local_manyUpTo (mark : Char) (hb : Local between) :
    Local (many (takeUpTo mark) between) :=
  local_many (local_takeUpTo mark) (fun c => takes_takeUpTo mark c) hb

end

end

end NodeEditor.Pattern
