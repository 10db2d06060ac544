import NodeEditor.Proofs.Pattern.Local

/-!
All readers of expressions are local, and none needs more fuel than the text has characters.
-/

namespace NodeEditor.Pattern

open Text (Intervals)
open Reader

variable {α : Type} {f : Flags}

theorem local_takeHex (f : Flags) (count : Nat) : Local (f.takeHex count) := by
  induction count with
  | zero         => exact local_pure _
  | succ count ih =>
    exact (local_skip f).bind fun _ => local_next.bind fun _ => (local_guard _).bind fun _ =>
      ih.bind fun _ => local_pure _

theorem local_takeBraced (f : Flags) : Local f.takeBraced :=
  (local_skip f).bind fun _ => local_manyUpTo _ (local_skip f)

theorem local_readHex (f : Flags) (digits : Nat) : Local (f.readHex digits) := by
  refine (local_skip f).bind fun _ => .ifFollows (by decide) ?_ ?_
  · exact (local_takeBraced f).bind fun _ => (local_lift _).bind fun _ =>
      (local_skip f).bind fun _ => local_pure _
  · exact (local_takeHex f digits).bind fun _ => (local_lift _).bind fun _ =>
      (local_skip f).bind fun _ => local_pure _

theorem local_readPropertySet (f : Flags) : Local f.readPropertySet := by
  refine (local_skip f).bind fun _ => .ifFollows (by decide) ?_ ?_
  · exact (local_takeBraced f).bind fun _ => local_lift _
  · exact local_next.bind fun _ => (local_guard _).bind fun _ => (local_skip f).bind fun _ =>
      local_lift _

theorem local_readProperty (f : Flags) (negated : Bool) : Local (f.readProperty negated) :=
  (local_guard _).bind fun _ => (local_readPropertySet f).bind fun _ => local_pure _

theorem local_readEscape (f : Flags) : Local f.readEscape := by
  refine local_next.bind fun c => ?_
  refine .ite local_fail ?_
  refine .ite ((local_readHex f 2).bind fun _ => local_pure _) ?_
  refine .ite ((local_readHex f 4).bind fun _ => local_pure _) ?_
  refine .ite ((local_readHex f 8).bind fun _ => local_pure _) ?_
  refine .ite ((local_readProperty f false).bind fun _ => local_pure _) ?_
  refine .ite ((local_readProperty f true).bind fun _ => local_pure _) ?_
  refine .ite (local_pure _) <| .ite (local_pure _) ?_
  split
  case h_12 => exact local_fail
  all_goals exact local_pure _

theorem local_readAsciiClass (f : Flags) : Local f.readAsciiClass := by
  have hw : ∀ w ∈ asciiClassWords, ')' ∉ w.1 := by decide +kernel
  refine (local_firstOf hw).bind ?_
  rintro (_ | ⟨_, _⟩) <;> exact local_pure _

theorem local_readItem (f : Flags) : Local f.readItem :=
  local_next.bind fun _ => .ite (local_readEscape f) (local_pure _)

theorem local_readSpan (f : Flags) (fuel : Nat) (first : Primitive) :
    Local (f.readSpan fuel first) := by
  induction fuel generalizing first with
  | zero         => exact local_fail
  | succ fuel ih =>
    have ha : Local (do return ([← f.alone? first], false) : Reader (List Intervals × Bool)) :=
      (local_lift _).bind fun _ => local_pure _
    refine (local_skip f).bind fun _ => .ifFollows (by decide) ?_ ha
    refine .ifFollows (by decide) ?_ ?_
    · exact (local_lift _).bind fun _ => local_pure _
    refine (local_skip f).bind fun _ => local_ahead.bind fun c => ?_
    split
    · exact (local_lift _).bind fun _ => local_pure _
    · exact (local_lift _).bind fun _ => (ih _).bind fun _ => local_pure _
    · exact (local_readItem f).bind fun _ => (local_lift _).bind fun _ => local_pure _

theorem setMarks_words : ∀ w ∈ setMarks, w.1 ≠ [] ∧ ')' ∉ w.1 := by
  simp [setMarks]

theorem local_readMarked (f : Flags) (fuel : Nat) (mark : Option SetPiece) :
    Local (f.readMarked fuel mark) := by
  rw [Flags.readMarked.eq_def]
  split
  · refine (local_readAsciiClass f).bind ?_
    rintro (_ | _) <;> exact local_pure _
  · exact local_pure _
  · exact (local_readItem f).bind fun _ => (local_readSpan f fuel _).bind fun _ => local_pure _

theorem local_readSetPiece (f : Flags) (fuel : Nat) : Local (f.readSetPiece fuel) :=
  (local_skip f).bind fun _ => (local_firstOf fun w h => (setMarks_words w h).right).bind fun _ =>
    local_readMarked ..

theorem local_openSet (f : Flags) : Local f.openSet := by
  refine (local_skip f).bind fun _ => (local_follows (by decide)).bind fun _ =>
    (local_skip f).bind fun _ => (local_manyIf (by decide) (local_skip f)).bind fun _ =>
    .ite (local_pure _) ?_
  exact .ifFollows (by decide) ((local_skip f).bind fun _ => local_pure _) (local_pure _)

theorem local_readSetBy {rest : List (Nested Intervals) → Reader (Nested Intervals)}
    (hr : ∀ members, Local (rest members)) : Local (f.readSetBy rest) :=
  (local_openSet f).bind fun _ => (hr _).bind fun _ => local_pure _

theorem local_readMembers (f : Flags) (fuel : Nat) (pending : Option (SetOp × Nested Intervals))
    (members : List (Nested Intervals)) : Local (f.readMembers fuel pending members) := by
  induction fuel generalizing pending members with
  | zero         => exact local_fail
  | succ fuel ih =>
    refine (local_readSetPiece f fuel).bind ?_
    rintro (_ | t | ⟨op, t⟩ | _)
    · exact local_pure _
    · exact ih ..
    · exact ih ..
    · exact (local_readSetBy (ih none)).bind fun _ => ih ..

theorem local_readSet (f : Flags) (fuel : Nat) : Local (f.readSet fuel) :=
  local_readSetBy (local_readMembers f fuel none)

theorem local_skipBlanks : Local skipBlanks :=
  (local_manyIf (by decide) (local_pure ())).bind fun _ => local_pure _

theorem local_readCount (f : Flags) : Local f.readCount :=
  local_skipBlanks.bind fun _ => (local_manyIf (by decide) (local_skip f)).bind fun _ =>
    local_skipBlanks.bind fun _ => (local_guard _).bind fun _ => (local_guard _).bind fun _ =>
    local_pure _

theorem local_closeBrace : Local closeBrace :=
  local_next.bind fun _ => local_guard _

theorem local_readMost (f : Flags) (least : Nat) : Local (f.readMost least) := by
  refine .ifFollows (by decide) ?_ ?_
  · exact (local_skip f).bind fun _ => .ifFollows (by decide) (local_pure _) <|
      (local_readCount f).bind fun _ => local_closeBrace.bind fun _ => (local_guard _).bind fun _ =>
      local_pure _
  · exact local_closeBrace.bind fun _ => local_pure _

theorem local_readLazy : Local readLazy :=
  (local_follows (by decide)).bind fun _ => local_pure _

theorem local_readBounds (f : Flags) : Local f.readBounds :=
  (local_skip f).bind fun _ => (local_readCount f).bind fun _ => (local_readMost f _).bind fun _ =>
    (local_skip f).bind fun _ => local_readLazy.bind fun _ => local_pure _

theorem local_readBoundary (f : Flags) : Local f.readBoundary := by
  refine .ifFollows (by decide) ?_ (local_pure _)
  refine (local_skip f).bind fun _ => local_ahead.bind ?_
  rintro (_ | c)
  · exact local_fail
  · exact .ite ((local_takeBraced f).bind fun _ => (local_lift _).bind fun _ => local_pure _)
      ((local_readBounds f).bind fun _ => local_pure _)

theorem local_readNamed (f : Flags) : Local f.readNamed :=
  (local_manyUpTo _ (local_pure ())).bind fun _ => (local_guard _).bind fun _ => local_pure _

theorem local_readFlags (f : Flags) : Local f.readFlags := by
  refine (local_manyIf (by decide) (local_pure ())).bind fun _ => local_next.bind fun _ =>
    (local_lift _).bind fun _ => .ite (local_pure _) ?_
  exact (local_guard _).bind fun _ => local_pure _

theorem local_readOpening (f : Flags) : Local f.readOpening :=
  (local_skip f).bind fun _ => .ifFollows (by decide) (local_readNamed f) <|
    .ifFollows (by decide) (local_readNamed f) <|
    .ifFollows (by decide) (local_readFlags f) (local_pure _)

theorem local_readAfter (f : Flags) (c : Option Char) : Local (f.readAfter c) := by
  have hi (p : Primitive) : Local (do return .item (.flat (← f.primitive? p)) : Reader Piece) :=
    (local_lift _).bind fun _ => local_pure _
  have hr (least : Nat) (most : Option Nat) :
      Local (do readLazy; return Piece.repeated least most : Reader Piece) :=
    local_readLazy.bind fun _ => local_pure _
  rw [Flags.readAfter.eq_def]
  split
  · exact local_pure _
  · exact local_pure _
  · exact local_readOpening f
  · exact local_pure _
  · exact hr ..
  · exact hr ..
  · exact hr ..
  · exact (local_readBounds f).bind fun _ => local_pure _
  · exact .ifFollows (by decide) ((local_readBoundary f).bind fun _ => local_pure _)
      ((local_readEscape f).bind fun _ => hi _)
  · exact hi _
  · exact local_pure _
  · exact local_pure _
  · exact hi _

theorem local_readPiece (f : Flags) : Local f.readPiece :=
  (local_skip f).bind fun _ => (local_takeIf (by decide)).bind fun _ => local_readAfter ..

theorem takes_readItem (f : Flags) (p : Primitive) : Takes f.readItem p :=
  .bind local_next (fun _ => .ite (local_readEscape f) (local_pure _)) fun _ => .inl (takes_next _)

theorem takes_readSetPiece (f : Flags) (fuel : Nat) (piece : SetPiece) :
    Takes (f.readSetPiece fuel) piece := by
  have hm := local_readMarked f fuel
  have hf : Local (firstOf setMarks) := local_firstOf fun w h => (setMarks_words w h).right
  refine .bind (local_skip f) (fun _ => hf.bind hm) fun _ => .inr <| .bind hf hm ?_
  rintro (_ | _)
  · exact .inr <| .bind (local_readItem f) (fun _ => (local_readSpan f fuel _).bind fun _ =>
      local_pure _) fun p => .inl (takes_readItem f p)
  · exact .inl (takes_firstOf setMarks_words _)

theorem takes_readPiece (f : Flags) {piece : Piece} (h : piece ≠ .stop) :
    Takes f.readPiece piece := by
  have ht : Local (takeIf (· ≠ ')')) := local_takeIf (by decide)
  have ha := local_readAfter f
  refine .bind (local_skip f) (fun _ => ht.bind ha) fun _ => .inr <| .bind ht ha ?_
  rintro (_ | c)
  · exact .inr (takes_pure h.symm)
  · exact .inl (takes_takeIf _ c)

section

variable {n m : Nat}

theorem agree_readSpan (hn : n ≤ m) (first : Primitive) :
    AgreeBelow n (f.readSpan n first) (f.readSpan m first) := by
  induction n generalizing m first with
  | zero      => exact fun _ h => absurd h (Nat.not_lt_zero _)
  | succ n ih =>
    obtain _ | m := m
    · cases hn
    refine AgreeBelow.rfl.bind (local_skip f) fun _ => AgreeBelow.rfl.after ?_ fun _ => .ite ?_ .rfl
    · rintro (_ | _)
      · exact .inr rfl
      · exact .inl (takes_follows nofun)
    refine AgreeBelow.rfl.bind (local_follows (by decide)) fun _ => .ite .rfl ?_
    refine AgreeBelow.rfl.bind (local_skip f) fun _ => AgreeBelow.rfl.bind local_ahead fun c => ?_
    split
    · exact .rfl
    · exact AgreeBelow.rfl.bind (local_lift _) fun _ =>
        (ih (Nat.le_of_succ_le_succ hn) _).bind (local_readSpan f n _) fun _ => .rfl
    · exact .rfl

theorem agree_readSetPiece (hn : n ≤ m) :
    AgreeBelow (n + 1) (f.readSetPiece n) (f.readSetPiece m) := by
  refine AgreeBelow.rfl.bind (local_skip f) fun _ =>
    AgreeBelow.rfl.bind (local_firstOf fun w h => (setMarks_words w h).right) fun mark => ?_
  rw [Flags.readMarked.eq_def, Flags.readMarked.eq_def]
  split
  · exact .rfl
  · exact .rfl
  · exact AgreeBelow.rfl.after (fun p => .inl (takes_readItem f p)) fun _ =>
      (agree_readSpan hn _).bind (local_readSpan f n _) fun _ => .rfl

theorem agree_readSetBy {rest rest' : List (Nested Intervals) → Reader (Nested Intervals)}
    (hl : ∀ members, Local (rest members))
    (h : ∀ members, AgreeBelow n (rest members) (rest' members)) :
    AgreeBelow n (f.readSetBy rest) (f.readSetBy rest') :=
  AgreeBelow.rfl.bind (local_openSet f) fun _ => (h _).bind (hl _) fun _ => .rfl

theorem agree_readMembers (hn : n ≤ m) (pending : Option (SetOp × Nested Intervals))
    (members : List (Nested Intervals)) :
    AgreeBelow n (f.readMembers n pending members) (f.readMembers m pending members) := by
  induction n generalizing m pending members with
  | zero      => exact fun _ h => absurd h (Nat.not_lt_zero _)
  | succ n ih =>
    obtain _ | m := m
    · cases hn
    have hn := Nat.le_of_succ_le_succ hn
    refine (agree_readSetPiece hn).after (fun p => .inl (takes_readSetPiece f n p)) ?_
    rintro (_ | t | ⟨op, t⟩ | _)
    · exact .rfl
    · exact ih hn _ _
    · exact ih hn _ _
    · exact (agree_readSetBy (local_readMembers f n none) (ih hn none)).bind
        (local_readSetBy (local_readMembers f n none)) fun _ => ih hn _ _

theorem agree_readSet (hn : n ≤ m) (f : Flags) : AgreeBelow n (f.readSet n) (f.readSet m) :=
  agree_readSetBy (local_readMembers f n none) (agree_readMembers hn none)

end

namespace Group

variable {goOn goOn' : Group → Reader Group}
  {readSet readSet' : Flags → Reader (Nested Intervals)}

theorem local_after (hg : ∀ g, Local (goOn g)) (hs : ∀ f, Local (readSet f)) (g : Group)
    (piece : Piece) : Local (g.after goOn readSet piece) := by
  cases piece with
  | stop               => exact local_pure _
  | bar                => exact hg _
  | item r             => exact hg _
  | repeated least most => exact (local_lift _).bind fun _ => hg _
  | flags f            => exact hg _
  | set                =>
    exact (hs _).bind fun _ => (local_lift _).bind fun _ => hg _
  | group inner name   =>
    exact (local_lift _).bind fun _ => (hg _).bind fun _ => local_next.bind fun _ =>
      (local_guard _).bind fun _ => hg _

theorem local_read (fuel : Nat) (g : Group) : Local (Group.read fuel g) := by
  induction fuel generalizing g with
  | zero         => exact local_fail
  | succ fuel ih =>
    exact (local_readPiece _).bind fun _ => local_after ih (fun f => local_readSet f fuel) ..

theorem agree_after {n : Nat} (hg : ∀ g, Local (goOn g)) (hs : ∀ f, Local (readSet f))
    (hg' : ∀ g, AgreeBelow n (goOn g) (goOn' g)) (hs' : ∀ f, AgreeBelow n (readSet f) (readSet' f))
    (g : Group) (piece : Piece) :
    AgreeBelow n (g.after goOn readSet piece) (g.after goOn' readSet' piece) := by
  cases piece with
  | stop               => exact .rfl
  | bar                => exact hg' _
  | item r             => exact hg' _
  | repeated least most => exact AgreeBelow.rfl.bind (local_lift _) fun _ => hg' _
  | flags f            => exact hg' _
  | set                =>
    exact (hs' _).bind (hs _) fun _ => AgreeBelow.rfl.bind (local_lift _) fun _ => hg' _
  | group inner name   =>
    exact AgreeBelow.rfl.bind (local_lift _) fun _ => (hg' _).bind (hg _) fun _ =>
      AgreeBelow.rfl.bind local_next fun _ => AgreeBelow.rfl.bind (local_guard _) fun _ => hg' _

theorem settled_read (g : Group) : Settled (read · g) := by
  intro n
  induction n generalizing g with
  | zero      => exact fun _ _ _ h => absurd h (Nat.not_lt_zero _)
  | succ n ih =>
    rintro (_ | m) hn
    · cases hn
    have hn := Nat.le_of_succ_le_succ hn
    refine AgreeBelow.rfl.after (fun piece => ?_) <| agree_after (local_read n)
      (fun f => local_readSet f n) (fun g => ih g hn) (agree_readSet hn) g
    by_cases h : piece = .stop
    case pos => exact .inr (h ▸ rfl)
    case neg => exact .inl (takes_readPiece _ h)

end Group

end NodeEditor.Pattern
