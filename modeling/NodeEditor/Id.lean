import NodeEditor.Text.Blank

/-!
Names of nodes, edges and credentials. Names that come from outside are kept as they are; names
made here are drawn from a supply of serials, and a name that is taken is passed over, so a fresh
name is never one of the names in use.
-/

namespace NodeEditor

inductive IdKind where
  | node
  | edge
  | credential
deriving DecidableEq, Repr

namespace IdKind

def stem : IdKind → String
  | .node => "node"
  | .edge => "edge"
  | .credential => "cred"

def title : IdKind → String
  | .node => "NodeId"
  | .edge => "EdgeId"
  | .credential => "CredentialId"

end IdKind

inductive IdError where
  | empty (kind : IdKind)
deriving DecidableEq, Repr

def IdError.message : IdError → String
  | .empty kind => s!"failed to parse {kind.title}: identifier is empty"

structure Id (kind : IdKind) where
  text : String
deriving DecidableEq, Repr

abbrev NodeId := Id .node

abbrev EdgeId := Id .edge

abbrev CredentialId := Id .credential

namespace Id

variable {kind : IdKind}

instance : Inhabited (Id kind) := ⟨⟨""⟩⟩

-- Reads a name: blanks around it are dropped, and something must be left.
def parse (kind : IdKind) (s : String) : Except IdError (Id kind) :=
  let name := Text.trim s
  if name = "" then .error (.empty kind) else .ok ⟨name⟩

def ofSerial (kind : IdKind) (serial : String) : Id kind :=
  ⟨kind.stem ++ "_" ++ serial⟩

theorem ofSerial_injective {s t : String} (h : ofSerial kind s = ofSerial kind t) : s = t := by
  have h := congrArg (String.toList ∘ Id.text) h
  simpa [ofSerial, ← String.toList_inj] using h

end Id

-- The serials from which new names are made, in the order in which they are drawn. Whatever names
-- are taken, a serial whose name is free is drawn sooner or later.
structure Supply where
  serial : Nat → String
  endless (kind : IdKind) (taken : List (Id kind)) (n : Nat) :
    ∃ m, n ≤ m ∧ Id.ofSerial kind (serial m) ∉ taken

namespace Supply

variable {kind : IdKind}

def name (s : Supply) (kind : IdKind) (n : Nat) : Id kind :=
  .ofSerial kind (s.serial n)

-- Going on past taken names comes to an end, since a free one is ahead.
theorem draws_wellFounded (s : Supply) (taken : List (Id kind)) :
    WellFounded fun m n => m = n + 1 ∧ s.name kind n ∈ taken := by
  refine ⟨fun n => ?_⟩
  obtain ⟨m, hm, free⟩ := s.endless kind taken n
  obtain ⟨k, rfl⟩ := Nat.exists_eq_add_of_le hm
  induction k generalizing n with
  | zero => exact ⟨_, fun _ h => absurd h.2 free⟩
  | succ k ih =>
    refine ⟨_, fun _ h => h.1 ▸ ih (n + 1) (Nat.le_add_right ..) ?_⟩
    rwa [Nat.add_right_comm]

-- The first number from `n` on whose name is not taken.
def firstFree (s : Supply) (taken : List (Id kind)) (n : Nat) : Nat :=
  if s.name kind n ∈ taken then s.firstFree taken (n + 1) else n
termination_by (s.draws_wellFounded taken).wrap n
decreasing_by exact ⟨rfl, ‹_›⟩

theorem firstFree_free (s : Supply) (taken : List (Id kind)) (n : Nat) :
    s.name kind (s.firstFree taken n) ∉ taken := by
  fun_induction firstFree s taken n <;> assumption

-- A name that is not taken, and the number to go on from.
def fresh (s : Supply) (taken : List (Id kind)) (next : Nat) : Id kind × Nat :=
  let n := s.firstFree taken next
  (s.name kind n, n + 1)

theorem fresh_not_mem (s : Supply) (taken : List (Id kind)) (next : Nat) :
    (s.fresh taken next).1 ∉ taken :=
  s.firstFree_free taken next

-- As many names as wanted that are neither taken nor equal to each other, and the number to go on
-- from.
def freshNames (s : Supply) (taken : List (Id kind)) : Nat → Nat → List (Id kind) × Nat
  | 0, next => ([], next)
  | count + 1, next =>
    let (id, next) := s.fresh taken next
    let (ids, next) := s.freshNames (id :: taken) count next
    (id :: ids, next)

def digits (n : Nat) : String :=
  let ds := Nat.toDigits 10 n
  String.ofList (List.replicate (26 - ds.length) '0' ++ ds)

theorem digits_injective {m n : Nat} (h : digits m = digits n) : m = n := by
  have value (n : Nat) : Nat.ofDigitChars 10 (digits n).toList 0 = n := by
    simp [digits, Nat.ofDigitChars_append, Nat.ofDigitChars_replicate_zero]
  rw [← value m, h, value n]

def counted : Supply where
  serial := digits
  endless kind taken n := by
    induction taken generalizing n with
    | nil => exact ⟨n, Nat.le_refl n, by simp⟩
    | cons id ids ih =>
      obtain ⟨m, hm, free⟩ := ih n
      by_cases h : .ofSerial kind (digits m) = id
      · obtain ⟨k, hk, free'⟩ := ih (m + 1)
        refine ⟨k, by omega, ?_⟩
        simp only [List.mem_cons, not_or]
        refine ⟨fun h' => ?_, free'⟩
        have := digits_injective <| Id.ofSerial_injective <| h'.trans h.symm
        omega
      · exact ⟨m, hm, by simp [h, free]⟩

end Supply

end NodeEditor
