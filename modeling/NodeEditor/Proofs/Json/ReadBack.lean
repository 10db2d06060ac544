import NodeEditor.Proofs.Json.Sound

namespace NodeEditor

open Json

variable {r : Json → Json} {keeps : Number → Prop}

namespace Json.Rearranges

theorem null (hr : Rearranges r keeps) : r .null = .null :=
  hr.fixed trivial nofun

theorem bool (hr : Rearranges r keeps) (b : Bool) : r (.bool b) = .bool b :=
  hr.fixed trivial nofun

theorem str (hr : Rearranges r keeps) (s : String) : r (.str s) = .str s :=
  hr.fixed trivial nofun

theorem num (hr : Rearranges r keeps) {n : Number} (h : keeps n) : r (.num n) = .num n :=
  hr.fixed trivial <| by simpa [numbers] using h

end Json.Rearranges

section Reading

variable {α : Type} {read : Json → Except ShapeError α} {write : α → Json} {o : Option α}
  {as : List α} {j : Json}

theorem optional_of_ne (h : j ≠ .null) : Shape.optional read j = (read j).map some := by
  cases j <;> first | exact absurd rfl h | rfl

-- An optional value is read back if null stands for nothing else.
theorem read_ofOption (hr : Rearranges r keeps) (hz : ∀ a, read .null ≠ .ok a)
    (hk : ∀ n ∈ (Json.ofOption write o).numbers, keeps n)
    (h : ∀ a, o = some a → (∀ n ∈ (write a).numbers, keeps n) → read (r (write a)) = .ok a) :
    Shape.optional read (r (.ofOption write o)) = .ok o := by
  cases o with
  | none   => rw [ofOption, hr.null]; rfl
  | some a =>
    have h := h a rfl hk
    rw [ofOption, optional_of_ne fun hj => hz a <| hj ▸ h, h]
    rfl

theorem read_text (hr : Rearranges r keeps) (o : Option String) :
    Shape.optional Shape.text (r (.ofOption .str o)) = .ok o :=
  read_ofOption hr nofun (by cases o <;> exact nofun) fun s _ _ => by rw [hr.str]; rfl

theorem read_nat (hr : Rearranges r keeps) {bound : Nat} {name : String} {o : Option Nat}
    (hb : ∀ n, o = some n → n < bound) (hk : ∀ n ∈ (ofOption ofNat o).numbers, keeps n) :
    Shape.optional (Shape.natBelow bound name) (r (.ofOption .ofNat o)) = .ok o :=
  read_ofOption hr nofun hk fun n hn hk => by
    have := hb n hn
    rw [ofNat, hr.num <| hk _ List.mem_cons_self, Shape.natBelow, if_pos (by omega)]
    rfl

theorem read_float (hr : Rearranges r keeps) {o : Option Float}
    (hf : ∀ f, o = some f → f.isFinite) (hk : ∀ n ∈ (ofOption ofFloat o).numbers, keeps n) :
    Shape.optional Shape.float (r (.ofOption .ofFloat o)) = .ok o :=
  read_ofOption hr nofun hk fun f hs hk => by
    have hw : ofFloat f = .num (.float f) := if_pos (hf f hs)
    rw [hw] at hk ⊢
    rw [hr.num <| hk _ List.mem_cons_self]
    rfl

theorem read_list (hr : Rearranges r keeps) (hk : ∀ n ∈ (Json.arr (as.map write)).numbers, keeps n)
    (h : ∀ a ∈ as, (∀ n ∈ (write a).numbers, keeps n) → read (r (write a)) = .ok a) :
    Shape.list read (r (.arr (as.map write))) = .ok as := by
  have hk := List.forall_mem_map.mp <| forall_numbers_arr_iff.mp hk
  rw [hr.arr, List.map_map, Shape.list, List.mapM_map]
  exact mapM_ok_of_forall fun a ha => h a ha (hk a ha)

-- What is read as an optional value or as a list comes from a value or from items that are there.

theorem exists_of_optional_ok {a : α} (h : Shape.optional read j = .ok (some a)) :
    j ≠ .null ∧ read j = .ok a := by
  by_cases hj : j = .null
  case pos =>
    subst hj
    cases h
  case neg =>
    rw [optional_of_ne hj] at h
    cases hr : read j with
    | error _ => simp [hr, Except.map] at h
    | ok _    => simpa [hr, hj, Except.map] using h

theorem exists_of_list_ok {a : α} (h : Shape.list read j = .ok as) (ha : a ∈ as) :
    ∃ js, j = .arr js ∧ ∃ i ∈ js, read i = .ok a := by
  cases j with
  | arr js =>
    refine ⟨js, rfl, ?_⟩
    have hf := forall₂_of_mapM_ok h
    clear h
    induction hf with
    | nil          => cases ha
    | cons hr _ ih =>
      cases ha with
      | head      => exact ⟨_, List.mem_cons_self, hr⟩
      | tail _ ha =>
        have ⟨i, hi, hr⟩ := ih ha
        exact ⟨i, List.mem_cons_of_mem _ hi, hr⟩
  | _      => cases h

theorem lt_of_natBelow_ok {bound n : Nat} {name : String}
    (h : Shape.natBelow bound name j = .ok n) : n < bound := by
  unfold Shape.natBelow at h
  split at h
  case h_1 =>
    split at h
    · cases h
      omega
    · cases h
  case h_2 => cases h

theorem lt_of_optional_ok {bound : Nat} {name : String} {o : Option Nat}
    (h : Shape.optional (Shape.natBelow bound name) j = .ok o) : ∀ n, o = some n → n < bound :=
  fun _ hn => lt_of_natBelow_ok (exists_of_optional_ok <| hn ▸ h).right

theorem isFinite_of_optional_ok {o : Option Float} (hj : j.Sound)
    (h : Shape.optional Shape.float j = .ok o) : ∀ f, o = some f → f.isFinite := fun f hf => by
  have ⟨_, h⟩ := exists_of_optional_ok (hf ▸ h)
  cases j with
  | num n => exact Except.ok.inj h ▸ (hj.stored n <| by simp [numbers]).isFinite
  | _     => cases h

end Reading

section Numbers

variable {α : Type} {write : α → Json} {o : Option α} {as : List α}

theorem stored_ofOption (h : ∀ a, o = some a → ∀ n ∈ (write a).numbers, n.Stored) :
    ∀ n ∈ (Json.ofOption write o).numbers, n.Stored := by
  cases o with
  | none   => exact nofun
  | some a => exact h a rfl

theorem stored_text (o : Option String) : ∀ n ∈ (Json.ofOption .str o).numbers, n.Stored :=
  stored_ofOption fun _ _ => nofun

theorem stored_nat {bound : Nat} {o : Option Nat} (hb : ∀ n, o = some n → n < bound)
    (hl : bound ≤ 0x10000000000000000) : ∀ n ∈ (Json.ofOption .ofNat o).numbers, n.Stored :=
  stored_ofOption fun n hn => by
    have := hb n hn
    simp only [ofNat, numbers, List.forall_mem_singleton, Number.Stored]
    omega

theorem stored_float {o : Option Float} (hf : ∀ f, o = some f → f.isFinite) :
    ∀ n ∈ (Json.ofOption .ofFloat o).numbers, n.Stored :=
  stored_ofOption fun f hs => by
    rw [ofFloat, if_pos (hf f hs)]
    exact List.forall_mem_singleton.mpr <| hf f hs

theorem stored_list (h : ∀ a ∈ as, ∀ n ∈ (write a).numbers, n.Stored) :
    ∀ n ∈ (Json.arr (as.map write)).numbers, n.Stored :=
  forall_numbers_arr_iff.mpr <| List.forall_mem_map.mpr h

end Numbers

end NodeEditor
