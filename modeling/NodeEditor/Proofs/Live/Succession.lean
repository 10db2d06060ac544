import NodeEditor.Proofs.Live.Charge
import NodeEditor.Proofs.Live.Scene

namespace NodeEditor

namespace Controller

theorem unmount_unmount (c : Controller) : c.unmount.unmount = c.unmount :=
  if_neg <| by rw [Scene.unmount_mounted c]; exact Bool.false_ne_true

end Controller

namespace Session

variable {s s' : Session} {a : Act} {as : List Act} {node : NodeId} {place i : Nat}
  {places : List Nat} {c : Controller}

section Handed

theorem handed_unmountAt (s : Session) (place i : Nat) : (s.unmountAt place).handed[i]? =
    s.handed[i]?.map fun c => if place = i then c.unmount else c := by
  rw [unmountAt, List.getElem?_modify]
  split <;> rfl

theorem handed_foldl_unmountAt (s : Session) (places : List Nat) (i : Nat) :
    (places.foldl unmountAt s).handed[i]? =
      s.handed[i]?.map fun c => if i ∈ places then c.unmount else c := by
  induction places generalizing s with
  | nil                => simp
  | cons place rest ih =>
    rw [List.foldl_cons, ih, handed_unmountAt, Option.map_map]
    refine congrArg (Option.map · _) <| funext fun c => ?_
    by_cases hp : place = i <;> by_cases hr : i ∈ rest <;>
      simp [hp, hr, Ne.symm, Controller.unmount_unmount]

theorem handed_close (s : Session) (i : Nat) : s.close.handed[i]? =
    s.handed[i]?.map fun c => if i ∈ s.inCharge.map Prod.snd then c.unmount else c := by
  have hf : s.close.handed = ((s.inCharge.map Prod.snd).foldl unmountAt s).handed := by
    rw [List.foldl_map]
    rfl
  rw [hf, handed_foldl_unmountAt]

theorem handed_removeNode (s : Session) (node : NodeId) (i : Nat) :
    (s.removeNode node).2.handed[i]? =
      s.handed[i]?.map fun c => if s.inCharge.lookup node = some i then c.unmount else c := by
  simp only [removeNode]
  cases hl : s.inCharge.lookup node with
  | none       => simp [withStore]
  | some place =>
    simp only [Option.some.injEq]
    exact s.handed_unmountAt place i

theorem inCharge_after_remove (s : Session) (node : NodeId) :
    (s.after (.remove node)).inCharge = s.inCharge.filter (·.1 ≠ node) := by
  cases s.after_restaffs (.remove node) with
  | same _ hd _ _  => exact absurd .remove <| hd node
  | dismiss hi _   => exact hi

end Handed

-- Whoever is mounted is in charge of the node.
def Seated (s : Session) : Prop :=
  ∀ place c, s.handed[place]? = some c → c.mounted → s.inCharge.lookup c.node = some place

-- Who is mounted after some have been unmounted is not one of them.
theorem mounted_of_map {o : Option Controller} {p : Prop} [Decidable p]
    (h : (o.map fun c => if p then c.unmount else c) = some c) (hm : c.mounted) :
    ¬p ∧ o = some c := by
  have ⟨c₀, ho, hc⟩ := Option.map_eq_some_iff.mp h
  split at hc
  case isTrue    =>
    rw [← hc, Scene.unmount_mounted c₀] at hm
    contradiction
  case isFalse hp => exact ⟨hp, hc ▸ ho⟩

namespace Seated

theorem not_mounted_close (h : s.Seated) (i : Nat) (c : Controller)
    (hc : s.close.handed[i]? = some c) : ¬c.mounted := by
  intro hm
  rw [handed_close] at hc
  have ⟨hi, hc⟩ := mounted_of_map hc hm
  have ⟨_, _, hl, _⟩ := List.lookup_eq_some_iff.mp <| h i c hc hm
  exact hi <| by simp [hl]

theorem congr (h : s.Seated) (hh : s'.handed = s.handed) (hi : s'.inCharge = s.inCharge) :
    s'.Seated := by
  rw [Seated, hh, hi]
  exact h

theorem hire (h : s.Seated) {t : NodeType} (hl : s.inCharge.lookup node = none) :
    Seated { s with
      handed   := s.handed ++ [.mount node t]
      inCharge := (node, s.handed.length) :: s.inCharge } := by
  intro place c hc hm
  rw [List.lookup_cons]
  rw [List.getElem?_append] at hc
  split at hc
  case isTrue hp  =>
    have hs := h place c hc hm
    have hn : c.node ≠ node := fun he => by simp [he, hl] at hs
    rwa [beq_false_of_ne hn]
  case isFalse hp =>
    rw [List.getElem?_singleton] at hc
    split at hc
    case isFalse    => contradiction
    case isTrue hp' =>
      cases hc
      have hp : place = s.handed.length := by omega
      simp [Controller.mount, hp]

theorem unmountAt (h : s.Seated) (place : Nat) : (s.unmountAt place).Seated := by
  intro i c hc hm
  rw [handed_unmountAt] at hc
  exact h i c (mounted_of_map hc hm).right hm

theorem remove (h : s.Seated) (node : NodeId) : (s.after (.remove node)).Seated := by
  intro i c hc hm
  have hc : (s.removeNode node).2.handed[i]? = some c := hc
  rw [handed_removeNode] at hc
  have ⟨hl, hc⟩ := mounted_of_map hc hm
  have hs := h i c hc hm
  have hn : c.node ≠ node := fun he => hl <| he ▸ hs
  rw [inCharge_after_remove, lookup_filter_ne, if_neg hn, hs]

theorem close (h : s.Seated) : s.close.Seated := by
  intro i c hc hm
  exact absurd hm <| not_mounted_close h i c hc

theorem after (h : s.Seated) (a : Act) : (s.after a).Seated := by
  cases a
  case place type position =>
    simp only [Session.after, placeNode]
    cases s.catalog.get? type
    all_goals exact h.congr rfl rfl
  case paste text =>
    simp only [Session.after, Session.paste]
    split
    all_goals exact h.congr rfl rfl
  case store call    => exact h.congr rfl rfl
  case close         => exact h.close
  case unmount place => exact h.unmountAt place
  case remove node   => exact h.remove node
  case controller node =>
    cases hl : s.inCharge.lookup node with
    | some place =>
      simp only [Session.after, controller?_of_lookup hl]
      exact h
    | none       =>
      simp only [Session.after, controller?_of_lookup_none hl]
      cases s.kind? node with
      | none   => exact h
      | some t => exact h.hire hl

theorem run (h : s.Seated) (as : List Act) : (s.run as).Seated := by
  induction as generalizing s with
  | nil         => exact h
  | cons a _ ih => exact ih <| h.after a

-- There is one in charge of a node.
theorem unique (h : s.Seated) {j : Nat} {c' : Controller} (hc : s.handed[i]? = some c)
    (hc' : s.handed[j]? = some c') (hn : c.node = c'.node) (hm : c.mounted) (hm' : c'.mounted) :
    i = j := by
  have hi := h i c hc hm
  have hj := h j c' hc' hm'
  rw [hn, hj] at hi
  exact Option.some.inj hi.symm

theorem not_mounted_remove (h : s.Seated) (hc : (s.after (.remove node)).handed[i]? = some c)
    (hn : c.node = node) : ¬c.mounted := by
  intro hm
  have hs := h.remove node i c hc hm
  rw [inCharge_after_remove, lookup_filter_ne, if_pos hn] at hs
  contradiction

end Seated

section Records

theorem posts_foldl_unmountAt (s : Session) (places : List Nat) :
    (places.foldl unmountAt s).posts = s.posts := by
  induction places generalizing s with
  | nil               => rfl
  | cons place _ ih   => exact (ih _).trans posts_unmountAt

theorem posts_close (s : Session) : s.close.posts = s.posts := by
  have hp : s.close.posts = ((s.inCharge.map Prod.snd).foldl unmountAt s).posts := by
    rw [List.foldl_map]
    rfl
  rw [hp, posts_foldl_unmountAt]

theorem Restaffs.posts_grow (r : s.Restaffs a s') (ha : a ≠ .close) : s.posts <+: s'.posts := by
  cases r with
  | same _ _ _ hp => exact hp ▸ List.prefix_refl _
  | idle _        => exact List.prefix_refl _
  | hire _ _ _ hp => exact hp ▸ List.prefix_append ..
  | dismiss _ hp  => exact hp ▸ List.prefix_refl _
  | close _       => contradiction

-- What was handed out stays on record, in its place and for its node.
theorem posts_after (s : Session) (a : Act) : s.posts <+: (s.after a).posts := by
  by_cases ha : a = .close
  case pos =>
    have hp : (s.after a).posts = s.posts := ha ▸ s.posts_close
    exact hp ▸ List.prefix_refl _
  case neg => exact (s.after_restaffs a).posts_grow ha

theorem after_controller (h : s.controller? node = some (place, s')) :
    s.after (.controller node) = s' := by
  simp [after, h]

-- What is handed out is on record, and in charge from then on.
theorem lookup_of_controller? (hs : s.Staffed) (h : s.controller? node = some (place, s')) :
    s'.inCharge.lookup node = some place ∧ ∃ c, s'.handed[place]? = some c ∧ c.node = node := by
  cases hl : s.inCharge.lookup node with
  | some p =>
    cases (controller?_of_lookup hl).symm.trans h
    have ⟨_, _, hp⟩ := charge?_of_lookup hs hl
    have ⟨c, hc, hn, _⟩ := handed_of_posts hp
    exact ⟨hl, c, hc, hn⟩
  | none   =>
    rw [controller?_of_lookup_none hl] at h
    have ⟨t, _, ht⟩ := Option.map_eq_some_iff.mp h
    cases ht
    exact ⟨by simp, .mount node t, by simp, rfl⟩

end Records

variable (catalog : Catalog) (store : Store) (settings : Settings)

theorem start_seated : (start catalog store settings).Seated := by
  intro place c hc
  cases hc

theorem start_staffed : (start catalog store settings).Staffed := by
  intro node place h
  cases h

-- Of all controllers that were ever handed out for a node at most one is mounted, and that is the
-- one that is handed out. Once a node is removed none of its controllers is mounted, and after the
-- session is closed none at all.
theorem mounted_unique (as : List Act) :
    let s := (start catalog store settings).run as
    (∀ (i j : Nat) (c c' : Controller), s.handed[i]? = some c → s.handed[j]? = some c' →
      c.node = c'.node → c.mounted → c'.mounted → i = j) ∧
    (∀ node, ∀ c ∈ (s.after (.remove node)).handed, c.node = node → ¬c.mounted) ∧
    (∀ c ∈ (s.after .close).handed, ¬c.mounted) ∧
    (∀ a, s.posts <+: (s.after a).posts) ∧
    ∀ node place s', s.controller? node = some (place, s') →
      (∃ c, s'.handed[place]? = some c ∧ c.node = node) ∧
      ∀ (i : Nat) (c : Controller), s'.handed[i]? = some c → c.node = node → c.mounted →
        i = place := by
  intro s
  have hs : s.Seated := (start_seated catalog store settings).run as
  have hf : s.Staffed := run_staffed (start_staffed catalog store settings) as
  refine ⟨fun i j c c' hc hc' hn hm hm' => hs.unique hc hc' hn hm hm', fun node c hc hn => ?_,
    fun c hc => ?_, s.posts_after, fun node place s' h => ?_⟩
  · have ⟨i, hi⟩ := List.mem_iff_getElem?.mp hc
    exact hs.not_mounted_remove hi hn
  · have ⟨i, hi⟩ := List.mem_iff_getElem?.mp hc
    exact hs.not_mounted_close i c hi
  · have ⟨hl, hc⟩ := lookup_of_controller? hf h
    have hs' : s'.Seated := after_controller h ▸ hs.after _
    refine ⟨hc, fun i c hi hn hm => ?_⟩
    have hi := hs' i c hi hm
    rw [hn, hl] at hi
    exact Option.some.inj hi.symm

-- The node is removed and then put back, so that it gets a second controller.
theorem mounted_unique_successor :
    let t := NodeType.plain "transform" "Transform"
    let n : Node :=
      { id := ⟨"t"⟩, type := t.type, position := { x := 0, y := 0 }, data := .empty }
    let g := Graph.empty.push n
    let as : List Act :=
      [.controller ⟨"t"⟩, .remove ⟨"t"⟩, .store (.replace g), .controller ⟨"t"⟩]
    let s := (start (.ofList [t]) (.ofGraph g 0) .standard).run as
    s.handed.map (fun c => (c.node, c.mounted)) = [(⟨"t"⟩, false), (⟨"t"⟩, true)] ∧
    (∀ (i : Nat) (c : Controller), s.handed[i]? = some c → c.node = ⟨"t"⟩ → c.mounted → i = 1) ∧
    ∀ c ∈ (s.after .close).handed, ¬c.mounted := by
  intro t n g as s
  have ⟨_, _, closed, _, given⟩ := mounted_unique (.ofList [t]) (.ofGraph g 0) .standard as
  exact ⟨rfl, (given ⟨"t"⟩ 1 s rfl).right, closed⟩

end Session

end NodeEditor
