import NodeEditor.Live.Rehearsal
import NodeEditor.Proofs.Live.Scene

namespace NodeEditor

namespace Rehearsal

-- What is around the controllers of a rehearsal.
def world (r : Rehearsal) : World where
  store          := r.session.store
  forms          := r.session.forms
  scrapeDefaults := r.session.scrapeDefaults
  now            := r.now
  clock          := r.session.clock

variable {r r' : Rehearsal} {s : Scene} {place other n fuel : Nat} {task : Option String}
  {numbered : List (HeldAction × Nat)}

-- The numbers of two actions differ if both are held back at the place.
def Differ (place : Nat) (a b : HeldAction × Nat) : Prop :=
  a.1.place = place → b.1.place = place → a.2 ≠ b.2

-- The scene is one of the controller at the place: all that is held back there waits in the scene,
-- under numbers of its own. What is held back elsewhere has a number too, which does not matter.
structure Mirrors (r : Rehearsal) (place : Nat) (s : Scene) (numbered : List (HeldAction × Nat)) :
    Prop where
  world      : s.world = r.world
  controller : r.session.handed[place]? = some s.controller
  held       : numbered.map (·.1) = r.held
  waiting    : ∀ h n, (h, n) ∈ numbered → h.place = place → (n, h.wait) ∈ s.waiting
  distinct   : numbered.Pairwise (Differ place)

-- The number is that of none of the actions that are held back at the place.
def Unused (place n : Nat) (numbered : List (HeldAction × Nat)) : Prop :=
  ∀ h k, (h, k) ∈ numbered → h.place = place → k ≠ n

namespace Mirrors

theorem absorb (m : r.Mirrors place s numbered) (t : Stretch) :
    (r.absorb place t).Mirrors place (s.absorb n t) numbered where
  world           := m.world
  controller      := by
    have hp := (List.getElem?_eq_some_iff.mp m.controller).choose
    exact List.getElem?_set_self hp
  held            := m.held
  waiting h k hk e := Scene.mem_waiting_absorb.mpr <| .inl <| m.waiting h k hk e
  distinct        := m.distinct

theorem absorb_other (m : r.Mirrors place s numbered) (hp : other ≠ place) (t : Stretch) :
    (r.absorb other t).Mirrors place s numbered where
  world      := m.world
  controller := (List.getElem?_set_ne hp).trans m.controller
  held       := m.held
  waiting    := m.waiting
  distinct   := m.distinct

theorem wake (m : r.Mirrors place s numbered) (hn : Unused place n numbered) :
    r.Mirrors place (s.wake n) numbered where
  world            := m.world
  controller       := m.controller
  held             := m.held
  waiting h k hk e := List.mem_filter.mpr ⟨m.waiting h k hk e, by simpa using hn h k hk e⟩
  distinct         := m.distinct

theorem hold (m : r.Mirrors place s numbered) {h : HeldAction}
    (hw : h.place = place → (n, h.wait) ∈ s.waiting)
    (hn : h.place = place → Unused place n numbered) :
    { r with held := r.held ++ [h] }.Mirrors place s (numbered ++ [(h, n)]) where
  world            := m.world
  controller       := m.controller
  held             := by simp [m.held]
  waiting k j hk e := by
    cases List.mem_append.mp hk with
    | inl hk => exact m.waiting k j hk e
    | inr hk =>
      cases List.mem_singleton.mp hk
      exact hw e
  distinct         := by
    refine List.pairwise_append.mpr ⟨m.distinct, List.pairwise_singleton .., ?_⟩
    intro a ha b hb ea eb
    cases List.mem_singleton.mp hb
    exact hn eb a.1 a.2 ha ea

end Mirrors

-- To look for a cue and to go through its gate leaves the session and what is held back.
structure Reads (r r' : Rehearsal) : Prop where
  session : r'.session = r.session
  now     : r'.now = r.now
  held    : r'.held = r.held

theorem takeCue_reads (r : Rehearsal) (call : String) : r.Reads (r.takeCue call).2 := by
  simp only [takeCue]
  split
  all_goals exact ⟨rfl, rfl, rfl⟩

theorem Reads.call (h : r.Reads r') (calls : List Call) : r.Reads { r' with calls := calls } :=
  ⟨h.session, h.now, h.held⟩

theorem Reads.pass {cue : Cue} {r₁ r₂ : Rehearsal} (h : r.Reads r₁) (hp : r₁.pass? cue = some r₂) :
    r.Reads r₂ := by
  simp only [pass?] at hp
  split at hp
  case h_1 =>
    cases hp
    exact h
  case h_2 =>
    split at hp <;> cases hp
    exact ⟨h.session, h.now, h.held⟩

theorem Mirrors.reads (m : r.Mirrors place s numbered) (h : r.Reads r') :
    r'.Mirrors place s numbered where
  world      := by rw [m.world, Rehearsal.world, Rehearsal.world, h.session, h.now]
  controller := h.session ▸ m.controller
  held       := h.held ▸ m.held
  waiting    := m.waiting
  distinct   := m.distinct

theorem carryOn_ended {t : Stretch} {e : Ending} (h : t.progress = .ended e) :
    carryOn place task fuel r t = (some e, r.absorb place t) := by
  rw [carryOn.eq_def]
  simp only [h]

-- An action that waits gets its answer at once and goes on, or it is held back.
theorem carryOn_waiting (r : Rehearsal) (place : Nat) (task : Option String) (fuel : Nat)
    {t : Stretch} {w : Wait} (h : t.progress = .waiting w) :
    ∃ r', (r.absorb place t).Reads r' ∧
      ((∃ fuel' < fuel, ∃ cue, carryOn place task fuel r t =
        carryOn place task fuel' r' (r'.arrival t.controller w cue)) ∨
      ∃ a : HeldAction, a.place = place ∧ a.wait = w ∧
        (carryOn place task fuel r t).2 = { r' with held := r'.held ++ [a] }) := by
  rw [carryOn.eq_def]
  simp only [h]
  have hr := ((r.absorb place t).takeCue_reads (w.call t.controller.node).name).call <|
    ((r.absorb place t).takeCue (w.call t.controller.node).name).2.calls ++
      [w.call t.controller.node]
  split
  case h_1 hp => exact ⟨_, hr.pass hp, .inl ⟨_, Nat.lt_succ_self _, _, rfl⟩⟩
  case h_2    => exact ⟨_, hr, .inr ⟨{ wait := w, .. }, rfl, rfl, rfl⟩⟩

-- What is answered at once is an event that follows at once.
theorem carryOn_mirrors (task : Option String) (fuel : Nat) (m : r.Mirrors place s numbered)
    (hn : Unused place n numbered) (t : Stretch) :
    ∃ es numbered', (carryOn place task fuel r t).2.Mirrors place ((s.absorb n t).run es)
      numbered' := by
  induction fuel using Nat.strongRecOn generalizing r s t with
  | _ fuel ih =>
    cases ht : t.progress with
    | ended e   =>
      rw [carryOn_ended ht]
      exact ⟨[], numbered, m.absorb t⟩
    | waiting w =>
      have ⟨r', hr, hc⟩ := carryOn_waiting r place task fuel ht
      have m' := (m.absorb (n := n) t).reads hr
      have hw : (n, w) ∈ (s.absorb n t).waiting := Scene.mem_waiting_absorb.mpr <| .inr ⟨rfl, ht⟩
      cases hc with
      | inl hc =>
        have ⟨fuel', hf, cue, hc⟩ := hc
        have ⟨es, numbered', h⟩ := ih fuel' hf (m'.wake hn) (r'.arrival t.controller w cue)
        refine ⟨.answer n w (cue.answer w) :: es, numbered', ?_⟩
        rw [hc, Scene.run_cons, Scene.after_answer hw, m'.world]
        exact h
      | inr hc =>
        obtain ⟨a, rfl, rfl, hc⟩ := hc
        rw [hc]
        exact ⟨[], _, m'.hold (fun _ => hw) (fun _ => hn)⟩

theorem carryOn_other (task : Option String) (fuel : Nat) (m : r.Mirrors place s numbered)
    (hp : other ≠ place) (t : Stretch) :
    ∃ numbered', (carryOn other task fuel r t).2.Mirrors place s numbered' := by
  induction fuel using Nat.strongRecOn generalizing r t with
  | _ fuel ih =>
    have m' := m.absorb_other hp t
    cases ht : t.progress with
    | ended e   =>
      rw [carryOn_ended ht]
      exact ⟨numbered, m'⟩
    | waiting w =>
      have ⟨r', hr, hc⟩ := carryOn_waiting r other task fuel ht
      cases hc with
      | inl hc =>
        have ⟨fuel', hf, cue, hc⟩ := hc
        rw [hc]
        exact ih fuel' hf (m'.reads hr) _
      | inr hc =>
        obtain ⟨a, rfl, rfl, hc⟩ := hc
        rw [hc]
        exact ⟨_, (m'.reads hr).hold (n := 0) (absurd · hp) (absurd · hp)⟩

theorem play_reads (r : Rehearsal) (place : Nat) (task : Option String) (t : Stretch) :
    (carryOn place task callLimit r t).2.Reads (r.play place task t).2 := by
  simp only [play]
  split
  all_goals exact ⟨rfl, rfl, rfl⟩

theorem play_mirrors (m : r.Mirrors place s numbered) (hn : Unused place n numbered)
    (task : Option String) (t : Stretch) :
    ∃ es numbered', (r.play place task t).2.Mirrors place ((s.absorb n t).run es) numbered' := by
  have ⟨es, numbered', m'⟩ := carryOn_mirrors task callLimit m hn t
  exact ⟨es, numbered', m'.reads <| r.play_reads place task t⟩

theorem play_other (m : r.Mirrors place s numbered) (hp : other ≠ place) (task : Option String)
    (t : Stretch) : ∃ numbered', (r.play other task t).2.Mirrors place s numbered' := by
  have ⟨numbered', m'⟩ := carryOn_other task callLimit m hp t
  exact ⟨numbered', m'.reads <| r.play_reads other task t⟩

theorem Differ.symm {a b : HeldAction × Nat} (h : Differ place a b) : Differ place b a :=
  fun hb ha => (h ha hb).symm

-- One of the actions is held back no more.
theorem Mirrors.take (m : r.Mirrors place s numbered) {a : HeldAction}
    {before after : List HeldAction} (hh : r.held = before ++ a :: after) :
    ∃ k rest, { r with held := before ++ after }.Mirrors place s rest ∧
      (a.place = place → (k, a.wait) ∈ s.waiting ∧ Unused place k rest) := by
  have ⟨l₁, l, hl, h₁, h⟩ := List.map_eq_append_iff.mp <| m.held.trans hh
  have ⟨⟨a', k⟩, l₂, hk, ha, h₂⟩ := List.map_eq_cons_iff.mp h
  subst hl hk ha h₁ h₂
  refine ⟨k, l₁ ++ l₂, ?_, fun hp => ⟨m.waiting a' k (by simp) hp, ?_⟩⟩
  · have sub : (l₁ ++ l₂).Sublist (l₁ ++ (a', k) :: l₂) := by simp
    exact {
      world            := m.world
      controller       := m.controller
      held             := List.map_append
      waiting h j hj e := m.waiting h j (sub.subset hj) e
      distinct         := m.distinct.sublist sub }
  · intro b j hj hb
    have hd := (List.pairwise_middle Differ.symm).mp m.distinct
    exact ((List.rel_of_pairwise_cons hd hj) hp hb).symm

-- What a rehearsal does with the first action that is held back at a gate.
theorem release_cases (r : Rehearsal) (gate : String) :
    r.Reads (r.release gate) ∨
    ∃ a before after, r.held = before ++ a :: after ∧
      let r' := { r with held := before ++ after }
      (r.session.handed[a.place]? = none ∧ r.release gate = r') ∨
      ∃ c, r.session.handed[a.place]? = some c ∧
        r.release gate = (r'.play a.place a.task (r'.arrival c a.wait a.cue)).2 := by
  cases hf : r.held.find? (·.gate = gate) with
  | none   => exact .inl <| by simp only [release, hf]; exact ⟨rfl, rfl, rfl⟩
  | some a =>
    have ⟨hg, before, after, hh, hb⟩ := List.find?_eq_some_iff_append.mp hf
    have he : r.held.eraseP (·.gate = gate) = before ++ after := by
      rw [hh, List.eraseP_append_right _ (by simpa using hb), List.eraseP_cons, hg]
      rfl
    refine .inr ⟨a, before, after, hh, ?_⟩
    simp only [release, hf, he]
    cases hc : r.session.handed[a.place]? with
    | none   => exact .inl ⟨rfl, rfl⟩
    | some c => exact .inr ⟨c, rfl, rfl⟩

-- The scene is one that the rehearsal has come to at the place. What it then does with actions is a
-- run of events there, so that it shows nothing but what runs of scenes come to.
def Stages (r : Rehearsal) (place : Nat) (s : Scene) : Prop :=
  s.Orderly ∧ ∃ numbered, r.Mirrors place s numbered

theorem mount_stages {node : NodeId} {type : NodeType}
    (hc : r.session.handed[place]? = some (.mount node type))
    (hh : ∀ a ∈ r.held, a.place ≠ place) : r.Stages place (r.world.mount node type) := by
  have held {a : HeldAction × Nat} (ha : a ∈ r.held.map (·, 0)) : a.1.place ≠ place := by
    have ⟨a, hm, e⟩ := List.mem_map.mp ha
    exact e ▸ hh a hm
  refine ⟨.mount r.world node type, r.held.map (·, 0), {
    world           := rfl
    controller      := hc
    held            := by rw [List.map_map]; exact List.map_id _
    waiting _ _ h e := absurd e <| held h
    distinct        := ?_ }⟩
  exact List.Pairwise.imp_of_mem (fun ha _ _ e => absurd e <| held ha) <|
    List.pairwise_of_forall fun _ _ => trivial

theorem play_stages (h : r.Stages place s) (task : Option String) (e : Errand) :
    ∃ es, (r.play place task (e.start s.controller (r.session.surroundings r.now))).2.Stages place
      (s.run (.start e :: es)) := by
  have ⟨o, numbered, m⟩ := h
  have hn : Unused place s.errands.length numbered := fun a k hk ha hl =>
    o.not_waiting (Nat.le_of_eq hl.symm) <| m.waiting a k hk ha
  have m' : r.Mirrors place (s.enlist e) numbered :=
    ⟨m.world, m.controller, m.held, m.waiting, m.distinct⟩
  have ⟨es, rest, hr⟩ := play_mirrors m' hn task <|
    e.start s.controller (r.session.surroundings r.now)
  refine ⟨es, o.run _, rest, ?_⟩
  rw [Scene.run_cons, Scene.after, m.world]
  exact hr

theorem play_other_stages (h : r.Stages place s) (hp : other ≠ place) (task : Option String)
    (t : Stretch) : (r.play other task t).2.Stages place s :=
  ⟨h.left, play_other h.right.choose_spec hp task t⟩

-- What the controller does by itself.
theorem put_stages (h : r.Stages place s) (e : Event) (hw : (s.after e).world = s.world)
    (hq : (s.after e).waiting = s.waiting) :
    { r with session := r.session.put place (s.after e).controller }.Stages place (s.after e) := by
  have ⟨o, numbered, m⟩ := h
  have hp := (List.getElem?_eq_some_iff.mp m.controller).choose
  refine ⟨o.after e, numbered, {
    world      := hw.trans m.world
    controller := List.getElem?_set_self hp
    held       := m.held
    waiting    := hq ▸ m.waiting
    distinct   := m.distinct }⟩

theorem elapse_stages (h : r.Stages place s) (nanos : Nat) :
    ∃ es, { r with session := r.session.elapse nanos }.Stages place (s.run es) := by
  have ⟨o, numbered, m⟩ := h
  let clock := r.session.clock + nanos
  refine ⟨(s.controller.dueTicks clock).map .tick ++ [.elsewhere s.world.store s.world.now clock],
    o.run _, numbered, ?_⟩
  rw [Scene.run_append, Scene.run_dueTicks]
  exact {
    world      := by simp only [Scene.run, List.foldl, Scene.after, Scene.put, m.world]; rfl
    controller := by
      have hc := congrArg (Option.map (·.elapse clock)) m.controller
      exact List.getElem?_map.trans hc
    held       := m.held
    waiting    := m.waiting
    distinct   := m.distinct }

theorem release_stages (h : r.Stages place s) (gate : String) :
    ∃ es, (r.release gate).Stages place (s.run es) := by
  have ⟨o, numbered, m⟩ := h
  cases r.release_cases gate with
  | inl hr => exact ⟨[], o, numbered, m.reads hr⟩
  | inr hr =>
    have ⟨a, before, after, hh, hr⟩ := hr
    have ⟨k, rest, m', hk⟩ := m.take hh
    cases hr with
    | inl hr =>
      rw [hr.right]
      exact ⟨[], o, rest, m'⟩
    | inr hr =>
      have ⟨c, hc, hr⟩ := hr
      rw [hr]
      by_cases hp : a.place = place
      case neg =>
        exact ⟨[], o, play_other m' hp a.task _⟩
      case pos =>
        subst hp
        have ⟨hw, hn⟩ := hk rfl
        cases hc.symm.trans m.controller
        have ⟨es, rest', hr⟩ := play_mirrors (m'.wake hn) hn a.task <|
          s.controller.resume (r.session.surroundings r.now) a.wait (a.cue.answer a.wait)
        refine ⟨.answer k a.wait (a.cue.answer a.wait) :: es, o.run _, rest', ?_⟩
        rw [Scene.run_cons, Scene.after_answer hw, m.world]
        exact hr

end Rehearsal

end NodeEditor
