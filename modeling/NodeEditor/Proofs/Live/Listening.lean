import NodeEditor.Proofs.Live.Scene

namespace NodeEditor

namespace Controller

variable {c c' : Controller} {p : Part} {w : Wait}

-- Whether the controller shows that it listens.
def isListening (c : Controller) : Bool :=
  c.live.webhook.listening

theorem Changes.isListening_eq (h : c.Changes p c') (hp : p ≠ .webhook) :
    c'.isListening = c.isListening := by
  rw [isListening, h.webhook_eq hp, isListening]

theorem recordEvent_isListening (c : Controller) (receivedAt : Time.Moment) (payload : Json) :
    (c.recordEvent receivedAt payload).2.isListening = c.isListening := by
  simp only [recordEvent]
  split
  all_goals rfl

theorem startListening_isListening (hm : c.mounted) : c.startListening.controller.isListening := by
  simp only [startListening, hm]
  split
  case isTrue  => contradiction
  case isFalse =>
    split
    case isTrue h => exact h
    case isFalse  => rfl

-- Only a controller that does not listen goes to the backend to start it.
theorem startListening_waiting (h : c.startListening.progress = .waiting w) :
    ¬c.isListening := by
  intro hl
  simp only [startListening, isListening] at h hl
  rw [if_pos hl] at h
  split at h <;> cases h

theorem resumeStopListening_isListening (hm : c.mounted) :
    c.resumeStopListening.controller.isListening = false := by
  rw [resumeStopListening, if_pos hm]
  rfl

theorem resumeStartListening_isListening (hm : c.mounted) (answer : Except TransportError Unit) :
    (c.resumeStartListening answer).controller.isListening = (c.isListening && answer.isOk) := by
  cases answer <;> simp [resumeStartListening, hm, isListening, Except.isOk, Except.toBool, ends,
    endsWith, withWebhook]

theorem unmount_isListening (hm : c.mounted) : c.unmount.isListening = false := by
  rw [unmount, if_pos hm]
  rfl

end Controller

namespace Scene

variable {s s' : Scene} {e : Event} {es : List Event} {n m : Nat}

-- What makes a controller listen no more: to unmount it, the answer to a stop, whatever it is, and
-- the refusal of a start.
inductive Clears (s : Scene) : Event → Prop
  | unmount : s.Clears .unmount
  | stopped {n reply} : (n, .stopListening) ∈ s.waiting → s.Clears (.answer n .stopListening reply)
  | refused {n error} :
    (n, .startListening) ∈ s.waiting → s.Clears (.answer n .startListening (.error error))

-- While a controller is mounted and listens, it is just these events after which it does not.
theorem after_isListening_iff (hm : s.controller.mounted) (hl : s.controller.isListening)
    (e : Event) : (s.after e).controller.isListening ↔ ¬s.Clears e := by
  have untouched {p : Part} (hp : e.part? = some p) (hw : p ≠ .webhook) :
      (s.after e).controller.isListening :=
    ((after_changes hp).isListening_eq hw).trans hl
  cases e
  case unmount =>
    exact iff_of_false (Bool.eq_false_iff.mp <| Controller.unmount_isListening hm) (· .unmount)
  case record payload =>
    refine iff_of_true ?_ nofun
    exact (s.controller.recordEvent_isListening _ payload).trans hl
  case start e =>
    refine iff_of_true ?_ nofun
    cases e
    case startListening => exact Controller.startListening_isListening hm
    case stopListening  => exact hl
    all_goals exact untouched rfl nofun
  case answer n w reply =>
    by_cases hw : (n, w) ∈ s.waiting
    case neg =>
      rw [after_answer_of_not_mem hw]
      refine iff_of_true hl fun h => ?_
      cases h <;> contradiction
    case pos =>
      cases w
      case stopListening =>
        refine iff_of_false ?_ (· <| .stopped hw)
        rw [after_answer hw]
        exact Bool.eq_false_iff.mp <| Controller.resumeStopListening_isListening hm
      case startListening =>
        have hr := Controller.resumeStartListening_isListening hm reply
        rw [after_answer hw]
        cases reply with
        | ok _    => exact iff_of_true (hr.trans <| by rw [hl]; rfl) nofun
        | error _ =>
          refine iff_of_false ?_ (· <| .refused hw)
          exact Bool.eq_false_iff.mp <| hr.trans <| Bool.and_false _
      all_goals exact iff_of_true (untouched rfl nofun) nofun
  all_goals exact iff_of_true (untouched rfl nofun) nofun

-- A start waits for an answer only if it was called while the controller did not listen.
theorem startListening_mem_waiting_after (h : (m, .startListening) ∈ (s.after e).waiting) :
    (m, .startListening) ∈ s.waiting ∨ ¬s.controller.isListening := by
  by_cases he : e.onErrand
  case neg =>
    obtain ⟨_, _, hs⟩ := s.after_of_not_onErrand he
    rw [hs] at h
    exact .inl h
  case pos =>
  cases e <;> cases he
  case start e =>
    cases mem_waiting_absorb.mp h with
    | inl h => exact .inl h
    | inr h =>
      cases Controller.start_awaits h.right
      exact .inr <| Controller.startListening_waiting h.right
  case answer n w reply =>
    by_cases hw : (n, w) ∈ s.waiting
    case neg => exact .inl <| after_answer_of_not_mem hw ▸ h
    case pos =>
      rw [after_answer hw] at h
      cases mem_waiting_absorb.mp h with
      | inl h => exact .inl (List.mem_filter.mp h).left
      | inr h =>
        have ⟨_, _, he⟩ := Controller.resume_waiting h.right
        contradiction

-- The controller listens, and no start after the one with this number waits for the backend.
structure Holds (s : Scene) (n : Nat) : Prop where
  listening : s.controller.isListening
  latest    : ∀ m, (m, .startListening) ∈ s.waiting → m ≤ n

namespace Holds

theorem start (o : s.Orderly) (hm : s.controller.mounted) :
    (s.after (.start .startListening)).Holds s.errands.length where
  listening  := Controller.startListening_isListening hm
  latest m h := by
    cases mem_waiting_absorb.mp h with
    | inl h => exact Nat.le_of_not_ge fun hn => o.not_waiting hn h
    | inr h => exact Nat.le_of_eq h.left

theorem after (h : s.Holds n) (hm : s.controller.mounted) (hc : ¬s.Clears e) :
    (s.after e).Holds n where
  listening   := (after_isListening_iff hm h.listening e).mpr hc
  latest m hw := by
    cases startListening_mem_waiting_after hw with
    | inl hw => exact h.latest m hw
    | inr hl => exact absurd h.listening hl

end Holds

-- From a scene to a later one the controller stays mounted, no stop completes, and no start that
-- was called before the first of them is refused.
structure Stands (s s' : Scene) : Prop where
  mounted : s'.controller.mounted
  stops   : ∀ k x, s'.errands[k]? = some .stopListening → (k, x) ∈ s'.ended → (k, x) ∈ s.ended
  starts  : ∀ k < s.errands.length, s'.errands[k]? = some .startListening →
    (k, .accepted false) ∈ s'.ended → (k, .accepted false) ∈ s.ended

-- Here `s₀` is the scene in which the start was called, and `s'` is the last one. A stop or a
-- refusal in between would be on record in `s'`, but not in `s₀`, since what waits has not ended.
theorem Holds.not_clears {s₀ : Scene} (h : s.Holds s₀.errands.length) (o : s.Orderly)
    (o' : s'.Orderly) (g : s₀.Grows s) (g' : (s.after e).Grows s') (st : s₀.Stands s')
    (hx : (s₀.errands.length, .accepted true) ∈ s'.ended) : ¬s.Clears e := by
  have mounted := (s.after_grows e).mounted <| g'.mounted st.mounted
  intro hc
  cases hc
  case unmount =>
    have hm : s.controller.unmount.mounted := g'.mounted st.mounted
    rw [unmount_mounted] at hm
    contradiction
  case stopped k reply hw =>
    have ⟨_, he, ha⟩ := o.awaits k _ hw
    cases ha
    have hk : (k, .settled) ∈ s'.ended := by
      refine g'.ended ?_
      rw [after_answer hw]
      exact mem_ended_absorb.mpr <| .inr ⟨rfl, rfl⟩
    have he := g'.errand <| (s.after_grows _).errand he
    exact o.pending k _ hw _ <| g.ended <| st.stops k _ he hk
  case refused k error hw =>
    have ⟨_, he, ha⟩ := o.awaits k _ hw
    cases ha
    have hk : (k, .accepted false) ∈ s'.ended := by
      refine g'.ended ?_
      rw [after_answer hw]
      refine mem_ended_absorb.mpr <| .inr ⟨rfl, ?_⟩
      simp [Controller.resume, Controller.resumeStartListening, mounted, Controller.endsWith]
    have he := g'.errand <| (s.after_grows _).errand he
    cases Nat.lt_or_eq_of_le <| h.latest k hw with
    | inl hn => exact o.pending k _ hw _ <| g.ended <| st.starts k hn he hk
    | inr hn => cases o'.once k _ _ hk (hn ▸ hx)

theorem Holds.run {s₀ : Scene} (h : s.Holds s₀.errands.length) (o : s.Orderly) (g : s₀.Grows s)
    (st : s₀.Stands (s.run es)) (hx : (s₀.errands.length, .accepted true) ∈ (s.run es).ended) :
    (s.run es).Holds s₀.errands.length := by
  induction es generalizing s with
  | nil          => exact h
  | cons e es ih =>
    have g' := (s.after e).run_grows es
    have hc := h.not_clears o (o.run (e :: es)) g g' st hx
    have hm := (s.after_grows e).mounted <| g'.mounted st.mounted
    exact ih (h.after hm hc) (o.after e) (g.trans <| s.after_grows e) st hx

-- Once a start returned true, the controller listens, from the call on, until it is unmounted, a
-- stop completes or a start that was called before is refused. Nothing else stops it.
theorem listening_of_accepted (w : World) (node : NodeId) (type : NodeType) (es₁ es₂ : List Event) :
    let s := (w.mount node type).run es₁
    let s' := s.run (.start .startListening :: es₂)
    (s.errands.length, .accepted true) ∈ s'.ended → s.Stands s' →
    s'.controller.isListening ∧ ∀ e, (s'.after e).controller.isListening ↔ ¬s'.Clears e := by
  intro s s' hx st
  have o : s.Orderly := (Orderly.mount w node type).run es₁
  have g := s.after_grows (.start .startListening)
  have hm := g.mounted <| (run_grows _ es₂).mounted st.mounted
  have h : s'.Holds s.errands.length := (Holds.start o hm).run (o.after _) g st hx
  exact ⟨h.listening, after_isListening_iff st.mounted h.listening⟩

-- The first start is answered last. A stop has completed in between, before the second start.
theorem listening_of_accepted_late_answer :
    let es₁ : List Event := [
      .start .startListening, .start .stopListening, .answer 1 .stopListening (.ok ())]
    let es₂ : List Event := [.answer 2 .startListening (.ok ()), .answer 0 .startListening (.ok ())]
    let s := (World.quiet.mount ⟨"t"⟩ (.plain "webhook" "Webhook")).run es₁
    let s' := s.run (.start .startListening :: es₂)
    (s.errands.length, .accepted true) ∈ s'.ended ∧ s.Stands s' ∧ s'.controller.isListening := by
  intro es₁ es₂ s s'
  have hx : (s.errands.length, .accepted true) ∈ s'.ended := .tail _ <| .head _
  have st : s.Stands s' := {
    mounted := rfl
    stops k x hk hx  := by
      have hx : (k, x) ∈ [(0, Ending.accepted true), (2, .accepted true), (1, .settled)] := hx
      simp only [List.mem_cons, Prod.mk.injEq, List.not_mem_nil, or_false] at hx
      obtain ⟨rfl, rfl⟩ | ⟨rfl, rfl⟩ | ⟨rfl, rfl⟩ := hx
      · cases hk
      · cases hk
      · exact .head _
    starts k _ _ hx  := by
      have hx : (k, Ending.accepted false) ∈
        [(0, .accepted true), (2, .accepted true), (1, .settled)] := hx
      simp at hx }
  exact ⟨hx, st, (listening_of_accepted _ _ _ es₁ es₂ hx st).left⟩

-- With the event `e` a start returns true, and what it returned is undone later, though the
-- controller is still mounted and no stop that was called after that return has completed.
structure Undone (s : Scene) (e : Event) (later : List Event) : Prop where
  returned : ∃ n, (s.after e).errands[n]? = some .startListening ∧
    (n, .accepted true) ∈ (s.after e).ended ∧ (n, .accepted true) ∉ s.ended
  mounted  : ((s.after e).run later).controller.mounted
  stops    : ∀ k, (s.after e).errands.length ≤ k →
    ((s.after e).run later).errands[k]? = some .stopListening →
    ∀ x, (k, x) ∉ ((s.after e).run later).ended
  idle     : ¬((s.after e).run later).controller.isListening

-- A start returns true at once while an older stop or an older start is still to be answered, and
-- the stop completes or the start is refused; or a stop completed while the start was on its way.
theorem accepted_undone :
    let s := (World.quiet.mount ⟨"t"⟩ (.plain "webhook" "Webhook")).after (.start .startListening)
    ((s.after (.answer 0 .startListening (.ok ()))).after (.start .stopListening)).Undone
      (.start .startListening) [.answer 1 .stopListening (.ok ())] ∧
    s.Undone (.start .startListening) [.answer 0 .startListening (.error (.timeout ""))] ∧
    ((s.after (.start .stopListening)).after (.answer 1 .stopListening (.ok ()))).Undone
      (.answer 0 .startListening (.ok ())) [] := by
  intro s
  have none_later {es : List Errand} {k : Nat} (hk : es.length ≤ k) {p : Prop}
      (h : es[k]? = some .stopListening) : p := by
    rw [List.getElem?_eq_none hk] at h
    contradiction
  refine ⟨⟨⟨2, rfl, .head _, ?_⟩, rfl, fun _ hk => none_later hk, ?_⟩,
    ⟨⟨1, rfl, .head _, ?_⟩, rfl, fun _ hk => none_later hk, ?_⟩,
    ⟨⟨0, rfl, .head _, ?_⟩, rfl, fun _ hk => none_later hk, ?_⟩⟩
  all_goals decide

end Scene

end NodeEditor
