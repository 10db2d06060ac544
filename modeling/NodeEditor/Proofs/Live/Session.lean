import NodeEditor.Live.Session
import NodeEditor.Proofs.Canvas.Refusal
import NodeEditor.Proofs.Canvas.Store

namespace NodeEditor

namespace Store

variable {s : Store} {text : String} {d : Defect}

theorem paste_of_defect (h : d.Of text) : ∃ e, s.paste text = (.error e, s) ∧ e.Tells text := by
  have ⟨e, hp, ht⟩ := Fragment.parse_of_defect h
  exact ⟨e, paste_of_parse_error hp, ht⟩

theorem paste_of_not_defect (h : ∀ d : Defect, ¬d.Of text) :
    ∃ summary s', s.paste text = (.ok summary, s') ∧ s'.revision = s.revision + 1 := by
  have ⟨f, hp⟩ := Fragment.parse_of_not_defect h
  exact ⟨_, s.publish (s.canvas.paste f).2, paste_of_parse hp, rfl⟩

end Store

namespace Session

variable {s : Session} {text : String}

-- The session is as it was, and the one message is an error and about no node.
def Refuses (s : Session) (text : String) : Prop :=
  ∃ e n, s.store.paste text = (.error e, s.store) ∧ e.Tells text ∧
    s.paste text = (none, [n], s) ∧ n.level = .error ∧ n.node = none

-- No message, and the store has one revision more.
def Pastes (s : Session) (text : String) : Prop :=
  ∃ summary store, s.store.paste text = (.ok summary, store) ∧
    s.paste text = (some summary, [], s.withStore store) ∧
    store.revision = s.store.revision + 1

theorem refuses_of_defect {d : Defect} (h : d.Of text) : s.Refuses text := by
  have ⟨e, hp, ht⟩ := Store.paste_of_defect (s := s.store) h
  exact ⟨e, pasteRejected, hp, ht, by rw [paste, hp]; rfl, rfl, rfl⟩

theorem pastes_of_not_defect (h : ∀ d : Defect, ¬d.Of text) : s.Pastes text := by
  have ⟨summary, store, hp, hr⟩ := Store.paste_of_not_defect (s := s.store) h
  exact ⟨summary, store, hp, by rw [paste, hp], hr⟩

theorem Refuses.paste_eq_none (r : s.Refuses text) : (s.paste text).1 = none := by
  have ⟨_, _, _, _, hp, _⟩ := r
  rw [hp]

theorem Pastes.paste_ne_none (p : s.Pastes text) : (s.paste text).1 ≠ none := by
  have ⟨_, _, _, hp, _⟩ := p
  simp [hp]

-- A text is refused just if something is wrong with it. Then nothing happens but that one message
-- comes up, and otherwise everything is pasted in one step.
theorem paste_refuses_iff_defect (s : Session) (text : String) :
    ((s.paste text).1 = none ↔ ∃ d : Defect, d.Of text) ∧
    ((s.paste text).1 = none → s.Refuses text) ∧
    ((s.paste text).1 ≠ none → s.Pastes text) := by
  by_cases h : ∃ d : Defect, d.Of text
  case pos =>
    have ⟨d, hd⟩ := h
    have r : s.Refuses text := refuses_of_defect hd
    exact ⟨iff_of_true r.paste_eq_none h, fun _ => r, absurd r.paste_eq_none⟩
  case neg =>
    have p : s.Pastes text := pastes_of_not_defect <| not_exists.mp h
    have hn := p.paste_ne_none
    exact ⟨iff_of_false hn h, fun he => absurd he hn, fun _ => p⟩

theorem paste_pair_ne_none (s : Session) : (s.paste Fragment.pair.text).1 ≠ none := by
  rw [paste, Store.paste_of_parse Fragment.pair_parse]
  exact Option.some_ne_none _

theorem paste_refuses_iff_defect_samples :
    let s := Session.start .empty (.ofGraph .empty 0) .standard
    (∀ d : Defect, d.Of d.sample ∧ s.Refuses d.sample) ∧ s.Pastes Fragment.pair.text := by
  intro s
  constructor
  case left =>
    intro d
    have ⟨hd, hr, _⟩ := paste_refuses_iff_defect s d.sample
    exact ⟨d.of_sample, hr <| hd.mpr ⟨d, d.of_sample⟩⟩
  case right =>
    have ⟨_, _, hp⟩ := paste_refuses_iff_defect s Fragment.pair.text
    exact hp s.paste_pair_ne_none

end Session

end NodeEditor
