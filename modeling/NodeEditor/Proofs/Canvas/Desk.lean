import NodeEditor.Proofs.Canvas.Clipboard
import NodeEditor.Proofs.Canvas.Handles
import NodeEditor.Proofs.Canvas.Run

namespace NodeEditor

open Duplicate

namespace Canvas

variable {c : Canvas} {catalog : Catalog}

-- The kinds of nodes never change, and edges are only made by connecting and by pasting.
theorem apply_handleValid (w : c.graph.WellFormed) (v : c.graph.HandleValid catalog) (cmd : Command)
    (hp : ∀ text f, cmd = .paste text → Fragment.parse text = .ok f →
      f.graph.WellFormed ∧ f.graph.HandleValid catalog) :
    (c.apply catalog cmd).graph.HandleValid catalog := by
  cases cmd
  case place t p => exact v.push (place_wellFormed w t p).nodes
  case insert n =>
    refine update_graph (P := (·.HandleValid catalog)) v fun g h => ?_
    have hi := toOption_eq_some_iff.mp h
    have wg := w.insert hi
    obtain ⟨-, rfl⟩ := Graph.insert_ok_iff.mp hi
    exact v.push wg.nodes
  case remove node =>
    refine update_graph (P := (·.HandleValid catalog)) v fun _ h => ?_
    obtain ⟨_, hr, hg⟩ := Option.map_eq_some_iff.mp h
    exact hg ▸ v.remove? hr (w.remove? hr).nodes
  case connect l =>
    simp only [apply]
    cases h : c.connect catalog l with
    | error _ => exact v
    | ok r    =>
      obtain ⟨a, _, hg⟩ := connect_ok h
      exact hg ▸ v.pushEdge w.nodes a
  case disconnect edge =>
    refine update_graph (P := (·.HandleValid catalog)) v fun _ h => ?_
    obtain ⟨_, hd, hg⟩ := Option.map_eq_some_iff.mp h
    exact hg ▸ v.disconnect? hd (w.disconnect? hd).nodes
  case replaceData node d =>
    refine update_graph (P := (·.HandleValid catalog)) v fun _ h => ?_
    have hr := toOption_eq_some_iff.mp h
    exact v.modify hr (w.replaceData hr).nodes (fun _ => rfl) fun _ => rfl
  case move node p =>
    refine update_graph (P := (·.HandleValid catalog)) v fun _ h => ?_
    have hm := toOption_eq_some_iff.mp h
    exact v.modify hm (w.move hm).nodes (fun _ => rfl) fun _ => rfl
  case paste text =>
    simp only [apply]
    cases h : Fragment.parse text with
    | error _ => exact v
    | ok f    =>
      obtain ⟨wf, vf⟩ := hp text f rfl h
      exact paste_handleValid w v wf vf

end Canvas

namespace Fragment

variable {f f' : Fragment} {catalog : Catalog}

theorem legal_of_parse (w : f.graph.WellFormed) (v : f.graph.HandleValid catalog)
    (h : parse f.text = .ok f') : f'.graph.WellFormed ∧ f'.graph.HandleValid catalog := by
  have ⟨hk, he⟩ := outline_of_parse h
  have hi : f'.graph.nodeIds = f.graph.nodeIds := by
    simpa [Graph.nodeIds, graph, Function.comp_def] using congrArg (List.map Prod.fst) hk
  have w' := w.congr hi he
  exact ⟨w', v.congr w'.nodes hk he⟩

end Fragment

-- A canvas, and the texts that have been copied from it.
structure Desk where
  canvas : Canvas
  copied : List String

namespace Desk

-- Any command may be given, to paste only a text that has been copied before.
inductive Step (catalog : Catalog) (d : Desk) : Desk → Prop
  | edit {cmd} (h : ∀ text, cmd = .paste text → text ∈ d.copied) :
    Step catalog d { d with canvas := d.canvas.apply catalog cmd }
  | copy (selected : List NodeId) :
    Step catalog d { d with
      copied := (Fragment.ofSelection d.canvas.graph selected).text :: d.copied }

inductive Steps (catalog : Catalog) : Desk → Desk → Prop
  | refl {d} : Steps catalog d d
  | step {d₁ d₂ d₃} : Step catalog d₁ d₂ → Steps catalog d₂ d₃ → Steps catalog d₁ d₃

-- What holds of a desk at any time: the graph is in order, and so is every fragment whose text has
-- been copied.
structure Legal (d : Desk) (catalog : Catalog) : Prop where
  wellFormed  : d.canvas.graph.WellFormed
  handleValid : d.canvas.graph.HandleValid catalog
  copied      : ∀ text ∈ d.copied, ∃ f : Fragment,
    text = f.text ∧ f.graph.WellFormed ∧ f.graph.HandleValid catalog

variable {d d' : Desk} {catalog : Catalog}

theorem Step.legal (s : Step catalog d d') (l : d.Legal catalog) : d'.Legal catalog := by
  cases s
  case copy selected =>
    refine { l with copied := fun text h => ?_ }
    cases h with
    | tail _ h => exact l.copied text h
    | head     =>
      exact ⟨_, rfl, Fragment.ofSelection_wellFormed l.wellFormed,
        Fragment.ofSelection_handleValid l.wellFormed l.handleValid⟩
  case edit cmd h =>
    exact {
      wellFormed  := Canvas.apply_wellFormed l.wellFormed cmd
      handleValid := Canvas.apply_handleValid l.wellFormed l.handleValid cmd fun text f hp ht => by
        obtain ⟨f', rfl, wf, vf⟩ := l.copied text (h text hp)
        exact Fragment.legal_of_parse wf vf ht
      copied      := l.copied }

theorem Steps.legal (s : Steps catalog d d') (l : d.Legal catalog) : d'.Legal catalog := by
  induction s with
  | refl         => exact l
  | step s _ ih  => exact ih <| s.legal l

-- Edges stay legal in every run that starts with a graph whose edges are.
theorem Steps.preserves_handleValid (s : Steps catalog d d') (w : d.canvas.graph.WellFormed)
    (v : d.canvas.graph.HandleValid catalog) (hc : d.copied = []) :
    d'.canvas.graph.HandleValid catalog :=
  (s.legal { wellFormed := w, handleValid := v, copied := by simp [hc] }).handleValid

def relays : Catalog := .ofList [
  { NodeType.plain "relay" "Relay" with
    inputs  := [.plain "in" "any"]
    outputs := [.plain "out" "any"] }]

theorem pair_handleValid : Fragment.pair.graph.HandleValid relays where
  links := by decide
  joins := by
    simp only [Fragment.pair, Fragment.graph, List.forall_mem_cons]
    exact ⟨
      ⟨⟨_, _, rfl, rfl, rfl⟩, ⟨_, _, rfl, rfl, rfl⟩⟩,
      ⟨⟨_, _, rfl, rfl, rfl⟩, ⟨_, _, rfl, rfl, rfl⟩⟩,
      List.forall_mem_nil _⟩

theorem copy_paste_steps (catalog : Catalog) (c : Canvas) {f : Fragment} {selected : List NodeId}
    (hs : Fragment.ofSelection c.graph selected = f) (hp : Fragment.parse f.text = .ok f) :
    Steps catalog { canvas := c, copied := [] } { canvas := (c.paste f).2, copied := [f.text] } := by
  have he : Step catalog { canvas := c, copied := [f.text] }
      { canvas := c.apply catalog (.paste f.text), copied := [f.text] } :=
    .edit fun text h => by simp_all
  have ha : c.apply catalog (.paste f.text) = (c.paste f).2 := by
    simp [Canvas.apply, hp, Except.toOption]
  exact .step (hs ▸ .copy selected) <| .step (ha ▸ he) .refl

theorem Steps.preserves_handleValid_pair :
    let c : Canvas := { graph := Fragment.pair.graph, next := 0 }
    Steps relays { canvas := c, copied := [] }
      { canvas := (c.paste Fragment.pair).2, copied := [Fragment.pair.text] } ∧
    (c.paste Fragment.pair).2.graph.HandleValid relays := by
  intro c
  have hs : Fragment.ofSelection c.graph [⟨"a"⟩, ⟨"b"⟩] = Fragment.pair := rfl
  have hr := copy_paste_steps relays c hs Fragment.pair_parse
  exact ⟨hr, hr.preserves_handleValid Fragment.pair_wellFormed pair_handleValid rfl⟩

end Desk

end NodeEditor
