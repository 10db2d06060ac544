import NodeEditor.Canvas.Store
import NodeEditor.Proofs.Canvas.Fragment

namespace NodeEditor

namespace Store

variable {s : Store} {ε α : Type} {node : NodeId} {g : Graph}

section Changes

variable {change : Canvas → Except ε (α × Canvas)} {edit : Graph → Except ε (α × Graph)}
  {a : α} {e : ε} {c : Canvas}

theorem tryModify_of_ok (h : change s.canvas = .ok (a, c)) :
    s.tryModify change = (.ok a, s.publish c) := by
  rw [tryModify, h]

theorem tryModify_of_error (h : change s.canvas = .error e) :
    s.tryModify change = (.error e, s) := by
  rw [tryModify, h]

theorem tryModifyGraph_of_ok (h : edit s.graph = .ok (a, g)) :
    s.tryModifyGraph edit = (.ok a, s.replace g) :=
  tryModify_of_ok <| congrArg (Except.map _) h

theorem tryModifyGraph_of_error (h : edit s.graph = .error e) :
    s.tryModifyGraph edit = (.error e, s) :=
  tryModify_of_error <| congrArg (Except.map _) h

end Changes

-- What an operation of the graph gives is published, and where there is none all is as it was.
section Operations

variable {n : Node} {data : NodeData} {position : Position} {catalog : Catalog} {l : Link}
  {e : GraphError}

theorem remove_of_some (h : s.graph.remove? node = some (n, g)) :
    s.remove node = (some n, s.replace g) := by
  rw [remove, tryModifyGraph_of_ok (by rw [h]; rfl)]
  rfl

theorem remove_of_none (h : s.graph.remove? node = none) : s.remove node = (none, s) := by
  rw [remove, tryModifyGraph_of_error (by rw [h]; rfl)]
  rfl

theorem replaceData_of_ok (h : s.graph.replaceData node data = .ok g) :
    s.replaceData node data = (.ok (), s.replace g) :=
  tryModifyGraph_of_ok <| congrArg (Except.map _) h

theorem replaceData_of_error (h : s.graph.replaceData node data = .error e) :
    s.replaceData node data = (.error e, s) :=
  tryModifyGraph_of_error <| congrArg (Except.map _) h

theorem move_of_ok (h : s.graph.move node position = .ok g) :
    s.move node position = (.ok (), s.replace g) :=
  tryModifyGraph_of_ok <| congrArg (Except.map _) h

theorem move_of_error (h : s.graph.move node position = .error e) :
    s.move node position = (.error e, s) :=
  tryModifyGraph_of_error <| congrArg (Except.map _) h

theorem connect_of_checkLink (h : s.graph.checkLink catalog l = .ok ()) :
    let (id, next) := s.canvas.supply.fresh s.graph.edgeIds s.canvas.next
    s.connect catalog l = (.ok id, s.publish {
      s.canvas with graph := s.graph.pushEdge { toLink := l, id := id }, next := next }) :=
  tryModify_of_ok <| by
    rw [Canvas.connect, show s.canvas.graph.checkLink catalog l = _ from h]
    rfl

theorem connect_of_checkLink_error (h : s.graph.checkLink catalog l = .error e) :
    s.connect catalog l = (.error e, s) :=
  tryModify_of_error <| by
    rw [Canvas.connect, show s.canvas.graph.checkLink catalog l = _ from h]
    rfl

end Operations

section Pastes

variable {text : String} {f : Fragment} {e : ClipboardError}

theorem paste_of_parse (h : Fragment.parse text = .ok f) :
    s.paste text = (
      .ok {
        nodes := (s.canvas.duplicate f).1.fragment.nodeIds
        edges := (s.canvas.duplicate f).1.fragment.edgeIds },
      s.publish (s.canvas.paste f).2) := by
  rw [paste, h]
  exact tryModify_of_ok rfl

theorem paste_of_parse_error (h : Fragment.parse text = .error e) :
    s.paste text = (.error e, s) := by
  rw [paste, h]

end Pastes

end Store

end NodeEditor
