import NodeEditor.Proofs.Canvas.Desk

namespace NodeEditor

namespace NodeType

variable {t : NodeType} {name : String}

-- Of handles of one name only the first counts.
theorem connectionOutput?_isSome_iff : (t.connectionOutput? name).isSome ↔
    ∃ h, t.outputs.find? (·.name = name) = some h ∧ h.connectable := by
  simp [connectionOutput?, output?, Option.isSome_filter, Option.any_eq_true]

theorem connectionInput?_isSome_iff : (t.connectionInput? name).isSome ↔
    ∃ h, t.inputs.find? (·.name = name) = some h ∧ h.connectable := by
  simp [connectionInput?, input?, Option.isSome_filter, Option.any_eq_true]

theorem connectionOutput?_eq_none_iff : t.connectionOutput? name = none ↔
    ∀ h, t.outputs.find? (·.name = name) = some h → h.connectable = false := by
  rw [← Option.not_isSome_iff_eq_none, connectionOutput?_isSome_iff]
  simp

theorem connectionInput?_eq_none_iff : t.connectionInput? name = none ↔
    ∀ h, t.inputs.find? (·.name = name) = some h → h.connectable = false := by
  rw [← Option.not_isSome_iff_eq_none, connectionInput?_isSome_iff]
  simp

end NodeType

namespace Graph

variable {g : Graph} {catalog : Catalog} {l : Link} {i : Nat} {e e' : GraphError} {node : NodeId}

-- What can stand against a link, each thing by itself, with its rank among all and the error that
-- tells of it.
inductive Obstructs (g : Graph) (catalog : Catalog) (l : Link) : Nat → GraphError → Prop
  | sourceMissing (h : l.source ∉ g.nodeIds) :
    Obstructs g catalog l 0 (.nodeNotFound l.source)
  | sourceUnknown {n : Node} (hn : g.node? l.source = some n) (h : catalog.get? n.type = none) :
    Obstructs g catalog l 1 (.unknownNodeType l.source n.type)
  | targetMissing (h : l.target ∉ g.nodeIds) :
    Obstructs g catalog l 2 (.nodeNotFound l.target)
  | targetUnknown {n : Node} (hn : g.node? l.target = some n) (h : catalog.get? n.type = none) :
    Obstructs g catalog l 3 (.unknownNodeType l.target n.type)
  | sourceHandle {n : Node} {t : NodeType} (hn : g.node? l.source = some n)
    (ht : catalog.get? n.type = some t)
    (h : ∀ o, t.outputs.find? (·.name = l.sourceHandle) = some o → o.connectable = false) :
    Obstructs g catalog l 4 (.sourceHandleNotFound l.source l.sourceHandle)
  | targetHandle {n : Node} {t : NodeType} (hn : g.node? l.target = some n)
    (ht : catalog.get? n.type = some t)
    (h : ∀ o, t.inputs.find? (·.name = l.targetHandle) = some o → o.connectable = false) :
    Obstructs g catalog l 5 (.targetHandleNotFound l.target l.targetHandle)
  | duplicate {edge : Edge} (h : g.edges.find? (·.toLink = l) = some edge) :
    Obstructs g catalog l 6 (.duplicateEdge edge.id)

-- A link is refused with the error of the first thing that stands against it.
def Refuses (g : Graph) (catalog : Catalog) (l : Link) (e : GraphError) : Prop :=
  ∃ i, g.Obstructs catalog l i e ∧ ∀ j < i, ∀ e', ¬g.Obstructs catalog l j e'

theorem node?_eq_none_iff : g.node? node = none ↔ node ∉ g.nodeIds := by
  rw [← node?_isSome_iff, Option.not_isSome_iff_eq_none]

theorem typeOf_error_iff : g.typeOf catalog node = .error e ↔
    (node ∉ g.nodeIds ∧ e = .nodeNotFound node) ∨
    ∃ n, g.node? node = some n ∧ catalog.get? n.type = none ∧ e = .unknownNodeType node n.type := by
  rw [typeOf, ← node?_eq_none_iff]
  cases g.node? node with
  | none   => simp [eq_comm]
  | some n => cases h : catalog.get? n.type <;> simp [h, eq_comm]

theorem Obstructs.unique (h : g.Obstructs catalog l i e) (h' : g.Obstructs catalog l i e') :
    e = e' := by
  cases h <;> cases h' <;> simp_all

theorem Refuses.unique (h : g.Refuses catalog l e) (h' : g.Refuses catalog l e') : e = e' := by
  obtain ⟨i, ho, hf⟩ := h
  obtain ⟨j, ho', hf'⟩ := h'
  rcases Nat.lt_trichotomy i j with hlt | rfl | hlt
  · exact absurd ho <| hf' i hlt e
  · exact ho.unique ho'
  · exact absurd ho' <| hf j hlt e'

-- Nothing stands against a link that may be made.
theorem Allows.not_obstructs (a : g.Allows catalog l) : ¬g.Obstructs catalog l i e := by
  obtain ⟨⟨⟨m, s, hm, hs, ho⟩, n, t, hn, ht, hi⟩, hu⟩ := a
  intro h
  cases h with
  | sourceMissing h => simp [← node?_eq_none_iff, hm] at h
  | sourceUnknown hn' h => simp_all
  | targetMissing h => simp [← node?_eq_none_iff, hn] at h
  | targetUnknown hn' h => simp_all
  | sourceHandle hn' ht' h =>
    have := NodeType.connectionOutput?_eq_none_iff.mpr h
    simp_all
  | targetHandle hn' ht' h =>
    have := NodeType.connectionInput?_eq_none_iff.mpr h
    simp_all
  | duplicate h => exact hu _ (List.mem_of_find?_eq_some h) (by simpa using List.find?_some h)

-- What is looked at later has come through all that is looked at before.
theorem Refuses.of_checkLink (h : g.checkLink catalog l = .error e) : g.Refuses catalog l e := by
  rw [checkLink] at h
  cases hs : g.typeOf catalog l.source with
  | error _ =>
    cases hs ▸ h
    rcases typeOf_error_iff.mp hs with ⟨hm, rfl⟩ | ⟨n, hn, hc, rfl⟩
    · exact ⟨0, .sourceMissing hm, fun j hj => absurd hj j.not_lt_zero⟩
    · refine ⟨1, .sourceUnknown hn hc, fun j hj e' hb => ?_⟩
      cases hb <;> simp_all [← node?_eq_none_iff]
  | ok s =>
  obtain ⟨m, hm, hcm⟩ := typeOf_ok_iff.mp hs
  cases ht : g.typeOf catalog l.target with
  | error _ =>
    cases hs ▸ ht ▸ h
    rcases typeOf_error_iff.mp ht with ⟨hm, rfl⟩ | ⟨n, hn, hc, rfl⟩
    · refine ⟨2, .targetMissing hm, fun j hj e' hb => ?_⟩
      cases hb <;> simp_all [← node?_eq_none_iff]
    · refine ⟨3, .targetUnknown hn hc, fun j hj e' hb => ?_⟩
      cases hb <;> simp_all [← node?_eq_none_iff]
  | ok t =>
  obtain ⟨n, hn, hcn⟩ := typeOf_ok_iff.mp ht
  simp only [hs, ht, bind, Except.bind] at h
  split at h
  case isTrue ho =>
    cases h
    rw [Option.isNone_iff_eq_none] at ho
    refine ⟨4, .sourceHandle hm hcm (NodeType.connectionOutput?_eq_none_iff.mp ho), ?_⟩
    intro j hj e' hb
    cases hb <;> simp_all [← node?_eq_none_iff]
  case isFalse ho =>
  split at h
  case isTrue hi =>
    cases h
    rw [Option.isNone_iff_eq_none] at hi
    refine ⟨5, .targetHandle hn hcn (NodeType.connectionInput?_eq_none_iff.mp hi), ?_⟩
    intro j hj e' hb
    cases hb with
    | sourceHandle hm' hcm' h =>
      have := NodeType.connectionOutput?_eq_none_iff.mpr h
      simp_all
    | _ => simp_all [← node?_eq_none_iff]
  case isFalse hi =>
  split at h
  case h_2 => cases h
  case h_1 edge hu =>
    cases h
    refine ⟨6, .duplicate hu, fun j hj e' hb => ?_⟩
    cases hb with
    | sourceHandle hm' hcm' h =>
      have := NodeType.connectionOutput?_eq_none_iff.mpr h
      simp_all
    | targetHandle hn' hcn' h =>
      have := NodeType.connectionInput?_eq_none_iff.mpr h
      simp_all
    | _ => simp_all [← node?_eq_none_iff]

theorem checkLink_error_iff : g.checkLink catalog l = .error e ↔ g.Refuses catalog l e := by
  refine ⟨.of_checkLink, fun h => ?_⟩
  cases hc : g.checkLink catalog l with
  | error e' => rw [(Refuses.of_checkLink hc).unique h]
  | ok _     =>
    have ⟨_, ho, _⟩ := h
    exact absurd ho (Allows.of_checkLink hc).not_obstructs

theorem checkLink_ok_iff : g.checkLink catalog l = .ok () ↔ g.Allows catalog l := by
  refine ⟨.of_checkLink, fun a => ?_⟩
  cases hc : g.checkLink catalog l with
  | ok _    => rfl
  | error _ =>
    have ⟨_, ho, _⟩ := Refuses.of_checkLink hc
    exact absurd ho a.not_obstructs

theorem allows_iff : g.Allows catalog l ↔
    (∃ n t h, g.node? l.source = some n ∧ catalog.get? n.type = some t ∧
      t.outputs.find? (·.name = l.sourceHandle) = some h ∧ h.connectable) ∧
    (∃ n t h, g.node? l.target = some n ∧ catalog.get? n.type = some t ∧
      t.inputs.find? (·.name = l.targetHandle) = some h ∧ h.connectable) ∧
    ∀ e ∈ g.edges, e.toLink ≠ l := by
  constructor
  · rintro ⟨⟨⟨m, s, hm, hs, ho⟩, n, t, hn, ht, hi⟩, hu⟩
    obtain ⟨o, ho, hco⟩ := NodeType.connectionOutput?_isSome_iff.mp ho
    obtain ⟨i, hi, hci⟩ := NodeType.connectionInput?_isSome_iff.mp hi
    exact ⟨⟨m, s, o, hm, hs, ho, hco⟩, ⟨n, t, i, hn, ht, hi, hci⟩, hu⟩
  · rintro ⟨⟨m, s, o, hm, hs, ho, hco⟩, ⟨n, t, i, hn, ht, hi, hci⟩, hu⟩
    exact {
      source := ⟨m, s, hm, hs, NodeType.connectionOutput?_isSome_iff.mpr ⟨o, ho, hco⟩⟩
      target := ⟨n, t, hn, ht, NodeType.connectionInput?_isSome_iff.mpr ⟨i, hi, hci⟩⟩
      unused := hu }

end Graph

namespace Canvas

variable {c : Canvas} {catalog : Catalog} {l : Link} {e : GraphError}

theorem connect_error_iff : c.connect catalog l = .error e ↔ c.graph.Refuses catalog l e := by
  rw [← Graph.checkLink_error_iff, connect]
  cases c.graph.checkLink catalog l <;> simp [bind, Except.bind]

theorem connect_ok_of_allows (a : c.graph.Allows catalog l) :
    ∃ id c', c.connect catalog l = .ok (id, c') := by
  rw [connect, Graph.checkLink_ok_iff.mpr a]
  exact ⟨_, _, rfl⟩

-- Connecting succeeds just if both nodes are there, both kinds are known, the first handle of each
-- name is connectable, and no edge joins the same ends. It then adds one edge under a name that no
-- edge has. Otherwise nothing changes, and the error is that of the first thing against the link.
theorem connect_legal (c : Canvas) (catalog : Catalog) (l : Link) :
    ((∃ id c', c.connect catalog l = .ok (id, c')) ↔
      (∃ n t h, c.graph.node? l.source = some n ∧ catalog.get? n.type = some t ∧
        t.outputs.find? (·.name = l.sourceHandle) = some h ∧ h.connectable) ∧
      (∃ n t h, c.graph.node? l.target = some n ∧ catalog.get? n.type = some t ∧
        t.inputs.find? (·.name = l.targetHandle) = some h ∧ h.connectable) ∧
      ∀ e ∈ c.graph.edges, e.toLink ≠ l) ∧
    (∀ id c', c.connect catalog l = .ok (id, c') →
      id ∉ c.graph.edgeIds ∧
      c'.graph = { c.graph with edges := c.graph.edges ++ [{ toLink := l, id := id }] } ∧
      c.apply catalog (.connect l) = c') ∧
    ∀ e, (c.connect catalog l = .error e ↔ c.graph.Refuses catalog l e) ∧
      (c.connect catalog l = .error e → c.apply catalog (.connect l) = c) := by
  rw [← Graph.allows_iff]
  refine ⟨⟨fun ⟨_, _, h⟩ => (connect_ok h).left, connect_ok_of_allows⟩, fun id c' h => ?_, fun e => ?_⟩
  · have ⟨_, hi, hg⟩ := connect_ok h
    exact ⟨hi, hg, by simp [apply, h, Except.toOption]⟩
  · exact ⟨connect_error_iff, fun h => by simp [apply, h, Except.toOption]⟩

def paired : Canvas where
  graph := Fragment.pair.graph
  next := 0

-- Of the outputs named "out" the first may not be connected.
def latched : Catalog := .ofList [
  { NodeType.plain "relay" "Relay" with
    inputs  := [.plain "in" "any"]
    outputs := [{ Handle.plain "out" "any" with connectable := false }, .plain "out" "any"] }]

-- A node may be joined with itself, but not in the same way twice.
theorem connect_legal_paired :
    (∃ id c', paired.connect Desk.relays ⟨⟨"b"⟩, "out", ⟨"b"⟩, "in"⟩ = .ok (id, c')) ∧
    paired.graph.Refuses Desk.relays ⟨⟨"a"⟩, "out", ⟨"b"⟩, "in"⟩ (.duplicateEdge ⟨"ab"⟩) ∧
    paired.graph.Refuses latched ⟨⟨"a"⟩, "out", ⟨"b"⟩, "off"⟩ (.sourceHandleNotFound ⟨"a"⟩ "out") :=
  ⟨(connect_legal _ _ _).left.mpr
      ⟨⟨_, _, _, rfl, rfl, rfl, rfl⟩, ⟨_, _, _, rfl, rfl, rfl, rfl⟩, by decide⟩,
    ((connect_legal _ _ _).right.right _).left.mp rfl,
    ((connect_legal _ _ _).right.right _).left.mp rfl⟩

end Canvas

end NodeEditor
