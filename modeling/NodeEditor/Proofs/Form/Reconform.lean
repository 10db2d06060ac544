import NodeEditor.Proofs.Canvas.Store
import NodeEditor.Proofs.Canvas.WellFormed
import NodeEditor.Proofs.Form.Address
import NodeEditor.Proofs.Form.Conform
import NodeEditor.Proofs.Json.Ordered
import NodeEditor.Proofs.Live.Errand

namespace NodeEditor

namespace Property

-- The default of a property is a value of its kind.
def FitDefault (p : Property) : Prop :=
  ∀ kind v, p.kind = .ok kind → p.default = some v → kind.valueType.accepts v

-- What is reported of a property, whatever its value.
def kindIssue? (p : Property) : Option FormError :=
  match p.kind with
  | .error e => some (.unsupportedKind p.name e.tag)
  | .ok _    => none

-- What is reported of a value of a property.
def issue? (p : Property) (value : Json) : Option FormError :=
  match p.kind with
  | .error e => some (.unsupportedKind p.name e.tag)
  | .ok kind =>
    if (coerce? kind value).isSome then none else some (.typeMismatch p.name kind.valueType)

end Property

variable {p : Property} {properties : List Property} {kind : PropertyKind} {value v : Json}
  {raw raw' : ValueBag} {s : ValueBag × List FormError} {name base : String}

theorem Property.FitDefault.of_none (h : p.default = none) : p.FitDefault := fun _ _ _ hv => by
  rw [h] at hv
  cases hv

theorem coerce?_eq_self (h : kind.valueType.accepts v) : coerce? kind v = some v := by
  unfold coerce?
  rw [if_pos h]

-- What a property has made of a value it takes as it is.
theorem Property.FitDefault.coerce?_settle (f : p.FitDefault) (hk : p.kind = .ok kind)
    (h : p.settle value = some v) : coerce? kind v = some v := by
  refine coerce?_eq_self ?_
  rw [settle_of_kind hk, Option.or_eq_some_iff] at h
  rcases h with hc | ⟨-, hd⟩
  · exact coerce?_accepts hc
  · exact f kind v hk hd

theorem Property.FitDefault.settle_settle (f : p.FitDefault) (h : p.settle value = some v) :
    p.settle v = some v := by
  cases hk : p.kind with
  | error _ => simp [settle, hk]
  | ok kind => rw [settle_of_kind hk, f.coerce?_settle hk h, Option.some_or]

theorem Property.FitDefault.issue?_settle (f : p.FitDefault) (h : p.settle value = some v) :
    p.issue? v = p.kindIssue? := by
  cases hk : p.kind with
  | error _ => simp [issue?, kindIssue?, hk]
  | ok kind => simp [issue?, kindIssue?, hk, f.coerce?_settle hk h]

theorem Property.kindIssue?_of_settle (p : Property) (h : p.settle value = none) :
    p.kindIssue? = none := by
  cases hk : p.kind with
  | error _ => simp [settle, hk] at h
  | ok _    => simp [kindIssue?, hk]

theorem conformProperty_issues :
    (conformProperty s p).2 = s.2 ++ ((s.1.get? p.name).bind p.issue?).toList := by
  obtain ⟨bag, issues⟩ := s
  cases hb : bag.get? p.name with
  | none       => simp [conformProperty, hb]
  | some value =>
    cases hk : p.kind with
    | error _ => simp [conformProperty, hb, hk, Property.issue?]
    | ok kind =>
      cases hc : coerce? kind value with
      | some _ => simp [conformProperty, hb, hk, hc, Property.issue?]
      | none   => cases hd : p.default <;> simp [conformProperty, hb, hk, hc, hd, Property.issue?]

-- Each property is judged by the value that came from outside, since none changes that of another.
theorem foldl_conformProperty_issues (hn : (properties.map (·.name)).Nodup) :
    (properties.foldl conformProperty s).2 =
      s.2 ++ properties.filterMap fun p => (s.1.get? p.name).bind p.issue? := by
  induction properties generalizing s with
  | nil            => simp
  | cons p rest ih =>
    have ⟨hp, hr⟩ := List.nodup_cons.mp hn
    have hg : ∀ q ∈ rest, ((conformProperty s p).1.get? q.name).bind q.issue? =
        (s.1.get? q.name).bind q.issue? := fun q hq => by
      rw [get?_conformProperty_of_ne fun he => hp <| List.mem_map.mpr ⟨q, hq, he.symm⟩]
    rw [List.foldl_cons, ih hr, conformProperty_issues, List.append_assoc,
      List.filterMap_congr hg, List.filterMap_cons]
    cases (s.1.get? p.name).bind p.issue? <;> rfl

theorem conform_issues (hn : (properties.map (·.name)).Nodup) : (conform properties raw).2 =
    properties.filterMap fun p => (raw.get? p.name).bind p.issue? := by
  rw [conform, foldl_conformProperty_issues hn, List.nil_append]

-- What becomes of a value under a name.
def settleAt (properties : List Property) (name : String) : Json → Option Json :=
  match properties.find? (·.name = name) with
  | some p => p.settle
  | none   => some

-- What becomes of a value depends on nothing but that value.
theorem get?_conform (hn : (properties.map (·.name)).Nodup) :
    (conform properties raw).1.get? name = (raw.get? name).bind (settleAt properties name) := by
  cases hf : properties.find? (·.name = name) with
  | none   =>
    have hd : ∀ p ∈ properties, p.name ≠ name := by simpa using hf
    rw [conform, get?_conform_of_ne hd, settleAt, hf]
    exact (Option.bind_fun_some _).symm
  | some p =>
    obtain rfl : p.name = name := by simpa using List.find?_some hf
    have hp := List.mem_of_find?_eq_some hf
    rw [conform, (conform_of_mem hn hp).left, settleAt, hf]

theorem settleAt_of_unread (h : ∀ p ∈ properties, p.name = name → ∃ e, p.kind = .error e) :
    settleAt properties name value = some value := by
  cases hf : properties.find? (·.name = name) with
  | none   => simp [settleAt, hf]
  | some p =>
    have ⟨_, hk⟩ := h p (List.mem_of_find?_eq_some hf) (by simpa using List.find?_some hf)
    simp [settleAt, hf, Property.settle, hk]

theorem settleAt_settleAt (hf : ∀ p ∈ properties, p.FitDefault)
    (h : settleAt properties name value = some v) : settleAt properties name v = some v := by
  simp only [settleAt] at h ⊢
  cases hp : properties.find? (·.name = name) with
  | none   => rfl
  | some p =>
    rw [hp] at h
    exact (hf p <| List.mem_of_find?_eq_some hp).settle_settle h

theorem get?_conform_of_unread (hn : (properties.map (·.name)).Nodup)
    (h : ∀ p ∈ properties, p.name = name → ∃ e, p.kind = .error e) :
    (conform properties raw).1.get? name = raw.get? name := by
  rw [get?_conform hn]
  cases raw.get? name with
  | none   => rfl
  | some _ => exact settleAt_of_unread h

theorem contains_of_conform (hn : (properties.map (·.name)).Nodup)
    (h : (conform properties raw).1.contains name) : raw.contains name := by
  rw [Dict.contains, get?_conform hn] at h
  exact Option.isSome_of_isSome_bind h

-- Where no default is of another kind, what has been made to fit stays as it is.
theorem conform_conform (hn : (properties.map (·.name)).Nodup)
    (hf : ∀ p ∈ properties, p.FitDefault) : conform properties (conform properties raw).1 =
      ((conform properties raw).1,
        properties.filterMap fun p => (raw.get? p.name).bind fun _ => p.kindIssue?) := by
  refine Prod.ext (Dict.ext_get? fun name => ?_) ?_
  case refine_1 =>
    rw [get?_conform hn, get?_conform hn, Option.bind_assoc]
    refine Option.bind_congr fun value _ => ?_
    cases hs : settleAt properties name value with
    | none   => rfl
    | some v => exact settleAt_settleAt hf hs
  case refine_2 =>
    rw [conform_issues hn]
    refine List.filterMap_congr fun p hp => ?_
    rw [conform, (conform_of_mem hn hp).left, Option.bind_assoc]
    refine Option.bind_congr fun value _ => ?_
    cases hs : p.settle value with
    | some v => exact (hf p hp).issue?_settle hs
    | none   => exact (p.kindIssue?_of_settle hs).symm

-- What derivation does not write to is left as it was made to fit.
theorem get?_opened (h : name ∉ ((Engine.standard base).declared properties).map (·.target)) :
    (opened base properties raw).get? name = (conform properties raw).1.get? name :=
  Derivation.get?_runAll_of_not_mem h

theorem opened_opened (hn : (properties.map (·.name)).Nodup)
    (hf : ∀ p ∈ properties, p.FitDefault) (base : String) (raw : ValueBag) :
    opened base properties (opened base properties raw) = opened base properties raw := by
  let rules := (Engine.standard base).declared properties
  have ha : Derivation.Apart rules :=
    (Derivation.standardWebhook_apart base).sublist List.filter_sublist
  -- Away from the targets the values are the same, hence on all that the rules read.
  have hc : ∀ name ∉ rules.map (·.target),
      (conform properties (opened base properties raw)).1.get? name =
        (conform properties raw).1.get? name := fun name h => by
    rw [get?_conform hn, get?_opened h, ← get?_conform hn, conform_conform hn hf]
  refine Dict.ext_get? fun name => ?_
  by_cases h : name ∈ rules.map (·.target)
  case neg => rw [get?_opened h, hc name h, get?_opened h]
  case pos =>
    obtain ⟨d, hd, rfl⟩ := List.mem_map.mp h
    refine (ha.get?_runAll hd).trans <| .trans ?_ (ha.get?_runAll hd).symm
    refine (ha.textual d hd).compute_eq fun input hi => hc input fun ht => ?_
    obtain ⟨d', hd', rfl⟩ := List.mem_map.mp ht
    exact ha.inputs d' hd' d hd hi

section

variable {α : Type} {q : α → Bool} {f f' : α → α} {as : List α}

theorem modifyFirst_congr (h : ∀ a, as.find? q = some a → f a = f' a) :
    modifyFirst q f as = modifyFirst q f' as := by
  induction as with
  | nil           => rfl
  | cons a _ ih =>
    cases ha : q a with
    | true  => simp [modifyFirst, ha, h a (by simp [ha])]
    | false => simp [modifyFirst, ha, ih fun b hb => h b (by simpa [ha] using hb)]

theorem modifyFirst_modifyFirst (hq : ∀ a, q (f a) = q a) (hf : ∀ a, f (f a) = f a) :
    modifyFirst q f (modifyFirst q f as) = modifyFirst q f as := by
  induction as with
  | nil           => rfl
  | cons a _ ih => cases ha : q a <;> simp [modifyFirst, ha, hq, hf, ih]

end

-- A node whose form has been opened and saved.
def Node.resaved (base : String) (properties : List Property) (n : Node) : Node :=
  { n with data := { n.data with values := opened base properties n.data.values } }

def Graph.resaved (base : String) (properties : List Property) (node : NodeId) (g : Graph) :
    Graph :=
  { g with nodes := modifyFirst (·.id = node) (·.resaved base properties) g.nodes }

theorem Graph.nodeIds_resaved (base : String) (properties : List Property) (node : NodeId)
    (g : Graph) : (g.resaved base properties node).nodeIds = g.nodeIds :=
  map_modifyFirst (f := (Node.resaved base properties ·)) (fun _ => rfl) _

theorem Graph.resaved_resaved (hn : (properties.map (·.name)).Nodup)
    (hf : ∀ p ∈ properties, p.FitDefault) (base : String) (node : NodeId) (g : Graph) :
    (g.resaved base properties node).resaved base properties node =
      g.resaved base properties node := by
  have h : ∀ n : Node, (n.resaved base properties).resaved base properties =
      n.resaved base properties := fun n => by
    simp only [Node.resaved, opened_opened hn hf]
  exact congrArg (Graph.mk · g.edges) <| modifyFirst_modifyFirst (fun _ => rfl) h

theorem Store.replaceData_resaved {store : Store} {node : NodeId} {n : Node}
    (h : store.graph.node? node = some n) (base : String) (properties : List Property) :
    store.replaceData node (n.resaved base properties).data =
      (.ok (), store.replace <| store.graph.resaved base properties node) := by
  have hm : node ∈ store.graph.nodeIds := Graph.node?_isSome_iff.mp (by rw [h]; rfl)
  have hr : store.graph.replaceData node (n.resaved base properties).data =
      .ok (store.graph.resaved base properties node) := by
    refine Graph.modify_ok_iff.mpr ⟨hm, congrArg (Graph.mk · _) <| modifyFirst_congr fun m hf => ?_⟩
    obtain rfl : m = n := Option.some.inj <| hf.symm.trans h
    rfl
  exact replaceData_of_ok hr

namespace Controller

variable {c : Controller} {store : Store} {n : Node} {r : Controller × Store}

-- Opens the form of a node and saves it as it is.
def resave (c : Controller) (forms : Engine) (s : Store) :
    Except SessionError (Controller × Store) := do
  let c ← c.begin s.graph forms
  c.save s

theorem resave_of_node? (hm : c.mounted) (hn : store.graph.node? c.node = some n) :
    c.resave (.standard base) store =
      .ok ({ c with working := none },
        store.replace <| store.graph.resaved base c.type.properties c.node) := by
  have hb : c.begin store.graph (.standard base) =
      .ok { c with working := some (n.resaved base c.type.properties).data } := by
    simp only [begin, hm, storedData?, hn]
    rfl
  rw [resave, hb]
  simp [bind, Except.bind, save, working!, Store.replaceData_resaved hn]

theorem resave_ok_iff : c.resave (.standard base) store = .ok r ↔
    c.mounted ∧ c.node ∈ store.graph.nodeIds ∧
    r = ({ c with working := none },
      store.replace <| store.graph.resaved base c.type.properties c.node) := by
  rw [← Graph.node?_isSome_iff]
  constructor
  case mp =>
    intro h
    have ⟨c', hb, hs⟩ := bind_ok_iff.mp h
    have ⟨_, _, hm, hd, _⟩ := begin_eq_ok hb
    have ⟨n, hn, _⟩ := Option.map_eq_some_iff.mp hd
    rw [resave_of_node? hm hn] at h
    exact ⟨hm, by rw [hn]; rfl, (Except.ok.inj h).symm⟩
  case mpr =>
    rintro ⟨hm, hi, rfl⟩
    have ⟨n, hn⟩ := Option.isSome_iff_exists.mp hi
    exact resave_of_node? hm hn

end Controller

-- Making values fit a second time changes nothing and reports the unread kinds alone, so to open and
-- save a form twice is to do it once.
theorem conform_idempotent (hn : (properties.map (·.name)).Nodup)
    (hf : ∀ p ∈ properties, p.FitDefault) (raw : ValueBag) :
    let bag := (conform properties raw).1
    (∀ name, (∀ p ∈ properties, p.name = name → ∃ e, p.kind = .error e) →
      bag.get? name = raw.get? name) ∧
    (∀ name, bag.contains name → raw.contains name) ∧
    (conform properties raw).2 =
      properties.filterMap (fun p => (raw.get? p.name).bind p.issue?) ∧
    conform properties bag =
      (bag, properties.filterMap fun p => (raw.get? p.name).bind fun _ => p.kindIssue?) ∧
    ∀ (base : String) (c : Controller) (store : Store), c.type.properties = properties →
      ((∃ r, c.resave (.standard base) store = .ok r) ↔
        c.mounted ∧ c.node ∈ store.graph.nodeIds) ∧
      ∀ c' store', c.resave (.standard base) store = .ok (c', store') →
        ∃ c'' store'', c'.resave (.standard base) store' = .ok (c'', store'') ∧
          store''.graph = store'.graph := by
  intro bag
  refine ⟨fun _ => get?_conform_of_unread hn, fun _ => contains_of_conform hn, conform_issues hn,
    conform_conform hn hf, fun base c store hp => ⟨?_, fun c' store' h => ?_⟩⟩
  case refine_1 =>
    constructor
    case mp  => exact fun ⟨_, h⟩ => have ⟨hm, hi, _⟩ := Controller.resave_ok_iff.mp h; ⟨hm, hi⟩
    case mpr => exact fun ⟨hm, hi⟩ => ⟨_, Controller.resave_ok_iff.mpr ⟨hm, hi, rfl⟩⟩
  case refine_2 =>
    have ⟨hm, hi, hr⟩ := Controller.resave_ok_iff.mp h
    obtain ⟨rfl, rfl⟩ := Prod.mk.inj hr
    refine ⟨_, _, Controller.resave_ok_iff.mpr ⟨hm, ?_, rfl⟩, ?_⟩
    · exact (Graph.nodeIds_resaved ..).symm ▸ hi
    · subst hp
      exact Graph.resaved_resaved hn hf base c.node store.graph

def gizmo : Property :=
  .plain "gizmo" "gizmo"

def mixedFields : List Property :=
  gizmo :: timeout (.num (.int 30)) :: hookFields

theorem mixedFields_fitDefault : ∀ p ∈ mixedFields, p.FitDefault := by
  simp only [mixedFields, hookFields, List.forall_mem_cons]
  refine ⟨.of_none rfl, fun kind v hk hv => ?_, .of_none rfl, fun kind v hk _ => ?_, .of_none rfl,
    List.forall_mem_nil _⟩
  case refine_1 =>
    obtain rfl := Except.ok.inj <| (timeout_kind _).symm.trans hk
    obtain rfl := Option.some.inj hv
    rfl
  case refine_2 =>
    obtain rfl := Except.ok.inj <| hookFields_form.environment.kind.symm.trans hk
    cases v <;> rfl

-- The timeout gives way to its default, and the path becomes a text.
def mixedValues : ValueBag :=
  Dict.ofList [("gizmo", .arr []), ("path", .num (.int 7)), ("timeout", .str "soon")]

def mixedNode : Node where
  id := ⟨"n"⟩
  type := "hook"
  position := { x := 0.0, y := 0.0 }
  data := { NodeData.empty with values := mixedValues }

def mixedType : NodeType :=
  { NodeType.plain "hook" "Hook" with properties := mixedFields }

theorem conform_idempotent_mixed :
    let c := Controller.mount ⟨"n"⟩ mixedType
    let store := Store.ofGraph { nodes := [mixedNode], edges := [] } 0
    (conform mixedFields mixedValues).2 =
      [.unsupportedKind "gizmo" "gizmo", .typeMismatch "timeout" .number] ∧
    (conform mixedFields (conform mixedFields mixedValues).1).2 =
      [.unsupportedKind "gizmo" "gizmo"] ∧
    ∃ r, c.resave (.standard hookBase) store = .ok r := by
  intro c store
  have hn : (mixedFields.map (·.name)).Nodup := by decide
  have ⟨_, _, hi, hc, hs⟩ := conform_idempotent hn mixedFields_fitDefault mixedValues
  exact ⟨hi.trans <| by decide +kernel, (congrArg Prod.snd hc).trans <| by decide +kernel,
    (hs hookBase c store rfl).left.mpr ⟨rfl, by decide⟩⟩

end NodeEditor
