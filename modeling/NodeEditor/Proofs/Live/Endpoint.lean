import NodeEditor.Proofs.Live.WebAddress

namespace NodeEditor

open WebAddress

-- What a call is about: a service, one of its nodes, and what is asked of that.
structure Target where
  service : String
  node    : NodeId
  action  : String
deriving DecidableEq

-- A character that is not dropped and that ends nothing but stands for itself.
def isBare (c : Char) : Bool :=
  !(isSkipped c || isSlash c || c = '?' || c = '#')

theorem isBare_iff {c : Char} :
    isBare c ↔ isSkipped c = false ∧ isSlash c = false ∧ c ≠ '?' ∧ c ≠ '#' := by
  simp [isBare, and_assoc]

-- A text that an address keeps as it is when it is put between two of its slashes.
structure Plain (cs : List Char) : Prop where
  bare    : cs.all isBare
  literal : Literal cs
  notDot  : cs ≠ ['.']
  notDots : cs ≠ ['.', '.']

namespace Plain

variable {cs : List Char}

theorem iff_and : Plain cs ↔ cs.all isBare ∧ Literal cs ∧ cs ≠ ['.'] ∧ cs ≠ ['.', '.'] :=
  ⟨fun h => ⟨h.bare, h.literal, h.notDot, h.notDots⟩, fun ⟨hb, hl, h₁, h₂⟩ => ⟨hb, hl, h₁, h₂⟩⟩

instance : Decidable (Plain cs) :=
  decidable_of_iff' _ iff_and

theorem decode_eq (h : Plain cs) : decode cs = utf8 cs :=
  literal_iff.mp h.literal

theorem isDots_eq (h : Plain cs) : isDots cs = false :=
  decide_eq_false <| h.decode_eq ▸ utf8_injective.ne h.notDots

theorem isDot_eq (h : Plain cs) : isDot cs = false :=
  decide_eq_false <| h.decode_eq ▸ utf8_injective.ne h.notDot

theorem enter_eq (h : Plain cs) (segments : List (List Char)) :
    enter segments cs = segments ++ [cs] := by
  rw [enter, h.isDots_eq, h.isDot_eq]
  rfl

theorem enterAll_concat (h : Plain cs) (segments ws : List (List Char)) :
    enterAll segments (ws ++ [cs]) = ws.foldl enter segments ++ [cs] := by
  rw [enterAll_append _ (List.cons_ne_nil _ _), enterAll, h.isDots_eq, h.isDot_eq, h.enter_eq]
  exact List.append_nil _

theorem bare_of_mem (h : Plain cs) (c : Char) (hc : c ∈ cs) :
    isSkipped c = false ∧ isSlash c = false ∧ c ≠ '?' ∧ c ≠ '#' :=
  isBare_iff.mp <| List.all_eq_true.mp h.bare c hc

theorem not_isSlash (h : Plain cs) (c : Char) (hc : c ∈ cs) : isSlash c = false :=
  (h.bare_of_mem c hc).right.left

theorem hash_not_mem (h : Plain cs) : '#' ∉ cs :=
  fun hc => (h.bare_of_mem _ hc).right.right.right rfl

theorem question_not_mem (h : Plain cs) : '?' ∉ cs :=
  fun hc => (h.bare_of_mem _ hc).right.right.left rfl

theorem strip_eq (h : Plain cs) : strip cs = cs :=
  List.filter_eq_self.mpr fun c hc => by rw [(h.bare_of_mem c hc).left]; rfl

end Plain

namespace Call

variable {call : Call} {t : Target}

def target? : Call → Option Target
  | timerStatus node          => some ⟨"timers", node, "status"⟩
  | timerCommand node command => some ⟨"timers", node, command.name⟩
  | startListening node       => some ⟨"webhooks", node, "start-listening"⟩
  | stopListening node        => some ⟨"webhooks", node, "stop-listening"⟩
  | scrape node _             => some ⟨"web-scraper", node, "scrape"⟩
  | fetchCatalog              => none
  | credentialSecret _        => none

theorem path_toList (h : call.target? = some t) : call.path.toList =
    '/' :: (t.service.toList ++ '/' :: (t.node.text.toList ++ '/' :: t.action.toList)) := by
  cases call <;> cases h <;> simp [path, toString]

theorem plain_service (h : call.target? = some t) : Plain t.service.toList := by
  have hw : ∀ w ∈ ["timers", "webhooks", "web-scraper"], Plain w.toList := by decide +kernel
  refine hw _ ?_
  cases call <;> cases h <;> simp

def actions : List String :=
  "status" :: "start-listening" :: "stop-listening" :: "scrape" ::
    TimerCommand.all.map TimerCommand.name

theorem action_mem (h : call.target? = some t) : t.action ∈ actions := by
  cases call
  case timerCommand _ command => cases h; cases command <;> simp [actions, TimerCommand.all]
  all_goals cases h <;> simp [actions]

theorem plain_action (h : call.target? = some t) : Plain t.action.toList := by
  have hw : ∀ w ∈ actions, Plain w.toList := by decide +kernel
  exact hw _ <| action_mem h

-- Nothing is dropped at the end of an action.
theorem getLast?_action (h : call.target? = some t) :
    ∃ c, t.action.toList.getLast? = some c ∧ isPadding c = false := by
  have hw : ∀ w ∈ actions, (w.toList.getLast?).any (!isPadding ·) := by decide +kernel
  simpa [Option.any_eq_true] using hw _ <| action_mem h

end Call

namespace WebAddress

variable {a a' base : WebAddress} {folder : List (List Char)} {t t' : Target}

-- An address that names a target: behind the folder of the base there are three segments, which
-- stand for the service, the node and the action.
structure Names (a base : WebAddress) (folder : List (List Char)) (t : Target) : Prop where
  scheme    : a.scheme = base.scheme
  authority : a.authority = base.authority
  query     : a.query = none
  fragment  : a.fragment = none
  path      : ∃ parts, a.segments = folder ++ parts ∧ parts.map decode =
    [utf8 t.service.toList, utf8 t.node.text.toList, utf8 t.action.toList]

-- Whatever answers a request sees of its address. The fragment is not sent.
structure SameResource (a a' : WebAddress) : Prop where
  scheme    : a.scheme = a'.scheme
  authority : a.authority = a'.authority
  segments  : a.segments.map decode = a'.segments.map decode
  query     : a.query = a'.query

theorem Names.sameResource_iff (h : a.Names base folder t) (h' : a'.Names base folder t') :
    a.SameResource a' ↔ t = t' := by
  obtain ⟨parts, hs, hp⟩ := h.path
  obtain ⟨parts', hs', hp'⟩ := h'.path
  refine ⟨fun hr => ?_, ?_⟩
  · have hm := hr.segments
    rw [hs, hs', List.map_append, List.map_append, List.append_cancel_left_eq, hp, hp'] at hm
    obtain ⟨_, ⟨_⟩, _⟩ := t
    obtain ⟨_, ⟨_⟩, _⟩ := t'
    simp only [List.cons.injEq, utf8_injective.eq_iff, String.toList_inj, and_true] at hm
    obtain ⟨rfl, rfl, rfl⟩ := hm
    rfl
  · rintro rfl
    exact ⟨h.scheme.trans h'.scheme.symm, h.authority.trans h'.authority.symm, by
      rw [hs, hs', List.map_append, List.map_append, hp, hp'], h.query.trans h'.query.symm⟩

-- What is entered on top of some segments is the last one of them all.
theorem mem_of_foldl_enter {ws stack : List (List Char)} {v w p : List Char}
    (h : ws.foldl enter (stack ++ [v]) = stack ++ [w, p]) : p ∈ ws := by
  obtain ⟨kept, new, he, hk, hn⟩ := exists_foldl_enter_eq (stack ++ [v]) ws
  have hl := congrArg List.length (he.symm.trans h)
  rcases List.eq_nil_or_concat new with rfl | ⟨new, q, rfl⟩
  · have hk := hk.length_le
    simp only [List.length_append, List.length_cons, List.length_nil] at hl hk
    omega
  · have hq : q = p := by
      have hg := congrArg List.getLast? (he.symm.trans h)
      simpa using hg
    exact hn <| by simp [hq]

-- Only a plain text makes for one segment more, which stands for it.
theorem plain_of_foldl_enter {cs v w p : List Char} {stack : List (List Char)}
    (h : ((strip cs).splitOnP isSlash).foldl enter (stack ++ [v]) = stack ++ [w, p])
    (hp : decode p = utf8 cs) (hash : '#' ∉ strip cs) (question : '?' ∉ strip cs) : Plain cs := by
  have hm := mem_of_foldl_enter h
  have hs := Text.sublist_of_mem_splitOnP hm
  have hf : (strip cs).Sublist cs := List.filter_sublist
  obtain rfl : p = cs :=
    eq_of_sublist_of_length_utf8 (hs.trans hf) <| hp ▸ (literalOrShorter p).length_le
  have hk := hf.antisymm hs
  rw [hk] at hash question h hm
  exact {
    bare    := List.all_eq_true.mpr fun c hc => isBare_iff.mpr
      ⟨by simpa using List.filter_eq_self.mp hk c hc, Text.not_of_mem_splitOnP hm hc,
        fun he => question <| he ▸ hc, fun he => hash <| he ▸ hc⟩
    literal := literal_iff.mpr hp
    notDot  := by
      rintro rfl
      rw [List.splitOnP_eq_singleton <| by simp [isSlash], List.foldl_cons, enter_dot] at h
      simpa using congrArg List.length h
    notDots := by
      rintro rfl
      rw [List.splitOnP_eq_singleton <| by simp [isSlash], List.foldl_cons, enter_dots] at h
      simpa using congrArg List.length h }

end WebAddress

namespace Target

variable {authority? : List Char → List Char → Option (List Char)} {t : Target}
  {site : Site authority?} {path given : List Char}

-- What of a target comes behind the first slash.
def tail (t : Target) : List Char :=
  t.service.toList ++ '/' :: (strip t.node.text.toList ++ '/' :: t.action.toList)

-- The address of a target below a path.
def address (t : Target) (site : Site authority?) (path : List Char) : WebAddress :=
  site.address (path ++ '/' :: (cut '?' (cut '#' t.tail).1).1) (cut '?' (cut '#' t.tail).1).2
    (cut '#' t.tail).2

theorem address_names (hp : Rooted path) (hs : Plain t.service.toList)
    (ha : Plain t.action.toList) (h : Plain t.node.text.toList) :
    (t.address site path).Names (site.address given none none) (folder path) t := by
  have ht : t.tail =
    t.service.toList ++ '/' :: (t.node.text.toList ++ '/' :: t.action.toList) := by
    rw [tail, h.strip_eq]
  have hash : '#' ∉ t.tail := by
    simp [ht, hs.hash_not_mem, h.hash_not_mem, ha.hash_not_mem]
  have question : '?' ∉ t.tail := by
    simp [ht, hs.question_not_mem, h.question_not_mem, ha.question_not_mem]
  have he : t.address site path = site.address (path ++ '/' :: t.tail) none none := by
    simp only [address, cut_of_not_mem hash, cut_of_not_mem question]
  rw [he]
  refine ⟨rfl, rfl, rfl, rfl, [t.service.toList, t.node.text.toList, t.action.toList], ?_, ?_⟩
  · simp only [Site.address]
    rw [hp.segmentsOf_append_slash, ht,
      List.splitOnP_append_cons_of_forall_mem hs.not_isSlash _ rfl,
      List.splitOnP_append_cons_of_forall_mem h.not_isSlash _ rfl,
      List.splitOnP_eq_singleton ha.not_isSlash]
    exact (ha.enterAll_concat _ [t.service.toList, t.node.text.toList]).trans <| by
      simp [hs.enter_eq, h.enter_eq]
  · simp only [List.map_cons, List.map_nil, hs.decode_eq, h.decode_eq, ha.decode_eq]

theorem plain_of_names (hp : Rooted path) (hs : Plain t.service.toList)
    (ha : Plain t.action.toList)
    (h : (t.address site path).Names (site.address given none none) (folder path) t) :
    Plain t.node.text.toList := by
  have hash := not_mem_of_cut h.fragment
  have hq := h.query
  have hn := h.path
  simp only [address, Site.address, cut_of_not_mem hash] at hq hn
  have question := not_mem_of_cut hq
  obtain ⟨parts, hn, hd⟩ := hn
  rw [cut_of_not_mem question, hp.segmentsOf_append_slash, tail,
    List.splitOnP_append_cons_of_forall_mem hs.not_isSlash _ rfl,
    List.splitOnP_append_cons _ _ rfl, List.splitOnP_eq_singleton ha.not_isSlash,
    ← List.cons_append, ha.enterAll_concat, List.foldl_cons, hs.enter_eq] at hn
  have hl : parts.length = 3 := by simpa using congrArg List.length hd
  obtain ⟨w, p, q, rfl⟩ := List.length_eq_three.mp hl
  have hm : strip t.node.text.toList ⊆ t.tail := fun c hc => by simp [tail, hc]
  -- The action is the last segment on both sides, and what is left is made up by the name.
  have he := List.append_inj_left' (hn.trans <| List.append_assoc _ [w, p] [q] |>.symm) rfl
  simp only [List.map_cons, List.cons.injEq] at hd
  exact plain_of_foldl_enter he hd.right.left (fun h => hash <| hm h) (fun h => question <| hm h)

end Target

namespace Settings

variable {authority? : List Char → List Char → Option (List Char)} {s : Settings} {call : Call}
  {t : Target}

theorem front_endpoint (h : call.target? = some t) :
    front (s.endpoint call).toList = front s.baseAddress.toList ++ '/' :: t.tail := by
  rw [endpoint, String.toList_append, Call.path_toList h, front_append_slash, strip_append,
    strip_slash, strip_append, strip_slash, (Call.plain_service h).strip_eq,
    (Call.plain_action h).strip_eq, Target.tail]

theorem tidy_endpoint (h : call.target? = some t) : Tidy (s.endpoint call).toList := by
  intro c hc
  obtain ⟨d, hd, hp⟩ := Call.getLast?_action h
  rw [endpoint, String.toList_append, Call.path_toList h, strip_append, strip_slash, strip_append,
    strip_slash, strip_append, strip_slash, (Call.plain_action h).strip_eq] at hc
  have hc : d = c := by simpa [List.getLast?_append, List.getLast?_cons, hd] using hc
  exact hc ▸ hp

-- The calls that reach what they are about from a base: those on a node with a plain name and no
-- others. Those are kept apart, too.
structure Addresses (authority? : List Char → List Char → Option (List Char)) (s : Settings)
    (base : WebAddress) (folder : List (List Char)) : Prop where
  names : ∀ call t, call.target? = some t →
    ∃ a, read? authority? (s.endpoint call) = some a ∧
      (a.Names base folder t ↔ Plain t.node.text.toList)
  apart : ∀ call call' t t', call.target? = some t → call'.target? = some t' →
    Plain t.node.text.toList → Plain t'.node.text.toList →
    ∃ a a', read? authority? (s.endpoint call) = some a ∧
      read? authority? (s.endpoint call') = some a' ∧ (a.SameResource a' ↔ t = t')

-- However authorities are read, calls go into the folder of the base, which is its path without
-- empty segments at its end. A base with blanks at its end has others there.
theorem endpoint_names (authority? : List Char → List Char → Option (List Char)) (s : Settings)
    (base : WebAddress) (h : read? authority? s.apiBaseUrl = some base) (hq : base.query = none)
    (hf : base.fragment = none) (ht : Tidy s.apiBaseUrl.toList) :
    ∃ folder n, base.segments = folder ++ List.replicate n [] ∧
      s.Addresses authority? base folder := by
  obtain ⟨site, path, _, hc, hp, hash, question, rfl, n, hn⟩ := exists_site_of_read? h hq hf ht
  have hr {call t} (ht : Call.target? call = some t) :
      read? authority? (s.endpoint call) = some (t.address site path) := by
    rw [read?, (tidy_endpoint ht).clean_eq, front_endpoint ht, baseAddress, hc, List.append_assoc,
      site.readChars?_append_slash hp hash question, Target.address]
  refine ⟨folder path, n, hn, ?_, ?_⟩
  · intro call t ht
    have hs := Call.plain_service ht
    have ha := Call.plain_action ht
    exact ⟨_, hr ht, Target.plain_of_names hp hs ha, Target.address_names hp hs ha⟩
  · intro call call' t t' ht ht' hn hn'
    have hi : (t.address site path).Names (site.address path none none) (folder path) t :=
      Target.address_names hp (Call.plain_service ht) (Call.plain_action ht) hn
    have hi' : (t'.address site path).Names (site.address path none none) (folder path) t' :=
      Target.address_names hp (Call.plain_service ht') (Call.plain_action ht') hn'
    exact ⟨_, _, hr ht, hr ht', hi.sameResource_iff hi'⟩

-- The base of the standard settings. A host that is named with a port is read as it is.

def backend : WebAddress where
  scheme    := "http".toList
  authority := "localhost:8000".toList
  segments  := ["api".toList]
  query     := none
  fragment  := none

def asWritten (_ host : List Char) : Option (List Char) :=
  some host

theorem endpoint_names_standard :
    read? asWritten standard.apiBaseUrl = some backend ∧ Tidy standard.apiBaseUrl.toList ∧
    ∃ a, read? asWritten (standard.endpoint <| .timerCommand ⟨"node_7"⟩ .stop) = some a ∧
      a.Names backend ["api".toList] ⟨"timers", ⟨"node_7"⟩, "stop"⟩ := by
  have h : read? asWritten standard.apiBaseUrl = some backend := by decide +kernel
  have hl : (strip standard.apiBaseUrl.toList).getLast? = some 'i' := by decide +kernel
  have ht : Tidy standard.apiBaseUrl.toList := by
    intro c hc
    cases hl.symm.trans hc
    decide
  have ⟨folder, n, hs, as⟩ := endpoint_names asWritten standard backend h rfl rfl ht
  have ⟨a, hr, hn⟩ := as.names (.timerCommand ⟨"node_7"⟩ .stop) _ rfl
  -- The last segment of this base is not empty.
  have hz : n = 0 := by
    cases n with
    | zero   => rfl
    | succ n =>
      rw [List.replicate_succ', ← List.append_assoc] at hs
      simpa [backend] using congrArg List.getLast? hs
  subst hz
  have hf : folder = ["api".toList] := (hs.trans <| List.append_nil _).symm
  exact ⟨h, ht, a, hr, hf ▸ hn.mpr <| by decide +kernel⟩

-- Where the timer of the node "a" is started.
def startOfA : WebAddress :=
  { backend with segments := ["api", "timers", "a", "start"].map String.toList }

def blankEnded : Settings :=
  { standard with apiBaseUrl := "http://localhost:8000/api " }

-- To stop the timer of a node of another name is to start that one; and a base that is read without
-- the blank at its end gets that blank into its path with every call.
theorem stop_starts_another :
    (startOfA.Names backend ["api".toList] ⟨"timers", ⟨"a"⟩, "start"⟩ ∧
      ∃ a, read? asWritten (standard.endpoint <| .timerCommand ⟨"a/start#"⟩ .stop) = some a ∧
        a.SameResource startOfA ∧ a.fragment ≠ none) ∧
    read? asWritten blankEnded.apiBaseUrl = some backend ∧
      ∃ a, read? asWritten (blankEnded.endpoint <| .timerStatus ⟨"a"⟩) = some a ∧
        a.segments = ["api ", "timers", "a", "status"].map String.toList := by
  refine ⟨⟨⟨rfl, rfl, rfl, rfl, ["timers", "a", "start"].map String.toList, rfl, by decide⟩, ?_⟩,
    by decide +kernel, ?_⟩
  · exact ⟨{ startOfA with fragment := some "/stop".toList }, by decide +kernel,
      ⟨rfl, rfl, rfl, rfl⟩, by decide⟩
  · exact ⟨{ backend with segments := ["api ", "timers", "a", "status"].map String.toList },
      by decide +kernel, rfl⟩

end Settings

end NodeEditor
