import Mathlib.Data.List.DropRight
import Mathlib.Data.List.Flatten
import NodeEditor.Live.Backend
import NodeEditor.Live.WebAddress
import NodeEditor.Proofs.Text.Parts

namespace NodeEditor

namespace WebAddress

variable {cs cs' rest path : List Char} {c mark : Char}

theorem strip_append (cs cs' : List Char) : strip (cs ++ cs') = strip cs ++ strip cs' :=
  List.filter_append ..

theorem strip_slash (cs : List Char) : strip ('/' :: cs) = '/' :: strip cs :=
  rfl

theorem utf8_cons : utf8 (c :: cs) = String.utf8EncodeChar c ++ utf8 cs :=
  List.flatMap_cons

theorem utf8_injective : Function.Injective utf8 := by
  intro cs cs' h
  have he : cs.utf8Encode = cs'.utf8Encode := congrArg List.toByteArray h
  have hd := congrArg ByteArray.utf8Decode? he
  rw [List.utf8Decode?_utf8Encode, List.utf8Decode?_utf8Encode, Option.some.injEq] at hd
  exact List.toArray_inj hd

theorem length_utf8_lt_cons (c : Char) (cs : List Char) :
    (utf8 cs).length < (utf8 (c :: cs)).length := by
  rw [utf8_cons, List.length_append]
  exact Nat.lt_add_of_pos_left <| List.length_pos_iff.mpr String.utf8EncodeChar_ne_nil

-- Characters that are left out are missing in the bytes.
theorem eq_of_sublist_of_length_utf8 (h : cs.Sublist cs')
    (hl : (utf8 cs').length ≤ (utf8 cs).length) : cs = cs' := by
  have hs : (utf8 cs).Sublist (utf8 cs') := h.flatMap _
  exact utf8_injective <| hs.eq_of_length_le hl

-- No percent sign has two hexadecimal digits behind it.
def Literal (cs : List Char) : Prop :=
  ∀ a b, ['%', a, b] <:+: cs → byte? a b = none

theorem literal_cons_iff : Literal (c :: cs) ↔
    (∀ a b rest, c = '%' → cs = a :: b :: rest → byte? a b = none) ∧ Literal cs := by
  simp only [Literal, List.infix_cons_iff, or_imp, forall_and]
  refine and_congr_left fun _ => ⟨?_, ?_⟩
  · rintro h a b rest rfl rfl
    exact h a b ⟨rest, rfl⟩
  · rintro h a b ⟨rest, hr⟩
    obtain ⟨hc, rfl⟩ := List.cons.inj hr
    exact h a b rest hc.symm rfl

-- Escapes are longer than what they stand for.
def LiteralOrShorter (cs : List Char) : Prop :=
  (Literal cs ∧ decode cs = utf8 cs) ∨ (¬Literal cs ∧ (decode cs).length < (utf8 cs).length)

theorem LiteralOrShorter.length_le (h : LiteralOrShorter cs) :
    (decode cs).length ≤ (utf8 cs).length :=
  h.elim (·.right ▸ le_rfl) (·.right.le)

-- A character that does not begin an escape is added to both sides.
theorem LiteralOrShorter.cons (h : LiteralOrShorter cs)
    (hd : decode (c :: cs) = String.utf8EncodeChar c ++ decode cs)
    (hc : ∀ a b rest, c = '%' → cs = a :: b :: rest → byte? a b = none) :
    LiteralOrShorter (c :: cs) := by
  rw [LiteralOrShorter, hd, utf8_cons, literal_cons_iff, List.length_append, List.length_append]
  rcases h with ⟨hl, he⟩ | ⟨hl, ht⟩
  · exact .inl ⟨⟨hc, hl⟩, by rw [he]⟩
  · exact .inr ⟨fun h => hl h.right, Nat.add_lt_add_left ht _⟩

theorem literalOrShorter (cs : List Char) : LiteralOrShorter cs := by
  induction cs using decode.induct with
  | case1                => exact .inl ⟨fun a b h => absurd h.length_le <| by simp, rfl⟩
  | case2 a b rest x hx ih =>
    refine .inr ⟨fun h => ?_, ?_⟩
    · exact Option.some_ne_none _ <| hx ▸ (literal_cons_iff.mp h).left a b rest rfl rfl
    · have hl := ih.length_le
      have h₁ := length_utf8_lt_cons b rest
      have h₂ := length_utf8_lt_cons a (b :: rest)
      have h₃ := length_utf8_lt_cons '%' (a :: b :: rest)
      simp only [decode, hx, List.length_cons]
      omega
  | case3 a b rest hn ih =>
    refine ih.cons (by simp only [decode, hn]) ?_
    rintro _ _ _ - ⟨⟩
    exact hn
  | case4 c rest hn ih   =>
    exact ih.cons (by simp only [decode]) fun a b _ hc hr => absurd hr <| hn a b _ hc

theorem literal_iff : Literal cs ↔ decode cs = utf8 cs := by
  rcases literalOrShorter cs with ⟨hl, he⟩ | ⟨hl, ht⟩
  · exact iff_of_true hl he
  · exact iff_of_false hl fun he => ht.ne <| congrArg _ he

instance (cs : List Char) : Decidable (Literal cs) :=
  decidable_of_iff' _ literal_iff

theorem enter_dot (segments : List (List Char)) : enter segments ['.'] = segments := by
  rw [enter, if_neg <| by decide, if_pos <| by decide]

theorem enter_dots (segments : List (List Char)) :
    enter segments ['.', '.'] = segments.dropLast := by
  rw [enter, if_pos <| by decide]

-- At the end of what is entered only dots make a difference.

theorem enterAll_append {ws ws' : List (List Char)} (segments : List (List Char)) (h : ws' ≠ []) :
    enterAll segments (ws ++ ws') = enterAll (ws.foldl enter segments) ws' := by
  induction ws generalizing segments with
  | nil          => rfl
  | cons w ws ih =>
    rw [List.foldl_cons, ← ih, List.cons_append]
    cases hs : ws ++ ws' with
    | nil      => exact absurd (List.append_eq_nil_iff.mp hs).right h
    | cons _ _ => rw [enterAll]

theorem exists_enterAll_eq (segments ws : List (List Char)) :
    ∃ n, enterAll segments ws = ws.foldl enter segments ++ List.replicate n [] := by
  rcases List.eq_nil_or_concat ws with rfl | ⟨ws, w, rfl⟩
  · exact ⟨0, (List.append_nil _).symm⟩
  · rw [List.concat_eq_append, enterAll_append _ (List.cons_ne_nil _ _), List.foldl_append,
      enterAll]
    split
    case isTrue  => exact ⟨1, rfl⟩
    case isFalse => exact ⟨0, rfl⟩

-- The segments that come before what is put behind a path.
def folder (path : List Char) : List (List Char) :=
  ((path.splitOnP isSlash).drop 1).foldl enter []

theorem folder_append_slash : folder (path ++ '/' :: rest) =
    (rest.splitOnP isSlash).foldl enter (folder path) := by
  have hl : 1 ≤ (path.splitOnP isSlash).length :=
    List.length_pos_iff.mpr <| List.splitOnP_ne_nil isSlash path
  rw [folder, List.splitOnP_append_cons path rest rfl, List.drop_append_of_le_length hl,
    List.foldl_append]
  rfl

-- A slash at the end makes for an empty segment.
theorem folder_append_replicate (path : List Char) (n : Nat) :
    folder (path ++ List.replicate n '/') = folder path ++ List.replicate n [] := by
  induction n with
  | zero      => simp only [List.replicate_zero, List.append_nil]
  | succ n ih =>
    rw [List.replicate_succ', ← List.append_assoc, folder_append_slash, List.splitOnP_nil, ih,
      List.replicate_succ', ← List.append_assoc]
    rfl

-- A path is empty or begins with a slash.
def Rooted (path : List Char) : Prop :=
  ∀ c ∈ path.head?, isSlash c

theorem rooted_dropWhile : Rooted (cs.dropWhile (!isSlash ·)) := by
  intro c hc
  have hd := List.head?_dropWhile_not (!isSlash ·) cs
  rw [Option.mem_def.mp hc] at hd
  simpa using hd

theorem Rooted.folder_cons (h : Rooted (c :: path)) :
    folder (c :: path) = (path.splitOnP isSlash).foldl enter [] := by
  rw [folder, List.splitOnP_cons_eq_if_modifyHead, if_pos <| h c rfl]
  rfl

theorem Rooted.exists_segmentsOf_eq (h : Rooted path) :
    ∃ n, segmentsOf path = folder path ++ List.replicate n [] := by
  cases path with
  | nil      => exact ⟨1, rfl⟩
  | cons c _ =>
    rw [segmentsOf, Text.splitWhere_eq_splitOnP, h.folder_cons]
    exact exists_enterAll_eq ..

theorem Rooted.segmentsOf_append_slash (h : Rooted path) (rest : List Char) :
    segmentsOf (path ++ '/' :: rest) = enterAll (folder path) (rest.splitOnP isSlash) := by
  rw [segmentsOf, Text.splitWhere_eq_splitOnP]
  cases path with
  | nil         => rfl
  | cons c path =>
    rw [h.folder_cons, List.cons_append, List.drop_one, List.tail_cons,
      List.splitOnP_append_cons path rest rfl]
    exact enterAll_append _ <| List.splitOnP_ne_nil isSlash rest

-- What is entered goes on top of a part of what was there before.
theorem exists_foldl_enter_eq (stack ws : List (List Char)) :
    ∃ kept new, ws.foldl enter stack = kept ++ new ∧ kept <+: stack ∧ new ⊆ ws := by
  induction ws generalizing stack with
  | nil          => exact ⟨stack, [], (List.append_nil _).symm, List.prefix_rfl, List.nil_subset _⟩
  | cons w ws ih =>
    obtain ⟨kept, new, he, hk, hn⟩ := ih <| enter stack w
    rw [List.foldl_cons, he]
    have hw : new ⊆ w :: ws := List.subset_cons_of_subset w hn
    by_cases hd : kept <+: stack
    case pos => exact ⟨kept, new, rfl, hd, hw⟩
    case neg =>
      rw [enter] at hk
      split_ifs at hk
      case pos     => exact absurd (hk.trans <| List.dropLast_prefix stack) hd
      case pos     => exact absurd hk hd
      case neg     =>
        obtain rfl := (List.prefix_concat_iff.mp hk).resolve_right hd
        refine ⟨stack, w :: new, ?_, List.prefix_rfl, List.cons_subset.mpr ⟨.head _, hw⟩⟩
        rw [List.append_assoc, List.singleton_append]

theorem cut_append (h : mark ∉ cs) (rest : List Char) : cut mark (cs ++ rest) =
    (cs ++ (cut mark rest).1, (cut mark rest).2) := by
  have hc : ∀ c ∈ cs, decide (c ≠ mark) = true :=
    fun c hc => decide_eq_true fun he => h <| he ▸ hc
  rw [cut, List.takeWhile_append_of_pos hc, List.dropWhile_append_of_pos hc, cut]

theorem cut_append_slash (h : mark ∉ cs) (hm : mark ≠ '/') (rest : List Char) :
    cut mark (cs ++ '/' :: rest) = (cs ++ '/' :: (cut mark rest).1, (cut mark rest).2) := by
  have hs : mark ∉ cs ++ ['/'] := by simp [h, hm]
  rw [List.append_cons, cut_append hs, ← List.append_cons]

theorem cut_mark : cut mark (mark :: cs) = ([], some cs) := by
  simp [cut]

theorem cut_of_not_mem (h : mark ∉ cs) : cut mark cs = (cs, none) := by
  simpa [cut] using cut_append h []

theorem cut_of_mem (h : mark ∈ cs) :
    ∃ l r, cs = l ++ mark :: r ∧ cut mark cs = (l, some r) := by
  obtain ⟨l, r, rfl, hl⟩ := List.eq_append_cons_of_mem h
  refine ⟨l, r, rfl, ?_⟩
  rw [cut_append hl, cut_mark, List.append_nil]

theorem eq_of_cut {l : List Char} (h : cut mark cs = (l, some rest)) : cs = l ++ mark :: rest := by
  by_cases hm : mark ∈ cs
  case neg =>
    rw [cut_of_not_mem hm] at h
    cases h
  case pos =>
    obtain ⟨_, _, hc, ht⟩ := cut_of_mem hm
    cases ht ▸ h
    exact hc

theorem not_mem_of_cut (h : (cut mark cs).2 = none) : mark ∉ cs := by
  intro hm
  obtain ⟨_, _, _, hc⟩ := cut_of_mem hm
  rw [hc] at h
  contradiction

variable {authority? : List Char → List Char → Option (List Char)}

-- The part of an address in front of its path, with the name that its authority is read as.
structure Site (authority? : List Char → List Char → Option (List Char)) where
  scheme    : List Char
  slashes   : List Char
  host      : List Char
  authority : List Char
  known     : scheme.map Char.toLower ∈ schemes
  between   : ∀ c ∈ slashes, isSlash c
  named     : host ≠ []
  closed    : ∀ c ∈ host, isSlash c = false ∧ c ≠ '?' ∧ c ≠ '#'
  read      : authority? (scheme.map Char.toLower) host = some authority

namespace Site

variable {s : Site authority?} {n : Nat}

def chars (s : Site authority?) : List Char :=
  s.scheme ++ ':' :: (s.slashes ++ s.host)

theorem not_mem_scheme (s : Site authority?) (h : ∀ w ∈ schemes, c.toLower ∉ w) : c ∉ s.scheme :=
  fun hc => h _ s.known <| List.mem_map_of_mem hc

theorem hash_not_mem_chars (s : Site authority?) : '#' ∉ s.chars := by
  have hc : '#' ∉ s.scheme := s.not_mem_scheme <| by decide
  have hs : '#' ∉ s.slashes := fun h => absurd (s.between _ h) <| by decide
  have hh : '#' ∉ s.host := fun h => (s.closed _ h).right.right rfl
  simp [chars, hc, hs, hh]

theorem question_not_mem_chars (s : Site authority?) : '?' ∉ s.chars := by
  have hc : '?' ∉ s.scheme := s.not_mem_scheme <| by decide
  have hs : '?' ∉ s.slashes := fun h => absurd (s.between _ h) <| by decide
  have hh : '?' ∉ s.host := fun h => (s.closed _ h).right.left rfl
  simp [chars, hc, hs, hh]

-- The address of a path at a site.
def address (s : Site authority?) (path : List Char) (query fragment : Option (List Char)) :
    WebAddress where
  scheme    := s.scheme.map Char.toLower
  authority := s.authority
  segments  := segmentsOf path
  query     := query
  fragment  := fragment

theorem dropWhile_slashes (s : Site authority?) (path : List Char) :
    (s.slashes ++ s.host ++ path).dropWhile isSlash = s.host ++ path := by
  rw [List.append_assoc, List.dropWhile_append_of_pos s.between]
  cases hh : s.host with
  | nil      => exact absurd hh s.named
  | cons c _ => rw [List.cons_append, List.dropWhile_cons, (s.closed c <| hh ▸ .head _).left]; rfl

theorem takeWhile_host (s : Site authority?) (h : Rooted path) :
    (s.host ++ path).takeWhile (!isSlash ·) = s.host ∧
    (s.host ++ path).dropWhile (!isSlash ·) = path := by
  have hh : ∀ c ∈ s.host, (!isSlash c) = true := fun c hc => by rw [(s.closed c hc).left]; rfl
  rw [List.takeWhile_append_of_pos hh, List.dropWhile_append_of_pos hh]
  cases path with
  | nil      => exact ⟨List.append_nil _, rfl⟩
  | cons c _ => simp [h c rfl]

-- What is read behind a site.
theorem readChars?_eq (s : Site authority?) (rest : List Char)
    (h : Rooted (cut '?' (cut '#' rest).1).1) : readChars? authority? (s.chars ++ rest) = some
      (s.address (cut '?' (cut '#' rest).1).1 (cut '?' (cut '#' rest).1).2 (cut '#' rest).2) := by
  have hc : ':' ∉ s.scheme := s.not_mem_scheme <| by decide
  have ⟨ht, hd⟩ := s.takeWhile_host h
  simp only [readChars?, cut_append s.hash_not_mem_chars, cut_append s.question_not_mem_chars]
  rw [chars, List.append_assoc, cut_append hc, List.cons_append, cut_mark, List.append_nil]
  simp only [s.dropWhile_slashes, ht, hd, s.known, s.named, ne_eq, not_false_eq_true, and_self,
    if_true, s.read, Option.map_some, address]

-- What is read of a site with a path when a slash and more is put behind it.
theorem readChars?_append_slash (s : Site authority?) (hp : Rooted path) (hash : '#' ∉ path)
    (question : '?' ∉ path) (rest : List Char) :
    readChars? authority? (s.chars ++ (path ++ '/' :: rest)) = some
      (s.address (path ++ '/' :: (cut '?' (cut '#' rest).1).1) (cut '?' (cut '#' rest).1).2
        (cut '#' rest).2) := by
  have hc := cut_append_slash hash (by decide) rest
  have hr : Rooted (path ++ '/' :: (cut '?' (cut '#' rest).1).1) := by
    cases path with
    | nil      =>
      rintro _ ⟨⟩
      rfl
    | cons c _ => exact fun d hd => hp d hd
  have hq := cut_append_slash question (by decide) (cut '#' rest).1
  rw [readChars?_eq, hc, hq]
  rwa [hc, hq]

theorem not_isSlash_getLast (h : c ∈ s.chars.getLast?) : isSlash c = false := by
  rw [chars, ← List.cons_append, ← List.append_assoc, List.getLast?_append_of_ne_nil _ s.named] at h
  exact (s.closed c <| List.mem_of_mem_getLast? h).left

-- A site stays when slashes are taken away from the end.
theorem exists_path_of_append_replicate (h : cs ++ List.replicate n '/' = s.chars ++ path)
    (hp : Rooted path) : ∃ path', cs = s.chars ++ path' ∧ Rooted path' ∧
      path = path' ++ List.replicate n '/' := by
  rcases List.append_eq_append_iff.mp h with ⟨l, hc, hr⟩ | ⟨l, rfl, rfl⟩
  case inl =>
    rcases List.eq_nil_or_concat l with rfl | ⟨l, c, rfl⟩
    · exact ⟨[], by simp [hc], nofun, by simp [hr]⟩
    · have hs : c = '/' := List.eq_of_mem_replicate (n := n) <| by simp [hr]
      exact absurd (not_isSlash_getLast (s := s) (c := c) <| by simp [hc]) <| by simp [hs, isSlash]
  case inr =>
    refine ⟨l, rfl, fun c hc => hp c ?_, rfl⟩
    rw [List.head?_append, hc]
    rfl

-- The site of a scheme and what is behind its colon.
def behind (scheme rest authority : List Char) (known : scheme.map Char.toLower ∈ schemes)
    (named : (rest.dropWhile isSlash).takeWhile (!isSlash ·) ≠ [])
    (read : authority? (scheme.map Char.toLower)
      ((rest.dropWhile isSlash).takeWhile (!isSlash ·)) = some authority)
    (hash : '#' ∉ rest) (question : '?' ∉ rest) : Site authority? where
  scheme      := scheme
  slashes     := rest.takeWhile isSlash
  host        := (rest.dropWhile isSlash).takeWhile (!isSlash ·)
  authority   := authority
  known       := known
  between _   := List.mem_takeWhile_imp
  named       := named
  closed c hc := by
    have hm : c ∈ rest := List.dropWhile_subset _ <| List.takeWhile_subset _ hc
    exact ⟨by simpa using List.mem_takeWhile_imp hc, fun h => question <| h ▸ hm,
      fun h => hash <| h ▸ hm⟩
  read        := read

theorem chars_behind {scheme authority : List Char} {known named hash question}
    {read : authority? (scheme.map Char.toLower) _ = some authority} :
    (behind scheme rest authority known named read hash question).chars ++
      (rest.dropWhile isSlash).dropWhile (!isSlash ·) = scheme ++ ':' :: rest := by
  simp only [behind, chars, List.append_assoc, List.cons_append, List.takeWhile_append_dropWhile]

end Site

-- An address without a query and a fragment is a path at a site.
theorem exists_site_of_readChars? {a : WebAddress} (h : readChars? authority? cs = some a)
    (hq : a.query = none) (hf : a.fragment = none) : '#' ∉ cs ∧ '?' ∉ cs ∧
    ∃ (s : Site authority?) (path : _), cs = s.chars ++ path ∧ Rooted path ∧
      a = s.address path none none := by
  simp only [readChars?] at h
  split at h
  case h_1                => contradiction
  case h_2 scheme rest hs =>
    split at h
    case isFalse      => contradiction
    case isTrue known =>
      obtain ⟨authority, read, rfl⟩ := Option.map_eq_some_iff.mp h
      have hash := not_mem_of_cut hf
      rw [cut_of_not_mem hash] at hq hs
      have question := not_mem_of_cut hq
      rw [cut_of_not_mem question] at hs
      obtain rfl := eq_of_cut hs
      have hr (c : Char) (h : c ∉ scheme ++ ':' :: rest) : c ∉ rest :=
        fun hc => h <| List.mem_append_right _ <| .tail _ hc
      refine ⟨hash, question, .behind scheme rest authority known.left known.right read (hr _ hash)
        (hr _ question), (rest.dropWhile isSlash).dropWhile (!isSlash ·), ?_, rooted_dropWhile, ?_⟩
      · exact Site.chars_behind.symm
      · simp only [Site.address, Site.behind, cut_of_not_mem hash, cut_of_not_mem question]

-- At the end of a text there is nothing that is dropped but tabs and line breaks.
def Tidy (cs : List Char) : Prop :=
  ∀ c ∈ (strip cs).getLast?, isPadding c = false

-- What is left of a text when nothing is dropped at its end.
def front (cs : List Char) : List Char :=
  (strip cs).dropWhile isPadding

theorem Tidy.clean_eq (h : Tidy cs) : clean cs = front cs := by
  have hf : ∀ c ∈ (front cs).reverse.head?, isPadding c = false := by
    intro c hc
    refine h c ?_
    rw [List.head?_reverse] at hc
    rw [← List.takeWhile_append_dropWhile (p := isPadding) (l := strip cs), List.getLast?_append,
      ← front, Option.mem_def.mp hc]
    rfl
  rw [clean, ← front, Text.dropEndWhile, List.reverse_eq_iff]
  cases hr : (front cs).reverse with
  | nil      => rfl
  | cons c _ => exact List.dropWhile_cons_of_neg <| by simp [hf c <| hr ▸ rfl]

theorem front_append_slash (cs rest : List Char) :
    front (cs ++ '/' :: rest) = front cs ++ '/' :: strip rest := by
  rw [front, strip_append, strip_slash, List.dropWhile_append]
  split
  case isTrue h  => rw [front, List.isEmpty_iff.mp h]; rfl
  case isFalse h => rfl

theorem front_append_replicate (cs : List Char) (n : Nat) :
    front (cs ++ List.replicate n '/') = front cs ++ List.replicate n '/' := by
  cases n with
  | zero   => simp only [List.replicate_zero, List.append_nil]
  | succ n => rw [List.replicate_succ, front_append_slash, strip, List.filter_replicate]; rfl

theorem exists_trimEndOf (c : Char) (s : String) :
    ∃ n, s.toList = (Text.trimEndOf c s).toList ++ List.replicate n c := by
  have ⟨_, n, hn⟩ := Text.trimEndOf_eq_iff (c := c) (s := s) |>.mp rfl
  refine ⟨n, ?_⟩
  rw [← Text.toList_times, ← String.toList_append, ← hn]

-- An address without a query and a fragment stays one when slashes are taken away from its end: a
-- site with a path at which more can be put.
theorem exists_site_of_read? {base : String} {a : WebAddress} (h : read? authority? base = some a)
    (hq : a.query = none) (hf : a.fragment = none) (ht : Tidy base.toList) :
    ∃ (s : Site authority?) (path : _) (n : Nat),
      front (Text.trimEndOf '/' base).toList = s.chars ++ path ∧
      Rooted path ∧ '#' ∉ path ∧ '?' ∉ path ∧
      a = s.address (path ++ List.replicate n '/') none none ∧
      ∃ n, a.segments = folder path ++ List.replicate n [] := by
  rw [read?, ht.clean_eq] at h
  obtain ⟨hash, question, s, path, hc, hp, rfl⟩ := exists_site_of_readChars? h hq hf
  obtain ⟨k, hk⟩ := hp.exists_segmentsOf_eq
  obtain ⟨n, hn⟩ := exists_trimEndOf '/' base
  rw [hn, front_append_replicate] at hc
  obtain ⟨path', hc', hp', rfl⟩ := Site.exists_path_of_append_replicate hc hp
  rw [hn, front_append_replicate, hc'] at hash question
  rw [folder_append_replicate, List.append_assoc, List.replicate_append_replicate] at hk
  have hm (c : Char) (h : c ∉ s.chars ++ path' ++ List.replicate n '/') : c ∉ path' :=
    fun hc => h <| List.mem_append_left _ <| List.mem_append_right _ hc
  exact ⟨s, path', n, hc', hp', hm _ hash, hm _ question, rfl, _, hk⟩

end WebAddress

end NodeEditor
