import NodeEditor.Proofs.Json.Dict
import NodeEditor.Proofs.Json.Reread

namespace NodeEditor

-- A number is legible if its text reads as the number itself.
def Number.Legible (n : Number) : Prop :=
  Json.parse (Json.num n).compact = .ok (.num n)

namespace Json

mutual

-- How many arrays and objects stand inside each other.
def depth : Json → Nat
  | .arr js => depthItems js + 1
  | .obj es => depthEntries es + 1
  | _       => 0

def depthItems : List Json → Nat
  | []      => 0
  | j :: js => max (depth j) (depthItems js)

def depthEntries : List (String × Json) → Nat
  | []           => 0
  | (_, j) :: es => max (depth j) (depthEntries es)

end

mutual

-- All numbers in a value, in the order in which they are written.
def numbers : Json → List Number
  | .num n  => [n]
  | .arr js => numbersItems js
  | .obj es => numbersEntries es
  | _       => []

def numbersItems : List Json → List Number
  | []      => []
  | j :: js => numbers j ++ numbersItems js

def numbersEntries : List (String × Json) → List Number
  | []           => []
  | (_, j) :: es => numbers j ++ numbersEntries es

end

theorem numbersItems_eq_flatMap (js : List Json) : numbersItems js = js.flatMap numbers := by
  induction js with
  | nil         => rfl
  | cons _ _ ih => rw [numbersItems, ih, List.flatMap_cons]

theorem numbersEntries_eq_flatMap (es : List (String × Json)) :
    numbersEntries es = es.flatMap fun e => e.2.numbers := by
  induction es with
  | nil         => rfl
  | cons _ _ ih => rw [numbersEntries, ih, List.flatMap_cons]

mutual

-- What comes back from the text of a value if that can be read: the value with the entries of each
-- object in order, and with each number as its text reads.
def echo : Json → Json
  | .num n  => .num <| n.reread.getD n
  | .arr js => .arr (echoItems js)
  | .obj es => .obj (Dict.ofList (echoEntries es)).entries
  | j       => j

def echoItems : List Json → List Json
  | []      => []
  | j :: js => echo j :: echoItems js

def echoEntries : List (String × Json) → List (String × Json)
  | []           => []
  | (k, j) :: es => (k, echo j) :: echoEntries es

end

theorem echoItems_eq_map (js : List Json) : echoItems js = js.map echo := by
  induction js with
  | nil         => rfl
  | cons _ _ ih => rw [echoItems, ih, List.map_cons]

theorem echoEntries_eq_self {es : List (String × Json)} (h : ∀ e ∈ es, e.2.echo = e.2) :
    echoEntries es = es := by
  induction es with
  | nil         => rfl
  | cons e _ ih =>
    rw [echoEntries, h e List.mem_cons_self, ih fun e he => h e <| List.mem_cons_of_mem _ he]

mutual

theorem echo_of_reread {j j' : Json} {d : Nat} (h : j.reread d = some j') : j' = j.echo := by
  match j, d with
  | .null, _ | .bool _, _ | .str _, _ => simp_all [reread, echo]
  | .num n, _ =>
    obtain ⟨m, hm, rfl⟩ := Option.map_eq_some_iff.mp h
    rw [echo, hm]
    rfl
  | .arr js, d + 1 =>
    obtain ⟨js', hj, rfl⟩ := Option.map_eq_some_iff.mp h
    rw [echo, echoItems_of_reread hj]
  | .obj es, d + 1 =>
    obtain ⟨es', he, rfl⟩ := Option.map_eq_some_iff.mp h
    rw [echo, echoEntries_of_reread he]

theorem echoItems_of_reread {js js' : List Json} {d : Nat} (h : rereadItems d js = some js') :
    js' = echoItems js := by
  match js with
  | []      => exact Option.some.inj h.symm
  | j :: js =>
    obtain ⟨_, hj, h⟩ := Option.bind_eq_some_iff.mp h
    obtain ⟨_, hs, rfl⟩ := Option.map_eq_some_iff.mp h
    rw [echoItems, echo_of_reread hj, echoItems_of_reread hs]

theorem echoEntries_of_reread {es es' : List (String × Json)} {d : Nat}
    (h : rereadEntries d es = some es') : es' = echoEntries es := by
  match es with
  | []           => exact Option.some.inj h.symm
  | (k, j) :: es =>
    obtain ⟨_, hj, h⟩ := Option.bind_eq_some_iff.mp h
    obtain ⟨_, hs, rfl⟩ := Option.map_eq_some_iff.mp h
    rw [echoEntries, echo_of_reread hj, echoEntries_of_reread hs]

end

-- The text of a value is readable if no more arrays and objects stand inside each other than a reader
-- takes, and the text of every number is readable.

mutual

theorem reread_eq_echo (j : Json) {d : Nat} (hd : j.depth ≤ d)
    (hn : ∀ n ∈ j.numbers, n.reread.isSome) : j.reread d = some j.echo := by
  match j, d with
  | .null, _ | .bool _, _ | .str _, _ => simp [reread, echo]
  | .num n, _ =>
    have ⟨m, hm⟩ := Option.isSome_iff_exists.mp <| hn n List.mem_cons_self
    simp [reread, echo, hm]
  | .arr js, 0 | .obj es, 0 => simp [depth] at hd
  | .arr js, d + 1 =>
    rw [reread, rereadItems_eq_echo js (Nat.le_of_succ_le_succ hd) hn, echo]
    rfl
  | .obj es, d + 1 =>
    rw [reread, rereadEntries_eq_echo es (Nat.le_of_succ_le_succ hd) hn, echo]
    rfl

theorem rereadItems_eq_echo (js : List Json) {d : Nat} (hd : depthItems js ≤ d)
    (hn : ∀ n ∈ numbersItems js, n.reread.isSome) : rereadItems d js = some (echoItems js) := by
  match js with
  | []      => rfl
  | j :: js =>
    have ⟨hj, hs⟩ := Nat.max_le.mp hd
    have ⟨hnj, hns⟩ := List.forall_mem_append.mp hn
    rw [rereadItems, reread_eq_echo j hj hnj, rereadItems_eq_echo js hs hns]
    rfl

theorem rereadEntries_eq_echo (es : List (String × Json)) {d : Nat} (hd : depthEntries es ≤ d)
    (hn : ∀ n ∈ numbersEntries es, n.reread.isSome) :
    rereadEntries d es = some (echoEntries es) := by
  match es with
  | []           => rfl
  | (k, j) :: es =>
    have ⟨hj, hs⟩ := Nat.max_le.mp hd
    have ⟨hnj, hns⟩ := List.forall_mem_append.mp hn
    rw [rereadEntries, reread_eq_echo j hj hnj, rereadEntries_eq_echo es hs hns]
    rfl

end

-- A value with its entries in order comes back as it is.

mutual

theorem echo_of_ordered {j : Json} (ho : j.Ordered) (hn : ∀ n ∈ j.numbers, n.reread = some n) :
    j.echo = j := by
  match j with
  | .null | .bool _ | .str _ => rfl
  | .num n  => rw [echo, hn n List.mem_cons_self]; rfl
  | .arr js => rw [echo, echoItems_of_ordered ho hn]
  | .obj es => rw [echo, echoEntries_of_ordered ho.right hn, Dict.ofList_entries ⟨es, ho.left⟩]

theorem echoItems_of_ordered {js : List Json} (ho : OrderedItems js)
    (hn : ∀ n ∈ numbersItems js, n.reread = some n) : echoItems js = js := by
  match js with
  | []      => rfl
  | j :: js =>
    have ⟨hnj, hns⟩ := List.forall_mem_append.mp hn
    rw [echoItems, echo_of_ordered ho.left hnj, echoItems_of_ordered ho.right hns]

theorem echoEntries_of_ordered {es : List (String × Json)} (ho : OrderedEntries es)
    (hn : ∀ n ∈ numbersEntries es, n.reread = some n) : echoEntries es = es := by
  match es with
  | []           => rfl
  | (k, j) :: es =>
    have ⟨hnj, hns⟩ := List.forall_mem_append.mp hn
    rw [echoEntries, echo_of_ordered ho.left hnj, echoEntries_of_ordered ho.right hns]

end

theorem echo_of_parse {j j' : Json} (h : parse j.compact = .ok j') : j' = j.echo :=
  echo_of_reread <| parse_compact j ▸ toOption_eq_some_iff.mpr h

theorem parse_eq_echo {j : Json} (hd : j.depth ≤ maxDepth)
    (hn : ∀ n ∈ j.numbers, n.reread.isSome) : parse j.compact = .ok j.echo :=
  toOption_eq_some_iff.mp <| (parse_compact j).trans <| reread_eq_echo j hd hn

end Json

namespace Number

theorem legible_iff {n : Number} : n.Legible ↔ n.reread = some n := by
  rw [Legible, ← toOption_eq_some_iff, Json.parse_compact, Json.reread]
  cases n.reread <;> simp

-- Integers of 64 bits, signed or not.
theorem legible_int {n : Int} (hl : -0x8000000000000000 ≤ n)
    (hu : n < 0x10000000000000000) : (int n).Legible :=
  legible_iff.mpr <| reread_int hl hu

end Number

end NodeEditor
