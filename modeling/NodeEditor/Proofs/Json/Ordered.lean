import NodeEditor.Json.Reader
import NodeEditor.Proofs.Json.Dict

namespace NodeEditor

theorem bind_ok_iff {ε α β : Type} {r : Except ε α} {f : α → Except ε β} {b : β} :
    (r >>= f) = .ok b ↔ ∃ a, r = .ok a ∧ f a = .ok b := by
  cases r with
  | error _ => simp [bind, Except.bind]
  | ok a    => simp [bind, Except.bind]

namespace Dict

variable {α : Type} {entries : List (String × α)} {e : String × α}

theorem mem_of_mem_ofList (h : e ∈ (ofList entries).entries) : e ∈ entries := by
  have hg : (ofList entries).get? e.1 = some e.2 := get?_eq_some_iff.mpr h
  rw [get?_ofList] at hg
  have ⟨_, _, hr, _⟩ := List.lookup_eq_some_iff.mp hg
  exact List.mem_reverse.mp <| hr ▸ List.mem_append_right _ List.mem_cons_self

end Dict

namespace Json

theorem orderedItems_iff {js : List Json} : OrderedItems js ↔ ∀ j ∈ js, j.Ordered := by
  induction js with
  | nil         => simp [OrderedItems]
  | cons _ _ ih => rw [OrderedItems, ih, List.forall_mem_cons]

theorem orderedEntries_iff {es : List (String × Json)} :
    OrderedEntries es ↔ ∀ e ∈ es, e.2.Ordered := by
  induction es with
  | nil         => simp [OrderedEntries]
  | cons _ _ ih => rw [OrderedEntries, ih, List.forall_mem_cons]

-- What holds of the values that are read first, and goes over from values to what is made of them.
structure Readable (Q : Json → Prop) : Prop where
  null : Q .null
  bool : ∀ b, Q (.bool b)
  str  : ∀ s, Q (.str s)
  num  : ∀ {negative cs n rest}, readNumber negative cs = .ok (n, rest) → Q (.num n)
  arr  : ∀ {js}, (∀ j ∈ js, Q j) → Q (.arr js)
  obj  : ∀ {es}, (∀ e ∈ es, Q e.2) → Q (.obj (Dict.ofList es).entries)

namespace Readable

variable {Q : Json → Prop}

-- It holds of whatever is read. By induction on the fuel.

mutual

theorem of_readValue (q : Readable Q) {j : Json} {fuel depth : Nat} {cs rest : List Char}
    (h : readValue fuel depth cs = .ok (j, rest)) : Q j := by
  match fuel with
  | 0        => cases h
  | fuel + 1 =>
    rw [readValue] at h
    split at h
    case h_1     => cases h
    case h_2 c r =>
      split_ifs at h
      · obtain ⟨_, _, h⟩ := bind_ok_iff.mp h
        cases h
        exact q.null
      · obtain ⟨_, _, h⟩ := bind_ok_iff.mp h
        cases h
        exact q.bool true
      · obtain ⟨_, _, h⟩ := bind_ok_iff.mp h
        cases h
        exact q.bool false
      · obtain ⟨_, hn, h⟩ := bind_ok_iff.mp h
        cases h
        exact q.num hn
      · obtain ⟨_, hn, h⟩ := bind_ok_iff.mp h
        cases h
        exact q.num hn
      · obtain ⟨_, _, h⟩ := bind_ok_iff.mp h
        cases h
        exact q.str _
      · cases depth with
        | zero       => cases h
        | succ depth =>
          obtain ⟨_, hs, h⟩ := bind_ok_iff.mp h
          cases h
          exact q.arr <| q.of_readItems hs
      · cases depth with
        | zero       => cases h
        | succ depth =>
          obtain ⟨_, hs, h⟩ := bind_ok_iff.mp h
          cases h
          exact q.obj <| q.of_readEntries hs

theorem of_readItems (q : Readable Q) {js : List Json} {fuel depth : Nat} {first : Bool}
    {cs rest : List Char}
    (h : readItems fuel depth first cs = .ok (js, rest)) : ∀ j ∈ js, Q j := by
  match fuel with
  | 0        => cases h
  | fuel + 1 =>
    rw [readItems] at h
    obtain ⟨⟨o, more⟩, _, h⟩ := bind_ok_iff.mp h
    cases o with
    | none      =>
      cases h
      exact List.forall_mem_nil _
    | some item =>
      obtain ⟨_, hv, h⟩ := bind_ok_iff.mp h
      obtain ⟨_, hs, h⟩ := bind_ok_iff.mp h
      cases h
      exact List.forall_mem_cons.mpr ⟨q.of_readValue hv, q.of_readItems hs⟩

theorem of_readEntries (q : Readable Q) {es : List (String × Json)} {fuel depth : Nat}
    {first : Bool} {cs rest : List Char}
    (h : readEntries fuel depth first cs = .ok (es, rest)) : ∀ e ∈ es, Q e.2 := by
  match fuel with
  | 0        => cases h
  | fuel + 1 =>
    rw [readEntries] at h
    obtain ⟨⟨o, more⟩, _, h⟩ := bind_ok_iff.mp h
    cases o with
    | none     =>
      cases h
      exact List.forall_mem_nil _
    | some key =>
      obtain ⟨_, _, h⟩ := bind_ok_iff.mp h
      obtain ⟨_, _, h⟩ := bind_ok_iff.mp h
      obtain ⟨_, hv, h⟩ := bind_ok_iff.mp h
      obtain ⟨_, hs, h⟩ := bind_ok_iff.mp h
      cases h
      exact List.forall_mem_cons.mpr ⟨q.of_readValue hv, q.of_readEntries hs⟩

end

end Readable

theorem exists_readValue_of_parse {j : Json} {text : String} (h : parse text = .ok j) :
    ∃ fuel rest, readValue fuel maxDepth text.toList = .ok (j, rest) := by
  rw [parse] at h
  cases hc : parseChars text.toList with
  | error _ => simp [hc] at h
  | ok j'   =>
    simp only [hc, Except.ok.injEq] at h
    obtain ⟨⟨_, rest⟩, hv, hr⟩ := bind_ok_iff.mp hc
    dsimp only at hr
    split at hr
    case h_1 =>
      cases hr
      exact ⟨_, rest, h ▸ hv⟩
    case h_2 => cases hr

theorem Readable.of_parse {Q : Json → Prop} {j : Json} {text : String} (q : Readable Q)
    (h : parse text = .ok j) : Q j :=
  have ⟨_, _, h⟩ := exists_readValue_of_parse h
  q.of_readValue h

theorem ordered_readable : Readable Ordered where
  null   := trivial
  bool _ := trivial
  str _  := trivial
  num _  := trivial
  arr h  := orderedItems_iff.mpr h
  obj {es} h :=
    ⟨(Dict.ofList es).ordered, orderedEntries_iff.mpr fun e he => h e <| Dict.mem_of_mem_ofList he⟩

theorem ordered_of_parse {j : Json} {text : String} (h : parse text = .ok j) : j.Ordered :=
  ordered_readable.of_parse h

end Json

end NodeEditor
