import NodeEditor.Proofs.Json.Ordered

namespace NodeEditor.Json

-- A size of characters for which no escape is shorter than what it stands for.
structure Sizes (size : Char → Nat) : Prop where
  pos   : ∀ c, 0 < size c
  le    : ∀ c, size c ≤ 4
  ascii : ∀ c, c.toNat < 0x80 → size c = 1

theorem sizes_one : Sizes fun _ => 1 where
  pos _     := Nat.one_pos
  le _      := by omega
  ascii _ _ := rfl

theorem sizes_utf8Size : Sizes Char.utf8Size where
  pos       := Char.utf8Size_pos
  le        := Char.utf8Size_le_four
  ascii _ h := Char.utf8Size_eq_one_iff.mpr <| Nat.le_of_lt_succ h

theorem Sizes.le_of_ascii {size : Char → Nat} {c d : Char} (z : Sizes size) (h : c.toNat < 0x80) :
    size c ≤ size d :=
  z.ascii c h ▸ z.pos d

-- The size of a text.
def extent (size : Char → Nat) : List Char → Nat
  | []      => 0
  | c :: cs => size c + extent size cs

variable {size : Char → Nat} {cs rest s : List Char} {c : Char} {n fuel depth : Nat}
  {text t : String}

@[simp]
theorem extent_cons : extent size (c :: cs) = size c + extent size cs :=
  rfl

theorem extent_append : extent size (cs ++ rest) = extent size cs + extent size rest := by
  induction cs with
  | nil          => exact (Nat.zero_add _).symm
  | cons c cs ih => rw [List.cons_append, extent_cons, extent_cons, ih, Nat.add_assoc]

theorem extent_one (s : String) : extent (fun _ => 1) s.toList = s.length := by
  have h (cs : List Char) : extent (fun _ => 1) cs = cs.length := by
    induction cs with
    | nil          => rfl
    | cons c cs ih => rw [extent_cons, ih, Nat.add_comm, List.length_cons]
  rw [h, String.length_toList]

theorem extent_utf8Size (s : String) : extent Char.utf8Size s.toList = s.utf8ByteSize := by
  have h (cs : List Char) : extent Char.utf8Size cs = (String.ofList cs).utf8ByteSize := by
    induction cs with
    | nil          => rfl
    | cons c cs ih =>
      have hs : String.ofList (c :: cs) = String.singleton c ++ String.ofList cs := by
        rw [String.singleton_eq_ofList, ← String.ofList_append]
        rfl
      rw [hs, String.utf8ByteSize_append, String.utf8ByteSize_singleton, ← ih, extent_cons]
  rw [h, String.ofList_toList]

-- What is read of a text is never longer than the part of the text that it is read from.

theorem readHex_extent (z : Sizes size) (h : readHex cs = .ok (n, rest)) :
    4 + extent size rest ≤ extent size cs := by
  rw [readHex.eq_def] at h
  split at h
  case h_1 a b c d _ =>
    split at h <;> cases h
    have := z.pos a
    have := z.pos b
    have := z.pos c
    have := z.pos d
    simp only [extent_cons]
    omega
  case h_2 => split at h <;> cases h

theorem readLowSurrogate_extent {high : Nat} (z : Sizes size)
    (h : readLowSurrogate high cs = .ok (c, rest)) :
    4 + extent size rest ≤ extent size cs := by
  rw [readLowSurrogate.eq_def] at h
  split at h
  case h_3 r =>
    obtain ⟨⟨low, r⟩, hx, h⟩ := bind_ok_iff.mp h
    have hr := readHex_extent z hx
    dsimp only at h
    split_ifs at h
    rw [Except.ok.injEq, Prod.mk.injEq] at h
    rw [← h.right, extent_cons, extent_cons]
    omega
  all_goals cases h

theorem readEscape_extent (z : Sizes size) (h : readEscape cs = .ok (c, rest)) :
    size c + extent size rest ≤ extent size cs := by
  rw [readEscape.eq_def] at h
  split at h
  case h_10 r =>
    obtain ⟨⟨n, r⟩, hx, h⟩ := bind_ok_iff.mp h
    have hr := readHex_extent z hx
    rw [extent_cons]
    dsimp only at h
    split_ifs at h
    · have hl := readLowSurrogate_extent z h
      have := z.le c
      omega
    · cases h
      have := z.le (Char.ofNat n)
      omega
  all_goals cases h
  all_goals rw [extent_cons]
  all_goals exact Nat.add_le_add_right (z.le_of_ascii <| by decide) _

theorem readChars_extent (z : Sizes size) (h : readChars fuel cs = .ok (s, rest)) :
    extent size s + extent size rest < extent size cs := by
  induction fuel generalizing cs s with
  | zero         => cases h
  | succ fuel ih =>
    rw [readChars.eq_def] at h
    dsimp only at h
    split at h
    · cases h
    · cases h
      rw [extent_cons]
      exact Nat.add_lt_add_right (z.pos _) _
    · obtain ⟨⟨c, r⟩, he, h⟩ := bind_ok_iff.mp h
      obtain ⟨⟨cs, more⟩, hs, h⟩ := bind_ok_iff.mp h
      cases h
      have hr := readEscape_extent z he
      have hs : extent size cs + extent size more < extent size r := ih hs
      have := z.pos '\\'
      simp only [extent_cons]
      omega
    · split at h
      · cases h
      · obtain ⟨⟨cs, more⟩, hs, h⟩ := bind_ok_iff.mp h
        cases h
        have hs : extent size cs + extent size more < _ := ih hs
        simp only [extent_cons]
        omega

theorem readString_extent (z : Sizes size) (h : readString cs = .ok (t, rest)) :
    extent size t.toList + extent size rest < extent size cs := by
  obtain ⟨⟨s, r⟩, hs, h⟩ := bind_ok_iff.mp h
  cases h
  rw [String.toList_ofList]
  exact readChars_extent z hs

theorem skipSpace_extent_le (size : Char → Nat) (cs : List Char) :
    extent size (skipSpace cs) ≤ extent size cs := by
  have h := List.takeWhile_append_dropWhile (p := isSpace) (l := cs)
  rw [skipSpace]
  conv_rhs => rw [← h, extent_append]
  exact Nat.le_add_left _ _

theorem readValue_str_extent (z : Sizes size) (h : readValue fuel depth cs = .ok (.str t, rest)) :
    extent size t.toList < extent size cs := by
  match fuel with
  | 0        => cases h
  | fuel + 1 =>
    have hl := skipSpace_extent_le size cs
    rw [readValue] at h
    split at h
    case h_1        => cases h
    case h_2 c r hc =>
      rw [hc, extent_cons] at hl
      split_ifs at h
      iterate 5
        · obtain ⟨_, _, h⟩ := bind_ok_iff.mp h
          cases h
      · obtain ⟨_, hs, h⟩ := bind_ok_iff.mp h
        cases h
        have := readString_extent z hs
        omega
      iterate 2
        · cases depth with
          | zero   => cases h
          | succ _ =>
            obtain ⟨_, _, h⟩ := bind_ok_iff.mp h
            cases h

theorem parse_str_extent (z : Sizes size) (h : parse text = .ok (.str t)) :
    extent size t.toList < extent size text.toList :=
  have ⟨_, _, h⟩ := exists_readValue_of_parse h
  readValue_str_extent z h

theorem parse_str_length (h : parse text = .ok (.str t)) : t.length < text.length := by
  have := parse_str_extent sizes_one h
  rwa [extent_one, extent_one] at this

theorem parse_str_utf8ByteSize (h : parse text = .ok (.str t)) :
    t.utf8ByteSize < text.utf8ByteSize := by
  have := parse_str_extent sizes_utf8Size h
  rwa [extent_utf8Size, extent_utf8Size] at this

end NodeEditor.Json
