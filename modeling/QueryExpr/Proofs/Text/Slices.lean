import QueryExpr.Text.Blank
import QueryExpr.Text.Slice

/-!
# Slices of a text

`Text.slice?` cuts a text at two byte offsets and fails if one of them lies inside a character or
past the end. This file turns the two walks behind it into one statement about lists,
`slice?_eq_some_iff`: a slice is a middle part of the text, and its offsets count the bytes in front
of it and up to its end. Everything else follows from it:

* `slice?_join` — slices that meet at an offset join to the slice of the outer offsets;
* `exists_slice?` — between two offsets that are `Boundary` points there always is a slice;
* `Gap` — the text between two offsets is white space, the shape of what stands between tokens.
-/

namespace QueryExpr.Text

/-! ### The two walks -/

/-- Dropping bytes leaves an end part, and what was dropped has the given length. -/
theorem exists_front_of_dropBytes {n : Nat} {cs rest : List Char}
    (h : dropBytes n cs = some rest) : ∃ front, cs = front ++ rest ∧ byteLength front = n := by
  induction cs generalizing n with
  | nil =>
    cases n with
    | zero => exact ⟨[], by simpa [dropBytes] using h, rfl⟩
    | succ n => simp [dropBytes] at h
  | cons c cs ih =>
    cases n with
    | zero => exact ⟨[], by simpa [dropBytes] using h, rfl⟩
    | succ n =>
      rw [dropBytes] at h
      split at h
      · next hle =>
        obtain ⟨front, hcs, hlen⟩ := ih h
        refine ⟨c :: front, by rw [hcs, List.cons_append], ?_⟩
        rw [byteLength_cons, hlen]
        omega
      · cases h

/-- Taking bytes gives a front part of the given length. -/
theorem exists_rest_of_takeBytes {n : Nat} {cs front : List Char}
    (h : takeBytes n cs = some front) : ∃ rest, cs = front ++ rest ∧ byteLength front = n := by
  induction cs generalizing n front with
  | nil =>
    cases n with
    | zero =>
      obtain rfl : [] = front := by simpa [takeBytes] using h
      exact ⟨[], rfl, rfl⟩
    | succ n => simp [takeBytes] at h
  | cons c cs ih =>
    cases n with
    | zero =>
      obtain rfl : [] = front := by simpa [takeBytes] using h
      exact ⟨c :: cs, rfl, rfl⟩
    | succ n =>
      rw [takeBytes] at h
      split at h
      · next hle =>
        -- the first character fits into the bytes that are left
        obtain ⟨tail, htail, rfl⟩ := Option.map_eq_some_iff.mp h
        obtain ⟨rest, hcs, hlen⟩ := ih htail
        refine ⟨rest, by rw [hcs, List.cons_append], ?_⟩
        rw [byteLength_cons, hlen]
        omega
      · cases h

/-- A slice is a middle part of the text, placed by the bytes in front of it. -/
theorem slice?_eq_some_iff {cs middle : List Char} {start stop : Nat} :
    slice? cs start stop = some middle ↔
      ∃ front rest, cs = front ++ (middle ++ rest) ∧ byteLength front = start ∧
        stop = start + byteLength middle := by
  constructor
  · intro h
    unfold slice? at h
    split at h
    · next hle =>
      obtain ⟨tail, hdrop, htake⟩ := Option.bind_eq_some_iff.mp h
      obtain ⟨front, hcs, hfront⟩ := exists_front_of_dropBytes hdrop
      obtain ⟨rest, htail, hmiddle⟩ := exists_rest_of_takeBytes htake
      exact ⟨front, rest, by rw [hcs, htail], hfront, by omega⟩
    · cases h
  · rintro ⟨front, rest, rfl, rfl, rfl⟩
    exact slice?_append front middle rest

/-! ### Adjacent slices -/

/-- Every character takes up a byte at least. -/
theorem eq_nil_of_byteLength {cs : List Char} (h : byteLength cs = 0) : cs = [] := by
  cases cs with
  | nil => rfl
  | cons c cs =>
    have hpos : 0 < c.utf8Size := c.utf8Size_pos
    rw [byteLength_cons] at h
    omega

/-- Two front parts of one text with the same number of bytes are the same. -/
theorem append_inj_of_byteLength {xs ys xs' ys' : List Char} (h : xs ++ ys = xs' ++ ys')
    (hlen : byteLength xs = byteLength xs') : xs = xs' ∧ ys = ys' := by
  induction xs generalizing xs' with
  | nil =>
    obtain rfl : xs' = [] := eq_nil_of_byteLength hlen.symm
    exact ⟨rfl, h⟩
  | cons c cs ih =>
    cases xs' with
    | nil => cases eq_nil_of_byteLength hlen
    | cons c' cs' =>
      simp only [List.cons_append, List.cons.injEq] at h
      obtain ⟨rfl, h⟩ := h
      obtain ⟨rfl, hys⟩ := ih h (by simpa using hlen)
      exact ⟨rfl, hys⟩

/-- **Slices that meet join.** -/
theorem slice?_join {cs xs ys : List Char} {a b c : Nat} (hx : slice? cs a b = some xs)
    (hy : slice? cs b c = some ys) : slice? cs a c = some (xs ++ ys) := by
  obtain ⟨front, rest, hcs, rfl, rfl⟩ := slice?_eq_some_iff.mp hx
  obtain ⟨front', rest', hcs', hfront', rfl⟩ := slice?_eq_some_iff.mp hy
  have heq : (front ++ xs) ++ rest = front' ++ (ys ++ rest') := by
    rw [List.append_assoc, ← hcs, hcs']
  obtain ⟨-, hrest⟩ := append_inj_of_byteLength heq (by rw [byteLength_append, hfront'])
  refine slice?_eq_some_iff.mpr ⟨front, rest', ?_, rfl, ?_⟩
  · rw [hcs, hrest, List.append_assoc]
  · rw [byteLength_append, Nat.add_assoc]

/-- A part of a slice is a slice. -/
theorem slice?_middle {cs : List Char} {a b : Nat} (front middle back : List Char)
    (h : slice? cs a b = some (front ++ (middle ++ back))) :
    slice? cs (a + byteLength front) (a + byteLength front + byteLength middle) = some middle := by
  obtain ⟨before, rest, hcs, rfl, -⟩ := slice?_eq_some_iff.mp h
  refine slice?_eq_some_iff.mpr ⟨before ++ front, back ++ rest, ?_, byteLength_append _ _, rfl⟩
  rw [hcs]
  simp only [List.append_assoc]

/-- A part of a slice behind two others, whose bytes are counted one after the other. -/
theorem slice?_third {cs : List Char} {a b : Nat} (first second third back : List Char)
    (h : slice? cs a b = some (first ++ (second ++ (third ++ back)))) :
    slice? cs (a + byteLength first + byteLength second)
      (a + byteLength first + byteLength second + byteLength third) = some third := by
  have hmiddle := slice?_middle (first ++ second) third back (by rw [h, List.append_assoc])
  rw [byteLength_append, ← Nat.add_assoc] at hmiddle
  exact hmiddle

/-- The offsets of a slice are in order. -/
theorem le_of_slice? {cs xs : List Char} {a b : Nat} (h : slice? cs a b = some xs) : a ≤ b := by
  obtain ⟨-, -, -, -, rfl⟩ := slice?_eq_some_iff.mp h
  exact Nat.le_add_right _ _

/-- A slice between offsets that are the same is empty. -/
theorem eq_nil_of_slice?_self {cs xs : List Char} {a : Nat} (h : slice? cs a a = some xs) :
    xs = [] := by
  obtain ⟨-, -, -, -, hstop⟩ := slice?_eq_some_iff.mp h
  exact eq_nil_of_byteLength (by omega)

/-- The slice from end to end is the text. -/
theorem slice?_self (cs : List Char) : slice? cs 0 (byteLength cs) = some cs := by
  simpa using slice?_append [] cs []

/-! ### Boundaries -/

/-- The offset does not fall inside a character or past the end. -/
def Boundary (cs : List Char) (p : Nat) : Prop :=
  ∃ front rest, cs = front ++ rest ∧ byteLength front = p

/-- Where a slice starts there is a boundary. -/
theorem boundary_start_of_slice? {cs xs : List Char} {a b : Nat} (h : slice? cs a b = some xs) :
    Boundary cs a := by
  obtain ⟨front, rest, hcs, hfront, -⟩ := slice?_eq_some_iff.mp h
  exact ⟨front, xs ++ rest, hcs, hfront⟩

/-- Where a slice stops there is a boundary. -/
theorem boundary_stop_of_slice? {cs xs : List Char} {a b : Nat} (h : slice? cs a b = some xs) :
    Boundary cs b := by
  obtain ⟨front, rest, hcs, hfront, hstop⟩ := slice?_eq_some_iff.mp h
  refine ⟨front ++ xs, rest, by rw [hcs, List.append_assoc], ?_⟩
  rw [byteLength_append, hfront, hstop]

/-- Two front parts of one text: the one with fewer bytes is a front part of the other. -/
theorem exists_append_of_byteLength_le {xs ys xs' ys' : List Char} (h : xs ++ ys = xs' ++ ys')
    (hlen : byteLength xs ≤ byteLength xs') : ∃ zs, xs' = xs ++ zs := by
  rcases List.append_eq_append_iff.mp h with ⟨zs, hxs', -⟩ | ⟨zs, hxs, -⟩
  · exact ⟨zs, hxs'⟩
  · -- the other way round the surplus is empty
    subst hxs
    rw [byteLength_append] at hlen
    obtain rfl : zs = [] := eq_nil_of_byteLength (by omega)
    exact ⟨[], by simp⟩

/-- **Between two boundaries there is a slice.** -/
theorem exists_slice? {cs : List Char} {a b : Nat} (ha : Boundary cs a) (hb : Boundary cs b)
    (hle : a ≤ b) : ∃ xs, slice? cs a b = some xs := by
  obtain ⟨front, rest, hcs, rfl⟩ := ha
  obtain ⟨front', rest', hcs', rfl⟩ := hb
  obtain ⟨zs, rfl⟩ := exists_append_of_byteLength_le (hcs.symm.trans hcs') hle
  refine ⟨zs, slice?_eq_some_iff.mpr ⟨front, rest', ?_, rfl, byteLength_append _ _⟩⟩
  rw [hcs', List.append_assoc]

/-! ### White space between offsets -/

/-- Between the offsets there is nothing but white space. -/
def Gap (cs : List Char) (a b : Nat) : Prop :=
  ∃ blanks, slice? cs a b = some blanks ∧ ∀ c ∈ blanks, isBlank c = true

theorem Gap.le {cs : List Char} {a b : Nat} (h : Gap cs a b) : a ≤ b := by
  obtain ⟨_, h, -⟩ := h
  exact le_of_slice? h

theorem Gap.boundary_stop {cs : List Char} {a b : Nat} (h : Gap cs a b) : Boundary cs b := by
  obtain ⟨_, h, -⟩ := h
  exact boundary_stop_of_slice? h

/-- Nothing is left of a gap without its white space. -/
theorem Gap.exists_filter_eq_nil {cs : List Char} {a b : Nat} (h : Gap cs a b) :
    ∃ blanks, slice? cs a b = some blanks ∧ blanks.filter (fun c => !isBlank c) = [] := by
  obtain ⟨blanks, hslice, hblanks⟩ := h
  refine ⟨blanks, hslice, List.filter_eq_nil_iff.mpr fun c hc => ?_⟩
  simp [hblanks c hc]

/-- A boundary is an empty gap. -/
theorem Boundary.gap {cs : List Char} {a : Nat} (h : Boundary cs a) : Gap cs a a := by
  obtain ⟨xs, hxs⟩ := exists_slice? h h (Nat.le_refl a)
  obtain rfl := eq_nil_of_slice?_self hxs
  exact ⟨[], hxs, by simp⟩

end QueryExpr.Text
