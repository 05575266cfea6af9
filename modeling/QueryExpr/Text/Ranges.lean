/-!
# Character classes as lists of intervals

A character class given by a standard is a list of closed intervals of code points in increasing
order. Membership walks the list and stops at the first interval that lies beyond the character, so
the small code points, which are the common case, are decided after a few steps.
-/

namespace QueryExpr.Text

/-- The code point of `c` lies in one of the intervals. The intervals are in increasing order. -/
def inRanges : List (Nat × Nat) → Char → Bool
  | [], _ => false
  | (lo, hi) :: rest, c =>
    if c.toNat < lo then false else if c.toNat ≤ hi then true else inRanges rest c

@[simp] theorem inRanges_nil (c : Char) : inRanges [] c = false := rfl

/-- A member lies in some interval of the list. -/
theorem exists_mem_of_inRanges {ranges : List (Nat × Nat)} {c : Char}
    (h : inRanges ranges c = true) : ∃ r ∈ ranges, r.1 ≤ c.toNat ∧ c.toNat ≤ r.2 := by
  induction ranges with
  | nil => simp at h
  | cons r rest ih =>
    obtain ⟨lo, hi⟩ := r
    unfold inRanges at h
    split at h
    · cases h
    · split at h
      · exact ⟨(lo, hi), by simp, by simp; omega⟩
      · obtain ⟨r, hr, hb⟩ := ih h
        exact ⟨r, by simp [hr], hb⟩

end QueryExpr.Text
