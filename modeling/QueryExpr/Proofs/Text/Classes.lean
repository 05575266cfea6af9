import QueryExpr.Number.Reading
import QueryExpr.Text.Blank
import QueryExpr.Text.Identifier

/-!
# Character classes that do not meet

Blanks, digits and the characters that begin a name are classes of their own, so the first character of
a token tells which kind it is. Two classes given by intervals do not meet if no interval of one meets
an interval of the other, which is a computation over the two lists.
-/

namespace QueryExpr.Text

/-- What holds of all members of a list can be found out by going through it. -/
theorem forall_mem_of_all {α : Type} {P : α → Prop} [DecidablePred P] {xs : List α}
    (h : (xs.all fun x => decide (P x)) = true) : ∀ x ∈ xs, P x :=
  fun x hx => of_decide_eq_true (List.all_eq_true.mp h x hx)

/-- No character of one class lies in the other if the intervals do not meet. -/
theorem not_inRanges_of_inRanges {rs qs : List (Nat × Nat)} {c : Char}
    (hdisjoint : (rs.all fun r => qs.all fun q => r.2 < q.1 || q.2 < r.1) = true)
    (h : inRanges rs c = true) : inRanges qs c = false := by
  cases hc : inRanges qs c with
  | false => rfl
  | true =>
    obtain ⟨r, hr, hlow, hhigh⟩ := exists_mem_of_inRanges h
    obtain ⟨q, hq, hlow', hhigh'⟩ := exists_mem_of_inRanges hc
    have hrq := List.all_eq_true.mp (List.all_eq_true.mp hdisjoint r hr) q hq
    simp only [Bool.or_eq_true, decide_eq_true_eq] at hrq
    omega

/-- No name begins with a blank. -/
theorem not_isBlank_of_isIdentStart {c : Char} (h : isIdentStart c = true) : isBlank c = false := by
  unfold isIdentStart at h
  rcases Bool.or_eq_true_iff.mp h with h | h
  · obtain rfl : c = '_' := by simpa using h
    decide
  · exact not_inRanges_of_inRanges (by decide +kernel) h

section Digit

variable {c : Char} (h : isAsciiDigit c = true)

include h

/-- The code points of the digits. -/
theorem toNat_of_isAsciiDigit : 0x30 ≤ c.toNat ∧ c.toNat ≤ 0x39 := by
  obtain ⟨hlow, hhigh⟩ := Bool.and_eq_true_iff.mp h
  exact ⟨of_decide_eq_true hlow, of_decide_eq_true hhigh⟩

theorem inRanges_of_isAsciiDigit : inRanges [(0x30, 0x39)] c = true := by
  have hc := toNat_of_isAsciiDigit h
  rw [inRanges, if_neg (by omega), if_pos hc.2]

/-- A digit is no blank. -/
theorem not_isBlank_of_isAsciiDigit : isBlank c = false :=
  not_inRanges_of_inRanges (by decide) (inRanges_of_isAsciiDigit h)

/-- A digit begins no name. -/
theorem not_isIdentStart_of_isAsciiDigit : isIdentStart c = false := by
  have hne : c ≠ '_' := by
    rintro rfl
    cases h
  rw [isIdentStart, decide_eq_false hne, Bool.false_or]
  exact not_inRanges_of_inRanges (by decide +kernel) (inRanges_of_isAsciiDigit h)

end Digit

end QueryExpr.Text
