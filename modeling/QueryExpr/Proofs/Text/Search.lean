import Mathlib.Data.List.Basic
import QueryExpr.Text.Search

/-!
# Cutting texts at a mark

A text is cut at the first place where a pattern stands, or at the last place where a character stands.
The cut takes out the mark and nothing else, and it is the only one that leaves no mark in front of it,
or behind it. Splitting a text at all marks takes out nothing but the marks either.
-/

namespace QueryExpr.Text

variable {mark : Char} {pattern cs xs ys : List Char}

/-- A pattern is not found where its first character is missing. -/
theorem cutFirst_of_not_mem (h : mark ∉ cs) : cutFirst (mark :: pattern) cs = none := by
  induction cs with
  | nil => rfl
  | cons c cs ih =>
    obtain ⟨hc, hcs⟩ := List.ne_and_not_mem_of_not_mem_cons h
    rw [cutFirst, ih hcs]
    simp [hc]

/-- A pattern is found where its first character comes for the first time. -/
theorem cutFirst_append (h : mark ∉ xs) :
    cutFirst (mark :: pattern) (xs ++ mark :: (pattern ++ ys)) = some (xs, ys) := by
  induction xs with
  | nil => simp [cutFirst]
  | cons x xs ih =>
    obtain ⟨hx, hxs⟩ := List.ne_and_not_mem_of_not_mem_cons h
    rw [List.cons_append, cutFirst, ih hxs]
    simp [hx]

/-- A cut at the first pattern takes nothing but the pattern out of the text. -/
theorem eq_append_of_cutFirst (h : cutFirst pattern cs = some (xs, ys)) : cs = xs ++ (pattern ++ ys) := by
  induction cs generalizing xs with
  | nil => cases h
  | cons c cs ih =>
    rw [cutFirst] at h
    split at h
    · next hprefix =>
      obtain ⟨rest, hrest⟩ := List.isPrefixOf_iff_prefix.mp hprefix
      rw [← hrest, List.drop_left] at h
      cases h
      exact hrest.symm
    · obtain ⟨⟨front, back⟩, hcut, heq⟩ := Option.map_eq_some_iff.mp h
      cases heq
      rw [ih hcut, List.cons_append]

/-- A mark is not found where it is missing. -/
theorem cutLast_of_not_mem (h : mark ∉ cs) : cutLast mark cs = none := by
  rw [cutLast, cutFirst_of_not_mem (mt List.mem_reverse.mp h)]
  rfl

/-- A mark is found where it comes for the last time. -/
theorem cutLast_append (h : mark ∉ ys) : cutLast mark (xs ++ mark :: ys) = some (xs, ys) := by
  have hreverse : (xs ++ mark :: ys).reverse = ys.reverse ++ mark :: ([] ++ xs.reverse) := by simp
  rw [cutLast, hreverse, cutFirst_append (mt List.mem_reverse.mp h)]
  simp

/-- A cut at the last mark takes nothing but the mark out of the text. -/
theorem eq_append_of_cutLast (h : cutLast mark cs = some (xs, ys)) : cs = xs ++ mark :: ys := by
  obtain ⟨⟨back, front⟩, hcut, heq⟩ := Option.map_eq_some_iff.mp h
  cases heq
  rw [← List.reverse_reverse cs, eq_append_of_cutFirst hcut]
  simp

/-- A character of the text is a mark or in one of the parts between the marks. -/
theorem eq_or_mem_of_splitAtChar (mark : Char) {c : Char} (h : c ∈ cs) :
    c = mark ∨ ∃ part ∈ splitAtChar mark cs, c ∈ part := by
  induction cs with
  | nil => cases h
  | cons d cs ih =>
    rw [splitAtChar]
    by_cases hd : d = mark
    · -- a mark begins a new part
      rw [if_pos hd]
      rcases List.mem_cons.mp h with rfl | h
      · exact .inl hd
      · exact (ih h).imp_right fun ⟨part, hpart, hc⟩ => ⟨part, List.mem_cons_of_mem _ hpart, hc⟩
    · -- any other character goes to the front of the first part
      rw [if_neg hd]
      cases hsplit : splitAtChar mark cs with
      | nil =>
        rcases List.mem_cons.mp h with rfl | h
        · exact .inr ⟨[c], List.mem_cons_self, List.mem_cons_self⟩
        · exact .inl (by simpa [hsplit] using ih h)
      | cons first parts =>
        rcases List.mem_cons.mp h with rfl | h
        · exact .inr ⟨c :: first, List.mem_cons_self, List.mem_cons_self⟩
        · rw [hsplit] at ih
          refine (ih h).imp_right ?_
          rintro ⟨part, hpart, hc⟩
          rcases List.mem_cons.mp hpart with rfl | hpart
          · exact ⟨d :: part, List.mem_cons_self, List.mem_cons_of_mem d hc⟩
          · exact ⟨part, List.mem_cons_of_mem _ hpart, hc⟩

end QueryExpr.Text
