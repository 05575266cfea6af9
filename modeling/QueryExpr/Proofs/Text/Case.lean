import Mathlib

/-!
# Upper and lower case

Names of types and of directions are read in any mixture of upper and lower case. Two texts are the same
but for the case of their letters if their lower cases are equal, or their upper cases.
-/

namespace QueryExpr.Text

/-- A character is the lower case or the upper case of its lower case. -/
theorem eq_toLower_or_toUpper (c : Char) : c = c.toLower ∨ c = c.toLower.toUpper := by
  by_cases hupper : c.isUpper = true
  · rw [Char.toUpper_toLower_eq_toUpper]
    exact .inr (Char.toUpper_eq_of_not_isLower (Char.not_isLower_of_isUpper hupper)).symm
  · exact .inl (Char.toLower_eq_of_not_isUpper hupper).symm

variable {word text : String}

/-- The lower case of a text, character by character. -/
theorem toLower_eq_iff : word.toLower = text ↔ word.toList.map Char.toLower = text.toList := by
  rw [String.toLower, ← String.toList_map, String.toList_inj]

/-- The upper case of a text, character by character. -/
theorem toUpper_eq_iff : word.toUpper = text ↔ word.toList.map Char.toUpper = text.toList := by
  rw [String.toUpper, ← String.toList_map, String.toList_inj]

/-- Upper and lower case tell the same texts apart. -/
theorem toUpper_eq_toUpper_iff : word.toUpper = text.toUpper ↔ word.toLower = text.toLower := by
  have hupper : Char.toUpper ∘ Char.toLower = Char.toUpper := funext Char.toUpper_toLower_eq_toUpper
  have hlower : Char.toLower ∘ Char.toUpper = Char.toLower := funext Char.toLower_toUpper_eq_toLower
  rw [toUpper_eq_iff, toLower_eq_iff, String.toUpper, String.toLower, String.toList_map,
    String.toList_map]
  constructor
  · intro h
    simpa only [List.map_map, hlower] using congrArg (List.map Char.toLower) h
  · intro h
    simpa only [List.map_map, hupper] using congrArg (List.map Char.toUpper) h

end QueryExpr.Text
