import QueryExpr.Number.Reading
import QueryExpr.Number.Shortest

/-!
# The sign of a number

A number that is read from a text without a sign has none, and then its text begins with a digit or a
letter. Rounding cannot reach the sign bit: the largest magnitude that is finite lies below the
infinity, whose bits are below the sign bit.
-/

namespace QueryExpr.Binary64

/-- The sign of the value. -/
def Value.isNegative : Value → Bool
  | .nan => false
  | .infinite negative => negative
  | .finite negative _ _ => negative

/-! ### Reading -/

/-- Bits below the sign bit are those of a number without a sign. -/
theorem isNegative_of_lt {x : Binary64} (h : x.bits.toNat < 0x8000000000000000) :
    x.value.isNegative = false := by
  have hsign : decide (x.bits.toNat / 0x8000000000000000 = 1) = false := by
    rw [Nat.div_eq_of_lt h]
    rfl
  unfold value
  dsimp only
  rw [hsign]
  split
  · split <;> rfl
  · split <;> rfl

theorem isNegative_ofNat {n : Nat} (h : n < 0x8000000000000000) :
    (⟨.ofNat n⟩ : Binary64).value.isNegative = false := by
  refine isNegative_of_lt ?_
  rw [UInt64.toNat_ofNat', Nat.mod_eq_of_lt (by omega)]
  exact h

theorem isNegative_infinity : (infinity false).value.isNegative = false :=
  isNegative_ofNat (by decide)

/-- A ratio is rounded to a number without a sign. -/
theorem isNegative_ofRatio (num den : Nat) : (ofRatio false num den).value.isNegative = false := by
  unfold ofRatio
  by_cases hnum : num = 0
  · rw [if_pos hnum]
    exact isNegative_ofNat (by decide)
  · rw [if_neg hnum]
    extract_lets exponent mantissa magnitude
    by_cases hlarge : 2047 * fractions ≤ magnitude
    · rw [if_pos hlarge]
      exact isNegative_infinity
    · -- below the infinity there is room for the sign bit
      rw [if_neg hlarge, signBit, if_neg Bool.false_ne_true, Nat.zero_add]
      have hfractions : 2047 * fractions < 0x8000000000000000 := by decide
      exact isNegative_ofNat (by omega)

/-- So is a decimal, which is a ratio unless it is out of all bounds. -/
theorem isNegative_ofDecimal (digits : Nat) (exponent : Int) :
    (ofDecimal false digits exponent).value.isNegative = false := by
  unfold ofDecimal
  dsimp only
  split
  · exact isNegative_ofRatio 0 1
  · split
    · exact isNegative_infinity
    · exact isNegative_ofRatio _ _

/-- **A number that is read without a sign has none.** -/
theorem isNegative_read? {text : String} {x : Binary64} (h : read? text = some x)
    (hsign : readSign text.toList = (false, text.toList)) : x.value.isNegative = false := by
  unfold read? at h
  rw [hsign] at h
  dsimp only at h
  split at h
  · cases h
    exact isNegative_infinity
  · split at h
    · cases h
      exact isNegative_ofNat (by decide)
    · -- neither a word for the infinity nor one for what is no number
      unfold readUnsigned? at h
      extract_lets whole afterWhole at h
      split at h
      simp only [Option.ite_none_left_eq_some, Option.map_eq_some_iff] at h
      obtain ⟨-, e, -, rfl⟩ := h
      exact isNegative_ofDecimal _ _

/-! ### Writing -/

/-- The digits of a decimal and its point; an exponent may follow. -/
theorem Decimal.exists_write_eq (d : Decimal) :
    ∃ front : List Char, front ≠ [] ∧ (∀ c ∈ front, isAsciiDigit c = true ∨ c = '.') ∧
      (d.write = front ∨ ∃ n : Int, d.write = front ++ 'e' :: (toString n).toList) := by
  have hdigits : ∀ c ∈ Nat.toDigits 10 d.digits, isAsciiDigit c = true := fun c hc =>
    Nat.isDigit_of_mem_toDigits (by decide) (by decide) hc
  have hne : Nat.toDigits 10 d.digits ≠ [] := Nat.toDigits_ne_nil
  have hzeros : ∀ (n : Nat) (c : Char), c ∈ List.replicate n '0' → isAsciiDigit c = true := by
    intro n c hc
    rw [(List.mem_replicate.mp hc).2]
    rfl
  -- trailing zeros, a point among the digits, leading zeros, or an exponent
  unfold Decimal.write
  dsimp only
  split
  · refine ⟨_, by simp [hne], ?_, .inl rfl⟩
    intro c hc
    simp only [List.mem_append, List.mem_cons, List.not_mem_nil, or_false] at hc
    rcases hc with (hc | hc) | rfl | rfl
    · exact .inl (hdigits c hc)
    · exact .inl (hzeros _ c hc)
    · exact .inr rfl
    · exact .inl rfl
  · split
    · refine ⟨_, by simp, ?_, .inl rfl⟩
      intro c hc
      simp only [List.mem_append, List.mem_cons] at hc
      rcases hc with hc | rfl | hc
      · exact .inl (hdigits c (List.mem_of_mem_take hc))
      · exact .inr rfl
      · exact .inl (hdigits c (List.mem_of_mem_drop hc))
    · split
      · refine ⟨_, by simp, ?_, .inl rfl⟩
        intro c hc
        simp only [List.mem_append, List.mem_cons] at hc
        rcases hc with (rfl | rfl | hc) | hc
        · exact .inl rfl
        · exact .inr rfl
        · exact .inl (hzeros _ c hc)
        · exact .inl (hdigits c hc)
      · refine ⟨_, ?_, ?_, .inr ⟨_, rfl⟩⟩
        · simp [hne]
        · intro c hc
          rcases List.mem_append.mp hc with hc | hc
          · exact .inl (hdigits c (List.mem_of_mem_take hc))
          · split at hc
            · cases hc
            · rcases List.mem_cons.mp hc with rfl | hc
              · exact .inr rfl
              · exact .inl (hdigits c (List.mem_of_mem_drop hc))

end QueryExpr.Binary64
