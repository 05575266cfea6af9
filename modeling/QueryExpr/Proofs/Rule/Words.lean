import Mathlib.Data.List.DropRight
import Mathlib.Data.List.TakeWhile
import QueryExpr.Proofs.Text.Classes
import QueryExpr.Rule.Spec

/-!
# The words of a specification

A specification is read as its words, while it is displayed run by run, the separators between the words
included. A character in front of a text goes into its first run, or makes a run of its own
(`runs_cons_cases`). So the runs alternate between words and separators, and the words of a text are not
changed by the separators around them: those of two texts with a separator between them are the words of
the first and the words of the second (`words_append_separator`), and blanks at the ends can be taken off
(`words_trim`).
-/

namespace QueryExpr

/-! ### Blanks -/

namespace Text

variable {c : Char} {cs : List Char}

/-- A blank is no part of a word. -/
theorem not_isWordChar_of_isBlank (h : isBlank c = true) : isWordChar c = false := by
  have halphabetic : isAlphabetic c = false := not_inRanges_of_inRanges (by decide +kernel) h
  have hmark : inRanges markRanges c = false := not_inRanges_of_inRanges (by decide +kernel) h
  have hdigit : isDecimalDigit c = false := not_inRanges_of_inRanges (by decide +kernel) h
  have hconnector : inRanges connectorRanges c = false :=
    not_inRanges_of_inRanges (by decide +kernel) h
  have hapart : ∀ r ∈ blankRanges, r.2 < 0x200C ∨ 0x200D < r.1 := forall_mem_of_all (by decide)
  obtain ⟨r, hr, hlow, hhigh⟩ := exists_mem_of_inRanges h
  have hr := hapart r hr
  have hjoin : c.toNat ≠ 0x200C ∧ c.toNat ≠ 0x200D := by omega
  simp [isWordChar, halphabetic, hmark, hdigit, hconnector, hjoin]

/-- Trimming takes off blanks at the ends. -/
theorem exists_eq_trim (cs : List Char) :
    ∃ front back, cs = front ++ (trim cs ++ back) ∧ (∀ c ∈ front, isBlank c = true) ∧
      ∀ c ∈ back, isBlank c = true := by
  refine ⟨cs.takeWhile isBlank, (cs.dropWhile isBlank).rtakeWhile isBlank, ?_,
    fun c hc => List.mem_takeWhile_imp hc, fun c hc => List.mem_rtakeWhile_imp hc⟩
  have htrim : trim cs = (cs.dropWhile isBlank).rdropWhile isBlank := rfl
  rw [htrim, List.rdropWhile_append_rtakeWhile, List.takeWhile_append_dropWhile]

theorem trim_cons_of_isBlank (h : isBlank c = true) : trim (c :: cs) = trim cs := by
  have hleft : trimLeft (c :: cs) = trimLeft cs := List.dropWhile_cons_of_pos h
  rw [trim, hleft, trim]

/-- A text that is trimmed has nothing left to take off. -/
theorem trim_trim (cs : List Char) : trim (trim cs) = trim cs := by
  have hleft : trimLeft (trim cs) = trim cs := by
    cases htrim : trim cs with
    | nil => rfl
    | cons c rest =>
      -- the first character was the first one already when the blanks in front were taken off
      obtain ⟨back, hback⟩ : trim cs <+: trimLeft cs := List.rdropWhile_prefix isBlank _
      have hfirst := List.head?_dropWhile_not isBlank cs
      rw [← trimLeft, ← hback, htrim, List.cons_append, List.head?_cons] at hfirst
      exact List.dropWhile_cons_of_neg (Bool.eq_false_iff.mp hfirst)
  rw [trim, hleft]
  exact List.rdropWhile_idempotent isBlank _

end Text

namespace Spec

variable {c d : Char} {cs xs ys : List Char}

/-! ### Runs -/

/-- A character goes into the first run of the text behind it, or makes a run of its own. -/
theorem runs_cons_cases (c : Char) (cs : List Char) :
    (∃ run rest, runs cs = (Text.isWordChar c, run) :: rest ∧
      runs (c :: cs) = (Text.isWordChar c, c :: run) :: rest) ∨
    (∀ r ∈ (runs cs).head?, r.1 ≠ Text.isWordChar c) ∧
      runs (c :: cs) = (Text.isWordChar c, [c]) :: runs cs := by
  rw [runs]
  rcases hruns : runs cs with _ | ⟨⟨isWord, run⟩, rest⟩
  · exact .inr ⟨by simp, rfl⟩
  · by_cases hsame : isWord = Text.isWordChar c
    · subst hsame
      exact .inl ⟨run, rest, rfl, if_pos rfl⟩
    · exact .inr ⟨by simpa using hsame, if_neg hsame⟩

/-- The runs of a text are its characters. -/
theorem flatMap_runs (cs : List Char) : (runs cs).flatMap Prod.snd = cs := by
  induction cs with
  | nil => rfl
  | cons c cs ih =>
    rcases runs_cons_cases c cs with ⟨run, rest, hruns, heq⟩ | ⟨-, heq⟩
    · rw [hruns, List.flatMap_cons] at ih
      rw [heq, List.flatMap_cons, List.cons_append, ih]
    · rw [heq, List.flatMap_cons, ih]
      rfl

/-- Runs of word characters and of others take turns, and none of them is empty. -/
inductive Alternates : List (Bool × List Char) → Prop where
  | nil : Alternates []
  | cons {isWord : Bool} {run : List Char} {rest : List (Bool × List Char)} (nonempty : run ≠ [])
      (uniform : ∀ c ∈ run, Text.isWordChar c = isWord) (turn : ∀ r ∈ rest.head?, r.1 ≠ isWord)
      (next : Alternates rest) : Alternates ((isWord, run) :: rest)

theorem alternates_runs (cs : List Char) : Alternates (runs cs) := by
  induction cs with
  | nil => exact .nil
  | cons c cs ih =>
    rcases runs_cons_cases c cs with ⟨run, rest, hruns, heq⟩ | ⟨hturn, heq⟩
    · rw [hruns] at ih
      cases ih with
      | cons nonempty uniform turn next =>
        rw [heq]
        exact .cons (List.cons_ne_nil c run) (List.forall_mem_cons.mpr ⟨rfl, uniform⟩) turn next
    · rw [heq]
      exact .cons (List.cons_ne_nil c []) (by simp) hturn ih

theorem head?_runs (cs : List Char) :
    (runs cs).head?.map Prod.fst = cs.head?.map Text.isWordChar := by
  cases cs with
  | nil => rfl
  | cons c cs =>
    rcases runs_cons_cases c cs with ⟨run, rest, -, heq⟩ | ⟨-, heq⟩ <;> rw [heq] <;> rfl

/-! ### Words -/

theorem words_cons_of_not (h : Text.isWordChar c = false) : words (c :: cs) = words cs := by
  unfold words
  rcases runs_cons_cases c cs with ⟨run, rest, hruns, heq⟩ | ⟨-, heq⟩
  · rw [heq, hruns, h, List.filter_cons_of_neg Bool.false_ne_true,
      List.filter_cons_of_neg Bool.false_ne_true]
  · rw [heq, h, List.filter_cons_of_neg Bool.false_ne_true]

/-- A word character in front of a separator, or of nothing, is a word. -/
theorem words_cons_of_next (h : Text.isWordChar c = true)
    (hnext : ∀ d ∈ cs.head?, Text.isWordChar d = false) : words (c :: cs) = [c] :: words cs := by
  unfold words
  rcases runs_cons_cases c cs with ⟨run, rest, hruns, -⟩ | ⟨-, heq⟩
  · -- the first run of the text behind it would be a word
    have hhead := head?_runs cs
    rw [hruns, h] at hhead
    obtain ⟨d, hd, hword⟩ := Option.map_eq_some_iff.mp hhead.symm
    rw [hnext d hd] at hword
    cases hword
  · rw [heq, h, List.filter_cons_of_pos rfl]
    rfl

/-- A word character in front of another one goes into its word. -/
theorem exists_words_cons_cons (hc : Text.isWordChar c = true) (hd : Text.isWordChar d = true)
    (cs : List Char) :
    ∃ w ws, words (d :: cs) = w :: ws ∧ words (c :: d :: cs) = (c :: w) :: ws := by
  unfold words
  rcases runs_cons_cases c (d :: cs) with ⟨run, rest, hruns, heq⟩ | ⟨hturn, -⟩
  · rw [heq, hruns, hc, List.filter_cons_of_pos rfl, List.filter_cons_of_pos rfl]
    exact ⟨run, _, rfl, rfl⟩
  · have hhead := head?_runs (d :: cs)
    rw [List.head?_cons, Option.map_some, hd] at hhead
    obtain ⟨r, hr, hword⟩ := Option.map_eq_some_iff.mp hhead
    exact absurd (hword.trans hc.symm) (hturn r hr)

/-- **The words around a separator.** -/
theorem words_append_separator (h : Text.isWordChar c = false) (xs ys : List Char) :
    words (xs ++ c :: ys) = words xs ++ words ys := by
  induction xs with
  | nil => exact words_cons_of_not h
  | cons x xs ih =>
    cases hx : Text.isWordChar x with
    | false => rw [List.cons_append, words_cons_of_not hx, words_cons_of_not hx, ih]
    | true =>
      cases xs with
      | nil =>
        rw [words_cons_of_next hx (by simp), List.cons_append,
          words_cons_of_next hx (by simpa using h), ih]
        rfl
      | cons y xs =>
        cases hy : Text.isWordChar y with
        | false =>
          rw [words_cons_of_next hx (by simpa using hy), List.cons_append,
            words_cons_of_next hx (by simpa using hy), ih]
          rfl
        | true =>
          -- both texts begin with the same word, to which the character belongs
          obtain ⟨w, ws, hw, hxw⟩ := exists_words_cons_cons hx hy xs
          obtain ⟨w', ws', hw', hxw'⟩ := exists_words_cons_cons hx hy (xs ++ c :: ys)
          rw [List.cons_append, hw, hw'] at ih
          obtain ⟨rfl, rfl⟩ := List.cons.inj ih
          rw [List.cons_append, List.cons_append, hxw', hxw]
          rfl

/-- Word characters without a separator are one word. -/
theorem words_of_forall {w : List Char} (hne : w ≠ []) (h : ∀ c ∈ w, Text.isWordChar c = true) :
    words w = [w] := by
  induction w with
  | nil => exact absurd rfl hne
  | cons c w ih =>
    obtain ⟨hc, hw⟩ := List.forall_mem_cons.mp h
    cases w with
    | nil => exact words_cons_of_next hc (by simp)
    | cons d w =>
      obtain ⟨v, vs, hv, hcv⟩ := exists_words_cons_cons hc (hw d List.mem_cons_self) w
      rw [ih (List.cons_ne_nil d w) hw] at hv
      obtain ⟨rfl, rfl⟩ := List.cons.inj hv
      exact hcv

/-- A word in front of a separator, or of nothing. -/
theorem words_word_append {w : List Char} (hne : w ≠ []) (h : ∀ c ∈ w, Text.isWordChar c = true)
    (hnext : ∀ d ∈ cs.head?, Text.isWordChar d = false) : words (w ++ cs) = w :: words cs := by
  cases cs with
  | nil => rw [List.append_nil, words_of_forall hne h]; rfl
  | cons d cs =>
    have hd := hnext d rfl
    rw [words_append_separator hd, words_of_forall hne h, words_cons_of_not hd]
    rfl

/-- Separators in front of a text. -/
theorem words_separators_append (h : ∀ c ∈ xs, Text.isWordChar c = false) :
    words (xs ++ cs) = words cs := by
  induction xs with
  | nil => rfl
  | cons x xs ih =>
    obtain ⟨hx, hxs⟩ := List.forall_mem_cons.mp h
    rw [List.cons_append, words_cons_of_not hx, ih hxs]

/-- **Trimming leaves the words.** -/
theorem words_trim (cs : List Char) : words (Text.trim cs) = words cs := by
  obtain ⟨front, back, hcs, hfront, hback⟩ := Text.exists_eq_trim cs
  have hback := fun c hc => Text.not_isWordChar_of_isBlank (hback c hc)
  have hend : words (Text.trim cs ++ back) = words (Text.trim cs) := by
    cases back with
    | nil => rw [List.append_nil]
    | cons c back =>
      obtain ⟨hc, hrest⟩ := List.forall_mem_cons.mp hback
      have hnone : words back = [] := List.append_nil back ▸ words_separators_append hrest
      rw [words_append_separator hc, hnone, List.append_nil]
  conv_rhs => rw [hcs]
  rw [words_separators_append fun c hc => Text.not_isWordChar_of_isBlank (hfront c hc), hend]

end Spec
end QueryExpr
