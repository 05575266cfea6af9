import Mathlib.Data.List.Forall2
import Mathlib.Tactic.ByContra
import QueryExpr.Proofs.Expr.Literals

/-!
# Tokens do not depend on their context

A token goes on as long as it can, so where it ends may depend on what follows: a point and a digit
make a number longer, and an equals sign makes another sign of `<`. A scan that has cut a text into
tokens has taken this into account. This module shows that nothing is lost in the cut and that the
context is no longer needed after it: each token is read in the same way from its own characters, and
from these characters with spaces between the tokens.

The step is `atFront?_append`: a token that is found in front of some text is found there in front of
every text that closes it. Each form of token has a lemma of its own, down to the runs of characters
that the recognisers measure (`takeWhile_append_eq`): a run that ends inside the token, or at its end,
does not become longer in front of a character that is not of its kind.
-/

namespace QueryExpr
namespace Token

variable {token : Token} {word rest rest' : List Char}

/-! ### Runs of characters -/

/-- A run that ends inside the word ends there whatever follows the word. -/
theorem takeWhile_append_of_lt {p : Char → Bool}
    (h : ((word ++ rest).takeWhile p).length < word.length) :
    (word ++ rest').takeWhile p = (word ++ rest).takeWhile p := by
  have hshort : (word.takeWhile p).length ≠ word.length := by
    intro hall
    rw [List.takeWhile_append, if_pos hall, List.length_append] at h
    omega
  rw [List.takeWhile_append, List.takeWhile_append, if_neg hshort, if_neg hshort]

/-- A run that ends inside the word or with it does not go on in front of other characters. -/
theorem takeWhile_append_eq {p : Char → Bool}
    (h : ((word ++ rest).takeWhile p).length ≤ word.length)
    (hrest : ∀ c ∈ rest'.head?, p c = false) :
    (word ++ rest').takeWhile p = (word ++ rest).takeWhile p := by
  by_cases hall : (word.takeWhile p).length = word.length
  · -- the run covers the word, so by its length it took nothing of the rest, and it takes nothing now
    have hnil : rest.takeWhile p = [] := by
      rw [List.takeWhile_append, if_pos hall, List.length_append] at h
      exact List.eq_nil_of_length_eq_zero (by omega)
    have hnil' : rest'.takeWhile p = [] := by
      cases rest' with
      | nil => rfl
      | cons c cs => exact List.takeWhile_cons_of_neg (by simp [hrest c rfl])
    rw [List.takeWhile_append, List.takeWhile_append, if_pos hall, if_pos hall, hnil, hnil']
  · -- it ends inside the word, and what follows the word is never looked at
    rw [List.takeWhile_append, List.takeWhile_append, if_neg hall, if_neg hall]

/-- What a word may be followed by. -/
theorem Closed.mem_of_mem_head? (h : Closed rest) {c : Char} (hc : c ∈ rest.head?) :
    c ∈ '.' :: closers := by
  cases rest with
  | nil => cases hc
  | cons d cs =>
    cases hc
    rcases h with hd | ⟨rfl, -⟩
    · exact List.mem_cons_of_mem _ hd
    · exact List.mem_cons_self

/-- What holds of the characters that close a word holds of the first one behind it. -/
theorem Closed.forall_head? {P : Char → Prop} [DecidablePred P] (h : Closed rest)
    (hall : (('.' :: closers).all fun c => decide (P c)) = true) : ∀ c ∈ rest.head?, P c :=
  fun c hc => Text.forall_mem_of_all hall c (h.mem_of_mem_head? hc)

/-! ### Numbers -/

/-- The digits at the front end with the word, whatever closes it. -/
theorem digitRun_append (h : digitRun (word ++ rest) ≤ word.length) (hrest : Closed rest') :
    digitRun (word ++ rest') = digitRun (word ++ rest) :=
  congrArg List.length (takeWhile_append_eq h (hrest.forall_head? (by decide)))

theorem radixLength_cons_cons (c mark : Char) (cs : List Char) :
    radixLength (c :: mark :: cs) =
      if c = '0' ∧ mark ∈ ['x', 'X', 'o', 'O', 'b', 'B'] ∧ (cs.takeWhile Text.isHexDigit).length ≠ 0
      then 2 + (cs.takeWhile Text.isHexDigit).length else 0 := by
  by_cases hc : c = '0'
  · subst hc
    simp only [radixLength, true_and]
  · rw [if_neg fun h => hc h.1]
    unfold radixLength
    split
    · next heq => exact absurd (List.cons.inj heq).1 hc
    · rfl

theorem radixLength_singleton (c : Char) : radixLength [c] = 0 := by
  unfold radixLength
  split
  · next heq => cases (List.cons.inj heq).2
  · rfl

/-- So does a number in another base. -/
theorem radixLength_append (h : radixLength (word ++ rest) ≤ word.length) (hrest : Closed rest') :
    radixLength (word ++ rest') = radixLength (word ++ rest) := by
  have hmark := hrest.forall_head? (P := (· ∉ ['0', 'x', 'X', 'o', 'O', 'b', 'B'])) (by decide)
  match word with
  | c :: mark :: cs =>
    -- the digits behind the mark end inside the word or with it
    rw [List.cons_append, List.cons_append, radixLength_cons_cons] at h ⊢
    rw [List.cons_append, List.cons_append, radixLength_cons_cons]
    by_cases hradix : c = '0' ∧ mark ∈ ['x', 'X', 'o', 'O', 'b', 'B']
    · have hle : ((cs ++ rest).takeWhile Text.isHexDigit).length ≤ cs.length := by
        simp only [List.length_cons, hradix, true_and] at h
        split at h <;> omega
      rw [takeWhile_append_eq hle (hrest.forall_head? (by decide))]
    · rw [if_neg fun h => hradix ⟨h.1, h.2.1⟩, if_neg fun h => hradix ⟨h.1, h.2.1⟩]
  | [c] =>
    have hzero : radixLength (c :: rest) = 0 := by
      cases rest with
      | nil => exact radixLength_singleton c
      | cons mark cs =>
        rw [List.singleton_append, List.length_singleton] at h
        rw [radixLength_cons_cons] at h ⊢
        split at h
        · omega
        · next hradix => exact if_neg hradix
    rw [List.singleton_append, List.singleton_append, hzero]
    cases rest' with
    | nil => exact radixLength_singleton c
    | cons mark cs =>
      rw [radixLength_cons_cons, if_neg]
      exact fun hradix => hmark mark rfl (List.mem_cons_of_mem _ hradix.2.1)
  | [] =>
    have hzero : radixLength rest = 0 := Nat.le_zero.mp h
    rw [List.nil_append, List.nil_append, hzero]
    unfold radixLength
    split
    · exact absurd List.mem_cons_self (hmark '0' rfl)
    · rfl

/-- So does a fraction. -/
theorem fractionLength_append (h : fractionLength (word ++ rest) ≤ word.length)
    (hrest : Closed rest') : fractionLength (word ++ rest') = fractionLength (word ++ rest) := by
  cases word with
  | nil =>
    rw [List.nil_append, List.nil_append, fractionLength_of_closed hrest]
    exact (Nat.le_zero.mp h).symm
  | cons c cs =>
    by_cases hc : c = '.'
    · -- the fraction of a number is a run of digits, which ends in front of `rest'` as it did in front
      -- of `rest`
      subst hc
      simp only [List.cons_append, fractionLength, List.length_cons] at h ⊢
      have hle : digitRun (cs ++ rest) ≤ cs.length := by split at h <;> omega
      rw [digitRun_append hle hrest]
    · -- without a dot there is no fraction, whatever follows
      have hnone : ∀ cs, fractionLength (c :: cs) = 0 := by
        intro cs
        unfold fractionLength
        split
        · next heq => exact absurd (List.cons.inj heq).1 hc
        · rfl
      rw [List.cons_append, List.cons_append, hnone, hnone]

/-- So does an exponent. -/
theorem exponentLength_append (h : exponentLength (word ++ rest) ≤ word.length)
    (hrest : Closed rest') : exponentLength (word ++ rest') = exponentLength (word ++ rest) := by
  match word with
  | e :: s :: ds =>
    simp only [List.cons_append, exponentLength, List.length_cons] at h ⊢
    by_cases he : e = 'e' ∨ e = 'E'
    · simp only [if_pos he] at h ⊢
      by_cases hs : s = '+' ∨ s = '-'
      · simp only [if_pos hs] at h ⊢
        have hle : digitRun (ds ++ rest) ≤ ds.length := by split at h <;> omega
        rw [digitRun_append hle hrest]
      · simp only [if_neg hs] at h ⊢
        have hle : digitRun ((s :: ds) ++ rest) ≤ (s :: ds).length := by
          rw [List.length_cons, List.cons_append]
          split at h <;> omega
        have hrun := digitRun_append hle hrest
        rw [List.cons_append, List.cons_append] at hrun
        rw [hrun]
    · simp only [if_neg he]
  | [e] =>
    -- an exponent has two characters at least
    have hzero : exponentLength (e :: rest) = 0 := by
      rw [List.singleton_append, List.length_singleton] at h
      unfold exponentLength at h ⊢
      grind
    have hdigit := hrest.forall_head? (P := fun c => isAsciiDigit c = false) (by decide)
    have hsign := hrest.forall_head? (P := fun c => ¬ (c = '+' ∨ c = '-')) (by decide)
    rw [List.singleton_append, List.singleton_append, hzero]
    cases rest' with
    | nil => simp [exponentLength]
    | cons c cs => simp [exponentLength, hsign c rfl, digitRun, hdigit c rfl]
  | [] =>
    rw [List.nil_append, List.nil_append, exponentLength_of_closed hrest]
    exact (Nat.le_zero.mp h).symm

/-- **A number is read in the same way** in front of anything that closes it. -/
theorem number?_append (h : number? (word ++ rest) = some (token, word.length))
    (hrest : Closed rest') : number? (word ++ rest') = some (token, word.length) := by
  rcases number?_cases h with
    ⟨hradix, hne, rfl⟩ | ⟨whole, fraction, hradix, hwhole, hne, hfraction, hlength, rfl⟩
  · have hcut := radixLength_append (Nat.le_of_eq hradix) hrest
    rw [hradix] at hcut
    rw [number?, hcut, if_pos hne, List.take_left, List.take_left]
  · -- each part ends inside the word, so the same parts are found again
    have hradix' : radixLength (word ++ rest') = radixLength (word ++ rest) :=
      radixLength_append (by omega) hrest
    have hwhole' : digitRun (word ++ rest') = digitRun (word ++ rest) :=
      digitRun_append (by omega) hrest
    have hdrop : ∀ n cs, n ≤ word.length → (word ++ cs).drop n = word.drop n ++ cs :=
      fun n cs hn => List.drop_append_of_le_length hn
    rw [hdrop _ _ (by omega)] at hfraction hlength
    have hfraction' : fractionLength (word.drop whole ++ rest') =
        fractionLength (word.drop whole ++ rest) :=
      fractionLength_append (by rw [List.length_drop]; omega) hrest
    have hexponent' : exponentLength (word.drop (whole + fraction) ++ rest') =
        exponentLength (word.drop (whole + fraction) ++ rest) :=
      exponentLength_append (by rw [List.length_drop]; omega) hrest
    rw [hradix] at hradix'
    rw [hwhole] at hwhole'
    rw [hfraction] at hfraction'
    simp only [number?, hradix', hwhole', hdrop whole rest' (by omega), hfraction',
      hdrop (whole + fraction) rest' (by omega), hexponent', ← hlength, List.take_left]
    rw [if_neg (by omega), if_neg hne]
    split <;> split <;> first | rfl | omega

/-! ### Strings -/

theorem hexEscape?_append {count : Nat} (h : count ≤ word.length) (rest : List Char) :
    hexEscape? count (word ++ rest) = hexEscape? count word := by
  rw [hexEscape?, hexEscape?, List.take_append_of_le_length h]

/-- The character behind the backslash tells the form of an escape: it takes up this character alone, or
a fixed number of digits with it. -/
theorem escape?_cases (c : Char) :
    (∃ d? : Option Char, ∀ cs, escape? (c :: cs) = d?.map fun d => (d, 1)) ∨
      ∃ count, ∀ cs, escape? (c :: cs) = (hexEscape? count cs).map fun d => (d, count + 1) := by
  by_cases hx : c = 'x'
  · exact .inr ⟨2, fun cs => by simp [escape?, hx]⟩
  by_cases hu : c = 'u'
  · exact .inr ⟨4, fun cs => by simp [escape?, hu]⟩
  by_cases hU : c = 'U'
  · exact .inr ⟨8, fun cs => by simp [escape?, hU]⟩
  -- nothing else looks at what follows
  refine .inl ⟨(escape? [c]).map Prod.fst, fun cs => ?_⟩
  simp only [escape?, if_neg hx, if_neg hu, if_neg hU]
  repeat' split
  all_goals rfl

/-- An escape takes at least one character. -/
theorem pos_of_escape? {cs : List Char} {d : Char} {n : Nat} (h : escape? cs = some (d, n)) :
    0 < n := by
  cases cs with
  | nil => cases h
  | cons c cs =>
    rcases escape?_cases c with ⟨d?, hescape⟩ | ⟨count, hescape⟩
    all_goals
      rw [hescape] at h
      obtain ⟨d', -, heq⟩ := Option.map_eq_some_iff.mp h
      rw [← (Prod.mk.inj heq).2]
      exact Nat.succ_pos _

/-- An escape that lies in the word does not see what follows. -/
theorem escape?_append {d : Char} {n : Nat} (h : escape? (word ++ rest) = some (d, n))
    (hn : n ≤ word.length) : escape? (word ++ rest') = some (d, n) := by
  cases word with
  | nil => exact absurd (pos_of_escape? h) (Nat.not_lt.mpr hn)
  | cons c cs =>
    rw [List.cons_append] at h ⊢
    rcases escape?_cases c with ⟨d?, hescape⟩ | ⟨count, hescape⟩
    · -- an escape of one letter has been read with it
      rwa [hescape] at h ⊢
    · -- a hexadecimal escape reads `count` digits behind its letter, and they lie in the word
      rw [hescape] at h ⊢
      obtain ⟨d', -, heq⟩ := Option.map_eq_some_iff.mp h
      have hcount : count + 1 = n := (Prod.mk.inj heq).2
      rw [List.length_cons] at hn
      rw [hexEscape?_append (by omega)] at h ⊢
      exact h

/-- The body of a string goes on behind what is passed over. -/
theorem lt_of_stringBody? {quote : Char} {skip n : Nat} {cs value : List Char}
    (h : stringBody? quote skip cs = some (value, n)) : skip < n := by
  induction cs generalizing skip value n with
  | nil => simp [stringBody?] at h
  | cons c cs ih =>
    rcases stringBody?_cons_cases h with ⟨rfl, -, rfl⟩ | ⟨skip', value', n', hbody, hle, rfl⟩
    · exact Nat.one_pos
    · have hlt := ih hbody
      omega

/-- Nor does the body of a string, which ends with its quote. -/
theorem stringBody?_append {quote : Char} {skip n : Nat} {value : List Char}
    (h : stringBody? quote skip (word ++ rest) = some (value, n)) (hn : n ≤ word.length) :
    stringBody? quote skip (word ++ rest') = some (value, n) := by
  induction word generalizing skip value n with
  | nil =>
    have hlt := lt_of_stringBody? h
    rw [List.length_nil] at hn
    omega
  | cons c cs ih =>
    -- every branch that goes on leaves a body that ends one character earlier
    have hnext : ∀ (skip : Nat) (f : List Char → List Char),
        (stringBody? quote skip (cs ++ rest)).map (fun r => (f r.1, r.2 + 1)) = some (value, n) →
        (stringBody? quote skip (cs ++ rest')).map (fun r => (f r.1, r.2 + 1)) =
          some (value, n) := by
      intro skip f h
      obtain ⟨r, hr, heq⟩ := Option.map_eq_some_iff.mp h
      have hlength : r.2 + 1 = n := (Prod.mk.inj heq).2
      rw [List.length_cons] at hn
      rw [ih hr (by omega), Option.map_some, heq]
    rw [List.cons_append] at h ⊢
    cases skip with
    | succ skip =>
      rw [stringBody?] at h ⊢
      exact hnext skip id h
    | zero =>
      rw [stringBody?] at h ⊢
      split at h
      · next hquote => rw [if_pos hquote, h]
      · next hquote =>
        rw [if_neg hquote]
        split at h
        · next hescape =>
          rw [if_pos hescape]
          split at h
          · cases h
          · next d m hd =>
            -- the body ends behind the escape, so all of the escape is in the word
            obtain ⟨r, hr, heq⟩ := Option.map_eq_some_iff.mp h
            have hlength : r.2 + 1 = n := (Prod.mk.inj heq).2
            have hlt := lt_of_stringBody? hr
            rw [List.length_cons] at hn
            rw [escape?_append hd (by omega)]
            exact hnext m (d :: ·) h
        · next hescape =>
          rw [if_neg hescape]
          split at h
          · cases h
          · next hbreak =>
            rw [if_neg hbreak]
            exact hnext 0 (c :: ·) h

/-- **A string is read in the same way** in front of anything at all. -/
theorem string?_append (h : string? (word ++ rest) = some (token, word.length)) :
    string? (word ++ rest') = some (token, word.length) := by
  obtain ⟨quote, tail, value, count, htext, hquote, hbody, rfl, hlength⟩ := string?_cases h
  cases word with
  | nil => cases hlength
  | cons c cs =>
    rw [List.cons_append] at htext
    obtain ⟨rfl, rfl⟩ := List.cons.inj htext
    rw [List.length_cons] at hlength
    rw [List.cons_append, string?, if_pos hquote, stringBody?_append hbody (by omega),
      Option.map_some, List.length_cons, hlength]

/-! ### Dates and colors -/

/-- **So is a date**, which ends with its parenthesis. -/
theorem date?_append (h : date? (word ++ rest) = some (token, word.length)) :
    date? (word ++ rest') = some (token, word.length) := by
  obtain ⟨tail, htext, hlt, rfl, hlength⟩ := date?_cases h
  -- the two characters that open a date belong to the word: it is at least as long as they are
  match word with
  | a :: b :: inner =>
    rw [List.cons_append, List.cons_append] at htext
    obtain ⟨rfl, htail⟩ := List.cons.inj htext
    obtain ⟨rfl, rfl⟩ := List.cons.inj htail
    simp only [List.length_cons] at hlength
    -- the closing bracket stands in the word, so the run up to it does not see the rest
    have htake : (inner ++ rest').takeWhile (· ≠ ')') = (inner ++ rest).takeWhile (· ≠ ')') :=
      takeWhile_append_of_lt (by omega)
    simp only [List.cons_append, date?, htake, List.length_append, List.length_cons]
    rw [if_pos (by omega), hlength]
  | [a] => simp at hlength
  | [] => simp at hlength

/-- **A color is read in the same way** in front of anything that closes it. -/
theorem color?_append (h : color? (word ++ rest) = some (token, word.length))
    (hrest : Closed rest') : color? (word ++ rest') = some (token, word.length) := by
  obtain ⟨tail, htext, rfl, hlength⟩ := color?_cases h
  cases word with
  | nil => simp at hlength
  | cons a digits =>
    rw [List.cons_append] at htext
    obtain ⟨rfl, rfl⟩ := List.cons.inj htext
    rw [List.length_cons] at hlength
    have htake : (digits ++ rest').takeWhile Char.isAlphanum =
        (digits ++ rest).takeWhile Char.isAlphanum :=
      takeWhile_append_eq (by omega) (hrest.forall_head? (by decide))
    simp only [List.cons_append, color?, htake, List.length_cons, hlength]

/-! ### Tokens -/

section Forms

variable {cs : List Char} {r : Token × Nat}

/-! The first character of a literal tells its form, so no form that is tried earlier gets in the way. -/

theorem atFront?_of_string? (h : string? cs = some r) : atFront? cs = some r := by
  cases cs with
  | nil => cases h
  | cons c cs =>
    have hquote : c = '\'' ∨ c = '"' := by
      by_contra hne
      rw [not_or] at hne
      rw [string?_eq_none cs hne.1 hne.2] at h
      cases h
    have hident : Text.isIdentStart c = false := by rcases hquote with rfl | rfl <;> decide
    rw [atFront?, word?_eq_none cs hident, h]
    rfl

theorem atFront?_of_number? (h : number? cs = some r) : atFront? cs = some r := by
  cases cs with
  | nil => cases h
  | cons c cs =>
    have hdigit : isAsciiDigit c = true := by
      by_contra hne
      rw [number?_eq_none cs (Bool.eq_false_iff.mpr hne)] at h
      cases h
    have hquote : c ≠ '\'' ∧ c ≠ '"' := by constructor <;> (rintro rfl; cases hdigit)
    rw [atFront?, word?_eq_none cs (Text.not_isIdentStart_of_isAsciiDigit hdigit),
      string?_eq_none cs hquote.1 hquote.2, h]
    rfl

theorem atFront?_of_date? (h : date? cs = some r) : atFront? cs = some r := by
  cases cs with
  | nil => cases h
  | cons c cs =>
    obtain rfl : c = '@' := by
      by_contra hne
      rw [date?_eq_none cs hne] at h
      cases h
    rw [atFront?, word?_eq_none cs (by decide), string?_eq_none cs (by decide) (by decide),
      number?_eq_none cs (by decide), h]
    rfl

theorem atFront?_of_color? (h : color? cs = some r) : atFront? cs = some r := by
  cases cs with
  | nil => cases h
  | cons c cs =>
    obtain rfl : c = '#' := by
      by_contra hne
      rw [color?_eq_none cs hne] at h
      cases h
    rw [atFront?, word?_eq_none cs (by decide), string?_eq_none cs (by decide) (by decide),
      number?_eq_none cs (by decide), date?_eq_none cs (by decide), h]
    rfl

end Forms

/-- No token begins with a blank. -/
theorem not_isBlank_of_atFront? {c : Char} {cs : List Char} {r : Token × Nat}
    (h : atFront? (c :: cs) = some r) : Text.isBlank c = false := by
  by_contra hblank
  rw [Bool.not_eq_false] at hblank
  have hident : Text.isIdentStart c = false := by
    by_contra hstart
    rw [Text.not_isBlank_of_isIdentStart (Bool.not_eq_false _ ▸ hstart)] at hblank
    cases hblank
  have hdigit : isAsciiDigit c = false := by
    by_contra hstart
    rw [Text.not_isBlank_of_isAsciiDigit (Bool.not_eq_false _ ▸ hstart)] at hblank
    cases hblank
  have hother : c ∉ ['\'', '"', '@', '#'] := by
    intro hmem
    rw [Text.forall_mem_of_all (P := fun c => Text.isBlank c = false) (by decide) c hmem] at hblank
    cases hblank
  -- so it would have to be a sign
  rw [atFront?_eq_symbol? cs hident hdigit hother] at h
  obtain ⟨s, hs, -⟩ := Option.map_eq_some_iff.mp h
  have hfirst : ∀ s : Symbol, s.chars ≠ [] ∧ ∀ d ∈ s.chars.head?, Text.isBlank d = false := by
    intro s
    cases s <;> exact ⟨by decide, by rintro _ ⟨⟩; decide⟩
  obtain ⟨tail, htail⟩ := isPrefix_of_symbolAtFront? hs
  obtain ⟨d, ds, hchars⟩ := List.exists_cons_of_ne_nil (hfirst s).1
  rw [hchars] at htail
  have hd := (hfirst s).2 d (by rw [hchars]; rfl)
  rw [(List.cons.inj htail).1, hblank] at hd
  cases hd

/-- Nothing follows, or a space does. -/
def Apart (rest : List Char) : Prop := ∀ c ∈ rest.head?, c = ' '

/-- A space closes every word. -/
theorem Apart.closed (h : Apart rest) : Closed rest := by
  cases rest with
  | nil => trivial
  | cons c cs =>
    obtain rfl := h c rfl
    exact closed_of_mem (by decide) cs

/-- A sign is read as such at the end of a text and in front of a space. -/
theorem atFront?_symbol (s : Symbol) (hrest : Apart rest) :
    atFront? (s.chars ++ rest) = some (.symbol s, s.chars.length) := by
  cases rest with
  | nil => cases s <;> decide
  | cons c cs =>
    obtain rfl := hrest c rfl
    exact (stands_sign s (.inl rfl) cs).2.2

/-- **A token is found again** in front of a space and at the end of a text, wherever it was found
first. -/
theorem atFront?_append (h : atFront? (word ++ rest) = some (token, word.length)) (hne : word ≠ [])
    (hrest : Apart rest') : atFront? (word ++ rest') = some (token, word.length) := by
  rcases atFront?_cases h with ⟨hident, hlength, htoken⟩ | h | h | h | h | ⟨s, -, rfl, -⟩
  · have hword := isIdentifier_take hident
    rw [← hlength, List.take_left] at hword
    rw [htoken, List.take_left]
    exact (stands_word hword hrest.closed).2.2
  · exact atFront?_of_string? (string?_append h)
  · exact atFront?_of_number? (number?_append h hrest.closed)
  · exact atFront?_of_date? (date?_append h)
  · exact atFront?_of_color? (color?_append h hrest.closed)
  · obtain rfl := Spells.symbol ⟨hne, rest, h⟩
    exact atFront?_symbol s hrest

/-- **The spelling of a token** is read as the token wherever it stands apart. -/
theorem Spells.stands (h : token.Spells word) (hrest : Apart rest') : token.Stands word rest' := by
  obtain ⟨hne, rest, hfront⟩ := h
  refine ⟨hne, ?_, atFront?_append hfront hne hrest⟩
  obtain ⟨c, cs, rfl⟩ := List.exists_cons_of_ne_nil hne
  rintro _ ⟨⟩
  exact not_isBlank_of_atFront? hfront

end Token

/-! ### Tokens with spaces between them -/

namespace Piece

/-- Tokens in their spellings, with single spaces between them. -/
def spaced : List (Token × List Char) → List Piece
  | [] => []
  | [w] => [.word w.1 w.2]
  | w :: ws => .word w.1 w.2 :: .space :: spaced ws

/-- Words with spaces between them are legible. -/
theorem legible_spaced {ws : List (Token × List Char)} (h : ∀ w ∈ ws, w.1.Spells w.2) :
    Legible (spaced ws) [] := by
  fun_induction spaced ws with
  | case1 => trivial
  | case2 w => exact ⟨(h w List.mem_cons_self).stands nofun, trivial⟩
  | case3 w ws _ ih =>
    refine ⟨(h w List.mem_cons_self).stands ?_, ih fun v hv => h v (List.mem_cons_of_mem w hv)⟩
    rintro c ⟨⟩
    rfl

theorem text_spaced (ws : List (Token × List Char)) :
    text (spaced ws) = [' '].intercalate (ws.map Prod.snd) := by
  fun_induction spaced ws with
  | case1 => rfl
  | case2 w => simp [chars, List.intercalate]
  | case3 w ws hne ih =>
    obtain ⟨v, vs, rfl⟩ := List.exists_cons_of_ne_nil hne
    rw [text_cons, text_cons, ih]
    simp [chars, List.intercalate]

/-- The tokens are those of the words. -/
theorem tokens_spaced (ws : List (Token × List Char)) (offset : Nat) :
    (lexemes offset (spaced ws)).map Lexeme.token = ws.map Prod.fst := by
  fun_induction spaced ws generalizing offset with
  | case1 => rfl
  | case2 w => rfl
  | case3 w ws _ ih => rw [lexemes, lexemes, List.map_cons, ih, List.map_cons]

end Piece

/-! ### The spans of the tokens -/

open Text

/-- A character inside a gap is a blank. -/
theorem Text.Gap.isBlank_of_append {text front back : List Char} {c : Char} {a b : Nat}
    (h : Gap text a b) (htext : text = front ++ c :: back) (hle : a ≤ byteLength front)
    (hlt : byteLength front < b) : isBlank c = true := by
  obtain ⟨blanks, hslice, hblank⟩ := h
  obtain ⟨before, after, hcut, rfl, rfl⟩ := slice?_eq_some_iff.mp hslice
  -- the gap begins in front of the character and ends behind it
  obtain ⟨inside, rfl⟩ := exists_append_of_byteLength_le (hcut.symm.trans htext) hle
  have hrest : blanks ++ after = inside ++ c :: back := by
    rw [htext, List.append_assoc] at hcut
    exact (List.append_cancel_left hcut).symm
  rw [byteLength_append] at hlt
  obtain ⟨tail, rfl⟩ := exists_append_of_byteLength_le hrest.symm (by omega)
  cases tail with
  | nil =>
    rw [List.append_nil] at hlt
    exact absurd hlt (Nat.lt_irrefl _)
  | cons d tail =>
    rw [List.append_assoc] at hrest
    obtain ⟨rfl, -⟩ := List.cons.inj (List.append_cancel_left hrest)
    exact hblank d (List.mem_append_right inside List.mem_cons_self)

/-- A slice that is not empty has a span that is not empty and lies in the text. -/
theorem Text.span_of_slice? {text word : List Char} {start stop : Nat}
    (h : slice? text start stop = some word) (hne : word ≠ []) :
    start < stop ∧ stop ≤ byteLength text := by
  obtain ⟨front, back, rfl, rfl, rfl⟩ := slice?_eq_some_iff.mp h
  have hpos : byteLength word ≠ 0 := fun hzero => hne (eq_nil_of_byteLength hzero)
  rw [byteLength_append, byteLength_append]
  omega

namespace Lexes

variable {text : List Char} {p : Nat} {ls : List Lexeme}

/-- Each token has a slice of the text, which spells it. -/
theorem exists_words (h : Lexes text p ls) :
    ∃ words : List (List Char), List.Forall₂
      (fun l word => slice? text l.start l.stop = some word ∧ l.token.Spells word) ls words := by
  induction h with
  | done gap => exact ⟨[], .nil⟩
  | @token p l ls word gap slice spells rest ih =>
    obtain ⟨words, hwords⟩ := ih
    exact ⟨word :: words, .cons ⟨slice, spells⟩ hwords⟩

/-- The spans are not empty and lie in the text, between whole characters. -/
theorem span (h : Lexes text p ls) : ∀ l ∈ ls, l.start < l.stop ∧ l.stop ≤ byteLength text ∧
    Boundary text l.start ∧ Boundary text l.stop := by
  induction h with
  | done gap => exact List.forall_mem_nil _
  | token gap slice spells rest ih =>
    obtain ⟨hlt, hle⟩ := span_of_slice? slice spells.1
    exact List.forall_mem_cons.mpr
      ⟨⟨hlt, hle, boundary_start_of_slice? slice, boundary_stop_of_slice? slice⟩, ih⟩

/-- No token begins before the place from which the text is cut. -/
theorem le_start (h : Lexes text p ls) : ∀ l ∈ ls, p ≤ l.start := by
  induction h with
  | done gap => exact List.forall_mem_nil _
  | token gap slice spells rest ih =>
    refine List.forall_mem_cons.mpr ⟨gap.le, fun l hl => ?_⟩
    exact Nat.le_trans gap.le (Nat.le_trans (le_of_slice? slice) (ih l hl))

/-- No token begins before the one in front of it has ended. -/
theorem pairwise (h : Lexes text p ls) : ls.Pairwise fun a b => a.stop ≤ b.start := by
  induction h with
  | done gap => exact .nil
  | token gap slice spells rest ih => exact .cons rest.le_start ih

/-- **Outside the tokens there is only white space.** -/
theorem isBlank_of_outside (h : Lexes text p ls) {front back : List Char} {c : Char}
    (htext : text = front ++ c :: back) (hle : p ≤ byteLength front)
    (hout : ∀ l ∈ ls, byteLength front < l.start ∨ l.stop ≤ byteLength front) :
    isBlank c = true := by
  induction h with
  -- behind the last token the text is a gap up to its end
  | done gap =>
    refine gap.isBlank_of_append htext hle ?_
    have hpos : 0 < c.utf8Size := c.utf8Size_pos
    rw [htext, byteLength_append, byteLength_cons]
    omega
  | token gap slice spells rest ih =>
    obtain ⟨hhead, htail⟩ := List.forall_mem_cons.mp hout
    rcases hhead with hbefore | hbehind
    · exact gap.isBlank_of_append htext hle hbefore
    · exact ih hbehind htail

end Lexes

namespace Token

/-- The spellings of several tokens with single spaces between them are scanned to these tokens. -/
theorem exists_scan_intercalate {ls : List Lexeme} {words : List (List Char)}
    (h : List.Forall₂ (fun l word => l.token.Spells word) ls words) :
    ∃ ls', scan (" ".intercalate (words.map String.ofList)) = .ok ls' ∧
      ls'.map Lexeme.token = ls.map Lexeme.token := by
  -- the text is a list of pieces, each token with its word and a blank between two of them
  let ws := (ls.map Lexeme.token).zip words
  have hlength : (ls.map Lexeme.token).length = words.length := by
    rw [List.length_map, h.length_eq]
  have hspells : ∀ w ∈ ws, w.1.Spells w.2 := by
    have hmap : List.Forall₂ (fun (token : Token) word => token.Spells word)
        (ls.map Lexeme.token) words := List.forall₂_map_left_iff.mpr h
    exact fun w hw => (List.forall₂_iff_zip.mp hmap).2 hw
  have htext : " ".intercalate (words.map String.ofList) =
      String.ofList (Piece.text (Piece.spaced ws)) := by
    rw [Piece.text_spaced, List.map_snd_zip (Nat.le_of_eq hlength.symm), ← String.toList_inj]
    simp [Function.comp_def]
  refine ⟨_, (congrArg scan htext).trans (Piece.scan_text (Piece.legible_spaced hspells)), ?_⟩
  rw [Piece.tokens_spaced, List.map_fst_zip (Nat.le_of_eq hlength)]

/-- **Scanning loses nothing and does not depend on the context.** The spans of the tokens are not empty,
lie in the text between whole characters and follow one another without overlap, and a character outside
all of them is a blank. Every token has a slice of the text as its word: the word alone is scanned to
this one token, and all words with single spaces between them are scanned to the same tokens again. -/
theorem scan_segments {source : String} {ls : List Lexeme} (h : scan source = .ok ls) :
    (∀ l ∈ ls, l.start < l.stop ∧ l.stop ≤ byteLength source.toList ∧
      Boundary source.toList l.start ∧ Boundary source.toList l.stop) ∧
    ls.Pairwise (fun a b => a.start < b.start ∧ a.stop ≤ b.start) ∧
    (∀ front c back, source.toList = front ++ c :: back →
      (∀ l ∈ ls, byteLength front < l.start ∨ l.stop ≤ byteLength front) → isBlank c = true) ∧
    ∃ words : List String,
      List.Forall₂ (fun l word => slice? source.toList l.start l.stop = some word.toList ∧
        scan word = .ok [⟨l.token, 0, byteLength word.toList⟩]) ls words ∧
      ∃ ls', scan (" ".intercalate words) = .ok ls' ∧
        ls'.map Lexeme.token = ls.map Lexeme.token := by
  have hlexes := lexes_of_scan h
  obtain ⟨words, hwords⟩ := hlexes.exists_words
  refine ⟨hlexes.span, ?_, ?_, words.map String.ofList, ?_, ?_⟩
  · refine hlexes.pairwise.imp_of_mem fun {a b} ha _ hab => ?_
    exact ⟨Nat.lt_of_lt_of_le (hlexes.span a ha).1 hab, hab⟩
  · exact fun front c back htext hout => hlexes.isBlank_of_outside htext (Nat.zero_le _) hout
  · rw [List.forall₂_map_right_iff]
    refine hwords.imp fun l word hword => ?_
    rw [String.toList_ofList]
    exact ⟨hword.1, scan_of_stands (hword.2.stands nofun)⟩
  · exact exists_scan_intercalate (hwords.imp fun l word hword => hword.2)

/-- Five tokens without a space between them, one of them with a space inside. The words are read
one by one and in a row as they are read here. -/
theorem scan_segments_adjacent :
    ∃ ls words ls', scan "é<=1.5e3if'a b'" = .ok ls ∧
      ls.map Lexeme.token =
        [.ident "é", .symbol .le, .float "1.5e3", .keyword .ifWord, .str "a b"] ∧
      List.Forall₂ (fun l word =>
        slice? "é<=1.5e3if'a b'".toList l.start l.stop = some word.toList ∧
          scan word = .ok [⟨l.token, 0, byteLength word.toList⟩]) ls words ∧
      scan (" ".intercalate words) = .ok ls' ∧ ls'.map Lexeme.token = ls.map Lexeme.token := by
  have hscan : scan "é<=1.5e3if'a b'" = .ok [⟨.ident "é", 0, 2⟩, ⟨.symbol .le, 2, 4⟩,
      ⟨.float "1.5e3", 4, 9⟩, ⟨.keyword .ifWord, 9, 11⟩, ⟨.str "a b", 11, 16⟩] := by decide +kernel
  obtain ⟨-, -, -, words, hwords, ls', hjoined, htokens⟩ := scan_segments hscan
  exact ⟨_, words, ls', hscan, rfl, hwords, hjoined, htokens⟩

end Token
end QueryExpr
