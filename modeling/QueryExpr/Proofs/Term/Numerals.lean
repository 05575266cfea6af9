import Mathlib.Data.List.Induction
import Mathlib.Data.Nat.Digits.Defs
import QueryExpr.Proofs.Term.Constants
import QueryExpr.Sql.Emit

/-!
# Integers as they are written

An integer is written with decimal digits, or with a radix mark and hexadecimal digits behind it,
whether the radix has all of them or not. The digits may be any number. A `Numeral` is an integer
written in one of these ways, with its mathematical value. This module shows that the texts of numerals
are exactly the texts that are scanned as one integer (`scan_eq_int_iff`), and what becomes of them:
the constant with the value, if the digits are those of the radix and the value is below `2 ^ 63`, and
a malformed literal otherwise (`compile_text`).
-/

namespace QueryExpr

open Text

/-! ### Numerals -/

/-- A radix. -/
inductive Radix where
  | binary
  | octal
  | decimal
  | hexadecimal
  deriving DecidableEq, Repr

namespace Radix

/-- The number of digits that the radix has. -/
def base : Radix → Nat
  | .binary => 2
  | .octal => 8
  | .decimal => 10
  | .hexadecimal => 16

/-- How the radix is marked. -/
def marks : Radix → List (List Char)
  | .binary => [['0', 'b'], ['0', 'B']]
  | .octal => [['0', 'o'], ['0', 'O']]
  | .decimal => [[]]
  | .hexadecimal => [['0', 'x'], ['0', 'X']]

end Radix

/-- A digit as it is written: letters are upper or lower case. -/
structure Digit where
  value : Fin 16
  isUpper : Bool
  deriving DecidableEq, Repr

/-- The character of a digit. -/
def Digit.char (d : Digit) : Char :=
  if d.isUpper then (Nat.digitChar d.value).toUpper else Nat.digitChar d.value

/-- An integer as it is written. -/
structure Numeral where
  radix : Radix
  mark : List Char
  digits : List Digit
  mark_mem : mark ∈ radix.marks
  digits_ne_nil : digits ≠ []
  /-- Without a mark no letters are taken for digits. -/
  decimal : radix = .decimal → ∀ d ∈ digits, d.value.val < 10

namespace Numeral

/-- The characters of the digits. -/
def digitChars (n : Numeral) : List Char := n.digits.map Digit.char

/-- The numeral as a text. -/
def text (n : Numeral) : String := String.ofList (n.mark ++ n.digitChars)

/-- The radix has all digits of the numeral. -/
def IsLegal (n : Numeral) : Prop := ∀ d ∈ n.digits, d.value.val < n.radix.base

instance (n : Numeral) : Decidable n.IsLegal := inferInstanceAs (Decidable (∀ d ∈ n.digits, _))

/-- The number that the digits denote. -/
def value (n : Numeral) : Nat :=
  Nat.ofDigits n.radix.base (n.digits.map fun d => d.value.val).reverse

end Numeral

/-! ### Digits -/

theorem isHexDigit_of_isAsciiDigit {c : Char} (h : isAsciiDigit c = true) : isHexDigit c = true := by
  have hrange : '0' ≤ c ∧ c ≤ '9' := by simpa [isAsciiDigit] using h
  rw [isHexDigit, hexDigit?, if_pos hrange, Option.isSome_some]

namespace Digit

theorem hexDigit?_char (d : Digit) : hexDigit? d.char = some d.value.val := by
  have hall : ∀ (v : Fin 16) (b : Bool), hexDigit? (Digit.char ⟨v, b⟩) = some v.val := by decide
  exact hall d.value d.isUpper

theorem isHexDigit_char (d : Digit) : isHexDigit d.char = true := by
  rw [isHexDigit, hexDigit?_char, Option.isSome_some]

theorem isAsciiDigit_char {d : Digit} (h : d.value.val < 10) : isAsciiDigit d.char = true := by
  have hall : ∀ (v : Fin 16) (b : Bool), v.val < 10 → isAsciiDigit (Digit.char ⟨v, b⟩) = true := by
    decide
  exact hall d.value d.isUpper h

/-- Every hexadecimal digit is the character of a digit. -/
theorem exists_char_eq {c : Char} (h : isHexDigit c = true) : ∃ d : Digit, d.char = c := by
  have hall : ∀ n < 103, isHexDigit (Char.ofNat n) = true →
      ∃ (v : Fin 16) (b : Bool), Digit.char ⟨v, b⟩ = Char.ofNat n := by decide +kernel
  have hcode : c.toNat < 103 := by
    unfold isHexDigit hexDigit? at h
    split_ifs at h with hdigit hlower hupper
    · exact Nat.lt_of_le_of_lt hdigit.2 (by decide)
    · exact Nat.lt_of_le_of_lt hlower.2 (by decide)
    · exact Nat.lt_of_le_of_lt hupper.2 (by decide)
    · cases h
  obtain ⟨v, b, hchar⟩ := hall c.toNat hcode (by rwa [Char.ofNat_toNat])
  exact ⟨⟨v, b⟩, hchar.trans (Char.ofNat_toNat c)⟩

theorem value_lt_of_isAsciiDigit_char {d : Digit} (h : isAsciiDigit d.char = true) :
    d.value.val < 10 := by
  have hall : ∀ (v : Fin 16) (b : Bool), isAsciiDigit (Digit.char ⟨v, b⟩) = true → v.val < 10 := by
    decide
  exact hall d.value d.isUpper h

/-- Hexadecimal digits are the characters of digits, one by one. -/
theorem exists_map_char_eq {cs : List Char} (h : ∀ c ∈ cs, isHexDigit c = true) :
    ∃ ds : List Digit, ds.map Digit.char = cs := by
  induction cs with
  | nil => exact ⟨[], rfl⟩
  | cons c cs ih =>
    obtain ⟨d, hd⟩ := exists_char_eq (h c List.mem_cons_self)
    obtain ⟨ds, hds⟩ := ih fun c' hc' => h c' (List.mem_cons_of_mem c hc')
    exact ⟨d :: ds, by rw [List.map_cons, hd, hds]⟩

end Digit

/-! ### The value of a literal -/

namespace Literal

/-- Digits are folded into the number that they denote, if the radix has them all. -/
theorem radixValue?_map_char (base : Nat) (ds : List Digit) :
    radixValue? base (ds.map Digit.char) =
      if ∀ d ∈ ds, d.value.val < base then
        some (Nat.ofDigits base (ds.map fun d => d.value.val).reverse)
      else .none := by
  -- from the last digit on: the number of the others is multiplied and the digit added
  induction ds using List.reverseRecOn with
  | nil => simp [radixValue?]
  | append_singleton ds d ih =>
    have hfold : radixValue? base ((ds ++ [d]).map Digit.char) =
        (radixValue? base (ds.map Digit.char)).bind fun n =>
          if d.value.val < base then some (base * n + d.value.val) else .none := by
      rw [radixValue?, List.map_append, List.foldl_append]
      show (radixValue? base (ds.map Digit.char)).bind _ = _
      rw [Digit.hexDigit?_char]
      rfl
    rw [hfold, ih]
    by_cases hds : ∀ d ∈ ds, d.value.val < base
    · by_cases hd : d.value.val < base
      · have hall : ∀ d' ∈ ds ++ [d], d'.value.val < base := by
          simpa [or_imp, forall_and] using ⟨hds, hd⟩
        rw [if_pos hds, if_pos hall]
        simp [hd, Nat.ofDigits_cons, Nat.add_comm]
      · have hnot : ¬ ∀ d' ∈ ds ++ [d], d'.value.val < base := fun hall => hd (hall d (by simp))
        rw [if_pos hds, if_neg hnot, Option.bind_some, if_neg hd]
    · have hnot : ¬ ∀ d' ∈ ds ++ [d], d'.value.val < base := fun hall =>
        hds fun d' hd' => hall d' (List.mem_append_left _ hd')
      rw [if_neg hds, if_neg hnot, Option.bind_none]

end Literal

namespace Numeral

/-- Without a mark the digits are decimal ones. -/
theorem isAsciiDigit_of_decimal {n : Numeral} (h : n.radix = .decimal) :
    n.mark = [] ∧ ∀ c ∈ n.digitChars, isAsciiDigit c = true := by
  have hmark := n.mark_mem
  rw [h] at hmark
  refine ⟨List.mem_singleton.mp hmark, fun c hc => ?_⟩
  obtain ⟨d, hd, rfl⟩ := List.mem_map.mp hc
  exact Digit.isAsciiDigit_char (n.decimal h d hd)

/-- The radix and the digits of a numeral are found by its mark. -/
theorem radixParts_text (n : Numeral) :
    Literal.radixParts (n.mark ++ n.digitChars) = (n.radix.base, n.digitChars) := by
  have hmark := n.mark_mem
  cases hradix : n.radix with
  | decimal =>
    obtain ⟨hnil, hdigits⟩ := isAsciiDigit_of_decimal hradix
    rw [hnil, List.nil_append, Literal.radixParts_digits hdigits, Radix.base]
  | _ =>
    rw [hradix] at hmark
    simp only [Radix.marks, List.mem_cons, List.not_mem_nil, or_false] at hmark
    rcases hmark with hmark | hmark <;> rw [hmark] <;> rfl

/-- **The literal of a numeral** is the value, if the radix has all the digits and the value is in the
range, and malformed otherwise. -/
theorem ofInt_text (n : Numeral) :
    Literal.ofInt n.text =
      if n.IsLegal ∧ n.value < 2 ^ 63 then .int (.ofNat n.value) else .malformed .int := by
  have hvalue : Literal.radixValue? n.radix.base n.digitChars =
      if n.IsLegal then some n.value else none := Literal.radixValue?_map_char _ _
  rw [Literal.ofInt, text, String.toList_ofList, radixParts_text]
  dsimp only
  rw [hvalue]
  by_cases hlegal : n.IsLegal
  · rw [if_pos hlegal]
    by_cases hrange : n.value < 2 ^ 63
    · rw [if_pos ⟨hlegal, hrange⟩]
      exact if_pos hrange
    · rw [if_neg fun h => hrange h.2]
      exact if_neg hrange
  · rw [if_neg hlegal, if_neg fun h => hlegal h.1]

/-- The largest integer and the next one, which is not taken for the least. -/
example : Literal.ofInt "0X7FFFFFFFFFFFFFFF" = .int .maxValue ∧
    Literal.ofInt "0x08000000000000000" = .malformed .int := by decide +kernel

end Numeral

/-! ### One token -/

namespace Token

/-- The letters that mark a radix. -/
def radixLetters : List Char := ['x', 'X', 'o', 'O', 'b', 'B']

theorem Closed.not_isHexDigit {c : Char} {cs : List Char} (h : Closed (c :: cs)) :
    isHexDigit c = false := by
  have hall : ∀ c ∈ '.' :: closers, isHexDigit c = false := forall_mem_of_all (by decide)
  rcases h with hc | ⟨rfl, -⟩
  · exact hall c (List.mem_cons_of_mem _ hc)
  · exact hall '.' List.mem_cons_self

/-- Hexadecimal digits behind a radix mark go up to what closes them. -/
theorem number?_marked {letter : Char} {ds rest : List Char} (hletter : letter ∈ radixLetters)
    (hds : ∀ c ∈ ds, isHexDigit c = true) (hne : ds ≠ []) (hrest : Closed rest) :
    number? ('0' :: letter :: (ds ++ rest)) =
      some (.int (String.ofList ('0' :: letter :: ds)), ds.length + 2) := by
  have htake : (ds ++ rest).takeWhile isHexDigit = ds := by
    rw [List.takeWhile_append_of_pos hds]
    cases rest with
    | nil => simp
    | cons c cs => simp [hrest.not_isHexDigit]
  have hlength : radixLength ('0' :: letter :: (ds ++ rest)) = ds.length + 2 := by
    have hpos : ds.length ≠ 0 := fun h => hne (List.eq_nil_of_length_eq_zero h)
    rw [radixLength, htake, if_pos ⟨hletter, hpos⟩, Nat.add_comm]
  rw [number?, hlength, if_pos (Nat.succ_ne_zero _)]
  simp

end Token

namespace Numeral

/-- The mark of a radix that is not decimal. -/
theorem exists_letter_of_ne_decimal {n : Numeral} (h : n.radix ≠ .decimal) :
    ∃ letter ∈ Token.radixLetters, n.mark = ['0', letter] := by
  have hmark := n.mark_mem
  cases hradix : n.radix with
  | decimal => exact absurd hradix h
  | _ =>
    rw [hradix] at hmark
    simp only [Radix.marks, List.mem_cons, List.not_mem_nil, or_false] at hmark
    rcases hmark with hmark | hmark <;> exact ⟨_, by decide, hmark⟩

theorem digitChars_ne_nil (n : Numeral) : n.digitChars ≠ [] := by
  simpa [digitChars] using n.digits_ne_nil

/-- **A numeral stands as an integer** in front of what closes it. -/
theorem stands_text (n : Numeral) {rest : List Char} (hrest : Token.Closed rest) :
    (Token.int n.text).Stands (n.mark ++ n.digitChars) rest := by
  by_cases hradix : n.radix = .decimal
  · obtain ⟨hnil, hdigits⟩ := isAsciiDigit_of_decimal hradix
    rw [text, hnil, List.nil_append]
    exact Token.stands_int hdigits n.digitChars_ne_nil hrest
  · obtain ⟨letter, hletter, hmark⟩ := exists_letter_of_ne_decimal hradix
    have hhex : ∀ c ∈ n.digitChars, isHexDigit c = true := by
      intro c hc
      obtain ⟨d, -, rfl⟩ := List.mem_map.mp hc
      exact d.isHexDigit_char
    rw [text, hmark]
    exact Token.stands_of_number? (by decide)
      (Token.number?_marked hletter hhex n.digitChars_ne_nil hrest)

end Numeral

namespace Token

theorem mem_takeWhile_take {p : Char → Bool} {cs : List Char} {c : Char}
    (h : c ∈ cs.take (cs.takeWhile p).length) : p c = true := by
  rw [← List.prefix_iff_eq_take.mp (List.takeWhile_prefix p)] at h
  exact List.all_eq_true.mp List.all_takeWhile c h

/-- What a radix mark is followed by. -/
theorem exists_take_radixLength {cs : List Char} (h : radixLength cs ≠ 0) :
    ∃ letter ds, letter ∈ radixLetters ∧ cs.take (radixLength cs) = '0' :: letter :: ds ∧ ds ≠ [] ∧
      ∀ c ∈ ds, isHexDigit c = true := by
  unfold radixLength at h ⊢
  split at h
  · next letter cs =>
    dsimp only at h ⊢
    split at h
    · next hletter =>
      refine ⟨letter, cs.take (cs.takeWhile isHexDigit).length, hletter.1, ?_, fun hnil => ?_,
        fun c hc => mem_takeWhile_take hc⟩
      · rw [if_pos hletter, Nat.add_comm, List.take_succ_cons, List.take_succ_cons]
      · rw [← List.prefix_iff_eq_take.mp (List.takeWhile_prefix isHexDigit)] at hnil
        exact hletter.2 (by rw [hnil]; rfl)
    · exact absurd rfl h
  · exact absurd rfl h

/-- **How an integer is spelled**: with a radix mark and hexadecimal digits, or with decimal digits. -/
theorem Spells.int {text : String} {word : List Char} (h : (Token.int text).Spells word) :
    (∃ letter ds, letter ∈ radixLetters ∧ word = '0' :: letter :: ds ∧ ds ≠ [] ∧
      ∀ c ∈ ds, isHexDigit c = true) ∨
    ∀ c ∈ word, isAsciiDigit c = true := by
  obtain ⟨-, rest, h⟩ := h
  rcases number?_cases (number?_of_atFront? (.inl rfl) h) with
    ⟨hradix, hne, -⟩ | ⟨whole, fraction, -, hrun, -, -, -, htoken⟩
  · left
    have hword := exists_take_radixLength (hradix ▸ hne)
    rwa [hradix, List.take_left] at hword
  · -- an integer without a radix mark is its run of digits
    right
    split at htoken
    · next hlength =>
      rw [← hrun] at hlength
      intro c hc
      have hmem : c ∈ (word ++ rest).take (digitRun (word ++ rest)) := by
        rwa [← hlength, List.take_left]
      exact mem_takeWhile_take hmem
    · cases htoken

end Token

namespace Numeral

/-- The text of a numeral is scanned as one integer. -/
theorem scan_text (n : Numeral) :
    Token.scan n.text = .ok [⟨.int n.text, 0, byteLength n.text.toList⟩] := by
  have hscan := scan_of_stands (n.stands_text (show Token.Closed [] from trivial))
  have hchars : n.text.toList = n.mark ++ n.digitChars := String.toList_ofList
  rwa [← hchars, String.ofList_toList] at hscan

/-- An integer is spelled by the characters of a numeral. -/
theorem exists_of_spells {text : String} {word : List Char} (h : (Token.int text).Spells word) :
    ∃ n : Numeral, n.mark ++ n.digitChars = word := by
  have hword := h.1
  rcases h.int with ⟨letter, cs, hletter, rfl, hne, hhex⟩ | hdigits
  · obtain ⟨ds, rfl⟩ := Digit.exists_map_char_eq hhex
    -- each radix is marked by a letter of either case
    obtain ⟨radix, hmark, hradix⟩ : ∃ radix : Radix, ['0', letter] ∈ radix.marks ∧
        radix ≠ .decimal := by
      simp only [Token.radixLetters, List.mem_cons, List.not_mem_nil, or_false] at hletter
      rcases hletter with rfl | rfl | rfl | rfl | rfl | rfl
      · exact ⟨.hexadecimal, by decide, by decide⟩
      · exact ⟨.hexadecimal, by decide, by decide⟩
      · exact ⟨.octal, by decide, by decide⟩
      · exact ⟨.octal, by decide, by decide⟩
      · exact ⟨.binary, by decide, by decide⟩
      · exact ⟨.binary, by decide, by decide⟩
    have hds : ds ≠ [] := by
      rintro rfl
      exact hne rfl
    exact ⟨⟨radix, _, ds, hmark, hds, fun h => absurd h hradix⟩, rfl⟩
  · obtain ⟨ds, rfl⟩ := Digit.exists_map_char_eq fun c hc => isHexDigit_of_isAsciiDigit (hdigits c hc)
    have hds : ds ≠ [] := by
      rintro rfl
      exact hword rfl
    exact ⟨⟨.decimal, [], ds, List.mem_singleton.mpr rfl, hds, fun _ d hd =>
      Digit.value_lt_of_isAsciiDigit_char (hdigits _ (List.mem_map_of_mem hd))⟩, rfl⟩

/-- **The texts that are scanned as one integer are the texts of numerals.** -/
theorem scan_eq_int_iff (source : String) :
    Token.scan source = .ok [⟨.int source, 0, byteLength source.toList⟩] ↔
      ∃ n : Numeral, n.text = source := by
  constructor
  · intro h
    cases Token.lexes_of_scan h with
    | token gap slice spells rest =>
      -- the token covers the text from end to end
      rw [slice?_self, Option.some.injEq] at slice
      obtain ⟨n, hn⟩ := exists_of_spells spells
      exact ⟨n, by rw [text, hn, ← slice, String.ofList_toList]⟩
  · rintro ⟨n, rfl⟩
    exact n.scan_text

end Numeral

/-! ### One constant -/

namespace Term

/-- The term is the integer: a valid constant with this value, whose SQL is the value in decimal. -/
structure IsInteger (t : Term) (n : Nat) : Prop where
  verdict : t.verdict = .valid .int
  value : ∃ v : Int64, t.head = .const (.int v) ∧ v.toInt = n
  sql : ∀ groups context j, t.toSql groups context j = (j, .ok (toString n))

/-- The term is an integer without a value. It says so, and reports how the integer is written. -/
structure IsMalformedInteger (t : Term) (text : String) : Prop where
  label : t.fault.map Fault.label = some "CONST_INT"
  source : t.source = text
  value : t.value? = some text
  check : ∀ context, t.check context = .error
    { fault := .malformed .int, root := text, cause := text, context, causeIsRoot := true,
      detail := "Constant `" ++ text ++ "` is malformed." }

/-- The source of a leaf over a whole text is the text. -/
theorem source_build (text : String) (head : Head) :
    (Expr.build text.toList ⟨0, byteLength text.toList⟩ head [] []).source = text := by
  rw [source, Expr.build, Expr.cutOut, Expr.textBetween_self, sourceChars_make]
  simp [Fragment.chars]

theorem isInteger_resolveConst (text : List Char) (span : Span) {n : Nat} (hn : n < 2 ^ 63) :
    (Expr.resolveConst text span (.int (.ofNat n))).IsInteger n where
  verdict := rfl
  value := ⟨.ofNat n, rfl, Int64.toInt_ofNat_of_lt hn⟩
  sql := fun groups context j => by
    have hdecimal : toString (Int64.ofNat n) = toString n := by
      show toString (Int64.ofNat n).toInt = _
      rw [Int64.toInt_ofNat_of_lt hn]
      rfl
    rw [← hdecimal]
    rfl

theorem isMalformedInteger_of_fault {t : Term} {text : String}
    (hfault : t.fault = some (.malformed .int)) (hsource : t.source = text)
    (hleaf : t.descendants = []) : t.IsMalformedInteger text := by
  have hmalformed : t.fault.any Fault.isMalformed = true := by rw [hfault]; rfl
  have hvalue : t.value? = some text := by rw [value?, if_pos hmalformed, hsource]
  refine ⟨by rw [hfault]; rfl, hsource, hvalue, fun context => ?_⟩
  have hcheck : t.check context = .error (.about (.malformed .int) t context) := by
    rw [check, hfault, hleaf]
    rfl
  have hdetail : Complaint.detailOf (.malformed .int) t = "Constant `" ++ text ++ "` is malformed." := by
    show "Constant `" ++ t.value?.getD "" ++ "` is malformed." = _
    rw [hvalue, Option.getD_some]
  rw [hcheck, Complaint.about, Complaint.aboutPart, hdetail, hsource]

end Term

/-- **Integers denote their mathematical value or are flagged.** The texts that are scanned as one integer
are the texts of numerals. If the radix has all digits of a numeral and its value is below `2 ^ 63`, then
the text compiles to the constant with the value, whose SQL is the value in decimal. Otherwise it still
compiles, to a node that is marked as a malformed integer and reports the text as it is written. -/
theorem Numeral.compile_text :
    (∀ source, Token.scan source = .ok [⟨.int source, 0, byteLength source.toList⟩] ↔
      ∃ n : Numeral, n.text = source) ∧
    ∀ (n : Numeral) (schema : Schema), ∃ t, compile schema n.text = .ok t ∧
      if n.IsLegal ∧ n.value < 2 ^ 63 then t.IsInteger n.value else t.IsMalformedInteger n.text := by
  refine ⟨scan_eq_int_iff, fun n schema => ?_⟩
  have hlit : (Token.int n.text).literal? = some (Literal.ofInt n.text) := rfl
  have hcompile := compile_of_stands (fun _ => n.stands_text) hlit schema
  have hchars : n.text.toList = n.mark ++ n.digitChars := String.toList_ofList
  rw [← hchars, String.ofList_toList, ofInt_text] at hcompile
  refine ⟨_, hcompile, ?_⟩
  split
  · next h => exact Term.isInteger_resolveConst _ _ h.2
  · exact Term.isMalformedInteger_of_fault rfl (Term.source_build n.text (.const .none)) rfl

end QueryExpr
