import QueryExpr.Expr.Parse
import QueryExpr.Expr.Resolve
import QueryExpr.Proofs.Calendar.RoundTrip
import QueryExpr.Proofs.Token.Spelling

/-!
# Literals read back

The literal that is written for a constant is one token, and the token denotes the constant. For each
kind there are two facts: the spelling stands as a token in front of whatever may follow it, and the
value of the token is the constant that was written. `exists_stands_literal` collects them.

Negative integers, numbers with a fraction and large texts are written too, but not as literals of
their own, so they are left out of `Constant.IsLiteral`.
-/

namespace QueryExpr

namespace Token

/-! ### Integers -/

section Digits

variable {ds rest : List Char}

theorem digitRun_digits (hds : ∀ c ∈ ds, isAsciiDigit c = true) (hrest : Closed rest) :
    digitRun (ds ++ rest) = ds.length := by
  rw [digitRun, List.takeWhile_append_of_pos hds]
  cases rest with
  | nil => simp
  | cons c cs => simp [hrest.not_numeral.1]

/-- A run of digits has no radix mark behind its first one. -/
theorem radixLength_digits (hds : ∀ c ∈ ds, isAsciiDigit c = true) (hne : ds ≠ [])
    (hrest : Closed rest) : radixLength (ds ++ rest) = 0 := by
  have hmarks : ∀ c ∈ ['x', 'X', 'o', 'O', 'b', 'B'], isAsciiDigit c = false ∧
      c.isAlphanum = true := Text.forall_mem_of_all (by decide)
  unfold radixLength
  split
  · next mark cs heq =>
    -- the character after the first digit is a digit or one that closes the number
    have hmark : mark ∉ ['x', 'X', 'o', 'O', 'b', 'B'] := by
      intro hmem
      cases ds with
      | nil => exact hne rfl
      | cons d ds =>
        cases ds with
        | nil =>
          obtain rfl : rest = mark :: cs := (List.cons.inj heq).2
          have hclosed := hrest.not_numeral.2
          rw [(hmarks mark hmem).2] at hclosed
          cases hclosed
        | cons d' ds =>
          obtain rfl : d' = mark := (List.cons.inj (List.cons.inj heq).2).1
          have hdigit := hds d' (by simp)
          rw [(hmarks d' hmem).1] at hdigit
          cases hdigit
    simp [hmark]
  · rfl

/-- What closes a number is no fraction: a point has no digit behind it. -/
theorem fractionLength_of_closed (hrest : Closed rest) : fractionLength rest = 0 := by
  unfold fractionLength
  split
  · next cs =>
    rcases hrest with hc | ⟨-, hc⟩
    · exact absurd hc (by decide)
    · cases cs with
      | nil => rfl
      | cons d cs => simp [digitRun, hc d rfl]
  · rfl

theorem exponentLength_of_closed (hrest : Closed rest) : exponentLength rest = 0 := by
  unfold exponentLength
  split
  · rfl
  · next e cs =>
    have he := hrest.not_numeral.2
    rw [if_neg]
    rintro (rfl | rfl) <;> cases he

/-- A run of digits in front of what closes it is an integer. -/
theorem number?_digits (hds : ∀ c ∈ ds, isAsciiDigit c = true) (hne : ds ≠ [])
    (hrest : Closed rest) : number? (ds ++ rest) = some (.int (String.ofList ds), ds.length) := by
  have hlength : ds.length ≠ 0 := fun h => hne (List.eq_nil_of_length_eq_zero h)
  simp only [number?, radixLength_digits hds hne hrest, digitRun_digits hds hrest, hlength,
    List.drop_left, fractionLength_of_closed hrest, Nat.add_zero, exponentLength_of_closed hrest,
    List.take_left, ne_eq, not_true_eq_false, if_false, if_true]

end Digits

/-- A number at the front is the token there, since nothing else begins with a digit. -/
theorem stands_of_number? {token : Token} {c : Char} {cs rest : List Char}
    (hc : isAsciiDigit c = true)
    (h : number? (c :: (cs ++ rest)) = some (token, (c :: cs).length)) :
    token.Stands (c :: cs) rest := by
  have hquote : c ≠ '\'' ∧ c ≠ '"' := by constructor <;> (rintro rfl; cases hc)
  refine ⟨List.cons_ne_nil c cs, ?_, ?_⟩
  · rintro _ ⟨⟩
    exact Text.not_isBlank_of_isAsciiDigit hc
  · rw [List.cons_append, atFront?, word?_eq_none _ (Text.not_isIdentStart_of_isAsciiDigit hc),
      string?_eq_none _ hquote.1 hquote.2, h]
    rfl

/-- **A run of digits** stands as an integer. -/
theorem stands_int {ds rest : List Char} (hds : ∀ c ∈ ds, isAsciiDigit c = true) (hne : ds ≠ [])
    (hrest : Closed rest) : (Token.int (String.ofList ds)).Stands ds rest := by
  obtain ⟨c, cs, rfl⟩ := List.exists_cons_of_ne_nil hne
  exact stands_of_number? (hds c List.mem_cons_self) (number?_digits hds hne hrest)

end Token

namespace Literal

/-- Decimal digits denote their value. -/
theorem radixValue?_digits {ds : List Char} (hds : ∀ c ∈ ds, isAsciiDigit c = true) :
    radixValue? 10 ds = some (digitsValue ds) := by
  -- both sides fold over the digits, the left one in `Option`
  suffices h : ∀ n, ds.foldl (fun acc c => acc.bind fun n =>
      (Text.hexDigit? c).bind fun d => if d < 10 then some (10 * n + d) else .none) (some n) =
        some (ds.foldl (fun n c => 10 * n + (c.toNat - '0'.toNat)) n) from h 0
  induction ds with
  | nil => intro n; rfl
  | cons c cs ih =>
    intro n
    have hc := Text.toNat_of_isAsciiDigit (hds c List.mem_cons_self)
    have hhex : Text.hexDigit? c = some (c.toNat - '0'.toNat) := by
      rw [Text.hexDigit?, if_pos]
      exact Bool.and_eq_true_iff.mp (hds c List.mem_cons_self) |>.imp of_decide_eq_true
        of_decide_eq_true
    have hlt : c.toNat - '0'.toNat < 10 := by
      have hzero : '0'.toNat = 48 := rfl
      omega
    rw [List.foldl_cons, List.foldl_cons, Option.bind_some, hhex, Option.bind_some, if_pos hlt]
    exact ih (fun c' hc' => hds c' (List.mem_cons_of_mem c hc')) _

/-- What stands behind a leading zero of decimal digits is no radix mark. -/
theorem radixParts_digits {ds : List Char} (hds : ∀ c ∈ ds, isAsciiDigit c = true) :
    radixParts ds = (10, ds) := by
  unfold radixParts
  split
  · next mark digits =>
    have hmark : isAsciiDigit mark = true := hds mark (by simp)
    have hne : ∀ c ∈ ['x', 'X', 'o', 'O', 'b', 'B'], mark ≠ c := by
      have hnot : ∀ c ∈ ['x', 'X', 'o', 'O', 'b', 'B'], isAsciiDigit c = false :=
        Text.forall_mem_of_all (by decide)
      rintro c hc rfl
      rw [hnot mark hc] at hmark
      cases hmark
    simp only [List.mem_cons, List.not_mem_nil, or_false, forall_eq_or_imp, forall_eq] at hne
    simp [hne]
  · rfl

/-- **An integer below `2 ^ 63` reads back** from its decimal digits. -/
theorem ofInt_toDigits {n : Nat} (hn : n < 0x8000000000000000) :
    ofInt (String.ofList (Nat.toDigits 10 n)) = .int (.ofNat n) := by
  have hds : ∀ c ∈ Nat.toDigits 10 n, isAsciiDigit c = true := fun c hc =>
    Nat.isDigit_of_mem_toDigits (by decide) (by decide) hc
  have hvalue : radixValue? 10 (Nat.toDigits 10 n) = some n := by
    rw [radixValue?_digits hds]
    exact congrArg some Nat.ofDigitChars_ten_toDigits
  rw [ofInt, String.toList_ofList, radixParts_digits hds]
  dsimp only
  rw [hvalue]
  dsimp only
  rw [if_pos hn]

end Literal

/-! ### Hexadecimal digits -/

/-- A hexadecimal digit reads back. -/
theorem hexDigit?_digitChar {n : Nat} (hn : n < 16) : Text.hexDigit? n.digitChar = some n := by
  have hall : ∀ n < 16, Text.hexDigit? n.digitChar = some n := by decide
  exact hall n hn

/-- The digits of a byte read back. -/
theorem mapM_hexByte (b : UInt8) :
    (Color.hexByte b).mapM Text.hexDigit? = some [b.toNat / 16, b.toNat % 16] := by
  have hb : b.toNat < 256 := b.toNat_lt
  rw [Color.hexByte, List.mapM_cons, List.mapM_cons, hexDigit?_digitChar (by omega),
    hexDigit?_digitChar (by omega)]
  rfl

/-- Hexadecimal digits are letters or digits. -/
theorem isAlphanum_of_mem_hexByte {b : UInt8} {c : Char} (hc : c ∈ Color.hexByte b) :
    c.isAlphanum = true ∧ c ≠ '#' := by
  have hall : ∀ n < 16, (Nat.digitChar n).isAlphanum = true ∧ Nat.digitChar n ≠ '#' := by decide
  have hb : b.toNat < 256 := b.toNat_lt
  simp only [Color.hexByte, List.mem_cons, List.not_mem_nil, or_false] at hc
  rcases hc with rfl | rfl
  · exact hall _ (by omega)
  · exact hall _ (by omega)

namespace Token

/-! ### Strings -/

/-- Passing over an escape is jumping over it. -/
theorem stringBody?_skip (quote : Char) (xs cs : List Char) :
    stringBody? quote xs.length (xs ++ cs) =
      (stringBody? quote 0 cs).map fun r => (r.1, r.2 + xs.length) := by
  induction xs with
  | nil =>
    cases h : stringBody? quote 0 cs <;> simp [h]
  | cons x xs ih =>
    rw [List.length_cons, List.cons_append, stringBody?, ih]
    cases stringBody? quote 0 cs <;> simp [Nat.add_assoc]

/-- An escape of the body: a backslash and the characters that denote one. -/
theorem stringBody?_escape {quote d : Char} (xs : List Char) {cs : List Char} (hquote : quote ≠ '\\')
    (h : escape? (xs ++ cs) = some (d, xs.length)) :
    stringBody? quote 0 ('\\' :: xs ++ cs) =
      (stringBody? quote 0 cs).map fun r => (d :: r.1, r.2 + (xs.length + 1)) := by
  rw [List.cons_append, stringBody?, if_neg (Ne.symm hquote), if_pos rfl, h]
  dsimp only
  rw [stringBody?_skip]
  cases stringBody? quote 0 cs <;> simp [Nat.add_assoc]

/-- A control character reads back from its hexadecimal escape. -/
theorem escape?_hex {c : Char} (hc : c.toNat < 0x80) (cs : List Char) :
    escape? ('x' :: Color.hexByte (.ofNat c.toNat) ++ cs) = some (c, 3) := by
  have hbyte : (UInt8.ofNat c.toNat).toNat = c.toNat := by
    simp
    omega
  have hdigits := mapM_hexByte (.ofNat c.toNat)
  rw [hbyte] at hdigits
  have hvalid : c.toNat.isValidChar := .inl (by omega)
  have hchar : hexEscape? 2 (Color.hexByte (.ofNat c.toNat) ++ cs) = some c := by
    have htake : (Color.hexByte (.ofNat c.toNat) ++ cs).take 2 = Color.hexByte (.ofNat c.toNat) := rfl
    rw [hexEscape?, htake, if_pos (show (Color.hexByte _).length = 2 from rfl), hdigits,
      Option.bind_some]
    have hvalue : [c.toNat / 16, c.toNat % 16].foldl (fun n d => 16 * n + d) 0 = c.toNat := by
      simp only [List.foldl_cons, List.foldl_nil]
      omega
    rw [hvalue, charOfCode?, if_pos hvalid, Char.ofNat_toNat]
  rw [List.cons_append, escape?]
  simp [hchar]

/-- **One character of a literal** reads back, whatever follows it. -/
theorem stringBody?_escapeChar {quote : Char} (hquote : quote = '\'' ∨ quote = '"') (c : Char)
    (cs : List Char) :
    stringBody? quote 0 (Text.escapeChar quote c ++ cs) =
      (stringBody? quote 0 cs).map fun r =>
        (c :: r.1, r.2 + (Text.escapeChar quote c).length) := by
  have hback : quote ≠ '\\' := by rcases hquote with rfl | rfl <;> decide
  -- the named escapes, the quote itself, the control characters, and all others as they are
  unfold Text.escapeChar
  split
  · next hc => subst hc; exact stringBody?_escape ['\\'] hback rfl
  split
  · next hc => subst hc; exact stringBody?_escape ['n'] hback rfl
  split
  · next hc => subst hc; exact stringBody?_escape ['r'] hback rfl
  split
  · next hc => subst hc; exact stringBody?_escape ['t'] hback rfl
  split
  · next hc =>
    subst hc
    refine stringBody?_escape [c] hback ?_
    rcases hquote with rfl | rfl <;> rfl
  split
  · next hc =>
    exact stringBody?_escape ('x' :: Color.hexByte (.ofNat c.toNat)) hback
      (escape?_hex (by omega) cs)
  · next hback' hnewline _ _ hne _ =>
    rw [List.singleton_append, stringBody?, if_neg hne, if_neg hback', if_neg hnewline]
    rfl

/-- The body of a literal reads back up to its closing quote. -/
theorem stringBody?_flatMap {quote : Char} (hquote : quote = '\'' ∨ quote = '"')
    (cs rest : List Char) :
    stringBody? quote 0 (cs.flatMap (Text.escapeChar quote) ++ quote :: rest) =
      some (cs, (cs.flatMap (Text.escapeChar quote)).length + 1) := by
  induction cs with
  | nil => rw [List.flatMap_nil, List.nil_append, stringBody?, if_pos rfl]; rfl
  | cons c cs ih =>
    rw [List.flatMap_cons, List.append_assoc, stringBody?_escapeChar hquote, ih, Option.map_some,
      List.length_append]
    simp only [Option.some.injEq, Prod.mk.injEq, true_and]
    omega

/-- **A text between quotes** stands as the string that it denotes. -/
theorem stands_str (value : String) (rest : List Char) :
    (Token.str value).Stands (Text.stringLiteral value).toList rest := by
  have hquote : Text.quoteFor value.toList = '\'' ∨ Text.quoteFor value.toList = '"' := by
    unfold Text.quoteFor
    split
    · exact .inr rfl
    · exact .inl rfl
  rw [Text.stringLiteral, String.toList_ofList]
  refine ⟨by simp, ?_, ?_⟩
  · rintro c ⟨⟩
    rcases hquote with h | h <;> rw [h] <;> decide
  · have hbody := stringBody?_flatMap hquote value.toList rest
    have hident : Text.isIdentStart (Text.quoteFor value.toList) = false := by
      rcases hquote with h | h <;> rw [h] <;> decide
    rw [List.cons_append, List.cons_append, List.append_assoc, List.singleton_append, atFront?,
      word?_eq_none _ hident, string?, if_pos hquote, hbody]
    simp

/-! ### Colors and dates -/

/-- **A color** stands as such in front of what closes it. -/
theorem stands_color (value : Color) {rest : List Char} (hrest : Closed rest) :
    (Token.color value.literal).Stands value.literal.toList rest := by
  obtain ⟨ds, hds, hliteral⟩ : ∃ ds, (∀ c ∈ ds, c.isAlphanum = true) ∧
      value.literal = String.ofList ('#' :: ds) := by
    refine ⟨Color.hexByte value.red ++ (Color.hexByte value.green ++ (Color.hexByte value.blue ++
      (if value.alpha = 255 then [] else Color.hexByte value.alpha))), ?_, by simp [Color.literal]⟩
    intro c hc
    simp only [List.mem_append] at hc
    rcases hc with hc | hc | hc | hc
    · exact (isAlphanum_of_mem_hexByte hc).1
    · exact (isAlphanum_of_mem_hexByte hc).1
    · exact (isAlphanum_of_mem_hexByte hc).1
    · split at hc
      · cases hc
      · exact (isAlphanum_of_mem_hexByte hc).1
  -- the digits end where the literal does
  have htake : (ds ++ rest).takeWhile Char.isAlphanum = ds := by
    rw [List.takeWhile_append_of_pos hds]
    cases rest with
    | nil => simp
    | cons c cs => simp [hrest.not_numeral.2]
  rw [hliteral, String.toList_ofList]
  refine ⟨by simp, by rintro c ⟨⟩; decide, ?_⟩
  rw [List.cons_append, atFront?, word?_eq_none _ (by decide),
    string?_eq_none _ (by decide) (by decide), number?_eq_none _ (by decide),
    date?_eq_none _ (by decide), color?, htake]
  rfl

/-- **What stands inside `@(…)`** is read up to the closing parenthesis. -/
theorem stands_date {inner : List Char} (hinner : ∀ c ∈ inner, c ≠ ')') (rest : List Char) :
    (Token.date (String.ofList inner)).Stands ('@' :: '(' :: inner ++ [')']) rest := by
  have htake : (inner ++ ')' :: rest).takeWhile (· ≠ ')') = inner := by
    rw [List.takeWhile_append_of_pos (by simpa using hinner)]
    simp
  refine ⟨by simp, by rintro c ⟨⟩; decide, ?_⟩
  have hdate : date? ('@' :: '(' :: (inner ++ ')' :: rest)) =
      some (.date (String.ofList inner), inner.length + 3) := by
    simp only [date?, htake]
    rw [if_pos (by simp)]
  rw [List.append_assoc, List.singleton_append, List.cons_append, List.cons_append, atFront?,
    word?_eq_none _ (by decide), string?_eq_none _ (by decide) (by decide),
    number?_eq_none _ (by decide), hdate]
  simp

end Token

namespace Literal

/-- **A color reads back** from its literal. -/
theorem ofColor_literal (value : Color) : ofColor value.literal = .color value := by
  obtain ⟨red, green, blue, alpha⟩ := value
  have hbyte : ∀ b : UInt8, UInt8.ofNat (16 * (b.toNat / 16) + b.toNat % 16) = b := by
    intro b
    rw [Nat.div_add_mod, UInt8.ofNat_toNat]
  have hdrop : ∀ ds : List Char, (∀ c ∈ ds.head?, c ≠ '#') →
      ('#' :: ds).dropWhile (· = '#') = ds := by
    intro ds hds
    cases ds with
    | nil => rfl
    | cons c cs => simp [hds c rfl]
  have hfirst : ∀ (b : UInt8) (cs : List Char), ∀ c ∈ (Color.hexByte b ++ cs).head?, c ≠ '#' := by
    rintro b cs c ⟨⟩
    exact (isAlphanum_of_mem_hexByte (b := b) (by simp [Color.hexByte])).2
  -- an opaque color has six digits, any other has eight
  have hread : Color.ofDigits? (Color.hexByte red ++ (Color.hexByte green ++ (Color.hexByte blue ++
      (if alpha = 255 then [] else Color.hexByte alpha)))) = some ⟨red, green, blue, alpha⟩ := by
    split
    · next halpha =>
      simp [Color.ofDigits?, List.mapM_append, mapM_hexByte, hbyte, halpha]
    · simp [Color.ofDigits?, List.mapM_append, mapM_hexByte, hbyte]
  rw [ofColor, Color.literal, String.toList_ofList]
  simp only [List.cons_append, List.append_assoc]
  rw [hdrop _ (hfirst red _), hread]

/-- **A date reads back** from its literal. -/
theorem ofDate_write (value : Calendar.Date) :
    ofDate (String.ofList value.write) = .date value := by
  have hnot : value.write.contains 'T' = false := by
    rw [List.contains_eq_mem, decide_eq_false_iff_not]
    intro hmem
    rcases Calendar.mem_write_date hmem with h | h | h <;> revert h <;> decide
  rw [ofDate, String.toList_ofList, hnot, if_neg (by decide), Calendar.readDate?_write]

/-- **A moment to the second reads back** from its literal. -/
theorem ofDate_write_dateTime (value : Calendar.DateTime) :
    ofDate (String.ofList (value.wholeSecond.write 'T')) = .dateTime value.wholeSecond := by
  have hmem : (value.wholeSecond.write 'T').contains 'T' = true := by
    simp [Calendar.DateTime.write]
  rw [ofDate, String.toList_ofList, hmem, if_pos rfl, Calendar.readDateTime?_write]

end Literal

/-! ### Constants -/

/-- The constant is written as a literal of its own. -/
def Constant.IsLiteral : Constant → Prop
  | .int value => 0 ≤ value
  | .number _ | .clob _ => False
  | .dateTime value => value.wholeSecond = value
  | _ => True

/-- An integer is written as a minus, if it is negative, and the digits of its magnitude. -/
theorem toList_toString (v : Int64) :
    (toString v).toList = (if v < 0 then ['-'] else []) ++ Nat.toDigits 10 v.toInt.natAbs := by
  have hneg : v < 0 ↔ v.toInt < 0 := Int64.lt_iff_toInt_lt
  show (toString v.toInt).toList = _
  cases hv : v.toInt with
  | ofNat n =>
    rw [if_neg (by rw [hneg, hv]; exact Int.not_lt.mpr (Int.natCast_nonneg n))]
    show (toString n).toList = _
    simp
  | negSucc n =>
    rw [if_pos (by rw [hneg, hv]; omega)]
    show ("-" ++ toString (n + 1)).toList = _
    simp

/-- The integer is written as the digits of its value. -/
theorem exists_toString_eq {value : Int64} (h : 0 ≤ value) :
    ∃ n : Nat, n < 0x8000000000000000 ∧ value = .ofNat n ∧
      toString value = String.ofList (Nat.toDigits 10 n) := by
  have hnonneg : 0 ≤ value.toInt := Int64.le_iff_toInt_le.mp h
  have hlt : value.toInt < 2 ^ 63 := value.toInt_lt
  obtain ⟨n, hn⟩ := Int.eq_ofNat_of_zero_le hnonneg
  refine ⟨n, by omega, ?_, ?_⟩
  · rw [← Int64.ofInt_toInt value, hn]
    rfl
  · show toString value.toInt = _
    rw [hn, ← Nat.toString_eq_ofList_toDigits]
    rfl

/-- **The literal of a constant** is one token, and the token resolves to the constant. -/
theorem exists_stands_literal {value : Constant} (h : value.IsLiteral) :
    ∃ (token : Token) (lit : Literal),
      (∀ rest, Token.Closed rest → token.Stands value.literal.toList rest) ∧
      token.literal? = some lit ∧
      ∀ (text : List Char) (span : Span),
        Expr.resolveConst text span lit = Expr.build text span (.const value) [] [] := by
  cases value with
  | none =>
    exact ⟨.keyword .noneValue, .none, fun _ => Token.stands_keyword .noneValue, rfl,
      fun _ _ => rfl⟩
  | bool value =>
    cases value with
    | true =>
      exact ⟨.keyword .trueValue, .bool true, fun _ => Token.stands_keyword .trueValue, rfl,
        fun _ _ => rfl⟩
    | false =>
      exact ⟨.keyword .falseValue, .bool false, fun _ => Token.stands_keyword .falseValue, rfl,
        fun _ _ => rfl⟩
  | int value =>
    -- an integer is literal if it is not negative, so it is written in digits alone
    obtain ⟨n, hn, rfl, hwrite⟩ := exists_toString_eq h
    refine ⟨.int (String.ofList (Nat.toDigits 10 n)), .int (.ofNat n), fun rest hrest => ?_,
      congrArg some (Literal.ofInt_toDigits hn), fun _ _ => rfl⟩
    rw [Constant.literal, hwrite, String.toList_ofList]
    exact Token.stands_int
      (fun c hc => Nat.isDigit_of_mem_toDigits (by decide) (by decide) hc) Nat.toDigits_ne_nil hrest
  | number value | clob value => cases h
  | str value =>
    exact ⟨.str value, .str value, fun rest _ => Token.stands_str value rest, rfl, fun _ _ => rfl⟩
  | color value =>
    exact ⟨.color value.literal, .color value, fun _ => Token.stands_color value,
      congrArg some (Literal.ofColor_literal value), fun _ _ => rfl⟩
  | date value =>
    refine ⟨.date (String.ofList value.write), .date value, fun rest _ => ?_,
      congrArg some (Literal.ofDate_write value), fun _ _ => rfl⟩
    -- the parenthesis that ends the literal is not inside it
    have hinner : ∀ c ∈ value.write, c ≠ ')' := by
      rintro c hc rfl
      rcases Calendar.mem_write_date hc with h | h | h <;> revert h <;> decide
    simpa [Constant.literal] using Token.stands_date hinner rest
  | dateTime value =>
    -- fractions of a second cannot be written
    have hwhole : value.wholeSecond = value := h
    have hread := Literal.ofDate_write_dateTime value
    rw [hwhole] at hread
    refine ⟨.date (String.ofList (value.write 'T')), .dateTime value, fun rest _ => ?_,
      congrArg some hread, fun text span => ?_⟩
    · have hinner : ∀ c ∈ value.write 'T', c ≠ ')' := by
        rintro c hc rfl
        rcases Calendar.mem_write_dateTime hc with h | h | h | h | h <;> revert h <;> decide
      simpa [Constant.literal] using Token.stands_date hinner rest
    · rw [Expr.resolveConst, hwhole]

end QueryExpr
