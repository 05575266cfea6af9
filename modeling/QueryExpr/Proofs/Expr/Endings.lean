import QueryExpr.Proofs.Expr.Recognition
import QueryExpr.Proofs.Token.Segmentation

/-!
# No expression ends in a colon and a name

A colon in an expression stands between the bounds of a slice, or it is a character of a string or of a
date. A slice is closed by a bracket, a string by a quote and a date by a parenthesis, so behind the
last colon of an expression there is more than a name.

On the side of the grammar this is an induction on the derivation: each form ends in a bracket, or in
its last part, and in front of that part there is no colon (`Derives.not_suffix`). On the side of the
characters a colon with a name behind it belongs to no other token (`Token.eq_colon_of_atFront?`), so it
is scanned to these two tokens whatever comes before it (`Token.exists_tokens_of_scanFrom`).
-/

namespace QueryExpr

/-! ### The last tokens of a phrase -/

/-- The token is neither a colon nor a name. -/
def Token.isPlain : Token → Bool
  | .symbol .colon | .ident _ => false
  | _ => true

/-- A colon and a name at the end of some tokens stand behind every token that is neither. -/
theorem suffix_of_suffix_append_cons {name : String} {t : Token} {xs ys : List Token}
    (ht : t.isPlain = true) (h : [.symbol .colon, .ident name] <:+ xs ++ t :: ys) :
    [.symbol .colon, .ident name] <:+ ys := by
  have hcolon : t ≠ .symbol .colon := by
    rintro rfl
    cases ht
  have hname : t ≠ .ident name := by
    rintro rfl
    cases ht
  rcases List.suffix_or_suffix_of_suffix h (List.suffix_append xs (t :: ys)) with h | h
  · rcases List.suffix_cons_iff.mp h with heq | h
    · exact absurd (List.cons.inj heq).1.symm hcolon
    · exact h
  · -- what begins with the token would be an end of the colon and the name
    rcases List.suffix_cons_iff.mp h with heq | h
    · exact absurd (List.cons.inj heq).1 hcolon
    · rcases List.suffix_cons_iff.mp h with heq | h
      · exact absurd (List.cons.inj heq).1 hname
      · exact absurd (List.suffix_nil.mp h) (List.cons_ne_nil t ys)

/-- An operator between its operands ends in a sign or a reserved word. -/
theorem BinaryOp.exists_tokens_eq {op : BinaryOp} (h : op ≠ .item) :
    ∃ ws t, op.tokens = ws ++ [t] ∧ t.isPlain = true := by
  cases op with
  | item => exact absurd rfl h
  | notContains => exact ⟨[.keyword .not], .keyword .inside, rfl, rfl⟩
  | isNot => exact ⟨[.keyword .is], .keyword .not, rfl, rfl⟩
  | _ => exact ⟨[], _, rfl, rfl⟩

/-- **No phrase ends in a colon and a name.** -/
theorem Derives.not_suffix {layer : Layer} {ts : List Token} {e : Expr} (h : Derives layer ts e)
    (name : String) : ¬ [.symbol .colon, .ident name] <:+ ts := by
  -- a closing bracket or a point leaves too few tokens behind it
  have hclosed : ∀ {xs ys : List Token} {t : Token}, t.isPlain = true → ys.length < 2 →
      ¬ [.symbol .colon, .ident name] <:+ xs ++ t :: ys := by
    intro xs ys t ht hlength hsuffix
    exact absurd (suffix_of_suffix_append_cons ht hsuffix).length_le (Nat.not_le.mpr hlength)
  have hsingle : ∀ t : Token, ¬ [.symbol .colon, .ident name] <:+ [t] :=
    fun t hsuffix => absurd hsuffix.length_le (Nat.not_succ_le_self 1)
  induction h with
  | tighter h part ih => exact ih
  | cond part part' part'' ih ih' ih'' =>
    intro hsuffix
    exact ih'' (suffix_of_suffix_append_cons rfl (suffix_of_suffix_append_cons rfl hsuffix))
  | @binary _ _ op ts ts' _ _ hop h part part' ih ih' =>
    obtain ⟨ws, t, htokens, ht⟩ := BinaryOp.exists_tokens_eq (Layer.level_of_mem_operators hop).2
    intro hsuffix
    have heq : ts ++ (op.tokens ++ ts') = (ts ++ ws) ++ t :: ts' := by simp [htokens]
    rw [heq] at hsuffix
    exact ih' (suffix_of_suffix_append_cons ht hsuffix)
  | @unary _ op ts _ hop part ih =>
    have ht : op.token.isPlain = true := by cases op <;> rfl
    intro hsuffix
    rw [← List.nil_append (op.token :: ts)] at hsuffix
    exact ih (suffix_of_suffix_append_cons ht hsuffix)
  | attr name part ih => exact hclosed rfl (Nat.lt_succ_self 1)
  | call part parts h ih ihs | item part part' ih ih' =>
    rw [← List.cons_append, ← List.append_assoc]
    exact hclosed rfl Nat.two_pos
  | slice part parts parts' ih ihs ihs' =>
    rw [← List.append_assoc, ← List.cons_append, ← List.append_assoc]
    exact hclosed rfl Nat.two_pos
  | literal h => exact hsingle _
  | name n => exact hsingle _
  | emptySet =>
    show ¬ _ <:+ [Token.symbol .lbrace, .symbol .slash] ++ [.symbol .rbrace]
    exact hclosed rfl Nat.two_pos
  | paren part ih | list parts h ihs | set hne parts h ihs =>
    rw [← List.cons_append]
    exact hclosed rfl Nat.two_pos

/-! ### A colon among the characters of a token -/

namespace Token

variable {token : Token} {cs : List Char} {n : Nat}

/-- The colon is no character of a run of other characters. -/
theorem colon_not_mem_takeWhile {p : Char → Bool} (hp : p ':' = false) (cs : List Char) :
    ':' ∉ cs.take (cs.takeWhile p).length := by
  rw [← List.prefix_iff_eq_take.mp (List.takeWhile_prefix p)]
  intro hmem
  rw [List.all_eq_true.mp List.all_takeWhile ':' hmem] at hp
  cases hp

theorem colon_not_mem_digitRun (cs : List Char) : ':' ∉ cs.take (digitRun cs) :=
  colon_not_mem_takeWhile (by decide) cs

theorem colon_not_mem_radixLength (cs : List Char) : ':' ∉ cs.take (radixLength cs) := by
  unfold radixLength
  split
  · next mark digits =>
    dsimp only
    split
    · next hmark =>
      have hrun := colon_not_mem_takeWhile (p := Text.isHexDigit) (by decide) digits
      have hne : ':' ≠ mark := by
        rintro rfl
        exact absurd hmark.1 (by decide)
      rw [Nat.add_comm 2]
      simp [hrun, hne]
    · simp
  · simp

theorem colon_not_mem_fractionLength (cs : List Char) : ':' ∉ cs.take (fractionLength cs) := by
  unfold fractionLength
  split
  · next digits =>
    split
    · simp
    · rw [Nat.add_comm]
      simp [colon_not_mem_digitRun digits]
  · simp

theorem colon_not_mem_exponentLength (cs : List Char) : ':' ∉ cs.take (exponentLength cs) := by
  unfold exponentLength
  split
  · simp
  · next e cs =>
    split
    · next he =>
      have hne : ':' ≠ e := by
        rintro rfl
        exact absurd he (by decide)
      split
      · simp
      · next s ds =>
        split
        · next hs =>
          have hne' : ':' ≠ s := by
            rintro rfl
            exact absurd hs (by decide)
          split
          · simp
          · rw [Nat.add_comm]
            simp [hne, hne', colon_not_mem_digitRun ds]
        · split
          · simp
          · rw [Nat.add_comm]
            simp only [List.take_succ_cons, List.mem_cons, not_or]
            exact ⟨hne, colon_not_mem_digitRun (s :: ds)⟩
    · simp

/-- No number has a colon in it. -/
theorem colon_not_mem_of_number? (h : number? cs = some (token, n)) : ':' ∉ cs.take n := by
  rcases number?_cases h with ⟨rfl, -, -⟩ | ⟨whole, fraction, -, rfl, -, rfl, rfl, -⟩
  · exact colon_not_mem_radixLength cs
  · rw [List.take_add, List.take_add, List.mem_append, List.mem_append, not_or, not_or]
    exact ⟨⟨colon_not_mem_digitRun cs, colon_not_mem_fractionLength _⟩,
      colon_not_mem_exponentLength _⟩

/-- No color has a colon in it. -/
theorem colon_not_mem_of_color? (h : color? cs = some (token, n)) : ':' ∉ cs.take n := by
  obtain ⟨digits, rfl, -, rfl⟩ := color?_cases h
  simp [colon_not_mem_takeWhile (p := Char.isAlphanum) (by decide) digits]

/-- No name has a colon in it. -/
theorem colon_not_mem_of_isIdentifier {word : List Char} (h : isIdentifier word = true) :
    ':' ∉ word := by
  cases word with
  | nil => exact List.not_mem_nil
  | cons c cs =>
    obtain ⟨hc, hcs⟩ := Bool.and_eq_true_iff.mp h
    intro hmem
    rcases List.mem_cons.mp hmem with rfl | hmem
    · exact absurd hc (by decide)
    · exact absurd (List.all_eq_true.mp hcs ':' hmem) (by decide)

/-- The body of a string ends in its quote. -/
theorem getLast?_of_stringBody? {quote : Char} {skip : Nat} {value : List Char}
    (h : stringBody? quote skip cs = some (value, n)) : (cs.take n).getLast? = some quote := by
  induction cs generalizing skip value n with
  | nil => simp [stringBody?] at h
  | cons c cs ih =>
    rcases stringBody?_cons_cases h with ⟨-, rfl, rfl⟩ | ⟨skip', value', n', hbody, -, rfl⟩
    · rfl
    · -- a body that goes on ends where its rest does
      rw [List.take_succ_cons, List.getLast?_cons, ih hbody]
      rfl

/-- The characters that close a literal in which a colon may stand. -/
def literalEnds : List Char := ['\'', '"', ')']

/-- A string ends with its quote. -/
theorem getLast?_of_string? (h : string? cs = some (token, n)) :
    ∃ c ∈ literalEnds, (cs.take n).getLast? = some c := by
  obtain ⟨quote, tail, value, count, rfl, hquote, hbody, -, rfl⟩ := string?_cases h
  refine ⟨quote, by rcases hquote with rfl | rfl <;> decide, ?_⟩
  rw [List.take_succ_cons, List.getLast?_cons, getLast?_of_stringBody? hbody]
  rfl

/-- A date ends with its parenthesis. -/
theorem getLast?_of_date? (h : date? cs = some (token, n)) :
    ∃ c ∈ literalEnds, (cs.take n).getLast? = some c := by
  obtain ⟨tail, rfl, hlt, -, rfl⟩ := date?_cases h
  refine ⟨')', by decide, ?_⟩
  -- the run up to the parenthesis does not reach the end, so the parenthesis is there
  have hsplit := List.takeWhile_append_dropWhile (p := (· ≠ ')')) (l := tail)
  cases hrest : tail.dropWhile (· ≠ ')') with
  | nil =>
    rw [hrest, List.append_nil] at hsplit
    rw [hsplit] at hlt
    exact absurd hlt (Nat.lt_irrefl _)
  | cons c rest =>
    obtain rfl : c = ')' := by
      have hc := List.head?_dropWhile_not (· ≠ ')') tail
      rw [hrest] at hc
      simpa using hc
    rw [hrest] at hsplit
    generalize tail.takeWhile (· ≠ ')') = inner at hsplit ⊢
    subst hsplit
    have hlength : (inner ++ [')']).length = inner.length + 1 := by simp
    rw [List.append_cons, List.take_succ_cons, List.take_succ_cons, List.take_left' hlength,
      ← List.cons_append, ← List.cons_append, List.getLast?_concat]

/-- **A colon in front of what closes no literal is a token of its own.** -/
theorem eq_colon_of_atFront? {front back rest : List Char}
    (h : atFront? (front ++ ':' :: back ++ rest) = some (token, (front ++ ':' :: back).length))
    (hback : ∀ c ∈ back, c ∉ literalEnds) : front = [] ∧ back = [] ∧ token = .symbol .colon := by
  have hmem : ':' ∈ front ++ ':' :: back := by simp
  -- a literal with a colon would have to end in one of the characters behind it
  have hliteral : ¬ ∃ c ∈ literalEnds, (front ++ ':' :: back).getLast? = some c := by
    rintro ⟨c, hc, hlast⟩
    rw [List.getLast?_append_cons] at hlast
    rcases List.mem_cons.mp (List.mem_of_getLast? hlast) with rfl | hmem
    · exact absurd hc (by decide)
    · exact hback c hmem hc
  rcases atFront?_cases h with ⟨hident, hlength, -⟩ | h | h | h | h | ⟨s, hs, rfl, hlength⟩
  · have hword := isIdentifier_take hident
    rw [← hlength, List.take_left] at hword
    exact absurd hmem (colon_not_mem_of_isIdentifier hword)
  · have hlast := getLast?_of_string? h
    rw [List.take_left] at hlast
    exact absurd hlast hliteral
  · have hcolon := colon_not_mem_of_number? h
    rw [List.take_left] at hcolon
    exact absurd hmem hcolon
  · have hlast := getLast?_of_date? h
    rw [List.take_left] at hlast
    exact absurd hlast hliteral
  · have hcolon := colon_not_mem_of_color? h
    rw [List.take_left] at hcolon
    exact absurd hmem hcolon
  · have hchars : s.chars = front ++ ':' :: back := by
      have hprefix := isPrefix_of_symbolAtFront? hs
      rw [List.prefix_iff_eq_take, ← hlength, List.take_left] at hprefix
      exact hprefix
    obtain rfl : s = .colon := by
      rw [← hchars] at hmem
      revert hmem
      cases s <;> decide
    obtain ⟨rfl, hrest⟩ | ⟨tail, rfl, hrest⟩ := List.cons_eq_append_iff.mp hchars
    · exact ⟨rfl, (List.cons.inj hrest).2, rfl⟩
    · simp at hrest

/-! ### A colon and a name at the end of a text -/

/-- **A colon and a name at the end of a text are its last tokens.** -/
theorem exists_tokens_of_scanFrom {name : String} (hname : isName name = true) {front : List Char}
    {offset : Nat} {ls : List Lexeme}
    (h : scanFrom 0 offset (front ++ ':' :: name.toList) = .ok ls) :
    ∃ ts, ls.map Lexeme.token = ts ++ [.symbol .colon, .ident name] := by
  have hends : ∀ c ∈ name.toList, c ∉ literalEnds := by
    intro c hc hend
    exact not_mem_of_isName hname
      (Text.forall_mem_of_all (P := fun c => Text.isIdentStart c = false ∧ Text.isIdentContinue c = false)
        (by decide) c hend) hc
  -- the tokens in front are passed one by one
  induction hlength : front.length using Nat.strongRecOn generalizing front offset ls with
  | ind length ih =>
    cases front with
    | nil =>
      let pieces : List Piece := [.word (.symbol .colon) [':'], .word (.ident name) name.toList]
      have hlegible : Piece.Legible pieces [] :=
        ⟨stands_mark (by decide) _, stands_name hname trivial, trivial⟩
      have hscan := Piece.scanFrom_text hlegible offset
      have htext : Piece.text pieces ++ [] = [] ++ ':' :: name.toList := by simp [pieces, Piece.chars]
      rw [htext, h] at hscan
      obtain rfl := Except.ok.inj hscan
      exact ⟨[], rfl⟩
    | cons c front =>
      by_cases hblank : Text.isBlank c = true
      · rw [List.cons_append, scanFrom_blank hblank] at h
        exact ih front.length (by rw [← hlength]; exact Nat.lt_succ_self _) h rfl
      · rw [List.cons_append] at h
        obtain ⟨token, word, rest, ls', htext, hne, hfront, hscan, rfl⟩ := exists_of_scanFrom_token hblank h
        rw [← List.cons_append] at htext
        rcases List.append_eq_append_iff.mp htext with ⟨inside, hword, hinside⟩ | ⟨front', hcut, rfl⟩
        · cases inside with
          | nil =>
            rw [List.nil_append] at hinside
            rw [← hinside, ← List.nil_append (':' :: _)] at hscan
            obtain ⟨ts, hts⟩ := ih 0 (by rw [← hlength]; exact Nat.succ_pos _) hscan rfl
            exact ⟨token :: ts, by rw [List.map_cons, hts, List.cons_append]⟩
          | cons d inside =>
            -- the colon lies inside the token, which is then nothing but the colon
            obtain ⟨rfl, hback⟩ := List.cons.inj hinside
            subst hword
            have hcolon := eq_colon_of_atFront? hfront fun e he =>
              hends e (hback ▸ List.mem_append_left rest he)
            cases hcolon.1
        · obtain ⟨ts, hts⟩ := ih front'.length (by
            have hlt := congrArg List.length hcut
            have hpos := List.length_pos_iff.mpr hne
            rw [List.length_append, hlength] at hlt
            omega) hscan rfl
          exact ⟨token :: ts, by rw [List.map_cons, hts, List.cons_append]⟩

end Token

/-- **No expression ends in a colon and a name.** -/
theorem Expr.ne_of_parse {source : String} {e : Expr} (h : parse source = .ok e) {name : String}
    (hname : Token.isName name = true) (front : List Char) :
    source.toList ≠ front ++ ':' :: name.toList := by
  intro hsource
  rw [parse] at h
  split at h
  · cases h
  · next ls hscan =>
    rw [Token.scan, hsource] at hscan
    obtain ⟨ts, hts⟩ := Token.exists_tokens_of_scanFrom hname hscan
    have hderives := derives_of_ofTokens h
    rw [hts] at hderives
    exact hderives.not_suffix name (List.suffix_append ts _)

end QueryExpr
