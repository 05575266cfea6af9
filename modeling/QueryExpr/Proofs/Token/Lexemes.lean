import QueryExpr.Token.Scan
import QueryExpr.Proofs.Text.Slices

/-!
# What a scan finds

`Token.scan` walks through a text character by character and counts off the characters that a token
has left. What each recogniser finds at the front is said once (`string?_cases` and the like), and
`atFront?_cases` puts them together. The walk is restated from token to token: `scanFrom_skip` jumps
over the rest of a token at once, so a scan passes over a blank (`scanFrom_blank`) or over a whole
token (`scanFrom_token`).

`Token.Spells token word` says that the characters of `word` are a spelling of the token, and
`Lexes text p ls` that from offset `p` on the text consists of the tokens `ls` with white space
between them: each token's slice spells it. `lexes_of_scan` is what every later argument about
positions starts from.
-/

namespace QueryExpr
namespace Token

/-! ### What is found at the front -/

section Forms

variable {cs : List Char} {token : Token} {n : Nat}

/-- The body of a string ends with its quote, or goes on behind the first character. -/
theorem stringBody?_cons_cases {quote c : Char} {skip : Nat} {value : List Char}
    (h : stringBody? quote skip (c :: cs) = some (value, n)) :
    (skip = 0 ∧ c = quote ∧ n = 1) ∨
      ∃ skip' value' n', stringBody? quote skip' cs = some (value', n') ∧ skip ≤ skip' + 1 ∧
        n = n' + 1 := by
  -- every branch that goes on counts one character more than the rest of the body has
  have hnext : ∀ (skip' : Nat) (f : List Char → List Char), skip ≤ skip' + 1 →
      (stringBody? quote skip' cs).map (fun r => (f r.1, r.2 + 1)) = some (value, n) →
      ∃ skip' value' n', stringBody? quote skip' cs = some (value', n') ∧ skip ≤ skip' + 1 ∧
        n = n' + 1 := by
    intro skip' f hle h
    obtain ⟨⟨value', n'⟩, hbody, heq⟩ := Option.map_eq_some_iff.mp h
    exact ⟨skip', value', n', hbody, hle, (Prod.mk.inj heq).2.symm⟩
  cases skip with
  | succ skip => exact .inr (hnext skip id (Nat.le_refl _) h)
  | zero =>
    rw [stringBody?] at h
    split at h
    · next hc => exact .inl ⟨rfl, hc, (Prod.mk.inj (Option.some.inj h)).2.symm⟩
    · split at h
      · split at h
        · cases h
        · next d m _ => exact .inr (hnext m (d :: ·) (Nat.zero_le _) h)
      · split at h
        · cases h
        · exact .inr (hnext 0 (c :: ·) (Nat.zero_le _) h)

theorem string?_cases (h : string? cs = some (token, n)) :
    ∃ quote tail value count, cs = quote :: tail ∧ (quote = '\'' ∨ quote = '"') ∧
      stringBody? quote 0 tail = some (value, count) ∧ token = .str (String.ofList value) ∧
      n = count + 1 := by
  unfold string? at h
  split at h
  · cases h
  · next quote tail =>
    split at h
    · next hquote =>
      obtain ⟨⟨value, count⟩, hbody, heq⟩ := Option.map_eq_some_iff.mp h
      cases heq
      exact ⟨quote, tail, value, count, rfl, hquote, hbody, rfl, rfl⟩
    · cases h

/-- A number has a radix mark, or it is a run of digits with a fraction and an exponent, each of which
may be missing. -/
theorem number?_cases (h : number? cs = some (token, n)) :
    (radixLength cs = n ∧ n ≠ 0 ∧ token = .int (String.ofList (cs.take n))) ∨
      ∃ whole fraction, radixLength cs = 0 ∧ digitRun cs = whole ∧ whole ≠ 0 ∧
        fractionLength (cs.drop whole) = fraction ∧
        n = whole + fraction + exponentLength (cs.drop (whole + fraction)) ∧
        token = if n = whole then .int (String.ofList (cs.take n))
          else .float (String.ofList (cs.take n)) := by
  unfold number? at h
  split at h
  · next hradix =>
    simp only [Option.some.injEq, Prod.mk.injEq] at h
    obtain ⟨rfl, rfl⟩ := h
    exact .inl ⟨rfl, hradix, rfl⟩
  · next hradix =>
    split at h
    · cases h
    · next hwhole =>
      refine .inr ⟨_, _, by omega, rfl, hwhole, rfl, ?_⟩
      dsimp only at h
      split at h
      · next hzero =>
        simp only [Option.some.injEq, Prod.mk.injEq] at h
        obtain ⟨rfl, rfl⟩ := h
        exact ⟨rfl, by rw [if_pos (by omega)]⟩
      · next hnonzero =>
        simp only [Option.some.injEq, Prod.mk.injEq] at h
        obtain ⟨rfl, rfl⟩ := h
        exact ⟨rfl, by rw [if_neg (by omega)]⟩

theorem date?_cases (h : date? cs = some (token, n)) :
    ∃ tail, cs = '@' :: '(' :: tail ∧ (tail.takeWhile (· ≠ ')')).length < tail.length ∧
      token = .date (String.ofList (tail.takeWhile (· ≠ ')'))) ∧
      n = (tail.takeWhile (· ≠ ')')).length + 3 := by
  unfold date? at h
  split at h
  · next tail =>
    dsimp only at h
    split at h
    · next hlt =>
      cases h
      exact ⟨tail, rfl, hlt, rfl, rfl⟩
    · cases h
  · cases h

theorem color?_cases (h : color? cs = some (token, n)) :
    ∃ tail, cs = '#' :: tail ∧
      token = .color (String.ofList ('#' :: tail.takeWhile Char.isAlphanum)) ∧
      n = (tail.takeWhile Char.isAlphanum).length + 1 := by
  unfold color? at h
  split at h
  · next tail =>
    cases h
    exact ⟨tail, rfl, rfl, rfl⟩
  · cases h

end Forms

/-! ### No token is longer than the text -/

private theorem length_takeWhile_le (p : Char → Bool) (cs : List Char) :
    (cs.takeWhile p).length ≤ cs.length :=
  (List.takeWhile_sublist p).length_le

theorem identLength_le (cs : List Char) : identLength cs ≤ cs.length := by
  cases cs with
  | nil => exact Nat.le_refl 0
  | cons c cs =>
    have hle := length_takeWhile_le Text.isIdentContinue cs
    rw [identLength, List.length_cons]
    split <;> omega

theorem digitRun_le (cs : List Char) : digitRun cs ≤ cs.length := length_takeWhile_le isAsciiDigit cs

theorem radixLength_le (cs : List Char) : radixLength cs ≤ cs.length := by
  unfold radixLength
  split
  · next mark cs =>
    have hle := length_takeWhile_le Text.isHexDigit cs
    simp only [List.length_cons]
    split <;> omega
  · exact Nat.zero_le _

theorem fractionLength_le (cs : List Char) : fractionLength cs ≤ cs.length := by
  unfold fractionLength
  split
  · next cs =>
    have hle := digitRun_le cs
    rw [List.length_cons]
    split <;> omega
  · exact Nat.zero_le _

theorem exponentLength_le (cs : List Char) : exponentLength cs ≤ cs.length := by
  unfold exponentLength
  split
  · exact Nat.le_refl _
  · next e cs =>
    split
    · split
      · exact Nat.zero_le _
      · next s ds =>
        have hds := digitRun_le ds
        have hcs := digitRun_le (s :: ds)
        simp only [List.length_cons] at hcs ⊢
        split
        · split <;> omega
        · split <;> omega
    · exact Nat.zero_le _

theorem stringBody?_le {quote : Char} {skip n : Nat} {cs value : List Char}
    (h : stringBody? quote skip cs = some (value, n)) : n ≤ cs.length := by
  induction cs generalizing skip value n with
  | nil => simp [stringBody?] at h
  | cons c cs ih =>
    rw [List.length_cons]
    rcases stringBody?_cons_cases h with ⟨-, -, rfl⟩ | ⟨skip', value', n', hbody, -, rfl⟩
    · omega
    · exact Nat.succ_le_succ (ih hbody)

theorem number?_le {cs : List Char} {token : Token} {n : Nat} (h : number? cs = some (token, n)) :
    n ≤ cs.length := by
  rcases number?_cases h with ⟨rfl, -, -⟩ | ⟨whole, fraction, -, rfl, -, rfl, rfl, -⟩
  · exact radixLength_le cs
  · -- each part is no longer than what is left of the text when it is read
    have hwhole := digitRun_le cs
    have hfraction := fractionLength_le (cs.drop (digitRun cs))
    have hexponent := exponentLength_le
      (cs.drop (digitRun cs + fractionLength (cs.drop (digitRun cs))))
    simp only [List.length_drop] at hfraction hexponent
    omega

theorem date?_le {cs : List Char} {token : Token} {n : Nat} (h : date? cs = some (token, n)) :
    n ≤ cs.length := by
  obtain ⟨tail, rfl, hlt, -, rfl⟩ := date?_cases h
  simp only [List.length_cons]
  omega

theorem color?_le {cs : List Char} {token : Token} {n : Nat} (h : color? cs = some (token, n)) :
    n ≤ cs.length := by
  obtain ⟨tail, rfl, -, rfl⟩ := color?_cases h
  exact Nat.succ_le_succ (length_takeWhile_le Char.isAlphanum tail)

theorem string?_le {cs : List Char} {token : Token} {n : Nat} (h : string? cs = some (token, n)) :
    n ≤ cs.length := by
  obtain ⟨quote, tail, value, count, rfl, -, hbody, -, rfl⟩ := string?_cases h
  exact Nat.succ_le_succ (stringBody?_le hbody)

/-- The sign at the front is spelled there. -/
theorem isPrefix_of_symbolAtFront? {cs : List Char} {s : Symbol} (h : Symbol.atFront? cs = some s) :
    s.chars <+: cs :=
  List.isPrefixOf_iff_prefix.mp (by simpa using List.find?_some h)

/-- The sources of a token at the front, one for each form that tokens have. -/
theorem atFront?_cases {cs : List Char} {token : Token} {n : Nat}
    (h : atFront? cs = some (token, n)) :
    (identLength cs ≠ 0 ∧ n = identLength cs ∧ token = .ofWord (String.ofList (cs.take n))) ∨
      string? cs = some (token, n) ∨ number? cs = some (token, n) ∨ date? cs = some (token, n) ∨
      color? cs = some (token, n) ∨
      ∃ s, Symbol.atFront? cs = some s ∧ token = .symbol s ∧ n = s.chars.length := by
  -- the recognisers are tried in this order, and the first one that answers decides
  unfold atFront? at h
  rcases Option.or_eq_some_iff.mp h with h | ⟨-, h⟩
  · unfold word? at h
    split at h
    · cases h
    · next hne =>
      simp only [Option.some.injEq, Prod.mk.injEq] at h
      obtain ⟨rfl, rfl⟩ := h
      exact .inl ⟨hne, rfl, rfl⟩
  right
  rcases Option.or_eq_some_iff.mp h with h | ⟨-, h⟩
  · exact .inl h
  right
  rcases Option.or_eq_some_iff.mp h with h | ⟨-, h⟩
  · exact .inl h
  right
  rcases Option.or_eq_some_iff.mp h with h | ⟨-, h⟩
  · exact .inl h
  right
  rcases Option.or_eq_some_iff.mp h with h | ⟨-, h⟩
  · exact .inl h
  right
  obtain ⟨s, hs, heq⟩ := Option.map_eq_some_iff.mp h
  obtain ⟨rfl, rfl⟩ := Prod.mk.inj heq
  exact ⟨s, hs, rfl, rfl⟩

/-- **A token is found inside the text.** -/
theorem atFront?_le {cs : List Char} {token : Token} {n : Nat} (h : atFront? cs = some (token, n)) :
    n ≤ cs.length := by
  rcases atFront?_cases h with ⟨-, hn, -⟩ | h | h | h | h | ⟨s, hs, -, hn⟩
  · rw [hn]
    exact identLength_le cs
  · exact string?_le h
  · exact number?_le h
  · exact date?_le h
  · exact color?_le h
  · rw [hn]
    exact (isPrefix_of_symbolAtFront? hs).length_le

/-! ### From token to token -/

/-- Passing over the rest of a token is jumping over it. -/
theorem scanFrom_skip (n offset : Nat) (cs : List Char) :
    scanFrom n offset cs = scanFrom 0 (offset + Text.byteLength (cs.take n)) (cs.drop n) := by
  induction cs generalizing n offset with
  | nil => cases n <;> rfl
  | cons c cs ih =>
    cases n with
    | zero => rfl
    | succ n =>
      rw [scanFrom, ih, List.take_succ_cons, List.drop_succ_cons, Text.byteLength_cons,
        Nat.add_assoc]

/-- A scan passes over a blank. -/
theorem scanFrom_blank {c : Char} (hc : Text.isBlank c = true) (offset : Nat) (cs : List Char) :
    scanFrom 0 offset (c :: cs) = scanFrom 0 (offset + c.utf8Size) cs := by
  rw [scanFrom, if_pos hc]

/-- A scan passes over a token that begins with no blank, and goes on behind it. -/
theorem scanFrom_token {token : Token} {word rest : List Char} (offset : Nat)
    (hword : ∀ c ∈ word.head?, Text.isBlank c = false) (hne : word ≠ [])
    (h : atFront? (word ++ rest) = some (token, word.length)) :
    scanFrom 0 offset (word ++ rest) =
      (scanFrom 0 (offset + Text.byteLength word) rest).map
        (⟨token, offset, offset + Text.byteLength word⟩ :: ·) := by
  cases word with
  | nil => exact absurd rfl hne
  | cons c cs =>
    have hc : ¬ Text.isBlank c = true := by simp [hword c rfl]
    have htake : (c :: (cs ++ rest)).take (cs.length + 1) = c :: cs := by
      rw [List.take_succ_cons, List.take_left]
    rw [List.cons_append, List.length_cons] at h
    -- the first character decides: it is no blank, so the token is read, and the scan skips the rest of
    -- its word
    rw [List.cons_append, scanFrom, if_neg hc, h]
    dsimp only
    rw [htake, scanFrom_skip, List.take_left, List.drop_left, Text.byteLength_cons, Nat.add_assoc]

/-- A scan that succeeds where there is no blank finds a token there. -/
theorem exists_of_scanFrom_token {c : Char} {cs : List Char} {offset : Nat} {ls : List Lexeme}
    (hc : ¬ Text.isBlank c = true) (h : scanFrom 0 offset (c :: cs) = .ok ls) :
    ∃ token word rest ls', c :: cs = word ++ rest ∧ word ≠ [] ∧
      atFront? (word ++ rest) = some (token, word.length) ∧
      scanFrom 0 (offset + Text.byteLength word) rest = .ok ls' ∧
      ls = ⟨token, offset, offset + Text.byteLength word⟩ :: ls' := by
  obtain ⟨token, n, hfront⟩ : ∃ token n, atFront? (c :: cs) = some (token, n + 1) := by
    rw [scanFrom, if_neg hc] at h
    split at h
    · next token n hfront => exact ⟨token, n, hfront⟩
    · cases h
  -- the text is cut behind the token
  obtain ⟨word, rest, hsplit, hlength⟩ : ∃ word rest, c :: cs = word ++ rest ∧
      word.length = n + 1 :=
    ⟨(c :: cs).take (n + 1), (c :: cs).drop (n + 1), (List.take_append_drop _ _).symm,
      List.length_take_of_le (atFront?_le hfront)⟩
  have hne : word ≠ [] := by
    rintro rfl
    cases hlength
  have hfirst : ∀ d ∈ word.head?, Text.isBlank d = false := by
    obtain ⟨d, ds, rfl⟩ := List.exists_cons_of_ne_nil hne
    rintro _ ⟨⟩
    rw [← (List.cons.inj hsplit).1]
    exact (Bool.not_eq_true _).mp hc
  rw [hsplit, ← hlength] at hfront
  rw [hsplit, scanFrom_token offset hfirst hne hfront] at h
  cases hscan : scanFrom 0 (offset + Text.byteLength word) rest with
  | error e => rw [hscan] at h; cases h
  | ok ls' =>
    rw [hscan] at h
    cases h
    exact ⟨token, word, rest, ls', hsplit, hne, hfront, hscan, rfl⟩

/-- The characters are a spelling of the token: it is found where they stand in front of some text. -/
def Spells (token : Token) (word : List Char) : Prop :=
  word ≠ [] ∧ ∃ rest, atFront? (word ++ rest) = some (token, word.length)

/-! ### What a spelling tells -/

/-- The characters form a name or a reserved word. -/
def isIdentifier : List Char → Bool
  | [] => false
  | c :: cs => Text.isIdentStart c && cs.all Text.isIdentContinue

/-- The text can stand as a name: it is an identifier and no reserved word. -/
def isName (name : String) : Bool :=
  isIdentifier name.toList && (Keyword.ofText? name).isNone

/-- A name has no characters other than those of names. -/
theorem not_mem_of_isName {name : String} (h : isName name = true) {c : Char}
    (hc : Text.isIdentStart c = false ∧ Text.isIdentContinue c = false) : c ∉ name.toList := by
  have hident := (Bool.and_eq_true_iff.mp h).1
  intro hmem
  cases hname : name.toList with
  | nil => rw [hname] at hmem; cases hmem
  | cons d ds =>
    rw [hname, isIdentifier, Bool.and_eq_true, List.all_eq_true] at hident
    rw [hname] at hmem
    rcases List.mem_cons.mp hmem with rfl | hmem
    · rw [hc.1] at hident
      cases hident.1
    · rw [hident.2 c hmem] at hc
      cases hc.2

/-- The characters that make up the name at the front form an identifier. -/
theorem isIdentifier_take {cs : List Char} (h : identLength cs ≠ 0) :
    isIdentifier (cs.take (identLength cs)) = true := by
  cases cs with
  | nil => exact absurd rfl h
  | cons c cs =>
    rw [identLength] at h ⊢
    split at h
    · next hc =>
      rw [if_pos hc, Nat.add_comm, List.take_succ_cons, isIdentifier, hc, Bool.true_and,
        List.all_eq_true]
      intro d hd
      rw [← List.prefix_iff_eq_take.mp (List.takeWhile_prefix Text.isIdentContinue)] at hd
      exact List.all_eq_true.mp List.all_takeWhile d hd
    · exact absurd rfl h

/-! The recogniser of each form of literal gives tokens of one form. -/

section Kinds

variable {cs : List Char} {token : Token} {n : Nat}

theorem exists_eq_int_or_float_of_number? (h : number? cs = some (token, n)) :
    ∃ text, token = .int text ∨ token = .float text := by
  rcases number?_cases h with ⟨-, -, rfl⟩ | ⟨whole, fraction, -, -, -, -, -, rfl⟩
  · -- a radix mark is for integers only
    exact ⟨_, .inl rfl⟩
  · split
    · exact ⟨_, .inl rfl⟩
    · exact ⟨_, .inr rfl⟩

/-- A literal is no name and no sign. -/
theorem literalToken (h : string? cs = some (token, n) ∨ number? cs = some (token, n) ∨
      date? cs = some (token, n) ∨ color? cs = some (token, n)) :
    (∀ name, token ≠ .ident name) ∧ ∀ s, token ≠ .symbol s := by
  rcases h with h | h | h | h
  · obtain ⟨-, -, value, -, -, -, -, rfl, -⟩ := string?_cases h
    simp
  · obtain ⟨text, rfl | rfl⟩ := exists_eq_int_or_float_of_number? h <;> simp
  · obtain ⟨tail, -, -, rfl, -⟩ := date?_cases h
    simp
  · obtain ⟨tail, -, rfl, -⟩ := color?_cases h
    simp

/-- A number at the front is found as one: no other recogniser gives numbers. -/
theorem number?_of_atFront? {text : String} (htoken : token = .int text ∨ token = .float text)
    (h : atFront? cs = some (token, n)) : number? cs = some (token, n) := by
  rcases atFront?_cases h with ⟨-, -, hword⟩ | h | h | h | h | ⟨s, -, rfl, -⟩
  · unfold ofWord at hword
    split at hword <;> simp [hword] at htoken
  · obtain ⟨-, -, value, -, -, -, -, rfl, -⟩ := string?_cases h
    simp at htoken
  · exact h
  · obtain ⟨tail, -, -, rfl, -⟩ := date?_cases h
    simp at htoken
  · obtain ⟨tail, -, rfl, -⟩ := color?_cases h
    simp at htoken
  · simp at htoken

end Kinds

/-- A sign is spelled by its own characters. -/
theorem Spells.symbol {s : Symbol} {word : List Char} (h : (Token.symbol s).Spells word) :
    word = s.chars := by
  obtain ⟨-, rest, h⟩ := h
  rcases atFront?_cases h with ⟨-, -, htoken⟩ | h | h | h | h | ⟨s', hs', htoken, hlen⟩
  · unfold ofWord at htoken
    split at htoken <;> cases htoken
  · exact absurd rfl ((literalToken (.inl h)).2 s)
  · exact absurd rfl ((literalToken (.inr (.inl h))).2 s)
  · exact absurd rfl ((literalToken (.inr (.inr (.inl h)))).2 s)
  · exact absurd rfl ((literalToken (.inr (.inr (.inr h)))).2 s)
  · obtain rfl : s = s' := Token.symbol.inj htoken
    have hspelled := List.prefix_iff_eq_take.mp (isPrefix_of_symbolAtFront? hs')
    rw [hspelled, ← hlen, List.take_left]

/-- A name is spelled by its own characters, and they form a name. -/
theorem Spells.ident {name : String} {word : List Char} (h : (Token.ident name).Spells word) :
    word = name.toList ∧ isName name = true := by
  obtain ⟨-, rest, h⟩ := h
  rcases atFront?_cases h with ⟨hne, hlen, htoken⟩ | h | h | h | h | ⟨s', -, htoken, -⟩
  · -- only a word can give a name, and the word is then the name itself
    have hid := isIdentifier_take hne
    rw [← hlen, List.take_left] at hid
    rw [List.take_left] at htoken
    unfold ofWord at htoken
    split at htoken
    · cases htoken
    · next hkey =>
      obtain rfl := Token.ident.inj htoken
      refine ⟨(String.toList_ofList).symm, ?_⟩
      rw [isName, hkey, String.toList_ofList, hid]
      rfl
  · -- the literals have tokens of their own
    exact absurd rfl ((literalToken (.inl h)).1 name)
  · exact absurd rfl ((literalToken (.inr (.inl h))).1 name)
  · exact absurd rfl ((literalToken (.inr (.inr (.inl h)))).1 name)
  · exact absurd rfl ((literalToken (.inr (.inr (.inr h)))).1 name)
  · cases htoken

end Token

/-- From offset `p` on the text consists of the tokens, with white space between them. -/
inductive Lexes (text : List Char) : Nat → List Lexeme → Prop where
  | done {p : Nat} (gap : Text.Gap text p (Text.byteLength text)) : Lexes text p []
  | token {p : Nat} {l : Lexeme} {ls : List Lexeme} {word : List Char}
      (gap : Text.Gap text p l.start) (slice : Text.slice? text l.start l.stop = some word)
      (spells : l.token.Spells word) (rest : Lexes text l.stop ls) : Lexes text p (l :: ls)

namespace Lexes

variable {text : List Char} {p q : Nat} {ls : List Lexeme}

/-- White space in front of the first token makes no difference. -/
theorem of_gap (hgap : ∀ {r : Nat}, Text.Gap text q r → Text.Gap text p r) (h : Lexes text q ls) :
    Lexes text p ls := by
  cases h with
  | done gap => exact .done (hgap gap)
  | token gap slice spells rest => exact .token (hgap gap) slice spells rest

end Lexes

/-- A gap is extended to the front by a blank. -/
theorem Text.Gap.cons_blank {front rest : List Char} {c : Char} {r : Nat}
    (hc : isBlank c = true)
    (h : Gap (front ++ c :: rest) (byteLength front + c.utf8Size) r) :
    Gap (front ++ c :: rest) (byteLength front) r := by
  obtain ⟨blanks, hslice, hblank⟩ := h
  have hone : slice? (front ++ c :: rest) (byteLength front) (byteLength front + c.utf8Size) =
      some [c] := by
    simpa using slice?_append front [c] rest
  refine ⟨[c] ++ blanks, slice?_join hone hslice, ?_⟩
  intro d hd
  rcases List.mem_cons.mp hd with rfl | hd
  · exact hc
  · exact hblank d hd

namespace Token

/-- The rest of a text, scanned from where it stands. The induction is on the length of what is left
to scan, since a step passes over a whole token. -/
private theorem lexes_of_scanFrom (count : Nat) :
    ∀ (front rest : List Char) (ls : List Lexeme), rest.length ≤ count →
      scanFrom 0 (Text.byteLength front) rest = .ok ls →
      Lexes (front ++ rest) (Text.byteLength front) ls := by
  induction count with
  | zero =>
    intro front rest ls hlen h
    obtain rfl : rest = [] := List.eq_nil_of_length_eq_zero (Nat.le_zero.mp hlen)
    obtain rfl : [] = ls := by simpa [scanFrom] using h
    rw [List.append_nil]
    exact .done (Text.Boundary.gap ⟨front, [], (List.append_nil front).symm, rfl⟩)
  | succ count ih =>
    intro front rest ls hlen h
    cases rest with
    | nil =>
      obtain rfl : [] = ls := by simpa [scanFrom] using h
      rw [List.append_nil]
      exact .done (Text.Boundary.gap ⟨front, [], (List.append_nil front).symm, rfl⟩)
    | cons c cs =>
      rw [List.length_cons] at hlen
      by_cases hc : Text.isBlank c = true
      · rw [scanFrom_blank hc] at h
        have hrest := ih (front ++ [c]) cs ls (by omega) (by simpa using h)
        simp only [List.append_assoc, List.singleton_append, Text.byteLength_append,
          Text.byteLength_cons, Text.byteLength_nil, Nat.add_zero] at hrest
        exact hrest.of_gap (Text.Gap.cons_blank hc)
      · obtain ⟨token, word, rest, ls', hsplit, hne, hfront, hscan, rfl⟩ :=
          exists_of_scanFrom_token hc h
        -- the token is not empty, so less is left to scan behind it
        have hlength := congrArg List.length hsplit
        have hpos := List.length_pos_iff.mpr hne
        rw [List.length_cons, List.length_append] at hlength
        rw [← Text.byteLength_append] at hscan
        have hrest := ih (front ++ word) rest ls' (by omega) hscan
        have hslice := Text.slice?_append front word rest
        rw [List.append_assoc, Text.byteLength_append] at hrest
        rw [hsplit]
        exact .token (Text.boundary_start_of_slice? hslice).gap hslice ⟨hne, rest, hfront⟩ hrest

/-- **A scan reads the whole text**: the tokens stand where their spans say, each spelled by its
slice, and nothing but white space lies between them. -/
theorem lexes_of_scan {source : String} {ls : List Lexeme} (h : scan source = .ok ls) :
    Lexes source.toList 0 ls :=
  lexes_of_scanFrom source.toList.length [] source.toList ls (Nat.le_refl _) h

end Token
end QueryExpr
