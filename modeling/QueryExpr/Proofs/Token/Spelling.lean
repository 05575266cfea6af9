import QueryExpr.Proofs.Text.Classes
import QueryExpr.Proofs.Token.Lexemes

/-!
# Texts spelled out of tokens

A text that is written out is a list of pieces, each a token with its spelling or a space. Such a text
is legible if the scanner finds every token where it was written: that depends on the text behind the
token, since a name or a number goes on as long as it can. `scanFrom_text` says that a legible text
scans to its tokens, whatever follows, and `legible_append` that legibility is checked part by part,
each part in front of what comes after it.

What may follow a name or a number is limited to a few characters (`Closed`). Names, reserved words
and signs are legible in front of them (`stands_word`, `stands_mark`, `stands_sign`).
-/

namespace QueryExpr

/-! ### Pieces -/

/-- A piece of a text that is written out. -/
inductive Piece where
  /-- A token in this spelling. -/
  | word (token : Token) (spelling : List Char)
  | space

namespace Token

/-- The characters are read as the token where `rest` comes after them. -/
def Stands (token : Token) (word rest : List Char) : Prop :=
  word ≠ [] ∧ (∀ c ∈ word.head?, Text.isBlank c = false) ∧
    atFront? (word ++ rest) = some (token, word.length)

end Token

namespace Piece

/-- The characters of a piece. -/
def chars : Piece → List Char
  | .word _ spelling => spelling
  | .space => [' ']

/-- The characters of several pieces. -/
def text (ps : List Piece) : List Char := ps.flatMap chars

/-- The tokens among the pieces of a text that begins at byte `offset`. -/
def lexemes : Nat → List Piece → List Lexeme
  | _, [] => []
  | offset, .word token spelling :: ps =>
    ⟨token, offset, offset + Text.byteLength spelling⟩ ::
      lexemes (offset + Text.byteLength spelling) ps
  | offset, .space :: ps => lexemes (offset + 1) ps

/-- Every token is read where it was written, if `rest` comes after the pieces. -/
def Legible : List Piece → List Char → Prop
  | [], _ => True
  | .word token spelling :: ps, rest => token.Stands spelling (text ps ++ rest) ∧ Legible ps rest
  | .space :: ps, rest => Legible ps rest

@[simp] theorem text_nil : text [] = [] := rfl

@[simp] theorem text_cons (p : Piece) (ps : List Piece) : text (p :: ps) = p.chars ++ text ps := rfl

@[simp] theorem text_append (ps qs : List Piece) : text (ps ++ qs) = text ps ++ text qs :=
  List.flatMap_append

theorem lexemes_append (offset : Nat) (ps qs : List Piece) :
    lexemes offset (ps ++ qs) =
      lexemes offset ps ++ lexemes (offset + Text.byteLength (text ps)) qs := by
  induction ps generalizing offset with
  | nil => rfl
  | cons p ps ih =>
    cases p with
    | word token spelling =>
      rw [List.cons_append, lexemes, lexemes, ih, text_cons, Text.byteLength_append,
        ← Nat.add_assoc]
      rfl
    | space =>
      rw [List.cons_append, lexemes, lexemes, ih, text_cons, Text.byteLength_append,
        ← Nat.add_assoc]
      rfl

/-- **Legibility part by part.** -/
theorem legible_append {ps qs : List Piece} {rest : List Char} :
    Legible (ps ++ qs) rest ↔ Legible ps (text qs ++ rest) ∧ Legible qs rest := by
  induction ps with
  | nil => simp [Legible]
  | cons p ps ih =>
    cases p with
    | word token spelling => simp [Legible, ih, and_assoc]
    | space => simp [Legible, ih]

/-- **A legible text scans to its tokens**, and the scan goes on behind it. -/
theorem scanFrom_text {ps : List Piece} {rest : List Char} (h : Legible ps rest) (offset : Nat) :
    Token.scanFrom 0 offset (text ps ++ rest) =
      (Token.scanFrom 0 (offset + Text.byteLength (text ps)) rest).map
        (lexemes offset ps ++ ·) := by
  -- piece by piece: a word is one token, and a space only moves the offset
  induction ps generalizing offset with
  | nil =>
    rw [text_nil, Text.byteLength_nil, Nat.add_zero, List.nil_append]
    cases Token.scanFrom 0 offset rest <;> rfl
  | cons p ps ih =>
    rw [text_cons, Text.byteLength_append, ← Nat.add_assoc, List.append_assoc]
    cases p with
    | word token spelling =>
      obtain ⟨⟨hne, hblank, hfront⟩, h⟩ := h
      rw [chars, Token.scanFrom_token offset hblank hne hfront, ih h, lexemes]
      cases Token.scanFrom 0 (offset + Text.byteLength spelling + Text.byteLength (text ps)) rest <;>
        rfl
    | space => exact (Token.scanFrom_blank (by decide) offset _).trans (ih h (offset + 1))

/-- A legible text as a whole. -/
theorem scan_text {ps : List Piece} (h : Legible ps []) :
    Token.scan (String.ofList (text ps)) = .ok (lexemes 0 ps) := by
  have hscan := scanFrom_text h 0
  rw [List.append_nil] at hscan
  rw [Token.scan, String.toList_ofList, hscan]
  simp [Token.scanFrom, Except.map]

end Piece

/-- A text that is one token is scanned to it. -/
theorem scan_of_stands {token : Token} {spelling : List Char} (h : token.Stands spelling []) :
    Token.scan (String.ofList spelling) = .ok [⟨token, 0, Text.byteLength spelling⟩] := by
  have hlegible : Piece.Legible [.word token spelling] [] := ⟨h, trivial⟩
  have hscan := Piece.scan_text hlegible
  simpa [Piece.chars, Piece.lexemes] using hscan

/-! ### What may follow -/

namespace Token

/-- The characters, the point apart, that may follow a name or a number. -/
def closers : List Char := [' ', ')', ']', '\x7d', ',', '[', '(', ':']

/-- The text does not go on with a name or a number. A point is no part of a number unless a digit
follows it. -/
def Closed : List Char → Prop
  | [] => True
  | c :: cs => c ∈ closers ∨ (c = '.' ∧ ∀ d ∈ cs.head?, isAsciiDigit d = false)

theorem closed_of_mem {c : Char} (hc : c ∈ closers) (cs : List Char) : Closed (c :: cs) := .inl hc

/-- What may follow a name is no part of one. -/
theorem Closed.not_identContinue {c : Char} {cs : List Char} (h : Closed (c :: cs)) :
    Text.isIdentContinue c = false := by
  have hall : ∀ c ∈ '.' :: closers, Text.isIdentContinue c = false :=
    Text.forall_mem_of_all (by decide)
  rcases h with hc | ⟨rfl, -⟩
  · exact hall c (List.mem_cons_of_mem _ hc)
  · exact hall '.' List.mem_cons_self

/-- What may follow a number is no digit, no exponent mark and no radix mark, and it goes on with no
fraction. -/
theorem Closed.not_numeral {c : Char} {cs : List Char} (h : Closed (c :: cs)) :
    isAsciiDigit c = false ∧ c.isAlphanum = false := by
  have hall : ∀ c ∈ '.' :: closers, isAsciiDigit c = false ∧ c.isAlphanum = false :=
    Text.forall_mem_of_all (by decide)
  rcases h with hc | ⟨rfl, -⟩
  · exact hall c (List.mem_cons_of_mem _ hc)
  · exact hall '.' List.mem_cons_self

/-! ### Words -/

/-- The name at the front goes up to what closes it. -/
theorem identLength_append {word rest : List Char} (hword : isIdentifier word = true)
    (hrest : Closed rest) : identLength (word ++ rest) = word.length := by
  cases word with
  | nil => cases hword
  | cons c cs =>
    obtain ⟨hc, hcs⟩ := Bool.and_eq_true_iff.mp hword
    rw [List.cons_append, identLength, if_pos hc, List.takeWhile_append_of_pos
      (List.all_eq_true.mp hcs)]
    -- what closes the word is no part of it
    have hnil : rest.takeWhile Text.isIdentContinue = [] := by
      cases rest with
      | nil => rfl
      | cons d rest => rw [List.takeWhile_cons, hrest.not_identContinue]; rfl
    rw [hnil, List.append_nil, List.length_cons, Nat.add_comm]

/-- **Names and reserved words** are read as such in front of what closes them. -/
theorem stands_word {word rest : List Char} (hword : isIdentifier word = true)
    (hrest : Closed rest) : (ofWord (String.ofList word)).Stands word rest := by
  have hlength := identLength_append hword hrest
  have hne : word ≠ [] := by
    rintro rfl
    cases hword
  refine ⟨hne, ?_, ?_⟩
  · intro c hc
    cases word with
    | nil => cases hc
    | cons d cs =>
      cases hc
      exact Text.not_isBlank_of_isIdentStart (Bool.and_eq_true_iff.mp hword).1
  · -- words are looked for before all other tokens
    have hpos : identLength (word ++ rest) ≠ 0 := by
      rw [hlength]
      exact fun h => hne (List.eq_nil_of_length_eq_zero h)
    rw [atFront?, word?, if_neg hpos, hlength, List.take_left, Option.some_or]

/-- A name is read as the name that it is. -/
theorem stands_name {name : String} {rest : List Char} (hname : isName name = true)
    (hrest : Closed rest) : (Token.ident name).Stands name.toList rest := by
  obtain ⟨hid, hkey⟩ := Bool.and_eq_true_iff.mp hname
  have hstands := stands_word hid hrest
  rwa [String.ofList_toList, ofWord, Option.isNone_iff_eq_none.mp hkey] at hstands

/-- A reserved word is read as the word that it is. -/
theorem stands_keyword (k : Keyword) {rest : List Char} (hrest : Closed rest) :
    (Token.keyword k).Stands k.text.toList rest := by
  have hid : isIdentifier k.text.toList = true := by cases k <;> decide
  have hkey : Keyword.ofText? k.text = some k := by cases k <;> decide
  have hstands := stands_word hid hrest
  rwa [String.ofList_toList, ofWord, hkey] at hstands

/-! ### The first character

The first character of a token tells which forms it cannot have. -/

section First

variable {c : Char} (cs : List Char)

theorem word?_eq_none (hc : Text.isIdentStart c = false) : word? (c :: cs) = none := by
  simp [word?, identLength, hc]

theorem string?_eq_none (hsingle : c ≠ '\'') (hdouble : c ≠ '"') : string? (c :: cs) = none := by
  simp [string?, hsingle, hdouble]

theorem number?_eq_none (hc : isAsciiDigit c = false) : number? (c :: cs) = none := by
  have hradix : radixLength (c :: cs) = 0 := by
    unfold radixLength
    split
    · next heq =>
      rw [(List.cons.inj heq).1] at hc
      cases hc
    · rfl
  simp [number?, hradix, digitRun, hc]

theorem date?_eq_none (hc : c ≠ '@') : date? (c :: cs) = none := by
  unfold date?
  split
  · next heq => exact absurd (List.cons.inj heq).1 hc
  · rfl

theorem color?_eq_none (hc : c ≠ '#') : color? (c :: cs) = none := by
  unfold color?
  split
  · next heq => exact absurd (List.cons.inj heq).1 hc
  · rfl

/-- A character that begins no other token can only begin a sign. -/
theorem atFront?_eq_symbol? (hident : Text.isIdentStart c = false)
    (hdigit : isAsciiDigit c = false) (hother : c ∉ ['\'', '"', '@', '#']) :
    atFront? (c :: cs) = symbol? (c :: cs) := by
  simp only [List.mem_cons, List.not_mem_nil, or_false, not_or] at hother
  obtain ⟨hsingle, hdouble, hat, hhash⟩ := hother
  rw [atFront?, word?_eq_none cs hident, string?_eq_none cs hsingle hdouble,
    number?_eq_none cs hdigit, date?_eq_none cs hat, color?_eq_none cs hhash]
  rfl

end First

/-! ### Signs -/

/-- The signs that no longer sign begins with. -/
def marks : List Symbol :=
  [.lparen, .rparen, .lbracket, .rbracket, .lbrace, .rbrace, .comma, .dot, .colon, .minus, .tilde]

/-- **Brackets, separators and the signs in front of an operand** are read as such whatever
follows. -/
theorem stands_mark {s : Symbol} (hs : s ∈ marks) (rest : List Char) :
    (Token.symbol s).Stands s.chars rest := by
  have hfront : ∀ (c : Char), Text.isIdentStart c = false → isAsciiDigit c = false →
      c ∉ ['\'', '"', '@', '#'] → symbol? (c :: rest) = some (.symbol s, 1) →
      atFront? (c :: rest) = some (.symbol s, 1) := fun c hc hd ho h => by
    rw [atFront?_eq_symbol? rest hc hd ho, h]
  simp only [marks, List.mem_cons, List.not_mem_nil, or_false] at hs
  rcases hs with rfl | rfl | rfl | rfl | rfl | rfl | rfl | rfl | rfl | rfl | rfl <;>
    exact ⟨by decide, by rintro c ⟨⟩; decide, hfront _ (by decide) (by decide) (by decide) rfl⟩

/-- **Every sign** is read as such in front of a space or a brace. -/
theorem stands_sign (s : Symbol) {c : Char} (hc : c = ' ' ∨ c = '\x7d') (rest : List Char) :
    (Token.symbol s).Stands s.chars (c :: rest) := by
  have hfirst : Text.isIdentStart (s.chars.headD ' ') = false ∧
      isAsciiDigit (s.chars.headD ' ') = false ∧
      s.chars.headD ' ' ∉ ['\'', '"', '@', '#'] := by
    cases s <;> decide
  obtain ⟨hident, hdigit, hother⟩ := hfirst
  refine ⟨by cases s <;> decide, by cases s <;> rintro c ⟨⟩ <;> decide, ?_⟩
  -- no sign goes on with a space or a brace, so the longest one is found
  rcases hc with rfl | rfl <;> cases s <;>
    exact (atFront?_eq_symbol? _ hident hdigit hother).trans rfl

end Token
end QueryExpr
