import QueryExpr.Proofs.Sql.Comments
import QueryExpr.Proofs.Text.Classes
import QueryExpr.Sql.Constant
import Mathlib.Tactic.SplitIfs

/-!
# A reader of SQL

How a database takes SQL apart, as far as it matters for safety: code, literals between single quotes,
comments, comments to the end of the line, and the depth of parentheses in code. A quote inside a
literal is written twice, so a quote ends the literal only if no other quote follows; a dash and a
slash open a comment only together with the next character. The reader refuses a closing parenthesis
that has no opening one. `Reader.step_cases` says what one character can do; what a whole text preserves
follows from it.

The text of a comment and a quoted text are read as one comment and as one literal, whatever they
contain. Reading depends on the depth only through the parentheses that are open inside, and not on
the contents of literals, so what is read from the beginning can be read anywhere in code (`Shifts`).
-/

namespace QueryExpr.Sql

/-! ### Modes -/

/-- What the reader is inside of. -/
inductive Mode where
  | code
  /-- Code, after a dash that may open a comment to the end of the line. -/
  | dash
  /-- Code, after a slash that may open a comment. -/
  | slash
  /-- A literal, with its text so far. -/
  | literal (content : List Char)
  /-- After a quote in a literal, which ends it unless another quote follows. -/
  | quote (content : List Char)
  | comment
  /-- A comment, after a star that may end it. -/
  | star
  /-- A comment to the end of the line. -/
  | line
  deriving DecidableEq, Repr

namespace Mode

/-- Code in which a quote opens a literal. -/
def isOpen : Mode → Bool
  | .code | .dash | .slash => true
  | _ => false

/-- The text may end here as code: no literal or comment is left open. -/
def isCode : Mode → Bool
  | .code | .dash | .slash | .quote _ => true
  | _ => false

/-- The end of an operand: code, or a literal that is complete unless a quote follows. -/
def isRest : Mode → Bool
  | .code | .quote _ => true
  | _ => false

/-- After a quote in a literal. -/
def isQuote : Mode → Bool
  | .quote _ => true
  | _ => false

/-- The mode without the text of a literal. -/
def shape : Mode → Mode
  | .literal _ => .literal []
  | .quote _ => .quote []
  | m => m

/-- The mode after characters that mean nothing. -/
def settle : Mode → Mode
  | .literal content => .literal content
  | .comment | .star => .comment
  | .line => .line
  | _ => .code

theorem isOpen_shape (m : Mode) : m.shape.isOpen = m.isOpen := by cases m <;> rfl

theorem isCode_shape (m : Mode) : m.shape.isCode = m.isCode := by cases m <;> rfl

theorem isRest_shape (m : Mode) : m.shape.isRest = m.isRest := by cases m <;> rfl

theorem isQuote_shape (m : Mode) : m.shape.isQuote = m.isQuote := by cases m <;> rfl

theorem mem_of_isOpen {m : Mode} (h : m.isOpen = true) : m ∈ [Mode.code, .dash, .slash] := by
  cases m <;> first | decide | cases h

theorem isQuote_of_isOpen {m : Mode} (h : m.isOpen = true) : m.isQuote = false := by
  cases m <;> first | rfl | cases h

theorem isCode_of_isRest {m : Mode} (h : m.isRest = true) : m.isCode = true := by
  cases m <;> first | rfl | cases h

/-- An operand ends in a literal or in code. -/
theorem isRest_iff {m : Mode} : m.isRest = true ↔ m.isQuote = true ∨ m = .code := by
  cases m <;> simp [isRest, isQuote]

theorem shape_of_isQuote {m : Mode} (h : m.isQuote = true) : m.shape = .quote [] := by
  cases m <;> first | rfl | cases h

theorem shape_settle (m : Mode) : m.shape.settle.shape = m.settle.shape := by cases m <;> rfl

theorem settle_settle (m : Mode) : m.settle.settle = m.settle := by cases m <;> rfl

end Mode

/-! ### Reading -/

/-- What the reader has seen. -/
structure Reader where
  mode : Mode := .code
  /-- How many parentheses are open. -/
  depth : Nat := 0
  /-- The texts of the literals that are complete, first to last. -/
  literals : List String := []
  /-- There was a comment to the end of the line. -/
  lineComment : Bool := false
  deriving DecidableEq, Repr

namespace Reader

/-- A character in code. -/
def code (r : Reader) (c : Char) : Option Reader :=
  if c = '\'' then some { r with mode := .literal [] }
  else if c = '(' then some { r with mode := .code, depth := r.depth + 1 }
  else if c = ')' then
    if r.depth = 0 then none else some { r with mode := .code, depth := r.depth - 1 }
  else if c = '-' then some { r with mode := .dash }
  else if c = '/' then some { r with mode := .slash }
  else some { r with mode := .code }

/-- One character. -/
def step (r : Reader) (c : Char) : Option Reader :=
  match r.mode with
  | .code => r.code c
  | .dash =>
    if c = '-' then some { r with mode := .line, lineComment := true } else r.code c
  | .slash => if c = '*' then some { r with mode := .comment } else r.code c
  | .literal content =>
    if c = '\'' then some { r with mode := .quote content }
    else some { r with mode := .literal (content ++ [c]) }
  | .quote content =>
    if c = '\'' then some { r with mode := .literal (content ++ ['\'']) }
    else code { r with literals := r.literals ++ [String.ofList content] } c
  | .comment => some { r with mode := if c = '*' then .star else .comment }
  | .star => some { r with mode := if c = '/' then .code else if c = '*' then .star else .comment }
  | .line => some { r with mode := if c = '\n' then .code else .line }

/-- Several characters. -/
def run (r : Reader) : List Char → Option Reader
  | [] => some r
  | c :: cs => (r.step c).bind fun r => r.run cs

section Run

variable {r : Reader}

@[simp] theorem run_nil : r.run [] = some r := rfl

theorem run_append (xs ys : List Char) :
    r.run (xs ++ ys) = (r.run xs).bind fun r' => r'.run ys := by
  induction xs generalizing r with
  | nil => rfl
  | cons c cs ih =>
    rw [List.cons_append, run, run]
    cases r.step c with
    | none => rfl
    | some r' => exact ih

/-- One text after the other. -/
theorem run_trans {r' r'' : Reader} {xs ys : List Char} (h : r.run xs = some r')
    (h' : r'.run ys = some r'') : r.run (xs ++ ys) = some r'' := by
  rw [run_append, h]
  exact h'

theorem run_cons {r' : Reader} {c : Char} (h : r.step c = some r') (cs : List Char) :
    r.run (c :: cs) = r'.run cs := by
  rw [run, h]
  rfl

theorem lineComment_of_code {r' : Reader} {c : Char} (h : r.code c = some r') :
    r'.lineComment = r.lineComment ∧ r'.mode ≠ .line := by
  unfold code at h
  split_ifs at h <;> cases h <;> exact ⟨rfl, nofun⟩

/-- **What a character does**: it is read as code, it is the second of two dashes, or nothing changes but
the mode. -/
theorem step_cases (r : Reader) (c : Char) :
    (r.mode.isCode = true ∧ ∃ s : Reader, s.depth = r.depth ∧ s.lineComment = r.lineComment ∧
      r.step c = s.code c) ∨
    (r.mode = .dash ∧ c = '-' ∧ r.step c = some { r with mode := .line, lineComment := true }) ∨
    ∃ m, r.step c = some { r with mode := m } ∧ m ≠ .dash ∧ m ≠ .slash ∧
      (m = .line → r.mode = .line) := by
  unfold step
  cases hm : r.mode with
  | code => exact .inl ⟨rfl, r, rfl, rfl, rfl⟩
  | dash =>
    dsimp only
    split_ifs with hc
    · exact .inr (.inl ⟨rfl, hc, rfl⟩)
    · exact .inl ⟨rfl, r, rfl, rfl, rfl⟩
  | slash =>
    dsimp only
    split_ifs
    · exact .inr (.inr ⟨.comment, rfl, nofun, nofun, nofun⟩)
    · exact .inl ⟨rfl, r, rfl, rfl, rfl⟩
  | literal content =>
    dsimp only
    split_ifs <;> exact .inr (.inr ⟨_, rfl, nofun, nofun, nofun⟩)
  | quote content =>
    dsimp only
    split_ifs
    · exact .inr (.inr ⟨_, rfl, nofun, nofun, nofun⟩)
    · -- the literal is complete, which neither the depth nor the comments depend on
      exact .inl ⟨rfl, { r with literals := r.literals ++ [String.ofList content] }, rfl, rfl, rfl⟩
  | comment | star | line =>
    refine .inr (.inr ⟨_, rfl, ?_⟩)
    split_ifs <;> simp

/-- The reader does not forget a comment to the end of the line, and in one it has noted it. -/
theorem lineComment_of_step {r' : Reader} {c : Char} (h : r.step c = some r') :
    (r.lineComment = true → r'.lineComment = true) ∧
      ((r.mode = .line → r.lineComment = true) → r'.mode = .line → r'.lineComment = true) := by
  rcases r.step_cases c with ⟨-, s, -, hs, hstep⟩ | ⟨-, -, hstep⟩ | ⟨m, hstep, -, -, hm⟩
  · -- a character in code opens no such comment
    obtain ⟨hline, hmode⟩ := lineComment_of_code (hstep.symm.trans h)
    exact ⟨fun hr => by rw [hline, hs, hr], fun _ hr => absurd hr hmode⟩
  · cases hstep.symm.trans h
    exact ⟨fun _ => rfl, fun _ _ => rfl⟩
  · cases hstep.symm.trans h
    exact ⟨id, fun hline hmode => hline (hm hmode)⟩

theorem lineComment_mono {r' : Reader} {cs : List Char} (h : r.run cs = some r')
    (hline : r.lineComment = true) : r'.lineComment = true := by
  induction cs generalizing r with
  | nil => cases h; exact hline
  | cons c cs ih =>
    obtain ⟨s, hstep, hrest⟩ := Option.bind_eq_some_iff.mp h
    exact ih hrest ((lineComment_of_step hstep).1 hline)

theorem lineComment_of_run {r' : Reader} {cs : List Char} (h : r.run cs = some r')
    (hstart : r.mode = .line → r.lineComment = true) (hline : r'.mode = .line) :
    r'.lineComment = true := by
  induction cs generalizing r with
  | nil => cases h; exact hstart hline
  | cons c cs ih =>
    obtain ⟨s, hstep, hrest⟩ := Option.bind_eq_some_iff.mp h
    exact ih hrest ((lineComment_of_step hstep).2 hstart)

end Run

/-! ### Characters that mean nothing -/

/-- Characters with a meaning in code or in a comment. -/
def marks : List Char := ['\'', '(', ')', '-', '/', '*', '\n']

section Inert

variable {r : Reader} {c : Char}

theorem code_of_not_mem (h : c ∉ marks) : r.code c = some { r with mode := .code } := by
  simp only [marks, List.mem_cons, List.not_mem_nil, or_false, not_or] at h
  obtain ⟨hquote, hopen, hclose, hdash, hslash, -, -⟩ := h
  rw [code, if_neg hquote, if_neg hopen, if_neg hclose, if_neg hdash, if_neg hslash]

/-- In code a character without meaning only separates. -/
theorem step_of_isOpen (hopen : r.mode.isOpen = true) (h : c ∉ marks) :
    r.step c = some { r with mode := .code } := by
  have hdash : c ≠ '-' := fun hc => h (hc ▸ by decide)
  have hstar : c ≠ '*' := fun hc => h (hc ▸ by decide)
  unfold step
  cases hm : r.mode with
  | code => exact code_of_not_mem h
  | dash => dsimp only; rw [if_neg hdash, code_of_not_mem h]
  | slash => dsimp only; rw [if_neg hstar, code_of_not_mem h]
  | _ => rw [hm] at hopen; cases hopen

/-- A word of such characters, in code. -/
theorem run_of_isOpen {cs : List Char} (hopen : r.mode.isOpen = true) (hne : cs ≠ [])
    (h : ∀ c ∈ cs, c ∉ marks) : r.run cs = some { r with mode := .code } := by
  induction cs generalizing r with
  | nil => exact absurd rfl hne
  | cons c cs ih =>
    rw [run_cons (step_of_isOpen hopen (h c List.mem_cons_self))]
    by_cases hcs : cs = []
    · rw [hcs, run_nil]
    · rw [ih rfl hcs fun d hd => h d (List.mem_cons_of_mem c hd)]

/-- In any mode such a character leads to the same mode as any other such character, but for the
text of a literal. -/
theorem exists_step_of_not_mem (h : c ∉ marks) :
    ∃ r', r.step c = some r' ∧ r'.mode.shape = r.mode.settle.shape ∧ r'.depth = r.depth ∧
      r'.lineComment = r.lineComment := by
  have hne : ∀ d ∈ marks, c ≠ d := fun d hd hc => h (hc ▸ hd)
  by_cases hopen : r.mode.isOpen = true
  · refine ⟨_, step_of_isOpen hopen h, ?_, rfl, rfl⟩
    cases hm : r.mode with
    | code | dash | slash => rfl
    | _ => rw [hm] at hopen; cases hopen
  · unfold step
    cases hm : r.mode with
    | literal content => exact ⟨_, if_neg (hne '\'' (by decide)), rfl, rfl, rfl⟩
    | quote content =>
      dsimp only
      rw [if_neg (hne '\'' (by decide)), code_of_not_mem h]
      exact ⟨_, rfl, rfl, rfl, rfl⟩
    | comment => exact ⟨_, rfl, by rw [if_neg (hne '*' (by decide))]; rfl, rfl, rfl⟩
    | star =>
      refine ⟨_, rfl, ?_, rfl, rfl⟩
      rw [if_neg (hne '/' (by decide)), if_neg (hne '*' (by decide))]
      rfl
    | line => exact ⟨_, rfl, by rw [if_neg (hne '\n' (by decide))]; rfl, rfl, rfl⟩
    | _ => rw [hm] at hopen; exact absurd rfl hopen

/-- A word of such characters, in any mode. -/
theorem exists_run_of_not_mem {cs : List Char} (hne : cs ≠ []) (h : ∀ c ∈ cs, c ∉ marks) :
    ∃ r', r.run cs = some r' ∧ r'.mode.shape = r.mode.settle.shape ∧ r'.depth = r.depth ∧
      r'.lineComment = r.lineComment := by
  induction cs generalizing r with
  | nil => exact absurd rfl hne
  | cons c cs ih =>
    obtain ⟨r', hstep, hmode, hdepth, hline⟩ :=
      exists_step_of_not_mem (r := r) (h c List.mem_cons_self)
    rw [run_cons hstep]
    by_cases hcs : cs = []
    · exact ⟨r', by rw [hcs, run_nil], hmode, hdepth, hline⟩
    · obtain ⟨r'', hrun, hmode', hdepth', hline'⟩ :=
        ih (r := r') hcs fun d hd => h d (List.mem_cons_of_mem c hd)
      refine ⟨r'', hrun, ?_, hdepth'.trans hdepth, hline'.trans hline⟩
      rw [hmode', ← Mode.shape_settle, hmode, Mode.shape_settle, Mode.settle_settle]

end Inert

/-! ### Quoted texts -/

section Quote

variable {r : Reader}

/-- Quotes that are written twice stay inside the literal. -/
theorem run_doubled (content : List Char) (cs : List Char) :
    ({ r with mode := .literal content } : Reader).run
      (Text.replaceFrom ['\''] ['\'', '\''] 0 cs) =
        some { r with mode := .literal (content ++ cs) } := by
  induction cs generalizing content with
  | nil => rw [List.append_nil]; rfl
  | cons c cs ih =>
    rw [Text.replaceFrom]
    by_cases hc : c = '\''
    · -- the pair is read back as one quote
      subst hc
      have hpair : ({ r with mode := .literal content } : Reader).run ['\'', '\''] =
          some { r with mode := .literal (content ++ ['\'']) } := rfl
      rw [if_pos (by simp [List.isPrefixOf])]
      rw [run_append, hpair, Option.bind_some]
      exact (ih (content ++ ['\''])).trans (by rw [List.append_assoc]; rfl)
    · have hstep : ({ r with mode := .literal content } : Reader).step c =
          some { r with mode := .literal (content ++ [c]) } := if_neg hc
      rw [if_neg (by simpa [List.isPrefixOf] using Ne.symm hc), run_cons hstep, ih]
      rw [List.append_assoc]
      rfl

/-- **A quoted text is one literal**, and its text without the doubling is the text that was quoted. -/
theorem run_quote {value : String} (hvalue : value ≠ "") (hopen : r.mode.isOpen = true) :
    r.run (Sql.quote value).toList = some { r with mode := .quote value.toList } := by
  have hfirst : r.step '\'' = some { r with mode := .literal [] } := by
    unfold step
    cases hm : r.mode with
    | code | dash | slash => rfl
    | _ => rw [hm] at hopen; cases hopen
  have hlast : ({ r with mode := .literal value.toList } : Reader).run ['\''] =
      some { r with mode := .quote value.toList } := rfl
  have htext : (Sql.quote value).toList =
      '\'' :: (Text.replaceFrom ['\''] ['\'', '\''] 0 value.toList ++ ['\'']) := by
    rw [Sql.quote, if_neg hvalue]
    simp [Text.replaceAll]
  rw [htext, run_cons hfirst]
  exact run_trans (run_doubled [] value.toList) hlast

end Quote

/-! ### Comments -/

section Comment

variable {r : Reader}

/-- In a text without an end mark a comment does not end. A star that stands before the text must not
make an end mark with it. -/
theorem exists_run_unclosed {cs : List Char} (hfree : cs.IsChain fun c d => isMark c d = false)
    (hmode : r.mode = .comment ∨ (r.mode = .star ∧ cs.head? ≠ some '/')) :
    ∃ m, (m = .comment ∨ m = .star) ∧ r.run cs = some { r with mode := m } := by
  induction cs generalizing r with
  | nil => exact ⟨r.mode, hmode.imp_right And.left, rfl⟩
  | cons c cs ih =>
    obtain ⟨hnext, hrest⟩ := List.isChain_cons.mp hfree
    have hstep : r.step c = some { r with mode := if c = '*' then .star else .comment } := by
      rcases hmode with hm | ⟨hm, hslash⟩
      · simp [step, hm]
      · have hne : c ≠ '/' := by simpa using hslash
        simp [step, hm, hne]
    -- a star may only stand before something else than a slash
    have hmode' : (if c = '*' then Mode.star else .comment) = .comment ∨
        (if c = '*' then Mode.star else .comment) = .star ∧ cs.head? ≠ some '/' := by
      by_cases hc : c = '*'
      · refine .inr ⟨if_pos hc, fun hslash => ?_⟩
        have hmark := hnext '/' hslash
        rw [hc] at hmark
        cases hmark
      · exact .inl (if_neg hc)
    obtain ⟨m, hm, hrun⟩ := ih (r := { r with mode := if c = '*' then .star else .comment }) hrest hmode'
    rw [run_cons hstep]
    exact ⟨m, hm, hrun⟩

/-- **A text as a comment is one comment**, whatever the text contains. Inside a comment it ends the
comment. -/
theorem run_comment (text : String) (hmode : r.mode = .code ∨ r.mode = .comment) :
    r.run (Sql.comment text).toList = some { r with mode := .code } := by
  -- the text has its own end marks broken up, so the last one is the only one
  obtain ⟨m, hm, hrun⟩ := exists_run_unclosed (r := { r with mode := .comment })
    (isChain_body text.toList) (.inl rfl)
  have hfront : r.run ['/', '*', ' '] = some { r with mode := .comment } := by
    rcases hmode with hm | hm <;> simp [run, step, code, hm]
  have hback : ({ r with mode := m } : Reader).run [' ', '*', '/'] =
      some { r with mode := .code } := by
    rcases hm with rfl | rfl <;> rfl
  rw [toList_comment]
  exact run_trans hfront (run_trans hrun hback)

end Comment

/-! ### Reading elsewhere -/

/-- The second reader stands where the first one does, but deeper in parentheses, perhaps after a
comment to the end of the line, and with other literals. -/
structure Shifts (depth : Nat) (line : Bool) (r r' : Reader) : Prop where
  mode : r'.mode.shape = r.mode.shape
  depth : r'.depth = r.depth + depth
  line : r'.lineComment = (line || r.lineComment)

section Shifts

variable {n : Nat} {b : Bool} {r r' s : Reader}

/-- The same character in code. -/
theorem Shifts.code (h : Shifts n b r r') {c : Char} (hcode : r.code c = some s) :
    ∃ s', r'.code c = some s' ∧ Shifts n b s s' := by
  have hdepth := h.depth
  unfold Reader.code at hcode ⊢
  by_cases hclose : c = ')'
  · -- where one parenthesis is open, more are open further down
    subst hclose
    have hpos : r.depth ≠ 0 := by
      intro hzero
      simp [hzero] at hcode
    have hpos' : r'.depth ≠ 0 := by omega
    simp only [Char.reduceEq, if_false, if_true, if_neg hpos, if_neg hpos', Option.some.injEq]
      at hcode ⊢
    subst hcode
    exact ⟨_, rfl, rfl, by dsimp only; omega, h.line⟩
  · split_ifs at hcode ⊢ <;> cases hcode <;>
      exact ⟨_, rfl, rfl, by dsimp only; omega, h.line⟩

/-- The same character. -/
theorem Shifts.step (h : Shifts n b r r') {c : Char} (hstep : r.step c = some s) :
    ∃ s', r'.step c = some s' ∧ Shifts n b s s' := by
  -- the readers are in the same mode, and a literal may have another text
  have hmode := h.mode
  unfold Reader.step at hstep ⊢
  cases hm : r.mode <;> cases hm' : r'.mode <;> rw [hm, hm'] at hmode <;>
    rw [hm] at hstep <;> cases hmode
  case code.code => exact h.code hstep
  case dash.dash =>
    dsimp only at hstep ⊢
    split_ifs at hstep ⊢ with hc
    · cases hstep
      exact ⟨_, rfl, rfl, h.depth, (Bool.or_true b).symm⟩
    · exact h.code hstep
  case slash.slash =>
    dsimp only at hstep ⊢
    split_ifs at hstep ⊢ with hc
    · cases hstep
      exact ⟨_, rfl, rfl, h.depth, h.line⟩
    · exact h.code hstep
  case literal.literal =>
    dsimp only at hstep ⊢
    split_ifs at hstep ⊢ with hc <;> cases hstep <;> exact ⟨_, rfl, rfl, h.depth, h.line⟩
  case quote.quote content content' =>
    dsimp only at hstep ⊢
    split_ifs at hstep ⊢ with hc
    · cases hstep
      exact ⟨_, rfl, rfl, h.depth, h.line⟩
    · have hpushed : Shifts n b
          { r with literals := r.literals ++ [String.ofList content] }
          { r' with literals := r'.literals ++ [String.ofList content'] } :=
        ⟨h.mode, h.depth, h.line⟩
      rw [hm, hm'] at hpushed
      exact hpushed.code hstep
  case comment.comment | star.star | line.line =>
    cases hstep
    exact ⟨_, rfl, rfl, h.depth, h.line⟩

/-- The same text. -/
theorem Shifts.run (h : Shifts n b r r') {cs : List Char} (hrun : r.run cs = some s) :
    ∃ s', r'.run cs = some s' ∧ Shifts n b s s' := by
  induction cs generalizing r r' with
  | nil => cases hrun; exact ⟨r', rfl, h⟩
  | cons c cs ih =>
    obtain ⟨t, hstep, hrest⟩ := Option.bind_eq_some_iff.mp hrun
    obtain ⟨t', hstep', ht⟩ := h.step hstep
    obtain ⟨s', hrun', hs⟩ := ih ht hrest
    exact ⟨s', by rw [run_cons hstep', hrun'], hs⟩

/-- The rest of a match is passed over. -/
theorem replaceFrom_length (pattern word xs rest : List Char) :
    Text.replaceFrom pattern word xs.length (xs ++ rest) =
      Text.replaceFrom pattern word 0 rest := by
  induction xs with
  | nil => rfl
  | cons x xs ih => rw [List.length_cons, List.cons_append, Text.replaceFrom, ih]

/-- The same text with a word replaced by another one, both without meaning to the reader. -/
theorem Shifts.run_replace (h : Shifts n b r r') {pattern word : List Char}
    (hpattern : pattern ≠ []) (hpattern' : ∀ c ∈ pattern, c ∉ marks) (hword : word ≠ [])
    (hword' : ∀ c ∈ word, c ∉ marks) {cs : List Char} (hrun : r.run cs = some s) :
    ∃ s', r'.run (Text.replaceFrom pattern word 0 cs) = some s' ∧ Shifts n b s s' := by
  -- by length, since a match is read and passed over as a whole
  induction hn : cs.length using Nat.strongRecOn generalizing cs r r' with
  | ind m ih =>
    subst hn
    cases cs with
    | nil => cases hrun; exact ⟨r', rfl, h⟩
    | cons c cs =>
      rw [Text.replaceFrom]
      by_cases hfound : pattern.isPrefixOf (c :: cs) = true
      · -- both words settle the mode
        obtain ⟨rest, hrest⟩ := List.isPrefixOf_iff_prefix.mp hfound
        obtain ⟨t, hread, hmode, hdepth, hline⟩ :=
          exists_run_of_not_mem (r := r) hpattern hpattern'
        obtain ⟨t', hread', hmode', hdepth', hline'⟩ :=
          exists_run_of_not_mem (r := r') hword hword'
        have ht : Shifts n b t t' :=
          { mode := by rw [hmode', hmode, ← Mode.shape_settle, h.mode, Mode.shape_settle]
            depth := by rw [hdepth', hdepth, h.depth]
            line := by rw [hline', hline, h.line] }
        have hskip : Text.replaceFrom pattern word (pattern.length - 1) cs =
            Text.replaceFrom pattern word 0 rest := by
          cases pattern with
          | nil => exact absurd rfl hpattern
          | cons p ps =>
            obtain ⟨-, rfl⟩ : p = c ∧ ps ++ rest = cs := by simpa using hrest
            exact replaceFrom_length _ _ ps rest
        have hshort : rest.length < (c :: cs).length := by
          have hlength := congrArg List.length hrest
          have hpos := List.length_pos_iff.mpr hpattern
          rw [List.length_append] at hlength
          omega
        rw [← hrest, run_append, hread, Option.bind_some] at hrun
        obtain ⟨s', hrun', hs⟩ := ih rest.length hshort ht hrun rfl
        rw [if_pos hfound, hskip]
        exact ⟨s', run_trans hread' hrun', hs⟩
      · rw [if_neg hfound]
        obtain ⟨t, hstep, hrest⟩ := Option.bind_eq_some_iff.mp hrun
        obtain ⟨t', hstep', ht⟩ := h.step hstep
        obtain ⟨s', hrun', hs⟩ := ih cs.length (by simp) ht hrest rfl
        exact ⟨s', by rw [run_cons hstep', hrun'], hs⟩

end Shifts

/-- A pending dash or slash makes no difference to a text that does not complete a comment mark. -/
theorem run_eq_of_isOpen {r : Reader} (hopen : r.mode.isOpen = true) {c : Char}
    (hdash : c ≠ '-') (hstar : c ≠ '*') (cs : List Char) :
    r.run (c :: cs) = ({ r with mode := .code } : Reader).run (c :: cs) := by
  have hstep : r.step c = ({ r with mode := .code } : Reader).step c := by
    unfold step
    cases hm : r.mode with
    | code => rfl
    | dash => dsimp only; rw [if_neg hdash]; rfl
    | slash => dsimp only; rw [if_neg hstar]; rfl
    | _ => rw [hm] at hopen; cases hopen
  rw [run, run, hstep]

/-- A character without meaning after code, which may complete a literal. -/
theorem exists_step_of_isCode {r : Reader} (hcode : r.mode.isCode = true) {c : Char}
    (h : c ∉ marks) :
    ∃ r', r.step c = some r' ∧ r'.mode = .code ∧ r'.depth = r.depth ∧
      r'.lineComment = r.lineComment := by
  by_cases hopen : r.mode.isOpen = true
  · exact ⟨_, step_of_isOpen hopen h, rfl, rfl, rfl⟩
  · have hquote : c ≠ '\'' := fun hc => h (hc ▸ by decide)
    unfold step
    cases hm : r.mode with
    | quote content =>
      dsimp only
      rw [if_neg hquote, code_of_not_mem h]
      exact ⟨_, rfl, rfl, rfl, rfl⟩
    | code | dash | slash => rw [hm] at hopen; exact absurd rfl hopen
    | _ => rw [hm] at hcode; cases hcode

end Reader

/-! ### Neutral SQL -/

/-- The SQL leads from code to code, opens and closes its own parentheses only, and does not begin
with a character that can complete a comment mark. -/
def isNeutral (sql : String) : Bool :=
  (['-', '/', '*'].all fun c => !decide (sql.toList.head? = some c)) &&
    (({} : Reader).run sql.toList).any fun r => r.mode.isCode && r.depth = 0

/-- There is a comment to the end of the line in the SQL. -/
def hasLineComment (sql : String) : Bool := (({} : Reader).run sql.toList).any Reader.lineComment

theorem exists_run_of_isNeutral {sql : String} (h : isNeutral sql = true) :
    (∀ c ∈ sql.toList.head?, c ≠ '-' ∧ c ≠ '*') ∧
      ∃ r, ({} : Reader).run sql.toList = some r ∧ r.mode.isCode = true ∧ r.depth = 0 ∧
        r.lineComment = hasLineComment sql := by
  rw [isNeutral, Bool.and_eq_true, Option.any_eq_true] at h
  obtain ⟨hfirst, r, hrun, hr⟩ := h
  rw [Bool.and_eq_true, decide_eq_true_eq] at hr
  refine ⟨?_, r, hrun, hr.1, hr.2, by rw [hasLineComment, hrun]; rfl⟩
  intro c hc
  have hne : ∀ d ∈ ['-', '/', '*'], c ≠ d := by
    rintro d hd rfl
    have hhead := List.all_eq_true.mp hfirst c hd
    rw [Option.mem_def.mp hc] at hhead
    simp at hhead
  exact ⟨hne '-' (by decide), hne '*' (by decide)⟩

section Neutral

variable {r : Reader} {sql : String}

/-- SQL with an alias put in. -/
def withAlias (sql : String) : Option String → String
  | some label => Text.replaceAll "{a}" label sql
  | none => sql

/-- The alias, if there is one, is a word without meaning to the reader. -/
def IsWord (label : Option String) : Prop :=
  ∀ l ∈ label, l.toList ≠ [] ∧ ∀ c ∈ l.toList, c ∉ Reader.marks

variable {label : Option String}

/-- An alias leads to where the placeholder for it leads. -/
theorem exists_run_withAlias (hlabel : IsWord label) {n : Nat} {b : Bool} {r r' s : Reader}
    (h : Reader.Shifts n b r r') (hrun : r.run sql.toList = some s) :
    ∃ s', r'.run (withAlias sql label).toList = some s' ∧ Reader.Shifts n b s s' := by
  cases label with
  | none => exact h.run hrun
  | some l =>
    obtain ⟨hne, hword⟩ := hlabel l rfl
    rw [withAlias, Text.replaceAll, String.toList_ofList]
    exact h.run_replace (by decide) (Text.forall_mem_of_all (by decide)) hne hword hrun

/-- The first character of the SQL stays, or the alias begins it. -/
theorem head?_withAlias (hlabel : IsWord label) {p : Char → Prop} (hp : ∀ c ∉ Reader.marks, p c)
    (h : ∀ c ∈ sql.toList.head?, p c) : ∀ c ∈ (withAlias sql label).toList.head?, p c := by
  cases label with
  | none => exact h
  | some l =>
    obtain ⟨hne, hword⟩ := hlabel l rfl
    obtain ⟨d, ds, hl⟩ := List.exists_cons_of_ne_nil hne
    rw [withAlias, Text.replaceAll, String.toList_ofList]
    cases hsql : sql.toList with
    | nil =>
      intro c hc
      cases hc
    | cons e es =>
      rw [Text.replaceFrom]
      split_ifs with hfound
      · -- the placeholder stands first, and the alias begins with a letter
        rw [hl]
        rintro c ⟨⟩
        exact hp d (hword d (hl ▸ List.mem_cons_self))
      · rintro c ⟨⟩
        exact h e (by rw [hsql]; rfl)

/-- **Neutral SQL with a comment behind it**, read anywhere in code, with an alias put in or not. -/
theorem exists_run_neutral (h : isNeutral sql = true) (hopen : r.mode.isOpen = true)
    (hlabel : IsWord label) (text : String) :
    ∃ r', r.run (withAlias sql label ++ " " ++ comment text).toList = some r' ∧
      r'.mode = .code ∧ r'.depth = r.depth ∧
      (hasLineComment sql = false → r'.lineComment = r.lineComment) := by
  obtain ⟨hfirst, s, hrun, hcode, hdepth, hline⟩ := exists_run_of_isNeutral h
  have hstart : Reader.Shifts r.depth r.lineComment {} { r with mode := .code } :=
    ⟨rfl, (Nat.zero_add _).symm, (Bool.or_false _).symm⟩
  obtain ⟨s', hrun', hs⟩ := exists_run_withAlias hlabel hstart hrun
  have hcode' : s'.mode.isCode = true := by
    rw [← Mode.isCode_shape, hs.mode, Mode.isCode_shape, hcode]
  -- after the SQL comes a blank, which ends whatever is pending
  obtain ⟨t, hblank, hmode, hdepth', hline'⟩ :=
    Reader.exists_step_of_isCode hcode' (c := ' ') (by decide)
  have hwhole : ({ r with mode := .code } : Reader).run
      ((withAlias sql label).toList ++ ' ' :: (comment text).toList) =
        some { t with mode := .code } := by
    refine Reader.run_trans hrun' ?_
    rw [Reader.run_cons hblank, Reader.run_comment text (.inl hmode)]
  have htext : (withAlias sql label ++ " " ++ comment text).toList =
      (withAlias sql label).toList ++ ' ' :: (comment text).toList := by simp
  refine ⟨{ t with mode := .code }, ?_, rfl, ?_, ?_⟩
  · -- what is pending in front is not completed by the first character
    rw [htext, ← hwhole]
    have hmarks : ∀ c ∉ Reader.marks, c ≠ '-' ∧ c ≠ '*' :=
      fun c hc => ⟨fun h => hc (h ▸ by decide), fun h => hc (h ▸ by decide)⟩
    have hhead := head?_withAlias hlabel hmarks hfirst
    cases hxs : (withAlias sql label).toList with
    | nil => exact Reader.run_eq_of_isOpen hopen (by decide) (by decide) _
    | cons c cs =>
      rw [hxs] at hhead
      exact Reader.run_eq_of_isOpen hopen (hhead c rfl).1 (hhead c rfl).2 _
  · dsimp only
    rw [hdepth', hs.depth, hdepth, Nat.zero_add]
  · intro hquiet
    dsimp only
    rw [hline', hs.line, hline, hquiet, Bool.or_false]

end Neutral

end QueryExpr.Sql
