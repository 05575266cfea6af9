import QueryExpr.Proofs.Sql.Safety
import Mathlib.Data.List.Infix
import Mathlib.Data.List.Induction

/-!
# Two dashes in a row

Outside of literals and comments two dashes in a row make the rest of the line a comment. This module
says when they come up in SQL that is put together from a template and its operands (`Operand`): if an
operand has them, or if an operand that begins with a dash stands directly behind a dash of the
template (`Template.Filled.operand_of_fits`).

Parentheses play no part in this, and the SQL of a field need not have as many closing as opening ones.
So everything here is about readers that get through a text, at whatever depth, and a reader that is
deep enough in parentheses gets through any text.
-/

namespace QueryExpr.Sql

namespace Mode

/-- Inside a literal. -/
def isLiteral : Mode → Bool
  | .literal _ => true
  | _ => false

theorem isLiteral_shape (m : Mode) : m.shape.isLiteral = m.isLiteral := by cases m <;> rfl

end Mode

namespace Reader

/-! ### Reading at any depth -/

section Depth

variable {r r' s s' : Reader} {c : Char} {cs : List Char}

theorem exists_code_of_pos (c : Char) (h : 0 < r.depth) :
    ∃ r', r.code c = some r' ∧ r.depth ≤ r'.depth + 1 := by
  unfold code
  rw [if_neg (Nat.ne_of_gt h)]
  split_ifs <;> exact ⟨_, rfl, by dsimp only; omega⟩

theorem exists_step_of_pos (c : Char) (h : 0 < r.depth) :
    ∃ r', r.step c = some r' ∧ r.depth ≤ r'.depth + 1 := by
  rcases r.step_cases c with ⟨-, s, hs, -, hstep⟩ | ⟨-, -, hstep⟩ | ⟨m, hstep, -⟩
  · rw [hstep, ← hs]
    exact exists_code_of_pos c (hs ▸ h)
  · exact ⟨_, hstep, Nat.le_succ _⟩
  · exact ⟨_, hstep, Nat.le_succ _⟩

/-- Deep enough in parentheses the reader gets through any text. -/
theorem exists_run_of_le (h : cs.length ≤ r.depth) : ∃ r', r.run cs = some r' := by
  induction cs generalizing r with
  | nil => exact ⟨r, rfl⟩
  | cons c cs ih =>
    rw [List.length_cons] at h
    obtain ⟨s, hstep, hdepth⟩ := exists_step_of_pos c (Nat.lt_of_lt_of_le (Nat.succ_pos _) h)
    obtain ⟨r', hrun⟩ := ih (r := s) (by omega)
    exact ⟨r', by rw [run_cons hstep, hrun]⟩

/-- Two readers that stand alike, at whatever depth, still do after a text that both get through. -/
theorem alike_of_run (hmode : r'.mode.shape = r.mode.shape)
    (hline : r'.lineComment = r.lineComment) (h : r.run cs = some s) (h' : r'.run cs = some s') :
    s'.mode.shape = s.mode.shape ∧ s'.lineComment = s.lineComment := by
  -- both are compared with a reader that is deeper than either
  have hdeep : Shifts r'.depth false r { r with depth := r.depth + r'.depth } := ⟨rfl, rfl, rfl⟩
  have hdeep' : Shifts r.depth false r' { r with depth := r.depth + r'.depth } :=
    ⟨hmode.symm, Nat.add_comm _ _, hline.symm⟩
  obtain ⟨t, hrun, ht⟩ := hdeep.run h
  obtain ⟨t', hrun', ht'⟩ := hdeep'.run h'
  obtain rfl := Option.some.inj (hrun.symm.trans hrun')
  exact ⟨ht'.mode.symm.trans ht.mode, ht'.line.symm.trans ht.line⟩

end Depth

/-! ### Dashes -/

section Dash

variable {r r' : Reader} {c : Char} {cs : List Char}

theorem pending_of_code (h : r.code c = some r') :
    (r'.mode = .dash → c = '-') ∧ (r'.mode = .slash → c = '/') := by
  unfold code at h
  split_ifs at h with _ _ _ _ hdash hslash <;> cases h <;>
    first | exact ⟨fun _ => hdash, nofun⟩ | exact ⟨nofun, fun _ => hslash⟩ | exact ⟨nofun, nofun⟩

/-- A dash or a slash is pending only after it has been read in code. -/
theorem pending_of_step (h : r.step c = some r') :
    (r'.mode = .dash → c = '-' ∧ r.mode.isCode = true) ∧ (r'.mode = .slash → c = '/') := by
  rcases r.step_cases c with ⟨hcode, s, -, -, hstep⟩ | ⟨-, -, hstep⟩ | ⟨m, hstep, hdash, hslash, -⟩
  · obtain ⟨hdash, hslash⟩ := pending_of_code (hstep.symm.trans h)
    exact ⟨fun hmode => ⟨hdash hmode, hcode⟩, hslash⟩
  · cases hstep.symm.trans h
    exact ⟨nofun, nofun⟩
  · cases hstep.symm.trans h
    exact ⟨fun hmode => absurd hmode hdash, fun hmode => absurd hmode hslash⟩

/-- A dash in code is pending, unless it is the second one. -/
theorem exists_step_dash (hcode : r.mode.isCode = true) :
    ∃ r', r.step '-' = some r' ∧ (r'.mode = .dash ∨ r'.lineComment = true) := by
  unfold step
  cases hm : r.mode with
  | code | slash | quote => exact ⟨_, rfl, .inl rfl⟩
  | dash => exact ⟨_, rfl, .inr rfl⟩
  | _ => rw [hm] at hcode; cases hcode

/-- A dash that leaves the reader in code is pending. -/
theorem mode_of_step_dash (h : r.step '-' = some r') (hopen : r'.mode.isOpen = true) :
    r'.mode = .dash := by
  unfold step at h
  cases hm : r.mode <;> rw [hm] at h <;> cases h <;> first | rfl | cases hopen

/-- A comment to the end of the line begins with the second of two dashes. -/
theorem of_step_lineComment (h : r.step c = some r') (hline : r.lineComment = false)
    (hline' : r'.lineComment = true) : r.mode = .dash ∧ c = '-' := by
  rcases r.step_cases c with ⟨-, s, -, hs, hstep⟩ | ⟨hdash, hc, -⟩ | ⟨m, hstep, -⟩
  · rw [(lineComment_of_code (hstep.symm.trans h)).1, hs, hline] at hline'
    cases hline'
  · exact ⟨hdash, hc⟩
  · cases hstep.symm.trans h
    rw [hline] at hline'
    cases hline'

/-- A dash that is pending is the last character. -/
theorem exists_of_run_eq_dash (h : r.run cs = some r') (hstart : r.mode ≠ .dash)
    (hdash : r'.mode = .dash) :
    ∃ front s, cs = front ++ ['-'] ∧ r.run front = some s ∧ s.mode.isCode = true := by
  cases cs using List.reverseRecOn with
  | nil => cases h; exact absurd hdash hstart
  | append_singleton front c =>
    rw [run_append] at h
    obtain ⟨s, hfront, hlast⟩ := Option.bind_eq_some_iff.mp h
    rw [run] at hlast
    obtain ⟨s', hstep, hs'⟩ := Option.bind_eq_some_iff.mp hlast
    cases hs'
    obtain ⟨rfl, hcode⟩ := (pending_of_step hstep).1 hdash
    exact ⟨front, s, rfl, hfront, hcode⟩

/-- Where a comment to the end of the line begins there are two dashes in code. -/
theorem exists_of_run_lineComment (h : r.run cs = some r') (hstart : r.mode ≠ .dash)
    (hline : r.lineComment = false) (hline' : r'.lineComment = true) :
    ∃ front back s, cs = front ++ '-' :: '-' :: back ∧ r.run front = some s ∧
      s.mode.isCode = true := by
  -- from the end: the comment begins with the last character or before it
  induction cs using List.reverseRecOn generalizing r' with
  | nil =>
    cases h
    rw [hline] at hline'
    cases hline'
  | append_singleton cs c ih =>
    rw [run_append] at h
    obtain ⟨s, hfront, hlast⟩ := Option.bind_eq_some_iff.mp h
    rw [run] at hlast
    obtain ⟨s', hstep, hs'⟩ := Option.bind_eq_some_iff.mp hlast
    cases hs'
    cases hs : s.lineComment with
    | true =>
      obtain ⟨front, back, t, rfl, hrun, hcode⟩ := ih hfront hs
      exact ⟨front, back ++ [c], t, by simp, hrun, hcode⟩
    | false =>
      obtain ⟨hdash, rfl⟩ := of_step_lineComment hstep hs hline'
      obtain ⟨front, t, rfl, hrun, hcode⟩ := exists_of_run_eq_dash hfront hstart hdash
      exact ⟨front, [], t, by simp, hrun, hcode⟩

/-- A text that begins with a dash makes a comment behind a pending dash. -/
theorem lineComment_of_dash (hmode : r.mode = .dash) (hfirst : cs.head? = some '-')
    (h : r.run cs = some r') : r'.lineComment = true := by
  obtain ⟨back, rfl⟩ := List.head?_eq_some_iff.mp hfirst
  have hstep : r.step '-' = some { r with mode := .line, lineComment := true } := by
    unfold step
    rw [hmode]
    rfl
  rw [run_cons hstep] at h
  exact lineComment_mono h rfl

/-- A text that does not begin with a dash is read behind a pending dash as anywhere in code. -/
theorem run_eq_of_dash (hmode : r.mode = .dash) (hne : cs ≠ []) (hfirst : cs.head? ≠ some '-') :
    r.run cs = ({ r with mode := .code } : Reader).run cs := by
  obtain ⟨c, back, rfl⟩ := List.exists_cons_of_ne_nil hne
  have hc : c ≠ '-' := fun hc => hfirst (hc ▸ rfl)
  have hstep : r.step c = ({ r with mode := .code } : Reader).step c := by
    unfold step
    rw [hmode]
    exact if_neg hc
  rw [run, run, hstep]

end Dash

/-- After SQL that leaves no literal open, a blank and a comment lead back to code: they end a comment
that is left open. -/
theorem exists_run_blank_comment {r : Reader} (hliteral : r.mode.isLiteral = false)
    (hline : r.mode ≠ .line) (text : String) :
    ∃ r', r.run (' ' :: (comment text).toList) = some r' ∧ r'.mode = .code ∧
      r'.lineComment = r.lineComment := by
  obtain ⟨s, hstep, hmode, hs⟩ : ∃ s, r.step ' ' = some s ∧
      (s.mode = .code ∨ s.mode = .comment) ∧ s.lineComment = r.lineComment := by
    -- in code the blank changes nothing; in a comment the reader stays in it, and the next comment's end
    -- is the end of both
    by_cases hcode : r.mode.isCode = true
    · obtain ⟨s, hstep, hmode, -, hs⟩ := exists_step_of_isCode hcode (c := ' ') (by decide)
      exact ⟨s, hstep, .inl hmode, hs⟩
    · unfold step
      cases hm : r.mode with
      | comment | star => exact ⟨_, rfl, .inr rfl, rfl⟩
      | literal content => rw [hm] at hliteral; cases hliteral
      | line => exact absurd hm hline
      | _ => rw [hm] at hcode; exact absurd rfl hcode
  exact ⟨{ s with mode := .code }, by rw [run_cons hstep, run_comment text hmode], rfl, hs⟩

end Reader

/-! ### Texts -/

/-- Where a reader is at the end of a text, if it begins in code. It is so deep in parentheses that
none of them is closed too often. -/
def modeAfter (cs : List Char) : Mode :=
  (({ depth := cs.length } : Reader).run cs).elim .code Reader.mode

/-- There are two dashes in a row outside of literals and comments. -/
def HasDashes (sql : String) : Prop :=
  ∃ front back, sql.toList = front ++ '-' :: '-' :: back ∧ (modeAfter front).isCode = true

section Texts

variable {r r' : Reader} {sql : String}

theorem shape_modeAfter {cs : List Char} (hmode : r.mode = .code) (hline : r.lineComment = false)
    (h : r.run cs = some r') : (modeAfter cs).shape = r'.mode.shape := by
  obtain ⟨s, hrun⟩ : ∃ s, ({ depth := cs.length } : Reader).run cs = some s :=
    Reader.exists_run_of_le (Nat.le_refl _)
  have hshape : ({ depth := cs.length } : Reader).mode.shape = r.mode.shape := by rw [hmode]
  rw [modeAfter, hrun]
  exact (Reader.alike_of_run hshape hline.symm h hrun).1

/-- **Two dashes in a row** make the reader note a comment to the end of the line. -/
theorem hasDashes_iff (hmode : r.mode = .code) (hline : r.lineComment = false)
    (h : r.run sql.toList = some r') : HasDashes sql ↔ r'.lineComment = true := by
  constructor
  · -- a reader that begins anywhere in code is where the one that begins at the start of the text is
    rintro ⟨front, back, htext, hfront⟩
    rw [htext, Reader.run_append] at h
    obtain ⟨s, hs, hrest⟩ := Option.bind_eq_some_iff.mp h
    have hcode : s.mode.isCode = true := by
      rw [← Mode.isCode_shape, ← shape_modeAfter hmode hline hs, Mode.isCode_shape, hfront]
    obtain ⟨t, hstep, ht⟩ := Reader.exists_step_dash hcode
    rw [Reader.run_cons hstep] at hrest
    rcases ht with hdash | ht
    · exact Reader.lineComment_of_dash hdash rfl hrest
    · exact Reader.lineComment_mono hrest ht
  · intro hline'
    obtain ⟨front, back, s, htext, hs, hcode⟩ :=
      Reader.exists_of_run_lineComment h (by rw [hmode]; nofun) hline hline'
    refine ⟨front, back, htext, ?_⟩
    rw [← Mode.isCode_shape, shape_modeAfter hmode hline hs, Mode.isCode_shape, hcode]

end Texts

/-! ### Operands -/

/-- The reader has met two dashes in a row if they are there, and else the SQL ends as an operand. -/
def Ends (clash : Prop) (r : Reader) : Prop :=
  (clash → r.lineComment = true) ∧ (¬clash → r.lineComment = false ∧ r.mode.isRest = true)

theorem Ends.congr {clash clash' : Prop} {r : Reader} (h : Ends clash r) (hiff : clash ↔ clash') :
    Ends clash' r :=
  propext hiff ▸ h

/-- The SQL of an operand: whether it begins with a dash, and whether there are two dashes in a row
in it. -/
structure Operand (signed clash : Prop) (cs : List Char) : Prop where
  ne_nil : cs ≠ []
  first : cs.head? = some '-' ↔ signed
  ends : ∀ {r r' : Reader}, r.mode = .code → r.lineComment = false → r.run cs = some r' →
    Ends clash r'

namespace Operand

variable {signed clash signed' clash' : Prop} {r r' : Reader} {cs xs : List Char}

theorem congr (h : Operand signed clash cs) (hsigned : signed ↔ signed') (hclash : clash ↔ clash') :
    Operand signed' clash' cs :=
  propext hsigned ▸ propext hclash ▸ h

/-- The SQL has two dashes in a row exactly if it is found so. -/
theorem hasDashes_iff {sql : String} (h : Operand signed clash sql.toList) :
    HasDashes sql ↔ clash := by
  obtain ⟨r, hrun⟩ : ∃ r, ({ depth := sql.toList.length } : Reader).run sql.toList = some r :=
    Reader.exists_run_of_le (Nat.le_refl _)
  obtain ⟨hclash, hnone⟩ := h.ends rfl rfl hrun
  rw [Sql.hasDashes_iff rfl rfl hrun]
  refine ⟨fun hline => ?_, hclash⟩
  by_contra hne
  rw [(hnone hne).1] at hline
  cases hline

/-- An operand that does not meet a dash that is pending. -/
theorem ends_of_not_signed (h : Operand signed clash cs) (hmode : r.mode = .code ∨ r.mode = .dash)
    (hfree : ¬(r.mode = .dash ∧ signed)) (hline : r.lineComment = false)
    (hrun : r.run cs = some r') : Ends clash r' := by
  rcases hmode with hcode | hdash
  · exact h.ends hcode hline hrun
  · have hfirst : cs.head? ≠ some '-' := fun hfirst => hfree ⟨hdash, h.first.mp hfirst⟩
    rw [Reader.run_eq_of_dash hdash h.ne_nil hfirst] at hrun
    exact h.ends (r := { r with mode := .code }) rfl hline hrun

/-- Two operands with a comma between them. -/
theorem comma (h : Operand signed clash xs) (h' : Operand signed' clash' cs) :
    Operand signed (clash ∨ clash') (xs ++ (", ".toList ++ cs)) := by
  refine ⟨List.append_ne_nil_of_left_ne_nil h.ne_nil _, ?_, fun {r r'} hmode hline hrun => ?_⟩
  · rw [List.head?_append_of_ne_nil _ h.ne_nil, h.first]
  · rw [Reader.run_append] at hrun
    obtain ⟨s, hs, hrest⟩ := Option.bind_eq_some_iff.mp hrun
    obtain ⟨hclash, hnone⟩ := h.ends hmode hline hs
    by_cases hfirst : clash
    · exact ⟨fun _ => Reader.lineComment_mono hrest (hclash hfirst),
        fun hne => absurd (.inl hfirst) hne⟩
    · -- the comma completes the literal at the end of the first operand, if there is one
      obtain ⟨hquiet, hisRest⟩ := hnone hfirst
      obtain ⟨t, hstep, ht, -, hline'⟩ :=
        Reader.exists_step_of_isCode (Mode.isCode_of_isRest hisRest) (c := ',') (by decide)
      have hblank : t.step ' ' = some t := by
        rw [Reader.step_of_isOpen (by rw [ht]; rfl) (by decide), ← ht]
      rw [show ", ".toList ++ cs = ',' :: ' ' :: cs from rfl, Reader.run_cons hstep,
        Reader.run_cons hblank] at hrest
      obtain ⟨hclash', hnone'⟩ := h'.ends ht (hline'.trans hquiet) hrest
      exact ⟨fun hor => hclash' (hor.resolve_left hfirst), fun hne => hnone' fun h => hne (.inr h)⟩

end Operand

end QueryExpr.Sql

namespace QueryExpr.Template

open Sql

/-! ### Templates -/

/-- A template with texts in the place of its operands. -/
inductive Filled (operand : Nat → List Char → Prop) : List Piece → List Char → Prop where
  | nil : Filled operand [] []
  | char (c : Char) {ps : List Piece} {cs : List Char} (rest : Filled operand ps cs) :
      Filled operand (.char c :: ps) (c :: cs)
  | operand {index : Nat} {ps : List Piece} {xs cs : List Char} (here : operand index xs)
      (rest : Filled operand ps cs) : Filled operand (.placeholder false index :: ps) (xs ++ cs)

/-- The template begins with an operand that begins with a dash. -/
def Begins (signed : Nat → Prop) (ps : List Piece) : Prop :=
  ∃ index, signed index ∧ ps.head? = some (.placeholder false index)

/-- Two dashes meet: an operand that begins with a dash stands directly behind a dash of the template,
or an operand has two dashes in a row. -/
def Meets (signed clash : Nat → Prop) (ps : List Piece) : Prop :=
  ∃ index, (signed index ∧ [.char '-', .placeholder false index] <:+: ps) ∨
    (clash index ∧ .placeholder false index ∈ ps)

section Meets

variable {signed clash : Nat → Prop} {ps : List Piece}

theorem not_meets_nil : ¬Meets signed clash [] := by simp [Meets]

theorem meets_char {c : Char} :
    Meets signed clash (.char c :: ps) ↔ (c = '-' ∧ Begins signed ps) ∨ Meets signed clash ps := by
  -- an operand right behind a dash: the dash is this character, or all of it is further behind
  have hfirst : ∀ index, [.char '-', .placeholder false index] <+: .char c :: ps ↔
      c = '-' ∧ ps.head? = some (.placeholder false index) := by
    intro index
    cases ps <;> simp [List.cons_prefix_cons, eq_comm]
  constructor
  · rintro ⟨index, ⟨hsigned, hinfix⟩ | ⟨hclash, hmem⟩⟩
    · rcases List.infix_cons_iff.mp hinfix with hprefix | hinfix
      · obtain ⟨hc, hhead⟩ := (hfirst index).mp hprefix
        exact .inl ⟨hc, index, hsigned, hhead⟩
      · exact .inr ⟨index, .inl ⟨hsigned, hinfix⟩⟩
    · exact .inr ⟨index, .inr ⟨hclash, by simpa using hmem⟩⟩
  · rintro (⟨hc, index, hsigned, hhead⟩ | ⟨index, ⟨hsigned, hinfix⟩ | ⟨hclash, hmem⟩⟩)
    · exact ⟨index, .inl ⟨hsigned, List.infix_cons_iff.mpr (.inl ((hfirst index).mpr ⟨hc, hhead⟩))⟩⟩
    · exact ⟨index, .inl ⟨hsigned, List.infix_cons hinfix⟩⟩
    · exact ⟨index, .inr ⟨hclash, List.mem_cons_of_mem _ hmem⟩⟩

theorem meets_operand {index : Nat} :
    Meets signed clash (.placeholder false index :: ps) ↔ clash index ∨ Meets signed clash ps := by
  constructor
  · rintro ⟨i, ⟨hsigned, hinfix⟩ | ⟨hclash, hmem⟩⟩
    · rcases List.infix_cons_iff.mp hinfix with hprefix | hinfix
      · cases (List.cons_prefix_cons.mp hprefix).1
      · exact .inr ⟨i, .inl ⟨hsigned, hinfix⟩⟩
    · rcases List.mem_cons.mp hmem with heq | hmem
      · cases heq
        exact .inl hclash
      · exact .inr ⟨i, .inr ⟨hclash, hmem⟩⟩
  · rintro (hclash | ⟨i, ⟨hsigned, hinfix⟩ | ⟨hclash, hmem⟩⟩)
    · exact ⟨index, .inr ⟨hclash, List.mem_cons_self⟩⟩
    · exact ⟨i, .inl ⟨hsigned, List.infix_cons hinfix⟩⟩
    · exact ⟨i, .inr ⟨hclash, List.mem_cons_of_mem _ hmem⟩⟩

/-- Text without dashes makes no difference. -/
theorem meets_text {text : List Char} (h : '-' ∉ text) :
    Meets signed clash (text.map .char ++ ps) ↔ Meets signed clash ps := by
  induction text with
  | nil => exact Iff.rfl
  | cons c text ih =>
    have hc : c ≠ '-' := fun hc => h (hc ▸ List.mem_cons_self)
    rw [List.map_cons, List.cons_append, meets_char, ih fun hmem => h (List.mem_cons_of_mem c hmem)]
    simp [hc]

/-- Two dashes meet in the rest of a template, where a dash may be pending in front of it. -/
def MeetsFrom (signed clash : Nat → Prop) (m : Mode) (ps : List Piece) : Prop :=
  (m = .dash ∧ Begins signed ps) ∨ Meets signed clash ps

theorem meetsFrom_of_ne {m : Mode} (hm : m ≠ .dash) :
    MeetsFrom signed clash m ps ↔ Meets signed clash ps :=
  or_iff_right fun h => hm h.1

/-- A dash in front of an operand is pending there. -/
theorem meetsFrom_char {m m' : Mode} {c : Char}
    (hpending : Begins signed ps → (m' = .dash ↔ c = '-')) :
    MeetsFrom signed clash m (.char c :: ps) ↔ MeetsFrom signed clash m' ps := by
  have hbegins : ¬Begins signed (.char c :: ps) := by simp [Begins]
  rw [MeetsFrom, meets_char, or_iff_right fun h => hbegins h.2]
  exact or_congr_left ⟨fun h => ⟨(hpending h.2).mpr h.1, h.2⟩, fun h => ⟨(hpending h.2).mp h.1, h.2⟩⟩

theorem meetsFrom_operand {m : Mode} {index : Nat} :
    MeetsFrom signed clash m (.placeholder false index :: ps) ↔
      (m = .dash ∧ signed index) ∨ clash index ∨ Meets signed clash ps := by
  rw [MeetsFrom, meets_operand]
  simp [Begins]

/-- An operand that stands apart from a mark is not found behind it. -/
theorem not_infix_of_apartFrom {mark : Char} {behind : Bool} (h : apartFrom mark behind ps = true)
    (index : Nat) : ¬[.char mark, .placeholder false index] <:+: ps := by
  induction ps generalizing behind with
  | nil => simp
  | cons p ps ih =>
    rw [List.infix_cons_iff, not_or]
    cases p with
    | char c =>
      refine ⟨fun hprefix => ?_, ih h⟩
      obtain ⟨hc, rest, hrest⟩ := List.cons_prefix_cons.mp hprefix
      cases hc
      rw [apartFrom, ← hrest, decide_eq_true rfl] at h
      cases h
    | placeholder isType i =>
      refine ⟨fun hprefix => ?_, ?_⟩
      · cases (List.cons_prefix_cons.mp hprefix).1
      · cases isType with
        | true => exact ih h
        | false => exact ih (Bool.and_eq_true_iff.mp h).2

end Meets

section Stands

variable {m : Mode} {depth : Nat} {r r' : Reader} {ps : List Piece}

/-- One character of a template that fits. -/
theorem Stands.step (h : Stands m r) {c : Char} (hfits : fitsFrom m depth (.char c :: ps) = true)
    (hstep : r.step c = some r') :
    ∃ m' depth', Stands m' r' ∧ r'.lineComment = r.lineComment ∧ fitsFrom m' depth' ps = true := by
  -- the check may be deeper in parentheses, so the reader is compared with one that is as deep
  have hstanding : Standing m depth r.depth { r with depth := depth + r.depth } := ⟨h, rfl⟩
  obtain ⟨m', depth', s, hstep', hstanding', hline, hnext⟩ := hstanding.step hfits
  have hshifts : Reader.Shifts depth false r { r with depth := depth + r.depth } :=
    ⟨rfl, Nat.add_comm _ _, rfl⟩
  obtain ⟨s', hs, hshifts'⟩ := hshifts.step hstep
  obtain rfl := Option.some.inj (hs.symm.trans hstep')
  refine ⟨m', depth', ?_, hshifts'.line.symm.trans hline, hnext⟩
  rcases hstanding'.mode with hmode | ⟨hquote, hcode⟩
  · exact .inl (hshifts'.mode.symm.trans hmode)
  · refine .inr ⟨hquote, ?_⟩
    have hshape := hshifts'.mode
    rw [hcode] at hshape
    cases hr' : r'.mode <;> rw [hr'] at hshape <;> first | rfl | cases hshape

end Stands

section Filled

variable {signed clash : Nat → Prop} {ps : List Piece} {cs : List Char}

theorem Filled.text {operand : Nat → List Char → Prop} (text : List Char)
    (h : Filled operand ps cs) : Filled operand (text.map .char ++ ps) (text ++ cs) := by
  induction text with
  | nil => exact h
  | cons c text ih => exact .char c ih

/-- The rest of a template, with its operands. A dash of the template that is pending meets the first
operand. -/
theorem Filled.ends (h : Filled (fun index => Operand (signed index) (clash index)) ps cs) {m : Mode}
    {depth : Nat} {behind : Bool} {r r' : Reader} (hstands : Stands m r)
    (hfits : fitsFrom m depth ps = true) (hapart : apartFrom '/' behind ps = true)
    (hslash : r.mode = .slash → behind = true) (hline : r.lineComment = false)
    (hrun : r.run cs = some r') : Ends (MeetsFrom signed clash r.mode ps) r' := by
  induction h generalizing m depth behind r with
  | nil =>
    cases hrun
    have hrest := hstands.isRest (Bool.and_eq_true_iff.mp hfits).2
    have hdash : r'.mode ≠ .dash := fun hdash => by rw [hdash] at hrest; cases hrest
    exact ⟨fun hmeets => absurd ((meetsFrom_of_ne hdash).mp hmeets) not_meets_nil,
      fun _ => ⟨hline, hrest⟩⟩
  | @char c ps cs _ ih =>
    obtain ⟨s, hstep, hrest⟩ := Option.bind_eq_some_iff.mp hrun
    obtain ⟨m', depth', hstands', hline', hfits'⟩ := hstands.step hfits hstep
    have hends := ih hstands' hfits' hapart
      (fun hs => decide_eq_true ((Reader.pending_of_step hstep).2 hs)) (hline'.trans hline) hrest
    refine hends.congr (meetsFrom_char ?_).symm
    -- in front of an operand there is code, so that a dash is pending
    rintro ⟨index, -, hhead⟩
    obtain ⟨rest, rfl⟩ := List.head?_eq_some_iff.mp hhead
    have hopen := hstands'.isOpen (Bool.and_eq_true_iff.mp hfits').1
    refine ⟨fun hs => ((Reader.pending_of_step hstep).1 hs).1, ?_⟩
    rintro rfl
    exact Reader.mode_of_step_dash hstep hopen
  | @operand index ps xs cs here _ ih =>
    obtain ⟨hopen, hfits'⟩ := Bool.and_eq_true_iff.mp hfits
    obtain ⟨hbehind, hapart'⟩ := Bool.and_eq_true_iff.mp hapart
    rw [Reader.run_append] at hrun
    obtain ⟨s, hxs, hcs⟩ := Option.bind_eq_some_iff.mp hrun
    have hmode : r.mode = .code ∨ r.mode = .dash := by
      have hropen := hstands.isOpen hopen
      cases hr : r.mode with
      | code => exact .inl rfl
      | dash => exact .inr rfl
      | slash => rw [hslash hr] at hbehind; cases hbehind
      | _ => rw [hr] at hropen; cases hropen
    rw [meetsFrom_operand]
    by_cases hmeets : r.mode = .dash ∧ signed index
    · have hs := Reader.lineComment_of_dash hmeets.1 (here.first.mpr hmeets.2) hxs
      exact ⟨fun _ => Reader.lineComment_mono hcs hs, fun hne => absurd (.inl hmeets) hne⟩
    · obtain ⟨hclash, hnone⟩ := here.ends_of_not_signed hmode hmeets hline hxs
      rw [or_iff_right hmeets]
      by_cases hindex : clash index
      · exact ⟨fun _ => Reader.lineComment_mono hcs (hclash hindex),
          fun hne => absurd (.inl hindex) hne⟩
      · -- nothing is pending after the operand
        obtain ⟨hs, hrest⟩ := hnone hindex
        have hslash' : s.mode ≠ .slash := fun hs => by rw [hs] at hrest; cases hrest
        have hdash : s.mode ≠ .dash := fun hs => by rw [hs] at hrest; cases hrest
        have hends := ih (stands_of_isRest hrest) hfits' hapart' (fun hs => absurd hs hslash') hs hcs
        rw [or_iff_right hindex]
        exact hends.congr (meetsFrom_of_ne hdash)

/-- **A template with its operands is an operand again.** It begins with a dash if it begins with an
operand that does, and it has two dashes in a row if they meet. -/
theorem Filled.operand_of_fits (h : Filled (fun index => Operand (signed index) (clash index)) ps cs)
    (hfits : ∀ m : Mode, m.isOpen = true → fitsFrom m 0 ps = true)
    (hapart : apartFrom '/' false ps = true) :
    Operand (Begins signed ps) (Meets signed clash ps) cs := by
  -- the template may stand behind a dash, so it does not begin with one and it is not empty
  have hdash := hfits .dash rfl
  refine ⟨?_, ?_, fun {r r'} hmode hline hrun => ?_⟩
  · cases h with
    | nil => cases hdash
    | char c rest => exact List.cons_ne_nil _ _
    | operand here rest => exact List.append_ne_nil_of_left_ne_nil here.ne_nil _
  · cases h with
    | nil => cases hdash
    | char c rest =>
      have hc : c ≠ '-' := by
        rintro rfl
        cases hdash
      simp [Begins, hc]
    | operand here rest =>
      rw [List.head?_append_of_ne_nil _ here.ne_nil, here.first]
      simp [Begins]
  · have hstands : Stands .code r := .inl (by rw [hmode])
    have hends := h.ends hstands (hfits .code rfl) hapart (fun hs => by rw [hmode] at hs; cases hs)
      hline hrun
    exact hends.congr (meetsFrom_of_ne (by rw [hmode]; nofun))

end Filled

end QueryExpr.Template
