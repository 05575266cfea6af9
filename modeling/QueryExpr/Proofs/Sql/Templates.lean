import QueryExpr.Proofs.Sql.Reader
import QueryExpr.Proofs.Term.Resolved
import QueryExpr.Rule.Standard

/-!
# Templates that are safe to fill in

A template fits if the reader gets through it whatever the operands are, as long as each of them is
read as a unit: from code to code at the depth where it began. Then the parentheses of the template
are its own, no operand stands inside a literal or a comment, and none touches a quote or another
operand, so that a literal at the end of an operand cannot run on.

Every rule comes from a row of the table of standard rules, with type names put into its template.
Type names are words, so it is enough that the templates of the table fit, and this is decided by
reading them.
-/

namespace QueryExpr.Template

open Sql

/-! ### Fitting -/

/-- The reader gets through the pieces from a mode and a depth, back to depth zero. An operand may end
in a literal, so the mode after it is the one after a quote, and no quote may follow there. -/
def fitsFrom : Mode → Nat → List Piece → Bool
  | m, depth, [] => decide (depth = 0) && m.isRest
  | m, depth, .char c :: ps =>
    !(m.isQuote && decide (c = '\'')) &&
      match ({ mode := m, depth } : Reader).step c with
      | some r => !r.lineComment && fitsFrom r.mode r.depth ps
      | none => false
  | m, depth, .placeholder true _ :: ps => m.isOpen && fitsFrom .code depth ps
  | m, depth, .placeholder false _ :: ps => m.isOpen && fitsFrom (.quote []) depth ps

/-- The template fits wherever an operand may stand. -/
def fits (template : String) : Bool :=
  [Mode.code, .dash, .slash].all fun m => fitsFrom m 0 (piecesFrom 0 template.toList)

/-- No operand stands directly behind the mark. A slash, for one, would open a comment if the operand
began with a star. -/
def apartFrom (mark : Char) : Bool → List Piece → Bool
  | _, [] => true
  | _, .char c :: ps => apartFrom mark (decide (c = mark)) ps
  | _, .placeholder true _ :: ps => apartFrom mark false ps
  | behind, .placeholder false _ :: ps => !behind && apartFrom mark false ps

/-- The parts of a template as pieces. -/
def pieces : List Part → List Piece
  | [] => []
  | .literal text :: parts => text.toList.map .char ++ pieces parts
  | .child index :: parts => .placeholder false index :: pieces parts

theorem pieces_consText (text : String) (parts : List Part) :
    pieces (consText text parts) = text.toList.map .char ++ pieces parts := by
  unfold consText
  split
  · simp [pieces]
  · split_ifs with htext
    · simp [htext]
    · rfl

theorem child_mem_of_consText {text : String} {parts : List Part} {index : Nat}
    (h : .child index ∈ consText text parts) : .child index ∈ parts := by
  unfold consText at h
  split at h
  · rcases List.mem_cons.mp h with h | h
    · cases h
    · exact List.mem_cons_of_mem _ h
  · split_ifs at h with htext
    · exact h
    · rcases List.mem_cons.mp h with h | h
      · cases h
      · exact h

/-- A word in code can be left out. -/
theorem fitsFrom_word {m : Mode} {depth : Nat} {word : List Char} (ps : List Piece)
    (hopen : m.isOpen = true) (hne : word ≠ []) (hword : ∀ c ∈ word, c ∉ Reader.marks) :
    fitsFrom m depth (word.map .char ++ ps) = fitsFrom .code depth ps := by
  induction word generalizing m with
  | nil => exact absurd rfl hne
  | cons c cs ih =>
    have hstep : ({ mode := m, depth } : Reader).step c = some { mode := .code, depth } :=
      Reader.step_of_isOpen hopen (hword c List.mem_cons_self)
    rw [List.map_cons, List.cons_append, fitsFrom, Mode.isQuote_of_isOpen hopen, hstep]
    by_cases hcs : cs = []
    · subst hcs
      simp
    · simpa using ih rfl hcs fun d hd => hword d (List.mem_cons_of_mem c hd)

theorem apartFrom_text {mark : Char} {behind : Bool} {text : List Char} (ps : List Piece)
    (hne : text ≠ []) (hmark : mark ∉ text) :
    apartFrom mark behind (text.map .char ++ ps) = apartFrom mark false ps := by
  induction text generalizing behind with
  | nil => exact absurd rfl hne
  | cons c cs ih =>
    have hc : c ≠ mark := fun hc => hmark (hc ▸ List.mem_cons_self)
    rw [List.map_cons, List.cons_append, apartFrom, decide_eq_false hc]
    by_cases hcs : cs = []
    · subst hcs
      rfl
    · exact ih hcs fun h => hmark (List.mem_cons_of_mem c h)

/-- Names of types are words. -/
theorem isWord_sqlName (t : DataType) : IsWord (some t.sqlName) := by
  rintro l ⟨⟩
  cases t <;> exact ⟨by decide, Text.forall_mem_of_all (by decide)⟩

theorem exists_of_map_eq_ok {ε α β : Type} {x : Except ε α} {f : α → β} {b : β}
    (h : x.map f = .ok b) : ∃ a, x = .ok a ∧ f a = b := by
  cases x with
  | error e => cases h
  | ok a => exact ⟨a, rfl, Except.ok.inj h⟩

/-- What a placeholder becomes. -/
theorem exists_of_assemble_placeholder {signature : List DataType} {isType : Bool} {index : Nat}
    {ps : List Piece} {parts : List Part}
    (h : assemble signature (.placeholder isType index :: ps) = .ok parts) :
    ∃ (t : DataType) (rest : List Part), (0 < index ∧ index ≤ signature.length) ∧
      assemble signature ps = .ok rest ∧
      parts = if isType then consText t.sqlName rest else .child index :: rest := by
  rw [assemble] at h
  by_cases hzero : index = 0
  · -- operands are counted from one
    rw [if_pos hzero] at h
    cases h
  · rw [if_neg hzero] at h
    cases htype : signature[index - 1]? with
    | none => rw [htype] at h; cases h
    | some t =>
      rw [htype] at h
      obtain ⟨hlt, -⟩ := List.getElem?_eq_some_iff.mp htype
      have hindex : 0 < index ∧ index ≤ signature.length := by omega
      cases isType with
      | true =>
        obtain ⟨rest, hrest, hparts⟩ := exists_of_map_eq_ok h
        exact ⟨t, rest, hindex, hrest, hparts.symm⟩
      | false =>
        obtain ⟨rest, hrest, hparts⟩ := exists_of_map_eq_ok h
        exact ⟨t, rest, hindex, hrest, hparts.symm⟩

/-- A template that fits still does when the names of types are put in. -/
theorem fitsFrom_assemble {signature : List DataType} {ps : List Piece} {parts : List Part}
    {m : Mode} {depth : Nat} (h : assemble signature ps = .ok parts)
    (hfits : fitsFrom m depth ps = true) : fitsFrom m depth (pieces parts) = true := by
  -- along the pieces: a character stays, the name of a type is a word, an operand stays a piece
  induction ps generalizing parts m depth with
  | nil => cases h; exact hfits
  | cons p ps ih =>
    cases p with
    | char c =>
      rw [assemble] at h
      obtain ⟨rest, hrest, rfl⟩ := exists_of_map_eq_ok h
      rw [fitsFrom, Bool.and_eq_true] at hfits
      rw [pieces_consText, Char.toString, String.toList_singleton, List.map_singleton,
        List.singleton_append, fitsFrom, hfits.1, Bool.true_and]
      cases hstep : ({ mode := m, depth } : Reader).step c with
      | none => rw [hstep] at hfits; cases hfits.2
      | some r =>
        rw [hstep] at hfits
        obtain ⟨hline, hnext⟩ := Bool.and_eq_true_iff.mp hfits.2
        dsimp only
        rw [hline, ih hrest hnext]
        rfl
    | placeholder isType index =>
      obtain ⟨t, rest, -, hrest, rfl⟩ := exists_of_assemble_placeholder h
      cases isType with
      | true =>
        obtain ⟨hopen, hnext⟩ := Bool.and_eq_true_iff.mp hfits
        obtain ⟨hne, hword⟩ := isWord_sqlName t _ rfl
        rw [if_pos rfl, pieces_consText, fitsFrom_word _ hopen hne hword, ih hrest hnext]
      | false =>
        obtain ⟨hopen, hnext⟩ := Bool.and_eq_true_iff.mp hfits
        rw [if_neg (by decide), pieces, fitsFrom, hopen, ih hrest hnext]
        rfl

/-- Operands still stand apart from a mark when the names of types are put in. -/
theorem apartFrom_assemble {mark : Char} (hmark : mark ∈ Reader.marks) {signature : List DataType}
    {ps : List Piece} {parts : List Part} {behind : Bool} (h : assemble signature ps = .ok parts)
    (hapart : apartFrom mark behind ps = true) : apartFrom mark behind (pieces parts) = true := by
  induction ps generalizing parts behind with
  | nil => cases h; rfl
  | cons p ps ih =>
    cases p with
    | char c =>
      rw [assemble] at h
      obtain ⟨rest, hrest, rfl⟩ := exists_of_map_eq_ok h
      rw [pieces_consText, Char.toString, String.toList_singleton]
      exact ih hrest hapart
    | placeholder isType index =>
      obtain ⟨t, rest, -, hrest, rfl⟩ := exists_of_assemble_placeholder h
      cases isType with
      | true =>
        -- the name of a type is a word, so it brings no mark along
        obtain ⟨hne, hword⟩ := isWord_sqlName t _ rfl
        have hname : mark ∉ t.sqlName.toList := fun hc => hword mark hc hmark
        rw [if_pos rfl, pieces_consText, apartFrom_text _ hne hname]
        exact ih hrest hapart
      | false =>
        obtain ⟨hbehind, hnext⟩ := Bool.and_eq_true_iff.mp hapart
        rw [if_neg (by decide), pieces, apartFrom, hbehind, ih hrest hnext]
        rfl

/-- A template refers to operands that there are. -/
theorem index_of_assemble {signature : List DataType} {ps : List Piece} {parts : List Part}
    (h : assemble signature ps = .ok parts) {index : Nat} (hpart : .child index ∈ parts) :
    0 < index ∧ index ≤ signature.length := by
  induction ps generalizing parts with
  | nil => cases h; cases hpart
  | cons p ps ih =>
    cases p with
    | char c =>
      rw [assemble] at h
      obtain ⟨rest, hrest, rfl⟩ := exists_of_map_eq_ok h
      exact ih hrest (child_mem_of_consText hpart)
    | placeholder isType i =>
      obtain ⟨t, rest, hi, hrest, rfl⟩ := exists_of_assemble_placeholder h
      cases isType with
      | true => exact ih hrest (child_mem_of_consText hpart)
      | false =>
        -- the operand that is asked for is this one or stands further behind
        rcases List.mem_cons.mp hpart with hhere | hpart
        · cases hhere
          exact hi
        · exact ih hrest hpart

/-! ### Reading a template -/

/-- Where the reader stands if the check of a template has come to a mode. Where an operand may have
ended in a literal it may also have ended in code. -/
def Stands (m : Mode) (r : Reader) : Prop :=
  r.mode.shape = m.shape ∨ (m.isQuote = true ∧ r.mode = .code)

section Stands

variable {m : Mode} {r : Reader}

theorem Stands.isOpen (h : Stands m r) (hopen : m.isOpen = true) : r.mode.isOpen = true := by
  rcases h with hmode | ⟨hquote, -⟩
  · rw [← Mode.isOpen_shape, hmode, Mode.isOpen_shape, hopen]
  · rw [Mode.isQuote_of_isOpen hopen] at hquote
    cases hquote

theorem Stands.isRest (h : Stands m r) (hrest : m.isRest = true) : r.mode.isRest = true := by
  rcases h with hmode | ⟨-, hcode⟩
  · rw [← Mode.isRest_shape, hmode, Mode.isRest_shape, hrest]
  · rw [hcode]
    rfl

/-- After an operand. -/
theorem stands_of_isRest (h : r.mode.isRest = true) : Stands (.quote []) r := by
  rcases Mode.isRest_iff.mp h with hquote | hcode
  · exact .inl (Mode.shape_of_isQuote hquote)
  · exact .inr ⟨rfl, hcode⟩

end Stands

/-- The reader stands where the check does, `n` levels deeper. -/
structure Standing (m : Mode) (depth n : Nat) (r : Reader) : Prop where
  mode : Stands m r
  depth : r.depth = depth + n

section Standing

variable {m : Mode} {depth n : Nat} {r : Reader} {ps : List Piece}

/-- One character of a template that fits. -/
theorem Standing.step (h : Standing m depth n r) {c : Char}
    (hfits : fitsFrom m depth (.char c :: ps) = true) :
    ∃ m' depth' r', r.step c = some r' ∧ Standing m' depth' n r' ∧
      r'.lineComment = r.lineComment ∧ fitsFrom m' depth' ps = true := by
  obtain ⟨hquote, hfits⟩ := Bool.and_eq_true_iff.mp hfits
  cases hstep : ({ mode := m, depth } : Reader).step c with
  | none => rw [hstep] at hfits; cases hfits
  | some s =>
    rw [hstep] at hfits
    obtain ⟨hline, hnext⟩ := Bool.and_eq_true_iff.mp hfits
    rcases h.mode with hmode | ⟨hm, hcode⟩
    · -- the readers agree but for the depth, so they take the character alike
      have hshifts : Reader.Shifts n r.lineComment { mode := m, depth } r :=
        ⟨hmode, h.depth, (Bool.or_false _).symm⟩
      obtain ⟨s', hstep', hs⟩ := hshifts.step hstep
      refine ⟨s.mode, s.depth, s', hstep', ⟨.inl hs.mode, hs.depth⟩, ?_, hnext⟩
      rw [hs.line, (Bool.not_eq_true' _).mp hline, Bool.or_false]
    · -- the operand before ended in code, which leaves out only the end of the literal
      cases m with
      | quote content =>
        have hne : c ≠ '\'' := by simpa [Mode.isQuote] using hquote
        have hshifts : Reader.Shifts n r.lineComment
            { mode := .quote content, depth, literals := [] ++ [String.ofList content] }
            { r with mode := .quote content } :=
          ⟨rfl, h.depth, (Bool.or_false _).symm⟩
        obtain ⟨s', hstep', hs⟩ := hshifts.code ((if_neg hne).symm.trans hstep)
        refine ⟨s.mode, s.depth, s', ?_, ⟨.inl hs.mode, hs.depth⟩, ?_, hnext⟩
        · unfold Reader.step
          rw [hcode]
          exact hstep'
        · rw [hs.line, (Bool.not_eq_true' _).mp hline, Bool.or_false]
      | _ => cases hm

/-- Text of a template that fits. -/
theorem Standing.run (h : Standing m depth n r) {cs : List Char}
    (hfits : fitsFrom m depth (cs.map .char ++ ps) = true) :
    ∃ m' depth' r', r.run cs = some r' ∧ Standing m' depth' n r' ∧
      r'.lineComment = r.lineComment ∧ fitsFrom m' depth' ps = true := by
  induction cs generalizing m depth r with
  | nil => exact ⟨m, depth, r, rfl, h, rfl, hfits⟩
  | cons c cs ih =>
    obtain ⟨m₁, depth₁, r₁, hstep, hstanding, hline, hnext⟩ := h.step hfits
    obtain ⟨m₂, depth₂, r₂, hrun, hstanding', hline', hlast⟩ := ih hstanding hnext
    exact ⟨m₂, depth₂, r₂, by rw [Reader.run_cons hstep, hrun], hstanding', hline'.trans hline,
      hlast⟩

/-- No quote follows where an operand may have ended in a literal. -/
theorem Standing.head?_ne (h : Standing m depth n r) {cs : List Char}
    (hfits : fitsFrom m depth (cs.map .char ++ ps) = true) (hquote : r.mode.isQuote = true) :
    cs.head? ≠ some '\'' := by
  have hm : m.isQuote = true := by
    rcases h.mode with hmode | ⟨hm, -⟩
    · rw [← Mode.isQuote_shape, ← hmode, Mode.isQuote_shape, hquote]
    · exact hm
  cases cs with
  | nil => nofun
  | cons c cs =>
    obtain ⟨hne, -⟩ := Bool.and_eq_true_iff.mp hfits
    rw [hm, Bool.true_and, Bool.not_eq_true', decide_eq_false_iff_not] at hne
    rintro ⟨⟩
    exact hne rfl

end Standing

end QueryExpr.Template

namespace QueryExpr.Registry

/-! ### Where rules come from -/

/-- The rule is one of the row: of its kind of node, with its template for the types of the rule. -/
def OfRow (row : NodeType × String × String) (rule : Rule) : Prop :=
  rule.nodeType = row.1 ∧ Template.parse row.2.2 rule.signature = .ok rule.template

theorem latest_insertRule (reg : Registry) (rule : Rule) :
    (reg.insertRule rule).latest = rule :: reg.latest := by
  unfold insertRule
  dsimp only
  split <;> rfl

theorem ofRow_of_ruleOf? {reg : Registry} {nodeType : NodeType} {spec template : String}
    {namePosition : Option Nat} {combination : List Spec.Member} {rule : Rule}
    (h : reg.ruleOf? nodeType spec template namePosition combination = .ok (some rule)) :
    OfRow (nodeType, spec, template) rule := by
  obtain ⟨items, -, h⟩ := exists_of_bind_eq_ok h
  split at h
  · dsimp only at h
    split_ifs at h with htaken
    · cases h
    · obtain ⟨parts, hparts, h⟩ := exists_of_bind_eq_ok h
      cases h
      exact ⟨rfl, hparts⟩
  · cases h

/-- Registering combinations adds rules of the row only. -/
theorem mem_addCombinations {nodeType : NodeType} {spec template : String}
    {namePosition : Option Nat} {combinations : List (List Spec.Member)} {reg : Registry}
    {rule : Rule}
    (h : rule ∈ (addCombinations nodeType spec template namePosition reg combinations).1.latest) :
    rule ∈ reg.latest ∨ OfRow (nodeType, spec, template) rule := by
  induction combinations generalizing reg with
  | nil => exact .inl h
  | cons c cs ih =>
    rw [addCombinations] at h
    split at h
    · exact .inl h
    · rcases ih h with hmem | hrow
      · exact .inl hmem
      · exact .inr hrow
    · next new hnew =>
      -- the new rule is of the row, and the others come from before or after it
      rcases ih h with hmem | hrow
      · rw [latest_insertRule] at hmem
        rcases List.mem_cons.mp hmem with rfl | hmem
        · exact .inr (ofRow_of_ruleOf? hnew)
        · exact .inl hmem
      · exact .inr hrow

theorem mem_add {reg : Registry} {nodeType : NodeType} {spec template : String} {rule : Rule}
    (h : rule ∈ (reg.add nodeType spec template).1.latest) :
    rule ∈ reg.latest ∨ OfRow (nodeType, spec, template) rule := by
  unfold add at h
  split at h
  · exact .inl h
  · exact mem_addCombinations h

/-- **Every rule of a table comes from one of its rows.** -/
theorem exists_ofRow_of_mem {table : List (NodeType × String × String)} {rule : Rule}
    (h : rule ∈ (ofTable table).latest) : ∃ row ∈ table, OfRow row rule := by
  -- what is registered already moves to the front while the table is gone through
  suffices hfold : ∀ reg : Registry,
      rule ∈ (table.foldl (fun reg row => (reg.add row.1 row.2.1 row.2.2).1) reg).latest →
        rule ∈ reg.latest ∨ ∃ row ∈ table, OfRow row rule from
    (hfold {} h).resolve_left List.not_mem_nil
  clear h
  induction table with
  | nil => exact fun reg hmem => .inl hmem
  | cons row table ih =>
    intro reg hmem
    rcases ih _ hmem with hmem | ⟨row', hrow', hof⟩
    · rcases mem_add hmem with hmem | hof
      · exact .inl hmem
      · exact .inr ⟨row, List.mem_cons_self, hof⟩
    · exact .inr ⟨row', List.mem_cons_of_mem _ hrow', hof⟩

end QueryExpr.Registry

namespace QueryExpr

/-! ### The standard rules -/

/-- The templates of a table as characters, each with the kind of node that it is for. Those of fields
and constants are left out. -/
inductive Template.Texts : List (NodeType × String × String) → List (NodeType × List Char) → Prop where
  | nil : Texts [] []
  | leaf {nodeType : NodeType} {spec template : String} {table : List (NodeType × String × String)}
      {texts : List (NodeType × List Char)} (h : nodeType.isLeaf = true) (rest : Texts table texts) :
      Texts ((nodeType, spec, template) :: table) texts
  | cons {nodeType : NodeType} {spec template : String} {table : List (NodeType × String × String)}
      {text : List Char} {texts : List (NodeType × List Char)} (h : template = String.ofList text)
      (rest : Texts table texts) :
      Texts ((nodeType, spec, template) :: table) ((nodeType, text) :: texts)

theorem Template.Texts.append {table table' : List (NodeType × String × String)}
    {texts texts' : List (NodeType × List Char)} (h : Template.Texts table texts)
    (h' : Template.Texts table' texts') :
    Template.Texts (table ++ table') (texts ++ texts') := by
  induction h with
  | nil => exact h'
  | leaf hleaf _ ih => exact .leaf hleaf ih
  | cons htext _ ih => exact .cons htext ih

/-- Templates pass a check if their characters do. -/
theorem Template.Texts.all (check : NodeType × List Char → Bool)
    {table : List (NodeType × String × String)} {texts : List (NodeType × List Char)}
    (h : Template.Texts table texts) (hcheck : texts.all check = true) :
    ∀ row ∈ table, row.1.isLeaf = true ∨ check (row.1, row.2.2.toList) = true := by
  induction h with
  | nil => exact fun row hrow => nomatch hrow
  | leaf hleaf _ ih =>
    intro row hrow
    rcases List.mem_cons.mp hrow with rfl | hrow
    · exact .inl hleaf
    · exact ih hcheck row hrow
  | cons htext _ ih =>
    rw [List.all_cons, Bool.and_eq_true] at hcheck
    intro row hrow
    rcases List.mem_cons.mp hrow with rfl | hrow
    · refine .inr ?_
      rw [htext, String.toList_ofList]
      exact hcheck.1
    · exact ih hcheck.2 row hrow

/-- The kinds of nodes whose templates may have a minus directly in front of an operand. -/
def Standard.negators : List NodeType := [.unary .neg, .unary .bitNot, .binary .sub]

/-- **All templates of the standard rules fit**, but for the empty ones of nodes that do not use them.
No operand stands directly behind a slash, and only few kinds of nodes have one behind a minus. -/
theorem Standard.fits_of_mem_table {row : NodeType × String × String} (h : row ∈ Standard.table)
    (hleaf : row.1.isLeaf = false) :
    Template.fits row.2.2 = true ∧
      Template.apartFrom '/' false (Template.piecesFrom 0 row.2.2.toList) = true ∧
      (row.1 ∈ negators ∨
        Template.apartFrom '-' false (Template.piecesFrom 0 row.2.2.toList) = true) := by
  have hrows : ∀ row ∈ table, row.1.isLeaf = true ∨ (Template.fits row.2.2 &&
      (Template.apartFrom '/' false (Template.piecesFrom 0 row.2.2.toList) &&
        (decide (row.1 ∈ negators) ||
          Template.apartFrom '-' false (Template.piecesFrom 0 row.2.2.toList)))) = true := by
    -- the literals are taken apart once and for all, and then everything is computed
    apply Template.Texts.all fun (nodeType, text) =>
      ([Sql.Mode.code, .dash, .slash].all fun m =>
        Template.fitsFrom m 0 (Template.piecesFrom 0 text)) &&
      (Template.apartFrom '/' false (Template.piecesFrom 0 text) &&
        (decide (nodeType ∈ negators) || Template.apartFrom '-' false (Template.piecesFrom 0 text)))
    · unfold table
      repeat apply Template.Texts.append
      all_goals
        dsimp only [constantRules, conversionRules, functionRules, requestRules, methodRules,
          attributeRules, equalityRules, orderRules, arithmeticRules, logicRules, membershipRules,
          itemRules, bitRules, unaryRules, choiceRules, sliceRules]
        repeat first | exact .nil | apply Template.Texts.leaf rfl | apply Template.Texts.cons rfl
    · decide +kernel
  rcases hrows row h with hrow | hrow
  · rw [hleaf] at hrow
    cases hrow
  · simpa only [Bool.and_eq_true, Bool.or_eq_true, decide_eq_true_eq] using hrow

/-- The rule that is found for operands of certain types has the template of a row for these types. -/
theorem Registry.exists_parse_of_lookup {nodeType : NodeType} {name : Option String}
    {signature : List DataType} {rule : Rule}
    (h : Registry.standard.lookup nodeType name signature = some rule) :
    ∃ row ∈ Standard.table, row.1 = nodeType ∧
      Template.parse row.2.2 signature = .ok rule.template := by
  rw [lookup] at h
  have hfor : rule.isFor nodeType name signature = true := by simpa using List.find?_some h
  have hmem := List.mem_of_find?_eq_some h
  rw [standard] at hmem
  obtain ⟨row, hrow, htype, hparse⟩ := exists_ofRow_of_mem hmem
  simp only [Rule.isFor, Bool.and_eq_true, decide_eq_true_eq] at hfor
  refine ⟨row, hrow, ?_, ?_⟩
  · rw [← htype, hfor.1.1]
  · rw [← hfor.2, hparse]

/-- **The template of a standard rule fits**, whatever the types of its operands. -/
theorem Registry.fitsFrom_of_lookup {nodeType : NodeType} {name : Option String}
    {signature : List DataType} {rule : Rule} (hleaf : nodeType.isLeaf = false)
    (h : Registry.standard.lookup nodeType name signature = some rule) {m : Sql.Mode}
    (hopen : m.isOpen = true) :
    Template.fitsFrom m 0 (Template.pieces rule.template) = true := by
  obtain ⟨row, hrow, rfl, hparse⟩ := exists_parse_of_lookup h
  have hfits := (Standard.fits_of_mem_table hrow hleaf).1
  exact Template.fitsFrom_assemble hparse
    (List.all_eq_true.mp hfits m (Sql.Mode.mem_of_isOpen hopen))

/-- In the template of a standard rule no operand stands directly behind a slash, and but for few kinds
of nodes none behind a minus. -/
theorem Registry.apartFrom_of_lookup {nodeType : NodeType} {name : Option String}
    {signature : List DataType} {rule : Rule} (hleaf : nodeType.isLeaf = false)
    (h : Registry.standard.lookup nodeType name signature = some rule) :
    Template.apartFrom '/' false (Template.pieces rule.template) = true ∧
      (nodeType ∈ Standard.negators ∨
        Template.apartFrom '-' false (Template.pieces rule.template) = true) := by
  obtain ⟨row, hrow, rfl, hparse⟩ := exists_parse_of_lookup h
  obtain ⟨-, hslash, hdash⟩ := Standard.fits_of_mem_table hrow hleaf
  exact ⟨Template.apartFrom_assemble (by decide) hparse hslash,
    hdash.imp_right (Template.apartFrom_assemble (by decide) hparse)⟩

/-- The template of a standard rule refers to its operands only. -/
theorem Registry.index_of_lookup {nodeType : NodeType} {name : Option String}
    {signature : List DataType} {rule : Rule}
    (h : Registry.standard.lookup nodeType name signature = some rule) {index : Nat}
    (hpart : .child index ∈ rule.template) : 0 < index ∧ index ≤ signature.length := by
  obtain ⟨row, -, -, hparse⟩ := exists_parse_of_lookup h
  exact Template.index_of_assemble hparse hpart

end QueryExpr
