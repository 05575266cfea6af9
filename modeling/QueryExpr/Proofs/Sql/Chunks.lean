import QueryExpr.Proofs.Query.Runs
import QueryExpr.Proofs.Sql.Templates

/-!
# SQL in chunks

The text of emitted SQL does not show any more where it comes from. Here SQL is emitted as a list of
chunks in which string constants stand by themselves; the text is what the chunks give one after the
other (`Term.render_emitChunks`). What the reader makes of the chunks can then be said chunk by chunk
(`Reads`), and for an emission as a whole by what it leads from and to (`Chunked.Leads`).
-/

namespace QueryExpr.Sql

/-- What emitted SQL is put together from. -/
inductive Chunk where
  | code (sql : String)
  /-- A string constant. -/
  | string (value : String)
  deriving DecidableEq, Repr

namespace Chunk

/-- The SQL of a chunk. -/
def sql : Chunk → String
  | .code sql => sql
  | .string value => quote value

/-- The characters of several chunks. -/
def text (chunks : List Chunk) : List Char := chunks.flatMap fun chunk => chunk.sql.toList

theorem text_cons (chunk : Chunk) (chunks : List Chunk) :
    text (chunk :: chunks) = chunk.sql.toList ++ text chunks := rfl

theorem text_append (xs ys : List Chunk) : text (xs ++ ys) = text xs ++ text ys :=
  List.flatMap_append

/-- The SQL of several chunks. -/
def join (chunks : List Chunk) : String := String.ofList (text chunks)

theorem join_append (xs ys : List Chunk) : join (xs ++ ys) = join xs ++ join ys := by
  rw [join, text_append, String.ofList_append]
  rfl

theorem join_singleton (chunk : Chunk) : join [chunk] = chunk.sql := by
  rw [join, text_cons, text, List.flatMap_nil, List.append_nil, String.ofList_toList]

end Chunk

/-! ### Reading chunks -/

/-- The reader gets through the chunks. String constants stand in code, and no chunk goes on with a
literal at the end of what stands before it. -/
inductive Reads : Reader → List Chunk → Reader → Prop where
  | nil (r : Reader) : Reads r [] r
  | cons {r r' r'' : Reader} {chunk : Chunk} {chunks : List Chunk}
      (opens : ∀ value, chunk = .string value → r.mode.isOpen = true)
      (apart : r.mode.isQuote = true → chunk.sql.toList.head? ≠ some '\'')
      (here : r.run chunk.sql.toList = some r') (rest : Reads r' chunks r'') :
      Reads r (chunk :: chunks) r''

/-- The value is one literal of the SQL, between what stands before and after it: the reader comes to
it in code, gets the value out of it, and the literal does not go on. -/
def IsLiteral (front : List Char) (value : String) (back : List Char) : Prop :=
  (∃ r : Reader, ({} : Reader).run front = some r ∧ r.mode.isOpen = true ∧
    r.run (quote value).toList = some { r with mode := .quote value.toList }) ∧
  back.head? ≠ some '\''

namespace Reads

variable {r r' r'' : Reader} {xs ys : List Chunk}

/-- What is read in two parts is read as a whole. -/
theorem append (h : Reads r xs r') (h' : Reads r' ys r'') : Reads r (xs ++ ys) r'' := by
  induction h with
  | nil => exact h'
  | cons opens apart here _ ih => exact .cons opens apart here (ih h')

/-- What is read as a whole is read in two parts. -/
theorem split (h : Reads r (xs ++ ys) r'') : ∃ r', Reads r xs r' ∧ Reads r' ys r'' := by
  induction xs generalizing r with
  | nil => exact ⟨r, .nil r, h⟩
  | cons chunk xs ih =>
    cases h with
    | cons opens apart here rest =>
      obtain ⟨r', hfront, hback⟩ := ih rest
      exact ⟨r', .cons opens apart here hfront, hback⟩

/-- The text is read as the chunks are. -/
theorem run (h : Reads r xs r') : r.run (Chunk.text xs) = some r' := by
  induction h with
  | nil => rfl
  | cons _ _ here _ ih => exact Reader.run_trans here ih

/-- No quote follows a literal at the end. -/
theorem head?_ne (h : Reads r xs r') (hquote : r.mode.isQuote = true) :
    (Chunk.text xs).head? ≠ some '\'' := by
  induction h with
  | nil => nofun
  | @cons r _ _ chunk _ _ apart here _ ih =>
    rw [Chunk.text_cons, List.head?_append]
    cases hchunk : chunk.sql.toList with
    | nil =>
      -- an empty chunk leaves the reader where it is
      rw [hchunk, Reader.run_nil] at here
      cases here
      exact ih hquote
    | cons c cs =>
      have hne := apart hquote
      rw [hchunk] at hne
      exact hne

/-- **A string constant is one literal.** -/
theorem isLiteral {value : String} (h : Reads {} (xs ++ .string value :: ys) r')
    (hvalue : value ≠ "") : IsLiteral (Chunk.text xs) value (Chunk.text ys) := by
  obtain ⟨r, hfront, hback⟩ := h.split
  cases hback with
  | cons opens _ here rest =>
    have hopen := opens value rfl
    have hquote : r.run (quote value).toList = some { r with mode := .quote value.toList } :=
      Reader.run_quote hvalue hopen
    obtain rfl := Option.some.inj (here.symm.trans hquote)
    exact ⟨⟨r, hfront.run, hopen, hquote⟩, rest.head?_ne rfl⟩

end Reads

end QueryExpr.Sql

namespace QueryExpr

open Sql

/-! ### Emitting chunks -/

/-- Makes SQL in chunks while registering tables, or fails at a node that has no rule. -/
abbrev Chunked := Joins → Joins × Except Term (List Chunk)

namespace Chunked

/-- One chunk. -/
def single (chunk : Chunk) : Chunked := fun j => (j, .ok [chunk])

/-- One emission after the other. -/
def append (a b : Chunked) : Chunked := fun j =>
  match a j with
  | (j, .error t) => (j, .error t)
  | (j, .ok front) =>
    match b j with
    | (j, .error t) => (j, .error t)
    | (j, .ok back) => (j, .ok (front ++ back))

/-- Several emissions, with commas between them. -/
def items : List Chunked → Chunked
  | [] => single (.code "")
  | [e] => e
  | e :: es => e.append ((single (.code ", ")).append (items es))

/-- A template with the emissions of the operands put in. -/
def template (operands : List Chunked) : List Part → Chunked
  | [] => single (.code "")
  | .literal sql :: parts => (single (.code sql)).append (template operands parts)
  | .child 0 :: parts => template operands parts
  | .child (index + 1) :: parts =>
    match operands[index]? with
    | some e => e.append (template operands parts)
    | none => template operands parts

/-- The text of what is emitted. -/
def render (e : Chunked) : Emission := fun j => ((e j).1, (e j).2.map Chunk.join)

theorem render_single (chunk : Chunk) : (single chunk).render = .text chunk.sql := by
  funext j
  rw [Emission.text, ← Chunk.join_singleton]
  rfl

theorem render_append (a b : Chunked) : (a.append b).render = a.render.append b.render := by
  funext j
  simp only [render, append, Emission.append]
  rcases ha : a j with ⟨j', t | front⟩
  · rfl
  · rcases hb : b j' with ⟨j'', t | back⟩
    · simp [hb, Except.map]
    · simp [hb, Except.map, Chunk.join_append]

theorem render_items (es : List Chunked) : (items es).render = Emission.items (es.map render) := by
  induction es with
  | nil => exact render_single _
  | cons e es ih =>
    cases es with
    | nil => rfl
    | cons e' es =>
      rw [items, render_append, render_append, render_single, ih]
      · rfl
      · nofun

/-- A template is filled in the same way with chunks as with texts. -/
theorem render_template (operands : List Chunked) (parts : List Part) :
    (template operands parts).render = Emission.template (operands.map render) parts := by
  induction parts with
  | nil => exact render_single _
  | cons part parts ih =>
    rcases part with sql | _ | index
    · rw [template, Emission.template, render_append, render_single, ih]
      rfl
    · rw [template, Emission.template, ih]
    · rw [template, Emission.template, List.getElem?_map]
      cases operands[index]? with
      | none => exact ih
      | some e => rw [render_append, ih]; rfl

end Chunked

/-- The chunk of a constant. -/
def Constant.chunk : Constant → Chunk
  | .str value | .clob value => .string value
  | value => .code (Sql.constant value)

/-- The chunk of a constant is written as the constant is. -/
theorem Constant.sql_chunk (value : Constant) : value.chunk.sql = Sql.constant value := by
  cases value <;> rfl

namespace Term

mutual

/-- The SQL of a term, in chunks. -/
def emitChunks (groups : Groups) : Term → Chunked
  | .node head verdict content slots =>
    match head with
    | .field identifier field => fun j =>
      let t : Term := .node head verdict content slots
      let (j, label) := t.register groups j
      (j, .ok [.code (t.fieldSql identifier field slots.head? label)])
    | .const value => .single value.chunk
    | .list | .set =>
      match verdict.dataType.bind Sql.collection? with
      | some (front, back) =>
        (Chunked.single (.code front)).append
          ((Chunked.items (emitChunksAll groups slots)).append (.single (.code back)))
      | none => .single (.code (toString slots.length))
    | _ =>
      match rule? (.node head verdict content slots) with
      | some rule => .template (emitChunksAll groups slots) rule.template
      | none => fun j => (j, .error (.node head verdict content slots))

/-- The SQL of each of several terms, in chunks. -/
def emitChunksAll (groups : Groups) : List Term → List Chunked
  | [] => []
  | t :: ts => t.emitChunks groups :: emitChunksAll groups ts

end

open Chunked in
mutual

/-- **The chunks give the SQL of the term.** -/
theorem render_emitChunks (groups : Groups) :
    ∀ t : Term, (t.emitChunks groups).render = t.emit groups
  | .node head verdict content slots => by
    have hslots := render_emitChunksAll groups slots
    cases head with
    | field identifier field =>
      funext j
      simp only [emitChunks, emit, emitField, render, Except.map]
      rw [Chunk.join_singleton]
      rfl
    | const value =>
      rw [emitChunks, emit, render_single, Constant.sql_chunk]
    -- the items of a collection, between its ends
    | list | set =>
      rw [emitChunks, emit]
      cases verdict.dataType.bind Sql.collection? with
      | none => exact render_single _
      | some ends =>
        rw [render_append, render_append, render_single, render_single, render_items, hslots]
        rfl
    | _ =>
      unfold emitChunks emit
      dsimp only
      -- which rule there is does not matter, only that it is the same on both sides
      generalize rule? _ = rule
      cases rule with
      | none => rfl
      | some rule => exact (render_template _ _).trans (by rw [hslots])

theorem render_emitChunksAll (groups : Groups) :
    ∀ ts : List Term, (emitChunksAll groups ts).map render = emitAll groups ts
  | [] => rfl
  | t :: ts => by
    rw [emitChunksAll, emitAll, List.map_cons, render_emitChunks groups t,
      render_emitChunksAll groups ts]

end

end Term

/-! ### What an emission leads from and to -/

namespace Chunked

/-- Code, at a depth of parentheses. -/
def Open (n : Nat) (r : Reader) : Prop := r.mode.isOpen = true ∧ r.depth = n

/-- The end of an operand, at a depth of parentheses. -/
def Rest (n : Nat) (r : Reader) : Prop := r.mode.isRest = true ∧ r.depth = n

/-- A place in a template from where the rest of it fits, when the template stands at a depth of
parentheses. -/
def Fits (ps : List Template.Piece) (n : Nat) (r : Reader) : Prop :=
  ∃ m depth, Template.Standing m depth n r ∧ Template.fitsFrom m depth ps = true

/-- From aliases that are numbered the emission succeeds and keeps them so, and its chunks lead the
reader from one place to another. If it is quiet, it makes no comment to the end of the line. -/
def Leads (quiet : Prop) (pre post : Nat → Reader → Prop) (e : Chunked) : Prop :=
  ∀ j : Joins, j.Labelled → ∃ j' chunks, e j = (j', .ok chunks) ∧ j'.Labelled ∧
    ∀ n r, pre n r → ∃ r', Reads r chunks r' ∧ post n r' ∧
      (quiet → r'.lineComment = r.lineComment)

/-- The emission is an operand: it can stand wherever there is code. -/
def Sound (quiet : Prop) (e : Chunked) : Prop := Leads quiet Open Rest e

variable {quiet : Prop} {pre mid post pre' post' : Nat → Reader → Prop} {a b e : Chunked}

/-- More may be known before, and less is asked for behind. -/
theorem Leads.mono (h : Leads quiet pre post e) (hpre : ∀ n r, pre' n r → pre n r)
    (hpost : ∀ n r, post n r → post' n r) : Leads quiet pre' post' e := by
  intro j hj
  obtain ⟨j', chunks, he, hj', hchunks⟩ := h j hj
  refine ⟨j', chunks, he, hj', fun n r hr => ?_⟩
  obtain ⟨r', hreads, hr', hline⟩ := hchunks n r (hpre n r hr)
  exact ⟨r', hreads, hpost n r' hr', hline⟩

/-- One emission behind the other. -/
theorem Leads.append (ha : Leads quiet pre mid a) (hb : Leads quiet mid post b) :
    Leads quiet pre post (a.append b) := by
  intro j hj
  obtain ⟨j₁, xs, ha, hj₁, hxs⟩ := ha j hj
  obtain ⟨j₂, ys, hb, hj₂, hys⟩ := hb j₁ hj₁
  refine ⟨j₂, xs ++ ys, by simp only [Chunked.append, ha, hb], hj₂, fun n r hr => ?_⟩
  obtain ⟨r₁, hread₁, hr₁, hline₁⟩ := hxs n r hr
  obtain ⟨r₂, hread₂, hr₂, hline₂⟩ := hys n r₁ hr₁
  exact ⟨r₂, hread₁.append hread₂, hr₂, fun hq => (hline₂ hq).trans (hline₁ hq)⟩

/-- Code that is a chunk by itself. -/
theorem leads_code {sql : String}
    (h : ∀ n r, pre n r → (r.mode.isQuote = true → sql.toList.head? ≠ some '\'') ∧
      ∃ r', r.run sql.toList = some r' ∧ post n r' ∧ (quiet → r'.lineComment = r.lineComment)) :
    Leads quiet pre post (single (.code sql)) := by
  refine fun j hj => ⟨j, [.code sql], rfl, hj, fun n r hr => ?_⟩
  obtain ⟨happart, r', hrun, hr', hline⟩ := h n r hr
  exact ⟨r', .cons nofun happart hrun (.nil r'), hr', hline⟩

/-- Code that can stand as an operand. -/
theorem sound_code {sql : String}
    (h : ∀ r : Reader, r.mode.isOpen = true → ∃ r', r.run sql.toList = some r' ∧
      r'.mode.isRest = true ∧ r'.depth = r.depth ∧ (quiet → r'.lineComment = r.lineComment)) :
    Sound quiet (single (.code sql)) := by
  refine leads_code fun n r hr => ⟨fun hquote => ?_, ?_⟩
  · rw [Mode.isQuote_of_isOpen hr.1] at hquote
    cases hquote
  · obtain ⟨r', hrun, hrest, hdepth, hline⟩ := h r hr.1
    exact ⟨r', hrun, ⟨hrest, hdepth.trans hr.2⟩, hline⟩

/-! ### Templates -/

section Template

variable {ps : List Template.Piece}

/-- The text of a template. -/
theorem leads_text (sql : String) :
    Leads quiet (Fits (sql.toList.map .char ++ ps)) (Fits ps) (single (.code sql)) := by
  refine leads_code fun n r hr => ?_
  obtain ⟨m, depth, hstanding, hfits⟩ := hr
  obtain ⟨m', depth', r', hrun, hstanding', hline, hfits'⟩ := hstanding.run hfits
  exact ⟨hstanding.head?_ne hfits, r', hrun, ⟨m', depth', hstanding', hfits'⟩, fun _ => hline⟩

/-- An operand of a template. -/
theorem Sound.leads (h : Sound quiet e) (index : Nat) :
    Leads quiet (Fits (.placeholder false index :: ps)) (Fits ps) e := by
  intro j hj
  obtain ⟨j', chunks, he, hj', hchunks⟩ := h j hj
  refine ⟨j', chunks, he, hj', fun n r hr => ?_⟩
  obtain ⟨m, depth, hstanding, hfits⟩ := hr
  obtain ⟨hopen, hnext⟩ := Bool.and_eq_true_iff.mp hfits
  -- a place for an operand is in code, and the operand leaves the depth as it was
  have hr : r.mode.isOpen = true := hstanding.mode.isOpen hopen
  obtain ⟨r', hreads, ⟨hrest, hdepth⟩, hline⟩ := hchunks r.depth r ⟨hr, rfl⟩
  exact ⟨r', hreads, ⟨.quote [], depth,
    ⟨Template.stands_of_isRest hrest, hdepth.trans hstanding.depth⟩, hnext⟩, hline⟩

/-- At the end of a template nothing is open. -/
theorem rest_of_fits_nil {n : Nat} {r : Reader} (h : Fits [] n r) : Rest n r := by
  obtain ⟨m, depth, hstanding, hfits⟩ := h
  obtain ⟨hdepth, hrest⟩ := Bool.and_eq_true_iff.mp hfits
  exact ⟨hstanding.mode.isRest hrest,
    by rw [hstanding.depth, of_decide_eq_true hdepth, Nat.zero_add]⟩

/-- Where there is code there is a place for a template that fits. -/
theorem fits_of_open {n : Nat} {r : Reader} (hr : Open n r)
    (h : ∀ m : Mode, m.isOpen = true → Template.fitsFrom m 0 ps = true) : Fits ps n r :=
  ⟨r.mode, 0, ⟨.inl rfl, hr.2.trans (Nat.zero_add n).symm⟩, h r.mode hr.1⟩

/-- The rest of a template, with its operands. -/
theorem leads_template {operands : List Chunked} (h : ∀ e ∈ operands, Sound quiet e)
    {parts : List Part}
    (hparts : ∀ index, .child index ∈ parts → 0 < index ∧ index ≤ operands.length) :
    Leads quiet (Fits (Template.pieces parts)) Rest (template operands parts) := by
  induction parts with
  | nil =>
    have htext : Leads quiet (Fits []) (Fits []) (single (.code "")) := leads_text ""
    exact htext.mono (fun _ _ hr => hr) fun _ _ hr => rest_of_fits_nil hr
  | cons part parts ih =>
    have hrest := ih fun index hindex => hparts index (List.mem_cons_of_mem part hindex)
    rcases part with sql | _ | index
    · exact (leads_text sql).append hrest
    · -- operands are counted from one
      exact absurd (hparts 0 List.mem_cons_self).1 (Nat.lt_irrefl 0)
    · have hlt : index < operands.length := (hparts (index + 1) List.mem_cons_self).2
      rw [template, List.getElem?_eq_getElem hlt]
      exact ((h _ (List.getElem_mem hlt)).leads (index + 1)).append hrest

/-- Items with commas between them. -/
theorem sound_items {es : List Chunked} (hne : es ≠ []) (h : ∀ e ∈ es, Sound quiet e) :
    Sound quiet (items es) := by
  induction es with
  | nil => exact absurd rfl hne
  | cons e es ih =>
    cases es with
    | nil => exact h e List.mem_cons_self
    | cons e' es =>
      -- the comma completes the literal at the end of an item, if there is one
      have hcomma : Leads quiet Rest Open (single (.code ", ")) := by
        refine leads_code fun n r hr => ⟨fun _ => by decide, ?_⟩
        obtain ⟨s, hstep, hmode, hdepth, hline⟩ :=
          Reader.exists_step_of_isCode (Mode.isCode_of_isRest hr.1) (c := ',') (by decide)
        have hopen : s.mode.isOpen = true := by rw [hmode]; rfl
        refine ⟨{ s with mode := .code }, ?_, ⟨rfl, hdepth.trans hr.2⟩, fun _ => hline⟩
        rw [show ", ".toList = [',', ' '] from rfl, Reader.run_cons hstep,
          Reader.run_cons (Reader.step_of_isOpen hopen (by decide)), Reader.run_nil]
      have hrest := ih (by nofun) fun d hd => h d (List.mem_cons_of_mem e hd)
      exact (h e List.mem_cons_self).append (hcomma.append hrest)

end Template

end Chunked

end QueryExpr
