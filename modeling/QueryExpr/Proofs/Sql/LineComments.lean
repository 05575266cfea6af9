import QueryExpr.Proofs.Rule.Expansion
import QueryExpr.Proofs.Sql.Dashes
import QueryExpr.Proofs.Sql.Emission

/-!
# Line comments by accident

Some templates have a minus directly in front of an operand, and the SQL of a negative number begins
with a minus. Where the two come together, there is a comment to the end of the line in the SQL. The
number need not be the operand itself: some templates begin with an operand, which then gives the SQL of
the node its first character.

What a term says about this (`Term.Signed`, `Term.Clashes`) is defined by the templates of its rules, and
the SQL is shown to be so by induction over the term (`Term.Judged.givesOperand`): constants, references
to fields, collections and rules give emissions whose SQL has dashes just where the term says so.
-/

namespace QueryExpr

open Sql Chunked

/-! ### Constants -/

section Constants

variable {r : Reader}

theorem Chunked.Sound.exists_run {chunk : Chunk} (h : Sound True (single chunk))
    (hopen : r.mode.isOpen = true) :
    ∃ r', r.run chunk.sql.toList = some r' ∧ r'.mode.isRest = true ∧
      r'.lineComment = r.lineComment := by
  have hstart : ({} : Joins).Labelled := fun path label hget => nomatch hget
  obtain ⟨j, chunks, hsingle, -, hchunks⟩ := h {} hstart
  cases hsingle
  obtain ⟨r', hreads, ⟨hrest, -⟩, hline⟩ := hchunks r.depth r ⟨hopen, rfl⟩
  have hrun := hreads.run
  rw [Chunk.text_cons, Chunk.text, List.flatMap_nil, List.append_nil] at hrun
  exact ⟨r', hrun, hrest, hline trivial⟩

/-- SQL that can stand behind a dash does not begin with one. -/
theorem Sql.Operand.of_sound {chunk : Chunk} (h : Sound True (single chunk)) :
    Operand False False chunk.sql.toList := by
  obtain ⟨s, hs, hrest, hline⟩ := h.exists_run (r := { mode := .dash }) rfl
  refine ⟨?_, ⟨fun hfirst => ?_, False.elim⟩, fun {r r'} hmode hline hrun => ?_⟩
  · intro hnil
    rw [hnil] at hs
    cases hs
    cases hrest
  · rw [Reader.lineComment_of_dash rfl hfirst hs] at hline
    cases hline
  · obtain ⟨t, ht, hrest, hline'⟩ := h.exists_run (r := r) (by rw [hmode]; rfl)
    obtain rfl := Option.some.inj (hrun.symm.trans ht)
    exact ⟨False.elim, fun _ => ⟨hline'.trans hline, hrest⟩⟩

theorem Sql.Operand.of_code {sql : String} (h : Sound True (single (.code sql))) :
    Operand False False sql.toList :=
  of_sound h

/-- A dash in front of SQL that can stand behind one. -/
theorem Sql.Operand.of_neg {sql : String} (h : Sound True (single (.code sql))) :
    Operand True False ('-' :: sql.toList) := by
  refine ⟨List.cons_ne_nil _ _, ⟨fun _ => trivial, fun _ => rfl⟩, fun {r r'} hmode hline hrun => ?_⟩
  have hstep : r.step '-' = some { r with mode := .dash } := by
    unfold Reader.step
    rw [hmode]
    rfl
  obtain ⟨t, ht, hrest, hline'⟩ := h.exists_run (r := { r with mode := .dash }) rfl
  rw [Reader.run_cons hstep] at hrun
  obtain rfl := Option.some.inj (hrun.symm.trans ht)
  exact ⟨False.elim, fun _ => ⟨hline'.trans hline, hrest⟩⟩

/-- **A constant begins with a dash exactly if it is a negative number.** -/
theorem operand_constant (value : Constant) :
    Operand (¬value.IsUnsigned) False (Sql.constant value).toList := by
  by_cases hsign : value.IsUnsigned
  · rw [← Constant.sql_chunk]
    exact (Operand.of_sound (sound_chunk hsign)).congr (by simp [hsign]) Iff.rfl
  · suffices h : Operand True False (Sql.constant value).toList from h.congr (by simp [hsign]) Iff.rfl
    cases value with
    | int v =>
      -- a negative integer is a dash and its magnitude, and a magnitude is plain code
      have hneg : v < 0 := Int64.not_le.mp hsign
      have htext : (Sql.constant (.int v)).toList = '-' :: (toString v.toInt.natAbs).toList := by
        show (toString v).toList = _
        rw [toList_toString, if_pos hneg]
        simp
      rw [htext]
      exact .of_neg (sound_toString_nat _)
    | number x =>
      have hneg : x.value.isNegative = true := by simpa [Constant.IsUnsigned] using hsign
      show Operand True False x.write.toList
      unfold Binary64.write
      cases hx : x.value with
      -- the kinds of a float: one that is not a number has no sign, and the others are written as a dash
      -- and a magnitude
      | nan => rw [hx] at hneg; cases hneg
      | infinite negative =>
        rw [hx] at hneg
        obtain rfl : negative = true := hneg
        have hinf : Sound True (single (.code "inf")) :=
          sound_word rfl (by decide) (Text.forall_mem_of_all (by decide))
        exact .of_neg hinf
      | finite negative mantissa exponent =>
        rw [hx] at hneg
        obtain rfl : negative = true := hneg
        have hmagnitude := Operand.of_neg (sound_magnitude mantissa exponent)
        rw [String.toList_ofList] at hmagnitude
        dsimp only
        rw [if_pos rfl, String.toList_ofList]
        exact hmagnitude
    | _ => exact absurd trivial hsign

end Constants

/-! ### References to fields -/

/-- The SQL brings no dashes along: it does not begin with one, it has no two in a row outside of
literals and comments, and it leaves no literal open. -/
structure Sql.IsTame (sql : String) : Prop where
  first : sql.toList.head? ≠ some '-'
  noDashes : ¬HasDashes sql
  closed : (modeAfter sql.toList).isLiteral = false

/-- The reference brings no dashes along: the SQL of its field does not, and if it is a request
parameter, its path is made of names. -/
structure Term.IsTame (ref : Term) : Prop where
  sql : ∀ field ∈ ref.field?, ∀ sql ∈ field.sql, Sql.IsTame sql
  path : ∀ path ∈ ref.fullIdentifier?, "params.".toList <+: path.toList →
    ∀ c ∈ path.toList, c ∉ Reader.marks

section Fields

variable {r r' : Reader} {sql : String} {label : Option String}

/-- Where the SQL of a field leads to, with an alias put in. -/
theorem Sql.IsTame.run_withAlias (h : Sql.IsTame sql) (hlabel : IsWord label)
    (hmode : r.mode = .code) (hline : r.lineComment = false)
    (hrun : r.run (withAlias sql label).toList = some r') :
    r'.mode.isLiteral = false ∧ r'.lineComment = false := by
  -- the SQL itself is read deep in parentheses, and the alias makes no difference
  obtain ⟨d, hd⟩ : ∃ d, ({ depth := sql.toList.length } : Reader).run sql.toList = some d :=
    Reader.exists_run_of_le (Nat.le_refl _)
  have hquiet : d.lineComment = false :=
    Bool.eq_false_iff.mpr fun hd' => h.noDashes ((hasDashes_iff rfl rfl hd).mpr hd')
  have hshifts : Reader.Shifts r.depth false { depth := sql.toList.length }
      { r with depth := sql.toList.length + r.depth } :=
    ⟨by rw [hmode], rfl, hline⟩
  obtain ⟨s, hs, hds⟩ := exists_run_withAlias hlabel hshifts hd
  have hshape : ({ r with depth := sql.toList.length + r.depth } : Reader).mode.shape =
      r.mode.shape := rfl
  obtain ⟨halike, hline'⟩ := Reader.alike_of_run hshape rfl hrun hs
  constructor
  · rw [← Mode.isLiteral_shape, ← halike, hds.mode, ← shape_modeAfter rfl rfl hd,
      Mode.isLiteral_shape, h.closed]
  · rw [← hline', hds.line, hquiet]
    rfl

/-- The SQL of a field with a comment behind it. -/
theorem Sql.IsTame.operand (h : Sql.IsTame sql) (hlabel : IsWord label) (text : String) :
    Operand False False (withAlias sql label ++ " " ++ comment text).toList := by
  have htext : (withAlias sql label ++ " " ++ comment text).toList =
      (withAlias sql label).toList ++ ' ' :: (comment text).toList := by simp
  rw [htext]
  refine ⟨by simp, ⟨fun hfirst => ?_, False.elim⟩, fun {r r'} hmode hline hrun => ?_⟩
  · -- the first character: neither the SQL of the field nor its label begins with a dash
    have hmarks : ∀ c ∉ Reader.marks, c ≠ '-' := fun c hc heq => hc (heq ▸ by decide)
    have hhead := head?_withAlias hlabel hmarks fun c hc heq => h.first (heq ▸ hc)
    cases hsql : (withAlias sql label).toList with
    | nil => rw [hsql] at hfirst; cases hfirst
    | cons c cs =>
      rw [hsql] at hfirst hhead
      exact hhead c rfl (Option.some.inj hfirst)
  · rw [Reader.run_append] at hrun
    obtain ⟨s, hs, hrest⟩ := Option.bind_eq_some_iff.mp hrun
    obtain ⟨hliteral, hs'⟩ := h.run_withAlias hlabel hmode hline hs
    -- a comment to the end of the line would have been noted on the way, so the comment behind is read
    -- as one
    have hnotLine : s.mode ≠ .line := by
      intro hm
      rw [Reader.lineComment_of_run hs (by rw [hmode]; nofun) hm] at hs'
      cases hs'
    obtain ⟨t, ht, hcode, hline'⟩ := Reader.exists_run_blank_comment hliteral hnotLine text
    obtain rfl := Option.some.inj (hrest.symm.trans ht)
    exact ⟨False.elim, fun _ => ⟨hline'.trans hs', by rw [hcode]; rfl⟩⟩

/-- A word brings no dashes along. -/
theorem isTame_of_word (hne : sql.toList ≠ []) (hword : ∀ c ∈ sql.toList, c ∉ Reader.marks) :
    Sql.IsTame sql := by
  have hrun : ({ depth := sql.toList.length } : Reader).run sql.toList =
      some { depth := sql.toList.length } := Reader.run_of_isOpen rfl hne hword
  refine ⟨fun hfirst => hword _ (List.mem_of_head? hfirst) (by decide), fun hdashes => ?_, ?_⟩
  · cases (hasDashes_iff rfl rfl hrun).mp hdashes
  · rw [modeAfter, hrun]
    rfl

/-- **A reference that brings no dashes along has none in its SQL.** -/
theorem Term.IsTame.operand {identifier : String} {field : Option Field} {verdict : Verdict}
    {content : List Fragment} {slots : List Term}
    (h : (Term.node (.field identifier field) verdict content slots).IsTame)
    (hlabel : IsWord label) :
    Operand False False ((Term.node (.field identifier field) verdict content slots).fieldSql
      identifier field slots.head? label).toList := by
  unfold Term.fieldSql
  dsimp only
  split
  · next parent hparent hparam =>
    -- a parameter is written with the path behind the prefix, and the path has no marks
    obtain ⟨rest, rfl⟩ := List.head?_eq_some_iff.mp hparent
    have hpath := h.path _ rfl (List.isPrefixOf_iff_prefix.mp hparam)
    simp only [String.toList_append, List.mem_append] at hpath
    have hquote : '\'' ∉ identifier.toList := fun hc => hpath _ (.inr hc) (by decide)
    exact .of_code (sound_param hquote (fun c hc => hpath c (.inl (.inl hc))) _)
  · -- any other field brings its own SQL along, or is written as a null
    have hsql : Sql.IsTame ((field.bind Field.sql).getD "null") := by
      cases hfield : field.bind Field.sql with
      | none => exact isTame_of_word (by decide) (Text.forall_mem_of_all (by decide))
      | some sql =>
        obtain ⟨f, rfl, hf⟩ := Option.bind_eq_some_iff.mp hfield
        exact h.sql f rfl sql hf
    have hoperand := hsql.operand hlabel
      (Term.node (.field identifier field) verdict content slots).source
    cases label <;> exact hoperand

end Fields

/-! ### Emissions -/

namespace Emission

/-- From aliases that are numbered the emission succeeds and keeps them so, and its SQL has the
property. -/
def Gives (P : List Char → Prop) (e : Emission) : Prop :=
  ∀ j : Joins, j.Labelled → ∃ j' sql, e j = (j', .ok sql) ∧ j'.Labelled ∧ P sql.toList

variable {P Q R : List Char → Prop} {a b e : Emission}

theorem gives_text {sql : String} (h : P sql.toList) : Gives P (text sql) :=
  fun j hj => ⟨j, sql, rfl, hj, h⟩

theorem Gives.mono (h : Gives P e) (hPQ : ∀ cs, P cs → Q cs) : Gives Q e := by
  intro j hj
  obtain ⟨j', sql, he, hj', hsql⟩ := h j hj
  exact ⟨j', sql, he, hj', hPQ _ hsql⟩

theorem Gives.append (ha : Gives P a) (hb : Gives Q b)
    (hR : ∀ xs ys, P xs → Q ys → R (xs ++ ys)) : Gives R (a.append b) := by
  intro j hj
  obtain ⟨j₁, front, hfront, hj₁, hP⟩ := ha j hj
  obtain ⟨j₂, back, hback, hj₂, hQ⟩ := hb j₁ hj₁
  refine ⟨j₂, front ++ back, by simp only [Emission.append, hfront, hback], hj₂, ?_⟩
  rw [String.toList_append]
  exact hR _ _ hP hQ

/-- Text in front. -/
theorem Gives.behind (h : Gives P e) (sql : String) :
    Gives (fun cs => ∃ ys, cs = sql.toList ++ ys ∧ P ys) ((text sql).append e) := by
  have hsql : Gives (· = sql.toList) (text sql) := gives_text rfl
  refine hsql.append h ?_
  rintro _ ys rfl hys
  exact ⟨ys, rfl, hys⟩

end Emission

namespace Term

open Emission Template

/-! ### Where dashes come from -/

/-- An operand by its number in a template, where operands are counted from one. -/
def operand? (t : Term) : Nat → Option Term
  | 0 => none
  | index + 1 => t.children[index]?

/-- The SQL of the term begins with a minus: it is a negative number, or the template of its rule begins
with an operand of which this holds. -/
inductive Signed : Term → Prop where
  | const {t : Term} {value : Constant} (head : t.head = .const value)
      (negative : ¬value.IsUnsigned) : Signed t
  | operand {t u : Term} {rule : Rule} {index : Nat} (ruled : t.head.isRuled = true)
      (found : t.rule? = some rule)
      (first : (pieces rule.template).head? = some (.placeholder false index))
      (part : t.operand? index = some u) (signed : Signed u) : Signed t

/-- A minus meets a minus in the SQL of the term: in the template of some rule an operand that begins
with one stands directly behind another. Operands that a template leaves out do not count, nor do the
items of collections that are emitted as their number of items. -/
inductive Clashes : Term → Prop where
  | minus {t u : Term} {rule : Rule} {index : Nat} (ruled : t.head.isRuled = true)
      (found : t.rule? = some rule)
      (behind : [.char '-', .placeholder false index] <:+: pieces rule.template)
      (part : t.operand? index = some u) (signed : u.Signed) : Clashes t
  | operand {t u : Term} {rule : Rule} {index : Nat} (ruled : t.head.isRuled = true)
      (found : t.rule? = some rule) (used : .placeholder false index ∈ pieces rule.template)
      (part : t.operand? index = some u) (clashes : Clashes u) : Clashes t
  | item {t u : Term} (collection : t.head = .list ∨ t.head = .set)
      (typed : (t.dataType.bind Sql.collection?).isSome = true) (part : u ∈ t.children)
      (clashes : Clashes u) : Clashes t

section Signs

variable {t : Term} {rule : Rule}

theorem signed_iff_of_rule? (ruled : t.head.isRuled = true) (found : t.rule? = some rule) :
    t.Signed ↔ Begins (fun index => ∃ u, t.operand? index = some u ∧ u.Signed)
      (pieces rule.template) := by
  constructor
  · intro h
    cases h with
    | const head _ => rw [head] at ruled; cases ruled
    | operand _ found' first part signed =>
      cases found.symm.trans found'
      exact ⟨_, ⟨_, part, signed⟩, first⟩
  · rintro ⟨index, ⟨u, part, signed⟩, first⟩
    exact .operand ruled found first part signed

theorem clashes_iff_of_rule? (ruled : t.head.isRuled = true) (found : t.rule? = some rule) :
    t.Clashes ↔ Meets (fun index => ∃ u, t.operand? index = some u ∧ u.Signed)
      (fun index => ∃ u, t.operand? index = some u ∧ u.Clashes) (pieces rule.template) := by
  constructor
  · intro h
    cases h with
    | minus _ found' behind part signed =>
      cases found.symm.trans found'
      exact ⟨_, .inl ⟨⟨_, part, signed⟩, behind⟩⟩
    | operand _ found' used part clashes =>
      cases found.symm.trans found'
      exact ⟨_, .inr ⟨⟨_, part, clashes⟩, used⟩⟩
    -- a collection has no rule
    | item collection _ _ _ =>
      rcases collection with hhead | hhead <;> rw [hhead] at ruled <;> cases ruled
  · rintro ⟨index, ⟨⟨u, part, signed⟩, behind⟩ | ⟨⟨u, part, clashes⟩, used⟩⟩
    · exact .minus ruled found behind part signed
    · exact .operand ruled found used part clashes

/-- A leaf or a collection begins with a minus only if it is a negative number. -/
theorem signed_iff_of_not_isRuled (h : t.head.isRuled = false) :
    t.Signed ↔ ∃ value, t.head = .const value ∧ ¬value.IsUnsigned := by
  constructor
  · intro hsigned
    cases hsigned with
    | const head negative => exact ⟨_, head, negative⟩
    | operand ruled _ _ _ _ => rw [h] at ruled; cases ruled
  · rintro ⟨value, head, negative⟩
    exact .const head negative

/-- In a leaf or a collection a minus meets a minus only in the items that are emitted. -/
theorem clashes_iff_of_not_isRuled (h : t.head.isRuled = false) :
    t.Clashes ↔ (t.head = .list ∨ t.head = .set) ∧
      (t.dataType.bind Sql.collection?).isSome = true ∧ ∃ u ∈ t.children, u.Clashes := by
  constructor
  · intro hclashes
    cases hclashes with
    | minus ruled _ _ _ _ | operand ruled _ _ _ _ => rw [h] at ruled; cases ruled
    | item collection typed part clashes => exact ⟨collection, typed, _, part, clashes⟩
  · rintro ⟨collection, typed, u, part, clashes⟩
    exact .item collection typed part clashes

theorem mem_children_of_operand? {u : Term} {index : Nat} (h : t.operand? index = some u) :
    u ∈ t.children := by
  cases index with
  | zero => cases h
  | succ index => exact List.mem_of_getElem? h

theorem mem_nodes_of_mem_children {u n : Term} (hu : u ∈ t.children) (hn : n ∈ u.nodes) :
    n ∈ t.nodes :=
  List.mem_cons_of_mem t (mem_descendants.mpr ⟨u, hu, hn⟩)

/-- There is a negative number in the term. -/
def HasNegative (t : Term) : Prop :=
  ∃ n ∈ t.nodes, ∃ value, n.head = .const value ∧ ¬value.IsUnsigned

/-- A minus at the beginning is that of a negative number. -/
theorem Signed.hasNegative (h : t.Signed) : t.HasNegative := by
  induction h with
  | const head negative => exact ⟨_, List.mem_cons_self, _, head, negative⟩
  | operand _ _ _ part _ ih =>
    obtain ⟨n, hn, hvalue⟩ := ih
    exact ⟨n, mem_nodes_of_mem_children (mem_children_of_operand? part) hn, hvalue⟩

/-- **Where a minus meets a minus** there is a negative number in an operand of a negation, of a bitwise
complement or of a difference. -/
theorem Clashes.exists_negator (h : t.Clashes) :
    ∃ n ∈ t.nodes, n.nodeType ∈ Standard.negators ∧ ∃ u ∈ n.children, u.HasNegative := by
  induction h with
  | @minus t u rule index ruled found behind part signed =>
    refine ⟨t, List.mem_cons_self, ?_, u, mem_children_of_operand? part, signed.hasNegative⟩
    -- other kinds of nodes have no minus in front of an operand
    obtain ⟨types, -, hlookup⟩ := Option.bind_eq_some_iff.mp found
    rcases (Registry.apartFrom_of_lookup (Head.isLeaf_of_isRuled ruled) hlookup).2 with hkind | hapart
    · exact hkind
    · exact absurd behind (not_infix_of_apartFrom hapart index)
  | operand _ _ _ part _ ih =>
    obtain ⟨n, hn, hnegator⟩ := ih
    exact ⟨n, mem_nodes_of_mem_children (mem_children_of_operand? part) hn, hnegator⟩
  | item _ _ part _ ih =>
    obtain ⟨n, hn, hnegator⟩ := ih
    exact ⟨n, mem_nodes_of_mem_children part hn, hnegator⟩

end Signs

/-! ### Terms -/

section Terms

variable {t : Term} {groups : Groups}

/-- The emission gives SQL with dashes where the term says so. -/
def GivesOperand (groups : Groups) (t : Term) : Prop :=
  Gives (Operand t.Signed t.Clashes) (t.emit groups)

/-- The parts of a template one after the other. -/
theorem gives_concat (operand : Nat → List Char → Prop) {operands : List Term} {parts : List Part}
    {es : List Emission} (hes : List.Forall₂ (Fills groups operands) parts es)
    (h : ∀ index u, operands[index]? = some u → Gives (operand (index + 1)) (u.emit groups)) :
    Gives (Filled operand (pieces parts)) (concat es) := by
  induction hes with
  | nil => exact gives_text .nil
  | cons hpart _ ih =>
    cases hpart with
    | literal sql =>
      refine (ih.behind sql).mono ?_
      rintro _ ⟨ys, rfl, hys⟩
      exact hys.text sql.toList
    | child hoperand => exact (h _ _ hoperand).append ih fun xs ys hxs hys => .operand hxs hys

/-- A node with a rule, given that its operands are as they say. -/
theorem Judged.givesOperand_of_isRuled (h : Judged t) (hvalid : t.fault = none)
    (hruled : t.head.isRuled = true) (hchildren : ∀ u ∈ t.children, GivesOperand groups u) :
    GivesOperand groups t := by
  obtain ⟨rule, hrule, -, hindex⟩ := h.exists_rule? hvalid hruled
  obtain ⟨es, hes, hemit⟩ := exists_fills_of_rule? hruled hrule hindex groups
  obtain ⟨types, -, hlookup⟩ := Option.bind_eq_some_iff.mp hrule
  have hinner := Head.isLeaf_of_isRuled hruled
  -- the template is filled with the SQL of the operands, and each of them is as it says by hypothesis
  have hfilled := gives_concat (fun index =>
      Operand (∃ u, t.operand? index = some u ∧ u.Signed) (∃ u, t.operand? index = some u ∧ u.Clashes))
    hes fun index u hu => (hchildren u (List.mem_of_getElem? hu)).mono fun cs hcs =>
      hcs.congr (by simp [operand?, hu]) (by simp [operand?, hu])
  rw [GivesOperand, hemit]
  refine hfilled.mono fun cs hcs => ?_
  exact (hcs.operand_of_fits (fun m hm => Registry.fitsFrom_of_lookup hinner hlookup hm)
    (Registry.apartFrom_of_lookup hinner hlookup).1).congr
      (signed_iff_of_rule? hruled hrule).symm (clashes_iff_of_rule? hruled hrule).symm

/-- The items of a collection, with commas between them. -/
theorem gives_items {ts : List Term} (hne : ts ≠ []) (h : ∀ t ∈ ts, GivesOperand groups t) :
    Gives (Operand (∃ t ∈ ts.head?, t.Signed) (∃ t ∈ ts, t.Clashes))
      (items (emitAll groups ts)) := by
  induction ts with
  | nil => exact absurd rfl hne
  | cons t ts ih =>
    have ht := h t List.mem_cons_self
    cases ts with
    | nil => exact ht.mono fun cs hcs => hcs.congr (by simp) (by simp)
    | cons u us =>
      have hrest := ih (List.cons_ne_nil u us) fun v hv => h v (List.mem_cons_of_mem t hv)
      refine ht.append (hrest.behind ", ") ?_
      rintro xs _ hxs ⟨ys, rfl, hys⟩
      exact (hxs.comma hys).congr (by simp) (by simp)

/-- What stands around the items of a collection is not empty and has no dash or slash. -/
theorem ends_of_collection? {type : DataType} {front back : String}
    (h : Sql.collection? type = some (front, back)) :
    (front.toList ≠ [] ∧ '-' ∉ front.toList ∧ '/' ∉ front.toList) ∧
      (back.toList ≠ [] ∧ '-' ∉ back.toList ∧ '/' ∉ back.toList) := by
  cases type <;> cases h <;> decide

/-- What stands around the items of a collection is a template with one operand, or with none. -/
theorem operand_of_collection? {type : DataType} {front back : String}
    (h : Sql.collection? type = some (front, back)) :
    Operand False False (front.toList ++ back.toList) ∧
      ∀ {signed clash : Prop} {cs : List Char}, Operand signed clash cs →
        Operand False clash (front.toList ++ (cs ++ back.toList)) := by
  obtain ⟨⟨hfront, hdash, hslash⟩, hback, hdash', hslash'⟩ := ends_of_collection? h
  obtain ⟨c, cs, hcs⟩ := List.exists_cons_of_ne_nil hfront
  -- a collection opens with a character of its own, so its first operand is never at its front
  have hbegins : ∀ (signed : Nat → Prop) (ps : List Template.Piece),
      ¬Begins signed (front.toList.map .char ++ ps) := by
    intro signed ps
    rw [hcs]
    simp [Begins]
  constructor
  · -- without items: the two ends are a template that has no operand
    have hfilled : Filled (fun _ => Operand False False) (back.toList.map .char ++ [])
        (back.toList ++ []) := Filled.nil.text back.toList
    have hoperand := (hfilled.text front.toList).operand_of_fits
      (fun m hm => (fitsFrom_collection h hm).2)
      (by rw [apartFrom_text _ hfront hslash, apartFrom_text _ hback hslash']; rfl)
    rw [List.append_nil back.toList] at hoperand
    refine hoperand.congr (iff_false_intro (hbegins _ _)) ?_
    rw [meets_text hdash, meets_text hdash']
    exact iff_false_intro not_meets_nil
  · intro signed clash cs hoperand
    -- with items: they stand for the only operand of the template
    have hfilled : Filled (fun _ => Operand signed clash)
        (.placeholder false 1 :: (back.toList.map .char ++ [])) (cs ++ (back.toList ++ [])) :=
      .operand hoperand (Filled.nil.text back.toList)
    have hoperand := (hfilled.text front.toList).operand_of_fits
      (fun m hm => (fitsFrom_collection h hm).1)
      (by rw [apartFrom_text _ hfront hslash, apartFrom, apartFrom_text _ hback hslash']; rfl)
    rw [List.append_nil back.toList] at hoperand
    refine hoperand.congr (iff_false_intro (hbegins _ _)) ?_
    rw [meets_text hdash, meets_operand, meets_text hdash']
    exact or_iff_left not_meets_nil

/-- A collection, given that its items are as they say. -/
theorem gives_collection {type : DataType} {front back : String}
    (h : Sql.collection? type = some (front, back)) {ts : List Term}
    (hts : ∀ t ∈ ts, GivesOperand groups t) :
    Gives (Operand False (∃ t ∈ ts, t.Clashes))
      ((text front).append ((items (emitAll groups ts)).append (text back))) := by
  obtain ⟨hempty, haround⟩ := operand_of_collection? h
  by_cases hnil : ts = []
  · subst hnil
    have htext : (front ++ ("" ++ back)).toList = front.toList ++ back.toList := by simp
    show Gives _ (text (front ++ ("" ++ back)))
    exact gives_text (htext ▸ hempty.congr Iff.rfl (by simp))
  · -- the items are an operand between the two ends
    have hback : Gives (· = back.toList) (text back) := gives_text rfl
    have hitems : Gives (fun zs => Operand False (∃ t ∈ ts, t.Clashes) (front.toList ++ zs))
        ((items (emitAll groups ts)).append (text back)) := by
      refine (gives_items hnil hts).append hback ?_
      rintro xs _ hxs rfl
      exact haround hxs
    refine (hitems.behind front).mono ?_
    rintro _ ⟨ys, rfl, hys⟩
    exact hys

/-- A list or a set, which may have no SQL for its items. -/
theorem gives_ofItems {ts : List Term} (hts : ∀ t ∈ ts, GivesOperand groups t)
    (type : Option DataType) :
    Gives (Operand False ((type.bind Sql.collection?).isSome = true ∧ ∃ t ∈ ts, t.Clashes))
      (match type.bind Sql.collection? with
        | some (front, back) =>
          (text front).append ((items (emitAll groups ts)).append (text back))
        | none => text (toString ts.length)) := by
  cases hends : type.bind Sql.collection? with
  | none =>
    have hnumber : Operand False False (toString ts.length).toList :=
      .of_code (sound_toString_nat ts.length)
    exact gives_text (hnumber.congr Iff.rfl (by simp))
  | some ends =>
    obtain ⟨itemType, -, hends⟩ := Option.bind_eq_some_iff.mp hends
    exact (gives_collection hends hts).mono fun cs hcs => hcs.congr Iff.rfl (by simp)

theorem mem_fieldRefs_of_mem_children {u ref : Term} (hu : u ∈ t.children)
    (href : ref ∈ u.fieldRefs) : ref ∈ t.fieldRefs := by
  obtain ⟨head, verdict, content, slots⟩ := t
  rw [children, Term.head, Term.slots] at hu
  rw [fieldRefs]
  split at hu
  · cases hu
  · next hfield =>
    rw [if_neg hfield]
    exact mem_fieldRefsAll.mpr ⟨u, hu, href⟩

/-- **The SQL of a valid term has dashes where the term says so.** -/
theorem Judged.givesOperand (h : Judged t) (hvalid : t.fault = none)
    (htame : ∀ ref ∈ t.fieldRefs, ref.IsTame) (groups : Groups) : GivesOperand groups t := by
  induction h with
  | malformed kind content => cases hvalid
  | @make head content slots leaf parts ih =>
    have hjudged := Judged.make head content leaf parts
    have hchildren : ∀ u ∈ (Term.make head content slots).children, GivesOperand groups u := by
      intro u hu
      refine ih u (mem_slots_of_mem_children hu) (hjudged.fault_of_mem_children ?_ hu) fun ref href =>
        htame ref (mem_fieldRefs_of_mem_children hu href)
      rw [hvalid]
      nofun
    by_cases hruled : (Term.make head content slots).head.isRuled = true
    · exact hjudged.givesOperand_of_isRuled hvalid hruled hchildren
    · -- leaves and collections have SQL of their own
      have hruled := Bool.eq_false_iff.mpr hruled
      have hhead : (Term.make head content slots).head = head := rfl
      have hsigned := signed_iff_of_not_isRuled hruled
      have hclashes := clashes_iff_of_not_isRuled hruled
      rw [hhead] at hruled hsigned hclashes
      cases head with
      | field identifier field =>
        intro j hj
        obtain ⟨hj', hlabel⟩ := hj.register groups (Term.make (.field identifier field) content slots)
        have hoperand := (htame _ List.mem_cons_self).operand (isWord_of_isAlias hlabel)
        exact ⟨_, _, rfl, hj', hoperand.congr (by simp [hsigned]) (by simp [hclashes])⟩
      | const value =>
        exact gives_text ((operand_constant value).congr (by simp [hsigned]) (by simp [hclashes]))
      | list | set =>
        exact (gives_ofItems hchildren _).mono fun cs hcs =>
          hcs.congr (by simp [hsigned]) ⟨fun h => hclashes.mpr ⟨by simp, h⟩, fun h => (hclashes.mp h).2⟩
      | _ => cases hruled

end Terms

/-- The template of a node, if all rows of the table for the types of its operands agree on it. -/
theorem template_of_rule? {t : Term} {rule : Rule} {types : List DataType} {template : List Part}
    (htypes : signature? t.children = some types) (hrule : t.rule? = some rule)
    (h : (Standard.table.all (Registry.makesOnly (fun rule => decide (rule.template = template))
      t.nodeType t.head.ruleName? types)) = true) : rule.template = template := by
  rw [rule?, htypes, Option.bind_some, Registry.standard] at hrule
  exact of_decide_eq_true (Registry.property_of_lookup h hrule)

/-- **A line comment by accident.** Take a valid term over fields whose SQL brings no dashes along, and a
query that has come about by any steps. The SQL of the term can be made, and it has two dashes in a row
outside of literals and comments exactly if a minus meets a minus: where the template of a rule has a
minus directly in front of an operand that begins with one. This takes a negative number in an operand
of a negation, of a bitwise complement or of a difference. -/
theorem toSql_hasDashes_iff {t : Term} {q : Query} (h : Constructed t) (hvalid : t.fault = none)
    (htame : ∀ ref ∈ t.fieldRefs, ref.IsTame) (hq : q.Reached) (groups : Groups)
    (context : Option String) :
    ∃ j sql, t.toSql groups context q.joins = (j, .ok sql) ∧ (HasDashes sql ↔ t.Clashes) ∧
      (t.Clashes →
        ∃ n ∈ t.nodes, n.nodeType ∈ Standard.negators ∧ ∃ u ∈ n.children, u.HasNegative) := by
  obtain ⟨j, sql, hemit, -, hoperand⟩ :=
    h.judged.givesOperand hvalid htame groups q.joins hq.labelled
  exact ⟨j, sql, toSql_of_valid hvalid hemit context, hoperand.hasDashes_iff, Clashes.exists_negator⟩

/-- A variable minus a negative number: the template has a blank between the two. -/
theorem toSql_hasDashes_iff_difference :
    ∃ t j sql, Constructed t ∧ t.source = "x - -5" ∧ t.fault = none ∧
      (∀ ref ∈ t.fieldRefs, ref.IsTame) ∧ (Query.ofVars {}).Reached ∧
      t.toSql {} none (Query.ofVars {}).joins = (j, .ok sql) ∧ ¬HasDashes sql := by
  let x : Field := ⟨"x", .int, some "v.x", none, none⟩
  let t : Term := .mkBinary .sub (.mkRoot x) (.mkConst (.int (-5)))
  have hconstructed : Constructed t := .binary .sub (.root x) (.const (.int (-5)))
  have hruled : t.head.isRuled = true := rfl
  have htypes : signature? t.children = some [.int, .int] := rfl
  have hvalid : t.fault = none :=
    hconstructed.judged.fault_eq_none_of_provides hruled htypes (by decide +kernel)
  have htame : ∀ ref ∈ t.fieldRefs, ref.IsTame := by
    intro ref href
    obtain rfl : ref = .mkRoot x := List.mem_singleton.mp href
    refine ⟨?_, ?_⟩
    · rintro _ ⟨⟩ _ ⟨⟩
      exact isTame_of_word (by decide) (Text.forall_mem_of_all (by decide))
    · rintro _ ⟨⟩ hparam
      exact absurd hparam (by decide)
  have hclashes : ¬t.Clashes := by
    obtain ⟨rule, hrule, -⟩ := hconstructed.judged.exists_rule? hvalid hruled
    have htemplate :
        rule.template = [.literal "(", .child 1, .literal " - ", .child 2, .literal ")"] :=
      template_of_rule? htypes hrule (by decide +kernel)
    have hroot : ¬(Term.mkRoot x).Clashes := by
      rw [clashes_iff_of_not_isRuled rfl]
      rintro ⟨hhead | hhead, -⟩ <;> cases hhead
    have hconst : ¬(Term.mkConst (.int (-5))).Clashes := by
      rw [clashes_iff_of_not_isRuled rfl]
      rintro ⟨hhead | hhead, -⟩ <;> cases hhead
    have hfirst : t.operand? 1 = some (.mkRoot x) := rfl
    have hsecond : t.operand? 2 = some (.mkConst (.int (-5))) := rfl
    rw [clashes_iff_of_rule? hruled hrule, htemplate]
    simp [pieces, meets_char, meets_operand, not_meets_nil, Begins, hfirst, hsecond, hroot, hconst]
  obtain ⟨j, sql, hsql, hiff, -⟩ :=
    toSql_hasDashes_iff hconstructed hvalid htame (.start {}) {} none
  exact ⟨t, j, sql, hconstructed, by decide +kernel, hvalid, htame, .start {}, hsql,
    fun hdashes => hclashes (hiff.mp hdashes)⟩

/-- The negation of a negative number: the rest of the line is a comment. -/
theorem negation_of_negative_begins_comment :
    ∃ t, Constructed t ∧ t.source = "--5" ∧ t.fault = none ∧ t.fieldRefs = [] ∧
      t.toSql {} none {} = ({}, .ok "(--5)") ∧ HasDashes "(--5)" := by
  let t : Term := .mkUnary .neg (.mkConst (.int (-5)))
  have hconstructed : Constructed t := .unary .neg (.const (.int (-5)))
  have hruled : t.head.isRuled = true := rfl
  have htypes : signature? t.children = some [.int] := rfl
  have hvalid : t.fault = none :=
    hconstructed.judged.fault_eq_none_of_provides hruled htypes (by decide +kernel)
  obtain ⟨rule, hrule, -⟩ := hconstructed.judged.exists_rule? hvalid hruled
  have htemplate : rule.template = [.literal "(-", .child 1, .literal ")"] :=
    template_of_rule? htypes hrule (by decide +kernel)
  have hoperands : emitAll {} t.children = [text (Sql.constant (.int (-5)))] := rfl
  have hconst : Sql.constant (.int (-5)) = "-5" := by decide +kernel
  have hemit : t.emit {} {} = ({}, .ok "(--5)") := by
    rw [emit_of_rule? hruled hrule, htemplate, hoperands, hconst]
    rfl
  exact ⟨t, hconstructed, by decide +kernel, hvalid, rfl, toSql_of_valid hvalid hemit none, ['('],
    ['5', ')'], by decide, by decide⟩

end Term

end QueryExpr
