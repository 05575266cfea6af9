import QueryExpr.Proofs.Sql.Chunks
import QueryExpr.Proofs.Term.Faults
import QueryExpr.Proofs.Text.Search

/-!
# Emitted SQL is safe

No text that comes into an expression can break out of its literal or its comment. The SQL of a valid
term leads the reader from code to code, closes the parentheses that it opens, and has each string
constant as one literal, provided the same holds of the SQL of the fields in the schema
(`toSql_safe`). By induction over the term: constants, references to fields, collections and rules
give emissions that can stand wherever there is code (`Chunked.Sound`).

SQL of a field that holds a comment to the end of the line brings it into the query.
-/

namespace QueryExpr

open Sql Chunked

/-! ### Words -/

section Words

variable {quiet : Prop}

theorem not_mem_marks_of_isAsciiDigit {c : Char} (h : isAsciiDigit c = true) :
    c ∉ Reader.marks := by
  intro hc
  have hdigits : ∀ d ∈ Reader.marks, isAsciiDigit d = false := Text.forall_mem_of_all (by decide)
  rw [hdigits c hc] at h
  cases h

theorem not_mem_marks_of_mem_toDigits {n : Nat} {c : Char} (h : c ∈ Nat.toDigits 10 n) :
    c ∉ Reader.marks :=
  not_mem_marks_of_isAsciiDigit (Nat.isDigit_of_mem_toDigits (by decide) (by decide) h)

/-- A name has no characters with a meaning in SQL. -/
theorem not_mem_marks_of_isName {name : String} (h : Token.isName name = true) :
    ∀ c ∈ name.toList, c ∉ Reader.marks := by
  have hmarks : ∀ d ∈ Reader.marks,
      Text.isIdentStart d = false ∧ Text.isIdentContinue d = false :=
    Text.forall_mem_of_all (by decide +kernel)
  exact fun c hc hmark => Token.not_mem_of_isName h (hmarks c hmark) hc

/-- Aliases of tables are words. -/
theorem isWord_of_isAlias {label : Option String} (h : ∀ l ∈ label, IsAlias l) : IsWord label := by
  intro l hl
  obtain ⟨n, rfl⟩ := h l hl
  have htext : ("t" ++ toString n).toList = 't' :: Nat.toDigits 10 n := by
    simp
  rw [htext]
  refine ⟨List.cons_ne_nil _ _, fun c hc => ?_⟩
  rcases List.mem_cons.mp hc with rfl | hc
  · decide
  · exact not_mem_marks_of_mem_toDigits hc

/-- A word can stand as an operand. -/
theorem sound_word {sql : String} {word : List Char} (htext : sql.toList = word) (hne : word ≠ [])
    (hword : ∀ c ∈ word, c ∉ Reader.marks) : Sound quiet (single (.code sql)) := by
  refine sound_code fun r hopen => ?_
  rw [htext, Reader.run_of_isOpen hopen hne hword]
  exact ⟨_, rfl, rfl, rfl, fun _ => rfl⟩

theorem sound_toString_nat (n : Nat) : Sound quiet (single (.code (toString n))) := by
  have htext : (toString n).toList = Nat.toDigits 10 n := by
    rw [Nat.toString_eq_ofList_toDigits, String.toList_ofList]
  exact sound_word htext Nat.toDigits_ne_nil fun c hc => not_mem_marks_of_mem_toDigits hc

end Words

/-! ### Constants -/

section Constants

variable {quiet : Prop} {r : Reader}

/-- Text without quotes, in a literal. -/
theorem Sql.Reader.run_literal (content : List Char) {cs : List Char} (h : '\'' ∉ cs) :
    ({ r with mode := .literal content } : Reader).run cs =
      some { r with mode := .literal (content ++ cs) } := by
  induction cs generalizing content with
  | nil => rw [List.append_nil]; rfl
  | cons c cs ih =>
    have hne : c ≠ '\'' := fun hc => h (hc ▸ List.mem_cons_self)
    have hstep : ({ r with mode := .literal content } : Reader).step c =
        some { r with mode := .literal (content ++ [c]) } := if_neg hne
    rw [Reader.run_cons hstep, ih (content ++ [c]) fun hc => h (List.mem_cons_of_mem c hc),
      List.append_assoc]
    rfl

/-- The call of a function with a literal as its first argument, up to the end of the literal. -/
theorem Sql.Reader.run_call {word inner : List Char} (hopen : r.mode.isOpen = true)
    (hne : word ≠ []) (hword : ∀ c ∈ word, c ∉ Reader.marks) (hinner : '\'' ∉ inner) :
    r.run (word ++ ('(' :: '\'' :: (inner ++ ['\'']))) =
      some { r with mode := .quote inner, depth := r.depth + 1 } := by
  have hbrackets : ({ r with mode := .code } : Reader).run ['(', '\''] =
      some { r with mode := .literal [], depth := r.depth + 1 } := rfl
  have hclose : ({ r with mode := .literal inner, depth := r.depth + 1 } : Reader).run ['\''] =
      some { r with mode := .quote inner, depth := r.depth + 1 } := rfl
  have hliteral : ({ r with mode := .literal [], depth := r.depth + 1 } : Reader).run inner =
      some { r with mode := .literal inner, depth := r.depth + 1 } :=
    run_literal (r := { r with depth := r.depth + 1 }) [] hinner
  have hargument := run_trans hbrackets (run_trans hliteral hclose)
  exact run_trans (run_of_isOpen hopen hne hword) hargument

/-- The call of a function with a literal as its first argument can stand as an operand. -/
theorem sound_call {sql : String} (word inner back : List Char)
    (htext : sql.toList = word ++ ('(' :: '\'' :: (inner ++ ['\''])) ++ back) (hne : word ≠ [])
    (hword : ∀ c ∈ word, c ∉ Reader.marks) (hinner : '\'' ∉ inner)
    (hback : ∀ r : Reader, ∃ s,
      ({ r with mode := .quote inner, depth := r.depth + 1 } : Reader).run back = some s ∧
        s.mode.isRest = true ∧ s.depth = r.depth ∧ s.lineComment = r.lineComment) :
    Sound quiet (single (.code sql)) := by
  refine sound_code fun r hopen => ?_
  obtain ⟨s, hrun, hrest, hdepth, hline⟩ := hback r
  rw [htext]
  exact ⟨s, Reader.run_trans (Reader.run_call hopen hne hword hinner) hrun, hrest, hdepth,
    fun _ => hline⟩

theorem quote_not_mem_write_date (d : Calendar.Date) : '\'' ∉ d.write := by
  intro h
  rcases Calendar.mem_write_date h with h | h | h <;> cases h

theorem quote_not_mem_write_dateTime (m : Calendar.DateTime) : '\'' ∉ m.write ' ' := by
  intro h
  rcases Calendar.mem_write_dateTime h with h | h | h | h | h <;> cases h

/-- An integer after code that is not a dash. -/
theorem Sql.Reader.run_toString_int (n : Int) (hmode : r.mode = .code) :
    r.run (toString n).toList = some { r with mode := .code } := by
  have hopen : r.mode.isOpen = true := by rw [hmode]; rfl
  have hdigits : ∀ (k : Nat) (c : Char), c ∈ Nat.toDigits 10 k → c ∉ marks :=
    fun k c hc => not_mem_marks_of_mem_toDigits hc
  cases n with
  | ofNat k =>
    have htext : (toString (Int.ofNat k)).toList = Nat.toDigits 10 k := by
      show (toString k).toList = _
      simp
    rw [htext, run_of_isOpen hopen Nat.toDigits_ne_nil (hdigits k)]
  | negSucc k =>
    have htext : (toString (Int.negSucc k)).toList = '-' :: Nat.toDigits 10 (k + 1) := by
      show ("-" ++ toString (k + 1)).toList = _
      simp
    -- in code a dash may open a comment, but a digit follows
    have hdash : r.step '-' = some { r with mode := .dash } := by
      unfold step
      rw [hmode]
      rfl
    rw [htext, run_cons hdash, run_of_isOpen rfl Nat.toDigits_ne_nil (hdigits (k + 1))]

/-- The magnitude of a number begins with a digit, so that a minus before it does not begin a
comment. -/
theorem sound_magnitude (mantissa : Nat) (exponent : Int) :
    Sound quiet (single (.code (String.ofList
      (if mantissa = 0 then "0.0".toList else (Binary64.shortest mantissa exponent).write)))) := by
  by_cases hzero : mantissa = 0
  · rw [if_pos hzero]
    exact sound_word (String.toList_ofList) (by decide) (Text.forall_mem_of_all (by decide))
  · -- digits and perhaps a point come first, and then an exponent or nothing
    rw [if_neg hzero]
    obtain ⟨front, hne, hfront, hwrite⟩ :=
      Binary64.Decimal.exists_write_eq (Binary64.shortest mantissa exponent)
    have hword : ∀ c ∈ front, c ∉ Reader.marks := by
      intro c hc
      rcases hfront c hc with hdigit | rfl
      · exact not_mem_marks_of_isAsciiDigit hdigit
      · decide
    rcases hwrite with hwrite | ⟨n, hwrite⟩
    · exact sound_word (String.toList_ofList.trans hwrite) hne hword
    · -- only the exponent may have a minus, and it stands after a letter
      refine sound_code fun r hopen => ⟨{ r with mode := .code }, ?_, rfl, rfl, fun _ => rfl⟩
      rw [String.toList_ofList, hwrite]
      exact Reader.run_trans (Reader.run_of_isOpen hopen hne hword)
        (Reader.run_toString_int (r := { r with mode := .code }) n rfl)

/-- A number without sign is written as its magnitude or as a word. -/
theorem sound_write {x : Binary64} (h : x.value.isNegative = false) :
    Sound quiet (single (.code x.write)) := by
  unfold Binary64.write
  cases hx : x.value with
  | nan => exact sound_word rfl (by decide) (Text.forall_mem_of_all (by decide))
  | infinite negative =>
    rw [hx, Binary64.Value.isNegative] at h
    subst h
    exact sound_word rfl (by decide) (Text.forall_mem_of_all (by decide))
  | finite negative mantissa exponent =>
    rw [hx, Binary64.Value.isNegative] at h
    subst h
    exact sound_magnitude mantissa exponent

/-- A quoted text can stand as an operand. -/
theorem sound_string (value : String) : Sound quiet (single (.string value)) := by
  refine fun j hj => ⟨j, [.string value], rfl, hj, fun n r hr => ?_⟩
  have hreads : ∀ r', r.run (quote value).toList = some r' → Reads r [.string value] r' := by
    refine fun r' hrun => .cons (fun _ _ => hr.1) (fun hquote => ?_) hrun (.nil r')
    rw [Mode.isQuote_of_isOpen hr.1] at hquote
    cases hquote
  by_cases hvalue : value = ""
  · -- the empty text is written as a word
    subst hvalue
    exact ⟨_, hreads _ (Reader.run_of_isOpen hr.1 (by decide) (Text.forall_mem_of_all (by decide))),
      ⟨rfl, hr.2⟩, fun _ => rfl⟩
  · exact ⟨_, hreads _ (Reader.run_quote hvalue hr.1), ⟨rfl, hr.2⟩, fun _ => rfl⟩

/-- **Constants can stand as operands.** -/
theorem sound_chunk {value : Constant} (h : value.IsUnsigned) :
    Sound quiet (single value.chunk) := by
  cases value with
  | none => exact sound_word rfl (by decide) (Text.forall_mem_of_all (by decide))
  | bool value => cases value <;> exact sound_word rfl (by decide) (Text.forall_mem_of_all (by decide))
  | int value =>
    obtain ⟨n, -, -, htext⟩ := exists_toString_eq h
    show Sound quiet (single (.code (toString value)))
    rw [htext, ← Nat.toString_eq_ofList_toDigits]
    exact sound_toString_nat n
  | number value => exact sound_write h
  | str value | clob value => exact sound_string value
  | color value => exact sound_toString_nat value.packed
  | date value =>
    refine sound_call "to_date".toList value.write ", 'YYYY-MM-DD')".toList ?_ (by decide)
      (Text.forall_mem_of_all (by decide)) (quote_not_mem_write_date value)
      fun r => ⟨_, rfl, rfl, rfl, rfl⟩
    simp [Sql.constant]
  | dateTime value =>
    refine sound_call "to_date".toList (value.write ' ') ", 'YYYY-MM-DD HH24:MI:SS')".toList ?_
      (by decide) (Text.forall_mem_of_all (by decide)) (quote_not_mem_write_dateTime value)
      fun r => ⟨_, rfl, rfl, rfl, rfl⟩
    simp [Sql.constant]

end Constants

/-! ### References to fields -/

/-- The fields of a schema: its variables, and the members of its groups. -/
def Schema.fields (schema : Schema) : List Field :=
  schema.vars.values ++ schema.groups.entries.values.flatMap fun entry => entry.2.fields.values

/-- The SQL of each field is neutral. -/
def Schema.IsNeutral (schema : Schema) : Prop :=
  ∀ field ∈ schema.fields, ∀ sql ∈ field.sql, isNeutral sql = true

/-- The SQL of no field has a comment to the end of the line. -/
def Schema.IsQuiet (schema : Schema) : Prop :=
  ∀ field ∈ schema.fields, ∀ sql ∈ field.sql, hasLineComment sql = false

section Fields

variable {schema : Schema} {groups : Groups} {t : Term} {identifier : String} {field : Field}

theorem mem_fields_of_vars (h : schema.vars.get? identifier = some field) :
    field ∈ schema.fields :=
  List.mem_append_left _ (OrderedMap.mem_values_of_get? h)

theorem mem_fields_of_member {origin : Field}
    (h : schema.groups.member? origin identifier = some field) : field ∈ schema.fields := by
  obtain ⟨group, htarget, hfield⟩ := Option.bind_eq_some_iff.mp h
  obtain ⟨ref, -, hfollow⟩ := Option.bind_eq_some_iff.mp htarget
  -- a reference is followed by the name of its group, if the stamp is still that of the group
  have hentry : ∃ stamp, schema.groups.entries.get? ref.name = some (stamp, group) := by
    unfold Groups.follow? at hfollow
    split at hfollow
    · next stamp g hget =>
      split at hfollow
      · cases hfollow
        exact ⟨stamp, hget⟩
      · cases hfollow
    · cases hfollow
  obtain ⟨stamp, hentry⟩ := hentry
  have hvalue : field ∈ group.fields.values := by
    -- the field has the name, or it stands in for all that have none of their own
    rcases Option.or_eq_some_iff.mp hfield with hget | ⟨-, hget⟩
    · exact OrderedMap.mem_values_of_get? hget
    · exact OrderedMap.mem_values_of_get? hget
  exact List.mem_append_right _
    (List.mem_flatMap_of_mem (OrderedMap.mem_values_of_get? hentry) hvalue)

/-- What stands after the last dot of a path is a part of it. -/
theorem mem_of_mem_lastName {path : String} {c : Char} (h : c ∈ (Term.lastName path).toList) :
    c ∈ path.toList := by
  unfold Term.lastName at h
  split at h
  · next front name hcut =>
    rw [String.toList_ofList] at h
    rw [Text.eq_append_of_cutLast hcut]
    exact List.mem_append_right _ (List.mem_cons_of_mem _ h)
  · exact h

/-- The path of a reference is made of names and dots. -/
theorem not_mem_marks_of_resolved (h : Resolved schema t) :
    ∀ c ∈ (t.fullIdentifier?.getD "").toList, c ∉ Reader.marks := by
  induction h using Resolved.path_induction with
  | root identifier content name => exact not_mem_marks_of_isName name
  | member identifier content name _ _ _ _ _ ih =>
    intro c hc
    rw [Term.make, Term.fullIdentifier?, Option.getD_some] at hc
    simp only [String.toList_append, List.mem_append] at hc
    rcases hc with (hc | hc) | hc
    · exact ih c hc
    · obtain rfl : c = '.' := by simpa using hc
      decide
    · exact not_mem_marks_of_isName name c hc
  | other t _ hother =>
    rw [fullIdentifier?_of_isField_eq_false hother]
    exact fun c hc => absurd hc List.not_mem_nil

/-- The SQL of a request parameter: a call with the name of the parameter as a literal. -/
theorem sound_param {quiet : Prop} {path : String} (hquote : '\'' ∉ identifier.toList)
    (hpath : ∀ c ∈ path.toList, c ∉ Reader.marks) (text : String) :
    Sound quiet (single (.code ("livingapi_pkg.reqparam_" ++ Term.lastName path ++ "('" ++
      identifier ++ "')" ++ " " ++ comment text))) := by
  have hfront : ∀ c ∈ "livingapi_pkg.reqparam_".toList, c ∉ Reader.marks :=
    Text.forall_mem_of_all (by decide)
  refine sound_call ("livingapi_pkg.reqparam_".toList ++ (Term.lastName path).toList)
    identifier.toList (')' :: ' ' :: (comment text).toList) ?_ ?_ ?_ hquote ?_
  · simp
  · exact List.append_ne_nil_of_left_ne_nil (by decide) _
  · intro c hc
    rcases List.mem_append.mp hc with hc | hc
    · exact hfront c hc
    · exact hpath c (mem_of_mem_lastName hc)
  · -- the parenthesis ends the literal, and a comment follows
    intro r
    have hclose : ({ r with mode := .quote identifier.toList, depth := r.depth + 1 } : Reader).run
        [')', ' '] =
          some { r with
            mode := .code, literals := r.literals ++ [String.ofList identifier.toList] } := rfl
    have hback := Reader.run_trans hclose (Reader.run_comment text (.inl rfl))
    exact ⟨_, hback, rfl, rfl, rfl⟩

/-- The SQL of a field, with the alias of its table put in. -/
theorem sound_fieldSql (hneutral : schema.IsNeutral) (hfield : field ∈ schema.fields)
    (hname : Token.isName identifier = true) {parent : Option Term}
    (hparent : ∀ p ∈ parent, Resolved schema p) {label : Option String} (hlabel : IsWord label) :
    Sound schema.IsQuiet (single (.code (t.fieldSql identifier (some field) parent label))) := by
  unfold Term.fieldSql
  dsimp only
  split
  · next p _ =>
    have hquote : '\'' ∉ identifier.toList := fun h =>
      not_mem_marks_of_isName hname _ h (by decide)
    exact sound_param hquote (not_mem_marks_of_resolved (hparent p rfl)) t.source
  · -- a field without SQL of its own is the missing value
    have hsql : isNeutral (field.sql.getD "null") = true ∧
        (schema.IsQuiet → hasLineComment (field.sql.getD "null") = false) := by
      cases hs : field.sql with
      | none => exact ⟨by decide, fun _ => by decide⟩
      | some sql => exact ⟨hneutral field hfield sql hs, fun hquiet => hquiet field hfield sql hs⟩
    refine sound_code fun r hopen => ?_
    obtain ⟨r', hrun, hmode, hdepth, hline⟩ :=
      exists_run_neutral hsql.1 hopen hlabel t.source
    refine ⟨r', ?_, by rw [hmode]; rfl, hdepth, fun hquiet => hline (hsql.2 hquiet)⟩
    cases label <;> exact hrun

/-- A reference to a field, with its tables registered. -/
theorem sound_field {quiet : Prop} {field : Option Field} {verdict : Verdict}
    {content : List Fragment} {slots : List Term}
    (h : ∀ label, IsWord label → Sound quiet (single (.code
      ((Term.node (.field identifier field) verdict content slots).fieldSql identifier field
        slots.head? label)))) :
    Sound quiet ((Term.node (.field identifier field) verdict content slots).emitChunks groups) := by
  intro j hj
  -- registering gives an alias that is a word or none, and the SQL is sound for either
  obtain ⟨hj', hlabel⟩ := hj.register groups
    (.node (.field identifier field) verdict content slots)
  obtain ⟨j', chunks, hsingle, -, hchunks⟩ := h _ (isWord_of_isAlias hlabel) _ hj'
  cases hsingle
  exact ⟨_, _, by rw [Term.emitChunks], hj', hchunks⟩

end Fields

/-! ### Terms -/

section Terms

variable {schema : Schema} {groups : Groups} {quiet : Prop}

/-- What stands around the items of a collection fits around one operand, and around none. -/
theorem fitsFrom_collection {type : DataType} {front back : String}
    (h : Sql.collection? type = some (front, back)) {m : Mode} (hopen : m.isOpen = true) :
    Template.fitsFrom m 0
        (front.toList.map .char ++ .placeholder false 1 :: (back.toList.map .char ++ [])) = true ∧
      Template.fitsFrom m 0 (front.toList.map .char ++ (back.toList.map .char ++ [])) = true := by
  -- one computation for each type of items
  obtain ⟨xs, ys, rfl, rfl, hall⟩ : ∃ xs ys, front = String.ofList xs ∧ back = String.ofList ys ∧
      [Mode.code, .dash, .slash].all (fun m =>
        Template.fitsFrom m 0 (xs.map .char ++ .placeholder false 1 :: (ys.map .char ++ [])) &&
          Template.fitsFrom m 0 (xs.map .char ++ (ys.map .char ++ []))) = true := by
    cases type <;> cases h <;> exact ⟨_, _, rfl, rfl, by decide +kernel⟩
  rw [String.toList_ofList, String.toList_ofList, ← Bool.and_eq_true_iff]
  exact List.all_eq_true.mp hall m (Mode.mem_of_isOpen hopen)

theorem sound_collection {type : DataType} {front back : String}
    (h : Sql.collection? type = some (front, back)) {es : List Chunked}
    (hes : ∀ e ∈ es, Sound quiet e) :
    Sound quiet ((single (.code front)).append ((items es).append (single (.code back)))) := by
  have hback : Leads quiet (Fits (back.toList.map .char ++ [])) Rest (single (.code back)) :=
    (leads_text back).mono (fun _ _ hr => hr) fun _ _ hr => rest_of_fits_nil hr
  by_cases hnil : es = []
  · -- without items the two ends meet
    subst hnil
    refine ((leads_text front).append ((leads_text "").append hback)).mono (fun n r hr => ?_)
      fun _ _ hr => hr
    exact fits_of_open hr fun m hm => (fitsFrom_collection h hm).2
  · refine ((leads_text front).append (((sound_items hnil hes).leads 1).append hback)).mono
      (fun n r hr => ?_) fun _ _ hr => hr
    exact fits_of_open hr fun m hm => (fitsFrom_collection h hm).1

/-- A list or a set, given that its items are sound. -/
theorem sound_ofItems {head : Head} (hhead : head = .list ∨ head = .set) {verdict : Verdict}
    {content : List Fragment} {slots : List Term}
    (hslots : ∀ e ∈ Term.emitChunksAll groups slots, Sound quiet e) :
    Sound quiet ((Term.node head verdict content slots).emitChunks groups) := by
  rcases hhead with rfl | rfl
  all_goals
    rw [Term.emitChunks]
    split
    · next front back hends =>
      obtain ⟨type, -, hends⟩ := Option.bind_eq_some_iff.mp hends
      exact sound_collection hends hslots
    · exact sound_toString_nat _

theorem exists_of_mem_emitChunksAll {slots : List Term} {e : Chunked}
    (h : e ∈ Term.emitChunksAll groups slots) : ∃ t ∈ slots, e = t.emitChunks groups := by
  induction slots with
  | nil => cases h
  | cons t ts ih =>
    rcases List.mem_cons.mp h with rfl | h
    · exact ⟨t, List.mem_cons_self, rfl⟩
    · obtain ⟨u, hu, rfl⟩ := ih h
      exact ⟨u, List.mem_cons_of_mem t hu, rfl⟩

theorem length_emitChunksAll (slots : List Term) :
    (Term.emitChunksAll groups slots).length = slots.length := by
  induction slots with
  | nil => rfl
  | cons t ts ih => exact congrArg (· + 1) ih

/-- A node with a rule, given that its operands are sound. -/
theorem sound_rule {head : Head} {verdict : Verdict} {content : List Fragment} {slots : List Term}
    {types : List DataType} {rule : Rule} (hinner : head.nodeType.isLeaf = false)
    (htypes : Term.signature? slots = some types)
    (hrule : Registry.standard.lookup head.nodeType head.ruleName? types = some rule)
    (hlist : head ≠ .list) (hset : head ≠ .set)
    (hslots : ∀ e ∈ Term.emitChunksAll groups slots, Sound quiet e) :
    Sound quiet ((Term.node head verdict content slots).emitChunks groups) := by
  -- the rule that emission looks up is the one that the verdict has found
  have hchildren : (Term.node head verdict content slots).rule? = some rule := by
    have hfield : head.isField = false := by
      cases head with
      | field _ _ => cases hinner
      | _ => rfl
    rw [Term.rule?, Term.children, Term.nodeType, Term.head, hfield, if_neg Bool.false_ne_true,
      Term.slots, htypes, Option.bind_some, hrule]
  have hemit : (Term.node head verdict content slots).emitChunks groups =
      .template (Term.emitChunksAll groups slots) rule.template := by
    cases head with
    | field _ _ | const _ => cases hinner
    | list => exact absurd rfl hlist
    | set => exact absurd rfl hset
    | _ =>
      unfold Term.emitChunks
      dsimp only
      rw [hchildren]
  rw [hemit]
  have hindex : ∀ index, .child index ∈ rule.template →
      0 < index ∧ index ≤ (Term.emitChunksAll groups slots).length := by
    intro index hpart
    rw [length_emitChunksAll, ← (Term.fault_of_signature? htypes).1]
    exact Registry.index_of_lookup hrule hpart
  refine (leads_template hslots hindex).mono (fun n r hr => ?_) fun _ _ hr => hr
  exact fits_of_open hr fun m hm => Registry.fitsFrom_of_lookup hinner hrule hm

/-- **The SQL of a valid term can stand wherever there is code.** -/
theorem sound_emitChunks (hneutral : schema.IsNeutral) {t : Term} (h : Resolved schema t)
    (hvalid : t.fault = none) : Sound schema.IsQuiet (t.emitChunks groups) := by
  induction h with
  | root identifier content name =>
    cases hfield : schema.vars.get? identifier with
    | none => rw [hfield] at hvalid; cases hvalid
    | some field =>
      refine sound_field fun label hlabel =>
        sound_fieldSql hneutral (mem_fields_of_vars hfield) name ?_ hlabel
      rintro p ⟨⟩
  | @member parent field identifier content name known part ih =>
    obtain ⟨origin, -, hmember⟩ := Option.bind_eq_some_iff.mp known
    refine sound_field fun label hlabel =>
      sound_fieldSql hneutral (mem_fields_of_member hmember) name ?_ hlabel
    rintro p ⟨⟩
    exact part
  | const value content unsigned =>
    rw [Term.make, Term.emitChunks]
    exact sound_chunk unsigned
  | malformed kind content => cases hvalid
  | @node head content slots inner parts ih =>
    -- the operands of a valid node are valid, so the induction hypothesis is about all of them
    obtain ⟨types, htypes, hhead⟩ := Term.exists_of_verdictOn inner hvalid
    have hslots : ∀ e ∈ Term.emitChunksAll groups slots, Sound schema.IsQuiet e := by
      intro e he
      obtain ⟨u, hu, rfl⟩ := exists_of_mem_emitChunksAll he
      exact ih u hu ((Term.fault_of_signature? htypes).2 u hu)
    rw [Term.make]
    by_cases hlist : head = .list
    · exact sound_ofItems (.inl hlist) hslots
    by_cases hset : head = .set
    · exact sound_ofItems (.inr hset) hslots
    obtain ⟨rule, hrule, -⟩ := (hhead.resolve_left hlist).resolve_left hset
    exact sound_rule inner htypes hrule hlist hset hslots

end Terms

/-! ### Emitted SQL -/

/-- **Emitted SQL is safe.** Whatever the text of an expression, if it compiles to a valid term then
its SQL can be made for any query, and reading the SQL begins and ends in code without parentheses
that are left open or closed too often. Where the schema has no comment to the end of the line there
is none, and each string constant that is not empty is one literal with the constant as its text. -/
theorem toSql_safe {schema : Schema} {source : String} {t : Term} {q : Query}
    (hneutral : schema.IsNeutral) (hcompile : compile schema source = .ok t)
    (hvalid : t.fault = none) (hq : q.Reached) (groups : Groups) (context : Option String) :
    ∃ j chunks r, t.emitChunks groups q.joins = (j, .ok chunks) ∧
      t.toSql groups context q.joins = (j, .ok (Chunk.join chunks)) ∧
      ({} : Reader).run (Chunk.join chunks).toList = some r ∧
      r.mode.isCode = true ∧ r.depth = 0 ∧
      (schema.IsQuiet → ∀ front back s, (Chunk.join chunks).toList = front ++ back →
        ({} : Reader).run front = some s → s.mode ≠ .line) ∧
      ∀ front value back, chunks = front ++ .string value :: back → value ≠ "" →
        IsLiteral (Chunk.text front) value (Chunk.text back) := by
  have hsound : Sound schema.IsQuiet (t.emitChunks groups) :=
    sound_emitChunks hneutral (resolved_of_compile hcompile) hvalid
  -- the aliases of the query are numbered, and the reader begins in code without parentheses
  obtain ⟨j, chunks, hemit, -, hchunks⟩ := hsound q.joins hq.labelled
  obtain ⟨r, hreads, ⟨hrest, hdepth⟩, hline⟩ := hchunks 0 {} ⟨rfl, rfl⟩
  have hrun : ({} : Reader).run (Chunk.join chunks).toList = some r := by
    rw [Chunk.join, String.toList_ofList, hreads.run]
  have hsql : t.emit groups q.joins = (j, .ok (Chunk.join chunks)) := by
    rw [← Term.render_emitChunks, Chunked.render, hemit]
    rfl
  refine ⟨j, chunks, r, hemit, ?_, hrun, Mode.isCode_of_isRest hrest, hdepth, ?_, ?_⟩
  · simp only [Term.toSql, Term.check, hvalid, hsql]
  · -- the reader would have noted the comment on the way, and the note is never taken back
    intro hquiet front back s htext hfront hmode
    rw [htext, Reader.run_append, hfront, Option.bind_some] at hrun
    have hmarked := Reader.lineComment_of_run hfront (by rintro ⟨⟩) hmode
    rw [Reader.lineComment_mono hrun hmarked] at hline
    exact absurd (hline hquiet) (by decide)
  · rintro front value back rfl hvalue
    exact hreads.isLiteral hvalue

/-- What is to be shown of the fields of a schema with one variable and no groups. -/
theorem forall_fields_of_var (name : String) (field : Field) (P : Field → Prop) :
    (∀ f ∈ (⟨{}, .ofList [(name, field)]⟩ : Schema).fields, P f) ↔ P field :=
  List.forall_mem_singleton

/-- A list of a string with a quote in it and of a variable whose SQL has parentheses and a literal
that looks like a comment. -/
theorem toSql_safe_strings :
    ∃ schema t j chunks r, schema.IsNeutral ∧ schema.IsQuiet ∧
      compile schema "[\"it's\", v]" = .ok t ∧
      t.toSql {} none {} = (j, .ok (Chunk.join chunks)) ∧
      Chunk.join chunks = "varchars('it''s', f('--') /* v */)" ∧
      ({} : Reader).run (Chunk.join chunks).toList = some r ∧ r.mode.isCode = true ∧ r.depth = 0 ∧
      IsLiteral "varchars(".toList "it's" ", f('--') /* v */)".toList := by
  let v : Field := ⟨"v", .str, some "f('--')", none, none⟩
  let schema : Schema := ⟨{}, .ofList [("v", v)]⟩
  have hneutral : schema.IsNeutral := by
    refine (forall_fields_of_var "v" v _).mpr ?_
    rintro sql ⟨⟩
    decide +kernel
  have hquiet : schema.IsQuiet := by
    refine (forall_fields_of_var "v" v _).mpr ?_
    rintro sql ⟨⟩
    decide +kernel
  have hsome : (compile schema "[\"it's\", v]").toOption.map
      (fun t => (t.fault, (t.emitChunks {} {}).2.toOption)) =
        some (none, some [.code "varchars(", .string "it's", .code ", ",
          .code "f('--') /* v */", .code ")"]) := by decide +kernel
  obtain ⟨t, hcompile, ht⟩ := exists_of_toOption_map_eq_some hsome
  obtain ⟨hvalid, hchunks⟩ := Prod.mk.inj ht
  obtain ⟨j, chunks, r, hemit, hsql, hrun, hcode, hdepth, -, hliteral⟩ :=
    toSql_safe hneutral hcompile hvalid (.start {}) {} none
  rw [show t.emitChunks {} {} = (j, .ok chunks) from hemit] at hchunks
  cases hchunks
  refine ⟨schema, t, j, _, r, hneutral, hquiet, hcompile, hsql, by decide +kernel, hrun, hcode,
    hdepth, ?_⟩
  exact hliteral [.code "varchars("] "it's" [.code ", ", .code "f('--') /* v */", .code ")"] rfl
    (by decide)

/-- A comment to the end of the line in the SQL of a field is one in the SQL of the term, although the
line ends and the SQL of the field is neutral. -/
theorem toSql_enters_line_comment :
    ∃ schema t j sql front back r, schema.IsNeutral ∧ compile schema "v" = .ok t ∧
      t.fault = none ∧ t.toSql {} none {} = (j, .ok sql) ∧ sql.toList = front ++ back ∧
      ({} : Reader).run front = some r ∧ r.mode = .line := by
  let v : Field := ⟨"v", .int, some "1--x\n", none, none⟩
  let schema : Schema := ⟨{}, .ofList [("v", v)]⟩
  have hneutral : schema.IsNeutral := by
    refine (forall_fields_of_var "v" v _).mpr ?_
    rintro sql ⟨⟩
    decide +kernel
  have hsome : (compile schema "v").toOption.map
      (fun t => (t.fault, (t.toSql {} none {}).2.toOption)) =
        some (none, some "1--x\n /* v */") := by decide +kernel
  obtain ⟨t, hcompile, ht⟩ := exists_of_toOption_map_eq_some hsome
  obtain ⟨hvalid, hsql⟩ := Prod.mk.inj ht
  have hok : t.toSql {} none {} = ((t.toSql {} none {}).1, .ok "1--x\n /* v */") := by
    cases hresult : (t.toSql {} none {}).2 with
    | error c => rw [hresult] at hsql; cases hsql
    | ok sql =>
      rw [hresult] at hsql
      cases hsql
      rw [← hresult]
  exact ⟨schema, t, _, _, ['1', '-', '-'], ['x', '\n', ' ', '/', '*', ' ', 'v', ' ', '*', '/'], _,
    hneutral, hcompile, hvalid, hok, by decide +kernel, rfl, rfl⟩

end QueryExpr
