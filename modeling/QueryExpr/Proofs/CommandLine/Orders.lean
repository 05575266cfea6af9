import QueryExpr.CommandLine.Run
import QueryExpr.Proofs.Expr.Endings
import QueryExpr.Proofs.Expr.Fidelity
import QueryExpr.Proofs.Text.Case
import QueryExpr.Proofs.Text.Search

/-!
# Arguments for the order of a query

On the command line an expression to order by may have a direction behind it, with a colon in between.
The argument is cut at its last colon without looking at the expression, although colons also stand in
slices, strings and dates. Nothing is lost by this: a direction is a name (`isName_of_toLower`), and no
expression ends in a colon and a name. So an argument is read as it was meant, whether it has a direction
or not, and the query is ordered by the expression itself.
-/

namespace QueryExpr

/-! ### Directions -/

namespace SortDir

variable {word : String} {dir : SortDir}

theorem ofText?_eq_some_iff : ofText? word = some dir ↔ word.toLower = dir.text := by
  constructor
  · intro h
    have hfound := List.find?_some h
    exact (of_decide_eq_true hfound).symm
  · intro h
    rw [ofText?, h]
    cases dir <;> rfl

/-- The letters of the directions, in both cases. -/
def letters : List Char := ['a', 's', 'c', 'd', 'e', 'A', 'S', 'C', 'D', 'E']

theorem mem_letters_of_toLower (h : word.toLower = dir.text) {c : Char} (hc : c ∈ word.toList) :
    c ∈ letters := by
  have hlower : c.toLower ∈ dir.text.toList := by
    rw [← Text.toLower_eq_iff.mp h]
    exact List.mem_map_of_mem hc
  have hboth : ∀ d ∈ dir.text.toList, d ∈ letters ∧ d.toUpper ∈ letters :=
    Text.forall_mem_of_all (by cases dir <;> decide)
  rcases Text.eq_toLower_or_toUpper c with heq | heq
  · rw [heq]
    exact (hboth _ hlower).1
  · rw [heq]
    exact (hboth _ hlower).2

/-- **A direction is a name**, in any mixture of upper and lower case. -/
theorem isName_of_toLower (h : word.toLower = dir.text) : Token.isName word = true := by
  have hletters : ∀ c ∈ letters, Text.isIdentStart c = true ∧ Text.isIdentContinue c = true :=
    Text.forall_mem_of_all (by decide)
  refine Bool.and_eq_true_iff.mpr ⟨?_, ?_⟩
  · cases hword : word.toList with
    | nil =>
      have hnil : dir.text.toList = [] := by rw [← Text.toLower_eq_iff.mp h, hword, List.map_nil]
      exact absurd hnil (by cases dir <;> decide)
    | cons c cs =>
      have hmem : ∀ d ∈ c :: cs, d ∈ letters := fun d hd => mem_letters_of_toLower h (hword ▸ hd)
      refine Bool.and_eq_true_iff.mpr ⟨(hletters c (hmem c List.mem_cons_self)).1, ?_⟩
      exact List.all_eq_true.mpr fun d hd => (hletters d (hmem d (List.mem_cons_of_mem c hd))).2
  · -- a reserved word is no direction
    rw [Option.isNone_iff_eq_none, Keyword.ofText?, List.find?_eq_none]
    intro k _ hk
    rw [← of_decide_eq_true hk] at h
    exact absurd (Text.toLower_eq_iff.mp h) (by cases k <;> cases dir <;> decide)

end SortDir

namespace CommandLine

/-! ### Reading an argument -/

section Split

variable {source : String}

/-- An expression alone is read as an expression without direction. -/
theorem splitOrder_of_parse {e : Expr} (h : Expr.parse source = .ok e) :
    splitOrder source = (source, none) := by
  unfold splitOrder
  split
  · next expr word hcut =>
    split
    · next dir hdir =>
      have hname := SortDir.isName_of_toLower (SortDir.ofText?_eq_some_iff.mp hdir)
      refine absurd ?_ (Expr.ne_of_parse h hname expr)
      rw [Text.eq_append_of_cutLast hcut, String.toList_ofList]
    · rfl
  · rfl

/-- A direction behind a colon is read as such, whatever stands in front of the colon. -/
theorem splitOrder_append (source : String) {word : String} {dir : SortDir}
    (h : word.toLower = dir.text) : splitOrder (source ++ ":" ++ word) = (source, some dir) := by
  have hcolon : ':' ∉ word.toList := Token.not_mem_of_isName (SortDir.isName_of_toLower h) (by decide)
  have htext : (source ++ ":" ++ word).toList = source.toList ++ ':' :: word.toList := by simp
  rw [splitOrder, htext, Text.cutLast_append hcolon]
  dsimp only
  rw [String.ofList_toList, SortDir.ofText?_eq_some_iff.mpr h, String.ofList_toList]

/-- The argument asks for the order by an expression: it is the expression, or the expression with the
direction behind a colon. -/
inductive AsksFor (source : String) : Option SortDir → String → Prop where
  | plain : AsksFor source none source
  | directed {dir : SortDir} {word : String} (h : word.toLower = dir.text) :
      AsksFor source (some dir) (source ++ ":" ++ word)

/-- **The order is by what the argument asks for.** -/
theorem AsksFor.addOrder_eq {e : Expr} (h : Expr.parse source = .ok e) {dir : Option SortDir}
    {arg : String} (hasks : AsksFor source dir arg) (groups : Groups) (q : Query) :
    addOrder groups q arg = tryStep source (q.order groups source dir none) := by
  cases hasks with
  | plain => rw [addOrder, splitOrder_of_parse h]
  | directed hword => rw [addOrder, splitOrder_append source hword]

end Split

/-! ### The order of a query -/

/-- The query that is asked for, before it is ordered and cut. -/
def Request.unordered (r : Request) (schema : Schema) : Except (String × QueryError) Query := do
  let groups := schema.groups
  let q := { Query.ofVars schema.vars with comment := r.comment }
  let q ← r.registers.foldlM (fun q name => tryStep name (q.register groups name)) q
  let q ← r.selects.foldlM (fun q expr => tryStep expr (q.select groups expr none none)) q
  let q ← r.aggregates.foldlM (addAggregate groups) q
  r.conditions.foldlM (fun q expr => tryStep expr (q.require groups expr)) q

/-- Orders are added one by one to the query that is asked for. -/
theorem Request.build_eq (r : Request) (schema : Schema) :
    r.build schema = (do
      let q ← r.unordered schema
      let q ← r.orders.foldlM (addOrder schema.groups) q
      return { q with limit := r.limit, offset := r.offset }) := by
  simp only [build, unordered, bind_assoc]

/-- **The command line never misreads an expression to order by.** An expression is read as an expression
without direction, and an expression with a direction behind a colon, in any mixture of upper and lower
case, is read as the expression with this direction. So wherever such an argument stands among the orders
of a request, the query is ordered by exactly the expression, in this direction. -/
theorem orders_by_expression {source : String} {e : Expr} (h : Expr.parse source = .ok e) :
    splitOrder source = (source, none) ∧
    (∀ (dir : SortDir) (word : String), word.toLower = dir.text →
      splitOrder (source ++ ":" ++ word) = (source, some dir)) ∧
    ∀ (r : Request) (schema : Schema) (before after : List String) (dir : Option SortDir) (arg : String),
      r.orders = before ++ arg :: after → AsksFor source dir arg →
      r.build schema = (do
        let q ← r.unordered schema
        let q ← before.foldlM (addOrder schema.groups) q
        let q ← tryStep source (q.order schema.groups source dir none)
        let q ← after.foldlM (addOrder schema.groups) q
        return { q with limit := r.limit, offset := r.offset }) := by
  refine ⟨splitOrder_of_parse h, fun dir word hword => splitOrder_append source hword, ?_⟩
  intro r schema before after dir arg horders hasks
  -- the orders are taken one after the other, and this one is taken as its expression
  rw [r.build_eq, horders]
  simp only [List.foldlM_append, List.foldlM_cons, bind_assoc, hasks.addOrder_eq h]

/-- A slice whose upper bound is called `desc`, and a list of a variable and a text that ends like a
direction, each with a direction behind it. Among other orders of a query over the variable, the list is
taken in as what the query is ordered by. -/
theorem orders_by_expression_slice :
    (∃ e, Expr.parse "x['a:asc':desc]" = .ok e) ∧ "DeSc".toLower = SortDir.desc.text ∧
    splitOrder "x['a:asc':desc]" = ("x['a:asc':desc]", none) ∧
    splitOrder "x['a:asc':desc]:DeSc" = ("x['a:asc':desc]", some .desc) ∧
    ∃ (schema : Schema) (r : Request) (q : Query),
      r.orders = ["x:asc", "[x, 'b:desc']:DeSc", "['b:desc']"] ∧
      AsksFor "[x, 'b:desc']" (some .desc) "[x, 'b:desc']:DeSc" ∧
      r.build schema = (do
        let q ← r.unordered schema
        let q ← ["x:asc"].foldlM (addOrder schema.groups) q
        let q ← tryStep "[x, 'b:desc']" (q.order schema.groups "[x, 'b:desc']" (some .desc) none)
        let q ← ["['b:desc']"].foldlM (addOrder schema.groups) q
        return { q with limit := r.limit, offset := r.offset }) ∧
      r.build schema = .ok q ∧
      q.orderBy = ["c.x /* x */ asc", "varchars(c.x /* x */, 'b:desc') /* [x, 'b:desc'] */ desc",
        "varchars('b:desc') /* ['b:desc'] */"] := by
  have hword : "DeSc".toLower = SortDir.desc.text := Text.toLower_eq_iff.mpr (by decide)
  obtain ⟨e, he⟩ : ∃ e, Expr.parse "x['a:asc':desc]" = .ok e := ⟨_, by rfl⟩
  obtain ⟨hplain, hdirected, -⟩ := orders_by_expression he
  refine ⟨⟨e, he⟩, hword, hplain, hdirected _ _ hword, ?_⟩
  let schema : Schema := ⟨{}, .ofList [("x", ⟨"x", .str, some "c.x", none, none⟩)]⟩
  let r : Request := { orders := ["x:asc", "[x, 'b:desc']:DeSc", "['b:desc']"], limit := some 1 }
  obtain ⟨e', he'⟩ : ∃ e, Expr.parse "[x, 'b:desc']" = .ok e := ⟨_, by rfl⟩
  have hasks : AsksFor "[x, 'b:desc']" (some .desc) "[x, 'b:desc']:DeSc" := .directed hword
  have hbuild := (orders_by_expression he').2.2 r schema ["x:asc"] ["['b:desc']"] _ _ rfl hasks
  have horders : (r.build schema).toOption.map Query.orderBy =
      some ["c.x /* x */ asc", "varchars(c.x /* x */, 'b:desc') /* [x, 'b:desc'] */ desc",
        "varchars('b:desc') /* ['b:desc'] */"] := by
    rw [hbuild]
    decide +kernel
  obtain ⟨q, hq, hitems⟩ := exists_of_toOption_map_eq_some horders
  exact ⟨schema, r, q, rfl, hasks, hbuild, hq, hitems⟩

end CommandLine
end QueryExpr
