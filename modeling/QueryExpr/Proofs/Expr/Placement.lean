import QueryExpr.Expr.Parse
import QueryExpr.Proofs.Expr.Moves
import QueryExpr.Proofs.Token.Lexemes

/-!
# Where the nodes of an expression stand

The parser gives every node two byte ranges, its own and the one with the parentheses around it. This
file says what these ranges mean in the text and proves it for everything that is parsed.

`Placed text e` is the meaning: the node's own range lies inside its outer one with nothing but white
space and matching parentheses in between (`Enclosed`), the outer ranges of its parts follow one
another inside its own range (`Row`), its names and literals are spelled by tokens, and its parts are
placed in turn.

The proof is an invariant of the parser's stack. `Stacked text frames p` says that the unfinished
constructs on the stack follow one another in the text and that the last of their tokens ends at `p`;
`StateAt` extends this to a situation of the parser. Completing a construct is the one step that makes
a node out of a frame (`placed_of_frame_snoc`), so `close` preserves the invariant, and with it every
step does (`step_stateAt`). `placed_of_parse` is the result for a whole text.
-/

namespace QueryExpr

open Text

namespace Expr

/-! ### Parts and rows -/

/-- The expressions that a node is made of, in the order of the source. -/
def parts : Expr → List Expr
  | .const _ _ | .name _ _ | .absent => []
  | .list _ items | .set _ items => items
  | .attr _ obj _ => [obj]
  | .call _ callee _ args => callee :: args
  | .item _ obj index => [obj, index]
  | .slice _ obj low high => [obj, low, high]
  | .binary _ _ left right => [left, right]
  | .unary _ _ obj => [obj]
  | .cond _ yes test no => [yes, test, no]

/-- The expressions stand one after the other between two offsets, each with its parentheses; an
absent one takes up nothing. -/
def Row (start stop : Nat) : List Expr → Prop
  | [] => start ≤ stop
  | e :: es =>
    if e.isPresent then start ≤ e.outer.start ∧ Row e.outer.stop stop es else Row start stop es

/-- Names and literals of the node come from tokens; what a literal takes up of the text spells its
token. -/
def Spelled (text : List Char) : Expr → Prop
  | .const place value => ∃ (token : Token) (word : List Char),
      slice? text place.span.start place.span.stop = some word ∧ token.Spells word ∧
      token.literal? = some value
  | .name _ identifier | .attr _ _ identifier => Token.isName identifier = true
  | _ => True

/-- The outer range of the node adds white space and matching parentheses to its own. -/
def Enclosed (text : List Char) (e : Expr) : Prop :=
  ∃ (depth : Nat) (before after : List Char),
    slice? text e.outer.start e.span.start = some before ∧
    slice? text e.span.stop e.outer.stop = some after ∧
    before.filter (fun c => !isBlank c) = List.replicate depth '(' ∧
    after.filter (fun c => !isBlank c) = List.replicate depth ')'

/-- The ranges of the node and of everything in it are what the text has there. -/
inductive Placed (text : List Char) : Expr → Prop where
  | mk {e : Expr} (present : e.isPresent = true) (enclosed : e.Enclosed text)
      (row : Row e.span.start e.span.stop e.parts) (spelled : e.Spelled text)
      (parts : ∀ p ∈ e.parts, p.isPresent = true → Placed text p) : Placed text e

/-! Inserting parentheses changes the outer range only. -/

section Parenthesized

variable (start stop : Nat) (e : Expr)

@[simp] theorem parenthesized_isPresent :
    (e.parenthesized start stop).isPresent = e.isPresent := by cases e <;> rfl

@[simp] theorem parenthesized_parts : (e.parenthesized start stop).parts = e.parts := by
  cases e <;> rfl

@[simp] theorem parenthesized_spelled (text : List Char) :
    (e.parenthesized start stop).Spelled text ↔ e.Spelled text := by
  cases e <;> rfl

theorem parenthesized_place (h : e.isPresent = true) :
    (e.parenthesized start stop).place = ⟨e.span, ⟨start, stop⟩⟩ := by
  cases e <;> first | rfl | cases h

end Parenthesized

/-! ### Rows -/

theorem row_cons {start stop : Nat} {e : Expr} {es : List Expr} (he : e.isPresent = true) :
    Row start stop (e :: es) ↔ start ≤ e.outer.start ∧ Row e.outer.stop stop es := by
  rw [Row, if_pos he]

theorem row_absent {start stop : Nat} {es : List Expr} :
    Row start stop (.absent :: es) ↔ Row start stop es := by
  rw [Row, if_neg (by simp [isPresent])]

/-- A row goes on with the rows after it. -/
theorem Row.append {start middle stop : Nat} {es fs : List Expr} (h : Row start middle es)
    (h' : ∀ {m : Nat}, m ≤ middle → Row m stop fs) : Row start stop (es ++ fs) := by
  induction es generalizing start with
  | nil => exact h' h
  | cons e es ih =>
    rw [List.cons_append]
    unfold Row at h ⊢
    split
    · next he =>
      rw [if_pos he] at h
      exact ⟨h.1, ih h.2⟩
    · next he =>
      rw [if_neg he] at h
      exact ih h

/-- A row may end later. -/
theorem Row.mono {start stop stop' : Nat} {es : List Expr} (h : Row start stop es)
    (hle : stop ≤ stop') : Row start stop' es := by
  have hrow : Row start stop' (es ++ []) := h.append fun hm => Nat.le_trans hm hle
  rwa [List.append_nil] at hrow

/-- A row that goes on with one more expression. -/
theorem Row.snoc {start middle stop : Nat} {es : List Expr} {e : Expr} (h : Row start middle es)
    (he : e.isPresent = true) (hle : middle ≤ e.outer.start) (hstop : e.outer.stop ≤ stop) :
    Row start stop (es ++ [e]) := by
  refine h.append fun hm => ?_
  rw [row_cons he]
  exact ⟨Nat.le_trans hm hle, hstop⟩

/-- A row reaches from one offset to a later one. -/
theorem Row.le {start stop : Nat} {es : List Expr} (h : Row start stop es)
    (hes : ∀ e ∈ es, e.isPresent = true → e.outer.start ≤ e.outer.stop) : start ≤ stop := by
  induction es generalizing start with
  | nil => exact h
  | cons e es ih =>
    have htail : ∀ e ∈ es, e.isPresent = true → e.outer.start ≤ e.outer.stop :=
      fun e' he' => hes e' (List.mem_cons_of_mem e he')
    by_cases he : e.isPresent = true
    · rw [row_cons he] at h
      have h1 := hes e List.mem_cons_self he
      have h2 := ih h.2 htail
      omega
    · unfold Row at h
      rw [if_neg he] at h
      exact ih h htail

namespace Placed

variable {text : List Char} {e : Expr}

theorem isPresent (h : Placed text e) : e.isPresent = true := by
  cases h with
  | mk present _ _ _ _ => exact present

theorem enclosed (h : Placed text e) : e.Enclosed text := by
  cases h with
  | mk _ enclosed _ _ _ => exact enclosed

theorem row (h : Placed text e) : Row e.span.start e.span.stop e.parts := by
  cases h with
  | mk _ _ row _ _ => exact row

theorem spelled (h : Placed text e) : e.Spelled text := by
  cases h with
  | mk _ _ _ spelled _ => exact spelled

theorem part (h : Placed text e) {p : Expr} (hp : p ∈ e.parts) (hpresent : p.isPresent = true) :
    Placed text p := by
  cases h with
  | mk _ _ _ _ parts => exact parts p hp hpresent

theorem outer_start_le (h : Placed text e) : e.outer.start ≤ e.span.start := by
  obtain ⟨_, _, _, hbefore, -⟩ := h.enclosed
  exact le_of_slice? hbefore

theorem le_outer_stop (h : Placed text e) : e.span.stop ≤ e.outer.stop := by
  obtain ⟨_, _, _, -, hafter, -⟩ := h.enclosed
  exact le_of_slice? hafter

theorem boundary_start (h : Placed text e) : Boundary text e.span.start := by
  obtain ⟨_, _, _, hbefore, -⟩ := h.enclosed
  exact boundary_stop_of_slice? hbefore

theorem boundary_stop (h : Placed text e) : Boundary text e.span.stop := by
  obtain ⟨_, _, _, -, hafter, -⟩ := h.enclosed
  exact boundary_start_of_slice? hafter

theorem boundary_outer_start (h : Placed text e) : Boundary text e.outer.start := by
  obtain ⟨_, _, _, hbefore, -⟩ := h.enclosed
  exact boundary_start_of_slice? hbefore

theorem boundary_outer_stop (h : Placed text e) : Boundary text e.outer.stop := by
  obtain ⟨_, _, _, -, hafter, -⟩ := h.enclosed
  exact boundary_stop_of_slice? hafter

/-- The range of a placed node is in order. The parts of the node carry the argument upwards. -/
theorem span_le (h : Placed text e) : e.span.start ≤ e.span.stop := by
  induction h with
  | @mk e _ _ row _ hparts ih =>
    refine row.le fun p hp hpresent => ?_
    have hp' := hparts p hp hpresent
    have h1 := hp'.outer_start_le
    have h2 := ih p hp hpresent
    have h3 := hp'.le_outer_stop
    omega

theorem outer_le (h : Placed text e) : e.outer.start ≤ e.outer.stop := by
  have h1 := h.outer_start_le
  have h2 := h.span_le
  have h3 := h.le_outer_stop
  omega

end Placed

/-- A node without parentheses around it is placed if its parts are placed and fill a row. -/
theorem placed_of_bare {text : List Char} {e : Expr} {start stop : Nat}
    (hplace : e.place = .bare start stop) (hpresent : e.isPresent = true)
    (hstart : Boundary text start) (hstop : Boundary text stop) (hrow : Row start stop e.parts)
    (hspelled : e.Spelled text) (hparts : ∀ p ∈ e.parts, p.isPresent = true → Placed text p) :
    Placed text e := by
  have hspan : e.span = ⟨start, stop⟩ := by rw [span, hplace]; rfl
  have houter : e.outer = ⟨start, stop⟩ := by rw [outer, hplace]; rfl
  refine .mk hpresent ?_ (by rw [hspan]; exact hrow) hspelled hparts
  -- the two ranges agree, so what lies between them is empty on either side
  obtain ⟨before, hbefore, -⟩ := hstart.gap
  obtain ⟨after, hafter, -⟩ := hstop.gap
  rw [eq_nil_of_slice?_self hbefore] at hbefore
  rw [eq_nil_of_slice?_self hafter] at hafter
  exact ⟨0, [], [], by rw [houter, hspan]; exact hbefore, by rw [houter, hspan]; exact hafter,
    rfl, rfl⟩

end Expr
namespace Parse

/-! ### The stack -/

/-- Where an unfinished construct begins. -/
def Frame.first : Frame → Nat
  | .binary _ left => left.outer.start
  | .unary _ start | .paren start | .list start _ | .set start _ => start
  | .test yes | .otherwise yes _ => yes.outer.start
  | .call callee _ _ => callee.outer.start
  | .subscript obj _ | .slice obj _ => obj.outer.start

/-- The complete parts of an unfinished construct, in the order of the source. -/
def Frame.parts : Frame → List Expr
  | .binary _ left => [left]
  | .unary _ _ | .paren _ => []
  | .test yes => [yes]
  | .otherwise yes condition => [yes, condition]
  | .list _ items | .set _ items => items.reverse
  | .call callee args _ => callee :: (args.reverse.map Prod.snd)
  | .subscript obj _ => [obj]
  | .slice obj low => [obj, low]

/-- The tokens of the construct so far reach to offset `last`. An opening parenthesis is all that its
construct has. -/
structure FrameAt (text : List Char) (f : Frame) (last : Nat) : Prop where
  boundary : Boundary text f.first
  row : Expr.Row f.first last f.parts
  parts : ∀ p ∈ f.parts, p.isPresent = true → p.Placed text
  paren : ∀ start, f = .paren start → slice? text start last = some ['(']

/-- The constructs on the stack follow one another, and their last token ends at the offset. -/
inductive Stacked (text : List Char) : List Frame → Nat → Prop where
  | nil : Stacked text [] 0
  | cons {f : Frame} {fs : List Frame} {p last : Nat} (below : Stacked text fs p)
      (gap : Gap text p f.first) (frame : FrameAt text f last) : Stacked text (f :: fs) last

/-- A complete operand on top of the stack, ending at `stop`. -/
def OperandAt (text : List Char) (frames : List Frame) (e : Expr) (stop : Nat) : Prop :=
  ∃ p, Stacked text frames p ∧ Gap text p e.outer.start ∧ e.Placed text ∧ e.outer.stop = stop

/-- The parser's situation after the token that ends at `stop`. -/
def StateAt (text : List Char) : State → Nat → Prop
  | .want frames _, stop => Stacked text frames stop
  | .complete frames e _, stop => OperandAt text frames e stop
  | .emptySet frames start, stop => ∃ p, Stacked text frames p ∧ Gap text p start ∧ start ≤ stop
  | .member frames e, stop | .notIn frames e, stop =>
    ∃ middle, OperandAt text frames e middle ∧ middle ≤ stop

variable {text : List Char}

/-- A construct with one more complete part. -/
theorem frameAt_snoc {f f' : Frame} {e : Expr} {p stop last : Nat} (h : FrameAt text f p)
    (hge : p ≤ e.outer.start) (he : e.Placed text) (hstop : e.outer.stop = stop)
    (hle : stop ≤ last) (hfirst : f'.first = f.first) (hparts : f'.parts = f.parts ++ [e])
    (hparen : ∀ start, f' ≠ .paren start) : FrameAt text f' last where
  boundary := by rw [hfirst]; exact h.boundary
  row := by
    rw [hfirst, hparts]
    exact h.row.snoc he.isPresent hge (by omega)
  parts := by
    intro q hq hpresent
    rw [hparts] at hq
    rcases List.mem_append.mp hq with hq | hq
    · exact h.parts q hq hpresent
    · obtain rfl : q = e := by simpa using hq
      exact he
  paren := fun start hf => absurd hf (hparen start)

/-- **Completing a construct with its last part.** The node over the parts of the frame and the
operand, ending at `stop`, is placed. -/
theorem placed_of_frame_snoc {f : Frame} {e e' : Expr} {p stop : Nat} (h : FrameAt text f p)
    (hge : p ≤ e.outer.start) (he : e.Placed text) (hplace : e'.place = .bare f.first stop)
    (hpresent : e'.isPresent = true) (hparts : e'.parts = f.parts ++ [e])
    (hstop : Boundary text stop) (hle : e.outer.stop ≤ stop) (hspelled : e'.Spelled text) :
    e'.Placed text := by
  refine Expr.placed_of_bare hplace hpresent h.boundary hstop ?_ hspelled ?_
  · rw [hparts]
    exact h.row.snoc he.isPresent hge hle
  · intro q hq hq'
    rw [hparts] at hq
    rcases List.mem_append.mp hq with hq | hq
    · exact h.parts q hq hq'
    · obtain rfl : q = e := by simpa using hq
      exact he

/-- An operand that completes the construct below it. -/
theorem OperandAt.complete {f : Frame} {fs : List Frame} {e e' : Expr} {middle stop : Nat}
    (h : OperandAt text (f :: fs) e middle) (hplace : e'.place = .bare f.first stop)
    (hpresent : e'.isPresent = true) (hparts : e'.parts = f.parts ++ [e])
    (hstop : Boundary text stop) (hle : middle ≤ stop) (hspelled : e'.Spelled text) :
    OperandAt text fs e' stop := by
  obtain ⟨p, hstack, hgap, he, rfl⟩ := h
  -- the frame is taken off the stack, and the node begins where the frame began
  cases hstack with
  | @cons _ _ p₀ _ below gap frame =>
    have hplaced := placed_of_frame_snoc frame hgap.le he hplace hpresent hparts hstop hle hspelled
    refine ⟨p₀, below, ?_, hplaced, ?_⟩
    · rw [Expr.outer, hplace]
      exact gap
    · rw [Expr.outer, hplace]
      rfl

/-- **Closing constructs keeps the operand where it is.** -/
theorem OperandAt.close (level : Nat) {stop : Nat} {frames : List Frame} {e : Expr}
    (h : OperandAt text frames e stop) :
    OperandAt text (close level frames e).1 (close level frames e).2 stop := by
  have hstop : Boundary text stop := by
    obtain ⟨_, -, -, he, rfl⟩ := h
    exact he.boundary_outer_stop
  have houter : e.outer.stop = stop := by
    obtain ⟨_, -, -, -, rfl⟩ := h
    rfl
  -- one case for each kind of construct that can be closed, and one for the stack that stays
  fun_induction Parse.close level frames e with
  | case1 op left fs e hle ih =>
    have hnode : OperandAt text fs (.mkBinary op left e) stop :=
      h.complete (by rw [← houter]; rfl) rfl rfl hstop (Nat.le_refl stop) trivial
    exact ih hnode houter
  | case2 => exact h
  | case3 op start fs e hle ih =>
    have hnode : OperandAt text fs (.mkUnary op start e) stop :=
      h.complete (by rw [← houter]; rfl) rfl rfl hstop (Nat.le_refl stop) trivial
    exact ih hnode houter
  | case4 => exact h
  | case5 yes condition fs e hle ih =>
    have hnode : OperandAt text fs (.mkCond yes condition e) stop :=
      h.complete (by rw [← houter]; rfl) rfl rfl hstop (Nat.le_refl stop) trivial
    exact ih hnode houter
  | case6 => exact h
  | case7 => exact h

/-! ### One step

In this section `l` is the next token: it stands after white space behind the offset that the
situation has reached, and its slice spells it. -/

section Step

variable {frames : List Frame} {l : Lexeme} {p : Nat} {word : List Char}

/-- A token begins an operand of its own. -/
theorem operandAt_token {e : Expr} (hs : Stacked text frames p) (hgap : Gap text p l.start)
    (hslice : slice? text l.start l.stop = some word) (hplace : e.place = .bare l.start l.stop)
    (hpresent : e.isPresent = true) (hparts : e.parts = []) (hspelled : e.Spelled text) :
    OperandAt text frames e l.stop := by
  have houter : e.outer = ⟨l.start, l.stop⟩ := by rw [Expr.outer, hplace]; rfl
  refine ⟨p, hs, by rw [houter]; exact hgap, ?_, by rw [houter]⟩
  refine Expr.placed_of_bare hplace hpresent (boundary_start_of_slice? hslice)
    (boundary_stop_of_slice? hslice) ?_ hspelled ?_
  · rw [hparts]
    exact le_of_slice? hslice
  · intro q hq
    rw [hparts] at hq
    cases hq

/-- A token begins a construct. -/
theorem stacked_open {f : Frame} (hs : Stacked text frames p) (hgap : Gap text p l.start)
    (hslice : slice? text l.start l.stop = some word) (hfirst : f.first = l.start)
    (hparts : f.parts = [])
    (hparen : ∀ start, f = .paren start → slice? text start l.stop = some ['(']) :
    Stacked text (f :: frames) l.stop := by
  refine .cons hs (by rw [hfirst]; exact hgap) ⟨?_, ?_, ?_, hparen⟩
  · rw [hfirst]
    exact boundary_start_of_slice? hslice
  · rw [hfirst, hparts]
    exact le_of_slice? hslice
  · intro q hq
    rw [hparts] at hq
    cases hq

/-- A token goes on with the construct on top of the stack, without a part of its own. -/
theorem stacked_extend {f f' : Frame} {fs : List Frame} (hs : Stacked text (f :: fs) p)
    (hle : p ≤ l.stop) (hfirst : f'.first = f.first)
    (hrow : Expr.Row f.first p f.parts → Expr.Row f.first p f'.parts)
    (hparts : ∀ q ∈ f'.parts, q.isPresent = true → q ∈ f.parts)
    (hparen : ∀ start, f' ≠ .paren start) : Stacked text (f' :: fs) l.stop := by
  cases hs with
  | cons below gap frame =>
    refine .cons below (by rw [hfirst]; exact gap) ⟨?_, ?_, ?_, ?_⟩
    · rw [hfirst]
      exact frame.boundary
    · rw [hfirst]
      exact (hrow frame.row).mono hle
    · intro q hq hpresent
      exact frame.parts q (hparts q hq hpresent) hpresent
    · intro start hf
      exact absurd hf (hparen start)

/-- A token ends the construct on top of the stack, without a part of its own. -/
theorem operandAt_finish {f : Frame} {fs : List Frame} {e : Expr} (hs : Stacked text (f :: fs) p)
    (hle : p ≤ l.stop) (hslice : slice? text l.start l.stop = some word)
    (hplace : e.place = .bare f.first l.stop) (hpresent : e.isPresent = true)
    (hrow : Expr.Row f.first p f.parts → Expr.Row f.first p e.parts)
    (hparts : ∀ q ∈ e.parts, q.isPresent = true → q ∈ f.parts) (hspelled : e.Spelled text) :
    OperandAt text fs e l.stop := by
  have houter : e.outer = ⟨f.first, l.stop⟩ := by rw [Expr.outer, hplace]; rfl
  cases hs with
  | @cons _ _ p₀ _ below gap frame =>
    refine ⟨p₀, below, by rw [houter]; exact gap, ?_, by rw [houter]⟩
    refine Expr.placed_of_bare hplace hpresent frame.boundary (boundary_stop_of_slice? hslice)
      ((hrow frame.row).mono hle) hspelled ?_
    intro q hq hq'
    exact frame.parts q (hparts q hq hq') hq'

/-- A row does not notice an absent expression at its end. -/
theorem row_snoc_absent {start stop : Nat} {es : List Expr} (h : Expr.Row start stop es) :
    Expr.Row start stop (es ++ [.absent]) :=
  h.append fun hm => Expr.row_absent.mpr hm

/-- A present member of a list that ends with an absent expression is one of those before. -/
theorem mem_of_mem_snoc_absent (es : List Expr) {q : Expr} (h : q ∈ es ++ [.absent])
    (hq : q.isPresent = true) : q ∈ es := by
  rcases List.mem_append.mp h with h | h
  · exact h
  · obtain rfl : q = .absent := by simpa using h
    cases hq

/-- A construct that begins stands where its token does. A parenthesis keeps its slice for the node that will
stand in it. -/
theorem Opens.stacked {f : Frame} {opening : Opening} (h : Opens frames l f opening)
    (hs : Stacked text frames p) (hgap : Gap text p l.start)
    (hslice : slice? text l.start l.stop = some word) (hspells : l.token.Spells word) :
    Stacked text (f :: frames) l.stop := by
  cases h with
  | paren token =>
    rw [token] at hspells
    refine stacked_open hs hgap hslice rfl rfl ?_
    rintro start ⟨⟩
    rw [hslice, hspells.symbol]
    rfl
  | _ => exact stacked_open hs hgap hslice rfl rfl (by rintro _ ⟨⟩)

/-- A construct that goes on gets no part, except for the bound that a slice leaves out. -/
theorem GoesOn.stacked {f f' : Frame} {fs : List Frame} {opening opening' : Opening}
    (h : GoesOn opening l f f' opening') (hs : Stacked text (f :: fs) p) (hle : p ≤ l.stop) :
    Stacked text (f' :: fs) l.stop := by
  cases h with
  | @colon obj start token now =>
    exact stacked_extend hs hle rfl row_snoc_absent (fun _ => mem_of_mem_snoc_absent [obj])
      (by rintro _ ⟨⟩)
  | _ => exact stacked_extend hs hle rfl id (fun _ h _ => h) (by rintro _ ⟨⟩)

/-- A construct that ends without another operand has the parts of its frame. -/
theorem Ends.operandAt {f : Frame} {fs : List Frame} {opening : Opening} {e : Expr}
    (h : Ends opening l f e) (hs : Stacked text (f :: fs) p) (hle : p ≤ l.stop)
    (hslice : slice? text l.start l.stop = some word) : OperandAt text fs e l.stop := by
  cases h with
  | @slice obj low token now =>
    exact operandAt_finish hs hle hslice rfl rfl row_snoc_absent
      (fun _ => mem_of_mem_snoc_absent [obj, low]) trivial
  | _ => exact operandAt_finish hs hle hslice rfl rfl id (fun _ h _ => h) trivial

theorem stepWant_stateAt {opening : Opening} {s : State} (hs : Stacked text frames p)
    (hgap : Gap text p l.start) (hslice : slice? text l.start l.stop = some word)
    (hspells : l.token.Spells word) (h : stepWant frames opening l = .ok s) :
    StateAt text s l.stop := by
  have hle : p ≤ l.stop := Nat.le_trans hgap.le (le_of_slice? hslice)
  cases stepWant_cases h with
  | literal token =>
    exact operandAt_token hs hgap hslice rfl rfl rfl ⟨l.token, word, hslice, hspells, token⟩
  | name token =>
    rw [token] at hspells
    exact operandAt_token hs hgap hslice rfl rfl rfl hspells.ident.2
  | opens move => exact move.stacked hs hgap hslice hspells
  | goesOn top move =>
    subst top
    exact move.stacked hs hle
  | ends top move =>
    subst top
    exact move.operandAt hs hle hslice
  | emptySet top token now =>
    -- nothing was read in the braces
    subst top
    cases hs with
    | cons below gap frame =>
      have hrow := frame.row.le fun q hq hq' => (frame.parts q hq hq').outer_le
      exact ⟨_, below, gap, Nat.le_trans hrow hle⟩

/-- An operator after an operand: what is complete is closed and becomes its left side. -/
theorem applyBinary_stateAt {e : Expr} {op : BinaryOp} {opening : Opening}
    (ho : OperandAt text frames e p) (hle : p ≤ l.stop) :
    StateAt text (applyBinary op frames e opening) l.stop := by
  -- the left side is what `close` leaves, and the new frame begins where it does
  obtain ⟨q, hstack, hgap, hplaced, hstop⟩ := ho.close op.level
  refine .cons hstack hgap ⟨hplaced.boundary_outer_start, ?_, ?_, ?_⟩
  · refine (Expr.row_cons hplaced.isPresent).mpr ⟨Nat.le_refl _, ?_⟩
    change _ ≤ l.stop
    omega
  · intro r hr _
    obtain rfl : r = _ := by simpa [Frame.parts] using hr
    exact hplaced
  · rintro _ ⟨⟩

/-- A token puts the operand into a construct of which it is the first part. -/
theorem stacked_wrap {e : Expr} {f : Frame} (ho : OperandAt text frames e p) (hle : p ≤ l.stop)
    (hfirst : f.first = e.outer.start) (hparts : f.parts = [e])
    (hparen : ∀ start, f ≠ .paren start) : Stacked text (f :: frames) l.stop := by
  obtain ⟨q, hstack, hgap, hplaced, rfl⟩ := ho
  refine .cons hstack (by rw [hfirst]; exact hgap) ⟨?_, ?_, ?_, ?_⟩
  · rw [hfirst]
    exact hplaced.boundary_outer_start
  · rw [hfirst, hparts]
    exact (Expr.row_cons hplaced.isPresent).mpr ⟨Nat.le_refl _, hle⟩
  · intro r hr _
    rw [hparts] at hr
    obtain rfl : r = e := by simpa using hr
    exact hplaced
  · intro start hf
    exact absurd hf (hparen start)

theorem stepOperator_stateAt {e : Expr} {s : State} (ho : OperandAt text frames e p)
    (hle : p ≤ l.stop) (h : stepOperator frames e l = some s) : StateAt text s l.stop := by
  unfold stepOperator at h
  -- a dot, a call, a subscript, `not in`, `is` and the other operators
  split at h
  · cases h; exact ⟨p, ho, hle⟩
  · cases h; exact stacked_wrap ho hle rfl rfl (by rintro _ ⟨⟩)
  · cases h; exact stacked_wrap ho hle rfl rfl (by rintro _ ⟨⟩)
  · cases h; exact ⟨p, ho, hle⟩
  · cases h; exact applyBinary_stateAt ho hle
  · obtain ⟨op, -, rfl⟩ := Option.map_eq_some_iff.mp h
    exact applyBinary_stateAt ho hle

/-- The operand becomes the last part so far of the construct on top of the stack. -/
theorem OperandAt.extend {e : Expr} {f f' : Frame} {fs : List Frame}
    (ho : OperandAt text (f :: fs) e p) (hle : p ≤ l.stop) (hfirst : f'.first = f.first)
    (hparts : f'.parts = f.parts ++ [e]) (hparen : ∀ start, f' ≠ .paren start) :
    Stacked text (f' :: fs) l.stop := by
  obtain ⟨q, hstack, hgap, hplaced, hstop⟩ := ho
  cases hstack with
  | cons below gap frame =>
    refine .cons below (by rw [hfirst]; exact gap) ?_
    exact frameAt_snoc frame hgap.le hplaced hstop hle hfirst hparts hparen

/-- A closing parenthesis widens the outer range of the operand. -/
theorem OperandAt.parenthesized {e : Expr} {start : Nat} {fs : List Frame}
    (ho : OperandAt text (.paren start :: fs) e p) (hgap : Gap text p l.start)
    (hslice : slice? text l.start l.stop = some [')']) :
    OperandAt text fs (e.parenthesized start l.stop) l.stop := by
  obtain ⟨q, hstack, hgapq, hplaced, rfl⟩ := ho
  obtain ⟨depth, before, after, hbefore, hafter, hopen, hclose⟩ := hplaced.enclosed
  have hplace := e.parenthesized_place start l.stop hplaced.isPresent
  have hspan : (e.parenthesized start l.stop).span = e.span := by rw [Expr.span, hplace]
  have houter : (e.parenthesized start l.stop).outer = ⟨start, l.stop⟩ := by
    rw [Expr.outer, hplace]
  cases hstack with
  | @cons _ _ p₀ _ below gap frame =>
    refine ⟨p₀, below, by rw [houter]; exact gap, ?_, by rw [houter]⟩
    refine .mk ?_ ?_ ?_ ?_ ?_
    · rw [Expr.parenthesized_isPresent]
      exact hplaced.isPresent
    · -- one parenthesis and white space more on either side
      obtain ⟨blanks, hblanks, hnone⟩ := hgapq.exists_filter_eq_nil
      obtain ⟨blanks', hblanks', hnone'⟩ := hgap.exists_filter_eq_nil
      have hfront := slice?_join (slice?_join (frame.paren start rfl) hblanks) hbefore
      have hback := slice?_join (slice?_join hafter hblanks') hslice
      refine ⟨depth + 1, _, _, by rw [houter, hspan]; exact hfront,
        by rw [houter, hspan]; exact hback, ?_, ?_⟩
      · have hparen : isBlank '(' = false := by decide
        rw [List.filter_append, List.filter_append, hnone, hopen, List.append_nil,
          List.replicate_succ, List.filter_cons_of_pos (by simp [hparen])]
        rfl
      · have hparen : isBlank ')' = false := by decide
        rw [List.filter_append, List.filter_append, hnone', hclose, List.append_nil,
          List.replicate_succ', List.filter_cons_of_pos (by simp [hparen])]
        rfl
    · rw [hspan, Expr.parenthesized_parts]
      exact hplaced.row
    · rw [Expr.parenthesized_spelled]
      exact hplaced.spelled
    · rw [Expr.parenthesized_parts]
      exact fun q hq hq' => hplaced.part hq hq'

/-- An operand that is taken up is the newest part of the construct below it. -/
theorem TakesUp.stacked {e : Expr} {level : Nat} {f f' : Frame} {fs : List Frame} {opening : Opening}
    (h : TakesUp l e level f f' opening) (ho : OperandAt text (f :: fs) e p) (hle : p ≤ l.stop) :
    Stacked text (f' :: fs) l.stop := by
  cases h with
  | test token => exact ho.extend hle rfl rfl (by rintro _ ⟨⟩)
  | list token => exact ho.extend hle rfl (by simp [Frame.parts]) (by rintro _ ⟨⟩)
  | set token => exact ho.extend hle rfl (by simp [Frame.parts]) (by rintro _ ⟨⟩)
  | call token => exact ho.extend hle rfl (by simp [Frame.parts, finishArg]) (by rintro _ ⟨⟩)
  | colon token => exact ho.extend hle rfl rfl (by rintro _ ⟨⟩)

/-- A construct that is completed reaches from its first token to the one that completes it. -/
theorem Completes.operandAt {e node : Expr} {f : Frame} {fs : List Frame} (h : Completes l e f node)
    (ho : OperandAt text (f :: fs) e p) (hgap : Gap text p l.start)
    (hslice : slice? text l.start l.stop = some word) (hspells : l.token.Spells word) :
    OperandAt text fs node l.stop := by
  have hle : p ≤ l.stop := Nat.le_trans hgap.le (le_of_slice? hslice)
  have hstop : Boundary text l.stop := boundary_stop_of_slice? hslice
  cases h with
  | paren token =>
    rw [token] at hspells
    rw [hspells.symbol] at hslice
    exact ho.parenthesized hgap hslice
  | call token =>
    refine ho.complete rfl rfl ?_ hstop hle trivial
    simp [Expr.mkCall, Expr.parts, Frame.parts, finishArg]
  | list token => exact ho.complete rfl rfl (by simp [Expr.parts, Frame.parts]) hstop hle trivial
  | item token => exact ho.complete rfl rfl rfl hstop hle trivial
  | slice token => exact ho.complete rfl rfl rfl hstop hle trivial
  | set token => exact ho.complete rfl rfl (by simp [Expr.parts, Frame.parts]) hstop hle trivial

theorem stepClose_stateAt {e : Expr} {s : State} (ho : OperandAt text frames e p)
    (hgap : Gap text p l.start) (hslice : slice? text l.start l.stop = some word)
    (hspells : l.token.Spells word) (h : stepClose frames e l = .ok s) :
    StateAt text s l.stop := by
  have hle : p ≤ l.stop := Nat.le_trans hgap.le (le_of_slice? hslice)
  -- the token closes what binds tighter than the construct that it belongs to
  cases stepClose_cases h with
  | test closed token none =>
    have hclosed := ho.close orLevel
    rw [closed] at hclosed
    exact stacked_wrap hclosed hle rfl rfl (by rintro _ ⟨⟩)
  | @takesUp level f f' fs e' opening closed move =>
    have hclosed := ho.close level
    rw [closed] at hclosed
    exact move.stacked hclosed hle
  | completes closed move =>
    have hclosed := ho.close condLevel
    rw [closed] at hclosed
    exact move.operandAt hclosed hgap hslice hspells

/-- The name in front of the sign `=` is no part of the call. -/
theorem stepAssign_stateAt {e : Expr} {single : Bool} {s : State} (ho : OperandAt text frames e p)
    (hle : p ≤ l.stop) (h : stepAssign frames e single = .ok s) : StateAt text s l.stop := by
  obtain ⟨q, hstack, hgap, hplaced, rfl⟩ := ho
  have hq : q ≤ l.stop := Nat.le_trans hgap.le (Nat.le_trans hplaced.outer_le hle)
  unfold stepAssign at h
  split at h
  · cases h; exact stacked_extend hstack hq rfl id (fun _ h _ => h) (by rintro _ ⟨⟩)
  · cases h

/-- **One token** moves the parser to a situation that reaches to the end of the token. -/
theorem step_stateAt {s s' : State} (hs : StateAt text s p) (hgap : Gap text p l.start)
    (hslice : slice? text l.start l.stop = some word) (hspells : l.token.Spells word)
    (h : step s l = .ok s') : StateAt text s' l.stop := by
  have hle : p ≤ l.stop := Nat.le_trans hgap.le (le_of_slice? hslice)
  cases s with
  | want frames opening => exact stepWant_stateAt hs hgap hslice hspells h
  | complete frames e single =>
    rw [step] at h
    split at h
    · exact stepAssign_stateAt hs hle h
    · split at h
      · next hop =>
        cases h
        exact stepOperator_stateAt hs hle hop
      · exact stepClose_stateAt hs hgap hslice hspells h
  | emptySet frames start =>
    obtain ⟨q, hstack, hgapq, hstart⟩ := hs
    rw [step] at h
    split at h
    · -- the closing brace of an empty set, which has no parts
      cases h
      refine ⟨q, hstack, hgapq, ?_, rfl⟩
      refine Expr.placed_of_bare rfl rfl hgapq.boundary_stop (boundary_stop_of_slice? hslice) ?_
        trivial (by rintro _ ⟨⟩)
      exact Nat.le_trans hstart hle
    · cases h
  | member frames e =>
    obtain ⟨middle, ⟨q, hstack, hgapq, hplaced, rfl⟩, hmiddle⟩ := hs
    rw [step] at h
    split at h
    · next identifier htoken =>
      -- the object is the only part: the name takes up the rest of the node's range
      cases h
      rw [htoken] at hspells
      refine ⟨q, hstack, hgapq, ?_, rfl⟩
      refine Expr.placed_of_bare rfl rfl hplaced.boundary_outer_start
        (boundary_stop_of_slice? hslice) ?_ hspells.ident.2 ?_
      · exact (Expr.row_cons hplaced.isPresent).mpr ⟨Nat.le_refl _, Nat.le_trans hmiddle hle⟩
      · intro r hr _
        obtain rfl : r = e := by simpa [Expr.parts, Expr.mkAttr] using hr
        exact hplaced
    · cases h
  | notIn frames e =>
    obtain ⟨middle, ho, hmiddle⟩ := hs
    rw [step] at h
    split at h
    · cases h
      exact applyBinary_stateAt ho (Nat.le_trans hmiddle hle)
    · cases h

end Step

/-! ### A whole text -/

/-- The tokens that are left lead to a placed expression; before and after it there is nothing but
white space. -/
theorem run_placed {length p : Nat} {s : State} {ls : List Lexeme} {e : Expr}
    (hs : StateAt text s p) (hls : Lexes text p ls) (h : run length s ls = .ok e) :
    e.Placed text ∧ Gap text 0 e.outer.start ∧ Gap text e.outer.stop (byteLength text) := by
  -- along the tokens that are left; the invariant is `StateAt` at the end of the last one
  induction hls generalizing s with
  | done gap =>
    rw [run] at h
    split at h
    · next e' hfinish =>
      cases h
      unfold finish at hfinish
      split at hfinish
      · next frames operand single =>
        split at hfinish
        · next hclose =>
          cases hfinish
          obtain ⟨q, hstack, hgapq, hplaced, hstop⟩ := OperandAt.close condLevel hs
          rw [hclose] at hstack hgapq hplaced hstop
          -- the stack is empty, so the expression begins after the white space of the text
          cases hstack
          exact ⟨hplaced, hgapq, by rw [hstop]; exact gap⟩
        · cases hfinish
      · cases hfinish
    · cases h
  | token gap slice spells rest ih =>
    rw [run] at h
    split at h
    · next hstep => exact ih (step_stateAt hs gap slice spells hstep) h
    · cases h
    · cases h

end Parse

/-- **Everything that is parsed is placed**, and the text around it is white space. -/
theorem placed_of_parse {source : String} {e : Expr} (h : Expr.parse source = .ok e) :
    e.Placed source.toList ∧ Gap source.toList 0 e.outer.start ∧
      Gap source.toList e.outer.stop (byteLength source.toList) := by
  unfold Expr.parse at h
  split at h
  · cases h
  · next hscan =>
    have hinit : Parse.StateAt source.toList Parse.initial 0 := .nil
    exact Parse.run_placed hinit (Token.lexes_of_scan hscan) h

end QueryExpr
