import QueryExpr.Expr.Basic
import QueryExpr.Schema.Build
import QueryExpr.Term.Make
import QueryExpr.Text.Slice

/-!
# From expressions to terms

Names are looked up among the variables, and an attribute of a reference to a field is looked up in
the group that the field refers to. The source of a node is the text that it covers, with its operands
cut out. Unknown names and malformed literals give invalid terms; only calls of a form that the
language lacks are refused.
-/

namespace QueryExpr

/-- A form of call that the language lacks, with the source of the call. -/
inductive Unsupported where
  | keywordArgument (source : String)
  | starArgument (source : String)
  /-- Only a name or an attribute can be called. -/
  | callee (source : String)
  deriving DecidableEq, Repr, Inhabited

/-- What is refused, in words. -/
def Unsupported.message : Unsupported → String
  | .keywordArgument source => "Keyword arguments are not supported in vSQL: `" ++ source ++ "`"
  | .starArgument source => "Star arguments are not supported in vSQL: `" ++ source ++ "`"
  | .callee source => "Only functions and methods can be called in vSQL: `" ++ source ++ "`"

namespace Expr

/-- The text between two offsets. -/
def textBetween (text : List Char) (start stop : Nat) : String :=
  String.ofList ((Text.slice? text start stop).getD [])

/-- The source of a node from `cursor` to `stop`, with the operands cut out and numbered from `index`
on. An absent operand takes up no text. -/
def cutOut (text : List Char) (stop : Nat) : Nat → Nat → List Expr → List Fragment
  | cursor, _, [] => [.text (textBetween text cursor stop)]
  | cursor, index, e :: es =>
    if e.isPresent then
      .text (textBetween text cursor e.span.start) :: .slot index ::
        cutOut text stop e.span.stop (index + 1) es
    else .slot index :: cutOut text stop cursor (index + 1) es

/-- A node over the text of its span. -/
def build (text : List Char) (span : Span) (head : Head) (operands : List Expr)
    (slots : List Term) : Term :=
  .make head (cutOut text span.stop span.start 0 operands) slots

/-- The term of a literal. Moments are taken to the second. -/
def resolveConst (text : List Char) (span : Span) : Literal → Term
  | .none => build text span (.const .none) [] []
  | .bool value => build text span (.const (.bool value)) [] []
  | .int value => build text span (.const (.int value)) [] []
  | .float value => build text span (.const (.number value)) [] []
  | .str value => build text span (.const (.str value)) [] []
  | .date value => build text span (.const (.date value)) [] []
  | .dateTime value => build text span (.const (.dateTime value.wholeSecond)) [] []
  | .color value => build text span (.const (.color value)) [] []
  | .malformed kind => (build text span (.const .none) [] []).withFault (.malformed kind)

/-- What is refused about the arguments of a call, given its source. The first argument that is not
passed by position decides. -/
def refused? : List ArgKind → Option (String → Unsupported)
  | [] => none
  | .positional :: kinds => refused? kinds
  | .keyword _ :: _ => some .keywordArgument
  | .star :: _ | .starStar :: _ => some .starArgument

mutual

/-- The term that an expression denotes, read from `text`. -/
def resolve (schema : Schema) (text : List Char) : Expr → Except Unsupported Term
  | .const place value => .ok (resolveConst text place.span value)
  | .name place identifier =>
    .ok (build text place.span (.field identifier (schema.vars.get? identifier)) [] [])
  | .absent => .ok .absent
  | .list place items => do
    let slots ← resolveAll schema text items
    return build text place.span .list items slots
  | .set place items => do
    let slots ← resolveAll schema text items
    return build text place.span .set items slots
  | .attr place obj identifier => do
    let parent ← resolve schema text obj
    match Term.member? schema.groups parent identifier with
    | some field => return build text place.span (.field identifier (some field)) [obj] [parent]
    | none => return build text place.span (.attr identifier) [obj] [parent]
  | .call place callee kinds args =>
    match refused? kinds, callee with
    | some refusal, _ => .error (refusal (textBetween text place.span.start place.span.stop))
    | none, .name _ identifier => do
      let slots ← resolveAll schema text args
      return build text place.span (.func identifier) args slots
    | none, .attr _ obj identifier => do
      let receiver ← resolve schema text obj
      let slots ← resolveAll schema text args
      return build text place.span (.meth identifier) (obj :: args) (receiver :: slots)
    | none, _ => .error (.callee (textBetween text place.span.start place.span.stop))
  | .item place obj index => do
    let o ← resolve schema text obj
    let i ← resolve schema text index
    return build text place.span (.binary .item) [obj, index] [o, i]
  | .slice place obj low high => do
    let o ← resolve schema text obj
    let l ← resolve schema text low
    let h ← resolve schema text high
    return build text place.span .slice [obj, low, high] [o, l, h]
  | .binary place op left right => do
    let l ← resolve schema text left
    let r ← resolve schema text right
    return build text place.span (.binary op) [left, right] [l, r]
  | .unary place op obj => do
    let o ← resolve schema text obj
    return build text place.span (.unary op) [obj] [o]
  | .cond place yes test no => do
    let y ← resolve schema text yes
    let t ← resolve schema text test
    let n ← resolve schema text no
    return build text place.span .cond [yes, test, no] [y, t, n]

/-- The terms that several expressions denote, in order. -/
def resolveAll (schema : Schema) (text : List Char) : List Expr → Except Unsupported (List Term)
  | [] => .ok []
  | e :: es => do
    let t ← resolve schema text e
    let ts ← resolveAll schema text es
    return t :: ts

end

end Expr
end QueryExpr
