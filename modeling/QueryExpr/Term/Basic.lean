import QueryExpr.Fault
import QueryExpr.Schema.Group
import QueryExpr.Term.Constant

/-!
# Typed expressions

A term is an expression whose names are resolved and whose nodes are typed. A node is a head over its
slots: the operands, or for a reference to a field the term that it is reached from. Beside its type
or fault a node keeps its source, as text interleaved with its slots, so that every term can be
written out exactly as it was read, valid or not.
-/

namespace QueryExpr

/-- What a node is, apart from its operands. -/
inductive Head where
  /-- A reference to a field; the field is missing if the name is unknown. -/
  | field (identifier : String) (field : Option Field)
  /-- A constant. -/
  | const (value : Constant)
  | list
  | set
  | binary (op : BinaryOp)
  | unary (op : UnaryOp)
  /-- `yes if test else no` -/
  | cond
  /-- `obj[low:high]` -/
  | slice
  | attr (name : String)
  | func (name : String)
  | meth (name : String)
  deriving DecidableEq, Repr, Inhabited

namespace Head

/-- The kind of node. -/
def nodeType : Head → NodeType
  | .field _ _ => .field
  | .const value => .const value.kind
  | .list => .list
  | .set => .set
  | .binary op => .binary op
  | .unary op => .unary op
  | .cond => .cond
  | .slice => .slice
  | .attr _ => .attr
  | .func _ => .func
  | .meth _ => .meth

/-- The binding strength, which decides where an operand needs parentheses. -/
def precedence : Head → Nat
  | .const _ | .list | .set => 20
  | .field _ _ | .attr _ => 19
  | .func _ => 18
  | .meth _ => 17
  | .slice => 16
  | .binary op => op.precedence
  | .unary op => op.precedence
  | .cond => 3

/-- The name that takes part in choosing a rule. -/
def ruleName? : Head → Option String
  | .attr name | .func name | .meth name => some name
  | _ => none

/-- The node is a reference to a field. -/
def isField : Head → Bool
  | .field _ _ => true
  | _ => false

end Head

/-- A piece of the source of a node. -/
inductive Fragment where
  | text (text : String)
  /-- The source of the slot with this number, counted from zero. -/
  | slot (index : Nat)
  deriving DecidableEq, Repr, Inhabited

/-- What is known about a node: its type if it is valid, and its fault if it is not. -/
structure Verdict where
  dataType : Option DataType
  fault : Option Fault
  deriving DecidableEq, Repr, Inhabited

namespace Verdict

/-- A valid node. -/
def valid (type : DataType) : Verdict := ⟨some type, none⟩

/-- An invalid node. -/
def invalid (fault : Fault) : Verdict := ⟨none, some fault⟩

/-- The type of a node without fault. -/
def type? (v : Verdict) : Option DataType := if v.fault.isNone then v.dataType else none

end Verdict

/-- A typed expression. -/
inductive Term where
  | node (head : Head) (verdict : Verdict) (content : List Fragment) (slots : List Term)
  deriving Repr, Inhabited

namespace Term

/-- What the node is. -/
def head : Term → Head
  | .node head _ _ _ => head

/-- What is known about the node. -/
def verdict : Term → Verdict
  | .node _ verdict _ _ => verdict

/-- The source of the node. -/
def content : Term → List Fragment
  | .node _ _ content _ => content

/-- The terms that take part in the source. -/
def slots : Term → List Term
  | .node _ _ _ slots => slots

/-- The type of the node, if it is valid. -/
def dataType (t : Term) : Option DataType := t.verdict.dataType

/-- The fault of the node. -/
def fault (t : Term) : Option Fault := t.verdict.fault

/-- The kind of node. -/
def nodeType (t : Term) : NodeType := t.head.nodeType

/-- The binding strength. -/
def precedence (t : Term) : Nat := t.head.precedence

/-- The node with another verdict. -/
def withVerdict (v : Verdict) : Term → Term
  | .node head _ content slots => .node head v content slots

/-- The node, marked invalid. -/
def withFault (fault : Fault) (t : Term) : Term := t.withVerdict (.invalid fault)

/-! ### Source -/

/-- Pieces without empty text and without text next to text. -/
def mergeContent : List Fragment → List Fragment
  | [] => []
  | .slot n :: rest => .slot n :: mergeContent rest
  | .text s :: rest =>
    if s = "" then mergeContent rest
    else
      match mergeContent rest with
      | .text r :: rest => .text (s ++ r) :: rest
      | rest => .text s :: rest

/-- The pieces with the slots put in, in front of `rest`. A slot is given by what puts its source in
front of a text. -/
def layOut (slots : List (List Char → List Char)) : List Fragment → List Char → List Char
  | [], rest => rest
  | .text s :: content, rest => s.toList ++ layOut slots content rest
  | .slot n :: content, rest => (slots[n]?.getD id) (layOut slots content rest)

mutual

/-- The source of a term in front of a text. Writing it there, and not joining the sources of the
parts, takes time in proportion to the length of the source. -/
def sourceOnto : Term → List Char → List Char
  | .node _ _ content slots => layOut (sourcesOnto slots) content

/-- The sources of several terms, each in front of a text. -/
def sourcesOnto : List Term → List (List Char → List Char)
  | [] => []
  | t :: ts => sourceOnto t :: sourcesOnto ts

end

/-- The characters of the source. -/
def sourceChars (t : Term) : List Char := t.sourceOnto []

/-- The source of the term. -/
def source (t : Term) : String := String.ofList t.sourceChars

end Term
end QueryExpr
