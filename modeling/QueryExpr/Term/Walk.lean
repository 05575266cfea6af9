import QueryExpr.Term.Basic

/-!
# Walks through a term

Walks go through the operands in order, a node before what is below it. The term that a field is
reached from is part of the reference and not an operand, so walks do not enter it.
-/

namespace QueryExpr.Term

/-- The operands. -/
def children (t : Term) : List Term := if t.head.isField then [] else t.slots

mutual

/-- The nodes below the term. -/
def descendants : Term → List Term
  | .node head _ _ slots => if head.isField then [] else withDescendants slots

/-- Several terms, each with the nodes below it. -/
def withDescendants : List Term → List Term
  | [] => []
  | t :: ts => t :: descendants t ++ withDescendants ts

end

mutual

/-- The paths from the start of `path` through the term to each of its nodes. -/
def pathsFrom (path : List Term) : Term → List (List Term)
  | .node head verdict content slots =>
    let here := path ++ [.node head verdict content slots]
    here :: (if head.isField then [] else pathsFromAll here slots)

/-- The paths through several terms. -/
def pathsFromAll (path : List Term) : List Term → List (List Term)
  | [] => []
  | t :: ts => pathsFrom path t ++ pathsFromAll path ts

end

/-- The paths from the term to each of its nodes. -/
def paths (t : Term) : List (List Term) := pathsFrom [] t

mutual

/-- The references to fields, without those that they are reached from. -/
def fieldRefs : Term → List Term
  | .node head verdict content slots =>
    if head.isField then [.node head verdict content slots] else fieldRefsAll slots

/-- The references in several terms. -/
def fieldRefsAll : List Term → List Term
  | [] => []
  | t :: ts => fieldRefs t ++ fieldRefsAll ts

end

/-! ### Properties of a node -/

/-- The names on the way to a field, joined by dots. -/
def fullIdentifier? : Term → Option String
  | .node (.field identifier _) _ _ (parent :: _) =>
    some (parent.fullIdentifier?.getD "" ++ "." ++ identifier)
  | .node (.field identifier _) _ _ [] => some identifier
  | _ => none

/-- The field that the term refers to. -/
def field? (t : Term) : Option Field :=
  match t.head with
  | .field _ field => field
  | _ => none

/-- What the node shows beside its operands: the value of a constant, a name, the number of items of
a collection without item type. A malformed literal shows its source. -/
def value? (t : Term) : Option String :=
  if t.fault.any Fault.isMalformed then some t.source
  else
    match t.head with
    | .field _ _ => t.fullIdentifier?
    | .const value => value.valueText?
    | .list => if t.dataType = some .nullList then some (toString t.slots.length) else none
    | .set => if t.dataType = some .nullSet then some (toString t.slots.length) else none
    | .attr name | .func name | .meth name => some name
    | _ => none

/-- The node for readers: its kind, its type or fault, and its source. -/
def display (t : Term) : String :=
  "vsql." ++ t.nodeType.name ++
    (match t.dataType with
      | some type => "(datatype " ++ type.name ++ ")"
      | none => "") ++
    (match t.fault with
      | some fault => "(error " ++ fault.label ++ ")"
      | none => "") ++
    ": " ++ t.source

end QueryExpr.Term
