import QueryExpr.OrderedMap
import QueryExpr.Rule.Template

/-!
# Registries of rules

A registry holds rules in the order of their registration, at most one for each key. Registering a
specification goes through its combinations in order; a combination whose key is taken is counted and
dropped, so that the first rule for a key stays. A combination that makes no rule ends the
registration, and what was registered before it stays.

Beside the rules a registry keeps the numbers of arguments with which each function, and each method
of each type, is known. They tell a wrong number of arguments from a wrong type.
-/

namespace QueryExpr

/-- Rules by key, and what follows from them. -/
structure Registry where
  /-- The rules, the latest one first. -/
  latest : List Rule := []
  /-- The numbers of arguments of each function, ascending. -/
  functionArities : OrderedMap String (List Nat) := .empty
  /-- The numbers of arguments of each method of each type, ascending; the receiver is not counted. -/
  methodArities : OrderedMap (DataType × String) (List Nat) := .empty
  /-- How many combinations were dropped because their key was taken. -/
  duplicates : Nat := 0
  deriving Repr, Inhabited

namespace Registry

/-- Put a number into an ascending list that holds each number once. -/
def insertArity (n : Nat) : List Nat → List Nat
  | [] => [n]
  | m :: ms => if n < m then n :: m :: ms else if n = m then m :: ms else m :: insertArity n ms

/-- Add a number of arguments under a key. -/
def addArity {κ : Type} [DecidableEq κ] (m : OrderedMap κ (List Nat)) (k : κ) (n : Nat) :
    OrderedMap κ (List Nat) :=
  m.insert k (insertArity n ((m.get? k).getD []))

/-- The rule with this key. -/
def lookup (reg : Registry) (nodeType : NodeType) (name : Option String)
    (signature : List DataType) : Option Rule :=
  reg.latest.find? fun r => r.isFor nodeType name signature

/-- The rules in the order of their registration. -/
def list (reg : Registry) : List Rule := reg.latest.reverse

/-- The rules for one kind of node. -/
def listFor (reg : Registry) (nodeType : NodeType) : List Rule :=
  reg.list.filter fun r => r.nodeType = nodeType

/-- The number of rules. -/
def size (reg : Registry) : Nat := reg.latest.length

/-- Register a rule whose key is free, and the number of its arguments. -/
def insertRule (reg : Registry) (rule : Rule) : Registry :=
  let reg := { reg with latest := rule :: reg.latest }
  match rule.nodeType, rule.name, rule.signature with
  | .func, some name, signature =>
    { reg with functionArities := addArity reg.functionArities name signature.length }
  | .meth, some name, receiver :: args =>
    { reg with methodArities := addArity reg.methodArities (receiver, name) args.length }
  | _, _, _ => reg

/-- The rule of a combination, or nothing if its key is taken. -/
def ruleOf? (reg : Registry) (nodeType : NodeType) (spec template : String)
    (namePosition : Option Nat) (combination : List Spec.Member) :
    Except SpecError (Option Rule) := do
  let items ← Spec.resolve combination namePosition
  match items with
  | .type result :: operands =>
    let name := Spec.lastName? operands
    let signature := Spec.types operands
    if (reg.lookup nodeType name signature).isSome then return none
    let parts ← Template.parse template signature
    return some
      { nodeType, result, name, signature
        template := parts
        display := Spec.display nodeType spec result signature }
  | _ => throw (.missingResult spec)

/-- Register the combinations in order, and count the rules that are new. -/
def addCombinations (nodeType : NodeType) (spec template : String) (namePosition : Option Nat) :
    Registry → List (List Spec.Member) → Registry × Except SpecError Nat
  | reg, [] => (reg, .ok 0)
  | reg, c :: cs =>
    match reg.ruleOf? nodeType spec template namePosition c with
    | .error e => (reg, .error e)
    | .ok none =>
      addCombinations nodeType spec template namePosition
        { reg with duplicates := reg.duplicates + 1 } cs
    | .ok (some rule) =>
      let (reg, added) :=
        addCombinations nodeType spec template namePosition (reg.insertRule rule) cs
      (reg, added.map (· + 1))

/-- Register every rule of a specification that is new, and count them. -/
def add (reg : Registry) (nodeType : NodeType) (spec template : String) :
    Registry × Except SpecError Nat :=
  match Spec.parse spec with
  | .error e => (reg, .error e)
  | .ok groups =>
    addCombinations nodeType spec template (Spec.namePosition? groups) reg
      (Spec.combinations groups)

/-- A registry made of specifications with their templates, registered in order. -/
def ofTable (table : List (NodeType × String × String)) : Registry :=
  table.foldl (fun reg row => (reg.add row.1 row.2.1 row.2.2).1) {}

end Registry
end QueryExpr
