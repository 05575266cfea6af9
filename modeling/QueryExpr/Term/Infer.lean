import QueryExpr.Rule.Standard
import QueryExpr.Term.Walk

/-!
# Types and faults

The verdict on a node follows from its head and the verdicts on its operands. Fields and constants
have a type of their own, the type of a collection comes from its items, and for all other nodes a
rule decides. Where no rule fits, the fault tells an unknown name from a wrong number of arguments and
from wrong types.
-/

namespace QueryExpr
namespace Term

/-- The types of the operands; nothing if one of them is invalid. -/
def signature? (operands : List Term) : Option (List DataType) :=
  operands.mapM fun t => t.verdict.type?

/-- The types that occur among the items, each once and in the conventional order. The missing value
fits into any collection and does not count. -/
def itemTypes (types : List DataType) : List DataType :=
  DataType.all.filter fun t => t ≠ .null && types.contains t

/-- The type of a list with items of these types. -/
def listVerdict : List DataType → Verdict
  | [] => .valid .nullList
  | [.int] => .valid .intList
  | [.number] => .valid .numberList
  | [.str] => .valid .strList
  | [.clob] => .valid .clobList
  | [.date] => .valid .dateList
  | [.dateTime] => .valid .dateTimeList
  | [.int, .number] => .valid .numberList
  | [.str, .clob] => .valid .clobList
  | _ => .invalid .listTypes

/-- The type of a set with items of these types. -/
def setVerdict : List DataType → Verdict
  | [] => .valid .nullSet
  | [.int] => .valid .intSet
  | [.number] => .valid .numberSet
  | [.str] => .valid .strSet
  | [.date] => .valid .dateSet
  | [.dateTime] => .valid .dateTimeSet
  | [_] => .invalid .setTypes
  | _ => .invalid .mixedSet

/-- The fault of a call for which there is no rule, given the numbers of arguments that are known. -/
def callFault (arities : Option (List Nat)) (count : Nat) : Fault :=
  match arities with
  | none => .name
  | some ns => if ns.contains count then .subnodeTypes else .arity

/-- The fault of a node for which there is no rule. -/
def noRuleFault (reg : Registry) (head : Head) (signature : List DataType) : Fault :=
  match head with
  | .attr _ => .name
  | .func name => callFault (reg.functionArities.get? name) signature.length
  | .meth name =>
    match signature with
    | [] => .name
    | receiver :: args => callFault (reg.methodArities.get? (receiver, name)) args.length
  | _ => .subnodeTypes

/-- The verdict that the rules give on a node with valid operands of these types. -/
def ruleVerdict (reg : Registry) (head : Head) (signature : List DataType) : Verdict :=
  match reg.lookup head.nodeType head.ruleName? signature with
  | some rule => .valid rule.result
  | none => .invalid (noRuleFault reg head signature)

/-- The verdict on a node. -/
def verdictOn (reg : Registry) (head : Head) (slots : List Term) : Verdict :=
  match head with
  | .field _ (some field) => .valid field.dataType
  | .field _ none => .invalid .field
  | .const value => .valid value.dataType
  | head =>
    match signature? slots with
    | none => .invalid .subnode
    | some signature =>
      match head with
      | .list => listVerdict (itemTypes signature)
      | .set => setVerdict (itemTypes signature)
      | head => ruleVerdict reg head signature

/-- A node with its source, judged by the standard rules. -/
def make (head : Head) (content : List Fragment) (slots : List Term) : Term :=
  .node head (verdictOn .standard head slots) (mergeContent content) slots

/-- The rule of the node. -/
def rule? (t : Term) : Option Rule :=
  (signature? t.children).bind fun signature =>
    Registry.standard.lookup t.nodeType t.head.ruleName? signature

end Term
end QueryExpr
