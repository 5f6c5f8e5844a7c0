import FilterQuery.Query.Condition
import FilterQuery.Query.Error
import FilterQuery.Query.Operator

/-!
# Dialects

A dialect writes conditions for a back end: it has operators, which write comparisons, and a way to
write conjunctions and disjunctions of what is already written. Values are never looked into.
-/

namespace FilterQuery

/-- How conditions are written for a back end. -/
structure Dialect where
  operators : List Operator
  conjunction : List String → String
  disjunction : List String → String

namespace Dialect

/-- The first operator that the dialect registers for a pattern. -/
def operator? (d : Dialect) (pattern : String) : Option Operator :=
  Operator.find? d.operators pattern

/-- The dialect with further operators, which are looked up before its own. -/
def prepend (operators : List Operator) (d : Dialect) : Dialect :=
  { d with operators := operators ++ d.operators }

/-- Writes a comparison, unless its operator is not registered. -/
def renderComparison (d : Dialect) (c : Comparison) : Except QueryError String :=
  match d.operator? c.operator with
  | some o => .ok (o.format c.key c.value)
  | none => .error (.unknownOperator c.operator (c.key ++ c.operator ++ c.value))

mutual
/-- Writes a condition. The first comparison whose operator is not registered is refused. -/
def render (d : Dialect) : Condition → Except QueryError String
  | .comparison c => d.renderComparison c
  | .all children => do return d.conjunction (← d.renderEach children)
  | .any children => do return d.disjunction (← d.renderEach children)

/-- Writes several conditions, in their order. -/
def renderEach (d : Dialect) : List Condition → Except QueryError (List String)
  | [] => return []
  | c :: cs => do return (← d.render c) :: (← d.renderEach cs)
end

theorem operator?_prepend (operators : List Operator) (d : Dialect) (pattern : String) :
    (d.prepend operators).operator? pattern =
      (Operator.find? operators pattern).or (d.operator? pattern) :=
  Operator.find?_append operators d.operators pattern

end Dialect

end FilterQuery
