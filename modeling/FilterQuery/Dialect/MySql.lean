import FilterQuery.Dialect.Basic
import FilterQuery.Dialect.Relation

/-!
# Conditions of SQL

A comparison has its sign between key and value, a conjunction or disjunction stands in
parentheses. Keys and values are written as they stand in the query.
-/

namespace FilterQuery.Dialect

namespace MySql

/-- A text in parentheses. -/
def parenthesized (text : String) : String :=
  "(" ++ text ++ ")"

/-- Writes a relation between a key and a value. -/
def compare (r : Relation) (key value : String) : String :=
  match r with
  | .equal => key ++ " = " ++ value
  | .unequal => key ++ " != " ++ value
  | .greater => key ++ " > " ++ value
  | .greaterOrEqual => key ++ " >= " ++ value
  | .less => key ++ " < " ++ value
  | .lessOrEqual => key ++ " <= " ++ value
  | .oneOf => key ++ " IN " ++ parenthesized value
  | .noneOf => key ++ " NOT IN " ++ parenthesized value

end MySql

/-- The dialect of MySQL. -/
def mysql : Dialect where
  operators := Relation.operators MySql.compare
  conjunction := fun parts => MySql.parenthesized (String.intercalate " AND " parts)
  disjunction := fun parts => MySql.parenthesized (String.intercalate " OR " parts)

end FilterQuery.Dialect
