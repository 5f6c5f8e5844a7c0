import FilterQuery.Query.Operator

/-!
# The relations that every dialect writes

Eight relations between a key and a value have a token of their own in every dialect. The last two
take a list of values.
-/

namespace FilterQuery

/-- A relation between a key and its value or values. -/
inductive Relation where
  | equal
  | unequal
  | greater
  | greaterOrEqual
  | less
  | lessOrEqual
  | oneOf
  | noneOf
deriving Repr, DecidableEq

namespace Relation

/-- The relations in the order in which dialects register them. -/
def every : List Relation :=
  [equal, unequal, greater, greaterOrEqual, less, lessOrEqual, oneOf, noneOf]

/-- The token of a relation. -/
def pattern : Relation → String
  | equal => "=="
  | unequal => "!="
  | greater => "=gt="
  | greaterOrEqual => "=ge="
  | less => "=lt="
  | lessOrEqual => "=le="
  | oneOf => "=in="
  | noneOf => "=out="

/-- Whether a relation takes a list of values. -/
def takesList : Relation → Bool
  | oneOf => true
  | noneOf => true
  | _ => false

theorem shaped_pattern (r : Relation) : Token.isShaped r.pattern.toList = true := by
  cases r with
  | equal => exact @Token.isShaped_token '=' [] rfl rfl
  | unequal => exact @Token.isShaped_token '!' [] rfl rfl
  | greater => exact @Token.isShaped_token '=' ['g', 't'] rfl rfl
  | greaterOrEqual => exact @Token.isShaped_token '=' ['g', 'e'] rfl rfl
  | less => exact @Token.isShaped_token '=' ['l', 't'] rfl rfl
  | lessOrEqual => exact @Token.isShaped_token '=' ['l', 'e'] rfl rfl
  | oneOf => exact @Token.isShaped_token '=' ['i', 'n'] rfl rfl
  | noneOf => exact @Token.isShaped_token '=' ['o', 'u', 't'] rfl rfl

/-- The operator for a relation, written in a given way. -/
def operator (r : Relation) (format : String → String → String) : Operator where
  pattern := r.pattern
  isList := r.takesList
  format := format
  shaped := r.shaped_pattern

/-- The operators for all relations, each written in a given way. -/
def operators (format : Relation → String → String → String) : List Operator :=
  every.map fun r => r.operator (format r)

theorem mem_every (r : Relation) : r ∈ every := by
  cases r <;> simp [every]

theorem find?_operators (format : Relation → String → String → String) (pattern : String) :
    Operator.find? (operators format) pattern =
      (every.find? fun r => r.pattern == pattern).map fun r => r.operator (format r) := by
  rw [Operator.find?, operators, List.find?_map]
  rfl

theorem find?_pattern (r : Relation) : every.find? (fun s => s.pattern == r.pattern) = some r := by
  cases r <;> rfl

end Relation

end FilterQuery
