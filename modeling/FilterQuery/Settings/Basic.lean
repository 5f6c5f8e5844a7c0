import FilterQuery.Dialect.Mongo
import FilterQuery.Dialect.MySql
import FilterQuery.KeyStyle
import FilterQuery.Query.KeyPolicy

/-!
# Settings

What a parser is built from: the name of a dialect, the limit on nested groups, the styles that keys
are spelled in, the keys that are allowed or forbidden, and further names for operators.
-/

namespace FilterQuery

/-- The dialects that can be named. -/
inductive DialectName where
  | mongo
  | mysql
deriving Repr, DecidableEq

namespace DialectName

/-- The name of a dialect. -/
def name : DialectName → String
  | mongo => "mongo"
  | mysql => "mysql"

/-- The name of a dialect in the journal. -/
def title : DialectName → String
  | mongo => "Mongo"
  | mysql => "Mysql"

/-- The dialect with a name. -/
def ofName? (name : String) : Option DialectName :=
  [mongo, mysql].find? fun d => d.name == name

/-- The dialect that a name is for. -/
def dialect : DialectName → Dialect
  | mongo => .mongo
  | mysql => .mysql

@[simp]
theorem ofName?_name (d : DialectName) : ofName? d.name = some d := by
  cases d <;> rfl

end DialectName

/-- A further token for an operator of the dialect. -/
structure OperatorAlias where
  pattern : String
  target : String
deriving Repr, DecidableEq

/-- The settings of a parser and of the policy for its keys. -/
structure Settings where
  dialect : DialectName := .mongo
  maxDepth : Nat := 32
  keyStyles : List KeyStyle := []
  allowed : Option (List String) := none
  forbidden : Option (List String) := none
  operators : List OperatorAlias := []
deriving Repr, DecidableEq

/-- The policy for keys. -/
def Settings.policy (s : Settings) : KeyPolicy where
  allowed := s.allowed
  forbidden := s.forbidden

end FilterQuery
