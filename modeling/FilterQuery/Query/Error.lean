/-!
# Why a query is refused

Each cause carries what its message names: a part of the query as its author wrote it, a position
counted in the characters of this part once it is encoded, a key or an operator.
-/

namespace FilterQuery

/-- Why a query, or an operator for queries, is refused. -/
inductive QueryError where
  /-- A parenthesis that closes or opens too much. -/
  | unbalancedParens (fragment : String) (position : Nat)
  /-- Nothing but blanks where a term has to be. -/
  | emptyTerm (fragment : String) (position : Nat)
  /-- Parentheses that are neither around a whole term nor part of a value. -/
  | malformedParens (term : String)
  /-- A comparison without an operator token. -/
  | noOperator (term : String)
  /-- A comparison that starts with its operator. -/
  | emptyKey (term : String)
  /-- A key with an escape pair in it. -/
  | escapedKey (term : String)
  /-- An operator token that is not registered. -/
  | unknownOperator (operator : String) (term : String)
  /-- A key that is not on the list of allowed keys. -/
  | keyNotAllowed (key : String)
  /-- A key on the list of forbidden keys. -/
  | keyForbidden (key : String)
  /-- More groups inside each other than the limit. -/
  | tooDeep (maxDepth : Nat)
  /-- A pattern that can never be met as an operator token. -/
  | invalidPattern (pattern : String)
deriving Repr, DecidableEq

/-- The message for a cause. -/
def QueryError.message : QueryError → String
  | unbalancedParens fragment position =>
    s!"unbalanced parentheses at offset {position} in '{fragment}'"
  | emptyTerm fragment position => s!"empty term at offset {position} in '{fragment}'"
  | malformedParens term => s!"malformed parentheses in '{term}'"
  | noOperator term => s!"no operator found in '{term}'"
  | emptyKey term => s!"missing key before operator in '{term}'"
  | escapedKey term => s!"escaped character in key of '{term}'"
  | unknownOperator operator term => s!"unknown operator '{operator}' in '{term}'"
  | keyNotAllowed key => s!"key '{key}' is not allowed"
  | keyForbidden key => s!"key '{key}' is forbidden"
  | tooDeep maxDepth => s!"grouping nested deeper than {maxDepth} levels"
  | invalidPattern pattern =>
    s!"invalid operator pattern '{pattern}': must start with '!' or '=', end with '=', " ++
      "and contain no other '=' or parentheses"

end FilterQuery
