import FilterQuery.Query.Error
import FilterQuery.Query.Token
import FilterQuery.Text.Blank
import FilterQuery.Text.Escape

/-!
# Operators

An operator is registered for a token and says how a comparison with it is written. Operators are
looked up in a list, and the first one that is registered for a token counts.
-/

namespace FilterQuery

/-- An operator of a dialect: the token that it is registered for, whether its value is a list in
parentheses, and how a key and a value are written with it. -/
structure Operator where
  pattern : String
  isList : Bool
  format : String → String → String
  shaped : Token.isShaped pattern.toList = true

namespace Operator

/-- The operator for a pattern, refused unless the pattern has the shape of a token. -/
def make (pattern : String) (isList : Bool) (format : String → String → String) :
    Except QueryError Operator :=
  if shaped : Token.isShaped pattern.toList = true then
    .ok { pattern, isList, format, shaped }
  else .error (.invalidPattern pattern)

/-- An operator that is written like `o` and registered for another pattern. -/
def renamed (o : Operator) (pattern : String) : Except QueryError Operator :=
  make pattern o.isList o.format

/-- The first operator that is registered for a pattern. -/
def find? (operators : List Operator) (pattern : String) : Option Operator :=
  operators.find? fun o => o.pattern == pattern

theorem pattern_of_find? {operators : List Operator} {pattern : String} {o : Operator}
    (h : find? operators pattern = some o) : o.pattern = pattern := by
  simpa using List.find?_some h

theorem find?_append (first second : List Operator) (pattern : String) :
    find? (first ++ second) pattern = (find? first pattern).or (find? second pattern) := by
  simp [find?]

theorem exists_find?_iff {operators : List Operator} {pattern : String} :
    (∃ o, find? operators pattern = some o) ↔ ∃ o ∈ operators, o.pattern = pattern := by
  rw [← Option.isSome_iff_exists, find?, List.find?_isSome]
  simp

theorem make_eq_ok_iff {pattern : String} {isList : Bool} {format : String → String → String}
    {o : Operator} : make pattern isList format = .ok o ↔
      o.pattern = pattern ∧ o.isList = isList ∧ o.format = format := by
  rcases o with ⟨p, l, f, s⟩
  by_cases h : Token.isShaped pattern.toList = true
  · simp only [make, h, dif_pos, Except.ok.injEq, Operator.mk.injEq]
    grind
  · simp only [make, h]
    constructor
    · intro hm
      simp at hm
    · rintro ⟨rfl, -, -⟩
      exact absurd s h

end Operator

/-- A comparison term cut at its operator: the trimmed key, the value as written, and the operator
that is registered for the token between them. -/
structure OperatorMatch where
  key : List Char
  operator : Operator
  value : List Char

/-- Cuts a comparison term at its first operator token and looks the operator up. -/
def OperatorMatch.find (operators : List Operator) (term : List Char) :
    Except QueryError OperatorMatch :=
  match Token.split? term with
  | none => .error (.noOperator (Escape.shown term))
  | some s =>
    let key := trim s.before
    if key.isEmpty then .error (.emptyKey (Escape.shown term))
    else if Escape.hasStandIn key then .error (.escapedKey (Escape.shown term))
    else
      match Operator.find? operators (String.ofList s.token) with
      | none => .error (.unknownOperator (String.ofList s.token) (Escape.shown term))
      | some operator => .ok { key, operator, value := s.after }

end FilterQuery
