import FilterQuery.Query.Error
import FilterQuery.Query.Token
import FilterQuery.Text.Escape
import FilterQuery.Text.Nesting

/-!
# The shape of a term

A parenthesis has two roles: it opens a group, or the list of values of an operator. A term is a
group if one pair of parentheses is around all of it. Otherwise it has to be a comparison, with
parentheses after its operator only.
-/

namespace FilterQuery

/-- How the parentheses of a term are meant. -/
inductive TermShape where
  /-- The whole term is a group around a text. -/
  | group (inner : List Char)
  /-- A comparison with parentheses in its value. -/
  | listArgument
  /-- A comparison without parentheses. -/
  | plain
deriving Repr, DecidableEq

namespace TermShape

/-- The part of a term before its operator: all of it if it has none. -/
def head (term : List Char) : List Char :=
  match Token.split? term with
  | some s => s.before
  | none => term

/-- The part of a term from its operator on. -/
def tail (term : List Char) : List Char :=
  match Token.split? term with
  | some s => s.token ++ s.after
  | none => []

/-- The shape of a trimmed term. -/
def of (term : List Char) : Except QueryError TermShape :=
  match term with
  | '(' :: text =>
    match Nesting.splitAtClose 0 text with
    | some (inner, []) => .ok (.group inner)
    | some _ => .error (.malformedParens (Escape.shown term))
    | none => .error (.unbalancedParens (Escape.shown term) 0)
  | _ =>
    if (head term).any Nesting.isParen then .error (.malformedParens (Escape.shown term))
    else if (tail term).any Nesting.isParen then .ok .listArgument
    else .ok .plain

end TermShape

/-- A list of values without the one pair of parentheses around all of it, if it has one. -/
def stripListParens (value : List Char) : List Char :=
  (Nesting.enclosed? value).getD value

end FilterQuery
