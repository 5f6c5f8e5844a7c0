import FilterQuery.Dialect.Basic
import FilterQuery.Dialect.Mongo
import FilterQuery.Dialect.MySql
import FilterQuery.Query.KeyPolicy
import FilterQuery.Query.Term
import FilterQuery.Query.Terms

/-!
# Reading queries

A query is a list of alternatives, an alternative a list of terms, and a term a group, which holds
a query again, or a comparison. One level of this is read by `readLevel`, which is told how to read
a group. `parse` reads groups the same way, as many levels deep as the parser's limit allows.
-/

namespace FilterQuery

/-- How queries are read: the dialect whose operators they use, the transforms that every key goes
through, and how many groups may stand inside each other. -/
structure Parser where
  dialect : Dialect
  transforms : List (String → String) := []
  maxDepth : Nat := 32

namespace Parser

/-- The parser for a dialect, with further operators that are looked up before the dialect's. -/
def make (dialect : Dialect) (operators : List Operator) (transforms : List (String → String))
    (maxDepth : Nat) : Parser where
  dialect := dialect.prepend operators
  transforms := transforms
  maxDepth := maxDepth

/-- The parser for filter documents of MongoDB. -/
def mongo : Parser where
  dialect := .mongo

/-- The parser for conditions of MySQL. -/
def mysql : Parser where
  dialect := .mysql

/-- A key after all transforms, in their order. -/
def transformKey (p : Parser) (key : String) : String :=
  p.transforms.foldl (fun k f => f k) key

/-- Reads a comparison: its operator is looked up, its key is transformed and checked, and its
value loses the parentheses of a list, if its operator takes one, and its escapes. -/
def readComparison (p : Parser) (policy : KeyPolicy) (term : List Char) :
    Except QueryError Comparison := do
  let found ← OperatorMatch.find p.dialect.operators term
  let key := p.transformKey (String.ofList found.key)
  policy.check key
  let value := if found.operator.isList then stripListParens found.value else found.value
  return { key, operator := found.operator.pattern, value := String.ofList (Escape.unescape value) }

section Level

variable {m : Type → Type} [Monad m] [MonadLiftT (Except QueryError) m]

/-- Reads a term, with `enter` for the text inside a group. -/
def readTerm (p : Parser) (policy : KeyPolicy) (enter : List Char → m Condition)
    (term : List Char) : m Condition := do
  match ← TermShape.of term with
  | .group inner => enter inner
  | .listArgument | .plain => return .comparison (← p.readComparison policy term)

/-- Reads terms that hold together, with `enter` for the text inside a group. -/
def readAlternative (p : Parser) (policy : KeyPolicy) (enter : List Char → m Condition)
    (text : List Char) : m Condition := do
  let terms ← Terms.splitAnd text
  return .conj (← terms.mapM (p.readTerm policy enter))

/-- Reads alternatives, with `enter` for the text inside a group. -/
def readLevel (p : Parser) (policy : KeyPolicy) (enter : List Char → m Condition)
    (text : List Char) : m Condition := do
  let alternatives ← Terms.splitOr text
  return .disj (← alternatives.mapM (p.readAlternative policy enter))

end Level

/-- Reads an encoded text in which groups may stand `remaining` levels deep. -/
def readNested (p : Parser) (policy : KeyPolicy) (remaining : Nat) :
    List Char → Except QueryError Condition :=
  match remaining with
  | 0 => p.readLevel policy fun _ => .error (.tooDeep p.maxDepth)
  | remaining + 1 => p.readLevel policy (p.readNested policy remaining)

/-- Reads a query. The first cause of refusal, from left to right, is reported. -/
def parse (p : Parser) (query : String) (policy : KeyPolicy) : Except QueryError Condition :=
  p.readNested policy p.maxDepth (Escape.encode query.toList)

/-- Reads a query and writes its condition in the dialect of the parser. -/
def process (p : Parser) (query : String) (policy : KeyPolicy) : Except QueryError String := do
  p.dialect.render (← p.parse query policy)

/-! ### Reading without a journal -/

section Plain

variable (p : Parser) (policy : KeyPolicy) (enter : List Char → Except QueryError Condition)

theorem readTerm_eq (term : List Char) : p.readTerm policy enter term =
    TermShape.of term >>= fun shape => match shape with
      | .group inner => enter inner
      | _ => Condition.comparison <$> p.readComparison policy term := by
  show TermShape.of term >>= _ = _
  congr 1
  funext shape
  cases shape <;> rfl

theorem readAlternative_eq (text : List Char) : p.readAlternative policy enter text =
    Terms.splitAnd text >>= fun terms =>
      Condition.conj <$> terms.mapM (p.readTerm policy enter) := rfl

theorem readLevel_eq (text : List Char) : p.readLevel policy enter text =
    Terms.splitOr text >>= fun alternatives =>
      Condition.disj <$> alternatives.mapM (p.readAlternative policy enter) := rfl

end Plain

end Parser

end FilterQuery
