import FilterQuery.Dialect.Basic
import FilterQuery.Query.Parser
import FilterQuery.Text.Quoted

/-!
# Summaries of dialects and parsers

One line that names the operators of a dialect, or the settings of a parser. What cannot be shown,
such as how an operator is written, is marked by two dots.
-/

namespace FilterQuery

/-- A summary: the name of a thing and what stands between its braces. -/
def Summary.braced (name body : String) : String :=
  name ++ " \x7b " ++ body ++ " \x7d"

/-- The summary of an operator. -/
def Operator.summary (o : Operator) : String :=
  let pattern := String.ofList (Quoted.quote o.pattern.toList)
  let list := if o.isList then "true" else "false"
  Summary.braced "OperatorSpec" s!"pattern: {pattern}, list: {list}, .."

/-- The summary of a dialect. -/
def Dialect.summary (d : Dialect) : String :=
  let operators := String.intercalate ", " (d.operators.map Operator.summary)
  Summary.braced "Dialect" s!"operators: [{operators}], .."

/-- The summary of a parser. -/
def Parser.summary (p : Parser) : String :=
  let dialect := p.dialect.summary
  let transforms := p.transforms.length
  let maxDepth := p.maxDepth
  Summary.braced "Parser" s!"dialect: {dialect}, transformers: {transforms}, max_depth: {maxDepth}"

end FilterQuery
