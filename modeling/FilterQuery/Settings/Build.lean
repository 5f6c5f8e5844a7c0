import FilterQuery.Journal
import FilterQuery.Query.Parser
import FilterQuery.Settings.Error
import FilterQuery.Settings.Warning

/-!
# The parser that settings describe

An alias is another token for an operator of the dialect itself: the target is never looked up among
the aliases. The first alias that cannot be registered is reported.
-/

namespace FilterQuery.Settings

/-- The operator for an alias. -/
def aliasOperator (s : Settings) (a : OperatorAlias) : Except SettingsError Operator :=
  match s.dialect.dialect.operator? a.target with
  | none => .error (.unknownTarget a.pattern a.target)
  | some target =>
    match target.renamed a.pattern with
    | .ok operator => .ok operator
    | .error cause => .error (.invalidOperator a.pattern cause)

/-- The parser that settings describe. -/
def parser (s : Settings) : Except SettingsError Parser := do
  let operators ← s.operators.mapM s.aliasOperator
  return .make s.dialect.dialect operators (s.keyStyles.map KeyStyle.apply) s.maxDepth

/-- The entry for a warning. -/
def warningEntry (w : Warning) : Journal.Entry :=
  let text := w.message
  ⟨.warn, s!"rsql config: {text}"⟩

/-- The entry for a parser that is built. -/
def builtEntry (s : Settings) : Journal.Entry :=
  let title := s.dialect.title
  let aliases := s.operators.length
  let styles := s.keyStyles.length
  ⟨.debug, s!"built {title} parser with {aliases} operator aliases and {styles} key transforms"⟩

/-- The journal of building the parser: all warnings, then an entry if it is built. -/
def buildJournal (s : Settings) : List Journal.Entry :=
  let warnings := s.warnings.map warningEntry
  match s.parser with
  | .ok _ => warnings ++ [s.builtEntry]
  | .error _ => warnings

end FilterQuery.Settings
