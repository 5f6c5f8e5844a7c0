import FilterQuery.Settings.Basic

/-!
# Warnings about settings

Settings that are legal and probably not meant: lists of keys that contradict each other, an alias
that hides an operator of the dialect, a limit that admits no groups.
-/

namespace FilterQuery

/-- Something in settings that is probably not meant. -/
inductive Warning where
  /-- A key is allowed and forbidden, so it is refused. -/
  | keyAllowedAndForbidden (key : String)
  /-- No key is allowed. -/
  | emptyAllowList
  /-- An alias takes the token of an operator of the dialect. -/
  | aliasShadowsBuiltin (pattern : String)
  /-- No group is admitted. -/
  | groupingDisabled
deriving Repr, DecidableEq

/-- The message of a warning. -/
def Warning.message : Warning → String
  | keyAllowedAndForbidden key => s!"key '{key}' is both allowed and forbidden"
  | emptyAllowList => "allow-list is empty, every key will be rejected"
  | aliasShadowsBuiltin pattern => s!"operator '{pattern}' shadows a built-in operator"
  | groupingDisabled => "max_depth is 0, grouping parentheses are disabled"

namespace Settings

/-- The warnings about the lists of keys. -/
def keyWarnings (s : Settings) : List Warning :=
  match s.allowed with
  | none => []
  | some allowed =>
    let both := allowed.filter fun key => (s.forbidden.getD []).contains key
    (if allowed.isEmpty then [.emptyAllowList] else []) ++ both.map .keyAllowedAndForbidden

/-- The warnings about aliases. -/
def aliasWarnings (s : Settings) : List Warning :=
  let shadowing := s.operators.filter fun a => (s.dialect.dialect.operator? a.pattern).isSome
  shadowing.map fun a => .aliasShadowsBuiltin a.pattern

/-- The warnings about the limit on groups. -/
def depthWarnings (s : Settings) : List Warning :=
  if s.maxDepth = 0 then [.groupingDisabled] else []

/-- All warnings: about keys, then aliases, then the limit. -/
def warnings (s : Settings) : List Warning :=
  s.keyWarnings ++ s.aliasWarnings ++ s.depthWarnings

end Settings

end FilterQuery
