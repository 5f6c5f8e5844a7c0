import FilterQuery.Query.Error

/-!
# Why settings are refused

A file with settings may not be readable, its text may not describe settings, and a parser may not
be built from them. There is no cause for a failure to write: all settings have a text
(`Settings.toText`).
-/

namespace FilterQuery

/-- Why a file could not be read. -/
inductive ReadFailure where
  | missing
  | directory
  | notUtf8
deriving Repr, DecidableEq

/-- The message for a failure to read. -/
def ReadFailure.message : ReadFailure → String
  | missing => "No such file or directory (os error 2)"
  | directory => "Is a directory (os error 21)"
  | notUtf8 => "stream did not contain valid UTF-8"

/-- Why settings are refused. -/
inductive SettingsError where
  /-- The file could not be read. -/
  | unreadable (path : String) (failure : ReadFailure)
  /-- The text is no document of settings. -/
  | malformed (path : String)
  /-- The dialect has no operator for the target of an alias. -/
  | unknownTarget (pattern target : String)
  /-- The pattern of an alias is refused. -/
  | invalidOperator (pattern : String) (cause : QueryError)
deriving Repr, DecidableEq

/-- The message for a cause. -/
def SettingsError.message : SettingsError → String
  | unreadable path failure =>
    let reason := failure.message
    s!"failed to read config file {path}: {reason}"
  | malformed path => s!"failed to parse config file {path}"
  | unknownTarget pattern target => s!"operator '{pattern}' aliases unknown operator '{target}'"
  | invalidOperator pattern cause =>
    let reason := cause.message
    s!"invalid operator '{pattern}': {reason}"

end FilterQuery
