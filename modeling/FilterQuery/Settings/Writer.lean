import FilterQuery.Settings.Basic
import FilterQuery.Toml.Writer

/-!
# Writing settings

The document of settings has the table `parser` with all of its fields, the table `keys` with the
lists that are given, and a table `operator` for each alias.
-/

namespace FilterQuery.Settings

open Toml

/-- Writes a list of texts. -/
def writeTexts (texts : List String) : List Char :=
  Writer.array (texts.map fun t => Writer.string t.toList)

/-- Writes a list of keys, if there is one. -/
def writeKeys (name : String) : Option (List String) → List Char
  | none => []
  | some keys => Writer.assignment name (writeTexts keys)

/-- Writes an alias. -/
def writeAlias (a : OperatorAlias) : List Char :=
  '\n' :: (Writer.elementHeader "operator" ++
    Writer.assignment "pattern" (Writer.string a.pattern.toList) ++
    Writer.assignment "alias" (Writer.string a.target.toList))

/-- Settings as the characters of a document. -/
def write (s : Settings) : List Char :=
  Writer.header "parser" ++
    Writer.assignment "dialect" (Writer.string s.dialect.name.toList) ++
    Writer.assignment "max_depth" (Writer.number s.maxDepth) ++
    Writer.assignment "key_transforms" (writeTexts (s.keyStyles.map KeyStyle.name)) ++
    '\n' :: Writer.header "keys" ++
    writeKeys "allowed" s.allowed ++ writeKeys "forbidden" s.forbidden ++
    s.operators.flatMap writeAlias

/-- Settings as the text of a document. Writing is never refused: a text is quoted whatever its
characters are, a limit is written as a number of any size, and a list that is not given is left
out, so every field has a written form. -/
def toText (s : Settings) : String :=
  String.ofList s.write

end FilterQuery.Settings
