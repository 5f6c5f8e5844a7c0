import FilterQuery.Text.Word

/-!
# Styles of keys

The ways in which the keys of a query can be spelled anew, by their names.
-/

namespace FilterQuery

/-- A way to spell keys. -/
inductive KeyStyle where
  | lowercase
  | uppercase
  | snakeCase
  | camelCase
  | pascalCase
  | kebabCase
deriving Repr, DecidableEq

namespace KeyStyle

/-- Every style. -/
def every : List KeyStyle :=
  [lowercase, uppercase, snakeCase, camelCase, pascalCase, kebabCase]

/-- The name of a style. -/
def name : KeyStyle → String
  | lowercase => "lowercase"
  | uppercase => "uppercase"
  | snakeCase => "snake_case"
  | camelCase => "camel_case"
  | pascalCase => "pascal_case"
  | kebabCase => "kebab_case"

/-- The style with a name. -/
def ofName? (name : String) : Option KeyStyle :=
  every.find? fun s => s.name == name

/-- Spells a text in a style. -/
def spell (s : KeyStyle) (text : List Char) : List Char :=
  match s with
  | lowercase => Case.lower text
  | uppercase => Case.upper text
  | snakeCase => Word.separated '_' (Word.split text)
  | camelCase => Word.humped (Word.split text)
  | pascalCase => Word.capitalized (Word.split text)
  | kebabCase => Word.separated '-' (Word.split text)

/-- Spells a key in a style. -/
def apply (s : KeyStyle) (key : String) : String :=
  String.ofList (s.spell key.toList)

@[simp]
theorem ofName?_name (s : KeyStyle) : ofName? s.name = some s := by
  cases s <;> rfl

end KeyStyle

end FilterQuery
