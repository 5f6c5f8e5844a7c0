import FilterQuery.Toml.Moment
import FilterQuery.Toml.Number
import FilterQuery.Toml.Space
import FilterQuery.Toml.TextReader
import FilterQuery.Toml.Tree
import FilterQuery.Toml.Value

/-!
# Reading keys and values

Values may hold values, up to a limit of eighty levels. Each reader gives what it has read and the
text after it. The readers of lists take as many steps as the text has characters, which is enough,
because every step reads at least one.
-/

namespace FilterQuery.Toml

/-- How many arrays and inline tables may stand inside each other. -/
def maxLevels : Nat := 80

namespace Key

/-- Whether a character may stand in a key without quotes. -/
def isBare (c : Char) : Bool :=
  c.isAlphanum || c == '_' || c == '-'

/-- Reads one part of a key. -/
def readPart? (text : List Char) : Option (String × List Char) :=
  match Text.readLine? text with
  | some (content, rest) => some (String.ofList content, rest)
  | none =>
    match text.takeWhile isBare with
    | [] => none
    | name => some (String.ofList name, text.dropWhile isBare)

/-- Reads the further parts of a key, each after a dot. -/
def readParts? (steps : Nat) (text : List Char) : Option (List String × List Char) :=
  match steps, skipSpaces text with
  | steps + 1, '.' :: text => do
    let (part, rest) ← readPart? (skipSpaces text)
    let (parts, rest) ← readParts? steps rest
    return (part :: parts, rest)
  | _, rest => some ([], rest)

/-- Reads a key and the spaces after it. -/
def read? (text : List Char) : Option (List String × List Char) := do
  let (part, rest) ← readPart? text
  let (parts, rest) ← readParts? rest.length rest
  return (part :: parts, rest)

end Key

namespace Value

/-- Whether a character may stand in a value without quotes or brackets. -/
def isBare (c : Char) : Bool :=
  !(isSpace c || c == '\n' || c == '\r' || c == '#' || c == ',' || c == '=' || c == '[' ||
    c == ']' || c == '\x7b' || c == '\x7d')

/-- The value that a word is for. -/
def ofWord? (word : List Char) : Option Value :=
  if word = ['t', 'r', 'u', 'e'] then some (.boolean true)
  else if word = ['f', 'a', 'l', 's', 'e'] then some (.boolean false)
  else if Moment.isMoment word then some (.moment (String.ofList word))
  else
    match Number.integer? word with
    | some n => some (.integer n)
    | none => (Number.float? word).map .float

/-- Splits off the word at the start of a text. A date and a time with one space between them are
one word. -/
def word (text : List Char) : List Char × List Char :=
  let first := text.takeWhile isBare
  match text.dropWhile isBare with
  | ' ' :: c :: rest =>
    if Moment.isDate first && Number.isDigitIn 10 c then
      (first ++ ' ' :: (c :: rest).takeWhile isBare, (c :: rest).dropWhile isBare)
    else (first, ' ' :: c :: rest)
  | rest => (first, rest)

/-- Reads a value that holds no others. -/
def readSimple? (text : List Char) : Option (Value × List Char) :=
  match Text.read? text with
  | some (content, rest) => some (.string (String.ofList content), rest)
  | none => (ofWord? (word text).1).map fun v => (v, (word text).2)

/-- Reads the elements of an array and its closing bracket. -/
def readElements? (item : List Char → Option (Value × List Char)) (steps : Nat)
    (text : List Char) : Option (List Value × List Char) :=
  match steps, skipGap text with
  | _, ']' :: rest => some ([], rest)
  | 0, _ => none
  | steps + 1, text => do
    let (v, rest) ← item text
    match skipGap rest with
    | ',' :: rest =>
      let (vs, rest) ← readElements? item steps rest
      return (v :: vs, rest)
    | ']' :: rest => return ([v], rest)
    | _ => none

/-- Reads the assignments of an inline table and its closing brace. -/
def readInline? (item : List Char → Option (Value × List Char)) (steps : Nat)
    (text : List Char) : Option (List (List String × Value) × List Char) :=
  match steps, skipGap text with
  | _, '\x7d' :: rest => some ([], rest)
  | 0, _ => none
  | steps + 1, text => do
    let (key, rest) ← Key.read? text
    let (v, rest) ←
      match skipGap rest with
      | '=' :: rest => item (skipGap rest)
      | _ => none
    match skipGap rest with
    | ',' :: rest =>
      let (assignments, rest) ← readInline? item steps rest
      return ((key, v) :: assignments, rest)
    | '\x7d' :: rest => return ([(key, v)], rest)
    | _ => none

/-- The inline table with some assignments. -/
def inline? (assignments : List (List String × Value)) : Option Value :=
  (Entries.assignAll assignments []).map fun entries => .table (Node.entriesToValues entries)

/-- Reads a value in which others may stand `levels` levels deep. -/
def readNested? (levels : Nat) (text : List Char) : Option (Value × List Char) :=
  match levels, text with
  | levels + 1, '[' :: text => do
    let (elements, rest) ← readElements? (readNested? levels) text.length text
    return (.array elements, rest)
  | levels + 1, '\x7b' :: text => do
    let (assignments, rest) ← readInline? (readNested? levels) text.length text
    return (← inline? assignments, rest)
  | _, text => readSimple? text

/-- Reads a value. -/
def read? (text : List Char) : Option (Value × List Char) :=
  readNested? maxLevels text

end Value

end FilterQuery.Toml
