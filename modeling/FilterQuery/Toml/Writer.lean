import FilterQuery.Text.Hex
import FilterQuery.Toml.TextReader

/-!
# Writing TOML

Strings, numbers, arrays and assignments as text. A string takes the plainest of four forms that can
hold it: control characters other than tab and line feed need escapes, escapes need double quotes,
and line feeds are best kept as they are, between three quotes.
-/

namespace FilterQuery.Toml.Writer

/-- Whether a character can only be written as an escape. -/
def needsEscape (c : Char) : Bool :=
  (c.toNat < 0x20 || c.toNat == 0x7F) && c != '\t' && c != '\n'

/-- Whether three of a quote stand one after the other. -/
def hasTriple (quote : Char) : List Char → Bool
  | a :: b :: c :: text =>
    (a == quote && b == quote && c == quote) || hasTriple quote (b :: c :: text)
  | _ => false

/-- The ways to write a string: with escapes or without, on one line or on several. -/
inductive Form where
  | basic
  | literal
  | multilineBasic
  | multilineLiteral
deriving Repr, DecidableEq

/-- The plainest form for a string. -/
def form (text : List Char) : Form :=
  let plain := !text.any needsEscape
  let oneLine := !text.contains '\n'
  if plain && oneLine && !text.contains '\\' && !text.contains '"' then .basic
  else if plain && oneLine && !text.contains Text.apostrophe then .literal
  else if plain && !text.contains '\\' && !hasTriple '"' text then .multilineBasic
  else if plain && !hasTriple Text.apostrophe text then .multilineLiteral
  else if oneLine then .basic
  else .multilineBasic

/-- How a character other than a quote is written in double quotes. -/
def escapeChar (multiline : Bool) (c : Char) : List Char :=
  if c = '\x08' then ['\\', 'b']
  else if c = '\t' then ['\\', 't']
  else if c = '\x0c' then ['\\', 'f']
  else if c = '\r' then ['\\', 'r']
  else if c = '\\' then ['\\', '\\']
  else if c = '\n' then
    if multiline then [c] else ['\\', 'n']
  else if needsEscape c then '\\' :: 'u' :: Hex.padded 4 (Hex.upper c.toNat)
  else [c]

/-- Writes what stands between double quotes, where `quotes` bare quotes stand right before it.
Between three quotes, no three bare ones may follow each other. -/
def escape (multiline : Bool) (quotes : Nat) : List Char → List Char
  | [] => []
  | c :: text =>
    if c = '"' then
      if multiline && quotes < 2 then '"' :: escape multiline (quotes + 1) text
      else '\\' :: '"' :: escape multiline 0 text
    else escapeChar multiline c ++ escape multiline 0 text

/-- Puts a text between three quotes. A text with a line feed starts on a line of its own. -/
def tripleQuoted (quote : Char) (text written : List Char) : List Char :=
  [quote, quote, quote] ++ (if text.contains '\n' then ['\n'] else []) ++ written ++
    [quote, quote, quote]

/-- Writes a string. -/
def string (text : List Char) : List Char :=
  match form text with
  | .basic => '"' :: (escape false 0 text ++ ['"'])
  | .literal => Text.apostrophe :: (text ++ [Text.apostrophe])
  | .multilineBasic => tripleQuoted '"' text (escape true 0 text)
  | .multilineLiteral => tripleQuoted Text.apostrophe text text

/-- Writes a number. -/
def number (n : Nat) : List Char :=
  Nat.toDigits 10 n

/-- Writes an array of what is already written. Two elements or more stand on lines of their
own. -/
def array : List (List Char) → List Char
  | [] => ['[', ']']
  | [element] => '[' :: (element ++ [']'])
  | elements =>
    ['[', '\n'] ++ elements.flatMap (fun e => "    ".toList ++ e ++ [',', '\n']) ++ [']']

/-- Writes an assignment to a key that needs no quotes. -/
def assignment (key : String) (written : List Char) : List Char :=
  key.toList ++ [' ', '=', ' '] ++ written ++ ['\n']

/-- Writes the header of a table whose name needs no quotes. -/
def header (name : String) : List Char :=
  '[' :: (name.toList ++ [']', '\n'])

/-- Writes the header of a further table in an array whose name needs no quotes. -/
def elementHeader (name : String) : List Char :=
  ['[', '['] ++ name.toList ++ [']', ']', '\n']

end FilterQuery.Toml.Writer
