import FilterQuery.Text.Hex
import FilterQuery.Toml.Space

/-!
# Reading strings

A string stands in double quotes, with escapes, or in apostrophes, as it is. Three quotes of either
kind enclose a string of several lines. Each reader gives the content of a string and the text after
its closing quotes.
-/

namespace FilterQuery.Toml.Text

/-- The quote around a string without escapes. -/
def apostrophe : Char := '\x27'

/-- The quote around a string with escapes. -/
def doubleQuote : Char := '"'

/-- Splits off the quotes that stand right after three closing ones: up to two of them belong to
the content of the string. -/
def lateQuotes (quote : Char) : List Char → List Char × List Char
  | [] => ([], [])
  | [c] => if c = quote then ([c], []) else ([], [c])
  | c :: d :: text =>
    if c = quote then
      if d = quote then ([c, d], text) else ([c], d :: text)
    else ([], c :: d :: text)

/-- The end of a string, if a text starts with it: what still belongs to the content, and the text
after the quotes. -/
def close? (multiline : Bool) (quote : Char) (text : List Char) :
    Option (List Char × List Char) :=
  if multiline then
    match text with
    | c :: d :: e :: text =>
      if c = quote ∧ d = quote ∧ e = quote then some (lateQuotes quote text) else none
    | _ => none
  else
    match text with
    | c :: text => if c = quote then some ([], text) else none
    | [] => none

/-- Puts a character in front of a content that is read. -/
def prepend (c : Char) : Option (List Char × List Char) → Option (List Char × List Char) :=
  Option.map fun (content, rest) => (c :: content, rest)

/-- Whether a character, with what follows it, may stand for itself in a string. -/
def isContent (multiline : Bool) (c : Char) (following : List Char) : Bool :=
  isPlain c || (multiline && isLineEnd c following)

/-- Reads a string without escapes, from after its opening quotes. -/
def readLiteral (multiline : Bool) : List Char → Option (List Char × List Char)
  | [] => none
  | c :: text =>
    match close? multiline apostrophe (c :: text) with
    | some done => some done
    | none =>
      if isContent multiline c text then prepend c (readLiteral multiline text) else none

/-- The character that a letter after a backslash is for. -/
def shortEscape? : Char → Option Char
  | 'b' => some '\x08'
  | 't' => some '\t'
  | 'n' => some '\n'
  | 'f' => some '\x0c'
  | 'r' => some '\r'
  | 'e' => some '\x1b'
  | '"' => some '"'
  | '\\' => some '\\'
  | _ => none

/-- How many digits of a code point follow a letter after a backslash. -/
def codeLength? : Char → Option Nat
  | 'x' => some 2
  | 'u' => some 4
  | 'U' => some 8
  | _ => none

/-- The character with a code point. -/
def ofCode? (n : Nat) : Option Char :=
  if n.isValidChar then some (Char.ofNat n) else none

/-- Where in a string with escapes a reader stands. -/
inductive Place where
  /-- At a character of the content; after a folded line end, `folding` blanks are skipped. -/
  | content (folding : Bool)
  /-- After a backslash. -/
  | escape
  /-- After a backslash and blanks, where a line has to end. -/
  | fold
  /-- Before the given number of digits of a code point, of which others are read. -/
  | code (missing : Nat) (value : Nat)

/-- The place after a character that belongs to a folded line end. -/
def foldPlace? (c : Char) (following : List Char) : Option Place :=
  if c = '\n' then some (.content true)
  else if isSpace c || isLineEnd c following then some .fold
  else none

/-- Reads a string with escapes, from a place in it. -/
def readBasic (multiline : Bool) (place : Place) : List Char → Option (List Char × List Char)
  | [] => none
  | c :: text =>
    match place with
    | .content folding =>
      if folding && (isSpace c || isLineEnd c text) then readBasic multiline (.content true) text
      else
        match close? multiline doubleQuote (c :: text) with
        | some done => some done
        | none =>
          if c = '\\' then readBasic multiline .escape text
          else if isContent multiline c text then
            prepend c (readBasic multiline (.content false) text)
          else none
    | .escape =>
      match shortEscape? c, codeLength? c, foldPlace? c text with
      | some d, _, _ => prepend d (readBasic multiline (.content false) text)
      | _, some n, _ => readBasic multiline (.code n 0) text
      | _, _, some next => if multiline then readBasic multiline next text else none
      | _, _, _ => none
    | .fold =>
      match foldPlace? c text with
      | some next => readBasic multiline next text
      | none => none
    | .code missing value =>
      match Hex.value? c with
      | none => none
      | some digit =>
        if missing ≤ 1 then
          match ofCode? (16 * value + digit) with
          | some d => prepend d (readBasic multiline (.content false) text)
          | none => none
        else readBasic multiline (.code (missing - 1) (16 * value + digit)) text

/-- Reads a string on one line, if a text starts with one. -/
def readLine? : List Char → Option (List Char × List Char)
  | c :: text =>
    if c = doubleQuote then readBasic false (.content false) text
    else if c = apostrophe then readLiteral false text
    else none
  | [] => none

/-- Reads a string, if a text starts with one. A line end right after three opening quotes is not
part of the string. -/
def read? : List Char → Option (List Char × List Char)
  | c :: d :: e :: text =>
    if c = doubleQuote ∧ d = doubleQuote ∧ e = doubleQuote then
      readBasic true (.content false) (dropLineEnd text)
    else if c = apostrophe ∧ d = apostrophe ∧ e = apostrophe then
      readLiteral true (dropLineEnd text)
    else readLine? (c :: d :: e :: text)
  | text => readLine? text

end FilterQuery.Toml.Text
