/-!
# Blanks, line ends and comments

What stands between the parts of a TOML document. A line ends with a line feed, which a carriage
return may precede; a carriage return alone ends nothing and is allowed nowhere.
-/

namespace FilterQuery.Toml

/-- Whether a character is a space or a tab. -/
def isSpace (c : Char) : Bool :=
  c == ' ' || c == '\t'

/-- Whether a character may stand for itself in a comment or a string: a tab, or anything but a
control character of ASCII. -/
def isPlain (c : Char) : Bool :=
  c == '\t' || (0x20 ≤ c.toNat && c.toNat != 0x7F)

/-- Whether a character, with what follows it, belongs to a line end. -/
def isLineEnd (c : Char) (following : List Char) : Bool :=
  c == '\n' || (c == '\r' && following.head? == some '\n')

/-- The text after spaces and tabs. -/
def skipSpaces (text : List Char) : List Char :=
  text.dropWhile isSpace

/-- The text after spaces, tabs, line ends and comments; `comment` says whether it starts inside a
comment. -/
def skipGapFrom (comment : Bool) : List Char → List Char
  | [] => []
  | c :: text =>
    if isLineEnd c text then skipGapFrom (comment && c != '\n') text
    else if comment then
      if isPlain c then skipGapFrom true text else c :: text
    else if isSpace c then skipGapFrom false text
    else if c = '#' then skipGapFrom true text
    else c :: text

/-- The text after spaces, tabs, line ends and comments. -/
def skipGap (text : List Char) : List Char :=
  skipGapFrom false text

/-- The text without a line end at its start. -/
def dropLineEnd : List Char → List Char
  | '\n' :: text => text
  | '\r' :: '\n' :: text => text
  | text => text

/-- The text after the rest of a line, which may hold a comment and nothing else. -/
def finishLine (text : List Char) : Option (List Char) :=
  let rest :=
    match skipSpaces text with
    | '#' :: comment => comment.dropWhile isPlain
    | rest => rest
  match rest with
  | [] => some []
  | '\n' :: rest => some rest
  | '\r' :: '\n' :: rest => some rest
  | _ => none

end FilterQuery.Toml
