import FilterQuery.Text.CharSet
import FilterQuery.Text.Extender
import FilterQuery.Text.Hex
import FilterQuery.Text.Hidden

/-!
# Quoted text

Text in double quotes, as it is shown in dumps: every character can be seen, and the end of the
text is the only bare quote.
-/

namespace FilterQuery.Quoted

/-- A character by its code point. -/
def codePoint (c : Char) : List Char :=
  "\\u\x7b".toList ++ Hex.lower c.toNat ++ ['\x7d']

/-- Whether a character is written by its code point: it has no visible form, or it would join the
character before it. -/
def isObscure (c : Char) : Bool :=
  CharSet.extender.contains c || CharSet.hidden.contains c

/-- How a character is written between quotes. -/
def quoteChar (c : Char) : List Char :=
  if c = '\x00' then ['\\', '0']
  else if c = '\t' then ['\\', 't']
  else if c = '\r' then ['\\', 'r']
  else if c = '\n' then ['\\', 'n']
  else if c = '\\' then ['\\', '\\']
  else if c = '"' then ['\\', '"']
  else if isObscure c then codePoint c
  else [c]

/-- A text in double quotes. -/
def quote (text : List Char) : List Char :=
  '"' :: (text.flatMap quoteChar ++ ['"'])

end FilterQuery.Quoted
