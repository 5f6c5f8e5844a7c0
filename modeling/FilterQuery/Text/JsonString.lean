import FilterQuery.Text.Hex

/-!
# Strings of JSON

A text as a JSON string: quotes, backslashes and the control characters below the space are
escaped, the latter in their short form where there is one; all else stands for itself.
-/

namespace FilterQuery.JsonString

/-- How a character is written inside a JSON string. -/
def quoteChar (c : Char) : List Char :=
  if c = '"' then ['\\', '"']
  else if c = '\\' then ['\\', '\\']
  else if c = '\x08' then ['\\', 'b']
  else if c = '\t' then ['\\', 't']
  else if c = '\n' then ['\\', 'n']
  else if c = '\x0c' then ['\\', 'f']
  else if c = '\r' then ['\\', 'r']
  else if c.toNat < 0x20 then '\\' :: 'u' :: Hex.padded 4 (Hex.lower c.toNat)
  else [c]

/-- A text as a JSON string. -/
def quote (text : List Char) : List Char :=
  '"' :: (text.flatMap quoteChar ++ ['"'])

end FilterQuery.JsonString
