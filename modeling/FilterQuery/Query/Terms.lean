import FilterQuery.Query.Error
import FilterQuery.Text.Blank
import FilterQuery.Text.Escape
import FilterQuery.Text.Nesting

/-!
# Terms of a query

A text is cut at the separators that stand outside all parentheses, and each piece is trimmed.
Unbalanced parentheses are refused before any piece is looked at, then the first blank piece.
-/

namespace FilterQuery.Terms

/-- The separator of alternatives. -/
def orSeparator : Char := ','

/-- The separator of terms that hold together. -/
def andSeparator : Char := ';'

/-- Refuses a text with unbalanced parentheses. -/
def checkBalanced (text : List Char) : Except QueryError Unit :=
  match Nesting.unbalancedAt? text with
  | some position => .error (.unbalancedParens (Escape.shown text) position)
  | none => .ok ()

/-- The byte offsets of the separators outside all parentheses. -/
def offsets (separator : Char) (text : List Char) : Except QueryError (List Nat) := do
  checkBalanced text
  return Nesting.separatorOffsets separator text

/-- Trims the pieces of `text`, the first of which starts after `start` characters, and refuses
the first blank one. -/
def trimPieces (text : List Char) (start : Nat) :
    List (List Char) → Except QueryError (List (List Char))
  | [] => .ok []
  | piece :: rest =>
    match trim piece with
    | [] => .error (.emptyTerm (Escape.shown text) start)
    | term => do return term :: (← trimPieces text (start + piece.length + 1) rest)

/-- The trimmed terms between the separators outside all parentheses. -/
def split (separator : Char) (text : List Char) : Except QueryError (List (List Char)) := do
  checkBalanced text
  trimPieces text 0 (Nesting.pieces separator text)

/-- The alternatives of a text. -/
def splitOr : List Char → Except QueryError (List (List Char)) :=
  split orSeparator

/-- The terms of a text that hold together. -/
def splitAnd : List Char → Except QueryError (List (List Char)) :=
  split andSeparator

end FilterQuery.Terms
