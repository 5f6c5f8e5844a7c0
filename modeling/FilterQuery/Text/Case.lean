import FilterQuery.Text.CaseTable
import FilterQuery.Text.Cased
import FilterQuery.Text.CharSet

/-!
# Upper and lower case

Texts are put into upper or lower case by the default mappings of Unicode. A character may become
several, and a sigma at the end of a word has a lower-case form of its own.
-/

namespace FilterQuery.Case

/-- The image of a character under a table of sequences and a table of runs: itself if neither
holds it. -/
def mapChar (sequences : Array (Nat × List Nat)) (runs : Array CaseTable.CaseRun) (c : Char) :
    List Char :=
  match sequences.find? fun s => s.1 == c.toNat with
  | some s => s.2.map Char.ofNat
  | none =>
    match runs.findSome? fun r => r.apply? c.toNat with
    | some n => [Char.ofNat n]
    | none => [c]

/-- The upper-case form of a character. -/
def upperChar (c : Char) : List Char :=
  mapChar CaseTable.upperSequences CaseTable.upperRuns c

/-- The lower-case form of a character that stands alone. -/
def lowerChar (c : Char) : List Char :=
  mapChar CaseTable.lowerSequences CaseTable.lowerRuns c

/-- A text in upper case. -/
def upper (text : List Char) : List Char :=
  text.flatMap upperChar

/-- Whether the first character that counts for case is one with case. -/
def meetsCased (text : List Char) : Bool :=
  match text.dropWhile CharSet.caseIgnorable.contains with
  | c :: _ => CharSet.cased.contains c
  | [] => false

/-- Whether a sigma ends a word, from what stands before it, in reverse, and after it. -/
def isFinal (before after : List Char) : Bool :=
  meetsCased before && !meetsCased after

/-- A text in lower case, from what stands before it, in reverse. -/
def lowerAfter (before : List Char) : List Char → List Char
  | [] => []
  | c :: text =>
    let image := if c = 'Σ' ∧ isFinal before text then ['ς'] else lowerChar c
    image ++ lowerAfter (c :: before) text

/-- A text in lower case. -/
def lower (text : List Char) : List Char :=
  lowerAfter [] text

/-- A text whose first character is in upper case and whose other characters are, as a text of
their own, in lower case. -/
def capitalized : List Char → List Char
  | [] => []
  | c :: text => upperChar c ++ lower text

end FilterQuery.Case
