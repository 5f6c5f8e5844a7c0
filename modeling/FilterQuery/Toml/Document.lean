import FilterQuery.Toml.Space
import FilterQuery.Toml.Tree
import FilterQuery.Toml.ValueReader

/-!
# Documents

A document is a sequence of statements, one a line: headers, which open a table or add one to an
array of tables, and assignments, which belong to the header before them. The statements of a text
are read first, then put together to a table.
-/

namespace FilterQuery.Toml

/-- What a line of a document says. -/
inductive Statement where
  /-- The header of a table. -/
  | table (path : List String)
  /-- The header of a further table in an array. -/
  | element (path : List String)
  /-- The value of a key. -/
  | assign (path : List String) (v : Value)
deriving Repr

namespace Statement

/-- Reads a header from after its first bracket. -/
def readHeader? (text : List Char) : Option (Statement × List Char) :=
  match text with
  | '[' :: text => do
    let (path, rest) ← Key.read? (skipSpaces text)
    match rest with
    | ']' :: ']' :: rest => return (.element path, rest)
    | _ => none
  | text => do
    let (path, rest) ← Key.read? (skipSpaces text)
    match rest with
    | ']' :: rest => return (.table path, rest)
    | _ => none

/-- Reads an assignment. -/
def readAssign? (text : List Char) : Option (Statement × List Char) := do
  let (path, rest) ← Key.read? text
  match rest with
  | '=' :: rest =>
    let (v, rest) ← Value.read? (skipSpaces rest)
    return (.assign path v, rest)
  | _ => none

/-- Reads a line: the statement on it, if there is one, and the text after it. -/
def readLine? (text : List Char) : Option (Option Statement × List Char) :=
  match finishLine text with
  | some rest => some (none, rest)
  | none => do
    let (statement, rest) ←
      match skipSpaces text with
      | '[' :: text => readHeader? text
      | text => readAssign? text
    return (some statement, ← finishLine rest)

/-- Reads the statements of a text, with a step for each line. -/
def readLines? (steps : Nat) (text : List Char) : Option (List Statement) :=
  match steps, text with
  | _, [] => some []
  | 0, _ => none
  | steps + 1, text => do
    let (statement, rest) ← readLine? text
    return statement.toList ++ (← readLines? steps rest)

/-- Reads the statements of a text. There are no more lines than characters. -/
def readAll? (text : List Char) : Option (List Statement) :=
  readLines? text.length text

end Statement

/-- A header with the assignments that belong to it. -/
structure Section where
  path : List String
  isElement : Bool
  assignments : List (List String × Value)
deriving Repr

namespace Section

/-- Splits statements into the assignments before the first header and the sections after it. -/
def split : List Statement → List (List String × Value) × List Section
  | [] => ([], [])
  | .assign path v :: statements =>
    let (assignments, sections) := split statements
    ((path, v) :: assignments, sections)
  | .table path :: statements =>
    let (assignments, sections) := split statements
    ([], ⟨path, false, assignments⟩ :: sections)
  | .element path :: statements =>
    let (assignments, sections) := split statements
    ([], ⟨path, true, assignments⟩ :: sections)

/-- What a section makes of the node that its header leads to. A table can get a header if there
is none yet and no dotted key has made it; an array of tables can get a further one. -/
def change (s : Section) (node : Option Node) : Option Node :=
  if s.isElement then
    match node with
    | none => (Entries.assignAll s.assignments []).map fun e => .tables [e]
    | some (.tables elements) =>
      (Entries.assignAll s.assignments []).map fun e => .tables (elements ++ [e])
    | some _ => none
  else
    match node with
    | none => (Entries.assignAll s.assignments []).map (.table .declared)
    | some (.table .implied sub) => (Entries.assignAll s.assignments sub).map (.table .declared)
    | some _ => none

end Section

namespace Document

/-- Puts statements together to the entries of a table. -/
def assemble? (statements : List Statement) : Option Entries := do
  let (assignments, sections) := Section.split statements
  let root ← Entries.assignAll assignments []
  sections.foldlM (fun entries s => Entries.modifyAt s.path s.change entries) root

/-- The text without the mark for the order of bytes that may stand at its start. -/
def dropMark : List Char → List Char
  | '\ufeff' :: text => text
  | text => text

/-- Reads a document: the entries of the table that it is for. -/
def read? (text : List Char) : Option (List (String × Value)) := do
  let statements ← Statement.readAll? (dropMark text)
  return Node.entriesToValues (← assemble? statements)

end Document

end FilterQuery.Toml
