import FilterQuery.Toml.Value

/-!
# Tables while a document is read

A table can be written in several places of a document: its entries may be given by dotted keys or
under headers, and headers may imply tables that have none of their own. A tree remembers how each
table came about, which decides whether it may still be extended.
-/

namespace FilterQuery.Toml

/-- How a table came about. -/
inductive Origin where
  /-- It stands on the path of a header. -/
  | implied
  /-- It has a header of its own. -/
  | declared
  /-- It stands on the path of a dotted key. -/
  | dotted
deriving Repr, DecidableEq

/-- A node of the tree: a value, which is never extended, a table, or the tables that stand under
one repeated header. -/
inductive Node where
  | value (v : Value)
  | table (origin : Origin) (entries : List (String × Node))
  | tables (elements : List (List (String × Node)))
deriving Repr

/-- The entries of a table. -/
abbrev Entries := List (String × Node)

namespace Entries

/-- Changes the entry of a key, or adds one, by a function that may refuse. -/
def modify (key : String) (change : Option Node → Option Node) : Entries → Option Entries
  | [] => (change none).map fun node => [(key, node)]
  | (k, node) :: entries =>
    if k = key then (change (some node)).map fun node => (k, node) :: entries
    else (modify key change entries).map ((k, node) :: ·)

/-- Changes the last of some elements by a function that may refuse. -/
def modifyLast {α : Type} (change : α → Option α) : List α → Option (List α)
  | [] => none
  | [a] => (change a).map ([·])
  | a :: b :: as => (modifyLast change (b :: as)).map (a :: ·)

/-- Whether a dotted key may lead on into a table, where `rest` is the part of the key that is left.
A table with a header is complete. One that headers imply may get tables, but no entries. -/
def mayEnter (origin : Origin) (rest : List String) : Bool :=
  match origin with
  | .declared => false
  | .implied => 2 ≤ rest.length
  | .dotted => true

/-- Adds the value of a dotted key. -/
def assign (path : List String) (v : Value) (entries : Entries) : Option Entries :=
  match path with
  | [] => none
  | [key] =>
    modify key (fun
      | none => some (.value v)
      | some _ => none) entries
  | key :: rest =>
    modify key (fun
      | none => (assign rest v []).map (.table .dotted)
      | some (.table origin sub) =>
        if mayEnter origin rest then (assign rest v sub).map (.table origin) else none
      | some (.tables elements) =>
        if mayEnter .implied rest then (modifyLast (assign rest v) elements).map .tables else none
      | some (.value _) => none) entries

/-- Adds the values of dotted keys, in their order. -/
def assignAll (assignments : List (List String × Value)) (entries : Entries) : Option Entries :=
  assignments.foldlM (fun entries a => assign a.1 a.2 entries) entries

/-- Changes what the path of a header leads to. -/
def modifyAt (path : List String) (change : Option Node → Option Node) (entries : Entries) :
    Option Entries :=
  match path with
  | [] => none
  | [key] => modify key change entries
  | key :: rest =>
    modify key (fun
      | none => (modifyAt rest change []).map (.table .implied)
      | some (.table origin sub) => (modifyAt rest change sub).map (.table origin)
      | some (.tables elements) => (modifyLast (modifyAt rest change) elements).map .tables
      | some (.value _) => none) entries

end Entries

namespace Node

mutual
/-- The value of a node. -/
def toValue : Node → Value
  | value v => v
  | table _ entries => .table (entriesToValues entries)
  | tables elements => .array (tablesToValues elements)

/-- The values of some entries. -/
def entriesToValues : List (String × Node) → List (String × Value)
  | [] => []
  | (key, node) :: entries => (key, toValue node) :: entriesToValues entries

/-- The values of some tables. -/
def tablesToValues : List (List (String × Node)) → List Value
  | [] => []
  | entries :: elements => .table (entriesToValues entries) :: tablesToValues elements
end

end Node

end FilterQuery.Toml
