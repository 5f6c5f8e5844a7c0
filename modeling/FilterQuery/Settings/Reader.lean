import FilterQuery.Settings.Basic
import FilterQuery.Settings.Error
import FilterQuery.Toml.Document

/-!
# Reading settings

Settings are kept as a TOML document with the tables `parser` and `keys` and an array of tables
`operator`. A record of settings may also be given as an array of its fields in their order, and a
name as a table with the name as its only key and nothing in it. Entries with other keys are read
over.
-/

namespace FilterQuery.Settings

open Toml

/-- The fields of a record, by their names in a table or by their places in an array. What is read
over in a table has to be readable still. -/
def fields? (names : List String) : Value → Option (List (Option Value))
  | .table entries =>
    if entries.all fun e => names.contains e.1 || e.2.isSized then
      some (names.map fun name => entries.lookup name)
    else none
  | .array elements => some ((List.range names.length).map fun i => elements[i]?)
  | _ => none

/-- Reads a field, if it is there. -/
def orDefault {α : Type} (default : α) (read : Value → Option α) : Option Value → Option α
  | none => some default
  | some v => read v

/-- A text. -/
def readText? : Value → Option String
  | .string s => some s
  | _ => none

/-- A list of texts. -/
def readTexts? : Value → Option (List String)
  | .array elements => elements.mapM readText?
  | _ => none

/-- A name, as a text or as a table with nothing in it. -/
def readName? : Value → Option String
  | .string s => some s
  | .table [(name, .table [])] => some name
  | .table [(name, .array [])] => some name
  | _ => none

/-- The name of a dialect. -/
def readDialect? (v : Value) : Option DialectName := do
  DialectName.ofName? (← readName? v)

/-- The name of a style. -/
def readStyle? (v : Value) : Option KeyStyle := do
  KeyStyle.ofName? (← readName? v)

/-- A list of names of styles. -/
def readStyles? : Value → Option (List KeyStyle)
  | .array elements => elements.mapM readStyle?
  | _ => none

/-- A limit, which fits in 64 bits. -/
def readLimit? : Value → Option Nat
  | .integer n => if 0 ≤ n ∧ n.toNat < UInt64.size then some n.toNat else none
  | _ => none

/-- The record `parser`. -/
def readParser? (s : Settings) (v : Value) : Option Settings := do
  match ← fields? ["dialect", "max_depth", "key_transforms"] v with
  | [dialect, maxDepth, keyStyles] =>
    return { s with
      dialect := ← orDefault s.dialect readDialect? dialect
      maxDepth := ← orDefault s.maxDepth readLimit? maxDepth
      keyStyles := ← orDefault s.keyStyles readStyles? keyStyles }
  | _ => none

/-- The record `keys`. -/
def readKeys? (s : Settings) (v : Value) : Option Settings := do
  match ← fields? ["allowed", "forbidden"] v with
  | [allowed, forbidden] =>
    return { s with
      allowed := ← orDefault s.allowed (fun v => some <$> readTexts? v) allowed
      forbidden := ← orDefault s.forbidden (fun v => some <$> readTexts? v) forbidden }
  | _ => none

/-- A record `operator`, both fields of which are needed. -/
def readAlias? (v : Value) : Option OperatorAlias := do
  match ← fields? ["pattern", "alias"] v with
  | [some pattern, some target] => return ⟨← readText? pattern, ← readText? target⟩
  | _ => none

/-- A list of records `operator`. -/
def readAliases? : Value → Option (List OperatorAlias)
  | .array elements => elements.mapM readAlias?
  | _ => none

/-- The settings that a document describes. -/
def ofEntries? (entries : List (String × Value)) : Option Settings := do
  match ← fields? ["parser", "keys", "operator"] (.table entries) with
  | [parser, keys, operators] =>
    let s : Settings := {}
    let s ← orDefault s s.readParser? parser
    let s ← orDefault s s.readKeys? keys
    return { s with operators := ← orDefault [] readAliases? operators }
  | _ => none

/-- The settings that a text describes. -/
def ofText? (text : String) : Option Settings := do
  ofEntries? (← Document.read? text.toList)

/-- The settings that the text of a file describes. -/
def read (path text : String) : Except SettingsError Settings :=
  match ofText? text with
  | some s => .ok s
  | none => .error (.malformed path)

/-- What is found under a path. -/
inductive File where
  | missing
  | directory
  | contents (bytes : ByteArray)

/-- The settings in a file. -/
def load (path : String) : File → Except SettingsError Settings
  | .missing => .error (.unreadable path .missing)
  | .directory => .error (.unreadable path .directory)
  | .contents bytes =>
    match String.fromUTF8? bytes with
    | some text => read path text
    | none => .error (.unreadable path .notUtf8)

end FilterQuery.Settings
