import FilterQuery.Proofs.TomlDocument
import FilterQuery.Settings.Reader
import FilterQuery.Settings.Writer

/-!
# Settings are read as they were written

For all settings whose limit fits in 64 bits, the text that `Settings.toText` gives is read as these
settings again (`Settings.read_toText`): whatever the characters of their keys and operators, with
their lists in order, and with lists that are empty told apart from lists that are not given.

The text says a record `parser`, a record `keys` with the lists that are given, and a record
`operator` for each alias (`says_write`). What remains is that every record is read as what it was
made of.
-/

namespace FilterQuery

open Toml Statement

/-! ### The records of settings -/

/-- An alias as a record. -/
def OperatorAlias.record (a : OperatorAlias) : Record where
  fields := [("pattern", .string a.pattern), ("alias", .string a.target)]
  nodup := by simp

namespace Settings

/-- A list of texts as a value. -/
def textsValue (texts : List String) : Value :=
  .array (texts.map .string)

/-- The settings of the parser itself as a record. -/
def parserRecord (s : Settings) : Record where
  fields := [("dialect", .string s.dialect.name), ("max_depth", .integer s.maxDepth),
    ("key_transforms", textsValue (s.keyStyles.map KeyStyle.name))]
  nodup := by simp

/-- The field for a list of keys, if there is one. -/
def keysField (name : String) (keys : Option (List String)) : List (String × Value) :=
  (keys.map fun keys => (name, textsValue keys)).toList

/-- The lists of keys that are given as a record. -/
def keysRecord (s : Settings) : Record where
  fields := keysField "allowed" s.allowed ++ keysField "forbidden" s.forbidden
  nodup := by cases s.allowed <;> cases s.forbidden <;> simp [keysField]

/-- The sections that settings are written as. -/
def sections (s : Settings) : List Section :=
  Document.sections [("parser", s.parserRecord), ("keys", s.keysRecord)] "operator"
    (s.operators.map OperatorAlias.record)

/-! ### Writing -/

theorem spells_writeTexts (texts : List String) : (textsValue texts).Spells (writeTexts texts) := by
  have h := Value.Spells.array (texts.map String.toList)
  simpa [writeTexts, textsValue, Function.comp_def] using h

theorem says_writeKeys (name : String) (hn : Key.IsName name) (keys : Option (List String)) :
    Says (writeKeys name keys) ((keysField name keys).map fun f => .assign [f.1] f.2) := by
  cases keys with
  | none => exact Says.nil
  | some keys => exact Says.assignment name hn (spells_writeTexts keys)

theorem says_writeAlias (a : OperatorAlias) :
    Says (writeAlias a) (Section.record "operator" true a.record).statements := by
  have hpattern := Value.Spells.string a.pattern.toList
  have htarget := Value.Spells.string a.target.toList
  rw [String.ofList_toList] at hpattern htarget
  have h := (Says.blank.append (Says.header true "operator" (by decide))).append
    ((Says.assignment "pattern" (by decide) hpattern).append
      (Says.assignment "alias" (by decide) htarget))
  simpa [writeAlias, Section.statements_record, OperatorAlias.record] using h

theorem says_write (s : Settings) : Says s.write (s.sections.flatMap Section.statements) := by
  have hdialect := Value.Spells.string s.dialect.name.toList
  rw [String.ofList_toList] at hdialect
  have hparser := ((Says.header false "parser" (by decide)).append
    (Says.assignment "dialect" (by decide) hdialect)).append
    ((Says.assignment "max_depth" (by decide) (Value.Spells.number s.maxDepth)).append
      (Says.assignment "key_transforms" (by decide)
        (spells_writeTexts (s.keyStyles.map KeyStyle.name))))
  have hkeys := (Says.blank.append (Says.header false "keys" (by decide))).append
    ((says_writeKeys "allowed" (by decide) s.allowed).append
      (says_writeKeys "forbidden" (by decide) s.forbidden))
  have haliases := Says.flatMap says_writeAlias s.operators
  have h := (hparser.append hkeys).append haliases
  simpa [write, sections, Document.sections, Section.statements_record, parserRecord, keysRecord,
    List.flatMap_map] using h

/-! ### Reading -/

theorem fields?_table {names : List String} {entries : List (String × Value)}
    (h : ∀ e ∈ entries, e.1 ∈ names) :
    fields? names (.table entries) = some (names.map fun name => entries.lookup name) := by
  refine if_pos ?_
  rw [List.all_eq_true]
  intro e he
  simp [h e he]

theorem mapM_read {α : Type} (read : Value → Option α) (value : α → Value)
    (h : ∀ a, read (value a) = some a) (as : List α) : (as.map value).mapM read = some as := by
  induction as with
  | nil => rfl
  | cons a as ih => simp [List.mapM_cons, h, ih]

theorem readTexts?_textsValue (texts : List String) : readTexts? (textsValue texts) = some texts :=
  mapM_read readText? .string (fun _ => rfl) texts

theorem readStyles?_textsValue (styles : List KeyStyle) :
    readStyles? (textsValue (styles.map KeyStyle.name)) = some styles := by
  have h := mapM_read readStyle? (fun k => .string k.name) (fun k => k.ofName?_name) styles
  simpa [readStyles?, textsValue, Function.comp_def] using h

theorem readLimit?_integer {n : Nat} (h : n < 2 ^ 64) : readLimit? (.integer n) = some n := by
  have hsize : n < UInt64.size := h
  simp [readLimit?, hsize]

theorem readAliases?_records (aliases : List OperatorAlias) :
    readAliases? (.array ((aliases.map OperatorAlias.record).map fun r => .table r.fields)) =
      some aliases := by
  rw [List.map_map]
  exact mapM_read readAlias? (fun a => .table a.record.fields) (fun _ => rfl) aliases

theorem readParser?_parserRecord {s : Settings} (h : s.maxDepth < 2 ^ 64) (t : Settings) :
    t.readParser? (.table s.parserRecord.fields) =
      some { t with dialect := s.dialect, maxDepth := s.maxDepth, keyStyles := s.keyStyles } := by
  have hfields : fields? ["dialect", "max_depth", "key_transforms"]
      (.table s.parserRecord.fields) = some [some (.string s.dialect.name),
        some (.integer s.maxDepth), some (textsValue (s.keyStyles.map KeyStyle.name))] :=
    fields?_table (by simp [parserRecord])
  have hdialect : readDialect? (.string s.dialect.name) = some s.dialect := s.dialect.ofName?_name
  simp [readParser?, hfields, orDefault, hdialect, readLimit?_integer h, readStyles?_textsValue]

theorem readKeys?_keysRecord (s : Settings) {t : Settings} (ha : t.allowed = none)
    (hf : t.forbidden = none) :
    t.readKeys? (.table s.keysRecord.fields) =
      some { t with allowed := s.allowed, forbidden := s.forbidden } := by
  have hfields : fields? ["allowed", "forbidden"] (.table s.keysRecord.fields) =
      some [s.allowed.map textsValue, s.forbidden.map textsValue] := by
    show fields? _ (.table (keysField "allowed" s.allowed ++ keysField "forbidden" s.forbidden)) = _
    cases s.allowed <;> cases s.forbidden <;> rfl
  have hread : ∀ keys : Option (List String), orDefault none (fun v => (readTexts? v).map some)
      (keys.map textsValue) = some keys := by
    intro keys
    cases keys with
    | none => rfl
    | some keys => simp [orDefault, readTexts?_textsValue]
  simp [readKeys?, hfields, ha, hf, hread]

theorem ofEntries?_values {s : Settings} (h : s.maxDepth < 2 ^ 64) :
    ofEntries? (Document.values [("parser", s.parserRecord), ("keys", s.keysRecord)] "operator"
      (s.operators.map OperatorAlias.record)) = some s := by
  obtain ⟨operators, hfields, hoperators⟩ : ∃ operators,
      fields? ["parser", "keys", "operator"] (.table (Document.values
        [("parser", s.parserRecord), ("keys", s.keysRecord)] "operator"
          (s.operators.map OperatorAlias.record))) =
        some [some (.table s.parserRecord.fields), some (.table s.keysRecord.fields), operators] ∧
      orDefault [] readAliases? operators = some s.operators := by
    cases s.operators with
    | nil => exact ⟨none, rfl, rfl⟩
    | cons a aliases => exact ⟨some _, rfl, readAliases?_records (a :: aliases)⟩
  have hparser := readParser?_parserRecord h {}
  have hkeys := @readKeys?_keysRecord s
    { dialect := s.dialect, maxDepth := s.maxDepth, keyStyles := s.keyStyles } rfl rfl
  rw [ofEntries?, hfields]
  simp only [Option.bind_eq_bind, Option.bind_some, hoperators]
  simp [orDefault, hparser, hkeys]

/-- Settings survive writing and reading. -/
theorem read_toText {s : Settings} (h : s.maxDepth < 2 ^ 64) (path : String) :
    read path s.toText = .ok s := by
  have hmark : Document.dropMark s.write = s.write := rfl
  have hdocument := Document.read?_of_says (by simp) s.says_write hmark
  have htext : ofText? s.toText = some s := by
    rw [ofText?, toText, String.toList_ofList, hdocument]
    exact ofEntries?_values h
  rw [read, htext]

/-- Settings whose texts need every way to write a string: with quotes of both kinds, backslashes,
line ends and control characters. -/
def special : Settings where
  dialect := .mysql
  maxDepth := 2 ^ 64 - 1
  keyStyles := [.kebabCase, .lowercase, .kebabCase]
  allowed := some []
  forbidden := some ["", "C:\\tmp", "\"\"\"\"", "'''\\", "two\nlines\\''", "\r\n\x7f\"\"\"", ""]
  operators := [⟨"='\"='", "\n\"\""⟩, ⟨"='\"='", "\n\"\""⟩]

theorem read_toText_special :
    special.maxDepth < 2 ^ 64 ∧ ∀ path, read path special.toText = .ok special :=
  ⟨by decide, read_toText (by decide)⟩

end Settings

end FilterQuery
