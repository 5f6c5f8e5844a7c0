import FilterQuery.Proofs.TomlValue
import FilterQuery.Toml.Document

/-!
# Documents are read as they were written

Whole lines say statements (`Statement.Says`): a header, an assignment of a written value, or
nothing at all, whatever comes after them. A document of records is a sequence of sections, each a
header with one assignment for each field. The sections come back from their statements
(`Section.split_statements`), records under headers become tables, and records under one repeated
header become the tables of an array, in their order (`Document.read?_of_says`).
-/

namespace FilterQuery.Toml

variable {text rest : List Char}

/-! ### Keys -/

/-- A name that needs no quotes. -/
def Key.IsName (name : String) : Prop :=
  name.toList ≠ [] ∧ name.toList.all isBare = true

instance (name : String) : Decidable (Key.IsName name) :=
  inferInstanceAs (Decidable (_ ∧ _))

namespace Key

variable {name : String}

theorem IsName.eq_cons (h : IsName name) :
    ∃ c tail, name.toList = c :: tail ∧ ∀ d, isBare d = false → c ≠ d := by
  obtain ⟨hne, hbare⟩ := h
  cases hname : name.toList with
  | nil => exact absurd hname hne
  | cons c tail =>
    rw [hname, List.all_cons, Bool.and_eq_true] at hbare
    refine ⟨c, tail, rfl, ?_⟩
    rintro d hd rfl
    simp [hd] at hbare

theorem skipSpaces_name (h : IsName name) :
    skipSpaces (name.toList ++ text) = name.toList ++ text := by
  obtain ⟨c, tail, hname, hc⟩ := h.eq_cons
  rw [hname]
  simp [skipSpaces, isSpace, hc ' ' rfl, hc '\t' rfl]

theorem readPart?_name (h : IsName name) {c : Char} (hc : isBare c = false) :
    readPart? (name.toList ++ c :: text) = some (name, c :: text) := by
  obtain ⟨d, tail, hname, hd⟩ := h.eq_cons
  have hbare : ∀ d ∈ name.toList, isBare d = true := by simpa using h.2
  have hend : Next (isBare · = false) (c :: text) := Next.cons hc
  have hstring : Text.readLine? (name.toList ++ c :: text) = none := by
    rw [hname]
    exact Text.readLine?_eq_none (hd '"' rfl) (hd Text.apostrophe rfl)
  have hofList : String.ofList (d :: tail) = name := by
    rw [← hname, String.ofList_toList]
  unfold readPart?
  rw [hstring, takeWhile_run hbare hend, dropWhile_run hbare hend, hname]
  simp [hofList]

theorem read?_name (h : IsName name) {c : Char} (hc : isBare c = false)
    (hs : ∀ tail, skipSpaces (c :: text) ≠ '.' :: tail) :
    read? (name.toList ++ c :: text) = some ([name], skipSpaces (c :: text)) := by
  have hparts : ∀ steps, readParts? steps (c :: text) = some ([], skipSpaces (c :: text)) := by
    intro steps
    unfold readParts?
    split
    · rename_i heq
      exact absurd heq (hs _)
    · rfl
  unfold read?
  rw [readPart?_name h hc]
  simp [hparts]

end Key

/-! ### Lines -/

theorem finishLine_eq_none {c : Char} (hs : isSpace c = false) (hc : c ≠ '#') (hn : c ≠ '\n')
    (hr : c ≠ '\r') : finishLine (c :: text) = none := by
  have hskip : skipSpaces (c :: text) = c :: text := by simp [skipSpaces, hs]
  simp [finishLine, hskip, hc, hn, hr]

namespace Statement

/-- A text with whole lines, which say some statements whatever follows. -/
def Says (text : List Char) (statements : List Statement) : Prop :=
  ∀ rest following, readAll? rest = some following →
    readAll? (text ++ rest) = some (statements ++ following)

theorem Says.append {text' : List Char} {statements statements' : List Statement}
    (h : Says text statements) (h' : Says text' statements') :
    Says (text ++ text') (statements ++ statements') := by
  intro rest following hrest
  rw [List.append_assoc, List.append_assoc]
  exact h _ _ (h' _ _ hrest)

theorem Says.readAll? {statements : List Statement} (h : Says text statements) :
    readAll? text = some statements := by
  simpa using h [] [] rfl

theorem Says.nil : Says [] [] :=
  fun _ _ h => h

theorem Says.flatMap {α : Type} {f : α → List Char} {g : α → List Statement}
    (h : ∀ a, Says (f a) (g a)) (as : List α) : Says (as.flatMap f) (as.flatMap g) := by
  induction as with
  | nil => exact Says.nil
  | cons a as ih => exact (h a).append ih

theorem readLines?_mono {steps steps' : Nat} {statements : List Statement}
    (h : readLines? steps text = some statements) (hle : steps ≤ steps') :
    readLines? steps' text = some statements := by
  induction steps generalizing steps' text statements with
  | zero =>
    cases text with
    | nil => simpa [readLines?] using h
    | cons c text => simp [readLines?] at h
  | succ steps ih =>
    cases text with
    | nil => simpa [readLines?] using h
    | cons c text =>
      obtain ⟨steps', rfl⟩ := Nat.exists_eq_add_of_le' (Nat.le_of_add_left_le hle)
      simp only [readLines?, Option.bind_eq_bind, Option.bind_eq_some_iff] at h ⊢
      obtain ⟨⟨statement, rest⟩, hline, tail, htail, hs⟩ := h
      exact ⟨_, hline, tail, ih htail (by omega), hs⟩

theorem Says.line {line : List Char} (statement : Option Statement) (hne : line ≠ [])
    (h : ∀ rest, readLine? (line ++ rest) = some (statement, rest)) :
    Says line statement.toList := by
  intro rest following hrest
  cases line with
  | nil => exact absurd rfl hne
  | cons c line =>
    have hrest' : readLines? (line ++ rest).length rest = some following :=
      readLines?_mono hrest (by simp)
    have hline : readLine? (c :: (line ++ rest)) = some (statement, rest) := h rest
    show readLines? ((line ++ rest).length + 1) (c :: (line ++ rest)) = _
    simp only [readLines?, hline, hrest', Option.bind_eq_bind, Option.bind_some]
    rfl

theorem Says.blank : Says ['\n'] [] :=
  Says.line none (by simp) fun _ => rfl

theorem finishLine_newline : finishLine ('\n' :: rest) = some rest := by
  simp [finishLine, skipSpaces, isSpace]

variable {name : String} {statement : Statement}

theorem readLine?_of_readHeader? (h : readHeader? text = some (statement, '\n' :: rest)) :
    readLine? ('[' :: text) = some (some statement, rest) := by
  have hnone : finishLine ('[' :: text) = none :=
    finishLine_eq_none (by decide) (by decide) (by decide) (by decide)
  have hskip : skipSpaces ('[' :: text) = '[' :: text := by simp [skipSpaces, isSpace]
  rw [readLine?, hnone, hskip]
  simp [h, finishLine_newline]

theorem readLine?_of_readAssign? (hn : Key.IsName name)
    (h : readAssign? (name.toList ++ text) = some (statement, '\n' :: rest)) :
    readLine? (name.toList ++ text) = some (some statement, rest) := by
  obtain ⟨c, tail, hname, hc⟩ := hn.eq_cons
  have hnone : finishLine (name.toList ++ text) = none := by
    rw [hname]
    refine finishLine_eq_none ?_ (hc '#' rfl) (hc '\n' rfl) (hc '\r' rfl)
    simp [isSpace, hc ' ' rfl, hc '\t' rfl]
  simp only [readLine?, hnone, Key.skipSpaces_name hn]
  split
  · rename_i heq
    rw [hname] at heq
    exact absurd (List.cons.inj heq).1 (hc '[' rfl)
  · simp [h, finishLine_newline]

/-- The statement of a header, for a table or for a further table in an array. -/
def ofHeader (isElement : Bool) (path : List String) : Statement :=
  if isElement then .element path else .table path

theorem readHeader?_table (hn : Key.IsName name) :
    readHeader? (name.toList ++ ']' :: '\n' :: rest) = some (.table [name], '\n' :: rest) := by
  unfold readHeader?
  split
  · rename_i heq
    obtain ⟨c, tail, hname, hc⟩ := hn.eq_cons
    rw [hname] at heq
    exact absurd (List.cons.inj heq).1 (hc '[' rfl)
  · rw [Key.skipSpaces_name hn, Key.read?_name hn (by decide) (by simp [skipSpaces, isSpace])]
    rfl

theorem readHeader?_element (hn : Key.IsName name) :
    readHeader? ('[' :: (name.toList ++ ']' :: ']' :: '\n' :: rest)) =
      some (.element [name], '\n' :: rest) := by
  rw [readHeader?, Key.skipSpaces_name hn,
    Key.read?_name hn (by decide) (by simp [skipSpaces, isSpace])]
  rfl

theorem Says.header (isElement : Bool) (name : String) (hn : Key.IsName name) :
    Says (if isElement then Writer.elementHeader name else Writer.header name)
      [ofHeader isElement [name]] := by
  refine Says.line (some (ofHeader isElement [name])) ?_ fun rest => ?_
  · cases isElement <;> simp [Writer.elementHeader, Writer.header]
  · cases isElement with
    | false =>
      simpa [Writer.header, ofHeader] using readLine?_of_readHeader? (readHeader?_table hn)
    | true =>
      simpa [Writer.elementHeader, ofHeader] using
        readLine?_of_readHeader? (readHeader?_element hn)

theorem Says.assignment (name : String) (hn : Key.IsName name) {written : List Char} {v : Value}
    (hv : v.Spells written) : Says (Writer.assignment name written) [.assign [name] v] := by
  refine Says.line (some (.assign [name] v)) (by simp [Writer.assignment])
    fun rest => ?_
  have hkey : Key.read? (name.toList ++ ' ' :: '=' :: ' ' :: (written ++ '\n' :: rest)) =
      some ([name], '=' :: ' ' :: (written ++ '\n' :: rest)) :=
    Key.read?_name hn (by decide) (by simp [skipSpaces, isSpace])
  have hskip : skipSpaces (' ' :: (written ++ '\n' :: rest)) = written ++ '\n' :: rest := by
    obtain ⟨d, tail, rfl, hd⟩ := hv.start
    have hspace : isSpace ' ' = true := rfl
    simp [skipSpaces, hspace, hd]
  have hassign : readAssign? (name.toList ++ ' ' :: '=' :: ' ' :: (written ++ '\n' :: rest)) =
      some (.assign [name] v, '\n' :: rest) := by
    simp [readAssign?, hkey, hskip, hv.read ('\n' :: rest) ⟨_, _, rfl, .inl rfl⟩]
  simpa [Writer.assignment] using readLine?_of_readAssign? hn hassign

end Statement

/-! ### Sections -/

/-- The fields of a record. Each name is there once. -/
structure Record where
  fields : List (String × Value)
  nodup : (fields.map Prod.fst).Nodup

/-- The entries of a table for a record. -/
def Record.entries (r : Record) : Entries :=
  r.fields.map fun f => (f.1, .value f.2)

/-- What a header with the fields of a record makes: a table, or an array with its first table. -/
def Record.node (isElement : Bool) (r : Record) : Node :=
  if isElement then .tables [r.entries] else .table .declared r.entries

namespace Section

/-- The section for a record: its name as the header, and an assignment for each field. -/
def record (name : String) (isElement : Bool) (r : Record) : Section where
  path := [name]
  isElement := isElement
  assignments := r.fields.map fun f => ([f.1], f.2)

/-- The statements of a section. -/
def statements (s : Section) : List Statement :=
  .ofHeader s.isElement s.path :: s.assignments.map fun a => .assign a.1 a.2

theorem statements_record (name : String) (isElement : Bool) (r : Record) :
    (record name isElement r).statements =
      .ofHeader isElement [name] :: r.fields.map fun f => .assign [f.1] f.2 := by
  simp [statements, record, Function.comp_def]

theorem split_assign (assignments : List (List String × Value)) (rest : List Statement) :
    split (assignments.map (fun a => .assign a.1 a.2) ++ rest) =
      (assignments ++ (split rest).1, (split rest).2) := by
  induction assignments with
  | nil => rfl
  | cons a assignments ih => simp [split, ih]

theorem split_statements (sections : List Section) :
    split (sections.flatMap statements) = ([], sections) := by
  induction sections with
  | nil => rfl
  | cons s sections ih =>
    obtain ⟨path, isElement, assignments⟩ := s
    cases isElement <;> simp [statements, Statement.ofHeader, split, split_assign, ih]

end Section

/-! ### Tables -/

namespace Entries

variable {key : String} {change : Option Node → Option Node} {entries : Entries}

theorem modify_of_not_mem (h : key ∉ entries.map Prod.fst) :
    modify key change entries = (change none).map fun node => entries ++ [(key, node)] := by
  induction entries with
  | nil => rfl
  | cons e entries ih =>
    rw [List.map_cons, List.mem_cons, not_or] at h
    rw [modify, if_neg (Ne.symm h.1), ih h.2, Option.map_map]
    rfl

theorem modify_last {node : Node} (h : key ∉ entries.map Prod.fst) :
    modify key change (entries ++ [(key, node)]) =
      (change (some node)).map fun node => entries ++ [(key, node)] := by
  induction entries with
  | nil => exact if_pos rfl
  | cons e entries ih =>
    rw [List.map_cons, List.mem_cons, not_or] at h
    rw [List.cons_append, modify, if_neg (Ne.symm h.1), ih h.2, Option.map_map]
    rfl

theorem assignAll_fields {fields : List (String × Value)} (h : (fields.map Prod.fst).Nodup)
    (hentries : ∀ f ∈ fields, f.1 ∉ entries.map Prod.fst) :
    assignAll (fields.map fun f => ([f.1], f.2)) entries =
      some (entries ++ fields.map fun f => (f.1, .value f.2)) := by
  induction fields generalizing entries with
  | nil => simp [assignAll]
  | cons f fields ih =>
    rw [List.map_cons, List.nodup_cons] at h
    rw [List.forall_mem_cons] at hentries
    have hassign : assign [f.1] f.2 entries = some (entries ++ [(f.1, .value f.2)]) := by
      rw [assign, modify_of_not_mem hentries.1]
      rfl
    have hstep : assignAll ((f :: fields).map fun f => ([f.1], f.2)) entries =
        (assign [f.1] f.2 entries).bind (assignAll (fields.map fun f => ([f.1], f.2))) := rfl
    rw [hstep, hassign, Option.bind_some, ih h.2]
    · simp
    · intro g hg
      have hne : g.1 ≠ f.1 := fun he => h.1 (he ▸ List.mem_map_of_mem hg)
      simp [hentries.2 g hg, hne]

theorem assignAll_record (r : Record) :
    assignAll (r.fields.map fun f => ([f.1], f.2)) [] = some r.entries :=
  assignAll_fields r.nodup (by simp)

end Entries

/-! ### Documents of records -/

namespace Document

/-- Adds what a section says to the entries of a document. -/
def extend (entries : Entries) (s : Section) : Option Entries :=
  Entries.modifyAt s.path s.change entries

variable {name : String} {entries : Entries}

theorem extend_record (isElement : Bool) (h : name ∉ entries.map Prod.fst) (r : Record) :
    extend entries (.record name isElement r) =
      some (entries ++ [(name, r.node isElement)]) := by
  have hchange : (Section.record name isElement r).change none = some (r.node isElement) := by
    cases isElement <;>
      simp [Section.change, Section.record, Record.node, Entries.assignAll_record]
  show Entries.modify name (Section.record name isElement r).change entries = _
  rw [Entries.modify_of_not_mem h, hchange]
  rfl

theorem extend_further_element (h : name ∉ entries.map Prod.fst) (r : Record)
    (elements : List (List (String × Node))) :
    extend (entries ++ [(name, .tables elements)]) (.record name true r) =
      some (entries ++ [(name, .tables (elements ++ [r.entries]))]) := by
  have hchange : (Section.record name true r).change (some (.tables elements)) =
      some (.tables (elements ++ [r.entries])) := by
    simp [Section.change, Section.record, Entries.assignAll_record]
  show Entries.modify name (Section.record name true r).change _ = _
  rw [Entries.modify_last h, hchange]
  rfl

theorem foldlM_tables {tables : List (String × Record)} (h : (tables.map Prod.fst).Nodup)
    (hentries : ∀ t ∈ tables, t.1 ∉ entries.map Prod.fst) :
    (tables.map fun t => Section.record t.1 false t.2).foldlM extend entries =
      some (entries ++ tables.map fun t => (t.1, .table .declared t.2.entries)) := by
  induction tables generalizing entries with
  | nil => simp
  | cons t tables ih =>
    rw [List.map_cons, List.nodup_cons] at h
    rw [List.forall_mem_cons] at hentries
    rw [List.map_cons, List.foldlM_cons, extend_record false hentries.1, Option.bind_eq_bind,
      Option.bind_some, ih h.2]
    · simp [Record.node]
    · intro u hu
      have hne : u.1 ≠ t.1 := fun he => h.1 (he ▸ List.mem_map_of_mem hu)
      simp [hentries.2 u hu, hne]

theorem foldlM_further_elements (h : name ∉ entries.map Prod.fst) (records : List Record)
    (elements : List (List (String × Node))) :
    (records.map (Section.record name true)).foldlM extend
        (entries ++ [(name, .tables elements)]) =
      some (entries ++ [(name, .tables (elements ++ records.map Record.entries))]) := by
  induction records generalizing elements with
  | nil => simp
  | cons r records ih =>
    rw [List.map_cons, List.foldlM_cons, extend_further_element h, Option.bind_eq_bind,
      Option.bind_some, ih]
    simp

/-- The entry for the records under a repeated header, if there are any. -/
def elementsEntry (name : String) (records : List Record) : Entries :=
  if records = [] then [] else [(name, .tables (records.map Record.entries))]

theorem foldlM_elements (h : name ∉ entries.map Prod.fst) (records : List Record) :
    (records.map (Section.record name true)).foldlM extend entries =
      some (entries ++ elementsEntry name records) := by
  cases records with
  | nil => simp [elementsEntry]
  | cons r records =>
    rw [List.map_cons, List.foldlM_cons, extend_record true h, Option.bind_eq_bind,
      Option.bind_some]
    show _ = some (entries ++ [(name, .tables ([r.entries] ++ records.map Record.entries))])
    exact foldlM_further_elements h records [r.entries]

/-- The sections of a document: records under headers, then records under one repeated header. -/
def sections (tables : List (String × Record)) (name : String) (records : List Record) :
    List Section :=
  (tables.map fun t => .record t.1 false t.2) ++ records.map (.record name true)

theorem assemble?_sections {tables : List (String × Record)}
    (h : (name :: tables.map Prod.fst).Nodup) (records : List Record) :
    assemble? ((sections tables name records).flatMap Section.statements) =
      some ((tables.map fun t => (t.1, .table .declared t.2.entries)) ++
        elementsEntry name records) := by
  rw [List.nodup_cons] at h
  have hname : name ∉
      (tables.map fun t => (t.1, Node.table .declared t.2.entries)).map Prod.fst := by
    simpa [Function.comp_def] using h.1
  have hfold : (sections tables name records).foldlM extend [] =
      some ((tables.map fun t => (t.1, .table .declared t.2.entries)) ++
        elementsEntry name records) := by
    rw [sections, List.foldlM_append, foldlM_tables h.2 (by simp), Option.bind_eq_bind,
      Option.bind_some, List.nil_append, foldlM_elements hname]
  unfold assemble?
  rw [Section.split_statements]
  exact hfold

end Document

namespace Node

theorem entriesToValues_eq_map (entries : List (String × Node)) :
    entriesToValues entries = entries.map fun e => (e.1, e.2.toValue) := by
  induction entries with
  | nil => rfl
  | cons e entries ih => rw [entriesToValues, ih, List.map_cons]

theorem tablesToValues_eq_map (elements : List (List (String × Node))) :
    tablesToValues elements = elements.map fun entries => .table (entriesToValues entries) := by
  induction elements with
  | nil => rfl
  | cons entries elements ih => rw [tablesToValues, ih, List.map_cons]

theorem entriesToValues_record (r : Record) : entriesToValues r.entries = r.fields := by
  rw [entriesToValues_eq_map, Record.entries, List.map_map]
  exact List.map_id _

end Node

/-- The values of a document of records. -/
def Document.values (tables : List (String × Record)) (name : String) (records : List Record) :
    List (String × Value) :=
  (tables.map fun t => (t.1, .table t.2.fields)) ++
    if records = [] then [] else [(name, .array (records.map fun r => .table r.fields))]

theorem Document.read?_of_says {tables : List (String × Record)} {name : String}
    {records : List Record} (h : (name :: tables.map Prod.fst).Nodup)
    (hs : Statement.Says text ((sections tables name records).flatMap Section.statements))
    (hmark : dropMark text = text) : read? text = some (values tables name records) := by
  have helements : Node.entriesToValues (elementsEntry name records) =
      if records = [] then [] else [(name, .array (records.map fun r => .table r.fields))] := by
    unfold elementsEntry
    split_ifs
    · rfl
    · simp [Node.entriesToValues, Node.toValue, Node.tablesToValues_eq_map,
        Node.entriesToValues_record]
  have hvalues : Node.entriesToValues ((tables.map fun t => (t.1, .table .declared t.2.entries)) ++
      elementsEntry name records) = values tables name records := by
    rw [Node.entriesToValues_eq_map, List.map_append,
      ← Node.entriesToValues_eq_map (elementsEntry _ _), helements, values, List.map_map]
    simp only [Function.comp_def, Node.toValue, Node.entriesToValues_record]
  unfold read?
  rw [hmark, hs.readAll?, ← hvalues]
  simp [assemble?_sections h]

end FilterQuery.Toml
