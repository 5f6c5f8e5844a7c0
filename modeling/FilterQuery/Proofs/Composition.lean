import FilterQuery.Proofs.Escaping
import FilterQuery.Proofs.NormalForm

/-!
# Queries put together

A query means inside a larger query what it means alone. Around a query, parentheses change nothing
but the limit on groups inside each other; between two queries, a comma gives their disjunction; and
between two queries in parentheses, a semicolon gives their conjunction (`parse_of_parts`).

Three things are carried across the seams. The texts are encoded apart (`Escape.encode_append`),
they are cut apart (`Terms.split_append`), and joining what they give in one step or in two is the
same (`Condition.disj_pair`). A deeper limit shows in one error only (`Parser.readNested_deepen`).
-/

namespace FilterQuery

open Nesting

/-- The refusal under a limit that is deeper by one. -/
def QueryError.deepen : QueryError → QueryError
  | tooDeep depth => tooDeep (depth + 1)
  | e => e

/-! ### Only a group can be too deep -/

theorem Terms.mapError_deepen_split (separator : Char) (text : List Char) :
    (split separator text).mapError QueryError.deepen = split separator text := by
  have ht (start : Nat) (pieces : List (List Char)) :
      (trimPieces text start pieces).mapError QueryError.deepen = trimPieces text start pieces := by
    induction pieces generalizing start with
    | nil => rfl
    | cons piece rest ih =>
      rw [trimPieces]
      split
      · rfl
      · rw [mapError_bind, ih]
        rfl
  rw [split, mapError_bind]
  simp only [ht]
  congr 1
  unfold checkBalanced
  split <;> rfl

theorem TermShape.mapError_deepen_of (term : List Char) :
    (of term).mapError QueryError.deepen = of term := by
  unfold of
  split
  · split <;> rfl
  · split
    · rfl
    · split <;> rfl

theorem OperatorMatch.mapError_deepen_find (operators : List Operator) (term : List Char) :
    (find operators term).mapError QueryError.deepen = find operators term := by
  unfold find
  split
  · rfl
  · dsimp only
    repeat' split
    all_goals rfl

theorem KeyPolicy.mapError_deepen_check (policy : KeyPolicy) (key : String) :
    (policy.check key).mapError QueryError.deepen = policy.check key := by
  unfold check
  repeat' split
  all_goals rfl

namespace Parser

variable (p : Parser) (policy : KeyPolicy) (enter : List Char → Except QueryError Condition)

theorem mapError_deepen_readComparison (term : List Char) :
    (p.readComparison policy term).mapError QueryError.deepen = p.readComparison policy term := by
  show (OperatorMatch.find _ term >>= _).mapError _ = OperatorMatch.find _ term >>= _
  rw [mapError_bind, OperatorMatch.mapError_deepen_find]
  congr 1
  funext found
  show (policy.check _ >>= _).mapError _ = policy.check _ >>= _
  rw [mapError_bind, KeyPolicy.mapError_deepen_check]
  rfl

theorem mapError_deepen_readTerm (term : List Char) :
    (p.readTerm policy enter term).mapError QueryError.deepen =
      p.readTerm policy (fun inner => (enter inner).mapError QueryError.deepen) term := by
  rw [readTerm_eq, readTerm_eq, mapError_bind, TermShape.mapError_deepen_of]
  congr 1
  funext shape
  cases shape with
  | group inner => rfl
  | listArgument => exact (mapError_map _ _ _).trans (by rw [mapError_deepen_readComparison])
  | plain => exact (mapError_map _ _ _).trans (by rw [mapError_deepen_readComparison])

theorem mapError_deepen_readAlternative (text : List Char) :
    (p.readAlternative policy enter text).mapError QueryError.deepen =
      p.readAlternative policy (fun inner => (enter inner).mapError QueryError.deepen) text := by
  rw [readAlternative_eq, readAlternative_eq, mapError_bind, Terms.splitAnd,
    Terms.mapError_deepen_split]
  simp only [mapError_map, mapError_mapM, mapError_deepen_readTerm]

theorem mapError_deepen_readLevel (text : List Char) :
    (p.readLevel policy enter text).mapError QueryError.deepen =
      p.readLevel policy (fun inner => (enter inner).mapError QueryError.deepen) text := by
  rw [readLevel_eq, readLevel_eq, mapError_bind, Terms.splitOr, Terms.mapError_deepen_split]
  simp only [mapError_map, mapError_mapM, mapError_deepen_readAlternative]

/-- With as many groups left, a deeper limit shows only where it is reached. -/
theorem readNested_deepen (d remaining : Nat) (text : List Char) :
    { p with maxDepth := d + 1 }.readNested policy remaining text =
      ({ p with maxDepth := d }.readNested policy remaining text).mapError QueryError.deepen := by
  induction remaining generalizing text with
  | zero =>
    exact (p.mapError_deepen_readLevel policy (fun _ => .error (.tooDeep d)) text).symm
  | succ remaining ih =>
    -- the limit plays no part in how a level is read
    show p.readLevel policy ({ p with maxDepth := d + 1 }.readNested policy remaining) text =
      (p.readLevel policy ({ p with maxDepth := d }.readNested policy remaining) text).mapError _
    rw [mapError_deepen_readLevel, funext ih]

/-! ### Seams -/

section Seams

variable {p policy enter} {s t inner : List Char} {c d : Condition}

theorem balanced_of_readLevel (h : p.readLevel policy enter s = .ok c) : Balanced s := by
  rw [readLevel_eq, bind_eq_ok_iff] at h
  obtain ⟨terms, ht, -⟩ := h
  exact (Terms.split_eq_ok_iff.1 ht).1

theorem readTerm_group (h : Balanced inner) :
    p.readTerm policy enter ('(' :: (inner ++ [')'])) = enter inner := by
  rw [readTerm_eq, TermShape.of_eq_group_iff.2 ⟨rfl, h⟩]
  rfl

variable (he : ∀ inner c, enter inner = .ok c → c.Normal)

include he

theorem readAlternative_group (h : Balanced inner) :
    p.readAlternative policy enter ('(' :: (inner ++ [')'])) = enter inner := by
  rw [readAlternative_eq, Terms.splitAnd, Terms.split_mapM_of_whole Terms.isParen_andSeparator
    (.enclose Terms.isParen_andSeparator h) (trimmed_group inner) (by simp), readTerm_group h]
  cases hc : enter inner with
  | error e => rfl
  | ok c => exact congrArg Except.ok (he inner c hc).flat.conj_singleton

theorem readLevel_of_whole (hw : Whole Terms.orSeparator s) (ht : Trimmed s) (hne : s ≠ []) :
    p.readLevel policy enter s = p.readAlternative policy enter s := by
  rw [readLevel_eq, Terms.splitOr, Terms.split_mapM_of_whole Terms.isParen_orSeparator hw ht hne]
  cases hc : p.readAlternative policy enter s with
  | error e => rfl
  | ok c =>
    have hn : c.Normal := readAlternative_kept Condition.keptByJoining_normal he hc
    exact congrArg Except.ok hn.flat.disj_singleton

theorem readAlternative_append (hc : p.readAlternative policy enter s = .ok c)
    (hd : p.readAlternative policy enter t = .ok d) :
    p.readAlternative policy enter (s ++ Terms.andSeparator :: t) = .ok (.conj [c, d]) := by
  obtain ⟨cs, ds, rfl, rfl, hcs, hds, h⟩ :=
    Terms.split_mapM_append Terms.isParen_andSeparator hc hd
  have hflat {term : List Char} {c : Condition} (h : p.readTerm policy enter term = .ok c) :
      c.Flat := (readTerm_kept Condition.keptByJoining_normal he h).flat
  rw [readAlternative_eq, Terms.splitAnd, h, Condition.conj_pair]
  · exact fun c hc => (hcs c hc).elim fun _ h => hflat h
  · exact fun d hd => (hds d hd).elim fun _ h => hflat h

theorem readLevel_append (hc : p.readLevel policy enter s = .ok c)
    (hd : p.readLevel policy enter t = .ok d) :
    p.readLevel policy enter (s ++ Terms.orSeparator :: t) = .ok (.disj [c, d]) := by
  obtain ⟨cs, ds, rfl, rfl, hcs, hds, h⟩ :=
    Terms.split_mapM_append Terms.isParen_orSeparator hc hd
  have hflat {text : List Char} {c : Condition} (h : p.readAlternative policy enter text = .ok c) :
      c.Flat := (readAlternative_kept Condition.keptByJoining_normal he h).flat
  rw [readLevel_eq, Terms.splitOr, h, Condition.disj_pair]
  · exact fun c hc => (hcs c hc).elim fun _ h => hflat h
  · exact fun d hd => (hds d hd).elim fun _ h => hflat h

theorem readLevel_group (h : Balanced inner) :
    p.readLevel policy enter ('(' :: (inner ++ [')'])) = enter inner := by
  rw [readLevel_of_whole he (.enclose Terms.isParen_orSeparator h) (trimmed_group inner) (by simp),
    readAlternative_group he h]

theorem readLevel_group_append (hs : Balanced s) (ht : Balanced t) (hc : enter s = .ok c)
    (hd : enter t = .ok d) :
    p.readLevel policy enter ('(' :: (s ++ [')']) ++ Terms.andSeparator :: '(' :: (t ++ [')'])) =
      .ok (.conj [c, d]) := by
  have hw : Whole Terms.orSeparator
      ('(' :: (s ++ [')']) ++ Terms.andSeparator :: '(' :: (t ++ [')'])) :=
    (Whole.enclose Terms.isParen_orSeparator hs).append
      (Terms.whole_andSeparator.append (.enclose Terms.isParen_orSeparator ht))
  have htrim : Trimmed ('(' :: (s ++ [')']) ++ Terms.andSeparator :: '(' :: (t ++ [')'])) := by
    simpa using trimmed_group (s ++ [')'] ++ Terms.andSeparator :: '(' :: t)
  rw [readLevel_of_whole he hw htrim (by simp)]
  refine readAlternative_append he ?_ ?_
  · rw [readAlternative_group he hs, hc]
  · rw [readAlternative_group he ht, hd]

omit he

theorem readNested_append {depth : Nat} (hc : p.readNested policy depth s = .ok c)
    (hd : p.readNested policy depth t = .ok d) :
    p.readNested policy depth (s ++ Terms.orSeparator :: t) = .ok (.disj [c, d]) := by
  cases depth with
  | zero => exact readLevel_append (fun _ _ h => by simp at h) hc hd
  | succ depth => exact readLevel_append (fun _ _ h => readNested_normal h) hc hd

theorem balanced_of_readNested {depth : Nat} (h : p.readNested policy depth s = .ok c) :
    Balanced s := by
  cases depth with
  | zero => exact balanced_of_readLevel h
  | succ depth => exact balanced_of_readLevel h

end Seams

end Parser

/-! ### Queries -/

section Queries

variable (p : Parser) (policy : KeyPolicy) {d : Nat} {q q₁ q₂ : String} {c₁ c₂ : Condition}

theorem parse_group (hb : Balanced (Escape.encode q.toList)) (hl : q.toList.getLast? ≠ some '\\') :
    { p with maxDepth := d + 1 }.parse ("(" ++ q ++ ")") policy =
      ({ p with maxDepth := d }.parse q policy).mapError QueryError.deepen := by
  have ht : ("(" ++ q ++ ")").toList = '(' :: (q.toList ++ [')']) := by simp
  rw [Parser.parse, ht, Escape.encode_enclose hl, Parser.parse, ← Parser.readNested_deepen]
  exact Parser.readLevel_group (fun _ _ h => Parser.readNested_normal h) hb

theorem parse_comma (h₁ : p.parse q₁ policy = .ok c₁) (h₂ : p.parse q₂ policy = .ok c₂)
    (hl : q₁.toList.getLast? ≠ some '\\') :
    p.parse (q₁ ++ "," ++ q₂) policy = .ok (.disj [c₁, c₂]) := by
  have ht : (q₁ ++ "," ++ q₂).toList = q₁.toList ++ Terms.orSeparator :: q₂.toList := by
    simp [Terms.orSeparator]
  rw [Parser.parse, ht, Escape.encode_append_cons hl (by decide)]
  exact Parser.readNested_append h₁ h₂

theorem parse_semicolon (h₁ : { p with maxDepth := d }.parse q₁ policy = .ok c₁)
    (h₂ : { p with maxDepth := d }.parse q₂ policy = .ok c₂)
    (hl₁ : q₁.toList.getLast? ≠ some '\\') (hl₂ : q₂.toList.getLast? ≠ some '\\') :
    { p with maxDepth := d + 1 }.parse ("(" ++ q₁ ++ ");(" ++ q₂ ++ ")") policy =
      .ok (.conj [c₁, c₂]) := by
  have ht : ("(" ++ q₁ ++ ");(" ++ q₂ ++ ")").toList =
      '(' :: (q₁.toList ++ [')']) ++ Terms.andSeparator :: '(' :: (q₂.toList ++ [')']) := by
    simp [Terms.andSeparator]
  rw [Parser.parse, ht, Escape.encode_append_cons ?_ (by decide), Escape.encode_enclose hl₁,
    Escape.encode_enclose hl₂]
  · refine Parser.readLevel_group_append (fun _ _ h => Parser.readNested_normal h)
      (Parser.balanced_of_readNested h₁) (Parser.balanced_of_readNested h₂) ?_ ?_
    · rw [Parser.readNested_deepen]
      exact congrArg _ h₁
    · rw [Parser.readNested_deepen]
      exact congrArg _ h₂
  · rw [← List.cons_append, List.getLast?_concat]
    decide

end Queries

/-- A query in parentheses gives what it gives alone, a refusal included, with one group more
allowed inside each other. Two queries with a comma between them give the disjunction of what they
give alone, and two queries in parentheses with a semicolon between them give the conjunction. -/
theorem parse_of_parts (p : Parser) (policy : KeyPolicy) (d : Nat) :
    (∀ q : String, Balanced (Escape.encode q.toList) → q.toList.getLast? ≠ some '\\' →
      { p with maxDepth := d + 1 }.parse ("(" ++ q ++ ")") policy =
        ({ p with maxDepth := d }.parse q policy).mapError QueryError.deepen) ∧
    (∀ (q₁ q₂ : String) (c₁ c₂ : Condition), p.parse q₁ policy = .ok c₁ →
      p.parse q₂ policy = .ok c₂ → q₁.toList.getLast? ≠ some '\\' →
      p.parse (q₁ ++ "," ++ q₂) policy = .ok (.disj [c₁, c₂])) ∧
    ∀ (q₁ q₂ : String) (c₁ c₂ : Condition), { p with maxDepth := d }.parse q₁ policy = .ok c₁ →
      { p with maxDepth := d }.parse q₂ policy = .ok c₂ → q₁.toList.getLast? ≠ some '\\' →
      q₂.toList.getLast? ≠ some '\\' →
      { p with maxDepth := d + 1 }.parse ("(" ++ q₁ ++ ");(" ++ q₂ ++ ")") policy =
        .ok (.conj [c₁, c₂]) :=
  ⟨fun _ => parse_group p policy, fun _ _ _ _ => parse_comma p policy,
    fun _ _ _ _ => parse_semicolon p policy⟩

/-- A restriction before a query with alternatives, alternatives that are put together, and a group
that is too deep. -/
theorem parse_of_parts_mongo :
    ({ Parser.mongo with maxDepth := 1 } : Parser).parse "(a==1);(b==2,c==\\,)" .unrestricted =
      .ok (.all [.comparison ⟨"a", "==", "1"⟩,
        .any [.comparison ⟨"b", "==", "2"⟩, .comparison ⟨"c", "==", ","⟩]]) ∧
    Parser.mongo.parse "a==1,b==2,c==3" .unrestricted =
      .ok (.any [.comparison ⟨"a", "==", "1"⟩, .comparison ⟨"b", "==", "2"⟩,
        .comparison ⟨"c", "==", "3"⟩]) ∧
    ({ Parser.mongo with maxDepth := 1 } : Parser).parse "((a==1))" .unrestricted =
      .error (.tooDeep 1) := by
  obtain ⟨hgroup, hcomma, hsemicolon⟩ := parse_of_parts .mongo .unrestricted 0
  refine ⟨?_, ?_, ?_⟩
  · exact hsemicolon "a==1" "b==2,c==\\," _ _ (by cbv) (by cbv) (by decide) (by decide)
  · exact hcomma "a==1" "b==2,c==3" _ _ (by cbv) (by cbv) (by decide)
  · refine (hgroup "(a==1)" (by decide) (by decide)).trans ?_
    cbv

end FilterQuery
