import FilterQuery.Proofs.Terms
import FilterQuery.Query.Parser

/-!
# The texts that reading comes to

Reading a query cuts its text into alternatives, these into terms, and reads the text inside a group
the same way. `Reaches` lists the texts that are met like this, with the role that each one has, and
`Raises` the causes for which one of them can be refused. Every refusal of a query comes from one of
its texts (`exists_raises_of_readNested`), so what is to be said about all refusals is proved once
for each role.
-/

namespace FilterQuery

open Nesting

namespace Reading

/-- What a text is read as. -/
inductive Role where
  | level
  | alternative
  | term
deriving Repr, DecidableEq

/-- Reading `whole` can come to a text in some role. -/
inductive Reaches (whole : List Char) : Role → List Char → Prop
  | start : Reaches whole .level whole
  | alternative {text term : List Char} {terms : List (List Char)} (h : Reaches whole .level text)
      (hs : Terms.splitOr text = .ok terms) (hm : term ∈ terms) : Reaches whole .alternative term
  | term {text term : List Char} {terms : List (List Char)} (h : Reaches whole .alternative text)
      (hs : Terms.splitAnd text = .ok terms) (hm : term ∈ terms) : Reaches whole .term term
  | group {text inner : List Char} (h : Reaches whole .term text)
      (hs : TermShape.of text = .ok (.group inner)) : Reaches whole .level inner

/-- A text is refused for a cause of its own, whatever is read before it. -/
inductive Raises (p : Parser) (policy : KeyPolicy) : Role → List Char → QueryError → Prop
  | level {text : List Char} {e : QueryError} (h : Terms.splitOr text = .error e) :
      Raises p policy .level text e
  | alternative {text : List Char} {e : QueryError} (h : Terms.splitAnd text = .error e) :
      Raises p policy .alternative text e
  | shape {text : List Char} {e : QueryError} (h : TermShape.of text = .error e) :
      Raises p policy .term text e
  | tooDeep {text inner : List Char} (h : TermShape.of text = .ok (.group inner)) :
      Raises p policy .term text (.tooDeep p.maxDepth)
  | comparison {text : List Char} {e : QueryError}
      (hs : TermShape.of text = .ok .listArgument ∨ TermShape.of text = .ok .plain)
      (h : p.readComparison policy text = .error e) : Raises p policy .term text e

variable {p : Parser} {policy : KeyPolicy} {whole text part : List Char} {role : Role}
  {e : QueryError}

theorem Reaches.trans (h : Reaches whole .level text) (ht : Reaches text role part) :
    Reaches whole role part := by
  induction ht with
  | start => exact h
  | alternative _ hs hm ih => exact .alternative ih hs hm
  | term _ hs hm ih => exact .term ih hs hm
  | group _ hs ih => exact .group ih hs

/-- Only the whole text can be unbalanced. -/
theorem Reaches.balanced (h : Reaches whole role part) :
    (role = .level ∧ part = whole) ∨ Balanced part := by
  induction h with
  | start => exact .inl ⟨rfl, rfl⟩
  | alternative _ hs hm _ =>
    exact .inr (Terms.balanced_of_mem_split Terms.isParen_orSeparator hs hm)
  | term _ hs hm _ => exact .inr (Terms.balanced_of_mem_split Terms.isParen_andSeparator hs hm)
  | group _ hs _ => exact .inr (TermShape.of_eq_group_iff.1 hs).2

/-! ### Where a refusal comes from -/

section Level

variable {enter : List Char → Except QueryError Condition}
  (henter : ∀ term inner e, TermShape.of term = .ok (.group inner) → enter inner = .error e →
    Raises p policy .term term e ∨
      ∃ role part, Reaches inner role part ∧ Raises p policy role part e)

include henter

theorem exists_raises_of_readTerm (hr : Reaches whole .term text)
    (h : p.readTerm policy enter text = .error e) :
    ∃ role part, Reaches whole role part ∧ Raises p policy role part e := by
  rw [Parser.readTerm_eq] at h
  rcases bind_eq_error_iff.1 h with h | ⟨shape, hs, h⟩
  · exact ⟨.term, text, hr, .shape h⟩
  cases shape with
  | group inner =>
    rcases henter text inner e hs h with h | ⟨role, part, hp, h⟩
    · exact ⟨.term, text, hr, h⟩
    · exact ⟨role, part, (Reaches.group hr hs).trans hp, h⟩
  | listArgument => exact ⟨.term, text, hr, .comparison (.inl hs) (map_eq_error_iff.1 h)⟩
  | plain => exact ⟨.term, text, hr, .comparison (.inr hs) (map_eq_error_iff.1 h)⟩

theorem exists_raises_of_readAlternative (hr : Reaches whole .alternative text)
    (h : p.readAlternative policy enter text = .error e) :
    ∃ role part, Reaches whole role part ∧ Raises p policy role part e := by
  rw [Parser.readAlternative_eq] at h
  rcases bind_eq_error_iff.1 h with h | ⟨terms, hs, h⟩
  · exact ⟨.alternative, text, hr, .alternative h⟩
  obtain ⟨before, term, after, rfl, -, h⟩ := mapM_eq_error_iff.1 (map_eq_error_iff.1 h)
  exact exists_raises_of_readTerm henter (.term hr hs (by simp)) h

theorem exists_raises_of_readLevel (h : p.readLevel policy enter text = .error e) :
    ∃ role part, Reaches text role part ∧ Raises p policy role part e := by
  rw [Parser.readLevel_eq] at h
  rcases bind_eq_error_iff.1 h with h | ⟨alternatives, hs, h⟩
  · exact ⟨.level, text, .start, .level h⟩
  obtain ⟨before, alternative, after, rfl, -, h⟩ := mapM_eq_error_iff.1 (map_eq_error_iff.1 h)
  exact exists_raises_of_readAlternative henter (.alternative .start hs (by simp)) h

end Level

theorem exists_raises_of_readNested {depth : Nat} (h : p.readNested policy depth text = .error e) :
    ∃ role part, Reaches text role part ∧ Raises p policy role part e := by
  induction depth generalizing text e with
  | zero =>
    refine exists_raises_of_readLevel (fun term inner e hs he => .inl ?_) h
    cases he
    exact .tooDeep hs
  | succ depth ih =>
    exact exists_raises_of_readLevel (fun _ _ _ _ he => .inr (ih he)) h

end Reading

/-! ### What each step is refused for -/

section Causes

variable {text : List Char} {e : QueryError}

theorem Terms.error_of_trimPieces_cons {start : Nat} {piece : List Char} {rest : List (List Char)}
    (h : trimPieces text start (piece :: rest) = .error e) :
    (Blank piece ∧ e = .emptyTerm (Escape.shown text) start) ∨
      (¬Blank piece ∧ trimPieces text (start + piece.length + 1) rest = .error e) := by
  rw [trimPieces] at h
  split at h
  · next ht => exact .inl ⟨trim_eq_nil_iff.1 ht, (Except.error.inj h).symm⟩
  · next ht =>
    rcases bind_eq_error_iff.1 h with h | ⟨terms, -, h⟩
    · exact .inr ⟨mt trim_eq_nil_iff.2 ht, h⟩
    · simp [pure, Except.pure] at h

theorem Terms.exists_emptyTerm_of_trimPieces {start : Nat} {pieces : List (List Char)}
    (h : trimPieces text start pieces = .error e) :
    ∃ position, e = .emptyTerm (Escape.shown text) position := by
  induction pieces generalizing start with
  | nil => simp [trimPieces] at h
  | cons piece rest ih =>
    rcases error_of_trimPieces_cons h with ⟨-, he⟩ | ⟨-, h⟩
    · exact ⟨start, he⟩
    · exact ih h

theorem Terms.exists_emptyTerm_of_split {separator : Char} (hb : Balanced text)
    (h : split separator text = .error e) :
    ∃ position, e = .emptyTerm (Escape.shown text) position := by
  have hok : checkBalanced text = .ok () := checkBalanced_eq_ok_iff.2 hb
  rw [split, hok] at h
  exact exists_emptyTerm_of_trimPieces h

theorem Terms.split_of_not_balanced (separator : Char) (hb : ¬Balanced text) :
    ∃ position, unbalancedAt? text = some position ∧
      split separator text = .error (.unbalancedParens (Escape.shown text) position) := by
  obtain ⟨position, hp⟩ := Option.ne_none_iff_exists'.1 (mt unbalancedAt?_eq_none_iff.1 hb)
  refine ⟨position, hp, bind_eq_error_iff.2 (.inl ?_)⟩
  rw [checkBalanced, hp]

theorem Terms.error_of_split {separator : Char} (h : split separator text = .error e) :
    ∃ position, e = .unbalancedParens (Escape.shown text) position ∨
      e = .emptyTerm (Escape.shown text) position := by
  by_cases hb : Balanced text
  · obtain ⟨position, he⟩ := exists_emptyTerm_of_split hb h
    exact ⟨position, .inr he⟩
  · obtain ⟨position, -, hu⟩ := split_of_not_balanced separator hb
    exact ⟨position, .inl (Except.error.inj (h.symm.trans hu))⟩

theorem TermShape.error_of_of (h : of text = .error e) :
    e = .malformedParens (Escape.shown text) ∨ e = .unbalancedParens (Escape.shown text) 0 := by
  unfold of at h
  split at h
  · split at h
    · simp at h
    · exact .inl (Except.error.inj h).symm
    · exact .inr (Except.error.inj h).symm
  · split at h
    · exact .inl (Except.error.inj h).symm
    · split at h <;> simp at h

theorem TermShape.eq_malformedParens_of_of (hb : Balanced text) (h : of text = .error e) :
    e = .malformedParens (Escape.shown text) := by
  unfold of at h
  split at h
  · split at h
    · simp at h
    · exact (Except.error.inj h).symm
    · next hs =>
      obtain ⟨inner, rest, hc⟩ := @Balanced.exists_close [] _ hb
      rw [hc] at hs
      simp at hs
  · split at h
    · exact (Except.error.inj h).symm
    · split at h <;> simp at h

theorem OperatorMatch.error_of_find {operators : List Operator}
    (h : find operators text = .error e) :
    e = .noOperator (Escape.shown text) ∨ e = .emptyKey (Escape.shown text) ∨
      e = .escapedKey (Escape.shown text) ∨
      ∃ operator, e = .unknownOperator operator (Escape.shown text) := by
  unfold find at h
  split at h
  · exact .inl (Except.error.inj h).symm
  · dsimp only at h
    split at h
    · exact .inr (.inl (Except.error.inj h).symm)
    · split at h
      · exact .inr (.inr (.inl (Except.error.inj h).symm))
      · split at h
        · exact .inr (.inr (.inr ⟨_, (Except.error.inj h).symm⟩))
        · simp at h

theorem Parser.error_of_readComparison {p : Parser} {policy : KeyPolicy}
    (h : p.readComparison policy text = .error e) :
    OperatorMatch.find p.dialect.operators text = .error e ∨
      ∃ key, policy.check key = .error e := by
  rcases bind_eq_error_iff.1 h with h | ⟨found, -, h⟩
  · exact .inl h
  · rcases bind_eq_error_iff.1 h with h | ⟨u, -, h⟩
    · exact .inr ⟨_, h⟩
    · simp [pure, Except.pure] at h

end Causes

end FilterQuery
