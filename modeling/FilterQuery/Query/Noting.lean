import FilterQuery.Journal
import FilterQuery.Query.Parser

/-!
# The journal of a query

Reading a query notes every group that is entered, down to the cause of refusal if there is one, and
at the end how many comparisons the query has. `yields_parseNoting` says that keeping a journal
changes nothing in what is read.
-/

namespace FilterQuery.Parser

/-- A computation that may be refused and keeps a journal in either case. -/
abbrev Noting := ExceptT QueryError (StateM (Array Journal.Entry))

/-- The entry for a group that is entered at a depth. -/
def groupEntry (depth : Nat) (inner : List Char) : Journal.Entry :=
  let text := Escape.shown inner
  ⟨.trace, s!"group at depth {depth}: {text}"⟩

/-- The entry for a query that is read. -/
def parsedEntry (c : Condition) : Journal.Entry :=
  let count := c.comparisons.length
  ⟨.debug, s!"parsed rsql query with {count} comparisons"⟩

/-- Reads an encoded text like `readNested` and notes every group that is entered. -/
def noteNested (p : Parser) (policy : KeyPolicy) (remaining : Nat) :
    List Char → Noting Condition :=
  match remaining with
  | 0 => p.readLevel policy fun _ => throw (.tooDeep p.maxDepth)
  | remaining + 1 => p.readLevel policy fun inner => do
    modify (·.push (groupEntry (p.maxDepth - remaining) inner))
    p.noteNested policy remaining inner

/-- Reads a query like `parse` and notes the groups in it and the end of its reading. -/
def parseNoting (p : Parser) (query : String) (policy : KeyPolicy) : Noting Condition := do
  let condition ← p.noteNested policy p.maxDepth (Escape.encode query.toList)
  modify (·.push (parsedEntry condition))
  return condition

/-- The journal of reading a query. -/
def journal (p : Parser) (query : String) (policy : KeyPolicy) : List Journal.Entry :=
  (((p.parseNoting query policy).run).run #[]).2.toList

/-! ### What is read while a journal is kept -/

variable {α β : Type}

/-- Whether a computation comes to the same result whatever the journal holds. -/
def Noting.Yields (x : Noting α) (y : Except QueryError α) : Prop :=
  ∀ journal, (x.run.run journal).1 = y

namespace Noting.Yields

theorem ok (a : α) : Yields (pure a : Noting α) (.ok a) := fun _ => rfl

theorem lift (y : Except QueryError α) : Yields (liftM y : Noting α) y := fun _ => rfl

theorem bind {x : Noting α} {y : Except QueryError α} {f : α → Noting β}
    {g : α → Except QueryError β} (hx : Yields x y) (hf : ∀ a, Yields (f a) (g a)) :
    Yields (x >>= f) (y >>= g) := by
  intro journal
  have h := hx journal
  subst h
  rw [ExceptT.run_bind, StateT.run_bind]
  rcases x.run.run journal with ⟨r, rest⟩
  cases r with
  | error e => rfl
  | ok a => exact hf a rest

theorem mapM {f : α → Noting β} {g : α → Except QueryError β} (h : ∀ a, Yields (f a) (g a))
    (as : List α) : Yields (as.mapM f) (as.mapM g) := by
  induction as with
  | nil => exact ok []
  | cons a as ih =>
    rw [List.mapM_cons, List.mapM_cons]
    exact bind (h a) fun b => bind ih fun bs => ok (b :: bs)

end Noting.Yields

theorem yields_readTerm (p : Parser) (policy : KeyPolicy) {enter : List Char → Noting Condition}
    {enter' : List Char → Except QueryError Condition} (h : ∀ t, (enter t).Yields (enter' t))
    (term : List Char) :
    Noting.Yields (p.readTerm policy enter term) (p.readTerm policy enter' term) := by
  refine .bind (.lift (TermShape.of term)) fun shape => ?_
  cases shape with
  | group inner => exact h inner
  | listArgument =>
    exact .bind (.lift (p.readComparison policy term)) fun c => .ok (Condition.comparison c)
  | plain =>
    exact .bind (.lift (p.readComparison policy term)) fun c => .ok (Condition.comparison c)

theorem yields_readLevel (p : Parser) (policy : KeyPolicy) {enter : List Char → Noting Condition}
    {enter' : List Char → Except QueryError Condition} (h : ∀ t, (enter t).Yields (enter' t))
    (text : List Char) :
    Noting.Yields (p.readLevel policy enter text) (p.readLevel policy enter' text) := by
  refine .bind (.lift (Terms.splitOr text)) fun alternatives => ?_
  refine .bind (.mapM (fun alternative => ?_) alternatives) fun parts => .ok (Condition.disj parts)
  refine .bind (.lift (Terms.splitAnd alternative)) fun terms => ?_
  exact .bind (.mapM (p.yields_readTerm policy h) terms) fun parts => .ok (Condition.conj parts)

theorem yields_noteNested (p : Parser) (policy : KeyPolicy) (remaining : Nat) (text : List Char) :
    (p.noteNested policy remaining text).Yields (p.readNested policy remaining text) := by
  induction remaining generalizing text with
  | zero => exact p.yields_readLevel policy (fun _ _ => rfl) text
  | succ remaining ih =>
    refine p.yields_readLevel policy (fun inner journal => ?_) text
    exact ih inner (journal.push (groupEntry (p.maxDepth - remaining) inner))

/-- Keeping a journal changes nothing in what is read. -/
theorem yields_parseNoting (p : Parser) (query : String) (policy : KeyPolicy) :
    (p.parseNoting query policy).Yields (p.parse query policy) := by
  intro journal
  have h := p.yields_noteNested policy p.maxDepth (Escape.encode query.toList) journal
  rw [parse, ← h, parseNoting, ExceptT.run_bind, StateT.run_bind]
  rcases (p.noteNested policy p.maxDepth _).run.run journal with ⟨r, rest⟩
  cases r <;> rfl

end FilterQuery.Parser
