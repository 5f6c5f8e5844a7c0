import FilterQuery.Proofs.Terms
import FilterQuery.Query.Parser

/-!
# Two parsers on the same query

`Agrees causes x y`: a run `y` gives what the run `x` gives, unless `x` is a refusal for one of
`causes`. Reading keeps this from part to part (`Agrees.bind`, `Agrees.mapM`), since a refusal ends
the reading of all that is around it. So two parsers agree on every query if they agree on every
comparison and do the same where no further group is allowed, or if the first one refuses a group
there and this is one of the causes (`Parser.agrees_readNested`).
-/

namespace FilterQuery

/-- The second result is the first one, unless that is a refusal for one of the causes. -/
def Agrees (causes : QueryError → Prop) {α : Type} (x y : Except QueryError α) : Prop :=
  (∃ e, x = .error e ∧ causes e) ∨ y = x

namespace Agrees

variable {causes : QueryError → Prop} {α β : Type} {x y : Except QueryError α}

theorem refl (x : Except QueryError α) : Agrees causes x x := .inr rfl

theorem of_cause {e : QueryError} (h : causes e) : Agrees causes (.error e) y :=
  .inl ⟨e, rfl, h⟩

theorem eq_of_not (h : Agrees causes x y) (hn : ∀ e, causes e → x ≠ .error e) : y = x := by
  rcases h with ⟨e, hx, he⟩ | h
  · exact absurd hx (hn e he)
  · exact h

theorem bind {f g : α → Except QueryError β} (hx : Agrees causes x y)
    (hf : ∀ a, x = .ok a → Agrees causes (f a) (g a)) : Agrees causes (x >>= f) (y >>= g) := by
  rcases hx with ⟨e, rfl, he⟩ | rfl
  · exact of_cause he
  · cases y with
    | error e => exact .refl _
    | ok a => exact hf a rfl

theorem map (f : α → β) (h : Agrees causes x y) : Agrees causes (f <$> x) (f <$> y) := by
  rcases h with ⟨e, rfl, he⟩ | rfl
  · exact of_cause he
  · exact .refl _

theorem mapM {f g : α → Except QueryError β} (h : ∀ a, Agrees causes (f a) (g a)) (as : List α) :
    Agrees causes (as.mapM f) (as.mapM g) := by
  induction as with
  | nil => exact .refl _
  | cons a as ih =>
    rw [List.mapM_cons, List.mapM_cons]
    refine (h a).bind fun b _ => ?_
    exact ih.bind fun bs _ => .refl _

end Agrees

namespace Parser

variable {p p' : Parser} {policy : KeyPolicy} {causes : QueryError → Prop}
  (hc : ∀ term, Agrees causes (p.readComparison policy term) (p'.readComparison policy term))

section Level

variable {enter enter' : List Char → Except QueryError Condition}
  (he : ∀ inner, Agrees causes (enter inner) (enter' inner))

include hc he

theorem agrees_readTerm (term : List Char) :
    Agrees causes (p.readTerm policy enter term) (p'.readTerm policy enter' term) := by
  rw [readTerm_eq, readTerm_eq]
  refine (Agrees.refl _).bind fun shape _ => ?_
  cases shape with
  | group inner => exact he inner
  | listArgument => exact (hc term).map _
  | plain => exact (hc term).map _

theorem agrees_readAlternative (text : List Char) : Agrees causes
    (p.readAlternative policy enter text) (p'.readAlternative policy enter' text) := by
  rw [readAlternative_eq, readAlternative_eq]
  refine (Agrees.refl _).bind fun terms _ => ?_
  exact (Agrees.mapM (agrees_readTerm hc he) terms).map _

theorem agrees_readLevel (text : List Char) :
    Agrees causes (p.readLevel policy enter text) (p'.readLevel policy enter' text) := by
  rw [readLevel_eq, readLevel_eq]
  refine (Agrees.refl _).bind fun alternatives _ => ?_
  exact (Agrees.mapM (agrees_readAlternative hc he) alternatives).map _

end Level

include hc in
/-- Parsers that agree on comparisons agree on texts, as deep as the first one reads them. Below
that, the first one refuses a group; this has to be a cause, or the second one refuses it too. -/
theorem agrees_readNested {remaining remaining' : Nat} (hle : remaining ≤ remaining')
    (hlimit : causes (.tooDeep p.maxDepth) ∨
      remaining' = remaining ∧ p'.maxDepth = p.maxDepth) (text : List Char) :
    Agrees causes (p.readNested policy remaining text) (p'.readNested policy remaining' text) := by
  induction remaining generalizing remaining' text with
  | zero =>
    rcases hlimit with hdeep | ⟨rfl, hd⟩
    · have hrefuse (enter' : List Char → Except QueryError Condition) :
          Agrees causes (p.readNested policy 0 text) (p'.readLevel policy enter' text) :=
        agrees_readLevel hc (fun _ => .of_cause hdeep) text
      cases remaining' with
      | zero => exact hrefuse _
      | succ k => exact hrefuse _
    · refine agrees_readLevel hc (fun _ => ?_) text
      rw [hd]
      exact .refl _
  | succ remaining ih =>
    obtain ⟨k, rfl⟩ : ∃ k, remaining' = k + 1 := ⟨remaining' - 1, by omega⟩
    have hlimit' : causes (.tooDeep p.maxDepth) ∨ k = remaining ∧ p'.maxDepth = p.maxDepth := by
      rcases hlimit with h | ⟨hk, hd⟩
      · exact .inl h
      · exact .inr ⟨by omega, hd⟩
    exact agrees_readLevel hc (fun inner => ih (by omega) hlimit' inner) text

end Parser

end FilterQuery
