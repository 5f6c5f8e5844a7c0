import FilterQuery.Proofs.Grammar
import FilterQuery.Proofs.KeyFilter

/-!
# What a query means

A condition holds or not, given which comparisons hold. Joining conditions by `conj` and `disj` is
conjunction and disjunction, however deep the conditions are merged (`holds_conj`, `holds_disj`).
So the condition that is read from a query holds exactly if one of the alternatives in its text has
only terms that hold, where a group is a text again (`parse_meaning`).

The text is taken apart by the grammar. What its derivation means is computed from the derivation
alone (`Grammar.Term.holds`, `Grammar.Term.found`), without building a condition.
-/

namespace FilterQuery

/-- Whether a condition holds, given which comparisons do. -/
def Condition.holds (truth : Comparison → Bool) : Condition → Bool
  | comparison c => truth c
  | all children => (children.map (holds truth)).all id
  | any children => (children.map (holds truth)).any id

/-- The comparison that is read where an operator is found. -/
def Parser.comparisonOf (p : Parser) (m : OperatorMatch) : Comparison where
  key := p.transformKey (String.ofList m.key)
  operator := m.operator.pattern
  value := String.ofList (Escape.unescape (Grammar.argument m.operator m.value))

namespace Grammar.Term

theorem sizeOf_lt_group {alternatives : List (List Term)} {terms : List Term} {t : Term}
    (hterms : terms ∈ alternatives) (ht : t ∈ terms) : sizeOf t < sizeOf (group alternatives) := by
  have h₁ := List.sizeOf_lt_of_mem hterms
  have h₂ := List.sizeOf_lt_of_mem ht
  simp only [group.sizeOf_spec]
  omega

/-- Whether a term holds, given which comparisons in it do: a group holds if one of its alternatives
has only terms that hold. -/
def holds (truth : OperatorMatch → Bool) : Term → Bool
  | comparison key o value => truth ⟨key, o, value⟩
  | group alternatives =>
    (alternatives.map fun terms => (terms.map fun t => t.holds truth).all id).any id
decreasing_by exact sizeOf_lt_group ‹_› ‹_›

/-- The comparisons in a term, from left to right. -/
def found : Term → List OperatorMatch
  | comparison key o value => [⟨key, o, value⟩]
  | group alternatives => alternatives.flatMap fun terms => terms.flatMap fun t => t.found
decreasing_by exact sizeOf_lt_group ‹_› ‹_›

/-- Induction over a term and all terms inside it. -/
@[induction_eliminator]
theorem induction {motive : Term → Prop}
    (comparison : ∀ key o value, motive (.comparison key o value))
    (group : ∀ alternatives, (∀ terms ∈ alternatives, ∀ t ∈ terms, motive t) →
      motive (.group alternatives)) (t : Term) : motive t :=
  match t with
  | .comparison key o value => comparison key o value
  | .group alternatives => group alternatives fun _ _ t _ => induction comparison group t
decreasing_by exact sizeOf_lt_group ‹_› ‹_›

theorem holds_group (truth : OperatorMatch → Bool) (alternatives : List (List Term)) :
    (group alternatives).holds truth = alternatives.any fun terms => terms.all (holds truth) := by
  simp only [holds, List.any_map, List.all_map]
  rfl

end Grammar.Term

/-- The comparisons in the alternatives of a query, from left to right. -/
def Grammar.found (alternatives : List (List Term)) : List OperatorMatch :=
  alternatives.flatMap fun terms => terms.flatMap Term.found

theorem Grammar.Term.found_group (alternatives : List (List Term)) :
    (group alternatives).found = Grammar.found alternatives := by
  rw [found, Grammar.found]

/-! ### Joined conditions -/

namespace Condition

variable (truth : Comparison → Bool) (cs : List Condition)

theorem holds_all : (all cs).holds truth = cs.all (holds truth) := by
  simp only [holds, List.all_map]
  rfl

theorem holds_any : (any cs).holds truth = cs.any (holds truth) := by
  simp only [holds, List.any_map]
  rfl

theorem holds_conj : (conj cs).holds truth = cs.all (holds truth) := by
  refine eval_merge (holds_all truth) (fun c => by simp) (fun cs => ?_) cs
  rw [List.all_flatMap]
  congr 1
  funext c
  cases c with
  | all children => exact (holds_all truth children).symm
  | comparison c => simp [conjuncts]
  | any children => simp [conjuncts]

theorem holds_disj : (disj cs).holds truth = cs.any (holds truth) := by
  refine eval_merge (holds_any truth) (fun c => by simp) (fun cs => ?_) cs
  rw [List.any_flatMap]
  congr 1
  funext c
  cases c with
  | any children => exact (holds_any truth children).symm
  | comparison c => simp [disjuncts]
  | all children => simp [disjuncts]

end Condition

/-! ### Derivations -/

namespace Grammar

variable (p : Parser) (truth : Comparison → Bool)

theorem mapKeys_comparison (key : List Char) (o : Operator) (value : List Char) :
    (Term.comparison key o value).condition.mapKeys p.transformKey =
      .comparison (p.comparisonOf ⟨key, o, value⟩) := by
  rw [Term.condition_comparison, Condition.mapKeys]
  rfl

theorem mapKeys_condition (as : List (List Term)) : (condition as).mapKeys p.transformKey =
    .disj (as.map fun terms =>
      .conj (terms.map fun t => t.condition.mapKeys p.transformKey)) := by
  rw [condition, Condition.mapKeys_disj, List.map_map]
  congr 2
  funext terms
  rw [Function.comp_apply, Condition.mapKeys_conj, List.map_map]
  rfl

theorem Term.holds_condition (t : Term) : (t.condition.mapKeys p.transformKey).holds truth =
    t.holds fun m => truth (p.comparisonOf m) := by
  induction t with
  | comparison key o value => rw [mapKeys_comparison, Condition.holds, Term.holds]
  | group as ih =>
    rw [Term.condition_group, mapKeys_condition, Condition.holds_disj, Term.holds_group,
      List.any_map, Bool.eq_iff_iff, List.any_eq_true, List.any_eq_true]
    refine exists_congr fun terms => and_congr_right fun hterms => ?_
    rw [Function.comp_apply, Condition.holds_conj, List.all_map, List.all_eq_true,
      List.all_eq_true]
    refine forall₂_congr fun t ht => ?_
    rw [Function.comp_apply, ih terms hterms t ht]

theorem Term.comparisons_condition (t : Term) :
    (t.condition.mapKeys p.transformKey).comparisons = t.found.map p.comparisonOf := by
  induction t with
  | comparison key o value => rw [mapKeys_comparison, Condition.comparisons, found]; rfl
  | group as ih =>
    rw [Term.condition_group, mapKeys_condition, Condition.comparisons_disj,
      Condition.comparisonsOf_eq, Term.found_group, Grammar.found, List.flatMap_map,
      List.map_flatMap]
    refine List.flatMap_congr fun terms hterms => ?_
    rw [Condition.comparisons_conj, Condition.comparisonsOf_eq, List.flatMap_map, List.map_flatMap]
    exact List.flatMap_congr fun t ht => ih terms hterms t ht

end Grammar

/-! ### Queries -/

theorem Parser.exists_derives_of_readNested {p : Parser} {policy : KeyPolicy} {depth : Nat}
    {text : List Char} {c : Condition} (h : p.readNested policy depth text = .ok c) :
    ∃ as, Grammar.Derives p.dialect.operators depth text as ∧
      c = (Grammar.Term.group as).condition.mapKeys p.transformKey := by
  have hf := p.filters_readNested policy depth text
  rw [h] at hf
  obtain ⟨c₀, hc₀, rfl⟩ := hf.exists_of_ok
  obtain ⟨as, has, rfl⟩ := (Grammar.readNested_eq_ok_iff (p := p.plain) rfl).1 hc₀
  exact ⟨as, has, by rw [Grammar.Term.condition_group]⟩

/-- Joining conditions means what it says and keeps all comparisons in their order. So what is read
from a query holds exactly if one of the alternatives of its text has only terms that hold, and has
one comparison for each comparison in the text, in the order of the text. -/
theorem parse_meaning :
    (∀ (cs : List Condition) (truth : Comparison → Bool),
      ((Condition.conj cs).holds truth = true ↔ ∀ c ∈ cs, c.holds truth = true) ∧
      ((Condition.disj cs).holds truth = true ↔ ∃ c ∈ cs, c.holds truth = true) ∧
      (Condition.conj cs).comparisons = cs.flatMap Condition.comparisons ∧
      (Condition.disj cs).comparisons = cs.flatMap Condition.comparisons) ∧
    ∀ (p : Parser) (policy : KeyPolicy) (query : String) (c : Condition),
      p.parse query policy = .ok c →
      ∃ as, Grammar.Derives p.dialect.operators p.maxDepth (Escape.encode query.toList) as ∧
        (∀ truth, c.holds truth = true ↔ ∃ terms ∈ as, ∀ t ∈ terms,
          t.holds (fun m => truth (p.comparisonOf m)) = true) ∧
        c.comparisons = (Grammar.found as).map p.comparisonOf := by
  refine ⟨fun cs truth => ⟨?_, ?_, ?_, ?_⟩, fun p policy query c h => ?_⟩
  · rw [Condition.holds_conj, List.all_eq_true]
  · rw [Condition.holds_disj, List.any_eq_true]
  · rw [Condition.comparisons_conj, Condition.comparisonsOf_eq]
  · rw [Condition.comparisons_disj, Condition.comparisonsOf_eq]
  · obtain ⟨as, has, rfl⟩ := Parser.exists_derives_of_readNested h
    refine ⟨as, has, fun truth => ?_, ?_⟩
    · rw [Grammar.Term.holds_condition, Grammar.Term.holds_group, List.any_eq_true]
      simp only [List.all_eq_true]
    · rw [Grammar.Term.comparisons_condition, Grammar.Term.found_group]

/-- A group inside a group, under a transform and a policy. -/
theorem parse_meaning_nested :
    (⟨.mongo, [("u." ++ ·)], 2⟩ : Parser).parse "a==1;(b==2,(c==3;d==4))" ⟨none, some ["a"]⟩ =
      .ok (.all [.comparison ⟨"u.a", "==", "1"⟩, .any [.comparison ⟨"u.b", "==", "2"⟩,
        .all [.comparison ⟨"u.c", "==", "3"⟩, .comparison ⟨"u.d", "==", "4"⟩]]]) ∧
    ∃ as, Grammar.Derives Dialect.mongo.operators 2
        (Escape.encode "a==1;(b==2,(c==3;d==4))".toList) as ∧
      [⟨"u.a", "==", "1"⟩, ⟨"u.b", "==", "2"⟩, ⟨"u.c", "==", "3"⟩, ⟨"u.d", "==", "4"⟩] =
        (Grammar.found as).map (Parser.comparisonOf ⟨.mongo, [("u." ++ ·)], 2⟩) := by
  have h : (⟨.mongo, [("u." ++ ·)], 2⟩ : Parser).parse "a==1;(b==2,(c==3;d==4))"
      ⟨none, some ["a"]⟩ =
      .ok (.all [.comparison ⟨"u.a", "==", "1"⟩, .any [.comparison ⟨"u.b", "==", "2"⟩,
        .all [.comparison ⟨"u.c", "==", "3"⟩, .comparison ⟨"u.d", "==", "4"⟩]]]) := by
    cbv
  obtain ⟨as, has, -, hc⟩ := parse_meaning.2 _ _ _ _ h
  exact ⟨h, as, has, hc⟩

end FilterQuery
