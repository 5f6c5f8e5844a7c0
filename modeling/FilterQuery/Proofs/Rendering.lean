import FilterQuery.Proofs.Meaning
import FilterQuery.Proofs.Reached

/-!
# What is read can be written

A query that is read is also written: writing looks operators up by their patterns, and finds for
each comparison the operator that reading has found (`process_of_parse`).

`Dialect.write` is writing without a look-up, given the text of each comparison. It is what
`Dialect.render` gives if every comparison can be written (`render_eq`, `render_of_forall`). That a
comparison in the derivation of a query was found by the look-up of reading is followed through the
levels of the grammar (`Grammar.exists_find_of_derives`).
-/

namespace FilterQuery

open Nesting Reading

/-- The conditions that a condition joins. -/
def Condition.children : Condition → List Condition
  | .comparison _ => []
  | .all children => children
  | .any children => children

theorem Condition.mem_comparisons_of_child {c d : Condition} {x : Comparison}
    (hd : d ∈ c.children) (hx : x ∈ d.comparisons) : x ∈ c.comparisons := by
  cases c with
  | comparison y => simp [children] at hd
  | all cs =>
    rw [comparisons, comparisonsOf_eq]
    exact List.mem_flatMap.2 ⟨d, hd, hx⟩
  | any cs =>
    rw [comparisons, comparisonsOf_eq]
    exact List.mem_flatMap.2 ⟨d, hd, hx⟩

/-- Writes a condition, given what is written for each comparison. -/
def Dialect.write (d : Dialect) (leaf : Comparison → String) : Condition → String
  | .comparison c => leaf c
  | .all children => d.conjunction (children.map (d.write leaf))
  | .any children => d.disjunction (children.map (d.write leaf))

namespace Dialect

variable {d : Dialect} {leaf : Comparison → String} {c : Condition}

theorem renderEach_eq (d : Dialect) (cs : List Condition) : d.renderEach cs = cs.mapM d.render := by
  induction cs with
  | nil => rfl
  | cons c cs ih =>
    rw [renderEach, ih, List.mapM_cons]

theorem render_all (d : Dialect) (cs : List Condition) :
    d.render (.all cs) = d.conjunction <$> cs.mapM d.render := by
  rw [render, renderEach_eq]
  rfl

theorem render_any (d : Dialect) (cs : List Condition) :
    d.render (.any cs) = d.disjunction <$> cs.mapM d.render := by
  rw [render, renderEach_eq]
  rfl

theorem mapM_render_eq {cs : List Condition} (h : ∀ c ∈ cs, d.render c =
      (fun _ => d.write leaf c) <$> c.comparisons.mapM d.renderComparison) :
    cs.mapM d.render = (fun _ => cs.map (d.write leaf)) <$>
      (cs.flatMap Condition.comparisons).mapM d.renderComparison := by
  induction cs with
  | nil => rfl
  | cons c cs ih =>
    rw [List.mapM_cons, List.flatMap_cons, List.mapM_append, h c (by simp),
      ih fun c hc => h c (by simp [hc])]
    cases c.comparisons.mapM d.renderComparison with
    | error e => rfl
    | ok _ => cases (cs.flatMap Condition.comparisons).mapM d.renderComparison <;> rfl

/-- Writing a condition is writing its comparisons, from left to right, unless one of them cannot be
written. -/
theorem render_eq (h : ∀ x ∈ c.comparisons, ∀ s, d.renderComparison x = .ok s → leaf x = s) :
    d.render c = (fun _ => d.write leaf c) <$> c.comparisons.mapM d.renderComparison := by
  induction c with
  | comparison x =>
    rw [render, write, Condition.comparisons, List.mapM_cons]
    cases hr : d.renderComparison x with
    | error e => rfl
    | ok s =>
      rw [h x (by simp [Condition.comparisons]) s hr]
      rfl
  | all children ih =>
    rw [Condition.comparisons, Condition.comparisonsOf_eq] at h ⊢
    have hm := mapM_render_eq fun c hc => ih c hc fun x hx => h x (List.mem_flatMap.2 ⟨c, hc, hx⟩)
    rw [render_all, hm, Functor.map_map, write]
  | any children ih =>
    rw [Condition.comparisons, Condition.comparisonsOf_eq] at h ⊢
    have hm := mapM_render_eq fun c hc => ih c hc fun x hx => h x (List.mem_flatMap.2 ⟨c, hc, hx⟩)
    rw [render_any, hm, Functor.map_map, write]

theorem render_of_forall (h : ∀ x ∈ c.comparisons, d.renderComparison x = .ok (leaf x)) :
    d.render c = .ok (d.write leaf c) := by
  have hm : c.comparisons.mapM d.renderComparison = .ok (c.comparisons.map leaf) :=
    mapM_eq_ok_iff.2 (List.forall₂_map_right_iff.2 (List.forall₂_same.2 h))
  rw [render_eq fun x hx s hs => Except.ok.inj ((h x hx).symm.trans hs), hm]
  rfl

end Dialect

/-! ### Comparisons that reading has found -/

namespace Grammar

variable {operators : List Operator} {Body : List Char → List (List Term) → Prop}
  {whole text : List Char} {m : OperatorMatch}

theorem Joined.exists_split {α : Type} {separator : Char} {Part : List Char → α → Prop}
    {as : List α} (hp : isParen separator = false)
    (hw : ∀ {text a}, Part text a → Whole separator text)
    (hne : ∀ {text a}, Part text a → trim text ≠ []) (h : Joined separator Part text as) :
    ∃ terms, Terms.split separator text = .ok terms ∧
      ∀ a ∈ as, ∃ piece, trim piece ∈ terms ∧ Part piece a := by
  obtain ⟨hb, hparts⟩ := (joined_iff hp hw).1 h
  refine ⟨_, Terms.split_eq_ok_iff.2 ⟨hb, rfl, fun piece hpiece => ?_⟩, fun a ha => ?_⟩
  · obtain ⟨a, -, hpart⟩ := exists_of_forall₂ hparts piece hpiece
    exact hne hpart
  · obtain ⟨piece, hpiece, hpart⟩ := exists_of_forall₂ hparts.flip a ha
    exact ⟨piece, List.mem_map.2 ⟨piece, hpiece, rfl⟩, hpart⟩

section Level

variable (hi : ∀ {inner as}, Body inner as → Balanced inner)
  (hfound : ∀ {inner as}, Body inner as → ∀ m ∈ found as,
    ∃ term, Reaches inner .term term ∧ OperatorMatch.find operators term = .ok m)

include hi hfound

theorem IsTerm.exists_find {t : Term} (h : IsTerm operators Body text t)
    (hr : Reaches whole .term (trim text)) (hm : m ∈ t.found) :
    ∃ term, Reaches whole .term term ∧ OperatorMatch.find operators term = .ok m := by
  cases t with
  | group as =>
    obtain ⟨inner, ht, hb⟩ := isTerm_group_iff.1 h
    rw [Term.found_group] at hm
    obtain ⟨term, hterm, hf⟩ := hfound hb m hm
    have hg : TermShape.of (trim text) = .ok (.group inner) :=
      TermShape.of_eq_group_iff.2 ⟨ht, hi hb⟩
    exact ⟨term, (Reaches.group hr hg).trans hterm, hf⟩
  | comparison key o value =>
    obtain ⟨middle, hmid, ht, hk, ho, -⟩ := isTerm_comparison_iff.1 h
    rw [Term.found, List.mem_singleton] at hm
    subst hm
    exact ⟨trim text, hr, by rw [ht]; exact find_comparison hk hmid ho⟩

theorem exists_find_of_alternative {terms : List Term}
    (h : Joined Terms.andSeparator (IsTerm operators Body) text terms)
    (hr : Reaches whole .alternative (trim text)) (hm : m ∈ terms.flatMap Term.found) :
    ∃ term, Reaches whole .term term ∧ OperatorMatch.find operators term = .ok m := by
  obtain ⟨pieces, hs, hpieces⟩ := h.exists_split Terms.isParen_andSeparator
    (fun h => (IsTerm.whole hi h).2) IsTerm.trim_ne_nil
  have hs : Terms.splitAnd (trim text) = .ok pieces :=
    (Terms.split_trim_eq_ok_iff Terms.isParen_andSeparator (by decide)).2 hs
  obtain ⟨t, ht, hm⟩ := List.mem_flatMap.1 hm
  obtain ⟨piece, hpiece, hpart⟩ := hpieces t ht
  exact hpart.exists_find hi hfound (.term hr hs hpiece) hm

theorem Level.exists_find {as : List (List Term)} (h : Level operators Body text as)
    (hm : m ∈ found as) :
    ∃ term, Reaches text .term term ∧ OperatorMatch.find operators term = .ok m := by
  obtain ⟨pieces, hs, hpieces⟩ := Joined.exists_split Terms.isParen_orSeparator (joined_whole hi)
    joined_trim_ne_nil h
  obtain ⟨terms, hterms, hm⟩ := List.mem_flatMap.1 hm
  obtain ⟨piece, hpiece, hpart⟩ := hpieces terms hterms
  exact exists_find_of_alternative hi hfound hpart (.alternative .start hs hpiece) hm

end Level

theorem Inside.exists_find {depth : Nat} {as : List (List Term)}
    (h : Inside operators depth text as) (hm : m ∈ found as) :
    ∃ term, Reaches text .term term ∧ OperatorMatch.find operators term = .ok m := by
  induction depth generalizing text as m with
  | zero => exact h.elim
  | succ depth ih => exact Level.exists_find Inside.balanced (fun h m hm => ih h hm) h hm

theorem exists_find_of_derives {depth : Nat} {as : List (List Term)}
    (h : Derives operators depth text as) (hm : m ∈ found as) :
    ∃ term, Reaches text .term term ∧ OperatorMatch.find operators term = .ok m :=
  @Inside.exists_find operators text m (depth + 1) as h hm

theorem Inside.exists_comparison {depth : Nat} {as : List (List Term)}
    (h : Inside operators depth text as) (hm : m ∈ found as) :
    ∃ middle, Blank middle ∧ m.key ++ (middle ++ (m.operator.pattern.toList ++ m.value)) <:+: text ∧
      IsKey m.key ∧ IsOperator operators m.operator ∧ IsValue m.value := by
  induction depth generalizing text as with
  | zero => exact h.elim
  | succ depth ih =>
    obtain ⟨terms, hterms, hm⟩ := List.mem_flatMap.1 hm
    obtain ⟨t, ht, hm⟩ := List.mem_flatMap.1 hm
    obtain ⟨piece, hpiece, hpart⟩ := Level.exists_of_mem h hterms ht
    cases hpart with
    | @group left right inner as' hl hr hbody =>
      rw [Term.found_group] at hm
      obtain ⟨middle, hmid, hi, hk, ho, hv⟩ := ih hbody hm
      have hinner : inner <:+: left ++ ('(' :: (inner ++ [')']) ++ right) :=
        ⟨left ++ ['('], ')' :: right, by simp⟩
      exact ⟨middle, hmid, hi.trans (hinner.trans hpiece), hk, ho, hv⟩
    | @comparison left middle right key value o hl hmid hr hk ho hv =>
      rw [Term.found, List.mem_singleton] at hm
      subst hm
      have hterm : key ++ (middle ++ (o.pattern.toList ++ value)) <:+:
          left ++ (key ++ (middle ++ (o.pattern.toList ++ value)) ++ right) :=
        ⟨left, right, by simp⟩
      exact ⟨middle, hmid, hterm.trans hpiece, hk, ho, hv⟩

theorem infix_argument (o : Operator) (value : List Char) : argument o value <:+: value := by
  unfold argument
  split
  · exact (List.dropLast_prefix _).isInfix.trans (List.tail_suffix _).isInfix
  · exact List.infix_rfl

end Grammar

/-! ### Reading, then writing -/

/-- What the first operator for the pattern of a comparison writes. -/
def Dialect.leaf (d : Dialect) (x : Comparison) : String :=
  ((d.operator? x.operator).map fun o => o.format x.key x.value).getD ""

/-- An operator that is found in a term is the one that its pattern is looked up as. -/
theorem OperatorMatch.operator?_of_find {d : Dialect} {term : List Char} {m : OperatorMatch}
    (h : find d.operators term = .ok m) : d.operator? m.operator.pattern = some m.operator := by
  obtain ⟨s, -, -, -, -, hf, -⟩ := find_eq_ok_iff.1 h
  rw [Operator.pattern_of_find? hf]
  exact hf

namespace Parser

variable {p : Parser} {policy : KeyPolicy} {query : String} {c : Condition}

theorem exists_found_of_parse (h : p.parse query policy = .ok c) :
    ∃ as, Grammar.Derives p.dialect.operators p.maxDepth (Escape.encode query.toList) as ∧
      c.comparisons = (Grammar.found as).map p.comparisonOf ∧
      ∀ m ∈ Grammar.found as, ∃ term, Reaches (Escape.encode query.toList) .term term ∧
        OperatorMatch.find p.dialect.operators term = .ok m := by
  obtain ⟨as, has, rfl⟩ := exists_derives_of_readNested h
  refine ⟨as, has, ?_, fun m hm => Grammar.exists_find_of_derives has hm⟩
  rw [Grammar.Term.comparisons_condition, Grammar.Term.found_group]

/-- Each comparison that is read is written in the query, with its parts in their order. -/
theorem exists_comparison_of_parse {x : Comparison} (h : p.parse query policy = .ok c)
    (hx : x ∈ c.comparisons) : ∃ m middle, x = p.comparisonOf m ∧ Blank middle ∧
      m.key ++ (middle ++ (m.operator.pattern.toList ++ m.value)) <:+: Escape.encode query.toList ∧
      Grammar.IsKey m.key ∧ Grammar.IsOperator p.dialect.operators m.operator ∧
      Grammar.IsValue m.value := by
  obtain ⟨as, has, hc, -⟩ := exists_found_of_parse h
  rw [hc] at hx
  obtain ⟨m, hm, rfl⟩ := List.mem_map.1 hx
  obtain ⟨middle, hparts⟩ :=
    @Grammar.Inside.exists_comparison _ _ m (p.maxDepth + 1) as has hm
  exact ⟨m, middle, rfl, hparts⟩

theorem renderComparison_of_parse (h : p.parse query policy = .ok c) :
    ∀ x ∈ c.comparisons, p.dialect.renderComparison x = .ok (p.dialect.leaf x) := by
  obtain ⟨as, -, hc, hfind⟩ := exists_found_of_parse h
  intro x hx
  rw [hc] at hx
  obtain ⟨m, hm, rfl⟩ := List.mem_map.1 hx
  obtain ⟨term, -, hf⟩ := hfind m hm
  have ho : p.dialect.operator? (p.comparisonOf m).operator = some m.operator :=
    OperatorMatch.operator?_of_find hf
  simp [Dialect.renderComparison, Dialect.leaf, ho]

theorem render_of_parse (h : p.parse query policy = .ok c) :
    p.dialect.render c = .ok (p.dialect.write p.dialect.leaf c) :=
  Dialect.render_of_forall (renderComparison_of_parse h)

theorem process_eq_of_parse (h : p.parse query policy = .ok c) :
    p.process query policy = p.dialect.render c := by
  rw [process, h]
  rfl

theorem process_eq_error_iff {e : QueryError} :
    p.process query policy = .error e ↔ p.parse query policy = .error e := by
  refine ⟨fun h => ?_, fun h => bind_eq_error_iff.2 (.inl h)⟩
  rcases bind_eq_error_iff.1 h with h | ⟨c, hc, h⟩
  · exact h
  · rw [render_of_parse hc] at h
    simp at h

end Parser

/-- A query is refused when it is processed exactly if it is refused when it is read, and for the
same cause. What is read is written with the operators that reading has found: each comparison comes
from a term of the query, and the operator that is found there, which takes a list or not, also
gives the text of the comparison. -/
theorem process_of_parse (p : Parser) (policy : KeyPolicy) (query : String) :
    (∀ e, p.process query policy = .error e ↔ p.parse query policy = .error e) ∧
    ∀ c, p.parse query policy = .ok c →
      ∃ as leaf, Grammar.Derives p.dialect.operators p.maxDepth (Escape.encode query.toList) as ∧
        c.comparisons = (Grammar.found as).map p.comparisonOf ∧
        p.dialect.render c = .ok (p.dialect.write leaf c) ∧
        p.process query policy = .ok (p.dialect.write leaf c) ∧
        ∀ m ∈ Grammar.found as,
          (∃ term, Reaches (Escape.encode query.toList) .term term ∧
            OperatorMatch.find p.dialect.operators term = .ok m) ∧
          p.dialect.operator? (p.comparisonOf m).operator = some m.operator ∧
          leaf (p.comparisonOf m) =
            m.operator.format (p.comparisonOf m).key (p.comparisonOf m).value := by
  refine ⟨fun e => Parser.process_eq_error_iff, fun c h => ?_⟩
  obtain ⟨as, has, hc, hfind⟩ := Parser.exists_found_of_parse h
  have hrender := Parser.render_of_parse h
  refine ⟨as, p.dialect.leaf, has, hc, hrender, (Parser.process_eq_of_parse h).trans hrender,
    fun m hm => ?_⟩
  obtain ⟨term, hr, hf⟩ := hfind m hm
  have ho : p.dialect.operator? (p.comparisonOf m).operator = some m.operator :=
    OperatorMatch.operator?_of_find hf
  exact ⟨⟨term, hr, hf⟩, ho, by simp [Dialect.leaf, ho]⟩

/-- A parser with two further operators for the token of equality. The first one takes a list. -/
def Parser.shadowed : Parser :=
  .make .mysql [{ Relation.equal.operator fun key value => key ++ " LIKE " ++ value with
      isList := true },
    Relation.equal.operator fun key value => key ++ " IS " ++ value] [] 32

theorem process_of_parse_shadowed :
    Parser.shadowed.parse "a==(1)" .unrestricted = .ok (.comparison ⟨"a", "==", "1"⟩) ∧
    Parser.shadowed.process "a==(1)" .unrestricted = .ok "a LIKE 1" := by
  have h : Parser.shadowed.parse "a==(1)" .unrestricted =
      .ok (.comparison ⟨"a", "==", "1"⟩) := by cbv
  obtain ⟨as, leaf, -, hc, -, hp, hfound⟩ :=
    (process_of_parse .shadowed .unrestricted "a==(1)").2 _ h
  refine ⟨h, hp.trans ?_⟩
  have hx : ⟨"a", "==", "1"⟩ ∈ (Grammar.found as).map Parser.shadowed.comparisonOf := by
    rw [← hc]
    simp [Condition.comparisons]
  obtain ⟨m, hm, hx⟩ := List.mem_map.1 hx
  obtain ⟨-, ho, hleaf⟩ := hfound m hm
  rw [hx] at ho hleaf
  have ho : m.operator.format = fun key value => key ++ " LIKE " ++ value := by
    rw [← Option.some.inj ho]
    rfl
  rw [Dialect.write, hleaf, ho]
  rfl

end FilterQuery
