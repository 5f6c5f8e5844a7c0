import FilterQuery.Proofs.Rendering
import FilterQuery.Settings.Build

/-!
# Operators under other names

A parser with aliases is the parser of its dialect after all tokens are replaced by what they stand
for (`parser_of_aliases`). `Settings.resolve` says what that is: the target of the first alias with
the token, or the token itself. The target is an operator of the dialect, never an alias, so aliases
may repeat, hide operators of the dialect or exchange two of them.

The operators that are registered for aliases go along with the aliases one by one
(`parser_eq_ok_iff`), so the first operator for a token belongs to the first alias with it
(`rel_find?`). It takes a list and is written like the operator that the alias resolves to
(`exists_resolved`).
-/

namespace FilterQuery

open Nesting

/-- A condition with every operator changed. -/
def Condition.mapOperators (f : String → String) : Condition → Condition
  | comparison c => comparison { c with operator := f c.operator }
  | all children => all (children.map (mapOperators f))
  | any children => any (children.map (mapOperators f))

/-- A dialect has an operator of its own for a pattern. -/
def DialectName.IsBuiltin (d : DialectName) (pattern : String) : Prop :=
  ∃ o ∈ d.dialect.operators, o.pattern = pattern

/-- The operator of a dialect for a pattern takes a list. -/
def DialectName.IsList (d : DialectName) (pattern : String) : Prop :=
  ∃ o, d.dialect.operator? pattern = some o ∧ o.isList = true

/-- What a token stands for: the target of the first alias with it, or the token itself. -/
def Settings.resolve (s : Settings) (token : String) : String :=
  ((s.operators.find? fun a => a.pattern == token).map OperatorAlias.target).getD token

theorem DialectName.isBuiltin_iff {d : DialectName} {pattern : String} :
    d.IsBuiltin pattern ↔ ∃ o, d.dialect.operator? pattern = some o :=
  Operator.exists_find?_iff.symm

/-! ### Conditions with changed operators -/

theorem Dialect.render_mapOperators {d d' : Dialect} {f : String → String} {c : Condition}
    (hconj : d.conjunction = d'.conjunction) (hdisj : d.disjunction = d'.disjunction)
    (h : ∀ x ∈ c.comparisons,
      d.renderComparison x = d'.renderComparison { x with operator := f x.operator }) :
    d.render c = d'.render (c.mapOperators f) := by
  induction c with
  | comparison x =>
    rw [render, Condition.mapOperators, render]
    exact h x (by simp [Condition.comparisons])
  | all children ih =>
    rw [Condition.comparisons, Condition.comparisonsOf_eq] at h
    have hm := mapM_congr_of_mem fun c hc =>
      ih c hc fun x hx => h x (List.mem_flatMap.2 ⟨c, hc, hx⟩)
    rw [render_all, Condition.mapOperators, render_all, List.mapM_map, hm, hconj]
    rfl
  | any children ih =>
    rw [Condition.comparisons, Condition.comparisonsOf_eq] at h
    have hm := mapM_congr_of_mem fun c hc =>
      ih c hc fun x hx => h x (List.mem_flatMap.2 ⟨c, hc, hx⟩)
    rw [render_any, Condition.mapOperators, render_any, List.mapM_map, hm, hdisj]
    rfl

/-! ### The operators for aliases -/

namespace Settings

variable {s : Settings} {a : OperatorAlias} {o : Operator} {e : SettingsError} {p : Parser}
  {token : String}

theorem aliasOperator_eq_ok_iff : s.aliasOperator a = .ok o ↔
    ∃ b, s.dialect.dialect.operator? a.target = some b ∧ o.pattern = a.pattern ∧
      o.isList = b.isList ∧ o.format = b.format := by
  unfold aliasOperator
  cases hb : s.dialect.dialect.operator? a.target with
  | none => simp
  | some b =>
    simp only [Option.some.injEq, exists_eq_left']
    rw [← Operator.make_eq_ok_iff, Operator.renamed]
    cases Operator.make a.pattern b.isList b.format <;> simp

theorem exists_aliasOperator_iff : (∃ o, s.aliasOperator a = .ok o) ↔
    s.dialect.IsBuiltin a.target ∧ IsToken a.pattern.toList := by
  rw [DialectName.isBuiltin_iff]
  constructor
  · rintro ⟨o, ho⟩
    obtain ⟨b, hb, hp, -, -⟩ := aliasOperator_eq_ok_iff.1 ho
    exact ⟨⟨b, hb⟩, hp ▸ o.isToken⟩
  · rintro ⟨⟨b, hb⟩, ht⟩
    exact ⟨⟨a.pattern, b.isList, b.format, Token.isShaped_iff.2 ht⟩,
      aliasOperator_eq_ok_iff.2 ⟨b, hb, rfl, rfl, rfl⟩⟩

theorem aliasOperator_eq_error_iff : s.aliasOperator a = .error e ↔
    ¬s.dialect.IsBuiltin a.target ∧ e = .unknownTarget a.pattern a.target ∨
      s.dialect.IsBuiltin a.target ∧ ¬IsToken a.pattern.toList ∧
        e = .invalidOperator a.pattern (.invalidPattern a.pattern) := by
  rw [DialectName.isBuiltin_iff, ← Token.isShaped_iff]
  unfold aliasOperator
  cases hb : s.dialect.dialect.operator? a.target with
  | none =>
    simp only [reduceCtorEq, exists_false, not_false_eq_true, true_and, false_and, or_false,
      Except.error.injEq]
    exact eq_comm
  | some b =>
    simp only [Option.some.injEq, exists_eq', not_true_eq_false, false_and, false_or, true_and]
    by_cases ht : Token.isShaped a.pattern.toList = true
    · have hr : b.renamed a.pattern = .ok ⟨a.pattern, b.isList, b.format, ht⟩ := dif_pos ht
      simp [hr, ht]
    · have hr : b.renamed a.pattern = .error (.invalidPattern a.pattern) := dif_neg ht
      simp only [hr, ht, Except.error.injEq, Bool.false_eq_true, not_false_eq_true, true_and]
      exact eq_comm

/-! ### The parser -/

theorem parser_eq_ok_iff : s.parser = .ok p ↔ ∃ operators,
    List.Forall₂ (fun a o => s.aliasOperator a = .ok o) s.operators operators ∧
      p = .make s.dialect.dialect operators (s.keyStyles.map KeyStyle.apply) s.maxDepth := by
  rw [parser, bind_eq_ok_iff]
  simp only [mapM_eq_ok_iff, pure, Except.pure, Except.ok.injEq]
  exact exists_congr fun _ => and_congr_right fun _ => eq_comm

theorem parser_eq_error_iff : s.parser = .error e ↔ ∃ before a after,
    s.operators = before ++ a :: after ∧ (∀ b ∈ before, ∃ o, s.aliasOperator b = .ok o) ∧
      s.aliasOperator a = .error e := by
  rw [parser, bind_eq_error_iff, mapM_eq_error_iff]
  simp [pure, Except.pure]

theorem exists_parser_iff :
    (∃ p, s.parser = .ok p) ↔ ∀ a ∈ s.operators, ∃ o, s.aliasOperator a = .ok o := by
  constructor
  · rintro ⟨p, hp⟩ a ha
    obtain ⟨operators, ho, -⟩ := parser_eq_ok_iff.1 hp
    obtain ⟨o, -, h⟩ := exists_of_forall₂ ho a ha
    exact ⟨o, h⟩
  · intro h
    cases hp : s.parser with
    | ok p => exact ⟨p, rfl⟩
    | error e =>
      obtain ⟨before, a, after, hs, -, he⟩ := parser_eq_error_iff.1 hp
      obtain ⟨o, ho⟩ := h a (by simp [hs])
      simp [ho] at he

end Settings

namespace Settings

variable {s : Settings} {o : Operator} {p : Parser} {token : String}

/-- The operator for a token takes a list and writes like the one that the token stands for. -/
theorem exists_resolved (hp : s.parser = .ok p) (ho : p.dialect.operator? token = some o) :
    ∃ b, s.dialect.dialect.operator? (s.resolve token) = some b ∧ o.isList = b.isList ∧
      o.format = b.format := by
  obtain ⟨operators, ha, rfl⟩ := parser_eq_ok_iff.1 hp
  have hrel : Option.Rel (fun a o => s.aliasOperator a = .ok o)
      (s.operators.find? fun a => a.pattern == token) (Operator.find? operators token) := by
    refine rel_find? ha fun a o h => ?_
    obtain ⟨b, -, hpat, -, -⟩ := aliasOperator_eq_ok_iff.1 h
    rw [hpat]
  rw [Parser.make, Dialect.operator?_prepend] at ho
  rw [resolve]
  generalize (s.operators.find? fun a => a.pattern == token) = first at hrel ⊢
  generalize Operator.find? operators token = found at hrel ho
  cases hrel with
  | none => exact ⟨o, ho, rfl, rfl⟩
  | some h =>
    obtain ⟨b, hb, -, hl, hf⟩ := aliasOperator_eq_ok_iff.1 h
    cases ho
    exact ⟨b, hb, hl, hf⟩

theorem exists_alias_iff {operators : List Operator}
    (ha : List.Forall₂ (fun a o => s.aliasOperator a = .ok o) s.operators operators) :
    (∃ o ∈ operators, o.pattern = token) ↔ ∃ a ∈ s.operators, a.pattern = token := by
  constructor
  · rintro ⟨o, ho, rfl⟩
    obtain ⟨a, ha, h⟩ := exists_of_forall₂ ha.flip o ho
    obtain ⟨b, -, hpat, -, -⟩ := aliasOperator_eq_ok_iff.1 h
    exact ⟨a, ha, hpat.symm⟩
  · rintro ⟨a, ha', rfl⟩
    obtain ⟨o, ho, h⟩ := exists_of_forall₂ ha a ha'
    obtain ⟨b, -, hpat, -, -⟩ := aliasOperator_eq_ok_iff.1 h
    exact ⟨o, ho, hpat⟩

theorem exists_operator?_iff (hp : s.parser = .ok p) :
    (∃ o, p.dialect.operator? token = some o) ↔
      (∃ a ∈ s.operators, a.pattern = token) ∨ s.dialect.IsBuiltin token := by
  obtain ⟨operators, ha, rfl⟩ := parser_eq_ok_iff.1 hp
  rw [← exists_alias_iff ha]
  refine Operator.exists_find?_iff.trans ?_
  simp only [Parser.make, Dialect.prepend, List.mem_append, or_and_right, exists_or]
  rfl

end Settings

/-! ### Values that are lists -/

section Values

variable {p : Parser} {m : OperatorMatch} {inner : List Char}

theorem length_eq_of_unescape {s t : List Char}
    (h : String.ofList (Escape.unescape s) = String.ofList (Escape.unescape t)) :
    s.length = t.length := by
  have := congrArg List.length (String.ofList_injective h)
  simpa [Escape.unescape] using this

theorem argument_enclosed (o : Operator) (h : Balanced inner) :
    Grammar.argument o ('(' :: (inner ++ [')'])) =
      if o.isList = true then inner else '(' :: (inner ++ [')']) := by
  rw [Grammar.argument_eq, stripListParens, enclosed?_eq_some_iff.2 ⟨rfl, h⟩]
  rfl

theorem value_comparisonOf_iff (hv : m.value = '(' :: (inner ++ [')'])) (h : Balanced inner) :
    ((p.comparisonOf m).value = String.ofList (Escape.unescape inner) ↔
      m.operator.isList = true) ∧
    ((p.comparisonOf m).value = String.ofList (Escape.unescape m.value) ↔
      ¬m.operator.isList = true) := by
  have he : (p.comparisonOf m).value = String.ofList (Escape.unescape
      (if m.operator.isList = true then inner else '(' :: (inner ++ [')']))) := by
    rw [← argument_enclosed m.operator h, ← hv]
    rfl
  rw [he, hv]
  by_cases hl : m.operator.isList = true
  · rw [if_pos hl]
    refine ⟨⟨fun _ => hl, fun _ => rfl⟩, ⟨fun he => ?_, fun hn => absurd hl hn⟩⟩
    have := length_eq_of_unescape he
    simp at this
    omega
  · rw [if_neg hl]
    refine ⟨⟨fun he => ?_, fun hn => absurd hn hl⟩, ⟨fun _ => hl, fun _ => rfl⟩⟩
    have := length_eq_of_unescape he
    simp at this
    omega

end Values

/-! ### Queries with aliases -/

section Queries

variable {s : Settings} {p : Parser} {policy : KeyPolicy} {query : String} {c : Condition}

theorem renderComparison_resolved (hp : s.parser = .ok p) {x : Comparison} {o : Operator}
    (ho : p.dialect.operator? x.operator = some o) : p.dialect.renderComparison x =
      s.dialect.dialect.renderComparison { x with operator := s.resolve x.operator } := by
  obtain ⟨b, hb, -, hf⟩ := Settings.exists_resolved hp ho
  simp [Dialect.renderComparison, ho, hb, hf]

theorem process_resolved (hp : s.parser = .ok p) (h : p.parse query policy = .ok c) :
    p.process query policy = s.dialect.dialect.render (c.mapOperators s.resolve) := by
  obtain ⟨as, -, hc, hfind⟩ := Parser.exists_found_of_parse h
  have hcmp (x : Comparison) (hx : x ∈ c.comparisons) : p.dialect.renderComparison x =
      s.dialect.dialect.renderComparison { x with operator := s.resolve x.operator } := by
    rw [hc] at hx
    obtain ⟨m, hm, rfl⟩ := List.mem_map.1 hx
    obtain ⟨term, -, hf⟩ := hfind m hm
    exact renderComparison_resolved hp (OperatorMatch.operator?_of_find hf)
  rw [Parser.process_eq_of_parse h]
  obtain ⟨operators, -, rfl⟩ := Settings.parser_eq_ok_iff.1 hp
  exact Dialect.render_mapOperators rfl rfl hcmp

theorem isList_resolve_iff (hp : s.parser = .ok p) {token : String} {o : Operator}
    (ho : p.dialect.operator? token = some o) :
    s.dialect.IsList (s.resolve token) ↔ o.isList = true := by
  obtain ⟨b, hb, hl, -⟩ := Settings.exists_resolved hp ho
  rw [hl]
  constructor
  · rintro ⟨b', hb', h⟩
    rw [hb] at hb'
    cases hb'
    exact h
  · exact fun h => ⟨b, hb, h⟩

end Queries

/-- A parser is built exactly if every alias has an operator of the dialect as its target and a
token as its pattern; otherwise the first alias without one of them is refused, a missing target
before a bad pattern. The parser knows the tokens of the aliases and those of the dialect. What it
writes is what the dialect writes once every token is replaced by what it stands for, and it takes
the parentheses around a value away exactly if the token stands for an operator that takes a list.
-/
theorem parser_of_aliases (s : Settings) :
    ((∃ p, s.parser = .ok p) ↔
      ∀ a ∈ s.operators, s.dialect.IsBuiltin a.target ∧ IsToken a.pattern.toList) ∧
    (∀ e, s.parser = .error e ↔ ∃ before a after, s.operators = before ++ a :: after ∧
      (∀ b ∈ before, s.dialect.IsBuiltin b.target ∧ IsToken b.pattern.toList) ∧
      (¬s.dialect.IsBuiltin a.target ∧ e = .unknownTarget a.pattern a.target ∨
        s.dialect.IsBuiltin a.target ∧ ¬IsToken a.pattern.toList ∧
          e = .invalidOperator a.pattern (.invalidPattern a.pattern))) ∧
    ∀ p, s.parser = .ok p →
      (∀ token, (∃ o, p.dialect.operator? token = some o) ↔
        (∃ a ∈ s.operators, a.pattern = token) ∨ s.dialect.IsBuiltin token) ∧
      ∀ policy query c, p.parse query policy = .ok c →
        p.process query policy = s.dialect.dialect.render (c.mapOperators s.resolve) ∧
        ∃ as, Grammar.Derives p.dialect.operators p.maxDepth (Escape.encode query.toList) as ∧
          c.comparisons = (Grammar.found as).map p.comparisonOf ∧
          ∀ m ∈ Grammar.found as, ∀ inner, m.value = '(' :: (inner ++ [')']) → Balanced inner →
            ((p.comparisonOf m).value = String.ofList (Escape.unescape inner) ↔
              s.dialect.IsList (s.resolve (p.comparisonOf m).operator)) ∧
            ((p.comparisonOf m).value = String.ofList (Escape.unescape m.value) ↔
              ¬s.dialect.IsList (s.resolve (p.comparisonOf m).operator)) := by
  refine ⟨?_, fun e => ?_, fun p hp => ⟨fun token => Settings.exists_operator?_iff hp, ?_⟩⟩
  · simp only [Settings.exists_parser_iff, Settings.exists_aliasOperator_iff]
  · simp only [Settings.parser_eq_error_iff, Settings.exists_aliasOperator_iff,
      Settings.aliasOperator_eq_error_iff]
  · intro policy query c h
    obtain ⟨as, has, hc, hfind⟩ := Parser.exists_found_of_parse h
    refine ⟨process_resolved hp h, as, has, hc, fun m hm inner hv hb => ?_⟩
    obtain ⟨term, -, hf⟩ := hfind m hm
    have hl : s.dialect.IsList (s.resolve (p.comparisonOf m).operator) ↔
        m.operator.isList = true :=
      isList_resolve_iff hp (OperatorMatch.operator?_of_find hf)
    rw [hl]
    exact value_comparisonOf_iff hv hb

/-- Two operators of the dialect exchanged, one of them a list operator, and an alias that is never
used. -/
theorem parser_of_aliases_swapped :
    ∃ p, ({ dialect := .mysql, operators := [⟨"==", "=in="⟩, ⟨"=in=", "=="⟩, ⟨"==", "!="⟩] } :
        Settings).parser = .ok p ∧
      p.parse "a==(1);b=in=(2)" .unrestricted =
        .ok (.all [.comparison ⟨"a", "==", "1"⟩, .comparison ⟨"b", "=in=", "(2)"⟩]) ∧
      p.process "a==(1);b=in=(2)" .unrestricted = .ok "(a IN (1) AND b = (2))" := by
  have hp : ({ dialect := .mysql, operators := [⟨"==", "=in="⟩, ⟨"=in=", "=="⟩, ⟨"==", "!="⟩] } :
      Settings).parser = .ok (.make .mysql
        [⟨"==", true, Dialect.MySql.compare .oneOf, Relation.equal.shaped_pattern⟩,
          ⟨"=in=", false, Dialect.MySql.compare .equal, Relation.oneOf.shaped_pattern⟩,
          ⟨"==", false, Dialect.MySql.compare .unequal, Relation.equal.shaped_pattern⟩] [] 32) := by
    refine Settings.parser_eq_ok_iff.2 ⟨_, ?_, rfl⟩
    refine .cons ?_ (.cons ?_ (.cons ?_ .nil))
    · exact Settings.aliasOperator_eq_ok_iff.2 ⟨_, rfl, rfl, rfl, rfl⟩
    · exact Settings.aliasOperator_eq_ok_iff.2 ⟨_, rfl, rfl, rfl, rfl⟩
    · exact Settings.aliasOperator_eq_ok_iff.2 ⟨_, rfl, rfl, rfl, rfl⟩
  have h : (Parser.make .mysql
      [⟨"==", true, Dialect.MySql.compare .oneOf, Relation.equal.shaped_pattern⟩,
        ⟨"=in=", false, Dialect.MySql.compare .equal, Relation.oneOf.shaped_pattern⟩,
        ⟨"==", false, Dialect.MySql.compare .unequal, Relation.equal.shaped_pattern⟩] [] 32).parse
      "a==(1);b=in=(2)" .unrestricted =
      .ok (.all [.comparison ⟨"a", "==", "1"⟩, .comparison ⟨"b", "=in=", "(2)"⟩]) := by
    cbv
  refine ⟨_, hp, h, ?_⟩
  rw [(((parser_of_aliases _).2.2 _ hp).2 _ _ _ h).1]
  cbv

end FilterQuery
