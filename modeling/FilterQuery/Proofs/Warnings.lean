import FilterQuery.Proofs.Aliases

/-!
# What warnings say about the parser

Each warning is about one part of the settings, and the parser that is built from them behaves as
the warning says (`parser_agrees_with_warnings`).

* No key is admitted by an empty list of allowed keys, and every query that is read has a key
  (`Condition.Normal.comparisons_ne_nil`), so no query is processed.
* A key on both lists is refused, and of the allowed keys no other one.
* The operators for aliases come first, so a token of the dialect is hidden if an alias has it.
* Without groups, a term of a query that is read never starts with a parenthesis.
-/

namespace FilterQuery

open Nesting Reading

/-! ### When there is a warning -/

namespace Settings

variable {s : Settings} {key pattern : String}

theorem emptyAllowList_mem_warnings_iff : .emptyAllowList ∈ s.warnings ↔ s.allowed = some [] := by
  unfold warnings keyWarnings aliasWarnings depthWarnings
  cases s.allowed with
  | none => simp
  | some keys => cases keys <;> simp

theorem keyAllowedAndForbidden_mem_warnings_iff :
    .keyAllowedAndForbidden key ∈ s.warnings ↔ ∃ allowed forbidden, s.allowed = some allowed ∧
      s.forbidden = some forbidden ∧ key ∈ allowed ∧ key ∈ forbidden := by
  unfold warnings keyWarnings aliasWarnings depthWarnings
  cases s.allowed with
  | none => simp
  | some keys => cases s.forbidden <;> simp

theorem aliasShadowsBuiltin_mem_warnings_iff : .aliasShadowsBuiltin pattern ∈ s.warnings ↔
    (∃ a ∈ s.operators, a.pattern = pattern) ∧ s.dialect.IsBuiltin pattern := by
  have hmem : .aliasShadowsBuiltin pattern ∈ s.warnings ↔
      .aliasShadowsBuiltin pattern ∈ s.aliasWarnings := by
    unfold warnings keyWarnings depthWarnings
    cases s.allowed <;> simp
  rw [hmem, aliasWarnings, List.mem_map]
  simp only [List.mem_filter, Option.isSome_iff_exists, ← DialectName.isBuiltin_iff]
  constructor
  · rintro ⟨a, ⟨ha, hb⟩, he⟩
    obtain rfl := Warning.aliasShadowsBuiltin.inj he
    exact ⟨⟨a, ha, rfl⟩, hb⟩
  · rintro ⟨⟨a, ha, rfl⟩, hb⟩
    exact ⟨a, ⟨ha, hb⟩, rfl⟩

theorem groupingDisabled_mem_warnings_iff : .groupingDisabled ∈ s.warnings ↔ s.maxDepth = 0 := by
  unfold warnings keyWarnings aliasWarnings depthWarnings
  cases s.allowed <;> simp

end Settings

/-! ### What the parser does -/

/-- What a text in some role is like in a text without groups. -/
def Reading.Flat (text : List Char) : Role → List Char → Prop
  | .level, part => part = text
  | .alternative, part => ∃ alternatives, Terms.splitOr text = .ok alternatives ∧
      part ∈ alternatives
  | .term, part => part.head? ≠ some '('

theorem Condition.Normal.comparisons_ne_nil {c : Condition} (h : c.Normal) :
    c.comparisons ≠ [] := by
  have hchild {children : List Condition} (two : 2 ≤ children.length)
      (each : ∀ d ∈ children, d.comparisons ≠ []) : comparisonsOf children ≠ [] := by
    rw [comparisonsOf_eq]
    obtain ⟨d, hd⟩ := List.exists_mem_of_length_pos (Nat.lt_of_lt_of_le Nat.zero_lt_two two)
    obtain ⟨x, hx⟩ := List.exists_mem_of_ne_nil _ (each d hd)
    exact List.ne_nil_of_mem (List.mem_flatMap.2 ⟨d, hd, hx⟩)
  induction h with
  | comparison c => simp [comparisons]
  | all two _ _ ih =>
    rw [comparisons]
    exact hchild two ih
  | any two _ _ ih =>
    rw [comparisons]
    exact hchild two ih

section Reading

variable {p : Parser} {policy : KeyPolicy} {query : String} {c : Condition} {text term : List Char}

theorem Parser.parse_of_allowed_nil (h : policy.allowed = some []) :
    ∃ e, p.parse query policy = .error e := by
  cases hp : p.parse query policy with
  | error e => exact ⟨e, rfl⟩
  | ok c =>
    obtain ⟨x, hx⟩ := List.exists_mem_of_ne_nil _ (readNested_normal hp).comparisons_ne_nil
    have hadmits := Parser.admits_of_parse hp x hx
    have := hadmits.1 [] h
    simp at this

section Flat

variable {enter : List Char → Except QueryError Condition}
  (hno : ∀ inner c, enter inner ≠ .ok c)

include hno

theorem head?_of_readTerm (h : p.readTerm policy enter term = .ok c) : term.head? ≠ some '(' := by
  intro hhead
  obtain ⟨text, rfl⟩ := List.head?_eq_some_iff.1 hhead
  rw [Parser.readTerm_eq] at h
  obtain ⟨shape, hs, h⟩ := bind_eq_ok_iff.1 h
  cases shape with
  | group inner => exact hno inner c h
  | listArgument => exact (TermShape.of_eq_comparison_iff.1 (.inl hs)).1 text rfl
  | plain => exact (TermShape.of_eq_comparison_iff.1 (.inr hs)).1 text rfl

theorem head?_of_readLevel (h : p.readLevel policy enter text = .ok c)
    {alternatives terms : List (List Char)} {alternative : List Char}
    (ho : Terms.splitOr text = .ok alternatives) (hm : alternative ∈ alternatives)
    (ha : Terms.splitAnd alternative = .ok terms) (ht : term ∈ terms) : term.head? ≠ some '(' := by
  rw [Parser.readLevel_eq, ho] at h
  obtain ⟨cs, hcs, -⟩ := map_eq_ok_iff.1 h
  obtain ⟨d, -, hd⟩ := exists_of_forall₂ (mapM_eq_ok_iff.1 hcs) alternative hm
  rw [Parser.readAlternative_eq, ha] at hd
  obtain ⟨ds, hds, -⟩ := map_eq_ok_iff.1 hd
  obtain ⟨d', -, hd'⟩ := exists_of_forall₂ (mapM_eq_ok_iff.1 hds) term ht
  exact head?_of_readTerm hno hd'

/-- If no group can be entered, then one level is all that is reached. -/
theorem flat_of_reaches (h : p.readLevel policy enter text = .ok c) {role : Role}
    {part : List Char} (hr : Reaches text role part) : Flat text role part := by
  induction hr with
  | start => rfl
  | alternative _ hs hm ih =>
    cases ih
    exact ⟨_, hs, hm⟩
  | term _ hs hm ih =>
    obtain ⟨alternatives, ho, ha⟩ := ih
    exact head?_of_readLevel hno h ho ha hs hm
  | group _ hs ih =>
    rw [(TermShape.of_eq_group_iff.1 hs).1] at ih
    exact absurd rfl ih

end Flat

end Reading

theorem KeyPolicy.exists_check_error_iff {policy : KeyPolicy} {key : String} :
    (∃ e, policy.check key = .error e) ↔ ¬policy.Admits key := by
  rw [← check_eq_ok_iff_admits]
  cases policy.check key with
  | ok u => simp
  | error e => simp

/-- The first operator for a pattern is one of the first operators if those have one for it. -/
theorem findIdx_append_lt_iff {first second : List Operator} {pattern : String} :
    (first ++ second).findIdx (fun o => o.pattern == pattern) < first.length ↔
      ∃ o ∈ first, o.pattern = pattern := by
  have hfirst : first.findIdx (fun o => o.pattern == pattern) < first.length ↔
      ∃ o ∈ first, o.pattern = pattern := by
    rw [List.findIdx_lt_length]
    simp
  rw [← hfirst, List.findIdx_append]
  split
  · rfl
  · omega

/-- What the warnings about settings say of the parser that is built from them. With an empty list
of allowed keys no query is processed. Of the allowed keys, those are refused that are forbidden
too. The first operator for a token of the dialect is one of those for the aliases, which come
before the dialect's own, if an alias takes the token. Groups are disabled by the limit zero, and
then no term of a query that is read starts with a parenthesis. -/
theorem parser_agrees_with_warnings {s : Settings} {p : Parser} (hp : s.parser = .ok p) :
    (.emptyAllowList ∈ s.warnings → ∀ query, ∃ e, p.process query s.policy = .error e) ∧
    (∀ keys, s.allowed = some keys → ∀ key ∈ keys,
      ((∃ e, s.policy.check key = .error e) ↔ .keyAllowedAndForbidden key ∈ s.warnings)) ∧
    (∃ aliases, List.Forall₂ (fun a o => s.aliasOperator a = .ok o) s.operators aliases ∧
      p.dialect.operators = aliases ++ s.dialect.dialect.operators ∧
      ∀ pattern, s.dialect.IsBuiltin pattern →
        (p.dialect.operators.findIdx (fun o => o.pattern == pattern) < aliases.length ↔
          .aliasShadowsBuiltin pattern ∈ s.warnings)) ∧
    (.groupingDisabled ∈ s.warnings ↔ p.maxDepth = 0) ∧
    (.groupingDisabled ∈ s.warnings → ∀ policy query c, p.parse query policy = .ok c →
      ∀ term, Reaches (Escape.encode query.toList) .term term → term.head? ≠ some '(') := by
  obtain ⟨aliases, ha, hmake⟩ := Settings.parser_eq_ok_iff.1 hp
  have hdepth : p.maxDepth = s.maxDepth := by rw [hmake, Parser.make]
  have hoperators : p.dialect.operators = aliases ++ s.dialect.dialect.operators := by
    rw [hmake, Parser.make, Dialect.prepend]
  refine ⟨fun hw query => ?_, fun keys hk key hkey => ?_, ⟨aliases, ha, ?_, fun pattern hb => ?_⟩,
    ?_, fun hw policy query c hc term hr => ?_⟩
  · have hallowed : s.policy.allowed = some [] := Settings.emptyAllowList_mem_warnings_iff.1 hw
    obtain ⟨e, he⟩ := @Parser.parse_of_allowed_nil p s.policy query hallowed
    exact ⟨e, bind_eq_error_iff.2 (.inl he)⟩
  · rw [KeyPolicy.exists_check_error_iff, Settings.keyAllowedAndForbidden_mem_warnings_iff]
    have hkeys : s.policy.Admits key ↔ ∀ forbidden, s.forbidden = some forbidden →
        key ∉ forbidden := by
      refine and_iff_right fun allowed h => ?_
      rw [Settings.policy, hk, Option.some.injEq] at h
      exact h ▸ hkey
    rw [hkeys]
    simp only [not_forall, not_not, exists_prop]
    constructor
    · rintro ⟨forbidden, hf, hm⟩
      exact ⟨keys, forbidden, hk, hf, hkey, hm⟩
    · rintro ⟨-, forbidden, -, hf, -, hm⟩
      exact ⟨forbidden, hf, hm⟩
  · exact hoperators
  · rw [Settings.aliasShadowsBuiltin_mem_warnings_iff, and_iff_left hb,
      ← Settings.exists_alias_iff ha, hoperators]
    exact findIdx_append_lt_iff
  · rw [hdepth]
    exact Settings.groupingDisabled_mem_warnings_iff
  · have hzero : p.maxDepth = 0 := hdepth.trans (Settings.groupingDisabled_mem_warnings_iff.1 hw)
    rw [Parser.parse, hzero, Parser.readNested] at hc
    exact flat_of_reaches (fun _ _ h => by simp at h) hc hr

/-- Settings with a forbidden key among the allowed ones, an alias that takes the token of equality,
and no groups. -/
def Settings.warned : Settings where
  maxDepth := 0
  allowed := some ["a", "b"]
  forbidden := some ["b"]
  operators := [⟨"==", "=in="⟩]

theorem parser_agrees_with_warnings_warned :
    (∃ p, Settings.warned.parser = .ok p ∧
      (∃ e, Settings.warned.policy.check "b" = .error e) ∧
      p.dialect.operators.findIdx (fun o => o.pattern == "==") < 1 ∧ p.maxDepth = 0 ∧
      p.parse "a==(1)" Settings.warned.policy = .ok (.comparison ⟨"a", "==", "1"⟩) ∧
      ∀ term, Reaches (Escape.encode "a==(1)".toList) .term term → term.head? ≠ some '(') ∧
    ∃ p, ({ allowed := some [] } : Settings).parser = .ok p ∧
      ∀ query, ∃ e, p.process query ⟨some [], none⟩ = .error e := by
  constructor
  · have hp : Settings.warned.parser = .ok (.make .mongo
        [⟨"==", true, Dialect.Mongo.compare .oneOf, Relation.equal.shaped_pattern⟩] [] 0) := by
      refine Settings.parser_eq_ok_iff.2 ⟨_, ?_, rfl⟩
      refine .cons ?_ .nil
      exact Settings.aliasOperator_eq_ok_iff.2 ⟨_, rfl, rfl, rfl, rfl⟩
    have hparse : (Parser.make .mongo
        [⟨"==", true, Dialect.Mongo.compare .oneOf, Relation.equal.shaped_pattern⟩] [] 0).parse
        "a==(1)" Settings.warned.policy = .ok (.comparison ⟨"a", "==", "1"⟩) := by cbv
    obtain ⟨-, hkeys, ⟨aliases, ha, -, hshadow⟩, hgroups, hterms⟩ := parser_agrees_with_warnings hp
    have hlength : aliases.length = 1 := ha.length_eq.symm
    have hbuiltin : Settings.warned.dialect.IsBuiltin "==" :=
      ⟨_, List.mem_map.2 ⟨.equal, Relation.mem_every .equal, rfl⟩, rfl⟩
    refine ⟨_, hp, ?_, ?_, ?_, hparse, ?_⟩
    · exact (hkeys ["a", "b"] rfl "b" (by simp)).2 (by decide)
    · rw [← hlength]
      exact (hshadow "==" hbuiltin).2 (by decide)
    · exact hgroups.1 (by decide)
    · exact hterms (by decide) _ _ _ hparse
  · have hp : ({ allowed := some [] } : Settings).parser = .ok (.make .mongo [] [] 32) := rfl
    exact ⟨_, hp, (parser_agrees_with_warnings hp).1 (by decide)⟩

end FilterQuery
