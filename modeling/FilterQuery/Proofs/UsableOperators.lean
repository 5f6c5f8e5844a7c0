import FilterQuery.Proofs.KeyFilter
import FilterQuery.Proofs.LiveCharacters
import FilterQuery.Proofs.Rendering
import FilterQuery.Proofs.Spelling

/-!
# Operators that a query can use

A token may hold any characters between its ends but `=` and parentheses, so an operator can be
registered for a pattern that no query can hold. A separator in the pattern cuts every term that it
stands in, and a backslash before the last `=` makes an escape pair of the two. These are the only
obstacles (`exists_parse_iff`): the pattern of an operator that is met is a part of the encoded
query, and any other pattern stands for itself after a key of one letter.
-/

namespace FilterQuery

open Escape

variable {p : Parser} {policy : KeyPolicy} {query : String} {c : Condition} {x : Comparison}

/-! ### Patterns that are met -/

theorem Parser.operator_of_parse (h : p.parse query policy = .ok c) (hx : x ∈ c.comparisons) :
    Terms.orSeparator ∉ x.operator.toList ∧ Terms.andSeparator ∉ x.operator.toList ∧
      Unpaired x.operator.toList := by
  obtain ⟨m, middle, rfl, -, hi, -, ho, -⟩ := exists_comparison_of_parse h hx
  refine ⟨ho.orSeparator, ho.andSeparator, (unpaired_encode query.toList).of_isInfix ?_⟩
  have hm : m.operator.pattern.toList <:+:
      m.key ++ (middle ++ (m.operator.pattern.toList ++ m.value)) :=
    ⟨m.key ++ middle, m.value, by simp⟩
  exact hm.trans hi

theorem not_isSuffix_of_unpaired {text : List Char} (h : Unpaired text) :
    ¬['\\', '='] <:+ text := by
  intro hs
  exact unpaired_iff.1 h '=' (by simp) hs.isInfix

/-! ### Patterns that can be met -/

theorem Parser.parse_spell_comparison (hs : x.Spellable p.dialect.operators) :
    p.parse (String.ofList (Condition.comparison x).spell) .unrestricted =
      .ok (.comparison { x with key := p.transformKey x.key }) := by
  have hg : (Condition.comparison x).groups ≤ p.maxDepth := by
    rw [Condition.groups]
    omega
  have hsp : ∀ y ∈ (Condition.comparison x).comparisons, y.Spellable p.dialect.operators := by
    intro y hy
    rw [Condition.comparisons, List.mem_singleton] at hy
    exact hy ▸ hs
  have hd : ∃ as, Grammar.Derives p.dialect.operators p.maxDepth
      (encode (Condition.comparison x).spell) as ∧ Grammar.condition as = .comparison x :=
    (Condition.exists_derivation (.comparison x) hsp hg).2
  have hf := p.filters_readNested .unrestricted p.maxDepth (encode (Condition.comparison x).spell)
  have hplain := (@Grammar.readNested_eq_ok_iff p.plain rfl _ _ _).2 hd
  rw [hplain, Filters.ok_iff, Condition.mapKeys] at hf
  rw [parse, String.toList_ofList, hf]
  rfl

theorem isKey_letter : Grammar.IsKey "a".toList :=
  ⟨by decide, ⟨by simp; decide, by simp; decide⟩, by simp, by simp [isStandIn, literal?]⟩

/-- The shortest comparison with an operator: a key of one letter, and no value. -/
theorem spellable_of_mem {operators : List Operator} {o : Operator} (ho : o ∈ operators)
    (hor : Terms.orSeparator ∉ o.pattern.toList) (hand : Terms.andSeparator ∉ o.pattern.toList)
    (he : ¬['\\', '='] <:+ o.pattern.toList) :
    Comparison.Spellable operators ⟨"a", o.pattern, ""⟩ where
  key := isKey_letter
  key_last := by simp
  registered := ⟨o, ho, rfl⟩
  orSeparator := hor
  andSeparator := hand
  operator_end := he
  value := by simp
  value_blank := by simp
  value_last := by simp

/-- A registered operator can be used in a query exactly if its pattern holds no separator and its
last `=` does not come after a backslash. -/
theorem exists_parse_iff (p : Parser) (o : Operator) (ho : o ∈ p.dialect.operators) :
    (∃ query c x, p.parse query .unrestricted = .ok c ∧ x ∈ c.comparisons ∧
      x.operator = o.pattern) ↔
    ',' ∉ o.pattern.toList ∧ ';' ∉ o.pattern.toList ∧ ¬['\\', '='] <:+ o.pattern.toList := by
  constructor
  · rintro ⟨query, c, x, h, hx, he⟩
    obtain ⟨hor, hand, hu⟩ := Parser.operator_of_parse h hx
    rw [he] at hor hand hu
    exact ⟨hor, hand, not_isSuffix_of_unpaired hu⟩
  · rintro ⟨hor, hand, he⟩
    have h := Parser.parse_spell_comparison (spellable_of_mem ho hor hand he)
    refine ⟨_, _, ⟨p.transformKey "a", o.pattern, ""⟩, h, ?_, rfl⟩
    rw [Condition.comparisons]
    exact List.mem_singleton_self _

/-- A pattern with a blank and a stand-in can be used, one with a backslash at the end cannot. -/
theorem exists_parse_iff_blank :
    (∃ o : Operator, o.pattern = "= \ue002=" ∧
      ∃ query c x, (Parser.make .mysql [o] [] 0).parse query .unrestricted = .ok c ∧
        x ∈ c.comparisons ∧ x.operator = o.pattern) ∧
    ∃ o : Operator, o.pattern = "=x\\=" ∧
      ∀ query c x, (Parser.make .mysql [o] [] 0).parse query .unrestricted = .ok c →
        x ∈ c.comparisons → x.operator ≠ o.pattern := by
  have hmem (o : Operator) : o ∈ (Parser.make .mysql [o] [] 0).dialect.operators :=
    List.mem_cons_self
  have hblank : Token.isShaped "= \ue002=".toList = true :=
    @Token.isShaped_token '=' [' ', '\ue002'] rfl rfl
  have hslash : Token.isShaped "=x\\=".toList = true :=
    @Token.isShaped_token '=' ['x', '\\'] rfl rfl
  have husable : ',' ∉ "= \ue002=".toList ∧ ';' ∉ "= \ue002=".toList ∧
      ¬['\\', '='] <:+ "= \ue002=".toList := by decide
  have hend : ['\\', '='] <:+ "=x\\=".toList := by decide
  refine ⟨⟨⟨_, false, (· ++ ·), hblank⟩, rfl, ?_⟩, ⟨⟨_, false, (· ++ ·), hslash⟩, rfl, ?_⟩⟩
  · exact (exists_parse_iff _ _ (hmem _)).2 husable
  · intro query c x h hx he
    exact ((exists_parse_iff _ _ (hmem _)).1 ⟨query, c, x, h, hx, he⟩).2.2 hend

end FilterQuery
