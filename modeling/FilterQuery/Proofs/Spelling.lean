import FilterQuery.Proofs.Escaping
import FilterQuery.Proofs.Grammar
import FilterQuery.Proofs.NormalForm
import Mathlib.Data.List.MinMax

/-!
# Spelling conditions as queries

`Condition.spell` writes a condition as a query: a comparison with its value escaped, a conjunction
with `;` between its parts and parentheses around those that are disjunctions, a disjunction with
`,` between its parts. A condition in normal form whose comparisons can be spelled is read back
unchanged (`parse_spell`).

The spelling is derived in the grammar. Encoding goes through it part by part, since no part ends
with a backslash (`exists_joined_encode`), and leaves keys, operators and separators as they are
(`Comparison.Spellable.encode_spell`).
-/

namespace FilterQuery

open Nesting Grammar Escape

namespace Condition

/-- A condition as a query. -/
def spell : Condition → List Char
  | comparison c => c.key.toList ++ (c.operator.toList ++ escaped c.value.toList)
  | all children => [Terms.andSeparator].intercalate
    (children.map fun c => if c.isAny then '(' :: (spell c ++ [')']) else spell c)
  | any children => [Terms.orSeparator].intercalate (children.map spell)

/-- A condition as a term of a query: a disjunction is a group. -/
def spellTerm (c : Condition) : List Char :=
  if c.isAny then '(' :: (spell c ++ [')']) else spell c

/-- How many groups stand inside each other in the spelling of a condition. -/
def groups : Condition → Nat
  | comparison _ => 0
  | all children => (children.map fun c => if c.isAny then groups c + 1 else groups c).foldr max 0
  | any children => (children.map groups).foldr max 0

theorem spell_all (children : List Condition) :
    spell (all children) = [Terms.andSeparator].intercalate (children.map spellTerm) := by
  rw [spell]
  rfl

theorem groups_le_all {children : List Condition} {c : Condition} (h : c ∈ children) :
    (if c.isAny then c.groups + 1 else c.groups) ≤ (all children).groups := by
  rw [groups]
  exact List.le_max_of_le' 0 (List.mem_map.2 ⟨c, h, rfl⟩) (Nat.le_refl _)

theorem groups_le_any {children : List Condition} {c : Condition} (h : c ∈ children) :
    c.groups ≤ (any children).groups := by
  rw [groups]
  exact List.le_max_of_le' 0 (List.mem_map.2 ⟨c, h, rfl⟩) (Nat.le_refl _)

theorem mem_comparisonsOf {children : List Condition} {x : Comparison} {c : Condition}
    (hc : c ∈ children) (hx : x ∈ c.comparisons) : x ∈ comparisonsOf children := by
  induction children with
  | nil => simp at hc
  | cons d children ih =>
    rw [comparisonsOf, List.mem_append]
    rcases List.mem_cons.1 hc with rfl | hc
    · exact .inl hx
    · exact .inr (ih hc)

end Condition

/-- A comparison that can be written as a term: its key and its operator stand for themselves, and
no escape pair is made where its parts meet other text. -/
structure Comparison.Spellable (operators : List Operator) (c : Comparison) : Prop where
  key : IsKey c.key.toList
  key_last : c.key.toList.getLast? ≠ some '\\'
  registered : ∃ o ∈ operators, o.pattern = c.operator
  orSeparator : Terms.orSeparator ∉ c.operator.toList
  andSeparator : Terms.andSeparator ∉ c.operator.toList
  operator_end : ¬['\\', '='] <:+ c.operator.toList
  value : ∀ d ∈ c.value.toList, isStandIn d = false
  value_blank : ∀ d, c.value.toList.getLast? = some d → isBlank d = false
  value_last : c.value.toList.getLast? ≠ some '\\'

/-! ### Comparisons -/

section Comparison

variable {operators : List Operator} {c : Comparison} {text : List Char}

theorem encode_pattern (o : Operator) (hor : Terms.orSeparator ∉ o.pattern.toList)
    (hand : Terms.andSeparator ∉ o.pattern.toList)
    (he : ¬['\\', '='] <:+ o.pattern.toList) :
    encode o.pattern.toList = o.pattern.toList := by
  obtain ⟨c, inner, hp, hc, hi⟩ := o.isToken
  rw [hp] at hor hand he ⊢
  have hc' : c ≠ '\\' := by rintro rfl; simp [Token.isStart] at hc
  have hl : inner.getLast? ≠ some '\\' := by
    rw [ne_eq, List.getLast?_eq_some_iff]
    rintro ⟨start, rfl⟩
    exact he ⟨c :: start, by simp⟩
  have hn : ∀ d ∈ inner, standIn? d = none := by
    intro d hd
    have hi := List.all_eq_true.1 hi d hd
    have h₁ : d ≠ ',' := fun h => hor (List.mem_cons_of_mem _ (List.mem_append_left _ (h ▸ hd :)))
    have h₂ : d ≠ ';' := fun h => hand (List.mem_cons_of_mem _ (List.mem_append_left _ (h ▸ hd :)))
    simp only [Token.isInner, Bool.not_eq_true', Bool.or_eq_false_iff, beq_eq_false_iff_ne] at hi
    simp [standIn?_eq_none_iff, h₁, h₂, hi]
  rw [encode_cons_of_ne hc', encode_append hl, encode_of_standIn? hn]
  rfl

theorem getLast?_pattern (o : Operator) : o.pattern.toList.getLast? = some '=' := by
  obtain ⟨c, inner, hp, -, -⟩ := o.isToken
  rw [hp, ← List.cons_append, List.getLast?_concat]

theorem isValue_marked (h : ∀ d, text.getLast? = some d → isBlank d = false) :
    IsValue (marked text) := by
  have hn {d : Char} (hd : d ∈ marked text) : d ∉ ['(', ')', ',', ';', '='] :=
    standIn?_eq_none_iff.1 (standIn?_of_mem_marked hd)
  have hp : ∀ d ∈ marked text, isParen d = false := by
    intro d hd
    have := hn hd
    simp_all [isParen]
  refine ⟨whole_of_not_isParen hp fun hd => hn hd (by simp [Terms.orSeparator]),
    whole_of_not_isParen hp fun hd => hn hd (by simp [Terms.andSeparator]), fun d hd => ?_⟩
  rw [marked, List.getLast?_map, Option.map_eq_some_iff] at hd
  obtain ⟨e, he, rfl⟩ := hd
  cases hs : standIn? e with
  | none => exact h e he
  | some p =>
    have hm := isStandIn_iff.1 (isStandIn_of_standIn? hs)
    simp only [List.mem_cons, List.not_mem_nil, or_false] at hm
    rw [Option.getD_some]
    rcases hm with rfl | rfl | rfl | rfl | rfl <;> decide

/-- A marked value has no parentheses to lose. -/
theorem argument_marked (o : Operator) : argument o (marked text) = marked text := by
  rw [argument, if_neg]
  rintro ⟨-, hh, -, -⟩
  exact standIn?_eq_none_iff.1 (standIn?_of_mem_marked (List.mem_of_head? hh)) (by simp)

namespace Comparison.Spellable

theorem exists_operator (h : c.Spellable operators) :
    ∃ o, IsOperator operators o ∧ o.pattern = c.operator := by
  obtain ⟨o, ho⟩ := Operator.exists_find?_iff.2 h.registered
  have hp := Operator.pattern_of_find? ho
  exact ⟨o, ⟨hp ▸ ho, hp ▸ h.orSeparator, hp ▸ h.andSeparator⟩, hp⟩

theorem encode_spell (h : c.Spellable operators) : encode (Condition.comparison c).spell =
    c.key.toList ++ (c.operator.toList ++ marked c.value.toList) := by
  obtain ⟨o, ho, hp⟩ := h.exists_operator
  have hn : ∀ d ∈ c.key.toList, standIn? d = none := by
    intro d hd
    have := h.key.plain d hd
    simp_all [standIn?_eq_none_iff]
  rw [Condition.spell, encode_append h.key_last, encode_of_standIn? hn, ← hp,
    encode_append (by simp [getLast?_pattern]), encode_escaped,
    encode_pattern o ho.orSeparator ho.andSeparator (hp ▸ h.operator_end)]

theorem getLast?_spell (h : c.Spellable operators) :
    (Condition.comparison c).spell.getLast? ≠ some '\\' := by
  obtain ⟨o, -, hp⟩ := h.exists_operator
  rw [Condition.spell, List.getLast?_append, List.getLast?_append, getLast?_escaped, ← hp,
    getLast?_pattern]
  cases hv : c.value.toList.getLast? with
  | none => simp
  | some d => simpa [hv] using h.value_last

theorem exists_term (h : c.Spellable operators) (Body : List Char → List (List Term) → Prop) :
    ∃ t, IsTerm operators Body (encode (Condition.comparison c).spell) t ∧
      t.condition = .comparison c := by
  obtain ⟨o, ho, hp⟩ := h.exists_operator
  refine ⟨.comparison c.key.toList o (marked c.value.toList), ?_, ?_⟩
  · have ht : IsTerm operators Body
        ([] ++ (c.key.toList ++ ([] ++ (o.pattern.toList ++ marked c.value.toList)) ++ []))
        (.comparison c.key.toList o (marked c.value.toList)) :=
      .comparison Blank.nil Blank.nil Blank.nil h.key ho (isValue_marked h.value_blank)
    simpa [h.encode_spell, hp] using ht
  · rw [Term.condition_comparison, argument_marked, unescape_marked h.value, hp]
    simp

end Comparison.Spellable

end Comparison

/-! ### Joined parts -/

theorem getLast?_intercalate {separator : Char} (hs : separator ≠ '\\') {texts : List (List Char)}
    (h : ∀ t ∈ texts, t.getLast? ≠ some '\\') :
    ([separator].intercalate texts).getLast? ≠ some '\\' := by
  induction texts with
  | nil => simp [List.intercalate]
  | cons t texts ih =>
    have ih := ih fun u hu => h u (by simp [hu])
    cases texts with
    | nil => simpa [List.intercalate] using h t (by simp)
    | cons u texts =>
      rw [List.intercalate_cons_cons, List.append_assoc, List.singleton_append,
        List.getLast?_append_cons, List.getLast?_cons]
      cases hl : ([separator].intercalate (u :: texts)).getLast? with
      | none => simpa using hs
      | some c => simpa [hl] using ih

theorem exists_joined_encode {α β : Type} {separator : Char} (hs : separator ≠ '\\')
    {Part : List Char → α → Prop} {write : β → List Char} {read : α → β} {bs : List β}
    (hne : bs ≠ []) (h : ∀ b ∈ bs, (∃ a, Part (encode (write b)) a ∧ read a = b) ∧
      (write b).getLast? ≠ some '\\') :
    ∃ as, Joined separator Part (encode ([separator].intercalate (bs.map write))) as ∧
      as.map read = bs := by
  induction bs with
  | nil => exact absurd rfl hne
  | cons b bs ih =>
    obtain ⟨⟨a, ha, rfl⟩, hl⟩ := h b (by simp)
    cases bs with
    | nil => exact ⟨[a], .last (by simpa [List.intercalate] using ha), rfl⟩
    | cons b' bs =>
      obtain ⟨as, has, he⟩ := ih (by simp) fun b hb => h b (by simp [hb])
      refine ⟨a :: as, ?_, by rw [List.map_cons, he]⟩
      rw [List.map_cons, List.map_cons, List.intercalate_cons_cons, List.append_assoc,
        List.singleton_append, encode_append_cons hl hs,
        ← List.map_cons]
      exact .cons ha has

/-! ### Conditions -/

namespace Condition

variable {operators : List Operator} {c : Condition} {depth : Nat}

theorem getLast?_spellTerm (h : c.spell.getLast? ≠ some '\\') :
    c.spellTerm.getLast? ≠ some '\\' := by
  rw [spellTerm]
  split
  · rw [← List.cons_append, List.getLast?_concat]
    decide
  · exact h

theorem getLast?_spell (hn : c.Normal) (hs : ∀ x ∈ c.comparisons, x.Spellable operators) :
    c.spell.getLast? ≠ some '\\' := by
  induction hn with
  | comparison c => exact (hs c (by simp [comparisons])).getLast?_spell
  | all two each flat ih =>
    rw [spell_all]
    refine getLast?_intercalate (by decide) fun t ht => ?_
    obtain ⟨c, hc, rfl⟩ := List.mem_map.1 ht
    exact getLast?_spellTerm (ih c hc fun x hx => hs x (mem_comparisonsOf hc hx))
  | any two each flat ih =>
    rw [spell]
    refine getLast?_intercalate (by decide) fun t ht => ?_
    obtain ⟨c, hc, rfl⟩ := List.mem_map.1 ht
    exact ih c hc fun x hx => hs x (mem_comparisonsOf hc hx)

/-- A condition that is not a conjunction is spelled as a term: a comparison by itself, a
disjunction as a group. -/
theorem exists_term (hn : c.Normal) (ha : c.isAll = false)
    (hs : ∀ x ∈ c.comparisons, x.Spellable operators)
    (hd : (if c.isAny then c.groups + 1 else c.groups) ≤ depth)
    (ih : ∀ {depth}, c.groups ≤ depth →
      ∃ as, Derives operators depth (encode c.spell) as ∧ Grammar.condition as = c) :
    ∃ t, IsTerm operators (Inside operators depth) (encode c.spellTerm) t ∧ t.condition = c := by
  cases c with
  | all children => simp [isAll] at ha
  | comparison c => exact (hs c (by simp [comparisons])).exists_term _
  | any children =>
    simp only [isAny, if_true] at hd
    obtain ⟨depth, rfl⟩ : ∃ d, depth = d + 1 := ⟨depth - 1, by omega⟩
    obtain ⟨as, has, hc⟩ := ih (by omega : (any children).groups ≤ depth)
    refine ⟨.group as, ?_, by rw [Term.condition_group, hc]⟩
    have he : encode (any children).spellTerm = '(' :: (encode (any children).spell ++ [')']) := by
      rw [spellTerm, isAny, if_pos rfl, encode_enclose (getLast?_spell hn hs)]
    have ht : IsTerm operators (Inside operators (depth + 1))
        ([] ++ ('(' :: (encode (any children).spell ++ [')']) ++ [])) (.group as) :=
      .group Blank.nil Blank.nil has
    simpa [he] using ht

theorem exists_derivation_of_alternative {terms : List Term} (hn : c.Normal)
    (hj : Joined Terms.andSeparator (IsTerm operators (Inside operators depth)) (encode c.spell)
      terms)
    (hc : conj (terms.map Term.condition) = c) :
    ∃ as, Derives operators depth (encode c.spell) as ∧ Grammar.condition as = c :=
  ⟨[terms], .last hj, by rw [Grammar.condition, List.map_singleton, hc, hn.flat.disj_singleton]⟩

/-- The spelling of a normal condition is a query of the grammar, and a single alternative unless
the condition is a disjunction. -/
theorem exists_derivation (hn : c.Normal) (hs : ∀ x ∈ c.comparisons, x.Spellable operators)
    (hd : c.groups ≤ depth) :
    (c.isAny = false → ∃ terms,
      Joined Terms.andSeparator (IsTerm operators (Inside operators depth)) (encode c.spell) terms ∧
        conj (terms.map Term.condition) = c) ∧
    ∃ as, Derives operators depth (encode c.spell) as ∧ Grammar.condition as = c := by
  induction hn generalizing depth with
  | comparison c =>
    obtain ⟨t, ht, hc⟩ := (hs c (by simp [comparisons])).exists_term (Inside operators depth)
    have hj : conj ([t].map Term.condition) = comparison c := by
      rw [List.map_singleton, hc, (Normal.comparison c).flat.conj_singleton]
    exact ⟨fun _ => ⟨[t], .last ht, hj⟩,
      exists_derivation_of_alternative (.comparison c) (.last ht) hj⟩
  | @all children two each flat ih =>
    have hne : children ≠ [] := by rintro rfl; simp at two
    obtain ⟨terms, hj, he⟩ : ∃ terms, Joined Terms.andSeparator
        (IsTerm operators (Inside operators depth)) (encode (all children).spell) terms ∧
        terms.map Term.condition = children := by
      rw [spell_all]
      refine exists_joined_encode (by decide) hne fun c hc => ?_
      have hs := fun x hx => hs x (mem_comparisonsOf hc hx)
      exact ⟨exists_term (each c hc) (flat c hc) hs (Nat.le_trans (groups_le_all hc) hd)
        fun hd => (ih c hc hs hd).2, getLast?_spellTerm (getLast?_spell (each c hc) hs)⟩
    have hc : conj (terms.map Term.condition) = all children := by
      rw [he]
      exact Kind.join_of_flat (k := .conjunction) two flat
    exact ⟨fun _ => ⟨terms, hj, hc⟩, exists_derivation_of_alternative (.all two each flat) hj hc⟩
  | @any children two each flat ih =>
    have hne : children ≠ [] := by rintro rfl; simp at two
    obtain ⟨as, hj, he⟩ : ∃ as, Derives operators depth (encode (any children).spell) as ∧
        (as.map fun terms => conj (terms.map Term.condition)) = children := by
      rw [spell]
      refine exists_joined_encode (by decide) hne fun c hc => ?_
      have hs := fun x hx => hs x (mem_comparisonsOf hc hx)
      exact ⟨(ih c hc hs (Nat.le_trans (groups_le_any hc) hd)).1 (flat c hc),
        getLast?_spell (each c hc) hs⟩
    refine ⟨fun h => by simp [isAny] at h, as, hj, ?_⟩
    rw [Grammar.condition, he]
    exact Kind.join_of_flat (k := .disjunction) two flat

end Condition

/-- A normal condition is read back from its spelling, if its comparisons can be spelled and the
groups of the spelling stay within the parser's limit. -/
theorem parse_spell (p : Parser) (hp : p.transforms = []) (c : Condition) (hn : c.Normal)
    (hs : ∀ x ∈ c.comparisons, x.Spellable p.dialect.operators) (hd : c.groups ≤ p.maxDepth) :
    p.parse (String.ofList c.spell) .unrestricted = .ok c := by
  rw [Parser.parse, String.toList_ofList]
  exact (readNested_eq_ok_iff hp).2 (Condition.exists_derivation hn hs hd).2

/-- A value that looks like an escape pair, a list and a group. -/
theorem parse_spell_mongo :
    Parser.mongo.parse "a b==\\\\(1\\);(c=in=\\(x\\,y\\),d!=)" .unrestricted =
      .ok (.all [.comparison ⟨"a b", "==", "\\(1)"⟩,
        .any [.comparison ⟨"c", "=in=", "(x,y)"⟩, .comparison ⟨"d", "!=", ""⟩]]) := by
  refine Eq.trans (congrArg (Parser.mongo.parse · .unrestricted) ?_) (parse_spell .mongo rfl
    (.all [.comparison ⟨"a b", "==", "\\(1)"⟩,
      .any [.comparison ⟨"c", "=in=", "(x,y)"⟩, .comparison ⟨"d", "!=", ""⟩]]) ?_ ?_ ?_)
  · cbv
  · refine .all (by decide) ?_ (by simp [Condition.isAll])
    simp only [List.forall_mem_cons, List.not_mem_nil, false_imp_iff, implies_true, and_true]
    refine ⟨.comparison _, .any (by decide) ?_ (by simp [Condition.isAny])⟩
    simpa using ⟨.comparison _, .comparison _⟩
  · simp only [Condition.comparisons, Condition.comparisonsOf, List.append_nil, List.cons_append,
      List.nil_append, List.forall_mem_cons, List.not_mem_nil, false_imp_iff, implies_true,
      and_true]
    refine ⟨?_, ?_, ?_⟩ <;>
    exact ⟨⟨by decide, ⟨by simp; decide, by simp; decide⟩, by simp, by simp [isStandIn, literal?]⟩,
      by decide, by decide, by decide, by decide, by decide, by simp [isStandIn, literal?],
      by simp <;> decide, by decide⟩
  · cbv

end FilterQuery
