import FilterQuery.Proofs.Agreement
import FilterQuery.Proofs.Rendering

/-!
# What reading needs to know of a dialect

A dialect has a part in reading through its tokens alone: which ones it knows, and which ones take a
list (`Dialect.takesList?`). Where a query is cut does not depend on them. So dialects that tell the
same about all tokens read every query alike, and a dialect with further operators, for tokens that
it did not know, differs only on queries that were refused for one of these tokens
(`parse_of_takesList?`).
-/

namespace FilterQuery

/-- Whether the operator of a dialect for a token takes a list, if the token is known. -/
def Dialect.takesList? (d : Dialect) (token : String) : Option Bool :=
  (d.operator? token).map Operator.isList

/-- The causes that concern a token of some operators. -/
def QueryError.IsUnknownAmong (operators : List Operator) (e : QueryError) : Prop :=
  ∃ o ∈ operators, ∃ term, e = .unknownOperator o.pattern term

namespace Parser

variable {p p' : Parser} {policy : KeyPolicy} {causes : QueryError → Prop}

/-- Comparisons are read alike by dialects that tell the same about their tokens, unless a token is
unknown to the first one and this is one of the causes. -/
theorem agrees_readComparison (ht : p'.transforms = p.transforms)
    (h : ∀ token, p'.dialect.takesList? token = p.dialect.takesList? token ∨
      p.dialect.operator? token = none ∧ ∀ term, causes (.unknownOperator token term))
    (term : List Char) :
    Agrees causes (p.readComparison policy term) (p'.readComparison policy term) := by
  have hkey (key : String) : p'.transformKey key = p.transformKey key := by
    rw [transformKey, transformKey, ht]
  unfold readComparison OperatorMatch.find
  cases Token.split? term with
  | none => exact .refl _
  | some s =>
    dsimp only
    split
    · exact .refl _
    split
    · exact .refl _
    have hs := h (String.ofList s.token)
    simp only [Dialect.takesList?, Dialect.operator?] at hs
    cases ho : Operator.find? p.dialect.operators (String.ofList s.token) with
    | none =>
      rw [ho] at hs
      rcases hs with hs | ⟨-, hc⟩
      · rw [Option.map_none, Option.map_eq_none_iff] at hs
        rw [hs]
        exact .refl _
      · exact .of_cause (hc _)
    | some o =>
      rw [ho] at hs
      rcases hs with hs | ⟨hn, -⟩
      · rw [Option.map_some, Option.map_eq_some_iff] at hs
        obtain ⟨o', ho', hl⟩ := hs
        -- both operators are registered for the token that is met
        have hp : o'.pattern = o.pattern :=
          (Operator.pattern_of_find? ho').trans (Operator.pattern_of_find? ho).symm
        rw [ho']
        simp only [bind, Except.bind, hkey, hp, hl]
        exact .refl _
      · simp at hn

theorem agrees_parse (ht : p'.transforms = p.transforms) (hd : p'.maxDepth = p.maxDepth)
    (h : ∀ token, p'.dialect.takesList? token = p.dialect.takesList? token ∨
      p.dialect.operator? token = none ∧ ∀ term, causes (.unknownOperator token term))
    (query : String) : Agrees causes (p.parse query policy) (p'.parse query policy) := by
  rw [parse, parse, hd]
  exact agrees_readNested (agrees_readComparison ht h) (Nat.le_refl _) (.inr ⟨rfl, hd⟩) _

end Parser

/-! ### Further operators -/

section Further

variable {p : Parser} {policy : KeyPolicy} {query : String} {operators : List Operator}
  (hnew : ∀ o ∈ operators, p.dialect.operator? o.pattern = none)

theorem Dialect.write_prepend (operators : List Operator) (d : Dialect) (leaf : Comparison → String)
    (c : Condition) : (d.prepend operators).write leaf c = d.write leaf c := by
  induction c with
  | comparison x => rw [write, write]
  | all children ih =>
    rw [write, write, List.map_congr_left ih]
    rfl
  | any children ih =>
    rw [write, write, List.map_congr_left ih]
    rfl

theorem Dialect.operator?_prepend_or (d : Dialect) (operators : List Operator) (token : String) :
    (d.prepend operators).operator? token = d.operator? token ∨
      ∃ o ∈ operators, o.pattern = token := by
  rw [operator?_prepend]
  cases hf : Operator.find? operators token with
  | none => exact .inl rfl
  | some o => exact .inr (Operator.exists_find?_iff.1 ⟨o, hf⟩)

include hnew

theorem Parser.agrees_parse_make : Agrees (QueryError.IsUnknownAmong operators)
    (p.parse query policy)
    ((make p.dialect operators p.transforms p.maxDepth).parse query policy) := by
  have ht : (make p.dialect operators p.transforms p.maxDepth).transforms = p.transforms := rfl
  refine agrees_parse ht rfl (fun token => ?_) query
  rcases p.dialect.operator?_prepend_or operators token with h | ⟨o, ho, rfl⟩
  · exact .inl (congrArg (Option.map Operator.isList) h)
  · exact .inr ⟨hnew o ho, fun term => ⟨o, ho, term, rfl⟩⟩

theorem render_prepend_of_parse {c : Condition} (h : p.parse query policy = .ok c) :
    (p.dialect.prepend operators).render c = p.dialect.render c := by
  have hleaf : ∀ x ∈ c.comparisons,
      (p.dialect.prepend operators).renderComparison x = .ok (p.dialect.leaf x) := by
    intro x hx
    have hx' := Parser.renderComparison_of_parse h x hx
    rcases p.dialect.operator?_prepend_or operators x.operator with ho | ⟨o, ho, hp⟩
    · rw [← hx', Dialect.renderComparison, Dialect.renderComparison, ho]
    · -- the operator of a comparison that is read is known
      have hn := hnew o ho
      rw [hp] at hn
      rw [Dialect.renderComparison, hn] at hx'
      simp at hx'
  rw [Dialect.render_of_forall hleaf, Parser.render_of_parse h, Dialect.write_prepend]

theorem Parser.agrees_process_make : Agrees (QueryError.IsUnknownAmong operators)
    (p.process query policy)
    ((make p.dialect operators p.transforms p.maxDepth).process query policy) := by
  refine (agrees_parse_make hnew).bind fun c hc => ?_
  exact .inr (render_prepend_of_parse hnew hc)

end Further

theorem takesList?_mongo (token : String) :
    Dialect.mongo.takesList? token = Dialect.mysql.takesList? token := by
  have h (format : Relation → String → String → String) :
      (Operator.find? (Relation.operators format) token).map Operator.isList =
        (Relation.every.find? fun r => r.pattern == token).map Relation.takesList := by
    rw [Relation.find?_operators, Option.map_map]
    rfl
  exact (h Dialect.Mongo.compare).trans (h Dialect.MySql.compare).symm

/-- Parsers that know the same tokens, and take lists for the same ones, read every query alike; so
do those of the two dialects. With further operators for tokens that were unknown, a query is read
and written as without them, unless it was refused for one of these tokens. -/
theorem parse_of_takesList? :
    (∀ p p' : Parser, p.transforms = p'.transforms → p.maxDepth = p'.maxDepth →
      (∀ token, p.dialect.takesList? token = p'.dialect.takesList? token) →
      ∀ query policy, p.parse query policy = p'.parse query policy) ∧
    (∀ query policy, Parser.mongo.parse query policy = Parser.mysql.parse query policy) ∧
    ∀ (p : Parser) (operators : List Operator),
      (∀ o ∈ operators, p.dialect.operator? o.pattern = none) → ∀ query policy,
      ((∀ o ∈ operators, ∀ term,
          p.parse query policy ≠ .error (.unknownOperator o.pattern term)) →
        (Parser.make p.dialect operators p.transforms p.maxDepth).parse query policy =
          p.parse query policy) ∧
      ((∀ o ∈ operators, ∀ term,
          p.process query policy ≠ .error (.unknownOperator o.pattern term)) →
        (Parser.make p.dialect operators p.transforms p.maxDepth).process query policy =
          p.process query policy) := by
  have hsame (p p' : Parser) (ht : p.transforms = p'.transforms) (hd : p.maxDepth = p'.maxDepth)
      (h : ∀ token, p.dialect.takesList? token = p'.dialect.takesList? token) (query : String)
      (policy : KeyPolicy) : p.parse query policy = p'.parse query policy := by
    have ha : Agrees (fun _ => False) (p'.parse query policy) (p.parse query policy) :=
      Parser.agrees_parse ht hd (fun token => .inl (h token)) query
    exact ha.eq_of_not fun e he => he.elim
  refine ⟨hsame, fun query policy => hsame .mongo .mysql rfl rfl takesList?_mongo query policy, ?_⟩
  intro p operators hnew query policy
  constructor
  · intro hne
    refine (Parser.agrees_parse_make hnew).eq_of_not ?_
    rintro e ⟨o, ho, term, rfl⟩
    exact hne o ho term
  · intro hne
    refine (Parser.agrees_process_make hnew).eq_of_not ?_
    rintro e ⟨o, ho, term, rfl⟩
    exact hne o ho term

/-- An operator for a token that the dialects do not know. -/
def Operator.like : Operator where
  pattern := "=like="
  isList := false
  format := fun key value => key ++ " LIKE " ++ value
  shaped := @Token.isShaped_token '=' ['l', 'i', 'k', 'e'] rfl rfl

/-- All operators registered twice, written in another way; and one more operator, which a query
without its token does not notice. -/
theorem parse_of_takesList?_like :
    (∀ query policy, (Parser.make .mysql (Relation.operators Dialect.Mongo.compare) [] 32).parse
      query policy = Parser.mysql.parse query policy) ∧
    Dialect.mysql.operator? "=like=" = none ∧
    (Parser.make .mysql [.like] [] 32).parse "a==1;(b=in=(2),c!=3)" .unrestricted =
      .ok (.all [.comparison ⟨"a", "==", "1"⟩,
        .any [.comparison ⟨"b", "=in=", "2"⟩, .comparison ⟨"c", "!=", "3"⟩]]) ∧
    (Parser.make .mysql [.like] [] 32).process "a==1;(b=in=(2),c!=3)" .unrestricted =
      .ok "(a = 1 AND (b IN (2) OR c != 3))" := by
  obtain ⟨hsame, -, hmore⟩ := parse_of_takesList?
  have hnew : ∀ o ∈ [Operator.like], Parser.mysql.dialect.operator? o.pattern = none := by
    simp only [List.mem_singleton, forall_eq]
    rfl
  have hparse : Parser.mysql.parse "a==1;(b=in=(2),c!=3)" .unrestricted =
      .ok (.all [.comparison ⟨"a", "==", "1"⟩,
        .any [.comparison ⟨"b", "=in=", "2"⟩, .comparison ⟨"c", "!=", "3"⟩]]) := by cbv
  have hprocess : Parser.mysql.process "a==1;(b=in=(2),c!=3)" .unrestricted =
      .ok "(a = 1 AND (b IN (2) OR c != 3))" := by cbv
  obtain ⟨h₁, h₂⟩ := hmore .mysql [.like] hnew "a==1;(b=in=(2),c!=3)" .unrestricted
  refine ⟨hsame (.make .mysql (Relation.operators Dialect.Mongo.compare) [] 32) .mysql rfl rfl
    fun token => ?_, rfl, ?_, ?_⟩
  · show ((Dialect.mysql.prepend _).operator? token).map _ = (Dialect.mysql.operator? token).map _
    rw [Dialect.operator?_prepend, Dialect.mysql, Dialect.operator?, Relation.find?_operators,
      Relation.find?_operators]
    cases Relation.every.find? fun r => r.pattern == token <;> rfl
  · refine (h₁ fun o _ term => ?_).trans hparse
    rw [hparse]
    simp
  · refine (h₂ fun o _ term => ?_).trans hprocess
    rw [hprocess]
    simp

end FilterQuery
