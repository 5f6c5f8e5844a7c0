import FilterQuery.Dialect.MySql
import FilterQuery.Proofs.TokenSearch

/-!
# Parentheses decide the shape of a term

A term is a group exactly if one pair of parentheses is around all of it, and the same pair is what
a list of values loses (`TermShape.of_by_parens`). Another term that starts with a parenthesis is
refused, for one of two causes: its first parenthesis is closed too early, or never. All other terms
are comparisons unless a parenthesis stands before the first operator token in them (`Misplaced`).

The shape of a term and the parts of a comparison are found by separate searches for the token.
Since both give the first token, which `TokenSplit.IsFirst` says without a search, they agree
(`OperatorMatch.exists_isFirst_of_find`): a comparison has no parenthesis in its key.
-/

namespace FilterQuery

open Nesting

/-- A cut of a text at the first token in it. -/
structure TokenSplit.IsFirst (s : TokenSplit) (text : List Char) : Prop where
  joined : text = s.before ++ (s.token ++ s.after)
  token : IsToken s.token
  first : ∀ before token after, text = before ++ (token ++ after) → IsToken token →
    s.before.length ≤ before.length

/-- The parenthesis that is opened before a text is closed in it. -/
def Nesting.Closed (text : List Char) : Prop :=
  ∃ inner rest, text = inner ++ ')' :: rest ∧ Balanced inner

/-- A parenthesis stands before the first token of a term, or anywhere in a term without a token. -/
def TermShape.Misplaced (term : List Char) : Prop :=
  (∃ s : TokenSplit, s.IsFirst term ∧ ∃ c ∈ s.before, isParen c = true) ∨
    (∀ part, part <:+: term → ¬IsToken part) ∧ ∃ c ∈ term, isParen c = true

variable {text term value inner : List Char} {s : TokenSplit}

/-! ### The first token -/

theorem Token.split?_eq_some_iff : split? text = some s ↔ s.IsFirst text := by
  constructor
  · intro h
    obtain ⟨he, ht, -⟩ := split?_sound h
    refine ⟨he, ht, fun before token after he' ht' => ?_⟩
    obtain ⟨s', hs', hle⟩ := exists_split?_of_token ht' he'
    obtain rfl : s = s' := Option.some.inj (h.symm.trans hs')
    exact hle
  · rintro ⟨he, ht, hfirst⟩
    obtain ⟨s', hs', hle⟩ := exists_split?_of_token ht he
    obtain ⟨he', ht', -⟩ := split?_sound hs'
    -- each of the two cuts comes first, so they are made at the same place
    have hle' := hfirst _ _ _ he' ht'
    obtain ⟨before, token, after⟩ := s
    obtain ⟨before', token', after'⟩ := s'
    obtain ⟨rfl, hrest⟩ := List.append_inj (he.symm.trans he') (Nat.le_antisymm hle' hle)
    obtain rfl := ht.eq_of_append_eq ht' hrest
    obtain rfl := List.append_cancel_left hrest
    exact hs'

theorem TermShape.misplaced_iff : Misplaced term ↔ (head term).any isParen = true := by
  rw [Misplaced, ← Token.split?_eq_none_iff, List.any_eq_true]
  simp only [← Token.split?_eq_some_iff, head]
  cases hs : Token.split? term with
  | none => simp
  | some s => simp

theorem OperatorMatch.exists_isFirst_of_find {operators : List Operator} {m : OperatorMatch}
    (h : find operators term = .ok m) : ∃ s : TokenSplit, s.IsFirst term ∧ m.key = trim s.before ∧
      m.operator.pattern.toList = s.token ∧ m.value = s.after := by
  obtain ⟨s, hs, hkey, -, -, hfind, hvalue⟩ := find_eq_ok_iff.1 h
  refine ⟨s, Token.split?_eq_some_iff.1 hs, hkey, ?_, hvalue⟩
  rw [Operator.pattern_of_find? hfind, String.toList_ofList]

/-! ### Lists of values -/

theorem stripListParens_of_balanced (h : Balanced inner) :
    stripListParens ('(' :: (inner ++ [')'])) = inner := by
  rw [stripListParens, enclosed?_eq_some_iff.2 ⟨rfl, h⟩, Option.getD_some]

theorem stripListParens_of_not_enclosed
    (h : ∀ inner, value = '(' :: (inner ++ [')']) → ¬Balanced inner) :
    stripListParens value = value := by
  cases he : enclosed? value with
  | none => rw [stripListParens, he, Option.getD_none]
  | some inner =>
    obtain ⟨hv, hb⟩ := enclosed?_eq_some_iff.1 he
    exact absurd hb (h inner hv)

/-! ### Terms that start with a parenthesis -/

theorem Nesting.splitAtClose_eq_none_iff_not_closed :
    splitAtClose 0 text = none ↔ ¬Closed text := by
  rw [Closed, ← not_iff_not, not_not, ← ne_eq, Option.ne_none_iff_exists', Prod.exists]
  simp only [splitAtClose_eq_some_iff, balanced_iff]

namespace TermShape

/-- A term that starts with a parenthesis and is no group is refused: for being unbalanced if
nothing closes its first parenthesis, for its shape if something does. -/
theorem error_of_open (hg : ∀ inner, of ('(' :: text) ≠ .ok (.group inner)) :
    (of ('(' :: text) = .error (.unbalancedParens (Escape.shown ('(' :: text)) 0) ↔ ¬Closed text) ∧
    (of ('(' :: text) = .error (.malformedParens (Escape.shown ('(' :: text))) ↔ Closed text) := by
  rw [← not_not (a := Closed text), ← splitAtClose_eq_none_iff_not_closed]
  cases hs : splitAtClose 0 text with
  | none => simp [of, hs]
  | some parts =>
    obtain ⟨inner, rest⟩ := parts
    cases rest with
    | nil => exact absurd (by simp [of, hs]) (hg inner)
    | cons c rest => simp [of, hs]

/-! ### All other terms -/

theorem of_eq_of_head (h : term.head? ≠ some '(') : of term =
    if (head term).any isParen then .error (.malformedParens (Escape.shown term))
    else if (tail term).any isParen then .ok .listArgument else .ok .plain := by
  unfold of
  split
  · exact absurd rfl h
  · rfl

theorem any_isParen_iff : (∃ c ∈ term, isParen c = true) ↔
    (head term).any isParen = true ∨ (tail term).any isParen = true := by
  rw [← List.any_eq_true, eq_head_append_tail term, List.any_append, Bool.or_eq_true,
    ← eq_head_append_tail]

theorem of_iff_misplaced (h : term.head? ≠ some '(') :
    (of term = .error (.malformedParens (Escape.shown term)) ↔ Misplaced term) ∧
    (of term = .ok .listArgument ↔ ¬Misplaced term ∧ ∃ c ∈ term, isParen c = true) ∧
    (of term = .ok .plain ↔ ∀ c ∈ term, isParen c = false) := by
  have hnone : (∀ c ∈ term, isParen c = false) ↔ ¬∃ c ∈ term, isParen c = true := by simp
  rw [hnone, misplaced_iff, any_isParen_iff, of_eq_of_head h]
  cases (head term).any isParen with
  | true => simp
  | false => cases (tail term).any isParen <;> simp

theorem parens_of_comparison (h : of term = .ok .listArgument ∨ of term = .ok .plain)
    (hs : s.IsFirst term) :
    (∀ c ∈ s.before, isParen c = false) ∧ (Balanced term → Balanced s.after) := by
  have hhead := (of_eq_comparison_iff.1 h).2
  rw [head_of_split? (Token.split?_eq_some_iff.2 hs)] at hhead
  refine ⟨hhead, fun hb => ?_⟩
  have hbefore : Balanced s.before := balanced_of_not_isParen hhead
  have htoken : Balanced s.token := balanced_of_not_isParen (Token.isParen_of_mem hs.token)
  rw [hs.joined] at hb
  exact htoken.append_iff.1 (hbefore.append_iff.1 hb)

/-- The shape of each term and the value of each list. A term is a group if it is a balanced text in
parentheses, and a list loses its parentheses in this case only. A term that starts with a
parenthesis and is no group is refused, for being unbalanced if nothing closes the parenthesis and
for its shape otherwise. Another term is refused if a parenthesis stands before its first token, or
anywhere if it has no token. What is read from it if not has no parenthesis in its key, and a
balanced value if the term is balanced. -/
theorem of_by_parens (term value : List Char) :
    (∀ inner, of term = .ok (.group inner) ↔
      term = '(' :: (inner ++ [')']) ∧ Balanced inner) ∧
    (∀ inner, value = '(' :: (inner ++ [')']) → Balanced inner → stripListParens value = inner) ∧
    ((∀ inner, value = '(' :: (inner ++ [')']) → ¬Balanced inner) →
      stripListParens value = value) ∧
    (∀ text, term = '(' :: text → (∀ inner, of term ≠ .ok (.group inner)) →
      (of term = .error (.unbalancedParens (Escape.shown term) 0) ↔ ¬Closed text) ∧
      (of term = .error (.malformedParens (Escape.shown term)) ↔ Closed text)) ∧
    (term.head? ≠ some '(' →
      (of term = .error (.malformedParens (Escape.shown term)) ↔ Misplaced term) ∧
      (of term = .ok .listArgument ↔ ¬Misplaced term ∧ ∃ c ∈ term, isParen c = true) ∧
      (of term = .ok .plain ↔ ∀ c ∈ term, isParen c = false)) ∧
    (of term = .ok .listArgument ∨ of term = .ok .plain →
      (∀ s : TokenSplit, s.IsFirst term →
        (∀ c ∈ s.before, isParen c = false) ∧ (Balanced term → Balanced s.after)) ∧
      ∀ operators m, OperatorMatch.find operators term = .ok m →
        (∀ c ∈ m.key, isParen c = false) ∧ (Balanced term → Balanced m.value) ∧
        ∃ s : TokenSplit, s.IsFirst term ∧ m.key = trim s.before ∧
          m.operator.pattern.toList = s.token ∧ m.value = s.after) := by
  refine ⟨fun inner => of_eq_group_iff, ?_, stripListParens_of_not_enclosed, ?_,
    of_iff_misplaced, fun h => ⟨fun s => parens_of_comparison h, fun operators m hm => ?_⟩⟩
  · rintro inner rfl hb
    exact stripListParens_of_balanced hb
  · rintro text rfl hg
    exact error_of_open hg
  · obtain ⟨s, hs, hkey, hpattern, hvalue⟩ := OperatorMatch.exists_isFirst_of_find hm
    obtain ⟨hbefore, hafter⟩ := parens_of_comparison h hs
    exact ⟨fun c hc => hbefore c ((infix_trim _).mem (hkey ▸ hc)), hvalue ▸ hafter,
      s, hs, hkey, hpattern, hvalue⟩

/-- A list around a list, and two lists. A group that is never closed, and one that is closed too
early. A parenthesis behind a failed start of a token, and parentheses in a value only. -/
theorem of_by_parens_roles :
    stripListParens "((1),2)".toList = "(1),2".toList ∧
    stripListParens "(1),(2)".toList = "(1),(2)".toList ∧
    of "(a==1".toList = .error (.unbalancedParens "(a==1" 0) ∧ ¬Closed "a==1".toList ∧
    of "(a==1)(b==2)".toList = .error (.malformedParens "(a==1)(b==2)") ∧
    Closed "a==1)(b==2)".toList ∧
    of "a=(x)==1".toList = .error (.malformedParens "a=(x)==1") ∧ Misplaced "a=(x)==1".toList ∧
    of "a=in=(1,(2))".toList = .ok .listArgument ∧
    ∃ m, OperatorMatch.find Dialect.mysql.operators "a=in=(1,(2))".toList = .ok m ∧
      (∀ c ∈ m.key, isParen c = false) ∧ Balanced m.value := by
  obtain ⟨-, hlist, -⟩ := of_by_parens [] "((1),2)".toList
  obtain ⟨-, -, hlists, hopen, -⟩ := of_by_parens "(a==1".toList "(1),(2)".toList
  obtain ⟨-, -, -, hearly, -⟩ := of_by_parens "(a==1)(b==2)".toList []
  obtain ⟨-, -, -, -, hother, -⟩ := of_by_parens "a=(x)==1".toList []
  obtain ⟨-, -, -, -, -, hcomparison⟩ := of_by_parens "a=in=(1,(2))".toList []
  have hunclosed : of "(a==1".toList = .error (.unbalancedParens "(a==1" 0) := rfl
  have hclosed : of "(a==1)(b==2)".toList = .error (.malformedParens "(a==1)(b==2)") := rfl
  have hmisplaced : of "a=(x)==1".toList = .error (.malformedParens "a=(x)==1") := by cbv
  have hargument : of "a=in=(1,(2))".toList = .ok .listArgument := by cbv
  have htoken : Token.split? "a=in=(1,(2))".toList =
      some ⟨"a".toList, "=in=".toList, "(1,(2))".toList⟩ := by cbv
  have hfind : OperatorMatch.find Dialect.mysql.operators "a=in=(1,(2))".toList =
      .ok ⟨"a".toList, Relation.oneOf.operator (Dialect.MySql.compare .oneOf),
        "(1,(2))".toList⟩ :=
    OperatorMatch.find_eq_ok_iff.2 ⟨_, htoken, rfl, by simp, rfl, rfl, rfl⟩
  refine ⟨hlist _ rfl (by decide), hlists fun inner he => ?_, hunclosed, ?_, hclosed, ?_,
    hmisplaced, (hother (by decide)).1.1 hmisplaced, hargument, _, hfind, ?_⟩
  · have he : "1),(2".toList ++ [')'] = inner ++ [')'] := (List.cons.inj he).2
    obtain rfl := List.append_cancel_right he
    decide
  · exact (hopen _ rfl fun inner => by rw [hunclosed]; simp).1.1 hunclosed
  · exact (hearly _ rfl fun inner => by rw [hclosed]; simp).2.1 hclosed
  · obtain ⟨hkey, hvalue, -⟩ := (hcomparison (.inl hargument)).2 _ _ hfind
    exact ⟨hkey, hvalue (by decide)⟩

end TermShape

end FilterQuery
