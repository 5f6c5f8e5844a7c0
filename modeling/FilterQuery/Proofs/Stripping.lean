import FilterQuery.Proofs.Rendering
import FilterQuery.Proofs.StandIns

/-!
# What resolving escapes removes

`strip` drops the backslash of each escape pair and nothing else. This is what `unescape` makes of
an encoded text, except that it takes a stand-in which was in the text before for an escape pair,
too (`Escape.unescape_encode`). Such a stand-in is not told from the one for a pair anywhere: it is
resolved in a value and refused in a key. For all other texts the two agree
(`Escape.unescape_encode_eq_strip_iff`), and a query without a backslash then has its values in it
as they are read, and no escaped key.
-/

namespace FilterQuery

open Nesting Reading

namespace Escape

variable {c : Char} {text : List Char}

/-- Drops each backslash right before a character with a role in a query. -/
def strip : List Char → List Char
  | [] => []
  | [c] => [c]
  | c :: d :: text =>
    if c = '\\' ∧ d ∈ ['(', ')', ',', ';', '='] then d :: strip text else c :: strip (d :: text)

/-! ### Stand-ins -/

theorem hasStandIn_strip (text : List Char) : hasStandIn (strip text) = hasStandIn text := by
  fun_induction strip text with
  | case1 => rfl
  | case2 c => rfl
  | case3 c d text h ih =>
    obtain ⟨rfl, -⟩ := h
    show (isStandIn d || hasStandIn (strip text)) = (isStandIn d || hasStandIn text)
    rw [ih]
  | case4 c d text h ih =>
    show (isStandIn c || hasStandIn (strip (d :: text))) = (isStandIn c || hasStandIn (d :: text))
    rw [ih]

theorem unescape_eq_self_iff : unescape text = text ↔ hasStandIn text = false := by
  constructor
  · intro h
    rw [← h]
    exact hasStandIn_unescape text
  · intro h
    rw [hasStandIn_eq_false_iff] at h
    induction text with
    | nil => rfl
    | cons c text ih =>
      obtain ⟨hc, htext⟩ := List.forall_mem_cons.1 h
      show (literal? c).getD c :: unescape text = c :: text
      rw [literal?_eq_none hc, ih htext]
      rfl

theorem encode_of_backslash (h : '\\' ∉ text) : encode text = text := by
  induction text with
  | nil => rfl
  | cons c text ih =>
    obtain ⟨hc, htext⟩ : '\\' ≠ c ∧ '\\' ∉ text := by simpa using h
    rw [encode_cons_of_ne hc.symm, ih htext]

/-- Resolving the escapes of an encoded text strips the text, and resolves its stand-ins. -/
theorem unescape_encode (text : List Char) : unescape (encode text) = unescape (strip text) := by
  fun_induction encode text with
  | case1 => rfl
  | case2 c => rfl
  | case3 c d text p hp ih =>
    by_cases hc : c = '\\'
    · subst hc
      rw [if_pos rfl] at hp
      have hd : d ∈ ['(', ')', ',', ';', '='] := by
        by_contra hn
        rw [standIn?_eq_none_iff.2 hn] at hp
        simp at hp
      have hl : literal? p = some d := literal?_eq_some_iff.2 hp
      have hn : literal? d = none := literal?_eq_none (isStandIn_literal? hl)
      rw [strip, if_pos ⟨rfl, hd⟩]
      show (literal? p).getD p :: unescape (encode text) =
        (literal? d).getD d :: unescape (strip text)
      rw [ih, hl, hn]
      rfl
    · simp [hc] at hp
  | case4 c d text hn ih =>
    have hc : ¬(c = '\\' ∧ d ∈ ['(', ')', ',', ';', '=']) := by
      rintro ⟨rfl, hd⟩
      rw [if_pos rfl, standIn?_eq_none_iff] at hn
      exact hn hd
    rw [strip, if_neg hc]
    show (literal? c).getD c :: unescape (encode (d :: text)) =
      (literal? c).getD c :: unescape (strip (d :: text))
    rw [ih]

theorem unescape_encode_eq_strip_iff :
    unescape (encode text) = strip text ↔ hasStandIn text = false := by
  rw [unescape_encode, unescape_eq_self_iff, hasStandIn_strip]

end Escape

/-! ### Keys and values -/

theorem OperatorMatch.hasStandIn_of_find {operators : List Operator} {text : List Char}
    {term : String} (h : find operators text = .error (.escapedKey term)) :
    Escape.hasStandIn text = true := by
  unfold find at h
  split at h
  · simp at h
  · next s hs =>
    obtain ⟨he, -, -⟩ := Token.split?_sound hs
    dsimp only at h
    split at h
    · simp at h
    · split at h
      · next hk =>
        have hi : s.before <:+: text := ⟨[], s.token ++ s.after, he.symm⟩
        exact Escape.hasStandIn_of_isInfix ((infix_trim s.before).trans hi) hk
      · split at h <;> simp at h

theorem Reading.Raises.hasStandIn {p : Parser} {policy : KeyPolicy} {role : Role}
    {text : List Char} {term : String} (h : Raises p policy role text (.escapedKey term)) :
    Escape.hasStandIn text = true := by
  have hsplit {separator : Char} : Terms.split separator text ≠ .error (.escapedKey term) := by
    intro h
    simpa using Terms.error_of_split h
  cases h with
  | level h => exact absurd h hsplit
  | alternative h => exact absurd h hsplit
  | shape h => simpa using TermShape.error_of_of h
  | comparison _ h =>
    rcases Parser.error_of_readComparison h with h | ⟨key, h⟩
    · exact OperatorMatch.hasStandIn_of_find h
    · simpa using KeyPolicy.exists_of_check h

namespace Parser

variable {p : Parser} {policy : KeyPolicy} {query : String}

theorem exists_value_of_parse {c : Condition} {x : Comparison} (h : p.parse query policy = .ok c)
    (hx : x ∈ c.comparisons) :
    ∃ part, part <:+: Escape.encode query.toList ∧ x.value.toList = Escape.unescape part := by
  obtain ⟨m, middle, rfl, -, hi, -, -, -⟩ := exists_comparison_of_parse h hx
  refine ⟨Grammar.argument m.operator m.value, (Grammar.infix_argument _ _).trans ?_, ?_⟩
  · have hv : m.value <:+: m.key ++ (middle ++ (m.operator.pattern.toList ++ m.value)) :=
      ⟨m.key ++ middle ++ m.operator.pattern.toList, [], by simp⟩
    exact hv.trans hi
  · show (String.ofList _).toList = _
    rw [String.toList_ofList]

theorem hasStandIn_of_parse {term : String} (h : p.parse query policy = .error (.escapedKey term)) :
    Escape.hasStandIn (Escape.encode query.toList) = true := by
  obtain ⟨role, part, hr, hraise⟩ := exists_raises_of_readNested h
  exact Escape.hasStandIn_of_isInfix hr.isInfix hraise.hasStandIn

end Parser

open Escape in
/-- Resolving the escapes of an encoded query drops the backslashes of its escape pairs and resolves
the stand-ins that were in the query before, so it does nothing but drop backslashes exactly if
there were none. Then, if the query has no backslash at all, each value that is read stands in the
query as it is, and no key is refused for an escape pair. -/
theorem unescape_encode_strips (p : Parser) (policy : KeyPolicy) (query : String) :
    unescape (encode query.toList) = unescape (strip query.toList) ∧
    (unescape (encode query.toList) = strip query.toList ↔ hasStandIn query.toList = false) ∧
    ('\\' ∉ query.toList → hasStandIn query.toList = false →
      (∀ c, p.parse query policy = .ok c → ∀ x ∈ c.comparisons, x.value.toList <:+: query.toList) ∧
      ∀ term, p.parse query policy ≠ .error (.escapedKey term)) := by
  refine ⟨unescape_encode _, unescape_encode_eq_strip_iff, ?_⟩
  intro hslash hfree
  have he : encode query.toList = query.toList := encode_of_backslash hslash
  refine ⟨fun c h x hx => ?_, fun term h => ?_⟩
  · obtain ⟨part, hi, hv⟩ := Parser.exists_value_of_parse h hx
    rw [he] at hi
    have hpart : hasStandIn part = false := hasStandIn_eq_false_of_isInfix hi hfree
    rw [hv, unescape_eq_self_iff.2 hpart]
    exact hi
  · have hs := Parser.hasStandIn_of_parse h
    rw [he, hfree] at hs
    simp at hs

open Escape in
/-- A query with a group and a list of values. -/
theorem unescape_encode_strips_nested :
    '\\' ∉ "a==x;(b=in=(1,2),c!=)".toList ∧ hasStandIn "a==x;(b=in=(1,2),c!=)".toList = false ∧
    Parser.mongo.parse "a==x;(b=in=(1,2),c!=)" .unrestricted =
      .ok (.all [.comparison ⟨"a", "==", "x"⟩,
        .any [.comparison ⟨"b", "=in=", "1,2"⟩, .comparison ⟨"c", "!=", ""⟩]]) ∧
    "1,2".toList <:+: "a==x;(b=in=(1,2),c!=)".toList ∧
    unescape (encode "\\\\,\\a".toList) = strip "\\\\,\\a".toList := by
  have hslash : '\\' ∉ "a==x;(b=in=(1,2),c!=)".toList := by decide
  have hfree : hasStandIn "a==x;(b=in=(1,2),c!=)".toList = false := by decide
  have h : Parser.mongo.parse "a==x;(b=in=(1,2),c!=)" .unrestricted =
      .ok (.all [.comparison ⟨"a", "==", "x"⟩,
        .any [.comparison ⟨"b", "=in=", "1,2"⟩, .comparison ⟨"c", "!=", ""⟩]]) := by cbv
  obtain ⟨-, -, hquery⟩ := unescape_encode_strips .mongo .unrestricted "a==x;(b=in=(1,2),c!=)"
  obtain ⟨-, hstrip, -⟩ := unescape_encode_strips .mongo .unrestricted "\\\\,\\a"
  refine ⟨hslash, hfree, h, ?_, hstrip.2 (by decide)⟩
  exact (hquery hslash hfree).1 _ h ⟨"b", "=in=", "1,2"⟩
    (by simp [Condition.comparisons, Condition.comparisonsOf])

open Escape in
/-- A stand-in in a query without a backslash is resolved in a value and refused in a key. -/
theorem unescape_encode_standIn :
    unescape (encode ['\ue002']) = [','] ∧ strip ['\ue002'] = ['\ue002'] ∧
    '\\' ∉ "a==\ue002".toList ∧
    Parser.mysql.parse "a==\ue002" .unrestricted = .ok (.comparison ⟨"a", "==", ","⟩) ∧
    ¬",".toList <:+: "a==\ue002".toList ∧
    '\\' ∉ "\ue000==1".toList ∧
    Parser.mysql.parse "\ue000==1" .unrestricted = .error (.escapedKey "\\(==1") := by
  refine ⟨by decide, by decide, by decide, by cbv, by decide, by decide, by cbv⟩

end FilterQuery
