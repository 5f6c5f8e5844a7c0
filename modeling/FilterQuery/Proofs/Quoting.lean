import FilterQuery.Proofs.Decoding
import FilterQuery.Proofs.Reached

/-!
# Refusals quote the query

A refusal shows a part of the query, spelled as in the query (`parse_quotes`). What is shown is the
decoding of a text that reading comes to: `Reading.Cause` lists what a text can be refused for.
Every such text is cut from the encoded query (`Reading.Reaches.isInfix`), and a cut never goes
through an escape pair, since a pair is a single character there.
-/

namespace FilterQuery

open Nesting Reading

/-- The part of a query that a refusal shows. -/
def QueryError.quoted? : QueryError → Option String
  | unbalancedParens fragment _ => some fragment
  | emptyTerm fragment _ => some fragment
  | malformedParens term => some term
  | noOperator term => some term
  | emptyKey term => some term
  | escapedKey term => some term
  | unknownOperator _ term => some term
  | keyNotAllowed _ => none
  | keyForbidden _ => none
  | tooDeep _ => none
  | invalidPattern _ => none

/-! ### Texts are cut from the query -/

theorem infix_of_mem_pieces {separator : Char} {text piece : List Char}
    (hp : isParen separator = false) (h : Balanced text) (hm : piece ∈ pieces separator text) :
    piece <:+: text := by
  refine h.cut_induction (motive := fun text => ∀ piece ∈ pieces separator text, piece <:+: text) hp
    (fun text hw piece hm => ?_) (fun first rest hf _ ih piece hm => ?_) piece hm
  · rw [pieces_of_whole hp hw, List.mem_singleton] at hm
    exact hm ▸ List.infix_refl text
  · rw [pieces_cons_of_whole hp hf] at hm
    rcases List.mem_cons.1 hm with rfl | hm
    · exact ⟨[], separator :: rest, by simp⟩
    · have hrest : rest <:+: first ++ separator :: rest := ⟨first ++ [separator], [], by simp⟩
      exact (ih piece hm).trans hrest

theorem Terms.infix_of_mem_split {separator : Char} {text term : List Char}
    {terms : List (List Char)} (hp : isParen separator = false)
    (h : split separator text = .ok terms) (hm : term ∈ terms) : term <:+: text := by
  obtain ⟨hb, rfl, -⟩ := split_eq_ok_iff.1 h
  obtain ⟨piece, hpiece, rfl⟩ := List.mem_map.1 hm
  exact (infix_trim piece).trans (infix_of_mem_pieces hp hb hpiece)

theorem Reading.Reaches.isInfix {whole part : List Char} {role : Role}
    (h : Reaches whole role part) : part <:+: whole := by
  induction h with
  | start => exact List.infix_refl whole
  | alternative _ hs hm ih =>
    exact (Terms.infix_of_mem_split Terms.isParen_orSeparator hs hm).trans ih
  | term _ hs hm ih => exact (Terms.infix_of_mem_split Terms.isParen_andSeparator hs hm).trans ih
  | @group text inner _ hs ih =>
    have hi : inner <:+: text := by
      rw [(TermShape.of_eq_group_iff.1 hs).1]
      exact ⟨['('], [')'], by simp⟩
    exact hi.trans ih

/-! ### What a text is refused for -/

/-- The causes for which a text can be refused, with what they show. -/
inductive Reading.Cause (p : Parser) (policy : KeyPolicy) (text : List Char) : QueryError → Prop
  | unbalancedParens (position : Nat) :
      Cause p policy text (.unbalancedParens (Escape.shown text) position)
  | emptyTerm (position : Nat) : Cause p policy text (.emptyTerm (Escape.shown text) position)
  | malformedParens : Cause p policy text (.malformedParens (Escape.shown text))
  | noOperator : Cause p policy text (.noOperator (Escape.shown text))
  | emptyKey : Cause p policy text (.emptyKey (Escape.shown text))
  | escapedKey : Cause p policy text (.escapedKey (Escape.shown text))
  | unknownOperator {s : TokenSplit} (hs : Token.split? text = some s) :
      Cause p policy text (.unknownOperator (String.ofList s.token) (Escape.shown text))
  | key {key : List Char} {e : QueryError} (hk : Escape.hasStandIn key = false)
      (h : policy.check (p.transformKey (String.ofList key)) = .error e) : Cause p policy text e
  | tooDeep : Cause p policy text (.tooDeep p.maxDepth)

namespace Reading

variable {p : Parser} {policy : KeyPolicy} {text : List Char} {e : QueryError}

theorem cause_of_split {separator : Char} (h : Terms.split separator text = .error e) :
    Cause p policy text e := by
  obtain ⟨position, rfl | rfl⟩ := Terms.error_of_split h
  · exact .unbalancedParens position
  · exact .emptyTerm position

theorem cause_of_shape (h : TermShape.of text = .error e) : Cause p policy text e := by
  rcases TermShape.error_of_of h with rfl | rfl
  · exact .malformedParens
  · exact .unbalancedParens 0

theorem cause_of_find (h : OperatorMatch.find p.dialect.operators text = .error e) :
    Cause p policy text e := by
  unfold OperatorMatch.find at h
  split at h
  · cases h
    exact .noOperator
  · next s hs =>
    dsimp only at h
    split at h
    · cases h
      exact .emptyKey
    · split at h
      · cases h
        exact .escapedKey
      · split at h
        · cases h
          exact .unknownOperator hs
        · simp at h

theorem cause_of_readComparison (h : p.readComparison policy text = .error e) :
    Cause p policy text e := by
  rcases bind_eq_error_iff.1 h with h | ⟨found, hf, h⟩
  · exact cause_of_find h
  rcases bind_eq_error_iff.1 h with h | ⟨u, -, h⟩
  · obtain ⟨s, -, -, -, hk, -, -⟩ := OperatorMatch.find_eq_ok_iff.1 hf
    exact .key hk h
  · simp [pure, Except.pure] at h

theorem Raises.cause {role : Role} (h : Raises p policy role text e) : Cause p policy text e := by
  cases h with
  | level h => exact cause_of_split h
  | alternative h => exact cause_of_split h
  | shape h => exact cause_of_shape h
  | tooDeep _ => exact .tooDeep
  | comparison _ h => exact cause_of_readComparison h

theorem Cause.eq_shown {shown : String} (h : Cause p policy text e)
    (hq : e.quoted? = some shown) : shown = Escape.shown text := by
  cases h with
  | key _ h => rcases KeyPolicy.exists_of_check h with rfl | rfl <;> simp [QueryError.quoted?] at hq
  | tooDeep => simp [QueryError.quoted?] at hq
  | _ => exact (Option.some.inj hq).symm

end Reading

/-- The part of a query that a refusal shows stands in the query as it is shown. No escape pair is
cut at its ends: what comes before it, the part itself and what comes after it are encoded apart. -/
theorem parse_quotes {p : Parser} {policy : KeyPolicy} {query shown : String} {e : QueryError}
    (hquery : Escape.hasStandIn query.toList = false)
    (h : p.parse query policy = .error e) (hq : e.quoted? = some shown) :
    ∃ before after, query.toList = before ++ shown.toList ++ after ∧
      Escape.encode query.toList =
        Escape.encode before ++ Escape.encode shown.toList ++ Escape.encode after := by
  obtain ⟨role, part, hr, hraise⟩ := exists_raises_of_readNested h
  obtain ⟨before, after, he⟩ := hr.isInfix
  obtain ⟨hbefore, hpart, hafter⟩ := Escape.encode_of_append he.symm
  have hshown : shown.toList = Escape.decode part := by
    rw [hraise.cause.eq_shown hq, Escape.shown, String.toList_ofList]
  refine ⟨Escape.decode before, Escape.decode after, ?_, ?_⟩
  · rw [hshown, ← Escape.decode_append, ← Escape.decode_append, he, Escape.decode_encode hquery]
  · rw [hshown, hbefore, hpart, hafter, he]

/-- The term that is shown stands in a group, after an escaped separator and before an escaped
parenthesis. -/
theorem parse_quotes_nested :
    Parser.mongo.parse "a==\\,;(b=x=\\);c==1)" .unrestricted =
      .error (.unknownOperator "=x=" "b=x=\\)") ∧
    ∃ before after, "a==\\,;(b=x=\\);c==1)".toList = before ++ "b=x=\\)".toList ++ after ∧
      Escape.encode "a==\\,;(b=x=\\);c==1)".toList =
        Escape.encode before ++ Escape.encode "b=x=\\)".toList ++ Escape.encode after := by
  have h : Parser.mongo.parse "a==\\,;(b=x=\\);c==1)" .unrestricted =
      .error (.unknownOperator "=x=" "b=x=\\)") := by cbv
  exact ⟨h, parse_quotes (by decide) h rfl⟩

end FilterQuery
