import FilterQuery.Proofs.Reached
import Mathlib.Order.Bounds.Basic

/-!
# Queries with unbalanced parentheses

Unbalanced parentheses are found before anything else, in the whole query and nowhere else
(`parse_unbalancedParens`). The position that is reported is that of the first closing parenthesis
that closes more than is open (`ExcessAt`) or, if there is none, of the first opening one that is
never closed (`UnclosedAt`).

The scan for the position carries where the outermost open parenthesis stands (`Scanned`). All text
before it is balanced, so every parenthesis that is opened there is closed there.
-/

namespace FilterQuery

namespace Nesting

/-- The closing parenthesis at a position closes more than is opened before it. -/
def ExcessAt (text : List Char) (position : Nat) : Prop :=
  ∃ before after, text = before ++ ')' :: after ∧ before.length = position ∧
    before.count '(' < before.count ')' + 1

/-- The opening parenthesis at a position is followed by no parenthesis that closes it. -/
def UnclosedAt (text : List Char) (position : Nat) : Prop :=
  ∃ before after, text = before ++ '(' :: after ∧ before.length = position ∧
    ∀ inner rest, after = inner ++ ')' :: rest → ¬Balanced inner

/-- After `read`, the scan is at `depth`, and the outermost open parenthesis stands at `opened`. -/
structure Scanned (read : List Char) (depth opened : Nat) : Prop where
  depth_eq : depthThrough 0 read = some depth
  outermost : depth ≠ 0 → ∃ before inside, read = before ++ '(' :: inside ∧
    before.length = opened ∧ Balanced before ∧ depthThrough 0 inside = some (depth - 1)

variable {read text before after : List Char} {c : Char} {depth opened position : Nat}

/-! ### The scan -/

theorem Scanned.opening (h : Scanned read depth opened) :
    Scanned (read ++ ['(']) (depth + 1) (if depth = 0 then read.length else opened) := by
  refine ⟨?_, fun _ => ?_⟩
  · rw [depthThrough_append, h.depth_eq]
    rfl
  · by_cases hd : depth = 0
    · subst hd
      exact ⟨read, [], rfl, by simp, balanced_iff.2 h.depth_eq, rfl⟩
    · obtain ⟨before, inside, rfl, ho, hb, hi⟩ := h.outermost hd
      refine ⟨before, inside ++ ['('], by simp, by simp [hd, ho], hb, ?_⟩
      rw [depthThrough_append, hi]
      have : depth - 1 + 1 = depth + 1 - 1 := by omega
      simp [this]

theorem Scanned.closing (h : Scanned read (depth + 1) opened) :
    Scanned (read ++ [')']) depth opened := by
  refine ⟨?_, fun hd => ?_⟩
  · rw [depthThrough_append, h.depth_eq]
    rfl
  · obtain ⟨before, inside, rfl, ho, hb, hi⟩ := h.outermost (by omega)
    refine ⟨before, inside ++ [')'], by simp, ho, hb, ?_⟩
    obtain ⟨d, rfl⟩ := Nat.exists_eq_succ_of_ne_zero hd
    rw [depthThrough_append, hi]
    rfl

theorem Scanned.other (hc : isParen c = false) (h : Scanned read depth opened) :
    Scanned (read ++ [c]) depth opened := by
  have hone (d : Nat) : depthThrough d [c] = some d :=
    depthThrough_of_not_isParen (by simpa using hc)
  refine ⟨?_, fun hd => ?_⟩
  · rw [depthThrough_append, h.depth_eq]
    exact hone depth
  · obtain ⟨before, inside, rfl, ho, hb, hi⟩ := h.outermost hd
    refine ⟨before, inside ++ [c], by simp, ho, hb, ?_⟩
    rw [depthThrough_append, hi]
    exact hone (depth - 1)

/-- The scan stops at a closing parenthesis after a balanced text, or at the end. -/
theorem exists_of_unbalancedFrom (hs : Scanned read depth opened)
    (h : unbalancedFrom depth read.length opened text = some position) :
    (∃ before after, read ++ text = before ++ ')' :: after ∧ before.length = position ∧
      Balanced before) ∨
    ∃ before after final, read ++ text = before ++ '(' :: after ∧ before.length = position ∧
      Balanced before ∧ depthThrough 0 after = some final := by
  induction text generalizing read depth opened with
  | nil =>
    rw [unbalancedFrom] at h
    split at h
    · simp at h
    · next hd =>
      obtain ⟨before, inside, rfl, ho, hb, hi⟩ := hs.outermost hd
      exact .inr ⟨before, inside, depth - 1, by simp, ho.trans (Option.some.inj h), hb, hi⟩
  | cons c text ih =>
    have hlen : read.length + 1 = (read ++ [c]).length := by simp
    have hread : read ++ c :: text = read ++ [c] ++ text := by simp
    rw [unbalancedFrom, hlen] at h
    rw [hread]
    by_cases ho : c = '('
    · subst ho
      exact ih hs.opening h
    rw [if_neg ho] at h
    by_cases hc : c = ')'
    · subst hc
      rw [if_pos rfl] at h
      cases depth with
      | zero =>
        exact .inl ⟨read, text, by simp, Option.some.inj h, balanced_iff.2 hs.depth_eq⟩
      | succ d => exact ih hs.closing h
    · rw [if_neg hc] at h
      exact ih (hs.other (by simp [isParen, ho, hc])) h

/-! ### The positions that it finds -/

theorem concat_prefix_of_lt {start rest : List Char} {d : Char}
    (he : before ++ d :: after = start ++ c :: rest) (hlt : start.length < before.length) :
    start ++ [c] <+: before := by
  have hs : start ++ [c] <+: before ++ d :: after := ⟨rest, by rw [he]; simp⟩
  exact List.prefix_of_prefix_length_le hs (List.prefix_append ..)
    (by rw [List.length_append]; exact hlt)

theorem isLeast_excessAt (h : Balanced before) :
    IsLeast {i | ExcessAt (before ++ ')' :: after) i} before.length := by
  constructor
  · exact ⟨before, after, rfl, rfl, by rw [h.2]; omega⟩
  · rintro i ⟨start, rest, he, rfl, hc⟩
    by_contra hlt
    -- an earlier one would be part of the balanced text
    have hpre := concat_prefix_of_lt he (by omega)
    have := h.1 _ hpre
    simp at this
    omega

theorem not_excessAt {final : Nat} (h : depthThrough 0 text = some final) (i : Nat) :
    ¬ExcessAt text i := by
  rintro ⟨start, rest, rfl, -, hc⟩
  have := (depthThrough_eq_some_iff.1 h).1 (start ++ [')']) ⟨rest, by simp⟩
  simp at this
  omega

theorem isLeast_unclosedAt {final : Nat} (hb : Balanced before)
    (ha : depthThrough 0 after = some final) :
    IsLeast {i | UnclosedAt (before ++ '(' :: after) i} before.length := by
  constructor
  · refine ⟨before, after, rfl, rfl, ?_⟩
    rintro inner rest rfl hi
    rw [depthThrough_append, hi.depthThrough] at ha
    simp [depthThrough] at ha
  · rintro i ⟨start, rest, he, rfl, hu⟩
    by_contra hlt
    obtain ⟨inside, rfl⟩ := concat_prefix_of_lt he (by omega)
    rw [List.append_assoc, List.singleton_append] at hb
    obtain ⟨inner, more, hs⟩ := hb.exists_close
    obtain ⟨rfl, hi⟩ := splitAtClose_eq_some_iff.1 hs
    refine hu inner (more ++ '(' :: after) ?_ (balanced_iff.2 hi)
    have : start ++ '(' :: rest = start ++ '(' :: (inner ++ ')' :: (more ++ '(' :: after)) := by
      rw [← he]
      simp
    simpa using this

/-- The position that the scan finds is that of the first closing parenthesis that closes too much;
if there is none, that of the first opening one that is not closed. -/
theorem isLeast_of_unbalancedAt? (h : unbalancedAt? text = some position) :
    IsLeast {i | ExcessAt text i} position ∨
      (∀ i, ¬ExcessAt text i) ∧ IsLeast {i | UnclosedAt text i} position := by
  have hs : Scanned [] 0 0 := ⟨rfl, fun h => absurd rfl h⟩
  rcases exists_of_unbalancedFrom hs h with ⟨before, after, he, rfl, hb⟩ |
    ⟨before, after, final, he, rfl, hb, ha⟩
  · rw [List.nil_append] at he
    subst he
    exact .inl (isLeast_excessAt hb)
  · rw [List.nil_append] at he
    subst he
    have hd : depthThrough 0 (before ++ '(' :: after) = some (final + 1) := by
      rw [depthThrough_append, hb.depthThrough, Option.bind_some, depthThrough_open]
      exact depthThrough_add 1 ha
    exact .inr ⟨not_excessAt hd, isLeast_unclosedAt hb ha⟩

end Nesting

open Nesting Reading

/-! ### What is refused for its parentheses -/

section Reading

variable {p : Parser} {policy : KeyPolicy} {text : List Char} {role : Role} {depth position : Nat}
  {fragment : String}

theorem Reading.Raises.not_balanced
    (h : Raises p policy role text (.unbalancedParens fragment position)) : ¬Balanced text := by
  intro hb
  cases h with
  | level h =>
    obtain ⟨_, he⟩ := Terms.exists_emptyTerm_of_split hb h
    simp at he
  | alternative h =>
    obtain ⟨_, he⟩ := Terms.exists_emptyTerm_of_split hb h
    simp at he
  | shape h => simpa using TermShape.eq_malformedParens_of_of hb h
  | comparison _ h =>
    rcases Parser.error_of_readComparison h with h | ⟨key, h⟩
    · simpa using OperatorMatch.error_of_find h
    · simpa using KeyPolicy.exists_of_check h

theorem readNested_of_not_balanced (hb : ¬Balanced text) (depth : Nat) :
    ∃ position, unbalancedAt? text = some position ∧ p.readNested policy depth text =
      .error (.unbalancedParens (Escape.shown text) position) := by
  obtain ⟨position, hp, hs⟩ := Terms.split_of_not_balanced Terms.orSeparator hb
  refine ⟨position, hp, ?_⟩
  cases depth with
  | zero => exact bind_eq_error_iff.2 (.inl hs)
  | succ depth => exact bind_eq_error_iff.2 (.inl hs)

theorem not_balanced_of_readNested
    (h : p.readNested policy depth text = .error (.unbalancedParens fragment position)) :
    ¬Balanced text := by
  intro hb
  obtain ⟨role, part, hr, hraise⟩ := exists_raises_of_readNested h
  refine hraise.not_balanced ?_
  rcases hr.balanced with ⟨-, rfl⟩ | hpart
  · exact hb
  · exact hpart

end Reading

/-- A query is refused for unbalanced parentheses exactly if its encoded text is not balanced. Then
the whole query is shown, with the position of the first closing parenthesis that closes too much
or, if there is none, of the first opening one that is not closed. No other text that reading comes
to is refused for this cause. -/
theorem parse_unbalancedParens (p : Parser) (policy : KeyPolicy) (query : String) :
    ((∃ fragment position, p.parse query policy = .error (.unbalancedParens fragment position)) ↔
      ¬Balanced (Escape.encode query.toList)) ∧
    (∀ fragment position, p.parse query policy = .error (.unbalancedParens fragment position) →
      fragment = String.ofList (Escape.decode (Escape.encode query.toList)) ∧
      (IsLeast {i | ExcessAt (Escape.encode query.toList) i} position ∨
        (∀ i, ¬ExcessAt (Escape.encode query.toList) i) ∧
          IsLeast {i | UnclosedAt (Escape.encode query.toList) i} position)) ∧
    ∀ role part fragment position, Reaches (Escape.encode query.toList) role part →
      Raises p policy role part (.unbalancedParens fragment position) →
      role = .level ∧ part = Escape.encode query.toList := by
  refine ⟨⟨?_, fun hb => ?_⟩, fun fragment position h => ?_,
    fun role part fragment position hr h => ?_⟩
  · rintro ⟨fragment, position, h⟩
    exact not_balanced_of_readNested h
  · obtain ⟨position, -, h⟩ := readNested_of_not_balanced hb p.maxDepth
    exact ⟨_, position, h⟩
  · obtain ⟨position', hp, h'⟩ :=
      @readNested_of_not_balanced p policy _ (not_balanced_of_readNested h) p.maxDepth
    obtain ⟨rfl, rfl⟩ : fragment = _ ∧ position = position' := by
      simpa using Except.error.inj (h.symm.trans h')
    exact ⟨rfl, isLeast_of_unbalancedAt? hp⟩
  · rcases hr.balanced with h' | hb
    · exact h'
    · exact absurd hb h.not_balanced

/-- An escaped parenthesis does not count, and a group that is closed is not the one reported. -/
theorem parse_unbalancedParens_mongo :
    Parser.mongo.parse "a==\\);(b==1);(c==(2)" .unrestricted =
      .error (.unbalancedParens "a==\\);(b==1);(c==(2)" 12) ∧
    ¬Balanced (Escape.encode "a==\\);(b==1);(c==(2)".toList) ∧
    (IsLeast {i | ExcessAt (Escape.encode "a==\\);(b==1);(c==(2)".toList) i} 12 ∨
      (∀ i, ¬ExcessAt (Escape.encode "a==\\);(b==1);(c==(2)".toList) i) ∧
        IsLeast {i | UnclosedAt (Escape.encode "a==\\);(b==1);(c==(2)".toList) i} 12) := by
  have h : Parser.mongo.parse "a==\\);(b==1);(c==(2)" .unrestricted =
      .error (.unbalancedParens "a==\\);(b==1);(c==(2)" 12) := by cbv
  obtain ⟨hiff, hpos, -⟩ := parse_unbalancedParens .mongo .unrestricted "a==\\);(b==1);(c==(2)"
  exact ⟨h, hiff.1 ⟨_, _, h⟩, (hpos _ _ h).2⟩

end FilterQuery
