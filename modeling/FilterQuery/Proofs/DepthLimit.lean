import FilterQuery.Proofs.Agreement
import FilterQuery.Proofs.Meaning
import Mathlib.Order.Bounds.Basic

/-!
# The limit on nested groups

A limit has no influence on a query that stays within it, and refuses every other one: what is read
under some limit is read under exactly those that are at least the largest number of groups around
a comparison (`parse_maxDepth`). Parentheses of a list of values do not count, since they are no
groups of the derivation.

`Grammar.placed` gives each comparison of a derivation with the number of groups around it. The
derivation is one for a limit exactly if no comparison is placed deeper (`Derives.iff_placed_le`).
-/

namespace FilterQuery

namespace Grammar

/-- The comparisons in a term, from left to right, each with the number of groups around it. -/
def Term.placed : Term → List (Nat × OperatorMatch)
  | comparison key o value => [(0, ⟨key, o, value⟩)]
  | group alternatives =>
    (alternatives.flatMap fun terms => terms.flatMap fun t => t.placed).map fun x => (x.1 + 1, x.2)
decreasing_by exact Term.sizeOf_lt_group ‹_› ‹_›

/-- The comparisons in the alternatives of a query, each with the number of groups around it. -/
def placed (alternatives : List (List Term)) : List (Nat × OperatorMatch) :=
  alternatives.flatMap fun terms => terms.flatMap Term.placed

variable {operators : List Operator} {Body : List Char → List (List Term) → Prop}
  {text : List Char} {as : List (List Term)} {depth limit : Nat}

theorem Term.placed_group (as : List (List Term)) :
    (group as).placed = (Grammar.placed as).map fun x => (x.1 + 1, x.2) := by
  rw [placed, Grammar.placed]

theorem Term.map_placed (t : Term) : t.placed.map Prod.snd = t.found := by
  induction t with
  | comparison key o value => rw [placed, found]; rfl
  | group as ih =>
    rw [placed_group, found_group, List.map_map, Grammar.placed, Grammar.found, List.map_flatMap]
    refine List.flatMap_congr fun terms hterms => ?_
    rw [List.map_flatMap]
    refine List.flatMap_congr fun t ht => ?_
    rw [← ih terms hterms t ht]
    rfl

theorem map_placed (as : List (List Term)) : (placed as).map Prod.snd = found as := by
  have h := Term.map_placed (.group as)
  rw [Term.placed_group, Term.found_group, List.map_map] at h
  exact h

theorem mem_placed_iff {x : Nat × OperatorMatch} :
    x ∈ placed as ↔ ∃ terms ∈ as, ∃ t ∈ terms, x ∈ t.placed := by
  simp only [placed, List.mem_flatMap]

/-! ### How deep a derivation goes -/

/-- There is a comparison in every group. -/
theorem Inside.exists_mem_placed (h : Inside operators depth text as) : ∃ x, x ∈ placed as := by
  induction depth generalizing text as with
  | zero => exact h.elim
  | succ depth ih =>
    obtain ⟨terms, hterms⟩ := List.exists_mem_of_ne_nil as (Joined.ne_nil h)
    obtain ⟨piece, -, hj⟩ := Joined.exists_of_mem h hterms
    obtain ⟨t, ht⟩ := List.exists_mem_of_ne_nil terms hj.ne_nil
    obtain ⟨_, -, hpart⟩ := Level.exists_of_mem h hterms ht
    suffices ∃ x, x ∈ t.placed from this.imp fun x hx => mem_placed_iff.2 ⟨terms, hterms, t, ht, hx⟩
    cases hpart with
    | group hl hr hbody =>
      obtain ⟨x, hx⟩ := ih hbody
      rw [Term.placed_group]
      exact ⟨_, List.mem_map.2 ⟨x, hx, rfl⟩⟩
    | comparison =>
      rw [Term.placed]
      exact ⟨_, List.mem_singleton.2 rfl⟩

theorem Inside.lt_of_mem_placed (h : Inside operators depth text as) :
    ∀ x ∈ placed as, x.1 < depth := by
  induction depth generalizing text as with
  | zero => exact h.elim
  | succ depth ih =>
    intro x hx
    obtain ⟨terms, hterms, t, ht, hx⟩ := mem_placed_iff.1 hx
    obtain ⟨_, -, hpart⟩ := Level.exists_of_mem h hterms ht
    cases hpart with
    | group hl hr hbody =>
      rw [Term.placed_group] at hx
      obtain ⟨y, hy, rfl⟩ := List.mem_map.1 hx
      have := ih hbody y hy
      show y.1 + 1 < depth + 1
      omega
    | comparison =>
      rw [Term.placed, List.mem_singleton] at hx
      subst hx
      exact Nat.succ_pos depth

theorem Inside.of_placed_lt (h : Inside operators depth text as)
    (hlt : ∀ x ∈ placed as, x.1 < limit) : Inside operators limit text as := by
  induction depth generalizing text as limit with
  | zero => exact h.elim
  | succ depth ih =>
    obtain ⟨x, hx⟩ := h.exists_mem_placed
    obtain ⟨l, rfl⟩ : ∃ l, limit = l + 1 := ⟨limit - 1, by have := hlt x hx; omega⟩
    refine Joined.imp_of_mem h fun piece terms hterms hj => ?_
    refine hj.imp_of_mem fun term t ht hpart => ?_
    cases hpart with
    | comparison hl hm hr hk ho hv => exact .comparison hl hm hr hk ho hv
    | @group left right inner as' hl hr hbody =>
      refine .group hl hr (ih hbody fun y hy => ?_)
      have hy' : (y.1 + 1, y.2) ∈ (Term.group as').placed := by
        rw [Term.placed_group]
        exact List.mem_map.2 ⟨y, hy, rfl⟩
      have := hlt _ (mem_placed_iff.2 ⟨terms, hterms, _, ht, hy'⟩)
      simp only at this
      omega

theorem Derives.iff_placed_le (h : Derives operators depth text as) :
    Derives operators limit text as ↔ ∀ x ∈ placed as, x.1 ≤ limit := by
  constructor
  · intro hl x hx
    have := @Inside.lt_of_mem_placed operators text as (limit + 1) hl x hx
    omega
  · intro hle
    exact @Inside.of_placed_lt operators text as (depth + 1) (limit + 1) h fun x hx => by
      have := hle x hx
      omega

theorem Derives.exists_isGreatest (h : Derives operators depth text as) :
    ∃ n, IsGreatest {k | ∃ m, (k, m) ∈ placed as} n := by
  obtain ⟨x, hx⟩ := @Inside.exists_mem_placed operators text as (depth + 1) h
  have hne : (placed as).map Prod.fst ≠ [] := by
    intro hn
    rw [List.map_eq_nil_iff] at hn
    simp [hn] at hx
  obtain ⟨n, hn⟩ := Option.isSome_iff_exists.1 (List.isSome_max?_of_ne_nil hne)
  obtain ⟨hmem, hmax⟩ := List.max?_eq_some_iff.1 hn
  obtain ⟨y, hy, rfl⟩ := List.mem_map.1 hmem
  refine ⟨y.1, ⟨y.2, hy⟩, ?_⟩
  rintro k ⟨m, hk⟩
  exact hmax k (List.mem_map.2 ⟨(k, m), hk, rfl⟩)

end Grammar

/-! ### Parsers with different limits -/

namespace Parser

variable {p : Parser} {policy : KeyPolicy} {query : String} {c : Condition} {d d' : Nat}

/-- A larger limit changes nothing but a refusal for the smaller one. -/
theorem agrees_parse_of_le (h : d ≤ d') :
    Agrees (· = .tooDeep d) ({ p with maxDepth := d }.parse query policy)
      ({ p with maxDepth := d' }.parse query policy) := by
  have hc (term : List Char) : Agrees (· = .tooDeep d)
      ({ p with maxDepth := d }.readComparison policy term)
      ({ p with maxDepth := d' }.readComparison policy term) := .refl _
  exact agrees_readNested hc h (.inl rfl) _

/-- Under a limit for which the text has a derivation, all that is left is to check the keys. -/
theorem parse_of_derives {as : List (List Grammar.Term)}
    (h : Grammar.Derives p.dialect.operators d (Escape.encode query.toList) as) :
    { p with maxDepth := d }.parse query policy =
      (fun _ => (Grammar.condition as).mapKeys p.transformKey) <$>
        policy.checkAll ((Grammar.condition as).mapKeys p.transformKey).comparisons := by
  have hplain : ({ p with maxDepth := d } : Parser).plain.readNested .unrestricted d
      (Escape.encode query.toList) = .ok (Grammar.condition as) :=
    (Grammar.readNested_eq_ok_iff rfl).2 ⟨as, h, rfl⟩
  have hf := ({ p with maxDepth := d } : Parser).filters_readNested policy d
    (Escape.encode query.toList)
  rw [hplain] at hf
  exact Filters.ok_iff.1 hf

end Parser

/-- A larger limit on nested groups gives the same tree or the same refusal, unless the query was
refused for the smaller limit. A query that is read under some limit is read alike under every limit
from the largest number of groups around one of its comparisons on, and refused for its groups under
every smaller one. -/
theorem parse_maxDepth (p : Parser) (policy : KeyPolicy) (query : String) :
    (∀ d d', d ≤ d' → { p with maxDepth := d }.parse query policy ≠ .error (.tooDeep d) →
      { p with maxDepth := d' }.parse query policy =
        { p with maxDepth := d }.parse query policy) ∧
    ∀ d c, { p with maxDepth := d }.parse query policy = .ok c →
      ∃ as n, Grammar.Derives p.dialect.operators d (Escape.encode query.toList) as ∧
        c.comparisons = (Grammar.placed as).map (fun x => p.comparisonOf x.2) ∧
        IsGreatest {k | ∃ m, (k, m) ∈ Grammar.placed as} n ∧
        ∀ limit, (n ≤ limit → { p with maxDepth := limit }.parse query policy = .ok c) ∧
          (limit < n →
            { p with maxDepth := limit }.parse query policy = .error (.tooDeep limit)) := by
  refine ⟨fun d d' hle hne => ?_, fun d c h => ?_⟩
  · refine (Parser.agrees_parse_of_le hle).eq_of_not fun e he => ?_
    rw [he]
    exact hne
  · obtain ⟨as, hd, rfl⟩ := Parser.exists_derives_of_readNested h
    have has : Grammar.Derives p.dialect.operators d (Escape.encode query.toList) as := hd
    obtain ⟨n, hn⟩ := has.exists_isGreatest
    refine ⟨as, n, has, ?_, hn, fun limit => ⟨fun hle => ?_, fun hlt => ?_⟩⟩
    · have hc := Grammar.Term.comparisons_condition p (.group as)
      rw [Grammar.Term.found_group, ← Grammar.map_placed, List.map_map] at hc
      exact hc
    · have hlimit : Grammar.Derives p.dialect.operators limit (Escape.encode query.toList) as :=
        has.iff_placed_le.2 fun x hx => Nat.le_trans (hn.2 ⟨x.2, hx⟩) hle
      rw [← h, Parser.parse_of_derives hlimit, Parser.parse_of_derives has]
    · -- the comparison that is placed deepest is out of reach, so the limit is met
      obtain ⟨⟨m, hm⟩, -⟩ := hn
      have hnd : n ≤ d := has.iff_placed_le.1 has (n, m) hm
      rcases @Parser.agrees_parse_of_le p policy query limit d (by omega) with ⟨e, he, rfl⟩ | heq
      · exact he
      · obtain ⟨as', hd', -⟩ := Parser.exists_derives_of_readNested (heq ▸ h)
        obtain rfl := has.unique hd'
        have : n ≤ limit := has.iff_placed_le.1 hd' (n, m) hm
        omega

/-- A refusal before the first group is the same under all limits. The parentheses around a list of
values and within it do not count, those of two groups inside each other do. -/
theorem parse_maxDepth_mongo :
    (∀ limit, { Parser.mongo with maxDepth := limit }.parse "a;(b==1)" .unrestricted =
      .error (.noOperator "a")) ∧
    ∀ limit,
      (2 ≤ limit → { Parser.mongo with maxDepth := limit }.parse "(a=in=((1),2);(b==3)),c==4"
        .unrestricted = .ok (.any [.all [.comparison ⟨"a", "=in=", "(1),2"⟩,
          .comparison ⟨"b", "==", "3"⟩], .comparison ⟨"c", "==", "4"⟩])) ∧
      (limit < 2 → { Parser.mongo with maxDepth := limit }.parse "(a=in=((1),2);(b==3)),c==4"
        .unrestricted = .error (.tooDeep limit)) := by
  constructor
  · intro limit
    have h : ({ Parser.mongo with maxDepth := 0 } : Parser).parse "a;(b==1)" .unrestricted =
        .error (.noOperator "a") := by cbv
    refine ((parse_maxDepth .mongo .unrestricted "a;(b==1)").1 0 limit (Nat.zero_le _) ?_).trans h
    rw [h]
    simp
  · have h₂ : ({ Parser.mongo with maxDepth := 2 } : Parser).parse "(a=in=((1),2);(b==3)),c==4"
        .unrestricted = .ok (.any [.all [.comparison ⟨"a", "=in=", "(1),2"⟩,
          .comparison ⟨"b", "==", "3"⟩], .comparison ⟨"c", "==", "4"⟩]) := by cbv
    have h₁ : ({ Parser.mongo with maxDepth := 1 } : Parser).parse "(a=in=((1),2);(b==3)),c==4"
        .unrestricted = .error (.tooDeep 1) := by cbv
    obtain ⟨as, n, -, -, -, hn⟩ :=
      (parse_maxDepth .mongo .unrestricted "(a=in=((1),2);(b==3)),c==4").2 2 _ h₂
    have hle : n ≤ 2 := by
      by_contra hlt
      have := (hn 2).2 (by omega)
      simp [h₂] at this
    have hlt : 1 < n := by
      by_contra hge
      have := (hn 1).1 (by omega)
      simp [h₁] at this
    obtain rfl : n = 2 := by omega
    exact hn

end FilterQuery
