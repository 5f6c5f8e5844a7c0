import FilterQuery.Proofs.Terms
import FilterQuery.Query.Parser

/-!
# Conditions in normal form

`Flat` conditions have no conjunction directly inside a conjunction, no disjunction directly inside
a disjunction, and no conjunction or disjunction of exactly one condition. What is `Built` from
comparisons by `conj` and `disj` is flat, and on flat conditions joining is associative
(`join_pair`) and leaves a single condition as it is (`Flat.join_singleton`).

`Normal` conditions are flat ones in which also nothing joins no conditions at all. Joining some
normal conditions gives normal ones (`Normal.join`), so all that is read is built and normal
(`joining_normalForm`).

`conj` and `disj` differ in the constructor only. Both are `merge`, and what holds of both is stated
for a `Kind`.
-/

namespace FilterQuery

namespace Condition

/-- Whether a condition is a conjunction. -/
def isAll : Condition → Bool
  | all _ => true
  | _ => false

/-- Whether a condition is a disjunction. -/
def isAny : Condition → Bool
  | any _ => true
  | _ => false

/-- A condition that is put together from comparisons by `conj` and `disj` alone. -/
inductive Built : Condition → Prop
  | comparison (c : Comparison) : Built (.comparison c)
  | conj {cs : List Condition} (each : ∀ c ∈ cs, Built c) : Built (.conj cs)
  | disj {cs : List Condition} (each : ∀ c ∈ cs, Built c) : Built (.disj cs)

/-- No condition of a kind stands directly inside one of the same kind, and none of them joins just
one. -/
inductive Flat : Condition → Prop
  | comparison (c : Comparison) : Flat (.comparison c)
  | all {children : List Condition} (notOne : children.length ≠ 1)
      (each : ∀ c ∈ children, Flat c) (flat : ∀ c ∈ children, c.isAll = false) :
      Flat (.all children)
  | any {children : List Condition} (notOne : children.length ≠ 1)
      (each : ∀ c ∈ children, Flat c) (flat : ∀ c ∈ children, c.isAny = false) :
      Flat (.any children)

/-- No condition of a kind stands directly inside one of the same kind, and none of them joins fewer
than two. -/
inductive Normal : Condition → Prop
  | comparison (c : Comparison) : Normal (.comparison c)
  | all {children : List Condition} (two : 2 ≤ children.length)
      (each : ∀ c ∈ children, Normal c) (flat : ∀ c ∈ children, c.isAll = false) :
      Normal (.all children)
  | any {children : List Condition} (two : 2 ≤ children.length)
      (each : ∀ c ∈ children, Normal c) (flat : ∀ c ∈ children, c.isAny = false) :
      Normal (.any children)

/-! ### Merging -/

section Merge

variable {parts : Condition → List Condition} {node : List Condition → Condition}
  {c : Condition} {cs ds : List Condition}

/-- The parts of some conditions, put together unless there is only one. -/
def merge (parts : Condition → List Condition) (node : List Condition → Condition)
    (cs : List Condition) : Condition :=
  match cs.flatMap parts with
  | [c] => c
  | children => node children

theorem merge_of_ne_one (h : (cs.flatMap parts).length ≠ 1) :
    merge parts node cs = node (cs.flatMap parts) := by
  unfold merge
  split
  · next hc => simp [hc] at h
  · rfl

theorem merge_of_flat (two : 2 ≤ cs.length) (h : ∀ c ∈ cs, parts c = [c]) :
    merge parts node cs = node cs := by
  have hf : cs.flatMap parts = cs := by
    rw [List.flatMap_congr h, List.flatMap_singleton']
  rw [merge_of_ne_one (by rw [hf]; omega), hf]

theorem parts_merge (hnode : ∀ cs, parts (node cs) = cs)
    (hparts : ∀ c ∈ cs, ∀ d ∈ parts c, parts d = [d]) :
    parts (merge parts node cs) = cs.flatMap parts := by
  unfold merge
  split
  · next d hd =>
    have hm : d ∈ cs.flatMap parts := by simp [hd]
    obtain ⟨c, hc, hd'⟩ := List.mem_flatMap.1 hm
    rw [hd, hparts c hc d hd']
  · exact hnode _

theorem merge_mem_or_ne_one (parts : Condition → List Condition)
    (node : List Condition → Condition) (cs : List Condition) :
    merge parts node cs ∈ cs.flatMap parts ∨
      (cs.flatMap parts).length ≠ 1 ∧ merge parts node cs = node (cs.flatMap parts) := by
  by_cases one : (cs.flatMap parts).length = 1
  · obtain ⟨c, hc⟩ := List.length_eq_one_iff.1 one
    exact .inl (by simp [merge, hc])
  · exact .inr ⟨one, merge_of_ne_one one⟩

theorem one_le_flatMap (hne : cs ≠ []) (h : ∀ c ∈ cs, 1 ≤ (parts c).length) :
    1 ≤ (cs.flatMap parts).length := by
  obtain ⟨c, cs, rfl⟩ := List.exists_cons_of_ne_nil hne
  have := h c (by simp)
  simp only [List.flatMap_cons, List.length_append]
  omega

theorem merge_congr (h : cs.flatMap parts = ds.flatMap parts) :
    merge parts node cs = merge parts node ds := by
  rw [merge, h, merge]

/-- What is computed from the parts of conditions can be computed before they are merged. -/
theorem eval_merge {α : Type} {eval : Condition → α} {evalAll : List Condition → α}
    (hnode : ∀ cs, eval (node cs) = evalAll cs) (hone : ∀ c, evalAll [c] = eval c)
    (hflat : ∀ cs : List Condition, evalAll (cs.flatMap parts) = evalAll cs)
    (cs : List Condition) : eval (merge parts node cs) = evalAll cs := by
  rw [← hflat cs]
  unfold merge
  split
  · next c hc => rw [hc, hone]
  · exact hnode _

theorem comparisons_merge (hnode : ∀ cs, (node cs).comparisons = comparisonsOf cs)
    (hparts : ∀ c, comparisonsOf (parts c) = c.comparisons) (cs : List Condition) :
    (merge parts node cs).comparisons = comparisonsOf cs := by
  refine eval_merge hnode (fun c => by simp [comparisonsOf]) (fun cs => ?_) cs
  induction cs with
  | nil => rfl
  | cons c cs ih => rw [List.flatMap_cons, comparisonsOf_append, hparts, ih, comparisonsOf]

theorem comparisons_conj (cs : List Condition) : (conj cs).comparisons = comparisonsOf cs :=
  comparisons_merge (fun _ => rfl) comparisonsOf_conjuncts cs

theorem comparisons_disj (cs : List Condition) : (disj cs).comparisons = comparisonsOf cs :=
  comparisons_merge (fun _ => rfl) comparisonsOf_disjuncts cs

end Merge

/-! ### Conjunctions and disjunctions -/

/-- The two kinds of conditions that join others. -/
inductive Kind where
  | conjunction
  | disjunction

section Kind

variable {k : Kind} {P : Condition → Prop} {c : Condition} {cs : List Condition}

namespace Kind

/-- The condition of a kind that joins some conditions, as they are. -/
def node : Kind → List Condition → Condition
  | conjunction => all
  | disjunction => any

/-- The conditions that a condition adds to one of a kind around it. -/
def parts : Kind → Condition → List Condition
  | conjunction => conjuncts
  | disjunction => disjuncts

/-- Whether a condition is of a kind. -/
def isOf : Kind → Condition → Bool
  | conjunction => isAll
  | disjunction => isAny

/-- The condition of a kind for some conditions, merged one level deep. -/
def join (k : Kind) (cs : List Condition) : Condition :=
  merge k.parts k.node cs

theorem parts_node (k : Kind) (cs : List Condition) : k.parts (k.node cs) = cs := by
  cases k <;> rfl

theorem parts_of_isOf (h : k.isOf c = false) : k.parts c = [c] := by
  cases k <;> cases c <;> first | rfl | simp [isOf, isAll, isAny] at h

theorem exists_eq_node (h : k.isOf c = true) : ∃ cs, c = k.node cs := by
  cases k <;> cases c <;> first | exact ⟨_, rfl⟩ | simp [isOf, isAll, isAny] at h

theorem join_of_flat (two : 2 ≤ cs.length) (h : ∀ c ∈ cs, k.isOf c = false) :
    k.join cs = k.node cs :=
  merge_of_flat two fun c hc => parts_of_isOf (h c hc)

theorem of_mem_parts (hnode : ∀ cs, P (k.node cs) → ∀ c ∈ cs, P c ∧ k.isOf c = false) (h : P c) :
    ∀ d ∈ k.parts c, P d ∧ k.isOf d = false := by
  cases hk : k.isOf c with
  | false => simpa [parts_of_isOf hk] using ⟨h, hk⟩
  | true =>
    obtain ⟨cs, rfl⟩ := exists_eq_node hk
    rw [parts_node]
    exact hnode cs h

/-- Joining keeps what a condition of the kind hands down to its parts and has from them, if they
are not of the kind. -/
theorem join_kept (hnode : ∀ cs, P (k.node cs) → ∀ c ∈ cs, P c ∧ k.isOf c = false)
    (hparts : (cs.flatMap k.parts).length ≠ 1 →
      (∀ d ∈ cs.flatMap k.parts, P d ∧ k.isOf d = false) → P (k.node (cs.flatMap k.parts)))
    (h : ∀ c ∈ cs, P c) : P (k.join cs) := by
  have hm (d : Condition) (hd : d ∈ cs.flatMap k.parts) : P d ∧ k.isOf d = false :=
    let ⟨c, hc, hd⟩ := List.mem_flatMap.1 hd
    of_mem_parts hnode (h c hc) d hd
  rcases merge_mem_or_ne_one k.parts k.node cs with hd | ⟨notOne, he⟩
  · exact (hm _ hd).1
  · rw [join, he]
    exact hparts notOne hm

end Kind

end Kind

/-! ### Flat conditions -/

section Flat

variable {k : Kind} {c : Condition} {cs ds : List Condition}

theorem Flat.node_iff : (k.node cs).Flat ↔
    cs.length ≠ 1 ∧ ∀ c ∈ cs, c.Flat ∧ k.isOf c = false := by
  cases k with
  | conjunction =>
    show (Condition.all cs).Flat ↔ cs.length ≠ 1 ∧ ∀ c ∈ cs, c.Flat ∧ c.isAll = false
    refine ⟨fun h => ?_, fun ⟨notOne, h⟩ =>
      .all notOne (fun c hc => (h c hc).1) fun c hc => (h c hc).2⟩
    cases h with
    | all notOne each flat => exact ⟨notOne, fun c hc => ⟨each c hc, flat c hc⟩⟩
  | disjunction =>
    show (Condition.any cs).Flat ↔ cs.length ≠ 1 ∧ ∀ c ∈ cs, c.Flat ∧ c.isAny = false
    refine ⟨fun h => ?_, fun ⟨notOne, h⟩ =>
      .any notOne (fun c hc => (h c hc).1) fun c hc => (h c hc).2⟩
    cases h with
    | any notOne each flat => exact ⟨notOne, fun c hc => ⟨each c hc, flat c hc⟩⟩

theorem Flat.of_node (cs : List Condition) (h : (k.node cs).Flat) :
    ∀ c ∈ cs, c.Flat ∧ k.isOf c = false :=
  (Flat.node_iff.1 h).2

theorem Flat.join (h : ∀ c ∈ cs, Flat c) : (k.join cs).Flat :=
  Kind.join_kept Flat.of_node (fun notOne hm => Flat.node_iff.2 ⟨notOne, hm⟩) h

theorem Built.flat (h : c.Built) : c.Flat := by
  induction h with
  | comparison c => exact .comparison c
  | conj _ ih => exact Flat.join (k := .conjunction) ih
  | disj _ ih => exact Flat.join (k := .disjunction) ih

theorem Flat.join_singleton (h : c.Flat) : k.join [c] = c := by
  cases hk : k.isOf c with
  | false => simp [Kind.join, merge, Kind.parts_of_isOf hk]
  | true =>
    obtain ⟨cs, rfl⟩ := Kind.exists_eq_node hk
    rw [Kind.join, merge_of_ne_one]
    · simp [Kind.parts_node]
    · simpa [Kind.parts_node] using (Flat.node_iff.1 h).1

theorem Flat.conj_singleton (h : c.Flat) : conj [c] = c :=
  Flat.join_singleton (k := .conjunction) h

theorem Flat.disj_singleton (h : c.Flat) : disj [c] = c :=
  Flat.join_singleton (k := .disjunction) h

theorem parts_join (h : ∀ c ∈ cs, Flat c) : k.parts (k.join cs) = cs.flatMap k.parts :=
  parts_merge k.parts_node fun c hc d hd =>
    Kind.parts_of_isOf (Kind.of_mem_parts Flat.of_node (h c hc) d hd).2

theorem join_pair (hc : ∀ c ∈ cs, Flat c) (hd : ∀ d ∈ ds, Flat d) :
    k.join [k.join cs, k.join ds] = k.join (cs ++ ds) := by
  refine merge_congr ?_
  simp [parts_join hc, parts_join hd]

theorem conj_pair (hc : ∀ c ∈ cs, Flat c) (hd : ∀ d ∈ ds, Flat d) :
    conj [conj cs, conj ds] = conj (cs ++ ds) :=
  join_pair (k := .conjunction) hc hd

theorem disj_pair (hc : ∀ c ∈ cs, Flat c) (hd : ∀ d ∈ ds, Flat d) :
    disj [disj cs, disj ds] = disj (cs ++ ds) :=
  join_pair (k := .disjunction) hc hd

end Flat

/-! ### Normal conditions -/

section Normal

variable {k : Kind} {c : Condition} {cs : List Condition}

theorem Normal.flat (h : c.Normal) : c.Flat := by
  induction h with
  | comparison c => exact .comparison c
  | all two _ flat ih => exact .all (by omega) ih flat
  | any two _ flat ih => exact .any (by omega) ih flat

theorem Normal.node_iff : (k.node cs).Normal ↔
    2 ≤ cs.length ∧ ∀ c ∈ cs, c.Normal ∧ k.isOf c = false := by
  cases k with
  | conjunction =>
    show (Condition.all cs).Normal ↔ 2 ≤ cs.length ∧ ∀ c ∈ cs, c.Normal ∧ c.isAll = false
    refine ⟨fun h => ?_, fun ⟨two, h⟩ => .all two (fun c hc => (h c hc).1) fun c hc => (h c hc).2⟩
    cases h with
    | all two each flat => exact ⟨two, fun c hc => ⟨each c hc, flat c hc⟩⟩
  | disjunction =>
    show (Condition.any cs).Normal ↔ 2 ≤ cs.length ∧ ∀ c ∈ cs, c.Normal ∧ c.isAny = false
    refine ⟨fun h => ?_, fun ⟨two, h⟩ => .any two (fun c hc => (h c hc).1) fun c hc => (h c hc).2⟩
    cases h with
    | any two each flat => exact ⟨two, fun c hc => ⟨each c hc, flat c hc⟩⟩

theorem Normal.one_le_parts (h : c.Normal) : 1 ≤ (k.parts c).length := by
  cases hk : k.isOf c with
  | false => simp [Kind.parts_of_isOf hk]
  | true =>
    obtain ⟨cs, rfl⟩ := Kind.exists_eq_node hk
    rw [Kind.parts_node]
    exact Nat.le_of_succ_le (Normal.node_iff.1 h).1

theorem Normal.join (hne : cs ≠ []) (h : ∀ c ∈ cs, Normal c) : (k.join cs).Normal := by
  have hone : 1 ≤ (cs.flatMap k.parts).length :=
    one_le_flatMap hne fun c hc => (h c hc).one_le_parts
  refine Kind.join_kept (fun _ h => (Normal.node_iff.1 h).2) (fun notOne hm => ?_) h
  exact Normal.node_iff.2 ⟨by omega, hm⟩

end Normal

end Condition

/-! ### What is read -/

/-- A property of conditions that comparisons have, and that is kept when some conditions are
joined. -/
structure Condition.KeptByJoining (P : Condition → Prop) : Prop where
  comparison : ∀ c, P (.comparison c)
  conj : ∀ cs, cs ≠ [] → (∀ c ∈ cs, P c) → P (.conj cs)
  disj : ∀ cs, cs ≠ [] → (∀ c ∈ cs, P c) → P (.disj cs)

theorem Condition.keptByJoining_normal : KeptByJoining Normal :=
  ⟨.comparison, fun _ => Normal.join (k := .conjunction), fun _ => Normal.join (k := .disjunction)⟩

theorem Condition.keptByJoining_built : KeptByJoining Built :=
  ⟨.comparison, fun _ _ => .conj, fun _ _ => .disj⟩

namespace Parser

variable {p : Parser} {policy : KeyPolicy} {enter : List Char → Except QueryError Condition}
  {text : List Char} {c : Condition} {P : Condition → Prop} (hP : Condition.KeptByJoining P)

include hP

theorem readTerm_kept (he : ∀ inner c, enter inner = .ok c → P c)
    (h : p.readTerm policy enter text = .ok c) : P c := by
  rw [readTerm_eq, bind_eq_ok_iff] at h
  obtain ⟨shape, -, h⟩ := h
  have hcmp (h : Condition.comparison <$> p.readComparison policy text = .ok c) : P c := by
    obtain ⟨c, -, rfl⟩ := map_eq_ok_iff.1 h
    exact hP.comparison c
  cases shape with
  | group inner => exact he inner c h
  | listArgument => exact hcmp h
  | plain => exact hcmp h

theorem readAlternative_kept (he : ∀ inner c, enter inner = .ok c → P c)
    (h : p.readAlternative policy enter text = .ok c) : P c := by
  rw [readAlternative_eq] at h
  obtain ⟨cs, hne, hcs, rfl⟩ := Terms.exists_of_split_mapM h
  exact hP.conj cs hne fun c hc => (hcs c hc).elim fun _ h => readTerm_kept hP he h

theorem readLevel_kept (he : ∀ inner c, enter inner = .ok c → P c)
    (h : p.readLevel policy enter text = .ok c) : P c := by
  rw [readLevel_eq] at h
  obtain ⟨cs, hne, hcs, rfl⟩ := Terms.exists_of_split_mapM h
  exact hP.disj cs hne fun c hc => (hcs c hc).elim fun _ h => readAlternative_kept hP he h

theorem readNested_kept {depth : Nat} (h : p.readNested policy depth text = .ok c) : P c := by
  induction depth generalizing text c with
  | zero => exact readLevel_kept hP (fun _ _ h => by simp at h) h
  | succ depth ih => exact readLevel_kept hP (fun _ _ h => ih h) h

omit hP in
theorem readNested_normal {depth : Nat} (h : p.readNested policy depth text = .ok c) :
    c.Normal :=
  readNested_kept Condition.keptByJoining_normal h

end Parser

open Condition in
/-- What is built from comparisons by joining is flat at every depth. There joining is associative
and leaves a single condition as it is. Whatever is read from a query is built in this way, and
moreover each conjunction and each disjunction in it joins at least two conditions. -/
theorem joining_normalForm :
    (∀ c, Built c → Flat c) ∧
    (∀ cs ds, (∀ c ∈ cs, Built c) → (∀ d ∈ ds, Built d) →
      conj [conj cs, conj ds] = conj (cs ++ ds) ∧ disj [disj cs, disj ds] = disj (cs ++ ds)) ∧
    (∀ c, Built c → conj [c] = c ∧ disj [c] = c) ∧
    ∀ (p : Parser) (policy : KeyPolicy) (query : String) (c : Condition),
      p.parse query policy = .ok c → Built c ∧ Normal c := by
  refine ⟨fun c h => h.flat, fun cs ds hc hd => ?_, fun c h => ?_, fun p policy query c h => ?_⟩
  · have hcs (c : Condition) (h : c ∈ cs) : c.Flat := (hc c h).flat
    have hds (d : Condition) (h : d ∈ ds) : d.Flat := (hd d h).flat
    exact ⟨conj_pair hcs hds, disj_pair hcs hds⟩
  · exact ⟨h.flat.conj_singleton, h.flat.disj_singleton⟩
  · exact ⟨Parser.readNested_kept keptByJoining_built h, Parser.readNested_normal h⟩

open Condition in
/-- Empty conjunctions and disjunctions among others, and a query with redundant groups. -/
theorem joining_normalForm_nested :
    Built (disj [conj [], disj [], conj [conj [comparison ⟨"a", "==", "1"⟩]]]) ∧
    Flat (disj [conj [], disj [], conj [conj [comparison ⟨"a", "==", "1"⟩]]]) ∧
    conj [conj [conj []], conj [comparison ⟨"a", "==", "1"⟩]] =
      conj [conj [], comparison ⟨"a", "==", "1"⟩] ∧
    disj [disj [conj []], disj [comparison ⟨"a", "==", "1"⟩]] =
      disj [conj [], comparison ⟨"a", "==", "1"⟩] ∧
    conj [disj []] = disj [] ∧
    Parser.mongo.parse "((a==1));((b==2;(c==3)))" .unrestricted =
      .ok (all [comparison ⟨"a", "==", "1"⟩, comparison ⟨"b", "==", "2"⟩,
        comparison ⟨"c", "==", "3"⟩]) ∧
    Normal (all [comparison ⟨"a", "==", "1"⟩, comparison ⟨"b", "==", "2"⟩,
      comparison ⟨"c", "==", "3"⟩]) := by
  have hone (x : Comparison) : ∀ c ∈ [comparison x], Built c := by simpa using Built.comparison x
  have hempty : Built (conj []) := .conj (by simp)
  have hnone : ∀ c ∈ [conj []], Built c := by simpa using hempty
  have hbuilt : Built (disj [conj [], disj [], conj [conj [comparison ⟨"a", "==", "1"⟩]]]) := by
    refine .disj ?_
    simp only [List.mem_cons, List.not_mem_nil, or_false, forall_eq_or_imp, forall_eq]
    exact ⟨.conj (by simp), .disj (by simp), .conj (by simpa using Built.conj (hone _))⟩
  have hparse : Parser.mongo.parse "((a==1));((b==2;(c==3)))" .unrestricted =
      .ok (all [comparison ⟨"a", "==", "1"⟩, comparison ⟨"b", "==", "2"⟩,
        comparison ⟨"c", "==", "3"⟩]) := by cbv
  obtain ⟨hflat, hpair, hsingle, hread⟩ := joining_normalForm
  obtain ⟨hconj, hdisj⟩ := hpair [conj []] [comparison ⟨"a", "==", "1"⟩] hnone (hone _)
  exact ⟨hbuilt, hflat _ hbuilt, hconj, hdisj, (hsingle _ (.disj (by simp))).1, hparse,
    (hread _ _ _ _ hparse).2⟩

end FilterQuery
