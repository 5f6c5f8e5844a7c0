import FilterQuery.Proofs.NormalForm

/-!
# Keys are checked after the fact

Transforms and the policy on keys do not change how a query is read. A run with them gives what the
plain run gives, with every key transformed, unless a key is refused; then it gives the refusal of
the first such key in the order of `comparisons`. If the plain run is refused, the run with them is
refused for the same cause or for a key that is read before it (`parse_eq_of_plain`).

`Filters` relates the two runs of a part of a query. It is kept by every step of reading
(`Filters.bind`, `Filters.map`, `Filters.mapM`).
-/

namespace FilterQuery

/-- A condition with every key changed. -/
def Condition.mapKeys (f : String → String) : Condition → Condition
  | comparison c => comparison { c with key := f c.key }
  | all children => all (children.map (mapKeys f))
  | any children => any (children.map (mapKeys f))

/-- Whether a key is the cause of a refusal. -/
def QueryError.IsKeyError (e : QueryError) : Prop :=
  ∃ key, e = .keyNotAllowed key ∨ e = .keyForbidden key

namespace KeyPolicy

/-- A policy admits a key that is on its list of allowed keys, if there is one, and not on its list
of forbidden keys, if there is one. -/
def Admits (policy : KeyPolicy) (key : String) : Prop :=
  (∀ keys, policy.allowed = some keys → key ∈ keys) ∧
    ∀ keys, policy.forbidden = some keys → key ∉ keys

/-- Refuses the first comparison whose key is refused. -/
def checkAll (policy : KeyPolicy) (cs : List Comparison) : Except QueryError Unit :=
  cs.forM fun c => policy.check c.key

variable {policy : KeyPolicy} {key : String}

theorem check_eq_ok_iff_admits : policy.check key = .ok () ↔ policy.Admits key := by
  rw [check_eq_ok_iff, Admits, allows, forbids]
  cases policy.allowed <;> cases policy.forbidden <;> simp

theorem checkAll_append (cs ds : List Comparison) :
    policy.checkAll (cs ++ ds) = policy.checkAll cs >>= fun _ => policy.checkAll ds := by
  simp [checkAll]

theorem checkAll_cons (c : Comparison) (cs : List Comparison) :
    policy.checkAll (c :: cs) = policy.check c.key >>= fun _ => policy.checkAll cs := rfl

theorem checkAll_singleton (c : Comparison) : policy.checkAll [c] = policy.check c.key := by
  simp [checkAll]

theorem checkAll_eq_ok_iff {cs : List Comparison} :
    policy.checkAll cs = .ok () ↔ ∀ c ∈ cs, policy.Admits c.key := by
  induction cs with
  | nil => simp [checkAll, pure, Except.pure]
  | cons c cs ih =>
    rw [checkAll_cons, bind_eq_ok_iff, List.forall_mem_cons, ← ih, ← check_eq_ok_iff_admits]
    exact ⟨fun ⟨_, hc, hcs⟩ => ⟨hc, hcs⟩, fun ⟨hc, hcs⟩ => ⟨(), hc, hcs⟩⟩

theorem exists_of_checkAll {cs : List Comparison} {e : QueryError}
    (h : policy.checkAll cs = .error e) :
    ∃ before c after, cs = before ++ c :: after ∧ (∀ d ∈ before, policy.Admits d.key) ∧
      policy.check c.key = .error e := by
  induction cs with
  | nil => simp [checkAll, pure, Except.pure] at h
  | cons c cs ih =>
    rw [checkAll_cons] at h
    cases hc : policy.check c.key with
    | error e' =>
      rw [hc] at h
      exact ⟨[], c, cs, rfl, by simp, hc.trans h⟩
    | ok u =>
      rw [hc] at h
      obtain ⟨before, d, after, rfl, hb, hd⟩ := ih h
      refine ⟨c :: before, d, after, rfl, ?_, hd⟩
      simpa using ⟨check_eq_ok_iff_admits.1 hc, hb⟩

theorem isKeyError_of_checkAll {cs : List Comparison} {e : QueryError}
    (h : policy.checkAll cs = .error e) : e.IsKeyError := by
  obtain ⟨-, c, -, -, -, hc⟩ := exists_of_checkAll h
  exact ⟨c.key, exists_of_check hc⟩

end KeyPolicy

/-! ### Conditions with changed keys -/

namespace Condition

variable (f : String → String)

theorem comparisonsOf_eq (cs : List Condition) : comparisonsOf cs = cs.flatMap comparisons := by
  induction cs with
  | nil => rfl
  | cons c cs ih => rw [comparisonsOf, ih, List.flatMap_cons]

theorem mapKeys_merge {parts : Condition → List Condition} {node : List Condition → Condition}
    (hnode : ∀ cs, (node cs).mapKeys f = node (cs.map (mapKeys f)))
    (hparts : ∀ c, parts (c.mapKeys f) = (parts c).map (mapKeys f)) (cs : List Condition) :
    (merge parts node cs).mapKeys f = merge parts node (cs.map (mapKeys f)) := by
  have hf : (cs.map (mapKeys f)).flatMap parts = (cs.flatMap parts).map (mapKeys f) := by
    induction cs with
    | nil => rfl
    | cons c cs ih => simp [hparts, ih]
  rw [merge, merge, hf]
  cases cs.flatMap parts with
  | nil => exact hnode []
  | cons c rest =>
    cases rest with
    | nil => rfl
    | cons d rest => exact hnode (c :: d :: rest)

theorem mapKeys_conj (cs : List Condition) : (conj cs).mapKeys f = conj (cs.map (mapKeys f)) := by
  refine mapKeys_merge f (fun cs => by rw [mapKeys]) (fun c => ?_) cs
  cases c <;> simp [mapKeys, conjuncts]

theorem mapKeys_disj (cs : List Condition) : (disj cs).mapKeys f = disj (cs.map (mapKeys f)) := by
  refine mapKeys_merge f (fun cs => by rw [mapKeys]) (fun c => ?_) cs
  cases c <;> simp [mapKeys, disjuncts]

end Condition

/-! ### Filtered runs -/

/-- A run that changes what a plain run gives and checks the keys of that, or stops earlier because
of a key. -/
def Filters (policy : KeyPolicy) {α : Type} (keys : α → List Comparison) (change : α → α)
    (plain run : Except QueryError α) : Prop :=
  match plain with
  | .ok a => run = (fun _ => change a) <$> policy.checkAll (keys (change a))
  | .error e => ∃ e', run = .error e' ∧ (e' = e ∨ e'.IsKeyError)

namespace Filters

variable {policy : KeyPolicy} {α β γ : Type} {keys : α → List Comparison} {change : α → α}
  {plain run : Except QueryError α}

theorem ok_iff {a : α} : Filters policy keys change (.ok a) run ↔
    run = (fun _ => change a) <$> policy.checkAll (keys (change a)) := Iff.rfl

theorem error_iff {e : QueryError} : Filters policy keys change (.error e) run ↔
    ∃ e', run = .error e' ∧ (e' = e ∨ e'.IsKeyError) := Iff.rfl

theorem exists_of_ok {b : α} (h : Filters policy keys change plain (.ok b)) :
    ∃ a, plain = .ok a ∧ b = change a := by
  cases plain with
  | error e =>
    obtain ⟨e', he, -⟩ := error_iff.1 h
    simp at he
  | ok a =>
    obtain ⟨u, -, hb⟩ := map_eq_ok_iff.1 (ok_iff.1 h).symm
    exact ⟨a, rfl, hb.symm⟩

theorem bind {x : Except QueryError γ} {f g : γ → Except QueryError α}
    (h : ∀ c, Filters policy keys change (f c) (g c)) :
    Filters policy keys change (x >>= f) (x >>= g) := by
  cases x with
  | error e => exact ⟨e, rfl, .inl rfl⟩
  | ok c => exact h c

theorem map {keys' : β → List Comparison} {change' : β → β} {f : α → β}
    (hk : ∀ a, keys' (f a) = keys a) (hc : ∀ a, change' (f a) = f (change a))
    (h : Filters policy keys change plain run) :
    Filters policy keys' change' (f <$> plain) (f <$> run) := by
  cases plain with
  | error e =>
    obtain ⟨e', rfl, he⟩ := h
    exact ⟨e', rfl, he⟩
  | ok a =>
    rw [ok_iff] at h
    refine ok_iff.2 ?_
    rw [h, hc, hk, Functor.map_map]

theorem mapM {f g : γ → Except QueryError α} (h : ∀ c, Filters policy keys change (f c) (g c))
    (cs : List γ) : Filters policy (fun as => as.flatMap keys) (fun as => as.map change)
      (cs.mapM f) (cs.mapM g) := by
  induction cs with
  | nil => exact rfl
  | cons c cs ih =>
    rw [List.mapM_cons, List.mapM_cons]
    have hc := h c
    cases hf : f c with
    | error e =>
      rw [hf, error_iff] at hc
      obtain ⟨e', hg, he⟩ := hc
      exact ⟨e', by rw [hg]; rfl, he⟩
    | ok a =>
      rw [hf, ok_iff] at hc
      rw [hc]
      cases hk : policy.checkAll (keys (change a)) with
      | error e' =>
        -- the run stops here, whatever the plain run meets later
        cases hm : cs.mapM f with
        | error e => exact ⟨e', rfl, .inr (KeyPolicy.isKeyError_of_checkAll hk)⟩
        | ok as =>
          refine ok_iff.2 ?_
          rw [List.map_cons, List.flatMap_cons, KeyPolicy.checkAll_append, hk]
          rfl
      | ok u =>
        cases hm : cs.mapM f with
        | error e =>
          rw [hm, error_iff] at ih
          obtain ⟨e', hg, he⟩ := ih
          exact ⟨e', by rw [hg]; rfl, he⟩
        | ok as =>
          rw [hm, ok_iff] at ih
          refine ok_iff.2 ?_
          rw [List.map_cons, List.flatMap_cons, KeyPolicy.checkAll_append, hk, ih]
          cases policy.checkAll ((as.map change).flatMap keys) <;> rfl

end Filters

/-! ### Reading -/

namespace Parser

variable (p : Parser) (policy : KeyPolicy)

/-- The parser without its transforms. -/
def plain : Parser :=
  { p with transforms := [] }

theorem filters_readComparison (term : List Char) :
    Filters policy (fun c => [c]) (fun c => { c with key := p.transformKey c.key })
      (p.plain.readComparison .unrestricted term) (p.readComparison policy term) := by
  refine .bind fun m => ?_
  show _ = _ <$> policy.checkAll [_]
  rw [KeyPolicy.checkAll_singleton]
  show (policy.check (p.transformKey (String.ofList m.key)) >>= _) =
    _ <$> policy.check (p.transformKey (String.ofList m.key))
  cases policy.check (p.transformKey (String.ofList m.key)) <;> rfl

section Level

variable {enter enter' : List Char → Except QueryError Condition}
  (h : ∀ inner, Filters policy Condition.comparisons (Condition.mapKeys p.transformKey)
    (enter inner) (enter' inner))

include h in
theorem filters_readTerm (term : List Char) :
    Filters policy Condition.comparisons (Condition.mapKeys p.transformKey)
      (p.plain.readTerm .unrestricted enter term) (p.readTerm policy enter' term) := by
  rw [readTerm_eq, readTerm_eq]
  have hcmp : Filters policy Condition.comparisons (Condition.mapKeys p.transformKey)
      (Condition.comparison <$> p.plain.readComparison .unrestricted term)
      (Condition.comparison <$> p.readComparison policy term) :=
    .map (fun c => by rw [Condition.comparisons]) (fun c => by rw [Condition.mapKeys])
      (p.filters_readComparison policy term)
  refine .bind fun shape => ?_
  cases shape with
  | group inner => exact h inner
  | listArgument => exact hcmp
  | plain => exact hcmp

include h in
theorem filters_readAlternative (text : List Char) :
    Filters policy Condition.comparisons (Condition.mapKeys p.transformKey)
      (p.plain.readAlternative .unrestricted enter text)
      (p.readAlternative policy enter' text) := by
  rw [readAlternative_eq, readAlternative_eq]
  refine .bind fun terms => ?_
  refine .map (fun cs => ?_) (fun cs => ?_) (Filters.mapM (p.filters_readTerm policy h) terms)
  · rw [Condition.comparisons_conj, Condition.comparisonsOf_eq]
  · exact Condition.mapKeys_conj _ cs

include h in
theorem filters_readLevel (text : List Char) :
    Filters policy Condition.comparisons (Condition.mapKeys p.transformKey)
      (p.plain.readLevel .unrestricted enter text) (p.readLevel policy enter' text) := by
  rw [readLevel_eq, readLevel_eq]
  refine .bind fun alternatives => ?_
  refine .map (fun cs => ?_) (fun cs => ?_)
    (Filters.mapM (p.filters_readAlternative policy h) alternatives)
  · rw [Condition.comparisons_disj, Condition.comparisonsOf_eq]
  · exact Condition.mapKeys_disj _ cs

end Level

theorem filters_readNested (depth : Nat) (text : List Char) :
    Filters policy Condition.comparisons (Condition.mapKeys p.transformKey)
      (p.plain.readNested .unrestricted depth text) (p.readNested policy depth text) := by
  induction depth generalizing text with
  | zero =>
    refine p.filters_readLevel policy (fun inner => ?_) text
    exact ⟨.tooDeep p.maxDepth, rfl, .inl rfl⟩
  | succ depth ih => exact p.filters_readLevel policy ih text

theorem filters_parse (query : String) :
    Filters policy Condition.comparisons (Condition.mapKeys p.transformKey)
      (p.plain.parse query .unrestricted) (p.parse query policy) :=
  p.filters_readNested policy p.maxDepth (Escape.encode query.toList)

variable {p policy}

theorem admits_of_parse {query : String} {c : Condition} (h : p.parse query policy = .ok c) :
    ∀ x ∈ c.comparisons, policy.Admits x.key := by
  have hf := p.filters_parse policy query
  rw [h] at hf
  obtain ⟨c₀, hc₀, -⟩ := hf.exists_of_ok
  rw [hc₀, Filters.ok_iff] at hf
  obtain ⟨u, hk, rfl⟩ := map_eq_ok_iff.1 hf.symm
  exact KeyPolicy.checkAll_eq_ok_iff.1 hk

end Parser

/-- Transforms and policies are a filter on what is read without them. What passes has every key
transformed; otherwise the first comparison with a key that is not admitted is refused. A query that
is refused without them is refused with them, for the same cause or for a key. So whatever is
accepted has admitted keys only. -/
theorem parse_eq_of_plain (p : Parser) (policy : KeyPolicy) (query : String) :
    (∀ c, p.plain.parse query .unrestricted = .ok c →
      ((∀ x ∈ (c.mapKeys p.transformKey).comparisons, policy.Admits x.key) →
        p.parse query policy = .ok (c.mapKeys p.transformKey)) ∧
      (¬(∀ x ∈ (c.mapKeys p.transformKey).comparisons, policy.Admits x.key) →
        ∃ before x after e, (c.mapKeys p.transformKey).comparisons = before ++ x :: after ∧
          (∀ y ∈ before, policy.Admits y.key) ∧ policy.check x.key = .error e ∧
          p.parse query policy = .error e)) ∧
    (∀ e, p.plain.parse query .unrestricted = .error e →
      p.parse query policy = .error e ∨
        ∃ key, p.parse query policy = .error (.keyNotAllowed key) ∨
          p.parse query policy = .error (.keyForbidden key)) ∧
    ∀ c, p.parse query policy = .ok c → ∀ x ∈ c.comparisons, policy.Admits x.key := by
  have hf := p.filters_parse policy query
  refine ⟨fun c hc => ?_, fun e he => ?_, fun c hc => Parser.admits_of_parse hc⟩
  · rw [hc, Filters.ok_iff] at hf
    refine ⟨fun h => ?_, fun h => ?_⟩
    · rw [hf, KeyPolicy.checkAll_eq_ok_iff.2 h]
      rfl
    · cases hk : policy.checkAll (c.mapKeys p.transformKey).comparisons with
      | ok u => exact absurd (KeyPolicy.checkAll_eq_ok_iff.1 hk) h
      | error e =>
        obtain ⟨before, x, after, hs, hb, hx⟩ := KeyPolicy.exists_of_checkAll hk
        exact ⟨before, x, after, e, hs, hb, hx, by rw [hf, hk]; rfl⟩
  · rw [he, Filters.error_iff] at hf
    obtain ⟨e', hr, rfl | ⟨key, rfl | rfl⟩⟩ := hf
    · exact .inl hr
    · exact .inr ⟨key, .inl hr⟩
    · exact .inr ⟨key, .inr hr⟩

/-- A query with a group, under a policy that admits all its keys once they are transformed and
under one that does not. -/
theorem parse_eq_of_plain_nested :
    (⟨.mongo, [("u." ++ ·)], 32⟩ : Parser).parse "a==1;(b==2,c==3)" ⟨none, some ["c"]⟩ =
      .ok (.all [.comparison ⟨"u.a", "==", "1"⟩,
        .any [.comparison ⟨"u.b", "==", "2"⟩, .comparison ⟨"u.c", "==", "3"⟩]]) ∧
    (⟨.mongo, [("u." ++ ·)], 32⟩ : Parser).parse "a==1;(b==2,c==3)" ⟨none, some ["u.c"]⟩ =
      .error (.keyForbidden "u.c") := by
  have hplain : (⟨.mongo, [("u." ++ ·)], 32⟩ : Parser).plain.parse "a==1;(b==2,c==3)"
      .unrestricted = .ok (.all [.comparison ⟨"a", "==", "1"⟩,
        .any [.comparison ⟨"b", "==", "2"⟩, .comparison ⟨"c", "==", "3"⟩]]) := by
    cbv
  constructor
  · have h := ((parse_eq_of_plain _ ⟨none, some ["c"]⟩ _).1 _ hplain).1 (by
      simp [Condition.mapKeys, Condition.comparisons, Condition.comparisonsOf, KeyPolicy.Admits,
        Parser.transformKey])
    simpa [Condition.mapKeys, Parser.transformKey] using h
  · obtain ⟨before, x, after, e, hs, -, hx, h⟩ :=
      ((parse_eq_of_plain _ ⟨none, some ["u.c"]⟩ _).1 _ hplain).2 (by
        simp [Condition.mapKeys, Condition.comparisons, Condition.comparisonsOf, KeyPolicy.Admits,
          Parser.transformKey])
    have hm : x ∈ [⟨"u.a", "==", "1"⟩, ⟨"u.b", "==", "2"⟩, (⟨"u.c", "==", "3"⟩ : Comparison)] := by
      have hm : x ∈ before ++ x :: after := by simp
      rw [← hs] at hm
      simpa [Condition.mapKeys, Condition.comparisons, Condition.comparisonsOf,
        Parser.transformKey] using hm
    simp only [List.mem_cons, List.not_mem_nil, or_false] at hm
    rcases hm with rfl | rfl | rfl
    · simp [KeyPolicy.check, KeyPolicy.allows, KeyPolicy.forbids] at hx
    · simp [KeyPolicy.check, KeyPolicy.allows, KeyPolicy.forbids] at hx
    · have he : .keyForbidden "u.c" = e := by
        simpa [KeyPolicy.check, KeyPolicy.allows, KeyPolicy.forbids] using hx
      rw [h, he]

end FilterQuery
