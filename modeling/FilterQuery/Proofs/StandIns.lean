import FilterQuery.Proofs.Quoting
import FilterQuery.Proofs.Rendering

/-!
# Stand-ins stay inside

Encoded texts hold stand-ins, and all texts of a reading are cut from one. None of them is meant to
be seen: values are unescaped, what a refusal shows is decoded, and a key that holds one is refused.
So what is written for a query is free of stand-ins if the parser brings none in by itself
(`Parser.KeepsFree`), and so is every text of a refusal, except for one. The operator of
`unknownOperator` is the token as it was cut from the encoded text, and a token may be written with
an escape pair in it (`process_standIns`).
-/

namespace FilterQuery

open Nesting Reading

/-- A text without stand-ins. -/
def IsFree (s : String) : Prop :=
  Escape.hasStandIn s.toList = false

instance (s : String) : Decidable (IsFree s) :=
  inferInstanceAs (Decidable (_ = _))

/-- The texts that a refusal names. -/
def QueryError.texts : QueryError → List String
  | unbalancedParens fragment _ => [fragment]
  | emptyTerm fragment _ => [fragment]
  | malformedParens term => [term]
  | noOperator term => [term]
  | emptyKey term => [term]
  | escapedKey term => [term]
  | unknownOperator operator term => [operator, term]
  | keyNotAllowed key => [key]
  | keyForbidden key => [key]
  | tooDeep _ => []
  | invalidPattern pattern => [pattern]

/-- Nothing that a parser does to texts without stand-ins brings one in. -/
structure Parser.KeepsFree (p : Parser) : Prop where
  transform : ∀ f ∈ p.transforms, ∀ key, IsFree key → IsFree (f key)
  format : ∀ o ∈ p.dialect.operators, ∀ key value, IsFree key → IsFree value →
    IsFree (o.format key value)
  conjunction : ∀ parts, (∀ part ∈ parts, IsFree part) → IsFree (p.dialect.conjunction parts)
  disjunction : ∀ parts, (∀ part ∈ parts, IsFree part) → IsFree (p.dialect.disjunction parts)

/-! ### Texts without stand-ins -/

theorem isFree_iff {s : String} : IsFree s ↔ ∀ c ∈ s.toList, Escape.isStandIn c = false :=
  Escape.hasStandIn_eq_false_iff

@[simp]
theorem isFree_append {s t : String} : IsFree (s ++ t) ↔ IsFree s ∧ IsFree t := by
  simp [IsFree, Escape.hasStandIn]

theorem isFree_toString (n : Nat) : IsFree (toString n) := by
  rw [isFree_iff]
  intro c hc
  rw [Nat.toString_eq_repr, Nat.toList_repr] at hc
  have hd : c.isDigit = true := Nat.isDigit_of_mem_toDigits (by decide) (by decide) hc
  cases hs : Escape.isStandIn c with
  | false => rfl
  | true =>
    rw [Escape.isStandIn_iff] at hs
    simp only [List.mem_cons, List.not_mem_nil, or_false] at hs
    rcases hs with rfl | rfl | rfl | rfl | rfl <;> simp [Char.isDigit] at hd

theorem isFree_intercalate {separator : String} {parts : List String} (hs : IsFree separator)
    (h : ∀ part ∈ parts, IsFree part) : IsFree (String.intercalate separator parts) := by
  induction parts with
  | nil => rfl
  | cons part parts ih =>
    have hpart : IsFree part := h part (by simp)
    have hrest := ih fun t ht => h t (List.mem_cons_of_mem part ht)
    cases parts with
    | nil => simpa using hpart
    | cons next parts =>
      rw [String.intercalate_cons_cons]
      exact isFree_append.2 ⟨isFree_append.2 ⟨hpart, hs⟩, hrest⟩

namespace Escape

theorem hasStandIn_unescape (text : List Char) : hasStandIn (unescape text) = false := by
  rw [hasStandIn_eq_false_iff]
  intro c hc
  obtain ⟨d, -, rfl⟩ := List.mem_map.1 hc
  cases hd : literal? d with
  | some l => exact isStandIn_literal? hd
  | none => simp [isStandIn, hd]

end Escape

theorem isFree_shown (text : List Char) : IsFree (Escape.shown text) := by
  rw [IsFree, Escape.shown, String.toList_ofList]
  exact Escape.hasStandIn_decode text

theorem isFree_quoted {before text after : String} (hb : IsFree before) (ht : IsFree text)
    (ha : IsFree after) : IsFree (before ++ text ++ after) :=
  isFree_append.2 ⟨isFree_append.2 ⟨hb, ht⟩, ha⟩

theorem QueryError.isFree_message {e : QueryError} (h : ∀ t ∈ e.texts, IsFree t) :
    IsFree e.message := by
  cases e with
  | unbalancedParens fragment position =>
    have hf : IsFree fragment := h fragment (by simp [texts])
    exact isFree_quoted (isFree_quoted rfl (isFree_toString position) rfl) hf rfl
  | emptyTerm fragment position =>
    have hf : IsFree fragment := h fragment (by simp [texts])
    exact isFree_quoted (isFree_quoted rfl (isFree_toString position) rfl) hf rfl
  | malformedParens term => exact isFree_quoted rfl (h term (by simp [texts])) rfl
  | noOperator term => exact isFree_quoted rfl (h term (by simp [texts])) rfl
  | emptyKey term => exact isFree_quoted rfl (h term (by simp [texts])) rfl
  | escapedKey term => exact isFree_quoted rfl (h term (by simp [texts])) rfl
  | unknownOperator operator term =>
    have ho : IsFree operator := h operator (by simp [texts])
    have ht : IsFree term := h term (by simp [texts])
    exact isFree_quoted (isFree_quoted rfl ho rfl) ht rfl
  | keyNotAllowed key => exact isFree_quoted rfl (h key (by simp [texts])) rfl
  | keyForbidden key => exact isFree_quoted rfl (h key (by simp [texts])) rfl
  | tooDeep maxDepth => exact isFree_quoted rfl (isFree_toString maxDepth) rfl
  | invalidPattern pattern =>
    have hp : IsFree pattern := h pattern (by simp [texts])
    exact isFree_append.2 ⟨isFree_quoted rfl hp rfl, rfl⟩

/-! ### What is written -/

namespace Parser

variable {p : Parser} {policy : KeyPolicy} {query : String} {c : Condition} {e : QueryError}

theorem KeepsFree.transformKey (hp : p.KeepsFree) {key : String} (h : IsFree key) :
    IsFree (p.transformKey key) := by
  have hfold : ∀ fs : List (String → String), (∀ f ∈ fs, f ∈ p.transforms) → ∀ k, IsFree k →
      IsFree (fs.foldl (fun k f => f k) k) := by
    intro fs
    induction fs with
    | nil => exact fun _ k hk => hk
    | cons f fs ih =>
      intro hfs k hk
      have hf : IsFree (f k) := hp.transform f (hfs f (by simp)) k hk
      exact ih (fun g hg => hfs g (List.mem_cons_of_mem f hg)) (f k) hf
  exact hfold p.transforms (fun f hf => hf) key h

theorem KeepsFree.write (hp : p.KeepsFree) {leaf : Comparison → String}
    (h : ∀ x ∈ c.comparisons, IsFree (leaf x)) : IsFree (p.dialect.write leaf c) := by
  induction c with
  | comparison x =>
    rw [Dialect.write]
    exact h x (by simp [Condition.comparisons])
  | all children ih =>
    rw [Dialect.write]
    refine hp.conjunction _ fun part hpart => ?_
    obtain ⟨d, hd, rfl⟩ := List.mem_map.1 hpart
    exact ih d hd fun x hx => h x (Condition.mem_comparisons_of_child hd hx)
  | any children ih =>
    rw [Dialect.write]
    refine hp.disjunction _ fun part hpart => ?_
    obtain ⟨d, hd, rfl⟩ := List.mem_map.1 hpart
    exact ih d hd fun x hx => h x (Condition.mem_comparisons_of_child hd hx)

theorem KeepsFree.comparison (hp : p.KeepsFree) (h : p.parse query policy = .ok c) :
    ∀ x ∈ c.comparisons, IsFree x.key ∧ IsFree x.value := by
  obtain ⟨as, -, hc, hfind⟩ := exists_found_of_parse h
  intro x hx
  rw [hc] at hx
  obtain ⟨m, hm, rfl⟩ := List.mem_map.1 hx
  obtain ⟨term, -, hf⟩ := hfind m hm
  obtain ⟨s, -, -, -, hk, -, -⟩ := OperatorMatch.find_eq_ok_iff.1 hf
  constructor
  · have hkey : IsFree (String.ofList m.key) := by rwa [IsFree, String.toList_ofList]
    exact hp.transformKey hkey
  · show Escape.hasStandIn (String.ofList (Escape.unescape _)).toList = false
    rw [String.toList_ofList]
    exact Escape.hasStandIn_unescape _

theorem KeepsFree.leaf (hp : p.KeepsFree) {x : Comparison} (hk : IsFree x.key)
    (hv : IsFree x.value) : IsFree (p.dialect.leaf x) := by
  unfold Dialect.leaf
  cases ho : p.dialect.operator? x.operator with
  | none => exact rfl
  | some o => exact hp.format o (List.mem_of_find?_eq_some ho) x.key x.value hk hv

end Parser

/-! ### What is shown of a refusal -/

/-- A refused text brings a stand-in out only by its token. -/
theorem Reading.Cause.isFree_texts {p : Parser} {policy : KeyPolicy} {text : List Char}
    {e : QueryError} (hp : p.KeepsFree) (h : Cause p policy text e) :
    (∀ t ∈ e.texts, IsFree t) ∨ ∃ token term, e = .unknownOperator (String.ofList token) term ∧
      Escape.hasStandIn token = true ∧ Escape.decode token <:+: term.toList ∧ IsFree term := by
  have hshown : ∀ t ∈ [Escape.shown text], IsFree t := by
    simpa using isFree_shown text
  cases h with
  | @unknownOperator s hs =>
    cases htoken : Escape.hasStandIn s.token with
    | false =>
      have hfree : IsFree (String.ofList s.token) := by rwa [IsFree, String.toList_ofList]
      exact .inl (List.forall_mem_cons.2 ⟨hfree, hshown⟩)
    | true =>
      refine .inr ⟨s.token, _, rfl, htoken, ?_, isFree_shown text⟩
      obtain ⟨he, -, -⟩ := Token.split?_sound hs
      rw [Escape.shown, String.toList_ofList, he, Escape.decode_append, Escape.decode_append]
      exact ⟨Escape.decode s.before, Escape.decode s.after, by simp⟩
  | @key key _ hk h =>
    have hkey : IsFree (String.ofList key) := by rwa [IsFree, String.toList_ofList]
    have hfree : ∀ t ∈ [p.transformKey (String.ofList key)], IsFree t := by
      simpa using hp.transformKey hkey
    rcases KeyPolicy.exists_of_check h with rfl | rfl
    · exact .inl hfree
    · exact .inl hfree
  | tooDeep => exact .inl (by simp [QueryError.texts])
  | _ => exact .inl hshown

/-- Of a parser that brings in no stand-ins, what is written for a query is free of them. So are the
texts and the message of a refusal, unless it is for an unknown operator whose token has an escape
pair in it: then the token is named as it was encoded, while the term around it shows the pair. -/
theorem process_standIns {p : Parser} (hp : p.KeepsFree) (policy : KeyPolicy) (query : String) :
    (∀ s, p.process query policy = .ok s → IsFree s) ∧
    ∀ e, p.process query policy = .error e →
      ((∀ t ∈ e.texts, IsFree t) ∧ IsFree e.message) ∨
        ∃ token term, e = .unknownOperator (String.ofList token) term ∧
          Escape.hasStandIn token = true ∧ Escape.decode token <:+: term.toList ∧ IsFree term := by
  refine ⟨fun s h => ?_, fun e h => ?_⟩
  · obtain ⟨c, hc, hs⟩ := bind_eq_ok_iff.1 h
    rw [Parser.render_of_parse hc] at hs
    rw [← Except.ok.inj hs]
    refine hp.write fun x hx => ?_
    obtain ⟨hk, hv⟩ := hp.comparison hc x hx
    exact hp.leaf hk hv
  · have hparse := Parser.process_eq_error_iff.1 h
    obtain ⟨role, part, -, hraise⟩ := exists_raises_of_readNested hparse
    rcases hraise.cause.isFree_texts hp with htexts | htoken
    · exact .inl ⟨htexts, QueryError.isFree_message htexts⟩
    · exact .inr htoken

theorem Parser.keepsFree_mysql : Parser.mysql.KeepsFree := by
  refine ⟨by simp [mysql], fun o ho key value hk hv => ?_, fun parts h => ?_, fun parts h => ?_⟩
  · obtain ⟨r, -, rfl⟩ := List.mem_map.1 ho
    have hsign {sign : String} (hs : IsFree sign) : IsFree (key ++ sign ++ value) :=
      isFree_quoted hk hs hv
    have hlist : IsFree (Dialect.MySql.parenthesized value) := isFree_quoted rfl hv rfl
    cases r with
    | oneOf => exact isFree_quoted hk rfl hlist
    | noneOf => exact isFree_quoted hk rfl hlist
    | _ => exact hsign rfl
  · exact isFree_quoted rfl (isFree_intercalate rfl h) rfl
  · exact isFree_quoted rfl (isFree_intercalate rfl h) rfl

/-- An escape pair in a value is written as the bare character, one in a key is shown as the pair.
-/
theorem process_standIns_mysql :
    Parser.mysql.KeepsFree ∧
    Parser.mysql.process "a==x\\,y;(b=in=(\\(,1),c!=2)" .unrestricted =
      .ok "(a = x,y AND (b IN ((,1) OR c != 2))" ∧
    IsFree "(a = x,y AND (b IN ((,1) OR c != 2))" ∧
    Parser.mysql.process "a==1;b\\;c==2" .unrestricted = .error (.escapedKey "b\\;c==2") ∧
    IsFree (QueryError.escapedKey "b\\;c==2").message := by
  have hok : Parser.mysql.process "a==x\\,y;(b=in=(\\(,1),c!=2)" .unrestricted =
      .ok "(a = x,y AND (b IN ((,1) OR c != 2))" := by cbv
  have herror : Parser.mysql.process "a==1;b\\;c==2" .unrestricted =
      .error (.escapedKey "b\\;c==2") := by cbv
  refine ⟨Parser.keepsFree_mysql, hok, ?_, herror, ?_⟩
  · exact (process_standIns Parser.keepsFree_mysql .unrestricted _).1 _ hok
  · rcases (process_standIns Parser.keepsFree_mysql .unrestricted _).2 _ herror with h | h
    · exact h.2
    · obtain ⟨token, term, he, -⟩ := h
      simp at he

/-- The token of an unknown operator is named with a stand-in in it, though neither the query nor
the parser holds one. -/
theorem process_names_standIn :
    Parser.mysql.KeepsFree ∧ (∀ o ∈ Parser.mysql.dialect.operators, IsFree o.pattern) ∧
    IsFree "a=\\,=1" ∧
    Parser.mysql.process "a=\\,=1" .unrestricted =
      .error (.unknownOperator "=\ue002=" "a=\\,=1") ∧
    ¬IsFree "=\ue002=" ∧
    ¬IsFree (QueryError.unknownOperator "=\ue002=" "a=\\,=1").message := by
  refine ⟨Parser.keepsFree_mysql, fun o ho => ?_, by decide, by cbv, by decide, by decide⟩
  obtain ⟨r, -, rfl⟩ := List.mem_map.1 ho
  cases r <;> decide

end FilterQuery
