import FilterQuery.Proofs.Terms
import FilterQuery.Query.Parser

/-!
# The grammar of queries

```
query       → alternative (',' alternative)*
alternative → term (';' term)*
term        → blanks '(' query ')' blanks | blanks key blanks operator value blanks
```

`Derives operators depth text tree` says that an encoded text is a query of this grammar with at
most `depth` groups inside each other, and what its parts are. `readNested_eq_ok_iff` says that
reading accepts exactly these texts and gives the condition of their trees, `Derives.unique` that a
text has at most one tree.

The proof goes level by level, as reading does. At a level, a text made of parts with separators
between them has these parts as its pieces (`joined_iff`), so that reading all pieces is reading all
parts (`split_mapM_eq_ok_iff`); this is used once for each of the two separators.
-/

namespace FilterQuery.Grammar

open Nesting

/-! ### Derivations -/

/-- A text made of one or more parts with a separator between them. -/
inductive Joined (separator : Char) {α : Type} (Part : List Char → α → Prop) :
    List Char → List α → Prop
  | last {text : List Char} {a : α} (h : Part text a) : Joined separator Part text [a]
  | cons {text rest : List Char} {a : α} {as : List α} (h : Part text a)
      (hs : Joined separator Part rest as) :
      Joined separator Part (text ++ separator :: rest) (a :: as)

/-- A term as it is derived, without the blanks in it. The alternatives of a group are lists of
terms that hold together. -/
inductive Term where
  | comparison (key : List Char) (operator : Operator) (value : List Char)
  | group (alternatives : List (List Term))

/-- The key of a comparison. -/
structure IsKey (key : List Char) : Prop where
  ne_nil : key ≠ []
  trimmed : Trimmed key
  plain : ∀ c ∈ key, c ∉ ['(', ')', ',', ';', '=', '!']
  standIn : ∀ c ∈ key, Escape.isStandIn c = false

/-- The operator of a comparison: the first one that is registered for its pattern, and with no
separator in the pattern. -/
structure IsOperator (operators : List Operator) (o : Operator) : Prop where
  registered : Operator.find? operators o.pattern = some o
  orSeparator : Terms.orSeparator ∉ o.pattern.toList
  andSeparator : Terms.andSeparator ∉ o.pattern.toList

/-- The value of a comparison: balanced, with separators in parentheses only, and without a blank
at its end. -/
structure IsValue (value : List Char) : Prop where
  orSeparator : Whole Terms.orSeparator value
  andSeparator : Whole Terms.andSeparator value
  last : ∀ c, value.getLast? = some c → isBlank c = false

/-- A term of the grammar, with `Body` for the text in the parentheses of a group. -/
inductive IsTerm (operators : List Operator) (Body : List Char → List (List Term) → Prop) :
    List Char → Term → Prop
  | group {left right inner : List Char} {alternatives : List (List Term)} (hl : Blank left)
      (hr : Blank right) (h : Body inner alternatives) :
      IsTerm operators Body (left ++ ('(' :: (inner ++ [')']) ++ right)) (.group alternatives)
  | comparison {left middle right key value : List Char} {o : Operator} (hl : Blank left)
      (hm : Blank middle) (hr : Blank right) (hk : IsKey key) (ho : IsOperator operators o)
      (hv : IsValue value) :
      IsTerm operators Body (left ++ (key ++ (middle ++ (o.pattern.toList ++ value)) ++ right))
        (.comparison key o value)

/-- One level of the grammar. -/
def Level (operators : List Operator) (Body : List Char → List (List Term) → Prop) :
    List Char → List (List Term) → Prop :=
  Joined Terms.orSeparator (Joined Terms.andSeparator (IsTerm operators Body))

/-- The text in the parentheses of a group, where at most `depth` groups, this one included, stand
inside each other. -/
def Inside (operators : List Operator) : Nat → List Char → List (List Term) → Prop
  | 0 => fun _ _ => False
  | depth + 1 => Level operators (Inside operators depth)

/-- An encoded text is a query with at most `depth` groups inside each other, and has these
alternatives. -/
def Derives (operators : List Operator) (depth : Nat) : List Char → List (List Term) → Prop :=
  Level operators (Inside operators depth)

/-- What a value holds. The value of an operator that takes a list may have one pair of parentheses
around all of it, which are not part of the list. -/
def argument (o : Operator) (value : List Char) : List Char :=
  if o.isList = true ∧ value.head? = some '(' ∧ value.getLast? = some ')' ∧
      Balanced value.tail.dropLast then value.tail.dropLast
  else value

/-- The condition that a term stands for. -/
def Term.condition : Term → Condition
  | .comparison key o value => .comparison
    { key := String.ofList key, operator := o.pattern,
      value := String.ofList (Escape.unescape (argument o value)) }
  | .group alternatives =>
    .disj (alternatives.map fun terms => .conj (terms.map fun term => term.condition))
decreasing_by
  rename_i hterms hterm
  have h₁ := List.sizeOf_lt_of_mem hterms
  have h₂ := List.sizeOf_lt_of_mem hterm
  simp only [Term.group.sizeOf_spec]
  omega

/-- The condition that the alternatives of a query stand for. -/
def condition (alternatives : List (List Term)) : Condition :=
  .disj (alternatives.map fun terms => .conj (terms.map Term.condition))

theorem Term.condition_comparison (key : List Char) (o : Operator) (value : List Char) :
    (comparison key o value).condition = .comparison
      { key := String.ofList key, operator := o.pattern,
        value := String.ofList (Escape.unescape (argument o value)) } := by
  rw [Term.condition]

theorem Term.condition_group (alternatives : List (List Term)) :
    (group alternatives).condition = Grammar.condition alternatives := by
  rw [Term.condition, Grammar.condition]

/-! ### Joined parts and pieces -/

section Joined

variable {α β : Type} {separator : Char} {Part : List Char → α → Prop} {text : List Char}
  {as : List α} (hp : isParen separator = false)
  (hw : ∀ {text a}, Part text a → Whole separator text)

theorem Joined.ne_nil (h : Joined separator Part text as) : as ≠ [] := by
  cases h <;> simp

theorem Joined.exists_of_mem {a : α} (h : Joined separator Part text as) (ha : a ∈ as) :
    ∃ piece, piece <:+: text ∧ Part piece a := by
  induction h with
  | last h =>
    rw [List.mem_singleton] at ha
    subst ha
    exact ⟨_, List.infix_rfl, h⟩
  | @cons first rest b bs h _ ih =>
    rcases List.mem_cons.1 ha with rfl | ha
    · exact ⟨first, List.infix_append_left, h⟩
    · obtain ⟨piece, hpiece, hpart⟩ := ih ha
      have hrest : rest <:+: first ++ separator :: rest :=
        List.infix_append_of_infix_right (List.infix_cons List.infix_rfl)
      exact ⟨piece, hpiece.trans hrest, hpart⟩

theorem Joined.imp_of_mem {Part' : List Char → α → Prop} (h : Joined separator Part text as)
    (hi : ∀ piece, ∀ a ∈ as, Part piece a → Part' piece a) : Joined separator Part' text as := by
  induction h with
  | last h => exact .last (hi _ _ (by simp) h)
  | cons h _ ih => exact .cons (hi _ _ (by simp) h) (ih fun piece a ha => hi piece a (by simp [ha]))

include hp hw in
theorem Joined.balanced (h : Joined separator Part text as) : Balanced text := by
  induction h with
  | last h => exact (hw h).balanced
  | cons h _ ih => exact (hw h).balanced.append_cons hp ih

include hp hw in
theorem joined_iff : Joined separator Part text as ↔
    Balanced text ∧ List.Forall₂ Part (pieces separator text) as := by
  constructor
  · refine fun h => ⟨h.balanced hp hw, ?_⟩
    induction h with
    | last h => simpa [pieces_of_whole hp (hw h)] using h
    | cons h _ ih => simpa [pieces_cons_of_whole hp (hw h)] using ⟨h, ih⟩
  · rintro ⟨hb, h⟩
    refine hb.cut_induction (motive := fun text => ∀ as,
      List.Forall₂ Part (pieces separator text) as → Joined separator Part text as) hp
      (fun text ht as h => ?_) (fun first rest hf _ ih as h => ?_) as h
    · rw [pieces_of_whole hp ht, List.forall₂_cons_left_iff] at h
      obtain ⟨a, as, ha, has, rfl⟩ := h
      rw [List.forall₂_nil_left_iff.1 has]
      exact .last ha
    · rw [pieces_cons_of_whole hp hf, List.forall₂_cons_left_iff] at h
      obtain ⟨a, as, ha, has, rfl⟩ := h
      exact .cons ha (ih as has)

include hp hw in
theorem split_mapM_eq_ok_iff {f : List Char → Except QueryError β} {g : α → β}
    {combine : List β → β} {c : β} (hne : ∀ {text a}, Part text a → trim text ≠ [])
    (hf : Balanced text → ∀ piece ∈ pieces separator text,
      ∀ b, f (trim piece) = .ok b ↔ ∃ a, Part piece a ∧ g a = b) :
    (Terms.split separator text >>= fun terms => combine <$> terms.mapM f) = .ok c ↔
      ∃ as, Joined separator Part text as ∧ combine (as.map g) = c := by
  simp only [bind_eq_ok_iff, map_eq_ok_iff, Terms.split_eq_ok_iff, joined_iff hp hw, mapM_eq_ok_iff]
  constructor
  · rintro ⟨_, ⟨hb, rfl, -⟩, _, h, rfl⟩
    rw [List.forall₂_map_left_iff, forall₂_iff_exists_map (hf hb)] at h
    obtain ⟨as, has, rfl⟩ := h
    exact ⟨as, ⟨hb, has⟩, rfl⟩
  · rintro ⟨as, ⟨hb, has⟩, rfl⟩
    have hn : ∀ piece ∈ pieces separator text, trim piece ≠ [] := fun piece hm =>
      (exists_of_forall₂ has piece hm).elim fun _ ha => hne ha.2
    refine ⟨_, ⟨hb, rfl, hn⟩, as.map g, ?_, rfl⟩
    rw [List.forall₂_map_left_iff, forall₂_iff_exists_map (hf hb)]
    exact ⟨as, has, rfl⟩

include hp hw in
theorem Joined.unique {Part' : List Char → α → Prop} {as' : List α}
    (hw' : ∀ {text a}, Part' text a → Whole separator text)
    (hu : ∀ text a a', Part text a → Part' text a' → a = a')
    (h : Joined separator Part text as) (h' : Joined separator Part' text as') : as = as' := by
  obtain ⟨-, h⟩ := (joined_iff hp hw).1 h
  obtain ⟨-, h'⟩ := (joined_iff hp hw').1 h'
  exact forall₂_unique hu h h'

end Joined

/-! ### Keys, operators and values -/

section Comparison

variable {operators : List Operator} {o : Operator} {key middle value text : List Char}

theorem IsKey.isParen (h : IsKey key) : ∀ c ∈ key, isParen c = false := by
  intro c hc
  have := h.plain c hc
  simp_all [Nesting.isParen]

theorem IsKey.isStart (h : IsKey key) : ∀ c ∈ key, Token.isStart c = false := by
  intro c hc
  have := h.plain c hc
  simp_all [Token.isStart]

theorem IsKey.whole (h : IsKey key) :
    Whole Terms.orSeparator key ∧ Whole Terms.andSeparator key :=
  ⟨whole_of_not_isParen h.isParen fun hc => h.plain _ hc (by simp [Terms.orSeparator]),
    whole_of_not_isParen h.isParen fun hc => h.plain _ hc (by simp [Terms.andSeparator])⟩

theorem IsOperator.whole (h : IsOperator operators o) :
    Whole Terms.orSeparator o.pattern.toList ∧ Whole Terms.andSeparator o.pattern.toList :=
  have hp := Token.isParen_of_mem o.isToken
  ⟨whole_of_not_isParen hp h.orSeparator, whole_of_not_isParen hp h.andSeparator⟩

theorem blank_whole (h : Blank text) :
    Whole Terms.orSeparator text ∧ Whole Terms.andSeparator text :=
  ⟨h.whole (by decide), h.whole (by decide)⟩

/-- A comparison starts with its key and ends with its value, or with its operator if it has none.
-/
theorem trimmed_comparison (hk : IsKey key) (o : Operator) (hv : IsValue value) :
    Trimmed (key ++ (middle ++ (o.pattern.toList ++ value))) := by
  refine ⟨fun d hd => hk.trimmed.head d ?_, fun d hd => ?_⟩
  · obtain ⟨c, key', rfl⟩ := List.exists_cons_of_ne_nil hk.ne_nil
    simpa using hd
  · have he : key ++ (middle ++ (o.pattern.toList ++ value)) =
        key ++ middle ++ o.pattern.toList ++ value := by simp
    rw [he, List.getLast?_append] at hd
    cases hl : value.getLast? with
    | none =>
      obtain ⟨c, inner, hp, -, -⟩ := o.isToken
      rw [hl, Option.none_or, hp, ← List.cons_append, ← List.append_assoc, List.getLast?_concat,
        Option.some.injEq] at hd
      subst hd
      decide
    | some e =>
      rw [hl, Option.some_or] at hd
      exact hv.last d (hl.trans hd)

theorem split?_comparison (hk : IsKey key) (hm : Blank middle) (o : Operator) :
    Token.split? (key ++ (middle ++ (o.pattern.toList ++ value))) =
      some ⟨key ++ middle, o.pattern.toList, value⟩ := by
  rw [← List.append_assoc]
  refine Token.split?_append (fun c hc => ?_) o.isToken
  rcases List.mem_append.1 hc with hc | hc
  · exact hk.isStart c hc
  · exact isStart_of_isBlank (hm c hc)

theorem trim_key (hk : IsKey key) (hm : Blank middle) : trim (key ++ middle) = key := by
  simpa using trim_of_trimmed Blank.nil hm hk.trimmed

theorem find_comparison (hk : IsKey key) (hm : Blank middle) (ho : IsOperator operators o) :
    OperatorMatch.find operators (key ++ (middle ++ (o.pattern.toList ++ value))) =
      .ok ⟨key, o, value⟩ := by
  refine OperatorMatch.find_eq_ok_iff.2 ⟨_, split?_comparison hk hm o, (trim_key hk hm).symm,
    hk.ne_nil, ?_, ?_, rfl⟩
  · simpa [Escape.hasStandIn] using hk.standIn
  · rw [String.ofList_toList]
    exact ho.registered

theorem isKey_trim {before : List Char} (hne : trim before ≠ [])
    (hst : Escape.hasStandIn (trim before) = false) (hp : ∀ c ∈ before, isParen c = false)
    (hs : ∀ c ∈ before, Token.isStart c = false) (hor : Terms.orSeparator ∉ before)
    (hand : Terms.andSeparator ∉ before) : IsKey (trim before) := by
  refine ⟨hne, trimmed_trim before, fun c hc => ?_, by simpa [Escape.hasStandIn] using hst⟩
  have hmem : c ∈ before := (infix_trim before).mem hc
  have hpc := hp c hmem
  have hsc := hs c hmem
  simp only [isParen, Token.isStart, Bool.or_eq_false_iff, beq_eq_false_iff_ne] at hpc hsc
  simp only [List.mem_cons, List.not_mem_nil, or_false, not_or]
  exact ⟨hpc.1, hpc.2, fun h => hor (h ▸ hmem :), fun h => hand (h ▸ hmem :), hsc.2, hsc.1⟩

/-- A trimmed term that is not cut by a separator and has no parenthesis before its operator is a
comparison of the grammar if an operator is found in it. -/
theorem exists_comparison_of_find {term : List Char} {m : OperatorMatch} (ht : Trimmed term)
    (hor : Whole Terms.orSeparator term) (hand : Whole Terms.andSeparator term)
    (hh : ∀ c ∈ TermShape.head term, isParen c = false)
    (h : OperatorMatch.find operators term = .ok m) :
    ∃ middle, Blank middle ∧ term = m.key ++ (middle ++ (m.operator.pattern.toList ++ m.value)) ∧
      IsKey m.key ∧ IsOperator operators m.operator ∧ IsValue m.value := by
  obtain ⟨⟨before, token, after⟩, hs, hkey, hne, hst, hfind, hval⟩ :=
    OperatorMatch.find_eq_ok_iff.1 h
  obtain ⟨key, o, value⟩ := m
  simp only at hkey hne hst hfind hval ⊢
  subst hval
  rw [TermShape.head_of_split? hs] at hh
  obtain ⟨rfl, htok, hstart⟩ := Token.split?_sound hs
  have hpat : o.pattern.toList = token := by
    rw [Operator.pattern_of_find? hfind, String.toList_ofList]
  have hbb : Balanced before := balanced_of_not_isParen hh
  have hbt : Balanced token := balanced_of_not_isParen (Token.isParen_of_mem htok)
  obtain ⟨hor₁, hor₂⟩ := (whole_append_iff hbb).1 hor
  obtain ⟨hor₂, hor₃⟩ := (whole_append_iff hbt).1 hor₂
  obtain ⟨hand₁, hand₂⟩ := (whole_append_iff hbb).1 hand
  obtain ⟨hand₂, hand₃⟩ := (whole_append_iff hbt).1 hand₂
  have hkey' : IsKey key := hkey ▸ isKey_trim (hkey ▸ hne) (hkey ▸ hst) hh (hstart hh)
    (hor₁.not_mem_of_not_isParen hh) (hand₁.not_mem_of_not_isParen hh)
  have hop : IsOperator operators o :=
    ⟨by rw [← hpat, String.ofList_toList] at hfind; exact hfind,
      hpat ▸ hor₂.not_mem_of_not_isParen (Token.isParen_of_mem htok),
      hpat ▸ hand₂.not_mem_of_not_isParen (Token.isParen_of_mem htok)⟩
  have hlast : ∀ c, value.getLast? = some c → isBlank c = false := fun c hc =>
    ht.last c (by
      rw [List.getLast?_append, List.getLast?_append, hc, Option.some_or, Option.some_or])
  -- no blank stands before the key, since the term is trimmed
  have hb : trimStart before = before := trimStart_of_head fun c hc =>
    ht.head c (by rw [List.head?_append, hc, Option.some_or])
  obtain ⟨middle, hm, he⟩ := exists_trimEnd before
  rw [trim, hb] at hkey
  exact ⟨middle, hm, by rw [hpat, hkey, ← List.append_assoc (trimEnd before), ← he], hkey', hop,
    ⟨hor₃, hand₃, hlast⟩⟩

theorem argument_eq (o : Operator) (value : List Char) :
    argument o value = if o.isList then stripListParens value else value := by
  have key : enclosed? value = if value.head? = some '(' ∧ value.getLast? = some ')' ∧
      Balanced value.tail.dropLast then some value.tail.dropLast else none := by
    split
    · next h =>
      obtain ⟨hh, hl, hb⟩ := h
      refine enclosed?_eq_some_iff.2 ⟨?_, hb⟩
      obtain ⟨text, rfl⟩ := List.head?_eq_some_iff.1 hh
      obtain ⟨init, hi⟩ := List.getLast?_eq_some_iff.1 hl
      cases init with
      | nil => simp at hi
      | cons c init =>
        obtain ⟨rfl, rfl⟩ := List.cons.inj hi
        simp
    · next h =>
      refine Option.eq_none_iff_forall_ne_some.2 fun inner hi => h ?_
      obtain ⟨rfl, hb⟩ := enclosed?_eq_some_iff.1 hi
      exact ⟨rfl, by rw [← List.cons_append, List.getLast?_concat], by simpa using hb⟩
  rw [argument, stripListParens, key]
  cases o.isList <;> simp
  split <;> rfl

end Comparison

/-! ### Terms -/

section Terms

variable {operators : List Operator} {Body Body' : List Char → List (List Term) → Prop}
  {text key value : List Char} {alternatives : List (List Term)} {o : Operator}

theorem isTerm_group_iff : IsTerm operators Body text (.group alternatives) ↔
    ∃ inner, trim text = '(' :: (inner ++ [')']) ∧ Body inner alternatives := by
  constructor
  · rintro ⟨hl, hr, h⟩
    exact ⟨_, trim_of_trimmed hl hr (trimmed_group _), h⟩
  · rintro ⟨inner, ht, h⟩
    obtain ⟨left, right, hl, hr, he⟩ := exists_trim text
    rw [he, ht]
    exact .group hl hr h

theorem isTerm_comparison_iff : IsTerm operators Body text (.comparison key o value) ↔
    ∃ middle, Blank middle ∧ trim text = key ++ (middle ++ (o.pattern.toList ++ value)) ∧
      IsKey key ∧ IsOperator operators o ∧ IsValue value := by
  constructor
  · rintro (_ | ⟨hl, hm, hr, hk, ho, hv⟩)
    exact ⟨_, hm, trim_of_trimmed hl hr (trimmed_comparison hk o hv), hk, ho, hv⟩
  · rintro ⟨middle, hm, ht, hk, ho, hv⟩
    obtain ⟨left, right, hl, hr, he⟩ := exists_trim text
    rw [he, ht]
    exact .comparison hl hm hr hk ho hv

theorem IsTerm.whole (hi : ∀ {inner alternatives}, Body inner alternatives → Balanced inner)
    {t : Term} (h : IsTerm operators Body text t) :
    Whole Terms.orSeparator text ∧ Whole Terms.andSeparator text := by
  cases h with
  | group hl hr h =>
    have hl := blank_whole hl
    have hr := blank_whole hr
    exact ⟨hl.1.append ((Whole.enclose (by decide) (hi h)).append hr.1),
      hl.2.append ((Whole.enclose (by decide) (hi h)).append hr.2)⟩
  | comparison hl hm hr hk ho hv =>
    have hl := blank_whole hl
    have hm := blank_whole hm
    have hr := blank_whole hr
    exact ⟨hl.1.append
        ((hk.whole.1.append (hm.1.append (ho.whole.1.append hv.orSeparator))).append hr.1),
      hl.2.append
        ((hk.whole.2.append (hm.2.append (ho.whole.2.append hv.andSeparator))).append hr.2)⟩

theorem IsTerm.trim_ne_nil {t : Term} (h : IsTerm operators Body text t) : trim text ≠ [] := by
  cases t with
  | group alternatives =>
    obtain ⟨inner, ht, -⟩ := isTerm_group_iff.1 h
    simp [ht]
  | comparison key o value =>
    obtain ⟨middle, -, ht, hk, -, -⟩ := isTerm_comparison_iff.1 h
    simp [ht, hk.ne_nil]

theorem IsTerm.unique (hu : ∀ inner as as', Body inner as → Body' inner as' → as = as')
    {t t' : Term} (h : IsTerm operators Body text t) (h' : IsTerm operators Body' text t') :
    t = t' := by
  -- a group starts with a parenthesis, a key does not
  have hne {inner key rest : List Char} (hk : IsKey key) :
      '(' :: (inner ++ [')']) ≠ key ++ rest := by
    obtain ⟨c, key, rfl⟩ := List.exists_cons_of_ne_nil hk.ne_nil
    intro he
    exact hk.plain c (by simp) (by simp [← (List.cons.inj he).1])
  cases t with
  | group alternatives =>
    obtain ⟨inner, ht, h⟩ := isTerm_group_iff.1 h
    cases t' with
    | group alternatives' =>
      obtain ⟨inner', ht', h'⟩ := isTerm_group_iff.1 h'
      have : inner = inner' := by simpa [ht] using ht'
      subst this
      rw [hu _ _ _ h h']
    | comparison key o value =>
      obtain ⟨middle, -, ht', hk, -, -⟩ := isTerm_comparison_iff.1 h'
      exact absurd (ht.symm.trans ht') (hne hk)
  | comparison key o value =>
    obtain ⟨middle, hm, ht, hk, ho, -⟩ := isTerm_comparison_iff.1 h
    cases t' with
    | group alternatives' =>
      obtain ⟨inner', ht', -⟩ := isTerm_group_iff.1 h'
      exact absurd (ht'.symm.trans ht) (hne hk)
    | comparison key' o' value' =>
      obtain ⟨middle', hm', ht', hk', ho', -⟩ := isTerm_comparison_iff.1 h'
      have hf : OperatorMatch.find operators (trim text) = .ok ⟨key, o, value⟩ :=
        ht ▸ find_comparison hk hm ho
      rw [ht', find_comparison hk' hm' ho'] at hf
      simp only [Except.ok.injEq, OperatorMatch.mk.injEq] at hf
      obtain ⟨rfl, rfl, rfl⟩ := hf
      rfl

end Terms

theorem joined_whole {operators : List Operator} {Body : List Char → List (List Term) → Prop}
    (hi : ∀ {inner as}, Body inner as → Balanced inner) {text : List Char} {terms : List Term}
    (h : Joined Terms.andSeparator (IsTerm operators Body) text terms) :
    Whole Terms.orSeparator text := by
  induction h with
  | last h => exact (IsTerm.whole hi h).1
  | cons h _ ih => exact (IsTerm.whole hi h).1.append (Terms.whole_andSeparator.append ih)

theorem joined_trim_ne_nil {operators : List Operator}
    {Body : List Char → List (List Term) → Prop} {text : List Char} {terms : List Term}
    (h : Joined Terms.andSeparator (IsTerm operators Body) text terms) : trim text ≠ [] := by
  cases h with
  | last h => exact h.trim_ne_nil
  | cons => exact trim_ne_nil_of_mem (c := Terms.andSeparator) (by simp) (by decide)

theorem Level.exists_of_mem {operators : List Operator} {Body : List Char → List (List Term) → Prop}
    {text : List Char} {as : List (List Term)} {terms : List Term} {t : Term}
    (h : Level operators Body text as) (hterms : terms ∈ as) (ht : t ∈ terms) :
    ∃ piece, piece <:+: text ∧ IsTerm operators Body piece t := by
  obtain ⟨piece, hpiece, hj⟩ := Joined.exists_of_mem h hterms
  obtain ⟨term, hterm, hpart⟩ := hj.exists_of_mem ht
  exact ⟨term, hterm.trans hpiece, hpart⟩

/-! ### Reading -/

section Reading

variable {p : Parser} (hp : p.transforms = []) {Body : List Char → List (List Term) → Prop}
  {enter : List Char → Except QueryError Condition} {text : List Char}

theorem readComparison_eq_ok_iff (hp : p.transforms = []) {term : List Char} {c : Comparison} :
    p.readComparison .unrestricted term = .ok c ↔
      ∃ m, OperatorMatch.find p.dialect.operators term = .ok m ∧
        (Term.comparison m.key m.operator m.value).condition = .comparison c := by
  simp only [Parser.readComparison, Parser.transformKey, hp, List.foldl_nil, bind_eq_ok_iff,
    KeyPolicy.check_unrestricted, true_and, exists_const, pure, Except.pure, Except.ok.injEq,
    Term.condition_comparison, argument_eq, Condition.comparison.injEq]

theorem of_comparison {key middle value : List Char} (hk : IsKey key) (hm : Blank middle)
    (o : Operator) :
    TermShape.of (key ++ (middle ++ (o.pattern.toList ++ value))) = .ok .listArgument ∨
      TermShape.of (key ++ (middle ++ (o.pattern.toList ++ value))) = .ok .plain := by
  refine TermShape.of_eq_comparison_iff.2 ⟨fun rest he => ?_, fun c hc => ?_⟩
  · obtain ⟨c, key, rfl⟩ := List.exists_cons_of_ne_nil hk.ne_nil
    exact hk.plain c (by simp) (by simp [(List.cons.inj he).1])
  · rw [TermShape.head_of_split? (split?_comparison hk hm o)] at hc
    rcases List.mem_append.1 hc with hc | hc
    · exact hk.isParen c hc
    · exact isParen_of_isBlank (hm c hc)

include hp in
theorem readTerm_eq_ok_iff (hi : ∀ {inner as}, Body inner as → Balanced inner)
    (he : ∀ {inner c}, enter inner = .ok c ↔ ∃ as, Body inner as ∧ condition as = c)
    (hor : Whole Terms.orSeparator text) (hand : Whole Terms.andSeparator text) {c : Condition} :
    p.readTerm .unrestricted enter (trim text) = .ok c ↔
      ∃ t, IsTerm p.dialect.operators Body text t ∧ t.condition = c := by
  rw [Parser.readTerm_eq, bind_eq_ok_iff]
  constructor
  · have hcmp (hs : TermShape.of (trim text) = .ok .listArgument ∨
          TermShape.of (trim text) = .ok .plain)
        (h : Condition.comparison <$> p.readComparison .unrestricted (trim text) = .ok c) :
        ∃ t, IsTerm p.dialect.operators Body text t ∧ t.condition = c := by
      obtain ⟨c, hc, rfl⟩ := map_eq_ok_iff.1 h
      obtain ⟨m, hf, hm⟩ := (readComparison_eq_ok_iff hp).1 hc
      have hor' := whole_trim hor
      have hand' := whole_trim hand
      obtain ⟨middle, h⟩ := exists_comparison_of_find (trimmed_trim text) hor' hand'
        (TermShape.of_eq_comparison_iff.1 hs).2 hf
      exact ⟨_, isTerm_comparison_iff.2 ⟨middle, h⟩, hm⟩
    rintro ⟨shape, hs, h⟩
    cases shape with
    | group inner =>
      obtain ⟨as, has, rfl⟩ := he.1 h
      obtain ⟨ht, -⟩ := TermShape.of_eq_group_iff.1 hs
      exact ⟨.group as, isTerm_group_iff.2 ⟨inner, ht, has⟩, Term.condition_group as⟩
    | listArgument => exact hcmp (.inl hs) h
    | plain => exact hcmp (.inr hs) h
  · rintro ⟨t, ht, rfl⟩
    cases t with
    | group as =>
      obtain ⟨inner, ht, has⟩ := isTerm_group_iff.1 ht
      exact ⟨.group inner, TermShape.of_eq_group_iff.2 ⟨ht, hi has⟩,
        he.2 ⟨as, has, (Term.condition_group as).symm⟩⟩
    | comparison key o value =>
      obtain ⟨middle, hm, ht, hk, ho, -⟩ := isTerm_comparison_iff.1 ht
      have hr := (readComparison_eq_ok_iff hp).2
        ⟨⟨key, o, value⟩, find_comparison hk hm ho, Term.condition_comparison key o value⟩
      rw [ht, Term.condition_comparison]
      rcases of_comparison hk hm o with hs | hs
      · exact ⟨.listArgument, hs, map_eq_ok_iff.2 ⟨_, hr, rfl⟩⟩
      · exact ⟨.plain, hs, map_eq_ok_iff.2 ⟨_, hr, rfl⟩⟩

include hp in
theorem readAlternative_eq_ok_iff (hi : ∀ {inner as}, Body inner as → Balanced inner)
    (he : ∀ {inner c}, enter inner = .ok c ↔ ∃ as, Body inner as ∧ condition as = c)
    (hor : Whole Terms.orSeparator text) {c : Condition} :
    p.readAlternative .unrestricted enter (trim text) = .ok c ↔
      ∃ terms, Joined Terms.andSeparator (IsTerm p.dialect.operators Body) text terms ∧
        .conj (terms.map Term.condition) = c := by
  have hparen := Terms.isParen_andSeparator
  have hsplit {terms : List (List Char)} : Terms.splitAnd (trim text) = .ok terms ↔
      Terms.split Terms.andSeparator text = .ok terms :=
    Terms.split_trim_eq_ok_iff hparen (by decide)
  rw [Parser.readAlternative_eq, bind_eq_ok_iff]
  simp only [hsplit]
  rw [← bind_eq_ok_iff]
  refine split_mapM_eq_ok_iff hparen (fun h => (IsTerm.whole hi h).2) IsTerm.trim_ne_nil ?_
  exact fun hb piece hm c => readTerm_eq_ok_iff hp hi he (hor.of_mem_pieces hparen piece hm)
    (whole_of_mem_pieces hparen hb piece hm)

theorem Level.balanced {operators : List Operator} {as : List (List Term)}
    (hi : ∀ {inner as}, Body inner as → Balanced inner) (h : Level operators Body text as) :
    Balanced text :=
  Joined.balanced Terms.isParen_orSeparator (joined_whole hi) h

include hp in
theorem readLevel_eq_ok_iff (hi : ∀ {inner as}, Body inner as → Balanced inner)
    (he : ∀ {inner c}, enter inner = .ok c ↔ ∃ as, Body inner as ∧ condition as = c)
    {c : Condition} : p.readLevel .unrestricted enter text = .ok c ↔
      ∃ as, Level p.dialect.operators Body text as ∧ condition as = c := by
  have hparen := Terms.isParen_orSeparator
  rw [Parser.readLevel_eq]
  refine split_mapM_eq_ok_iff hparen (joined_whole hi) joined_trim_ne_nil ?_
  exact fun hb piece hm c =>
    readAlternative_eq_ok_iff hp hi he (whole_of_mem_pieces hparen hb piece hm)

theorem Inside.balanced {operators : List Operator} {depth : Nat} {as : List (List Term)}
    (h : Inside operators depth text as) : Balanced text := by
  induction depth generalizing text as with
  | zero => exact h.elim
  | succ depth ih => exact Level.balanced ih h

theorem Level.unique {operators : List Operator} {Body' : List Char → List (List Term) → Prop}
    {as as' : List (List Term)} (hi : ∀ {inner as}, Body inner as → Balanced inner)
    (hi' : ∀ {inner as}, Body' inner as → Balanced inner)
    (hu : ∀ inner as as', Body inner as → Body' inner as' → as = as')
    (h : Level operators Body text as) (h' : Level operators Body' text as') : as = as' :=
  Joined.unique Terms.isParen_orSeparator (joined_whole hi) (joined_whole hi')
    (fun _ _ _ => Joined.unique Terms.isParen_andSeparator (fun h => (IsTerm.whole hi h).2)
      (fun h => (IsTerm.whole hi' h).2) fun _ _ _ => IsTerm.unique hu) h h'

theorem Inside.unique {operators : List Operator} {depth depth' : Nat} {as as' : List (List Term)}
    (h : Inside operators depth text as) (h' : Inside operators depth' text as') : as = as' := by
  induction depth generalizing depth' text as as' with
  | zero => exact h.elim
  | succ depth ih =>
    cases depth' with
    | zero => exact h'.elim
    | succ depth' =>
      exact Level.unique Inside.balanced Inside.balanced (fun _ _ _ h h' => ih h h') h h'

/-- A text has one derivation at most, whatever the limits on its groups. -/
theorem Derives.unique {operators : List Operator} {depth depth' : Nat} {as as' : List (List Term)}
    (h : Derives operators depth text as) (h' : Derives operators depth' text as') : as = as' :=
  @Inside.unique text operators (depth + 1) (depth' + 1) as as' h h'

include hp in
/-- Reading accepts exactly the queries of the grammar and gives the conditions of their trees. -/
theorem readNested_eq_ok_iff {depth : Nat} {c : Condition} :
    p.readNested .unrestricted depth text = .ok c ↔
      ∃ as, Derives p.dialect.operators depth text as ∧ condition as = c := by
  induction depth generalizing text c with
  | zero => exact readLevel_eq_ok_iff hp Inside.balanced (by simp [Inside])
  | succ depth ih => exact readLevel_eq_ok_iff hp Inside.balanced ih

end Reading

/-- A parser without transforms accepts exactly the queries that the grammar derives with at most as
many groups inside each other as its limit. The derivation of a query is unique, and the condition
that is read is the one that it stands for. -/
theorem parse_eq_ok_iff_derives (p : Parser) (hp : p.transforms = []) (query : String) :
    (∀ c, p.parse query .unrestricted = .ok c ↔
      ∃ as, Derives p.dialect.operators p.maxDepth (Escape.encode query.toList) as ∧
        condition as = c) ∧
    ∀ depth depth' as as', Derives p.dialect.operators depth (Escape.encode query.toList) as →
      Derives p.dialect.operators depth' (Escape.encode query.toList) as' → as = as' :=
  ⟨fun _ => readNested_eq_ok_iff hp, fun _ _ _ _ h h' => h.unique h'⟩

/-- Blanks, a group, a list of values and an escape pair. -/
theorem derives_of_parse_mongo : Parser.mongo.transforms = [] ∧
    ∃ as, Derives Parser.mongo.dialect.operators Parser.mongo.maxDepth
        (Escape.encode " (a == 1, b=in=(x,y)) ;c!=\\,".toList) as ∧
      condition as = .all [.any [.comparison ⟨"a", "==", " 1"⟩, .comparison ⟨"b", "=in=", "x,y"⟩],
        .comparison ⟨"c", "!=", ","⟩] :=
  ⟨rfl, ((parse_eq_ok_iff_derives .mongo rfl " (a == 1, b=in=(x,y)) ;c!=\\,").1 _).1 (by cbv)⟩

end FilterQuery.Grammar
