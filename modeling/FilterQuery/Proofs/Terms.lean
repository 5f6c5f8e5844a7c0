import FilterQuery.Proofs.Balance
import FilterQuery.Proofs.Results
import FilterQuery.Query.Operator
import FilterQuery.Query.Term
import FilterQuery.Query.Terms

/-!
# What the cuts of a query give

One statement for each way in which a text is cut. `trim` removes blanks and nothing else
(`exists_trim`, `trim_of_trimmed`). `Terms.split` gives the trimmed pieces of a balanced text unless
one is blank (`Terms.split_eq_ok_iff`), so blanks around the text do not matter
(`Terms.split_trim_eq_ok_iff`). `Token.split?` cuts at a token, and before the token there is no
start of another one unless a parenthesis comes between (`Token.split?_sound`,
`Token.split?_append`). `TermShape.of` tells the groups from the comparisons
(`TermShape.of_eq_group_iff`, `TermShape.of_eq_comparison_iff`).
-/

namespace FilterQuery

open Nesting

variable {text : List Char}

/-! ### Blanks -/

/-- A text of blanks only. -/
def Blank (text : List Char) : Prop :=
  ∀ c ∈ text, isBlank c = true

/-- A text with a blank neither at its start nor at its end. -/
structure Trimmed (text : List Char) : Prop where
  head : ∀ c, text.head? = some c → isBlank c = false
  last : ∀ c, text.getLast? = some c → isBlank c = false

theorem Blank.nil : Blank [] := by simp [Blank]

theorem trimmed_group (inner : List Char) : Trimmed ('(' :: (inner ++ [')'])) := by
  constructor
  · simp only [List.head?_cons, Option.some.injEq, forall_eq']
    decide
  · rw [← List.cons_append, List.getLast?_concat]
    simp only [Option.some.injEq, forall_eq']
    decide

theorem isParen_of_isBlank {c : Char} (h : isBlank c = true) : isParen c = false := by
  rw [isParen, Bool.or_eq_false_iff, beq_eq_false_iff_ne, beq_eq_false_iff_ne]
  constructor <;> (rintro rfl; exact absurd h (by decide))

theorem isStart_of_isBlank {c : Char} (h : isBlank c = true) : Token.isStart c = false := by
  rw [Token.isStart, Bool.or_eq_false_iff, beq_eq_false_iff_ne, beq_eq_false_iff_ne]
  constructor <;> (rintro rfl; exact absurd h (by decide))

theorem Blank.whole {separator : Char} (hs : isBlank separator = false) (h : Blank text) :
    Whole separator text := by
  refine whole_of_not_isParen (fun c hc => isParen_of_isBlank (h c hc)) fun hc => ?_
  rw [h separator hc] at hs
  simp at hs

theorem Blank.balanced (h : Blank text) : Balanced text :=
  balanced_of_not_isParen fun c hc => isParen_of_isBlank (h c hc)

theorem exists_trimStart (text : List Char) :
    ∃ left, Blank left ∧ text = left ++ trimStart text :=
  ⟨text.takeWhile isBlank, List.all_eq_true.1 List.all_takeWhile, by simp [trimStart]⟩

theorem exists_trimEnd (text : List Char) :
    ∃ right, Blank right ∧ text = trimEnd text ++ right := by
  obtain ⟨left, hl, he⟩ := exists_trimStart text.reverse
  refine ⟨left.reverse, fun c hc => hl c (by simpa using hc), ?_⟩
  have := congrArg List.reverse he
  simpa [trimEnd, trimStart] using this

theorem exists_trim (text : List Char) : ∃ left right, Blank left ∧ Blank right ∧
    text = left ++ (trim text ++ right) := by
  obtain ⟨left, hl, hs⟩ := exists_trimStart text
  obtain ⟨right, hr, he⟩ := exists_trimEnd (trimStart text)
  exact ⟨left, right, hl, hr, by rw [trim, ← he, ← hs]⟩

theorem infix_trim (text : List Char) : trim text <:+: text := by
  obtain ⟨left, right, -, -, he⟩ := exists_trim text
  exact ⟨left, right, by rw [List.append_assoc]; exact he.symm⟩

theorem trimStart_of_head (h : ∀ c, text.head? = some c → isBlank c = false) :
    trimStart text = text := by
  cases text with
  | nil => rfl
  | cons c text => simp [trimStart, h c rfl]

theorem trimEnd_of_last (h : ∀ c, text.getLast? = some c → isBlank c = false) :
    trimEnd text = text := by
  have hs : trimStart text.reverse = text.reverse := trimStart_of_head (by simpa using h)
  rw [trimEnd, ← trimStart, hs, List.reverse_reverse]

theorem head?_trimStart {c : Char} (h : (trimStart text).head? = some c) : isBlank c = false := by
  have := List.head?_dropWhile_not isBlank text
  rw [trimStart] at h
  simpa [h] using this

theorem trimmed_trim (text : List Char) : Trimmed (trim text) := by
  refine ⟨fun c hc => ?_, fun c hc => ?_⟩
  · obtain ⟨right, -, he⟩ := exists_trimEnd (trimStart text)
    refine @head?_trimStart text c ?_
    rw [he, List.head?_append, ← trim, hc, Option.some_or]
  · refine @head?_trimStart (trimStart text).reverse c ?_
    simpa [trim, trimEnd, trimStart] using hc

theorem trim_of_trimmed {left right : List Char} (hl : Blank left) (hr : Blank right)
    (h : Trimmed text) : trim (left ++ (text ++ right)) = text := by
  rw [trim, trimStart_append_of_blank hl]
  by_cases hn : text = []
  · subst hn
    have := @trimStart_append_of_blank right [] hr
    simp only [List.append_nil, trimStart_nil] at this
    simp [this]
  · have hh : trimStart (text ++ right) = text ++ right :=
      trimStart_of_head fun c hc => h.head c (by cases text <;> simp_all)
    rw [hh, trimEnd_append_of_blank hr, trimEnd_of_last h.last]

theorem trim_ne_nil_of_mem {c : Char} (hc : c ∈ text) (hb : isBlank c = false) :
    trim text ≠ [] := by
  intro h
  obtain ⟨left, right, hl, hr, he⟩ := exists_trim text
  rw [he, h] at hc
  simp only [List.nil_append, List.mem_append] at hc
  rcases hc with hc | hc
  · rw [hl c hc] at hb
    simp at hb
  · rw [hr c hc] at hb
    simp at hb

theorem trim_eq_nil_iff : trim text = [] ↔ Blank text := by
  constructor
  · intro h c hc
    by_contra hb
    exact trim_ne_nil_of_mem hc (by simpa using hb) h
  · intro h
    simpa using @trim_of_trimmed [] text [] h Blank.nil ⟨by simp, by simp⟩

theorem trim_blank_append {left right : List Char} (hl : Blank left) (hr : Blank right)
    (text : List Char) : trim (left ++ (text ++ right)) = trim text := by
  obtain ⟨l, r, hl', hr', he⟩ := exists_trim text
  have hL : Blank (left ++ l) := by simpa [Blank, or_imp, forall_and] using ⟨hl, hl'⟩
  have hR : Blank (r ++ right) := by simpa [Blank, or_imp, forall_and] using ⟨hr', hr⟩
  calc trim (left ++ (text ++ right))
      = trim (left ++ l ++ (trim text ++ (r ++ right))) := by
        congr 1
        rw [List.append_assoc, ← List.append_assoc (trim text), ← List.append_assoc l, ← he]
    _ = trim text := trim_of_trimmed hL hR (trimmed_trim text)

theorem balanced_trim_iff : Balanced (trim text) ↔ Balanced text := by
  obtain ⟨left, right, hl, hr, he⟩ := exists_trim text
  have h : Balanced (left ++ (trim text ++ right)) ↔ Balanced (trim text) := by
    rw [hl.balanced.append_iff]
    exact ⟨fun h => hr.balanced.of_append_right h, fun h => h.append hr.balanced⟩
  rw [← he] at h
  exact h.symm

theorem whole_trim {separator : Char} (h : Whole separator text) : Whole separator (trim text) := by
  obtain ⟨left, right, hl, -, he⟩ := exists_trim text
  have hb : Balanced (trim text) := balanced_trim_iff.2 h.balanced
  rw [he, whole_append_iff hl.balanced, whole_append_iff hb] at h
  exact h.2.1

/-! ### Terms -/

namespace Terms

theorem isParen_orSeparator : isParen orSeparator = false := by decide

theorem isParen_andSeparator : isParen andSeparator = false := by decide

theorem whole_andSeparator : Whole orSeparator [andSeparator] :=
  whole_of_not_isParen (by simpa using isParen_andSeparator) (by decide)

theorem checkBalanced_eq_ok_iff {u : Unit} : checkBalanced text = .ok u ↔ Balanced text := by
  rw [← unbalancedAt?_eq_none_iff, checkBalanced]
  cases unbalancedAt? text <;> simp

theorem trimPieces_eq_ok_iff {start : Nat} {pieces terms : List (List Char)} :
    trimPieces text start pieces = .ok terms ↔
      terms = pieces.map trim ∧ ∀ piece ∈ pieces, trim piece ≠ [] := by
  induction pieces generalizing start terms with
  | nil => simp [trimPieces, eq_comm]
  | cons piece pieces ih =>
    rw [trimPieces]
    split
    · next h => simp [h]
    · next hne =>
      simp only [bind_eq_ok_iff, ih, pure, Except.pure, Except.ok.injEq, List.map_cons,
        List.forall_mem_cons]
      constructor
      · rintro ⟨_, ⟨rfl, h⟩, rfl⟩
        exact ⟨rfl, hne, h⟩
      · rintro ⟨rfl, -, h⟩
        exact ⟨_, ⟨rfl, h⟩, rfl⟩

/-- The terms of a text are its trimmed pieces. There are some if it is balanced and no piece is
blank. -/
theorem split_eq_ok_iff {separator : Char} {terms : List (List Char)} :
    split separator text = .ok terms ↔ Balanced text ∧ terms = (pieces separator text).map trim ∧
      ∀ piece ∈ pieces separator text, trim piece ≠ [] := by
  simp only [split, bind_eq_ok_iff, checkBalanced_eq_ok_iff, trimPieces_eq_ok_iff, exists_const]

theorem balanced_of_mem_split {separator : Char} {terms : List (List Char)} {term : List Char}
    (hp : isParen separator = false) (h : split separator text = .ok terms) (hm : term ∈ terms) :
    Balanced term := by
  obtain ⟨hb, rfl, -⟩ := split_eq_ok_iff.1 h
  obtain ⟨piece, hpiece, rfl⟩ := List.mem_map.1 hm
  exact balanced_trim_iff.2 (whole_of_mem_pieces hp hb piece hpiece).balanced

theorem split_of_whole {separator : Char} (hp : isParen separator = false)
    (hw : Whole separator text) (ht : Trimmed text) (hne : text ≠ []) :
    split separator text = .ok [text] := by
  have htrim : trim text = text := by simpa using trim_of_trimmed Blank.nil Blank.nil ht
  rw [split_eq_ok_iff, pieces_of_whole hp hw]
  exact ⟨hw.balanced, by simp [htrim], by simpa [htrim] using hne⟩

theorem split_append {separator : Char} {s t : List Char} {terms more : List (List Char)}
    (hp : isParen separator = false) (hs : split separator s = .ok terms)
    (ht : split separator t = .ok more) :
    split separator (s ++ separator :: t) = .ok (terms ++ more) := by
  obtain ⟨hbs, rfl, hns⟩ := split_eq_ok_iff.1 hs
  obtain ⟨hbt, rfl, hnt⟩ := split_eq_ok_iff.1 ht
  refine split_eq_ok_iff.2 ⟨hbs.append_cons hp hbt, ?_, ?_⟩
  · rw [pieces_append hp hbs, List.map_append]
  · rw [pieces_append hp hbs]
    exact List.forall_mem_append.2 ⟨hns, hnt⟩

theorem exists_of_split_mapM {β γ : Type} {separator : Char} {f : List Char → Except QueryError β}
    {combine : List β → γ} {c : γ}
    (h : (split separator text >>= fun terms => combine <$> terms.mapM f) = .ok c) :
    ∃ bs, bs ≠ [] ∧ (∀ b ∈ bs, ∃ term, f term = .ok b) ∧ combine bs = c := by
  obtain ⟨terms, ht, h⟩ := bind_eq_ok_iff.1 h
  obtain ⟨bs, hm, rfl⟩ := map_eq_ok_iff.1 h
  obtain ⟨-, rfl, -⟩ := split_eq_ok_iff.1 ht
  rw [mapM_eq_ok_iff] at hm
  refine ⟨bs, ?_, fun b hb => ?_, rfl⟩
  · rintro rfl
    simpa [pieces, piecesFrom_ne_nil] using hm.length_eq
  · obtain ⟨term, -, h⟩ := exists_of_forall₂ hm.flip b hb
    exact ⟨term, h⟩

theorem split_mapM_of_whole {β γ : Type} {separator : Char} {f : List Char → Except QueryError β}
    {combine : List β → γ} (hp : isParen separator = false) (hw : Whole separator text)
    (ht : Trimmed text) (hne : text ≠ []) :
    (split separator text >>= fun terms => combine <$> terms.mapM f) =
      (fun b => combine [b]) <$> f text := by
  rw [split_of_whole hp hw ht hne]
  show combine <$> [text].mapM f = _
  rw [List.mapM_cons]
  cases f text <;> rfl

theorem split_mapM_append {β γ : Type} {separator : Char} {f : List Char → Except QueryError β}
    {combine : List β → γ} {s t : List Char} {c d : γ} (hp : isParen separator = false)
    (hs : (split separator s >>= fun terms => combine <$> terms.mapM f) = .ok c)
    (ht : (split separator t >>= fun terms => combine <$> terms.mapM f) = .ok d) :
    ∃ bs bs', combine bs = c ∧ combine bs' = d ∧ (∀ b ∈ bs, ∃ term, f term = .ok b) ∧
      (∀ b ∈ bs', ∃ term, f term = .ok b) ∧
      (split separator (s ++ separator :: t) >>= fun terms => combine <$> terms.mapM f) =
        .ok (combine (bs ++ bs')) := by
  obtain ⟨terms, hterms, hs⟩ := bind_eq_ok_iff.1 hs
  obtain ⟨more, hmore, ht⟩ := bind_eq_ok_iff.1 ht
  obtain ⟨bs, hbs, rfl⟩ := map_eq_ok_iff.1 hs
  obtain ⟨bs', hbs', rfl⟩ := map_eq_ok_iff.1 ht
  rw [mapM_eq_ok_iff] at hbs hbs'
  refine ⟨bs, bs', rfl, rfl, fun b hb => ?_, fun b hb => ?_, ?_⟩
  · exact (exists_of_forall₂ hbs.flip b hb).imp fun _ h => h.2
  · exact (exists_of_forall₂ hbs'.flip b hb).imp fun _ h => h.2
  · rw [split_append hp hterms hmore]
    exact map_eq_ok_iff.2 ⟨bs ++ bs', mapM_eq_ok_iff.2 (List.rel_append hbs hbs'), rfl⟩

theorem map_trim_pieces {separator : Char} {left right : List Char} (hp : isParen separator = false)
    (hb : isBlank separator = false) (hl : Blank left) (hr : Blank right) (h : Balanced text) :
    (pieces separator (left ++ (text ++ right))).map trim = (pieces separator text).map trim := by
  -- blanks on the left belong to the first piece; after a cut there are none left
  refine h.cut_induction (motive := fun text => ∀ left, Blank left →
    (pieces separator (left ++ (text ++ right))).map trim = (pieces separator text).map trim) hp
    (fun text hw left hl => ?_) (fun first rest hf _ ih left hl => ?_) left hl
  · rw [pieces_of_whole hp hw, pieces_of_whole hp ((hl.whole hb).append (hw.append (hr.whole hb)))]
    simp [trim_blank_append hl hr]
  · have he : left ++ (first ++ separator :: rest ++ right) =
        left ++ first ++ separator :: (rest ++ right) := by simp
    rw [he, pieces_cons_of_whole hp hf, pieces_cons_of_whole hp ((hl.whole hb).append hf)]
    have ht : trim (left ++ first) = trim first := by
      simpa using trim_blank_append hl Blank.nil first
    simpa [ht] using ih [] Blank.nil

theorem split_trim_eq_ok_iff {separator : Char} {terms : List (List Char)}
    (hp : isParen separator = false) (hb : isBlank separator = false) :
    split separator (trim text) = .ok terms ↔ split separator text = .ok terms := by
  obtain ⟨left, right, hl, hr, he⟩ := exists_trim text
  rw [split_eq_ok_iff, split_eq_ok_iff, balanced_trim_iff]
  refine and_congr_right fun h => ?_
  have hm := map_trim_pieces hp hb hl hr (balanced_trim_iff.2 h)
  rw [← he] at hm
  have hne : ∀ {ps : List (List Char)}, (∀ p ∈ ps, trim p ≠ []) ↔ ∀ t ∈ ps.map trim, t ≠ [] := by
    simp
  rw [hne, hne, hm]

end Terms

/-! ### Tokens -/

/-- A start, characters that may stand inside a token, and a final `=`. -/
def IsToken (token : List Char) : Prop :=
  ∃ c inner, token = c :: (inner ++ ['=']) ∧ Token.isStart c = true ∧ inner.all Token.isInner = true

namespace Token

theorem isInner_eq_false_iff {c : Char} : isInner c = false ↔ c = '=' ∨ isParen c = true := by
  simp only [isInner, isParen, Bool.not_eq_false', Bool.or_eq_true, beq_iff_eq, or_assoc]

theorem isParen_of_isStart {c : Char} (h : isStart c = true) : isParen c = false := by
  simp only [isStart, Bool.or_eq_true, beq_iff_eq] at h
  rcases h with rfl | rfl <;> decide

theorem isParen_of_mem {token : List Char} (h : IsToken token) :
    ∀ c ∈ token, isParen c = false := by
  obtain ⟨c, inner, rfl, hc, hi⟩ := h
  intro d hd
  simp only [List.mem_cons, List.mem_append, List.not_mem_nil, or_false] at hd
  rcases hd with rfl | hd | rfl
  · exact isParen_of_isStart hc
  · have := List.all_eq_true.1 hi d hd
    cases hp : isParen d with
    | false => rfl
    | true => rw [isInner_eq_false_iff.2 (.inr hp)] at this; simp at this
  · decide

theorem split?_append {before token after : List Char} (hb : ∀ c ∈ before, isStart c = false)
    (ht : IsToken token) : split? (before ++ (token ++ after)) = some ⟨before, token, after⟩ := by
  induction before with
  | nil =>
    obtain ⟨c, inner, rfl, hc, hi⟩ := ht
    simpa using split?_token hc hi
  | cons c before ih =>
    rw [List.cons_append, split?, hb c (by simp), ih fun d hd => hb d (by simp [hd])]
    rfl

/-- A text is cut at a token. A start before it is followed by a parenthesis, since otherwise the
token would begin there. -/
theorem split?_sound {text : List Char} {s : TokenSplit} (h : split? text = some s) :
    text = s.before ++ (s.token ++ s.after) ∧ IsToken s.token ∧
      ((∀ c ∈ s.before, isParen c = false) → ∀ c ∈ s.before, isStart c = false) := by
  fun_induction split? text generalizing s with
  | case1 => simp at h
  | case2 c text hc after hd =>
    simp only [Option.some.injEq] at h
    subst h
    refine ⟨?_, ⟨c, text.takeWhile isInner, rfl, hc, List.all_takeWhile⟩, by simp⟩
    have := List.takeWhile_append_dropWhile (p := isInner) (l := text)
    rw [hd] at this
    simp [this]
  | case3 c text hc hne ih =>
    obtain ⟨r, hr, rfl⟩ := Option.map_eq_some_iff.1 h
    obtain ⟨he, ht, -⟩ := ih hr
    refine ⟨?_, ht, fun hp => ?_⟩
    · simp [TokenSplit.shift, ← he]
    · -- the scan has stopped at a parenthesis, which stands before the token that was found
      exfalso
      cases hd : text.dropWhile isInner with
      | nil => rw [hd, split?] at hr; simp at hr
      | cons d rest =>
        have hi := List.head?_dropWhile_not isInner text
        rw [hd] at hi he hr
        rcases isInner_eq_false_iff.1 (by simpa using hi) with rfl | hdp
        · exact hne rest hd
        · have hs : isStart d = false := by
            cases hs : isStart d with
            | false => rfl
            | true => rw [isParen_of_isStart hs] at hdp; simp at hdp
          rw [split?, hs] at hr
          obtain ⟨r', -, rfl⟩ := Option.map_eq_some_iff.1 hr
          have := hp d (by simp [TokenSplit.shift])
          rw [hdp] at this
          simp at this
  | case4 c text hc ih =>
    obtain ⟨r, hr, rfl⟩ := Option.map_eq_some_iff.1 h
    obtain ⟨he, ht, hn⟩ := ih hr
    refine ⟨by simp [TokenSplit.shift, he], ht, fun hp => ?_⟩
    simp only [TokenSplit.shift, List.singleton_append, List.forall_mem_cons] at hp ⊢
    exact ⟨by simpa using hc, hn hp.2⟩

theorem isToken_of_isShaped {token : List Char} (h : isShaped token = true) : IsToken token := by
  unfold isShaped at h
  split at h
  · next token' hs =>
    obtain ⟨he, ht, -⟩ := split?_sound hs
    simpa [he] using ht
  · simp at h

theorem isShaped_iff {token : List Char} : isShaped token = true ↔ IsToken token := by
  refine ⟨isToken_of_isShaped, ?_⟩
  rintro ⟨c, inner, rfl, hc, hi⟩
  exact isShaped_token hc hi

end Token

theorem Operator.isToken (o : Operator) : IsToken o.pattern.toList :=
  Token.isToken_of_isShaped o.shaped

theorem OperatorMatch.find_eq_ok_iff {operators : List Operator} {term : List Char}
    {m : OperatorMatch} : find operators term = .ok m ↔
      ∃ s, Token.split? term = some s ∧ m.key = trim s.before ∧ m.key ≠ [] ∧
        Escape.hasStandIn m.key = false ∧
        Operator.find? operators (String.ofList s.token) = some m.operator ∧ m.value = s.after := by
  obtain ⟨key, o, value⟩ := m
  unfold find
  cases Token.split? term with
  | none => simp
  | some s =>
    simp only [Option.some.injEq, exists_eq_left']
    cases hk : (trim s.before).isEmpty with
    | true => simp_all
    | false =>
      cases hs : Escape.hasStandIn (trim s.before) with
      | true => simp_all
      | false =>
        cases ho : Operator.find? operators (String.ofList s.token) with
        | none => simp
        | some o' =>
          have hne : trim s.before ≠ [] := by simpa using hk
          simp only [Except.ok.injEq, OperatorMatch.mk.injEq, Option.some.injEq, Bool.false_eq_true,
            if_false]
          constructor
          · rintro ⟨rfl, rfl, rfl⟩
            exact ⟨rfl, hne, hs, rfl, rfl⟩
          · rintro ⟨rfl, -, -, rfl, rfl⟩
            exact ⟨rfl, rfl, rfl⟩

/-! ### Shapes -/

namespace TermShape

theorem of_eq_group_iff {term inner : List Char} :
    of term = .ok (.group inner) ↔ term = '(' :: (inner ++ [')']) ∧ Balanced inner := by
  rw [← enclosed?_eq_some_iff]
  unfold of enclosed?
  split
  · split <;> simp_all
  · split
    · simp
    · split <;> simp

theorem of_eq_comparison_iff {term : List Char} :
    (of term = .ok .listArgument ∨ of term = .ok .plain) ↔
      (∀ text, term ≠ '(' :: text) ∧ ∀ c ∈ head term, isParen c = false := by
  unfold of
  split
  · split <;> simp
  · next hne =>
    have hp : (head term).any isParen = false ↔ ∀ c ∈ head term, isParen c = false := by simp
    cases hh : (head term).any isParen with
    | true => simp [← hp, hh]
    | false =>
      have hs : ∀ text, term ≠ '(' :: text := fun text he => hne text he
      rw [hp] at hh
      cases (tail term).any isParen <;> simpa using ⟨hs, hh⟩

theorem head_of_split? {term : List Char} {s : TokenSplit} (h : Token.split? term = some s) :
    head term = s.before := by
  rw [head, h]

theorem eq_head_append_tail (term : List Char) : term = head term ++ tail term := by
  unfold head tail
  cases h : Token.split? term with
  | none => simp
  | some s => exact (Token.split?_sound h).1

end TermShape

end FilterQuery
