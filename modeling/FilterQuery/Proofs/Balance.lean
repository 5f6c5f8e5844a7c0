import FilterQuery.Text.Nesting

/-!
# Balanced texts and their pieces

`Balanced` says with counts of parentheses what `unbalancedAt?` decides by a scan
(`unbalancedAt?_eq_none_iff`), and `Whole` that a separator has no place to cut a balanced text. The
scans share one quantity, the depth that a text leads to (`depthThrough`): what a scan does on
`s ++ t` follows from what it does on `t` at the depth after `s`.

`pieces` of a balanced text are its only cut into whole parts: a whole text is its own only piece
(`pieces_of_whole`), a whole text before a separator is the first piece (`pieces_cons_of_whole`),
and every balanced text has one of these two forms (`whole_or_cut`).
-/

namespace FilterQuery.Nesting

/-- No part from the start of a text closes more parentheses than it opens, and the text closes
all that it opens. -/
def Balanced (text : List Char) : Prop :=
  (∀ start, start <+: text → start.count ')' ≤ start.count '(') ∧ text.count '(' = text.count ')'

/-- A balanced text in which a separator stands within parentheses only. -/
structure Whole (separator : Char) (text : List Char) : Prop where
  balanced : Balanced text
  uncut : ∀ before after, text = before ++ separator :: after →
    before.count '(' ≠ before.count ')'

/-- The depth after a text that is met at a given depth, unless it closes more than is open. -/
def depthThrough (depth : Nat) : List Char → Option Nat
  | [] => some depth
  | c :: text => if c = ')' ∧ depth = 0 then none else depthThrough (depthAfter depth c) text

variable {separator c : Char} {depth final : Nat} {s t text inner rest : List Char}

/-! ### The depth that a text leads to -/

@[simp]
theorem depthThrough_nil : depthThrough depth [] = some depth := rfl

theorem depthThrough_cons_of_ne (h : ¬(c = ')' ∧ depth = 0)) :
    depthThrough depth (c :: text) = depthThrough (depthAfter depth c) text := by
  rw [depthThrough, if_neg h]

theorem depthAfter_of_not_isParen (h : isParen c = false) : depthAfter depth c = depth := by
  simp only [isParen, Bool.or_eq_false_iff, beq_eq_false_iff_ne] at h
  simp [depthAfter, h.1, h.2]

@[simp]
theorem depthThrough_open : depthThrough depth ('(' :: text) = depthThrough (depth + 1) text := rfl

@[simp]
theorem depthThrough_close :
    depthThrough (depth + 1) (')' :: text) = depthThrough depth text := rfl

theorem depthThrough_append :
    depthThrough depth (s ++ t) = (depthThrough depth s).bind fun d => depthThrough d t := by
  induction s generalizing depth with
  | nil => rfl
  | cons c s ih =>
    simp only [List.cons_append, depthThrough]
    split
    · rfl
    · exact ih

theorem depthThrough_of_not_isParen (h : ∀ c ∈ text, isParen c = false) :
    depthThrough depth text = some depth := by
  induction text with
  | nil => rfl
  | cons c text ih =>
    have hc := h c (by simp)
    have hne : ¬(c = ')' ∧ depth = 0) := by rintro ⟨rfl, -⟩; simp [isParen] at hc
    rw [depthThrough_cons_of_ne hne, depthAfter_of_not_isParen hc]
    exact ih fun d hd => h d (by simp [hd])

/-- A text that can be read at a depth can be read deeper, and leads as much deeper. -/
theorem depthThrough_add (k : Nat) (h : depthThrough depth text = some final) :
    depthThrough (depth + k) text = some (final + k) := by
  induction text generalizing depth with
  | nil => simp_all
  | cons c text ih =>
    rw [depthThrough] at h
    split at h
    · simp at h
    · next hne =>
      have hk : ¬(c = ')' ∧ depth + k = 0) := fun hc => hne ⟨hc.1, by omega⟩
      rw [depthThrough_cons_of_ne hk]
      -- a closing parenthesis lowers both depths, since `depth` is not zero there
      have ha : depthAfter (depth + k) c = depthAfter depth c + k := by
        simp only [depthAfter]
        split
        · omega
        · split
          · next hc => have : depth ≠ 0 := fun hd => hne ⟨hc, hd⟩; omega
          · rfl
      rw [ha]
      exact ih h

theorem depthThrough_eq_some_iff : depthThrough depth text = some final ↔
    (∀ start, start <+: text → start.count ')' ≤ depth + start.count '(') ∧
      depth + text.count '(' = final + text.count ')' := by
  induction text generalizing depth with
  | nil => simp
  | cons c text ih =>
    rw [depthThrough]
    split
    · next hc =>
      obtain ⟨rfl, rfl⟩ := hc
      simp only [reduceCtorEq, false_iff]
      rintro ⟨h, -⟩
      have := h [')'] ⟨text, rfl⟩
      simp at this
    · next hne =>
      have hd : c = ')' → depth ≠ 0 := fun hc hd => hne ⟨hc, hd⟩
      rw [ih]
      simp only [List.prefix_cons_iff, depthAfter, List.count_cons, beq_iff_eq]
      constructor
      · rintro ⟨hs, ht⟩
        refine ⟨?_, by grind⟩
        rintro start (rfl | ⟨start, rfl, hstart⟩)
        · simp
        · have := hs start hstart
          grind
      · rintro ⟨hs, ht⟩
        refine ⟨fun start hstart => ?_, by grind⟩
        have := hs (c :: start) (.inr ⟨start, rfl, hstart⟩)
        grind

/-! ### Balanced texts -/

theorem balanced_iff : Balanced text ↔ depthThrough 0 text = some 0 := by
  simp [depthThrough_eq_some_iff, Balanced]

instance : Decidable (Balanced text) :=
  decidable_of_iff _ balanced_iff.symm

theorem Balanced.depthThrough (h : Balanced text) (depth : Nat) :
    depthThrough depth text = some depth := by
  simpa using depthThrough_add depth (balanced_iff.1 h)

theorem balanced_of_not_isParen (h : ∀ c ∈ text, isParen c = false) : Balanced text :=
  balanced_iff.2 (depthThrough_of_not_isParen h)

theorem balanced_singleton (h : isParen c = false) : Balanced [c] :=
  balanced_of_not_isParen (by simpa using h)

theorem Balanced.append_iff (hs : Balanced s) : Balanced (s ++ t) ↔ Balanced t := by
  rw [balanced_iff, balanced_iff, depthThrough_append, hs.depthThrough, Option.bind_some]

theorem Balanced.append (hs : Balanced s) (ht : Balanced t) : Balanced (s ++ t) :=
  hs.append_iff.2 ht

theorem Balanced.append_cons (hp : isParen separator = false) (hs : Balanced s) (ht : Balanced t) :
    Balanced (s ++ separator :: t) :=
  hs.append ((balanced_singleton hp).append ht)

theorem Balanced.of_append_right (ht : Balanced t) (h : Balanced (s ++ t)) : Balanced s := by
  rw [balanced_iff, depthThrough_append, Option.bind_eq_some_iff] at h
  obtain ⟨d, hs, hd⟩ := h
  rw [ht.depthThrough, Option.some.injEq] at hd
  rw [balanced_iff, hs, hd]

theorem Balanced.prefix_iff (h : Balanced (s ++ t)) : Balanced s ↔ s.count '(' = s.count ')' :=
  ⟨fun hs => hs.2, fun hc => ⟨fun start hstart => h.1 start (hstart.trans ⟨t, rfl⟩), hc⟩⟩

theorem Balanced.enclose (h : Balanced inner) : Balanced ('(' :: (inner ++ [')'])) := by
  rw [balanced_iff, depthThrough_open, depthThrough_append, h.depthThrough]
  rfl

theorem unbalancedFrom_eq_none_iff {position opened : Nat} :
    unbalancedFrom depth position opened text = none ↔ depthThrough depth text = some 0 := by
  induction text generalizing depth position opened with
  | nil => simp [unbalancedFrom]
  | cons c text ih =>
    rw [unbalancedFrom, depthThrough]
    by_cases ho : c = '('
    · subst ho
      simpa [depthAfter] using ih
    by_cases hc : c = ')'
    · subst hc
      by_cases hd : depth = 0
      · simp [hd]
      · simpa [hd, depthAfter] using ih
    · simpa [ho, hc, depthAfter] using ih

theorem unbalancedAt?_eq_none_iff : unbalancedAt? text = none ↔ Balanced text := by
  rw [unbalancedAt?, unbalancedFrom_eq_none_iff, balanced_iff]

/-! ### The parenthesis that closes an opened one -/

theorem splitAtClose_eq_some_iff : splitAtClose depth text = some (inner, rest) ↔
    text = inner ++ ')' :: rest ∧ depthThrough depth inner = some 0 := by
  induction text generalizing depth inner with
  | nil => simp [splitAtClose]
  | cons c text ih =>
    rw [splitAtClose]
    split
    · next hc =>
      obtain ⟨rfl, rfl⟩ := hc
      cases inner with
      | nil => simp
      | cons d inner =>
        simp only [Option.some.injEq, Prod.mk.injEq, List.nil_eq, reduceCtorEq, false_and,
          List.cons_append, List.cons.injEq, false_iff]
        rintro ⟨⟨rfl, -⟩, h⟩
        simp [depthThrough] at h
    · next hne =>
      simp only [Option.map_eq_some_iff, Prod.exists, Prod.mk.injEq]
      cases inner with
      | nil =>
        simp only [reduceCtorEq, false_and, and_false, exists_false, List.nil_append,
          List.cons.injEq, depthThrough_nil, Option.some.injEq, false_iff]
        rintro ⟨⟨rfl, -⟩, rfl⟩
        exact hne ⟨rfl, rfl⟩
      | cons d inner =>
        constructor
        · rintro ⟨i, r, h, hi, rfl⟩
          obtain ⟨rfl, rfl⟩ := List.cons.inj hi
          obtain ⟨rfl, hd⟩ := ih.1 h
          exact ⟨rfl, by rw [depthThrough_cons_of_ne hne, hd]⟩
        · rintro ⟨h, hd⟩
          obtain ⟨rfl, rfl⟩ := List.cons.inj h
          rw [depthThrough_cons_of_ne hne] at hd
          exact ⟨inner, rest, ih.2 ⟨rfl, hd⟩, rfl, rfl⟩

theorem splitAtClose_eq_none_iff :
    splitAtClose depth text = none ↔ ∃ final, depthThrough depth text = some final := by
  induction text generalizing depth with
  | nil => simp [splitAtClose]
  | cons c text ih =>
    rw [splitAtClose, depthThrough]
    split
    · simp
    · rw [Option.map_eq_none_iff]
      exact ih

theorem Balanced.exists_close (h : Balanced (s ++ '(' :: t)) :
    ∃ inner rest, splitAtClose 0 t = some (inner, rest) := by
  cases hs : splitAtClose 0 t with
  | some parts => exact ⟨parts.1, parts.2, rfl⟩
  | none =>
    obtain ⟨final, hf⟩ := splitAtClose_eq_none_iff.1 hs
    rw [balanced_iff, depthThrough_append, Option.bind_eq_some_iff] at h
    obtain ⟨d, -, hd⟩ := h
    -- what leads up from depth zero cannot lead down to it
    have hup := depthThrough_add (d + 1) hf
    rw [Nat.zero_add] at hup
    rw [depthThrough_open, hup, Option.some.injEq] at hd
    omega

theorem enclosed?_eq_some_iff :
    enclosed? text = some inner ↔ text = '(' :: (inner ++ [')']) ∧ Balanced inner := by
  constructor
  · intro h
    refine ⟨eq_of_enclosed? h, ?_⟩
    unfold enclosed? at h
    split at h
    · split at h
      · next hs =>
        rw [Option.some.injEq] at h
        subst h
        exact balanced_iff.2 (splitAtClose_eq_some_iff.1 hs).2
      · simp at h
    · simp at h
  · rintro ⟨rfl, h⟩
    have hs : splitAtClose 0 (inner ++ [')']) = some (inner, []) :=
      splitAtClose_eq_some_iff.2 ⟨rfl, balanced_iff.1 h⟩
    simp [enclosed?, hs]

/-! ### Texts that a separator does not cut -/

/-- A separator is met in a text at other depths than zero only. -/
def UncutFrom (separator : Char) (depth : Nat) (text : List Char) : Prop :=
  ∀ before after, text = before ++ separator :: after → depthThrough depth before ≠ some 0

theorem uncutFrom_cons_iff (hne : ¬(c = ')' ∧ depth = 0)) : UncutFrom separator depth (c :: text) ↔
    ¬(c = separator ∧ depth = 0) ∧ UncutFrom separator (depthAfter depth c) text := by
  constructor
  · refine fun h => ⟨?_, fun before after he => ?_⟩
    · rintro ⟨rfl, rfl⟩
      exact h [] text rfl rfl
    · rw [← depthThrough_cons_of_ne hne]
      exact h (c :: before) after (by rw [he]; rfl)
  · rintro ⟨hc, h⟩ before after he
    cases before with
    | nil =>
      obtain ⟨rfl, -⟩ := List.cons.inj he
      exact fun hd => hc ⟨rfl, Option.some.inj hd⟩
    | cons d before =>
      obtain ⟨rfl, rfl⟩ := List.cons.inj he
      rw [depthThrough_cons_of_ne hne]
      exact h before after rfl

theorem whole_iff : Whole separator text ↔ Balanced text ∧ UncutFrom separator 0 text := by
  have key (hb : Balanced text) {before after : List Char}
      (he : text = before ++ separator :: after) :
      before.count '(' = before.count ')' ↔ depthThrough 0 before = some 0 := by
    subst he
    rw [← balanced_iff, hb.prefix_iff]
  constructor
  · rintro ⟨hb, hu⟩
    exact ⟨hb, fun before after he hd => hu before after he ((key hb he).2 hd)⟩
  · rintro ⟨hb, hu⟩
    exact ⟨hb, fun before after he hc => hu before after he ((key hb he).1 hc)⟩

theorem whole_of_not_isParen (hp : ∀ c ∈ text, isParen c = false) (hs : separator ∉ text) :
    Whole separator text := by
  refine ⟨balanced_of_not_isParen hp, fun before after he => ?_⟩
  rw [he] at hs
  simp at hs

theorem Whole.enclose (hs : isParen separator = false) (h : Balanced inner) :
    Whole separator ('(' :: (inner ++ [')'])) := by
  refine whole_iff.2 ⟨h.enclose, (uncutFrom_cons_iff (by simp)).2 ⟨?_, ?_⟩⟩
  · rintro ⟨rfl, -⟩
    simp [isParen] at hs
  · intro before after he hd
    -- the depth before a separator is one more than `inner` alone gives
    have hb : before <+: inner := by
      rcases List.append_eq_append_iff.1 he with ⟨a, rfl, ha⟩ | ⟨a, rfl, ha⟩
      · cases a with
        | nil => simp
        | cons d a =>
          obtain ⟨rfl, ha⟩ := List.cons.inj ha
          simp at ha
      · exact ⟨a, rfl⟩
    obtain ⟨d, hd'⟩ : ∃ d, depthThrough 0 before = some d := by
      obtain ⟨a, rfl⟩ := hb
      rw [balanced_iff, depthThrough_append, Option.bind_eq_some_iff] at h
      exact h.imp fun d hd => hd.1
    have := depthThrough_add 1 hd'
    simp only [depthAfter, if_true] at hd
    rw [hd] at this
    simp at this

theorem whole_append_iff (hs : Balanced s) :
    Whole separator (s ++ t) ↔ Whole separator s ∧ Whole separator t := by
  constructor
  · rintro ⟨hb, hu⟩
    refine ⟨⟨hs, fun before after he => ?_⟩, ⟨hs.append_iff.1 hb, fun before after he hc => ?_⟩⟩
    · exact hu before (after ++ t) (by rw [he]; simp)
    · exact hu (s ++ before) after (by rw [he]; simp) (by simp [hc, hs.2])
  · rintro ⟨h₁, h₂⟩
    refine ⟨hs.append h₂.balanced, fun before after he hc => ?_⟩
    rcases List.append_eq_append_iff.1 he with ⟨a, rfl, ha⟩ | ⟨a, rfl, ha⟩
    · rw [List.count_append, List.count_append, hs.2] at hc
      exact h₂.uncut a after ha (by omega)
    · cases a with
      | nil => exact h₂.uncut [] after ha.symm rfl
      | cons d a =>
        obtain ⟨rfl, rfl⟩ := List.cons.inj ha
        exact h₁.uncut before a rfl hc

theorem Whole.not_mem_of_not_isParen (h : Whole separator text)
    (hp : ∀ c ∈ text, isParen c = false) : separator ∉ text := by
  intro hc
  obtain ⟨before, after, rfl⟩ := List.append_of_mem hc
  have hb : Balanced before := balanced_of_not_isParen fun c hc => hp c (by simp [hc])
  exact h.uncut before after rfl hb.2

theorem Whole.append (hs : Whole separator s) (ht : Whole separator t) : Whole separator (s ++ t) :=
  (whole_append_iff hs.balanced).2 ⟨hs, ht⟩

/-! ### Pieces -/

theorem cuts_eq_true_iff (hs : isParen separator = false) :
    cuts separator depth c = true ↔ c = separator ∧ depth = 0 := by
  simp only [cuts, Bool.and_eq_true, beq_iff_eq, Bool.not_eq_true']
  constructor
  · rintro ⟨h, -⟩
    exact h
  · rintro ⟨rfl, rfl⟩
    exact ⟨⟨rfl, rfl⟩, hs⟩

theorem eq_of_cuts (h : cuts separator depth c = true) : c = separator := by
  simp only [cuts, Bool.and_eq_true, beq_iff_eq] at h
  exact h.1.1

/-- A text that is not cut belongs to the first piece of what follows it. -/
theorem piecesFrom_append {piece : List Char} {more : List (List Char)}
    (hp : isParen separator = false) (hd : depthThrough depth s = some final)
    (hu : UncutFrom separator depth s) (ht : piecesFrom separator final t = piece :: more) :
    piecesFrom separator depth (s ++ t) = (s ++ piece) :: more := by
  induction s generalizing depth with
  | nil =>
    rw [depthThrough_nil, Option.some.injEq] at hd
    subst hd
    exact ht
  | cons c s ih =>
    rw [depthThrough] at hd
    split at hd
    · simp at hd
    · next hne =>
      obtain ⟨hc, hu⟩ := (uncutFrom_cons_iff hne).1 hu
      rw [← cuts_eq_true_iff hp, Bool.not_eq_true] at hc
      rw [List.cons_append, piecesFrom, hc, ih hd hu]
      rfl

theorem pieces_of_whole (hp : isParen separator = false) (h : Whole separator text) :
    pieces separator text = [text] := by
  obtain ⟨hb, hu⟩ := whole_iff.1 h
  simpa [pieces] using piecesFrom_append (t := []) hp (balanced_iff.1 hb) hu rfl

theorem pieces_cons_of_whole (hp : isParen separator = false) (h : Whole separator s) :
    pieces separator (s ++ separator :: t) = s :: pieces separator t := by
  obtain ⟨hb, hu⟩ := whole_iff.1 h
  have ht : piecesFrom separator 0 (separator :: t) = [] :: pieces separator t := by
    rw [piecesFrom, (cuts_eq_true_iff hp).2 ⟨rfl, rfl⟩]
    rfl
  simpa [pieces] using piecesFrom_append hp (balanced_iff.1 hb) hu ht

theorem uncutFrom_or_cut (separator : Char) (h : depthThrough depth text = some 0) :
    UncutFrom separator depth text ∨
    ∃ first rest, text = first ++ separator :: rest ∧ depthThrough depth first = some 0 ∧
      UncutFrom separator depth first := by
  induction text generalizing depth with
  | nil => exact .inl fun before after he => by simp at he
  | cons c text ih =>
    rw [depthThrough] at h
    split at h
    · simp at h
    · next hne =>
      by_cases hc : c = separator ∧ depth = 0
      · obtain ⟨rfl, rfl⟩ := hc
        exact .inr ⟨[], text, rfl, rfl, fun before after he => by simp at he⟩
      · rcases ih h with hu | ⟨first, rest, rfl, hd, hu⟩
        · exact .inl ((uncutFrom_cons_iff hne).2 ⟨hc, hu⟩)
        · refine .inr ⟨c :: first, rest, rfl, ?_, (uncutFrom_cons_iff hne).2 ⟨hc, hu⟩⟩
          rw [depthThrough_cons_of_ne hne, hd]

/-- A balanced text is not cut, or has a first cut with a balanced rest. -/
theorem whole_or_cut (hp : isParen separator = false) (h : Balanced text) : Whole separator text ∨
    ∃ first rest, text = first ++ separator :: rest ∧ Whole separator first ∧ Balanced rest := by
  rcases uncutFrom_or_cut separator (balanced_iff.1 h) with hu | ⟨first, rest, rfl, hd, hu⟩
  · exact .inl (whole_iff.2 ⟨h, hu⟩)
  · have hb := balanced_iff.2 hd
    have hr := (balanced_singleton hp).append_iff.1 (hb.append_iff.1 h)
    exact .inr ⟨first, rest, rfl, whole_iff.2 ⟨hb, hu⟩, hr⟩

/-- Balanced texts are built from whole ones with separators between them. -/
@[elab_as_elim]
theorem Balanced.cut_induction {motive : List Char → Prop} (hp : isParen separator = false)
    (whole : ∀ text, Whole separator text → motive text)
    (cut : ∀ first rest, Whole separator first → Balanced rest → motive rest →
      motive (first ++ separator :: rest)) (h : Balanced text) : motive text := by
  induction hn : text.length using Nat.strongRecOn generalizing text with
  | ind n ih =>
    rcases whole_or_cut hp h with hw | ⟨first, rest, rfl, hf, hr⟩
    · exact whole text hw
    · exact cut first rest hf hr (ih rest.length (by simp [← hn]; omega) hr rfl)

theorem pieces_append (hp : isParen separator = false) (hs : Balanced s) :
    pieces separator (s ++ separator :: t) = pieces separator s ++ pieces separator t := by
  refine hs.cut_induction hp (fun text hw => ?_) fun first rest hf _ ih => ?_
  · rw [pieces_cons_of_whole hp hw, pieces_of_whole hp hw, List.singleton_append]
  · rw [List.append_assoc, List.cons_append, pieces_cons_of_whole hp hf, pieces_cons_of_whole hp hf,
      ih, List.cons_append]

theorem whole_of_mem_pieces (hp : isParen separator = false) (h : Balanced text) :
    ∀ piece ∈ pieces separator text, Whole separator piece := by
  refine h.cut_induction hp (fun text hw => ?_) fun first rest hf _ ih => ?_
  · rw [pieces_of_whole hp hw]
    simpa using hw
  · rw [pieces_cons_of_whole hp hf]
    simpa using ⟨hf, ih⟩

/-- Cuts at one separator do not make room for cuts at another. -/
theorem Whole.of_mem_pieces {other : Char} (hp : isParen separator = false) (h : Whole other text) :
    ∀ piece ∈ pieces separator text, Whole other piece := by
  refine h.balanced.cut_induction hp (motive := fun text => Whole other text →
    ∀ piece ∈ pieces separator text, Whole other piece) (fun text hw ho => ?_) ?_ h
  · rw [pieces_of_whole hp hw]
    simpa using ho
  · intro first rest hf _ ih ho
    obtain ⟨ho₁, ho₂⟩ := (whole_append_iff hf.balanced).1 ho
    obtain ⟨-, hr⟩ := (whole_append_iff (balanced_singleton hp)).1 ho₂
    rw [pieces_cons_of_whole hp hf]
    simpa using ⟨ho₁, ih hr⟩

end FilterQuery.Nesting
