import FilterQuery.Proofs.Escaping
import Mathlib.Data.List.Chain

/-!
# Encoded texts and how they are written

A text and its encoding are two spellings of the same: they are written alike (`decode_encode_eq`)
and encoded alike (`encode_encode`, `encode_decode_eq`). So `decode` undoes `encode` on every text
without stand-ins (`decode_encode`), and `encode` undoes `decode` on every text that `encode` can
give: one in which no backslash stands right before a character that it would escape (`Unpaired`). A
part of such a text is such a text again, so cutting an encoded text never takes an escape pair
apart: every part of it is the encoding of what it is written as (`encode_of_append`).
-/

namespace FilterQuery.Escape

variable {c : Char} {text : List Char}

/-- A text without a backslash right before a character that has a role in a query. -/
def Unpaired (text : List Char) : Prop :=
  text.IsChain fun c d => c = '\\' → standIn? d = none

theorem hasStandIn_eq_false_iff : hasStandIn text = false ↔ ∀ c ∈ text, isStandIn c = false := by
  simp [hasStandIn]

theorem literal?_eq_none (h : isStandIn c = false) : literal? c = none := by
  rwa [isStandIn, Option.isSome_eq_false_iff, Option.isNone_iff_eq_none] at h

theorem spelling_of_not_isStandIn (h : isStandIn c = false) : spelling c = [c] := by
  rw [spelling, literal?_eq_none h]

theorem spelling_of_standIn? {l : Char} (h : standIn? l = some c) : spelling c = ['\\', l] := by
  rw [spelling, literal?_eq_some_iff.2 h]

theorem standIn?_of_isStandIn (h : isStandIn c = true) : standIn? c = none := by
  rw [isStandIn_iff] at h
  simp only [List.mem_cons, List.not_mem_nil, or_false] at h
  rcases h with rfl | rfl | rfl | rfl | rfl <;> rfl

theorem isStandIn_literal? {l : Char} (h : literal? c = some l) : isStandIn l = false := by
  cases hs : isStandIn l with
  | false => rfl
  | true =>
    have := standIn?_of_isStandIn hs
    rw [literal?_eq_some_iff.1 h] at this
    simp at this

theorem hasStandIn_of_isInfix {s : List Char} (hi : s <:+: text) (h : hasStandIn s = true) :
    hasStandIn text = true := by
  obtain ⟨c, hc, hs⟩ := List.any_eq_true.1 h
  exact List.any_eq_true.2 ⟨c, hi.mem hc, hs⟩

theorem hasStandIn_eq_false_of_isInfix {s : List Char} (hi : s <:+: text)
    (h : hasStandIn text = false) : hasStandIn s = false := by
  rw [hasStandIn_eq_false_iff] at h ⊢
  exact fun c hc => h c (hi.mem hc)

theorem decode_encode_eq (text : List Char) : decode (encode text) = decode text := by
  fun_induction encode text with
  | case1 => rfl
  | case2 c => rfl
  | case3 c d text p hp ih =>
    by_cases hc : c = '\\'
    · subst hc
      rw [if_pos rfl] at hp
      have hd : isStandIn d = false := isStandIn_literal? (literal?_eq_some_iff.2 hp)
      rw [decode_cons, decode_cons, decode_cons, spelling_of_standIn? hp,
        spelling_of_not_isStandIn hd, ih]
      rfl
    · simp [hc] at hp
  | case4 c d text hn ih => rw [decode_cons, decode_cons c, ih]

theorem hasStandIn_decode (text : List Char) : hasStandIn (decode text) = false := by
  rw [hasStandIn_eq_false_iff]
  intro c hc
  obtain ⟨d, -, hc⟩ := List.mem_flatMap.1 hc
  rw [spelling] at hc
  split at hc
  · next l hl =>
    simp only [List.mem_cons, List.not_mem_nil, or_false] at hc
    rcases hc with rfl | rfl
    · rfl
    · exact isStandIn_literal? hl
  · next hd =>
    rw [List.mem_singleton] at hc
    subst hc
    simp [isStandIn, hd]

theorem decode_of_hasStandIn (h : hasStandIn text = false) : decode text = text := by
  rw [hasStandIn_eq_false_iff] at h
  induction text with
  | nil => rfl
  | cons c text ih =>
    obtain ⟨hc, htext⟩ := List.forall_mem_cons.1 h
    rw [decode_cons, spelling_of_not_isStandIn hc, ih htext]
    rfl

theorem decode_encode (h : hasStandIn text = false) : decode (encode text) = text := by
  rw [decode_encode_eq, decode_of_hasStandIn h]

theorem head?_encode_cons (c : Char) (text : List Char) :
    (encode (c :: text)).head? = some c ∨ ∃ p, (encode (c :: text)).head? = some p ∧
      isStandIn p = true := by
  cases text with
  | nil => exact .inl rfl
  | cons d text =>
    rw [encode]
    split
    · next p hp =>
      refine .inr ⟨p, rfl, ?_⟩
      by_cases hc : c = '\\'
      · rw [if_pos hc] at hp
        exact isStandIn_of_standIn? hp
      · simp [hc] at hp
    · exact .inl rfl

theorem encode_eq_nil_iff : encode text = [] ↔ text = [] := by
  constructor
  · intro h
    cases text with
    | nil => rfl
    | cons c text => rcases head?_encode_cons c text with hc | ⟨p, hp, -⟩ <;> simp_all
  · rintro rfl
    rfl

theorem unpaired_encode (text : List Char) : Unpaired (encode text) := by
  fun_induction encode text with
  | case1 => exact .nil
  | case2 c => exact .singleton c
  | case3 c d text p hp ih =>
    refine ih.cons fun x _ hslash => ?_
    -- a stand-in is not a backslash
    subst hslash
    by_cases hc : c = '\\'
    · rw [if_pos hc] at hp
      exact absurd (isStandIn_of_standIn? hp) (by decide)
    · simp [hc] at hp
  | case4 c d text hn ih =>
    refine ih.cons fun x hx hslash => ?_
    rw [if_pos hslash] at hn
    rcases head?_encode_cons d text with hd | ⟨p, hp, hs⟩
    · rw [hd, Option.mem_some_iff] at hx
      exact hx ▸ hn
    · rw [hp, Option.mem_some_iff] at hx
      exact hx ▸ standIn?_of_isStandIn hs

theorem Unpaired.of_isInfix {s : List Char} (h : Unpaired text) (hi : s <:+: text) : Unpaired s :=
  List.IsChain.infix h hi

theorem head?_decode (h : (decode text).head? = some c) : text.head? = some c ∨ c = '\\' := by
  cases text with
  | nil => simp at h
  | cons d text =>
    rw [decode_cons, spelling] at h
    split at h
    · exact .inr (Option.some.inj h).symm
    · exact .inl h

theorem encode_of_unpaired (h : Unpaired text) : encode text = text := by
  induction text with
  | nil => rfl
  | cons c text ih =>
    obtain ⟨hhead, htail⟩ := List.isChain_cons.1 h
    by_cases hc : c = '\\'
    · rw [encode_cons_of_head fun d hd => hhead d hd hc, ih htail]
    · rw [encode_cons_of_ne hc, ih htail]

theorem encode_encode (text : List Char) : encode (encode text) = encode text :=
  encode_of_unpaired (unpaired_encode text)

theorem encode_decode (h : Unpaired text) : encode (decode text) = text := by
  induction text with
  | nil => rfl
  | cons c text ih =>
    obtain ⟨hhead, htail⟩ := List.isChain_cons.1 h
    rw [decode_cons, spelling]
    split
    · next l hl =>
      show encode ('\\' :: l :: decode text) = _
      rw [encode_pair (literal?_eq_some_iff.1 hl), ih htail]
    · show encode (c :: decode text) = _
      by_cases hc : c = '\\'
      · have hnext : ∀ d, (decode text).head? = some d → standIn? d = none := by
          intro d hd
          rcases head?_decode hd with hd | rfl
          · exact hhead d hd hc
          · rfl
        rw [encode_cons_of_head hnext, ih htail]
      · rw [encode_cons_of_ne hc, ih htail]

theorem encode_decode_eq (text : List Char) : encode (decode text) = encode text := by
  have h := encode_decode (unpaired_encode text)
  rwa [decode_encode_eq] at h

/-- Wherever an encoded text is cut, the text can be cut so that its parts are encoded apart. -/
theorem exists_append_of_encode {before after : List Char} (h : encode text = before ++ after) :
    ∃ s t, text = s ++ t ∧ encode s = before ∧ encode t = after := by
  fun_induction encode text generalizing before with
  | case1 =>
    obtain ⟨rfl, rfl⟩ := List.nil_eq_append_iff.1 h
    exact ⟨[], [], rfl, rfl, rfl⟩
  | case2 c =>
    rcases List.cons_eq_append_iff.1 h with ⟨rfl, rfl⟩ | ⟨u, rfl, hu⟩
    · exact ⟨[], [c], rfl, rfl, rfl⟩
    · obtain ⟨rfl, rfl⟩ := List.nil_eq_append_iff.1 hu
      exact ⟨[c], [], rfl, rfl, rfl⟩
  | case3 c d text p hp ih =>
    by_cases hc : c = '\\'
    · subst hc
      rw [if_pos rfl] at hp
      rcases List.cons_eq_append_iff.1 h with ⟨rfl, rfl⟩ | ⟨u, rfl, hu⟩
      · exact ⟨[], _, rfl, rfl, encode_pair hp⟩
      · obtain ⟨s, t, rfl, rfl, ht⟩ := ih hu
        exact ⟨'\\' :: d :: s, t, rfl, encode_pair hp, ht⟩
    · simp [hc] at hp
  | case4 c d text hn ih =>
    rcases List.cons_eq_append_iff.1 h with ⟨rfl, rfl⟩ | ⟨u, rfl, hu⟩
    · exact ⟨[], c :: d :: text, rfl, rfl, by rw [encode, hn]⟩
    · obtain ⟨s, t, hs, rfl, ht⟩ := ih hu
      refine ⟨c :: s, t, by rw [hs]; rfl, ?_, ht⟩
      -- what follows `c` is `d`, if it is in the first part at all
      cases s with
      | nil => rfl
      | cons e s =>
        obtain ⟨rfl, -⟩ := List.cons.inj hs
        rw [encode, hn]

theorem encode_of_append {before part after : List Char}
    (h : encode text = before ++ part ++ after) :
    encode (decode before) = before ∧ encode (decode part) = part ∧
      encode (decode after) = after := by
  have hu : Unpaired (before ++ part ++ after) := h ▸ unpaired_encode text
  have hpart {p : List Char} (hp : p <:+: before ++ part ++ after) : encode (decode p) = p :=
    encode_decode (hu.of_isInfix hp)
  refine ⟨hpart ?_, hpart ?_, hpart ?_⟩
  · exact ⟨[], part ++ after, by simp⟩
  · exact ⟨before, after, rfl⟩
  · exact ⟨before ++ part, [], by simp⟩

end FilterQuery.Escape
