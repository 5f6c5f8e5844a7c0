import FilterQuery.Proofs.Quoting

/-!
# Characters that play their role

Reading looks for parentheses, separators and `=` in texts that are cut from the encoded query. It
meets such a character only where the query has it without a backslash before it
(`Escape.exists_live_of_encode`). The reason is that encoded texts are the `Unpaired` ones: a cut
text is a place in the encoded query, every place there is one in the query
(`Escape.exists_append_of_encode`), and a backslash before it would still be there
(`Escape.getLast?_encode`).
-/

namespace FilterQuery

open Nesting Reading

namespace Escape

variable {c : Char} {text before after : List Char}

theorem unpaired_iff :
    Unpaired text ↔ ∀ l ∈ ['(', ')', ',', ';', '='], ¬['\\', l] <:+: text := by
  unfold Unpaired
  rw [List.isChain_iff_forall_rel_of_append_cons_cons]
  constructor
  · rintro h l hl ⟨s, t, rfl⟩
    have he : s ++ ['\\', l] ++ t = s ++ '\\' :: l :: t := by simp
    have hn : standIn? l = none := h he rfl
    exact standIn?_eq_none_iff.1 hn hl
  · rintro h c d s t rfl rfl
    rw [standIn?_eq_none_iff]
    exact fun hd => h d hd ⟨s, t, by simp⟩

theorem exists_encode_iff : (∃ x, encode x = text) ↔ Unpaired text := by
  constructor
  · rintro ⟨x, rfl⟩
    exact unpaired_encode x
  · exact fun h => ⟨text, encode_of_unpaired h⟩

/-- A backslash at the end has nothing to make a pair with. -/
theorem getLast?_encode (h : text.getLast? = some '\\') : (encode text).getLast? = some '\\' := by
  fun_induction encode text with
  | case1 => simp at h
  | case2 c => exact h
  | case3 c d text p hp ih =>
    cases text with
    | nil =>
      -- the last character of a pair is not a backslash
      simp only [List.getLast?_cons_cons, List.getLast?_singleton, Option.some.injEq] at h
      subst h
      by_cases hc : c = '\\' <;> simp [hc, standIn?] at hp
    | cons e text =>
      rw [List.getLast?_cons, ih (by simpa using h)]
      rfl
  | case4 c d text hn ih =>
    rw [List.getLast?_cons, ih (by simpa using h)]
    rfl

/-- A character with a role in an encoded text has its place in the text, without a backslash before
it. -/
theorem exists_live_of_encode (hc : c ∈ ['(', ')', ',', ';', '='])
    (h : encode text = before ++ c :: after) :
    ∃ s t, text = s ++ c :: t ∧ encode s = before ∧ encode t = after ∧ s.getLast? ≠ some '\\' := by
  obtain ⟨s, t, rfl, rfl, ht⟩ := exists_append_of_encode h
  have hs : standIn? c ≠ none := fun hn => standIn?_eq_none_iff.1 hn hc
  obtain ⟨d, t, rfl⟩ : ∃ d t', t = d :: t' := by
    cases t with
    | nil => simp [encode] at ht
    | cons d t => exact ⟨d, t, rfl⟩
  obtain rfl : c = d := by
    rcases head?_encode_cons d t with hd | ⟨p, hp, hst⟩
    · simpa [ht] using hd
    · rw [ht, List.head?_cons, Option.some.injEq] at hp
      exact absurd (standIn?_of_isStandIn (hp ▸ hst)) hs
  have hslash : c ≠ '\\' := by
    rintro rfl
    exact hs rfl
  rw [encode_cons_of_ne hslash, List.cons.injEq] at ht
  refine ⟨s, t, rfl, rfl, ht.2, fun hl => ?_⟩
  obtain ⟨start, he⟩ := List.getLast?_eq_some_iff.1 (getLast?_encode hl)
  refine unpaired_iff.1 (unpaired_encode (s ++ c :: t)) c hc ⟨start, after, ?_⟩
  rw [h, he]
  simp

end Escape

open Escape in
/-- A text and its encoding are two spellings of the same, and `encode` gives exactly the texts
without an escape pair, which it leaves as they are. So a text that reading comes to is a place in
the encoded query, and each character with a role in it is one that the query has there without a
backslash before it. -/
theorem encode_decode_spellings :
    (∀ text, decode (encode text) = decode text ∧ encode (decode text) = encode text ∧
      encode (encode text) = encode text) ∧
    (∀ text, hasStandIn text = false → decode (encode text) = text) ∧
    (∀ text, (∃ x, encode x = text) ↔ ∀ l ∈ ['(', ')', ',', ';', '='], ¬['\\', l] <:+: text) ∧
    (∀ text, (∃ x, encode x = text) → encode (decode text) = text) ∧
    ∀ (query : String) (role : Role) (part : List Char), Reaches (encode query.toList) role part →
      ∃ left right, encode query.toList = left ++ part ++ right ∧
        ∀ start c rest, part = start ++ c :: rest → c ∈ ['(', ')', ',', ';', '='] →
          ∃ before after, query.toList = before ++ c :: after ∧ encode before = left ++ start ∧
            encode after = rest ++ right ∧ before.getLast? ≠ some '\\' := by
  refine ⟨fun text => ⟨decode_encode_eq text, encode_decode_eq text, encode_encode text⟩,
    fun text => decode_encode, fun text => exists_encode_iff.trans unpaired_iff, ?_, ?_⟩
  · rintro text ⟨x, rfl⟩
    exact encode_decode (unpaired_encode x)
  · intro query role part hr
    obtain ⟨left, right, he⟩ := hr.isInfix
    refine ⟨left, right, he.symm, ?_⟩
    rintro start c rest rfl hc
    refine exists_live_of_encode hc ?_
    rw [← he]
    simp

open Escape in
/-- A run of backslashes, a stand-in after a backslash, and a term after an escaped parenthesis. -/
theorem encode_decode_spellings_escaped :
    hasStandIn "\\\\,\\".toList = false ∧ decode (encode "\\\\,\\".toList) = "\\\\,\\".toList ∧
    (∃ x, encode x = ['\\', '\ue000']) ∧ encode (decode ['\\', '\ue000']) = ['\\', '\ue000'] ∧
    Reaches (encode "a==\\(;b!=1".toList) .term "b!=1".toList ∧
    ∃ before after, "a==\\(;b!=1".toList = before ++ '=' :: after ∧ ['b', '!'] <:+ encode before ∧
      before.getLast? ≠ some '\\' := by
  obtain ⟨-, hfree, himage, hback, hlive⟩ := encode_decode_spellings
  have hslash : hasStandIn "\\\\,\\".toList = false := by decide
  have hunpaired : Unpaired ['\\', '\ue000'] := by
    unfold Unpaired
    decide
  have hpair : ∃ x, encode x = ['\\', '\ue000'] := (himage _).2 (unpaired_iff.1 hunpaired)
  have hor : Terms.splitOr (encode "a==\\(;b!=1".toList) = .ok ["a==\ue000;b!=1".toList] := by cbv
  have hand : Terms.splitAnd "a==\ue000;b!=1".toList = .ok ["a==\ue000".toList, "b!=1".toList] := by
    cbv
  have hterm : Reaches (encode "a==\\(;b!=1".toList) .term "b!=1".toList :=
    .term (.alternative .start hor (by simp)) hand (by simp)
  refine ⟨hslash, hfree _ hslash, hpair, hback _ hpair, hterm, ?_⟩
  obtain ⟨left, right, he, hplace⟩ := hlive _ _ _ hterm
  obtain ⟨before, after, hq, hbefore, -, hb⟩ := hplace ['b', '!'] '=' ['1'] rfl (by simp)
  exact ⟨before, after, hq, ⟨left, hbefore.symm⟩, hb⟩

end FilterQuery
