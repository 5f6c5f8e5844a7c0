import FilterQuery.Text.Escape

/-!
# Escape pairs across seams

`encode` looks one character ahead, so two texts can be encoded apart exactly if no escape pair is
made where they meet. It is enough that the first one does not end with a backslash
(`encode_append`). `escaped` writes a text so that none of its characters plays a role; encoding
this gives the text with each such character replaced by its stand-in (`encode_escaped`).
-/

namespace FilterQuery.Escape

variable {c d : Char} {s t text : List Char}

/-- A backslash before each character that has a role in a query. -/
def escaped (text : List Char) : List Char :=
  text.flatMap fun c => if (standIn? c).isSome then ['\\', c] else [c]

/-- Each character that has a role in a query replaced by its stand-in. -/
def marked (text : List Char) : List Char :=
  text.map fun c => (standIn? c).getD c

theorem encode_cons_of_ne (h : c ≠ '\\') : encode (c :: t) = c :: encode t := by
  cases t with
  | nil => rfl
  | cons d t => simp [encode, h]

theorem encode_cons_of_head (h : ∀ d, t.head? = some d → standIn? d = none) :
    encode (c :: t) = c :: encode t := by
  cases t with
  | nil => rfl
  | cons d t => simp [encode, h d rfl]

theorem encode_pair {p : Char} (h : standIn? c = some p) :
    encode ('\\' :: c :: t) = p :: encode t := by
  simp [encode, h]

/-- Where no backslash ends the first text, no escape pair crosses the seam. -/
theorem encode_append (h : s.getLast? ≠ some '\\') : encode (s ++ t) = encode s ++ encode t := by
  fun_induction encode s with
  | case1 => rfl
  | case2 c => exact encode_cons_of_ne (by simpa using h)
  | case3 c d s p hp ih =>
    have hc : c = '\\' := by
      by_cases hc : c = '\\'
      · exact hc
      · simp [hc] at hp
    subst hc
    have hs : s.getLast? ≠ some '\\' := fun hs => h (by simp [List.getLast?_cons, hs])
    simp only [if_true] at hp
    simp [encode_pair hp, ih hs]
  | case4 c d s hn ih =>
    have hs : (d :: s).getLast? ≠ some '\\' := by simpa using h
    rw [List.cons_append, List.cons_append, encode, hn]
    simpa using ih hs

theorem encode_append_cons (h : s.getLast? ≠ some '\\') (hc : c ≠ '\\') :
    encode (s ++ c :: t) = encode s ++ c :: encode t := by
  rw [encode_append h, encode_cons_of_ne hc]

theorem encode_enclose (h : s.getLast? ≠ some '\\') :
    encode ('(' :: (s ++ [')'])) = '(' :: (encode s ++ [')']) := by
  rw [encode_cons_of_ne (by decide), encode_append_cons h (by decide)]
  rfl

theorem encode_of_standIn? (h : ∀ c ∈ text, standIn? c = none) : encode text = text := by
  induction text with
  | nil => rfl
  | cons c text ih =>
    rw [encode_cons_of_head fun d hd => h d (by simp [List.mem_of_head? hd]),
      ih fun d hd => h d (by simp [hd])]

theorem mem_or_of_mem_encode (h : c ∈ encode text) :
    c ∈ text ∨ ∃ l, standIn? l = some c ∧ ['\\', l] <:+: text := by
  have hcons {a : Char} {rest : List Char}
      (hr : c ∈ rest ∨ ∃ l, standIn? l = some c ∧ ['\\', l] <:+: rest) :
      c ∈ a :: rest ∨ ∃ l, standIn? l = some c ∧ ['\\', l] <:+: a :: rest := by
    rcases hr with hr | ⟨l, hl, hi⟩
    · exact .inl (List.mem_cons_of_mem a hr)
    · exact .inr ⟨l, hl, List.infix_cons hi⟩
  fun_induction encode text with
  | case1 => simp at h
  | case2 d => exact .inl h
  | case3 a d rest p hp ih =>
    rcases List.mem_cons.1 h with rfl | h
    · by_cases ha : a = '\\'
      · subst ha
        exact .inr ⟨d, by simpa using hp, [], rest, rfl⟩
      · simp [ha] at hp
    · exact hcons (hcons (ih h))
  | case4 a d rest hn ih =>
    rcases List.mem_cons.1 h with rfl | h
    · exact .inl (by simp)
    · exact hcons (ih h)

theorem not_mem_encode {l p : Char} (hl : standIn? l = some p) (hpair : ¬['\\', l] <:+: text)
    (hp : p ∉ text) : p ∉ encode text := by
  intro hm
  rcases mem_or_of_mem_encode hm with hm | ⟨l', hl', hi⟩
  · exact hp hm
  · have hlit := (literal?_eq_some_iff.2 hl').symm.trans (literal?_eq_some_iff.2 hl)
    rw [Option.some.injEq] at hlit
    subst hlit
    exact hpair hi

/-! ### Escaped texts -/

theorem escaped_cons (c : Char) (text : List Char) : escaped (c :: text) =
    if (standIn? c).isSome then '\\' :: c :: escaped text else c :: escaped text := by
  rw [escaped, List.flatMap_cons]
  split <;> rfl

theorem standIn?_head_escaped (h : (escaped text).head? = some c) : standIn? c = none := by
  cases text with
  | nil => simp [escaped] at h
  | cons d text =>
    rw [escaped_cons] at h
    split at h
    · simp only [List.head?_cons, Option.some.injEq] at h
      subst h
      rfl
    · next hd =>
      simp only [List.head?_cons, Option.some.injEq] at h
      subst h
      simpa using hd

theorem encode_escaped (text : List Char) : encode (escaped text) = marked text := by
  induction text with
  | nil => rfl
  | cons c text ih =>
    rw [escaped_cons, marked, List.map_cons, ← marked]
    cases h : standIn? c with
    | some p => simp [encode_pair h, ih]
    | none => simp [encode_cons_of_head fun d hd => standIn?_head_escaped hd, ih]

theorem getLast?_escaped (text : List Char) : (escaped text).getLast? = text.getLast? := by
  induction text with
  | nil => rfl
  | cons c text ih =>
    rw [escaped_cons]
    split <;> simp [List.getLast?_cons, ih]

theorem unescape_marked (h : ∀ c ∈ text, isStandIn c = false) : unescape (marked text) = text := by
  induction text with
  | nil => rfl
  | cons c text ih =>
    have hc : (literal? ((standIn? c).getD c)).getD ((standIn? c).getD c) = c := by
      cases hp : standIn? c with
      | some p => simp [literal?_eq_some_iff.2 hp]
      | none =>
        have := h c (by simp)
        rw [isStandIn, Option.isSome_eq_false_iff, Option.isNone_iff_eq_none] at this
        simp [this]
    simpa [unescape, marked, hc] using ih fun d hd => h d (by simp [hd])

theorem isStandIn_of_standIn? {p : Char} (h : standIn? c = some p) : isStandIn p = true := by
  rw [isStandIn, literal?_eq_some_iff.2 h, Option.isSome_some]

theorem isStandIn_iff :
    isStandIn c = true ↔ c ∈ ['\ue000', '\ue001', '\ue002', '\ue003', '\ue004'] := by
  unfold isStandIn literal?
  split <;> simp_all

theorem standIn?_eq_none_iff : standIn? c = none ↔ c ∉ ['(', ')', ',', ';', '='] := by
  unfold standIn?
  split <;> simp_all

theorem standIn?_of_mem_marked (h : c ∈ marked text) : standIn? c = none := by
  obtain ⟨d, -, rfl⟩ := List.mem_map.1 h
  cases hd : standIn? d with
  | none => simpa using hd
  | some p =>
    have hp := isStandIn_iff.1 (isStandIn_of_standIn? hd)
    simp only [List.mem_cons, List.not_mem_nil, or_false] at hp
    rcases hp with rfl | rfl | rfl | rfl | rfl <;> rfl

end FilterQuery.Escape
