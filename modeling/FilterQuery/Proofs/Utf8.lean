import FilterQuery.Proofs.Terms

/-!
# Byte offsets in UTF-8

An offset into a text counts bytes of its UTF-8 form. `byteAt`, `slice` and `minus` are the
operations on offsets that can go wrong, and their `Fault` says what is wrong. A part of a text can
be cut out exactly if it starts before it ends and both offsets are boundaries between characters
(`exists_slice_iff`); then it is what stands between them (`slice_eq_ok_iff`).

A byte below 128 is a character of its own, and the bytes of all other characters are above
(`ascii_or_high`), so a scan for ASCII characters can go byte by byte.
-/

namespace FilterQuery.Utf8

open Nesting

/-- What is wrong with an operation on offsets. -/
inductive Fault where
  /-- An offset beyond the end. -/
  | outOfBounds
  /-- An offset inside a character. -/
  | insideCharacter
  /-- A part that would end before it starts. -/
  | reversed
  /-- A difference below zero. -/
  | negative
deriving Repr, DecidableEq

/-- The UTF-8 form of a text. -/
def bytes (text : List Char) : List UInt8 :=
  text.flatMap String.utf8EncodeChar

/-- The byte at an offset. -/
def byteAt (form : List UInt8) (offset : Nat) : Except Fault UInt8 :=
  match form[offset]? with
  | some b => .ok b
  | none => .error .outOfBounds

/-- The difference of two offsets. -/
def minus (a b : Nat) : Except Fault Nat :=
  if a < b then .error .negative else .ok (a - b)

/-- Cuts a text at an offset. -/
def cutAt (offset : Nat) : List Char → Except Fault (List Char × List Char)
  | [] => if offset = 0 then .ok ([], []) else .error .outOfBounds
  | c :: text =>
    if offset = 0 then .ok ([], c :: text)
    else if offset < c.utf8Size then .error .insideCharacter
    else (fun (before, after) => (c :: before, after)) <$> cutAt (offset - c.utf8Size) text

/-- What stands between two offsets of a text. -/
def slice (text : List Char) (start stop : Nat) : Except Fault (List Char) :=
  if stop < start then .error .reversed
  else cutAt stop text >>= fun (front, _) => Prod.snd <$> cutAt start front

/-- An offset stands between two characters of a text, or at one of its ends. -/
def IsBoundary (text : List Char) (offset : Nat) : Prop :=
  String.Pos.Raw.IsValid (String.ofList text) ⟨offset⟩

variable {text before after part : List Char} {offset start stop : Nat}

/-! ### Bytes -/

@[simp]
theorem bytes_nil : bytes [] = [] := rfl

@[simp]
theorem bytes_cons (c : Char) (text : List Char) :
    bytes (c :: text) = String.utf8EncodeChar c ++ bytes text := rfl

@[simp]
theorem bytes_append (s t : List Char) : bytes (s ++ t) = bytes s ++ bytes t := by
  simp [bytes]

theorem toByteArray_bytes (text : List Char) :
    (bytes text).toByteArray = (String.ofList text).toByteArray := by
  rw [String.toByteArray_ofList]
  rfl

@[simp]
theorem length_bytes (text : List Char) : (bytes text).length = byteSize text := by
  induction text with
  | nil => rfl
  | cons c text ih =>
    rw [bytes_cons, List.length_append, String.length_utf8EncodeChar, ih, byteSize_cons]

theorem byteSize_eq_utf8ByteSize (text : List Char) :
    byteSize text = (String.ofList text).utf8ByteSize := by
  rw [← length_bytes, ← String.size_toByteArray, ← toByteArray_bytes, List.size_toByteArray]

theorem byteSize_pos_of_ne_nil (h : text ≠ []) : 0 < byteSize text := by
  obtain ⟨c, text, rfl⟩ := List.exists_cons_of_ne_nil h
  rw [byteSize_cons]
  have := c.utf8Size_pos
  omega

theorem byteAt_length (s t : List UInt8) (b : UInt8) : byteAt (s ++ b :: t) s.length = .ok b := by
  rw [byteAt, List.getElem?_append_right (Nat.le_refl _), Nat.sub_self, List.getElem?_cons_zero]

/-- A character is one byte below 128, or it has bytes from 128 on only. -/
theorem ascii_or_high (c : Char) :
    (c.toNat < 128 ∧ String.utf8EncodeChar c = [UInt8.ofNat c.toNat]) ∨
      (128 ≤ c.toNat ∧ ∀ b ∈ String.utf8EncodeChar c, 128 ≤ b.toNat) := by
  have hval : c.val.toNat = c.toNat := rfl
  unfold String.utf8EncodeChar
  simp only [hval]
  split
  · exact .inl ⟨by omega, rfl⟩
  · refine .inr ⟨by omega, ?_⟩
    split
    · simp only [List.mem_cons, List.not_mem_nil, or_false, forall_eq_or_imp, forall_eq,
        UInt8.toNat_ofNat']
      omega
    · split <;>
      · simp only [List.mem_cons, List.not_mem_nil, or_false, forall_eq_or_imp, forall_eq,
          UInt8.toNat_ofNat']
        omega

theorem eq_toUInt8_iff_of_mem {b : UInt8} {c d : Char} (hd : d.toNat < 128)
    (hb : b ∈ String.utf8EncodeChar c) : b = d.toUInt8 ↔ c = d := by
  have hbyte : d.toUInt8.toNat = d.toNat := by
    show d.toNat % 256 = d.toNat
    omega
  have heq : c = d ↔ c.toNat = d.toNat := ⟨congrArg _, fun h => Char.toNat_inj.1 h⟩
  rw [← UInt8.toNat_inj, hbyte, heq]
  rcases ascii_or_high c with ⟨hc, hs⟩ | ⟨hc, hs⟩
  · obtain rfl : b = UInt8.ofNat c.toNat := by simpa [hs] using hb
    rw [UInt8.toNat_ofNat', Nat.mod_eq_of_lt (by omega)]
  · have := hs b hb
    omega

/-! ### Cuts -/

theorem minus_of_le (h : stop ≤ start) : minus start stop = .ok (start - stop) := by
  rw [minus, if_neg (by omega)]

theorem cutAt_byteSize (before after : List Char) :
    cutAt (byteSize before) (before ++ after) = .ok (before, after) := by
  induction before with
  | nil => cases after <;> rfl
  | cons c before ih =>
    have hpos := c.utf8Size_pos
    rw [byteSize_cons, List.cons_append, cutAt, if_neg (by omega), if_neg (by omega),
      Nat.add_sub_cancel_left, ih]
    rfl

theorem eq_of_cutAt (h : cutAt offset text = .ok (before, after)) :
    text = before ++ after ∧ byteSize before = offset := by
  induction text generalizing offset before with
  | nil =>
    rw [cutAt] at h
    split at h
    · next hz =>
      obtain ⟨rfl, rfl⟩ := Prod.mk.inj (Except.ok.inj h)
      exact ⟨rfl, hz.symm⟩
    · simp at h
  | cons c text ih =>
    rw [cutAt] at h
    split at h
    · next hz =>
      obtain ⟨rfl, rfl⟩ := Prod.mk.inj (Except.ok.inj h)
      exact ⟨rfl, hz.symm⟩
    · split at h
      · simp at h
      · obtain ⟨⟨front, rest⟩, hcut, he⟩ := map_eq_ok_iff.1 h
        obtain ⟨rfl, rfl⟩ := Prod.mk.inj he
        obtain ⟨rfl, hsize⟩ := ih hcut
        exact ⟨rfl, by rw [byteSize_cons]; omega⟩

theorem cutAt_eq_ok_iff :
    cutAt offset text = .ok (before, after) ↔
      text = before ++ after ∧ byteSize before = offset := by
  refine ⟨eq_of_cutAt, ?_⟩
  rintro ⟨rfl, rfl⟩
  exact cutAt_byteSize before after

theorem slice_eq_ok_iff : slice text start stop = .ok part ↔ ∃ before after,
    text = before ++ (part ++ after) ∧ byteSize before = start ∧
      byteSize before + byteSize part = stop := by
  unfold slice
  split
  · next hlt =>
    simp only [reduceCtorEq, false_iff]
    rintro ⟨before, after, -, rfl, rfl⟩
    omega
  · simp only [bind_eq_ok_iff, map_eq_ok_iff, Prod.exists, cutAt_eq_ok_iff]
    constructor
    · rintro ⟨front, after, ⟨rfl, rfl⟩, before, part, ⟨rfl, rfl⟩, rfl⟩
      exact ⟨before, after, by simp, rfl, by simp⟩
    · rintro ⟨before, after, rfl, rfl, rfl⟩
      exact ⟨before ++ part, after, ⟨by simp, by simp⟩, before, part, ⟨rfl, rfl⟩, rfl⟩

theorem slice_append (before part after : List Char) :
    slice (before ++ (part ++ after)) (byteSize before) (byteSize before + byteSize part) =
      .ok part :=
  slice_eq_ok_iff.2 ⟨before, after, rfl, rfl, rfl⟩

/-! ### Boundaries -/

theorem isBoundary_iff : IsBoundary text offset ↔
    ∃ before after, text = before ++ after ∧ byteSize before = offset := by
  rw [IsBoundary, String.Pos.Raw.isValid_ofList]
  constructor
  · rintro ⟨i, hi⟩
    refine ⟨text.take i, text.drop i, (List.take_append_drop i text).symm, ?_⟩
    rw [byteSize_eq_utf8ByteSize, ← hi]
  · rintro ⟨before, after, rfl, rfl⟩
    refine ⟨before.length, ?_⟩
    rw [List.take_left, ← byteSize_eq_utf8ByteSize]

theorem isBoundary_byteSize (before after : List Char) :
    IsBoundary (before ++ after) (byteSize before) :=
  isBoundary_iff.2 ⟨before, after, rfl, rfl⟩

theorem exists_slice_iff : (∃ part, slice text start stop = .ok part) ↔
    start ≤ stop ∧ IsBoundary text start ∧ IsBoundary text stop := by
  constructor
  · rintro ⟨part, h⟩
    obtain ⟨before, after, rfl, rfl, rfl⟩ := slice_eq_ok_iff.1 h
    refine ⟨Nat.le_add_right _ _, isBoundary_byteSize _ _, ?_⟩
    rw [← byteSize_append, ← List.append_assoc]
    exact isBoundary_byteSize _ _
  · rintro ⟨hle, hstart, hstop⟩
    obtain ⟨before, rest, rfl, rfl⟩ := isBoundary_iff.1 hstart
    obtain ⟨front, after, he, rfl⟩ := isBoundary_iff.1 hstop
    -- of two texts that start the same text the one of fewer bytes starts the other
    obtain ⟨part, rfl⟩ : ∃ part, front = before ++ part := by
      rcases List.append_eq_append_iff.1 he with ⟨a, ha, -⟩ | ⟨a, ha, -⟩
      · exact ⟨a, ha⟩
      · refine ⟨[], ?_⟩
        by_cases hn : a = []
        · simp [ha, hn]
        · have := byteSize_pos_of_ne_nil hn
          rw [ha, byteSize_append] at hle
          omega
    rw [List.append_assoc] at he
    rw [he, byteSize_append]
    exact ⟨part, slice_append before part after⟩

end FilterQuery.Utf8
