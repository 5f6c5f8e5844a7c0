import FilterQuery.Proofs.ByOffset

/-!
# Where the separators are

`Terms.offsets` finds the separators outside all parentheses, in their order and no other character
(`Terms.offsets_depthZero`). The scan knows a depth, and what is asked for are counts of
parentheses: the two agree because the depth after a part of a balanced text is zero exactly if the
part closes what it opens (`Balanced.prefix_iff`).
-/

namespace FilterQuery

namespace Nesting

variable {separator : Char} {text : List Char} {depth final offset o : Nat}

/-- A separator stands at an offset, where `depth` parentheses are open and `offset` bytes are read
before the text, and at depth zero. -/
def FreeAt (separator : Char) (depth offset : Nat) (text : List Char) (o : Nat) : Prop :=
  ∃ before after, text = before ++ separator :: after ∧ offset + byteSize before = o ∧
    depthThrough depth before = some 0

theorem freeAt_cons_iff {c : Char} (hne : ¬(c = ')' ∧ depth = 0)) :
    FreeAt separator depth offset (c :: text) o ↔ (c = separator ∧ depth = 0) ∧ o = offset ∨
      FreeAt separator (depthAfter depth c) (offset + c.utf8Size) text o := by
  constructor
  · rintro ⟨before, after, he, rfl, hd⟩
    cases before with
    | nil =>
      obtain ⟨rfl, -⟩ := List.cons.inj he
      exact .inl ⟨⟨rfl, Option.some.inj hd⟩, rfl⟩
    | cons d before =>
      obtain ⟨rfl, rfl⟩ := List.cons.inj he
      rw [depthThrough_cons_of_ne hne] at hd
      exact .inr ⟨before, after, rfl, by rw [byteSize_cons, Nat.add_assoc], hd⟩
  · rintro (⟨⟨rfl, rfl⟩, rfl⟩ | ⟨before, after, rfl, rfl, hd⟩)
    · exact ⟨[], text, rfl, rfl, rfl⟩
    · refine ⟨c :: before, after, rfl, by rw [byteSize_cons, Nat.add_assoc], ?_⟩
      rw [depthThrough_cons_of_ne hne, hd]

theorem FreeAt.le (h : FreeAt separator depth offset text o) : offset ≤ o := by
  obtain ⟨before, after, -, rfl, -⟩ := h
  exact Nat.le_add_right _ _

theorem mem_offsetsFrom_iff (hp : isParen separator = false)
    (h : depthThrough depth text = some final) :
    o ∈ offsetsFrom separator depth offset text ↔ FreeAt separator depth offset text o := by
  induction text generalizing depth offset with
  | nil => simp [offsetsFrom, FreeAt]
  | cons c text ih =>
    rw [depthThrough] at h
    split at h
    · simp at h
    · next hne =>
      rw [freeAt_cons_iff hne, ← ih h, offsetsFrom, ← cuts_eq_true_iff hp]
      split
      · next hcut =>
        -- the separator is no parenthesis, so it leaves the depth as it is
        obtain rfl := eq_of_cuts hcut
        rw [depthAfter_of_not_isParen hp, List.mem_cons, hcut]
        simp
      · next hcut => simp [hcut]

theorem pairwise_offsetsFrom (hp : isParen separator = false)
    (h : depthThrough depth text = some final) :
    (offsetsFrom separator depth offset text).Pairwise (· < ·) := by
  induction text generalizing depth offset with
  | nil => exact .nil
  | cons c text ih =>
    rw [depthThrough] at h
    split at h
    · simp at h
    · rw [offsetsFrom]
      split
      · next hcut =>
        obtain rfl := eq_of_cuts hcut
        rw [depthAfter_of_not_isParen hp] at h
        refine List.pairwise_cons.2 ⟨fun o ho => ?_, ih h⟩
        have hle := ((mem_offsetsFrom_iff hp h).1 ho).le
        have hpos := c.utf8Size_pos
        omega
      · exact ih h

theorem offsetsFrom_of_isParen (hp : isParen separator = true) :
    offsetsFrom separator depth offset text = [] := by
  induction text generalizing depth offset with
  | nil => rfl
  | cons c text ih =>
    have hcut : cuts separator depth c = false := by
      rw [← Bool.not_eq_true]
      intro hcut
      obtain rfl := eq_of_cuts hcut
      simp [cuts, hp] at hcut
    rw [offsetsFrom, hcut]
    exact ih

/-- In a balanced text the separators of depth zero are those with as many parentheses opened as
closed before them. -/
theorem Balanced.freeAt_iff (h : Balanced text) : FreeAt separator 0 0 text o ↔
    ∃ before after, text = before ++ separator :: after ∧ byteSize before = o ∧
      before.count '(' = before.count ')' := by
  simp only [FreeAt, Nat.zero_add]
  refine exists_congr fun before => exists_congr fun after => and_congr_right fun he => ?_
  subst he
  rw [← balanced_iff, h.prefix_iff]

end Nesting

open Nesting

theorem Terms.offsets_eq_ok_iff {separator : Char} {text : List Char} {found : List Nat} :
    offsets separator text = .ok found ↔
      Balanced text ∧ found = separatorOffsets separator text := by
  simp only [offsets, bind_eq_ok_iff, checkBalanced_eq_ok_iff, pure, Except.pure, Except.ok.injEq,
    exists_const]
  exact and_congr_right fun _ => eq_comm

/-- Offsets are found exactly if the text is balanced. They increase, and they are those of the
characters that are the separator and have as many parentheses opened as closed before them. None
are found if the separator is a parenthesis itself. One scan, in which the depth, the position and
the offset go along with the text, finds the same. -/
theorem Terms.offsets_depthZero (separator : Char) (text : List Char) :
    ((∃ found, offsets separator text = .ok found) ↔ Balanced text) ∧
    (∀ found, offsets separator text = .ok found →
      (isParen separator = false → found.Pairwise (· < ·) ∧
        ∀ o, o ∈ found ↔ ∃ before after, text = before ++ separator :: after ∧
          byteSize before = o ∧ before.count '(' = before.count ')') ∧
      (isParen separator = true → found = [])) ∧
    ByOffset.separators separator text = offsets separator text := by
  simp only [offsets_eq_ok_iff]
  refine ⟨⟨fun ⟨_, h, _⟩ => h, fun h => ⟨_, h, rfl⟩⟩, ?_, ByOffset.separators_eq separator text⟩
  rintro found ⟨hb, rfl⟩
  have hd := balanced_iff.1 hb
  refine ⟨fun hp => ⟨pairwise_offsetsFrom hp hd, fun o => ?_⟩, fun hp => offsetsFrom_of_isParen hp⟩
  rw [← hb.freeAt_iff]
  exact mem_offsetsFrom_iff hp hd

/-- Separators of three bytes, inside and outside of parentheses, behind a character of two. -/
theorem Terms.offsets_depthZero_three_bytes :
    offsets '€' "ü€(a€b)€".toList = .ok [2, 12] ∧ isParen '€' = false ∧
    [2, 12].Pairwise (· < ·) ∧
    (∃ before after, "ü€(a€b)€".toList = before ++ '€' :: after ∧ byteSize before = 12 ∧
      before.count '(' = before.count ')') ∧
    (¬∃ before after, "ü€(a€b)€".toList = before ++ '€' :: after ∧ byteSize before = 7 ∧
      before.count '(' = before.count ')') ∧
    offsets '(' "ü€(a€b)€".toList = .ok [] ∧ ¬Balanced "ü€(a€b".toList ∧
    ¬∃ found, offsets '€' "ü€(a€b".toList = .ok found := by
  obtain ⟨-, hfound, -⟩ := offsets_depthZero '€' "ü€(a€b)€".toList
  obtain ⟨hopen, -, -⟩ := offsets_depthZero '€' "ü€(a€b".toList
  have hp : isParen '€' = false := by decide
  have hoffsets : offsets '€' "ü€(a€b)€".toList = .ok [2, 12] := rfl
  have hunbalanced : ¬Balanced "ü€(a€b".toList := by decide
  obtain ⟨hsorted, hmem⟩ := (hfound _ hoffsets).1 hp
  refine ⟨hoffsets, hp, hsorted, (hmem 12).1 (by simp), mt (hmem 7).2 (by simp), rfl, hunbalanced,
    mt hopen.1 hunbalanced⟩

end FilterQuery
