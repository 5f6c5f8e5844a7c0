import FilterQuery.Proofs.Positions
import Mathlib.Data.Set.Card

/-!
# The cut of a text

A text is cut without loss: its pieces with separators between them are the text
(`intercalate_pieces`). If it is balanced, they are its only cut into parts that are balanced and
have the separator within parentheses only (`isCut_iff`), and there is one more of them than there
are separators outside all parentheses (`encard_separatorAt`).

`Terms.split` trims the pieces, and fails at the first blank one (`trimPieces_eq_emptyTerm`).
-/

namespace FilterQuery

namespace Nesting

/-- Parts of a text with a separator between them, each of which is balanced and has the separator
within parentheses only. -/
structure IsCut (separator : Char) (text : List Char) (parts : List (List Char)) : Prop where
  ne_nil : parts ≠ []
  joined : text = [separator].intercalate parts
  whole : ∀ part ∈ parts, Whole separator part

/-- A separator stands at a position, with as many parentheses opened as closed before it. -/
def SeparatorAt (separator : Char) (text : List Char) (position : Nat) : Prop :=
  ∃ before after, text = before ++ separator :: after ∧ before.length = position ∧
    before.count '(' = before.count ')'

variable {separator c : Char} {text first rest before after : List Char}
  {parts pieces : List (List Char)} {position : Nat}

/-! ### Nothing is lost -/

theorem intercalate_cons_eq_append (separator : Char) (part : List Char)
    (parts : List (List Char)) :
    [separator].intercalate (part :: parts) = part ++ parts.flatMap (separator :: ·) := by
  induction parts generalizing part with
  | nil => simp
  | cons next parts ih =>
    rw [List.intercalate_cons_cons, ih, List.flatMap_cons, List.append_assoc, List.singleton_append,
      List.cons_append]

theorem intercalate_append_cons (separator : Char) (first : List (List Char)) (part : List Char)
    (last : List (List Char)) : [separator].intercalate (first ++ part :: last) =
      first.flatMap (· ++ [separator]) ++ (part ++ last.flatMap (separator :: ·)) := by
  induction first with
  | nil => exact intercalate_cons_eq_append separator part last
  | cons next first ih =>
    rw [List.cons_append, List.intercalate_cons_of_ne_nil (by simp), ih, List.flatMap_cons,
      ← List.append_assoc]

theorem intercalate_consHead (hne : parts ≠ []) :
    [separator].intercalate (consHead c parts) = c :: [separator].intercalate parts := by
  obtain ⟨part, parts, rfl⟩ := List.exists_cons_of_ne_nil hne
  rw [consHead, intercalate_cons_eq_append, intercalate_cons_eq_append, List.cons_append]

theorem intercalate_piecesFrom (separator : Char) (depth : Nat) (text : List Char) :
    [separator].intercalate (piecesFrom separator depth text) = text := by
  induction text generalizing depth with
  | nil => exact List.intercalate_singleton
  | cons c text ih =>
    rw [piecesFrom]
    split
    · next hcut =>
      obtain rfl := eq_of_cuts hcut
      rw [List.intercalate_cons_of_ne_nil (piecesFrom_ne_nil c depth text), ih]
      rfl
    · rw [intercalate_consHead (piecesFrom_ne_nil separator _ text), ih]

theorem intercalate_pieces (separator : Char) (text : List Char) :
    [separator].intercalate (Nesting.pieces separator text) = text :=
  intercalate_piecesFrom separator 0 text

/-! ### The only cut -/

theorem IsCut.balanced (hp : isParen separator = false) (h : IsCut separator text parts) :
    Balanced text ∧ Nesting.pieces separator text = parts := by
  obtain ⟨hne, rfl, hw⟩ := h
  induction parts with
  | nil => exact absurd rfl hne
  | cons part parts ih =>
    obtain ⟨hpart, hw⟩ := List.forall_mem_cons.1 hw
    by_cases hnil : parts = []
    · subst hnil
      simpa using ⟨hpart.balanced, pieces_of_whole hp hpart⟩
    · obtain ⟨hb, hpieces⟩ := ih hnil hw
      rw [List.intercalate_cons_of_ne_nil hnil, List.append_assoc, List.singleton_append,
        pieces_cons_of_whole hp hpart, hpieces]
      exact ⟨hpart.balanced.append_cons hp hb, rfl⟩

theorem isCut_iff (hp : isParen separator = false) :
    IsCut separator text parts ↔ Balanced text ∧ parts = Nesting.pieces separator text := by
  constructor
  · intro h
    exact (h.balanced hp).imp_right Eq.symm
  · rintro ⟨hb, rfl⟩
    exact ⟨piecesFrom_ne_nil separator 0 text, (intercalate_pieces separator text).symm,
      whole_of_mem_pieces hp hb⟩

/-! ### How many separators there are -/

theorem separatorAt_cut_iff (hp : isParen separator = false) (hf : Whole separator first)
    (hr : Balanced rest) : SeparatorAt separator (first ++ separator :: rest) position ↔
      position = first.length ∨
      ∃ n, SeparatorAt separator rest n ∧ first.length + 1 + n = position := by
  constructor
  · rintro ⟨before, after, he, rfl, hc⟩
    have hall : Balanced (before ++ separator :: after) := he ▸ hf.balanced.append_cons hp hr
    have hb : Balanced before := hall.prefix_iff.2 hc
    rcases Terms.eq_or_of_cut hp hf hb he with ⟨rfl, -⟩ | ⟨b, rfl, hb, rfl⟩
    · exact .inl rfl
    · refine .inr ⟨b.length, ⟨b, after, rfl, rfl, hb.2⟩, ?_⟩
      simp only [List.length_append, List.length_cons]
      omega
  · rintro (rfl | ⟨n, ⟨before, after, rfl, rfl, hc⟩, rfl⟩)
    · exact ⟨first, rest, rfl, rfl, hf.balanced.2⟩
    · refine ⟨first ++ separator :: before, after, by simp, by simp; omega, ?_⟩
      have hs : ∀ d, isParen d = true → [separator].count d = 0 := by
        intro d hd
        rw [List.count_eq_zero, List.mem_singleton]
        rintro rfl
        simp [hp] at hd
      rw [← List.singleton_append]
      simp only [List.count_append, hs '(' rfl, hs ')' rfl, hf.balanced.2, hc]

theorem encard_separatorAt (hp : isParen separator = false) (hb : Balanced text) :
    {i | SeparatorAt separator text i}.encard + 1 = (Nesting.pieces separator text).length := by
  refine hb.cut_induction hp (fun text hw => ?_) fun first rest hf hr ih => ?_
  · have hnone : {i | SeparatorAt separator text i} = ∅ := by
      refine Set.eq_empty_of_forall_notMem fun i => ?_
      rintro ⟨before, after, he, -, hc⟩
      exact hw.uncut before after he hc
    rw [hnone, pieces_of_whole hp hw]
    simp
  · have hset : {i | SeparatorAt separator (first ++ separator :: rest) i} =
        insert first.length
          ((fun n => first.length + 1 + n) '' {i | SeparatorAt separator rest i}) :=
      Set.ext fun i => separatorAt_cut_iff hp hf hr
    have hnew : first.length ∉
        (fun n => first.length + 1 + n) '' {i | SeparatorAt separator rest i} := by
      rintro ⟨n, -, he⟩
      simp only at he
      omega
    have hinj : Function.Injective fun n => first.length + 1 + n := fun m n h => by
      simpa using h
    rw [hset, Set.encard_insert_of_notMem hnew, hinj.encard_image, ih, pieces_cons_of_whole hp hf,
      List.length_cons, Nat.cast_add, Nat.cast_one]

end Nesting

/-! ### The first blank piece -/

namespace Terms

open Nesting

variable {separator : Char} {text piece : List Char} {before after : List (List Char)}

theorem exists_first_blank {parts : List (List Char)} (h : ∃ part ∈ parts, Blank part) :
    ∃ before part after, parts = before ++ part :: after ∧
      (∀ b ∈ before, ¬Blank b) ∧ Blank part := by
  obtain ⟨part, hpart, hblank⟩ := h
  have hall {t : List Char} : t.all isBlank = true ↔ Blank t := List.all_eq_true
  obtain ⟨part, before, after, hbefore, hfirst, he, -⟩ :=
    List.exists_of_eraseP (p := fun t => t.all isBlank) hpart (hall.2 hblank)
  exact ⟨before, part, after, he, fun b hb hb' => hbefore b hb (hall.2 hb'), hall.1 hfirst⟩

/-- The first blank piece is refused, at the position behind the pieces before it and the separators
that follow them. -/
theorem trimPieces_eq_emptyTerm {start : Nat} (hb : ∀ b ∈ before, ¬Blank b) (hp : Blank piece) :
    trimPieces text start (before ++ piece :: after) = .error (.emptyTerm (Escape.shown text)
      (start + (before.flatMap (· ++ [separator])).length)) := by
  induction before generalizing start with
  | nil => simp [trimPieces, trim_eq_nil_iff.2 hp]
  | cons b before ih =>
    obtain ⟨hblank, hb⟩ := List.forall_mem_cons.1 hb
    rw [List.cons_append, trimPieces]
    split
    · next ht => exact absurd (trim_eq_nil_iff.1 ht) hblank
    · rw [ih hb]
      simp only [List.flatMap_cons, List.length_append, List.length_cons, List.length_nil]
      rw [Nat.zero_add, Nat.add_assoc, Nat.add_assoc, Nat.add_assoc]
      rfl

/-- A text is cut without loss. If its parentheses are balanced it has one cut only; if no piece is
blank, these are its terms, each of them trimmed, and else the first blank piece is refused. If they
are not balanced, this is what the text is refused for, blank pieces or not. -/
theorem split_lossless {separator : Char} (hp : isParen separator = false) (text : List Char) :
    (Balanced text → ∃ parts, (∀ other, IsCut separator text other ↔ other = parts) ∧
      {i | SeparatorAt separator text i}.encard + 1 = parts.length ∧
      ((∀ part ∈ parts, ¬Blank part) → split separator text = .ok (parts.map trim) ∧
        ∀ term ∈ parts.map trim, term ≠ [] ∧ Trimmed term ∧ Whole separator term) ∧
      ((∃ part ∈ parts, Blank part) → ∃ before part after front back,
        parts = before ++ part :: after ∧ (∀ b ∈ before, ¬Blank b) ∧ Blank part ∧
        front = before.flatMap (· ++ [separator]) ∧ back = after.flatMap (separator :: ·) ∧
        text = front ++ (part ++ back) ∧
        split separator text = .error (.emptyTerm (Escape.shown text) front.length))) ∧
    (¬Balanced text → ∃ position,
      split separator text = .error (.unbalancedParens (Escape.shown text) position)) := by
  refine ⟨fun hb => ⟨pieces separator text, fun other => ?_, encard_separatorAt hp hb,
    fun hfull => ?_, fun hblank => ?_⟩, fun hb => ?_⟩
  · rw [isCut_iff hp]
    exact and_iff_right hb
  · have hne : ∀ part ∈ pieces separator text, trim part ≠ [] := fun part hpart =>
      mt trim_eq_nil_iff.1 (hfull part hpart)
    refine ⟨split_eq_ok_iff.2 ⟨hb, rfl, hne⟩, fun term hterm => ?_⟩
    obtain ⟨part, hpart, rfl⟩ := List.mem_map.1 hterm
    exact ⟨hne part hpart, trimmed_trim part, whole_trim (whole_of_mem_pieces hp hb part hpart)⟩
  · obtain ⟨before, part, after, he, hbefore, hpart⟩ := exists_first_blank hblank
    have htext : text = before.flatMap (· ++ [separator]) ++
        (part ++ after.flatMap (separator :: ·)) := by
      rw [← intercalate_append_cons, ← he, intercalate_pieces]
    refine ⟨before, part, after, _, _, he, hbefore, hpart, rfl, rfl, htext, ?_⟩
    have hok : checkBalanced text = .ok () := checkBalanced_eq_ok_iff.2 hb
    rw [split, hok, he]
    show trimPieces text 0 _ = _
    rw [trimPieces_eq_emptyTerm hbefore hpart, Nat.zero_add]
  · obtain ⟨position, -, h⟩ := split_of_not_balanced separator hb
    exact ⟨position, h⟩

/-- A blank piece behind a group with a separator in it, and blank pieces of a text that is not
balanced. -/
theorem split_lossless_blank :
    isParen '€' = false ∧ Balanced "ü€ (b€c) € €d".toList ∧
    IsCut '€' "ü€ (b€c) € €d".toList ["ü".toList, " (b€c) ".toList, " ".toList, "d".toList] ∧
    (∃ part front back, Blank part ∧ "ü€ (b€c) € €d".toList = front ++ (part ++ back) ∧
      split '€' "ü€ (b€c) € €d".toList = .error (.emptyTerm "ü€ (b€c) € €d" front.length)) ∧
    split '€' "ü€ (b€c) € €d".toList = .error (.emptyTerm "ü€ (b€c) € €d" 10) ∧
    ¬Balanced "€ €)€".toList ∧
    ∃ position, split '€' "€ €)€".toList = .error (.unbalancedParens "€ €)€" position) := by
  have hp : isParen '€' = false := by decide
  obtain ⟨hcut, -⟩ := split_lossless hp "ü€ (b€c) € €d".toList
  obtain ⟨-, hopen⟩ := split_lossless hp "€ €)€".toList
  have hb : Balanced "ü€ (b€c) € €d".toList := by decide
  have ho : ¬Balanced "€ €)€".toList := by decide
  have hparts : pieces '€' "ü€ (b€c) € €d".toList =
      ["ü".toList, " (b€c) ".toList, " ".toList, "d".toList] := rfl
  have hpieces := (isCut_iff hp).2 ⟨hb, hparts.symm⟩
  have hshown : Escape.shown "ü€ (b€c) € €d".toList = "ü€ (b€c) € €d" := rfl
  have hshown' : Escape.shown "€ €)€".toList = "€ €)€" := rfl
  refine ⟨hp, hb, hpieces, ?_, rfl, ho, hshown' ▸ hopen ho⟩
  obtain ⟨parts, honly, -, -, hblank⟩ := hcut hb
  obtain rfl := (honly _).1 hpieces
  obtain ⟨-, part, -, front, back, -, -, hpart, -, -, htext, h⟩ :=
    hblank ⟨" ".toList, by simp, by simp [Blank, isBlank]⟩
  exact ⟨part, front, back, hpart, htext, hshown ▸ h⟩

end Terms

end FilterQuery
