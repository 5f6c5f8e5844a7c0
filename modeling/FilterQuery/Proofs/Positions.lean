import FilterQuery.Proofs.LiveCharacters
import FilterQuery.Proofs.Unbalanced

/-!
# The positions that refusals report

Two refusals report a position: one for a parenthesis that has no partner, one for a term that is
blank. The position is counted in the encoded text, where an escape pair is one character, but the
text is shown as it was written, where it is two. So a place in what is shown is as many characters
further on as there are escape pairs before it, and the position is right only where there are none
(`parse_positions`).

Places in the encoded text and in the text have the same order, since what is before a place is
encoded apart (`Escape.isLeast_atOffset`): the first of them stays the first.
-/

namespace FilterQuery

open Nesting Reading

/-! ### Places in a text and in its encoding -/

namespace Escape

variable {text s t : List Char} {P : List Char → Nat → Prop}

/-- The number of escape pairs in a text without stand-ins. -/
def pairs (text : List Char) : Nat :=
  (encode text).countP isStandIn

/-- An offset of a text is the place of which `P` speaks in the encoded text: what is before it and
what comes after it are encoded apart. -/
def AtOffset (P : List Char → Nat → Prop) (text : List Char) (offset : Nat) : Prop :=
  ∃ before after, text = before ++ after ∧ before.length = offset ∧
    encode text = encode before ++ encode after ∧ P (encode text) (encode before).length

/-- A position is reported for what comes after `before`. It is short by the number of escape pairs
in `before`, so it is right exactly if there is none. -/
structure Reported (position : Nat) (before : List Char) : Prop where
  length_eq : before.length = position + pairs before
  exact_iff : position = before.length ↔ ∀ l ∈ ['(', ')', ',', ';', '='], ¬['\\', l] <:+: before

theorem length_decode (text : List Char) :
    (decode text).length = text.length + text.countP isStandIn := by
  induction text with
  | nil => rfl
  | cons c text ih =>
    rw [decode_cons, List.length_append, ih, List.length_cons, List.countP_cons, spelling,
      isStandIn]
    cases literal? c with
    | some l =>
      simp only [List.length_cons, List.length_nil, Option.isSome_some, if_true]
      omega
    | none =>
      simp only [List.length_cons, List.length_nil, Option.isSome_none, Bool.false_eq_true,
        if_false]
      omega

theorem length_eq_add_pairs (h : hasStandIn text = false) :
    text.length = (encode text).length + pairs text := by
  rw [pairs, ← length_decode, decode_encode h]

theorem pairs_eq_zero_iff (h : hasStandIn text = false) :
    pairs text = 0 ↔ ∀ l ∈ ['(', ')', ',', ';', '='], ¬['\\', l] <:+: text := by
  rw [← unpaired_iff]
  constructor
  · intro hp
    have hfree : hasStandIn (encode text) = false := by
      simpa [pairs, hasStandIn] using hp
    rw [← decode_encode h, decode_of_hasStandIn hfree]
    exact unpaired_encode text
  · intro hu
    rw [pairs, encode_of_unpaired hu]
    simpa [hasStandIn] using h

/-- The first place in the encoded text is the first one in the text. -/
theorem isLeast_atOffset (h : hasStandIn text = false) (ht : text = s ++ t)
    (he : encode text = encode s ++ encode t)
    (hl : IsLeast {n | P (encode text) n} (encode s).length) :
    IsLeast {i | AtOffset P text i} s.length := by
  constructor
  · exact ⟨s, t, ht, rfl, he, hl.1⟩
  · rintro i ⟨s', t', ht', rfl, he', hP⟩
    have hle : (encode s).length ≤ (encode s').length := hl.2 hP
    obtain ⟨u, hu⟩ : encode s <+: encode s' :=
      List.prefix_of_prefix_length_le ⟨encode t, he.symm⟩ ⟨encode t', he'.symm⟩ hle
    have hs : decode (encode s) = s :=
      decode_encode (hasStandIn_eq_false_of_isInfix ⟨[], t, by rw [ht]; rfl⟩ h)
    have hs' : decode (encode s') = s' :=
      decode_encode (hasStandIn_eq_false_of_isInfix ⟨[], t', by rw [ht']; rfl⟩ h)
    -- a longer part of the encoded text is written with at least as many characters
    rw [← hs', ← hu, decode_append, hs, List.length_append]
    omega

theorem reported_encode (h : hasStandIn text = false) (ht : text = s ++ t) :
    Reported (encode s).length s := by
  have hs : hasStandIn s = false := hasStandIn_eq_false_of_isInfix ⟨[], t, by rw [ht]; rfl⟩ h
  have hlen := length_eq_add_pairs hs
  refine ⟨hlen, ?_⟩
  rw [← pairs_eq_zero_iff hs]
  omega

/-- If the places are those of a character with a role, the first one is that of the character in
the text, too. -/
theorem exists_isLeast_of_char {c : Char} {position : Nat} (h : hasStandIn text = false)
    (hc : c ∈ ['(', ')', ',', ';', '='])
    (hP : ∀ n, P (encode text) n → ∃ before after, encode text = before ++ c :: after ∧
      before.length = n)
    (hl : IsLeast {n | P (encode text) n} position) :
    ∃ before after, text = before ++ c :: after ∧ Reported position before ∧
      before.getLast? ≠ some '\\' ∧ IsLeast {i | AtOffset P text i} before.length := by
  obtain ⟨b, a, he, rfl⟩ := hP position hl.1
  obtain ⟨s, t, ht, rfl, rfl, hs⟩ := exists_live_of_encode hc he
  have hslash : c ≠ '\\' := by
    rintro rfl
    simp at hc
  refine ⟨s, t, ht, reported_encode h ht, hs, isLeast_atOffset h ht ?_ hl⟩
  rw [he, encode_cons_of_ne hslash]

end Escape

/-! ### The first blank term -/

/-- A blank term starts at a position: at the start of the text or right after a separator outside
all parentheses. It ends before the next separator or with the text. -/
def Terms.BlankTermAt (separator : Char) (text : List Char) (position : Nat) : Prop :=
  ∃ before term after, text = before ++ (term ++ after) ∧ before.length = position ∧ Blank term ∧
    (before = [] ∨ ∃ b, before = b ++ [separator] ∧ Balanced b) ∧
    (after = [] ∨ ∃ a, after = separator :: a)

namespace Terms

variable {separator : Char} {text first rest b t : List Char} {position : Nat}

theorem eq_or_of_cut (hp : isParen separator = false) (hf : Whole separator first)
    (hb : Balanced b) (h : first ++ separator :: rest = b ++ separator :: t) :
    (b = first ∧ t = rest) ∨ ∃ b', b = first ++ separator :: b' ∧ Balanced b' ∧
      rest = b' ++ separator :: t := by
  rcases List.append_eq_append_iff.1 h with ⟨a, rfl, ha⟩ | ⟨a, rfl, ha⟩
  · cases a with
    | nil =>
      obtain ⟨-, rfl⟩ := List.cons.inj ha
      exact .inl ⟨by simp, rfl⟩
    | cons c a =>
      obtain ⟨rfl, rfl⟩ := List.cons.inj ha
      refine .inr ⟨a, rfl, ?_, rfl⟩
      exact (balanced_singleton hp).append_iff.1 (hf.balanced.append_iff.1 hb)
  · cases a with
    | nil =>
      obtain ⟨-, rfl⟩ := List.cons.inj ha
      exact .inl ⟨by simp, rfl⟩
    | cons c a =>
      -- the first part would be cut
      obtain ⟨rfl, -⟩ := List.cons.inj ha
      exact absurd hb.2 (hf.uncut b a rfl)

theorem blankTermAt_zero (h : Blank first) : BlankTermAt separator (first ++ separator :: rest) 0 :=
  ⟨[], first, separator :: rest, rfl, rfl, h, .inl rfl, .inr ⟨rest, rfl⟩⟩

theorem blankTermAt_cut_iff (hp : isParen separator = false) (hs : isBlank separator = false)
    (hf : Whole separator first) : BlankTermAt separator (first ++ separator :: rest) position ↔
      (position = 0 ∧ Blank first) ∨
      ∃ n, position = first.length + 1 + n ∧ BlankTermAt separator rest n := by
  constructor
  · rintro ⟨before, term, after, he, rfl, hblank, hbefore, hafter⟩
    have hterm : separator ∉ term := by
      intro hm
      rw [hblank separator hm] at hs
      simp at hs
    rcases hbefore with rfl | ⟨b, rfl, hb⟩
    · left
      rcases hafter with rfl | ⟨a, rfl⟩
      · rw [List.nil_append, List.append_nil] at he
        rw [← he] at hterm
        simp at hterm
      · rcases eq_or_of_cut hp hf hblank.balanced he with ⟨rfl, -⟩ | ⟨b', rfl, -, -⟩
        · exact ⟨rfl, hblank⟩
        · simp at hterm
    · right
      rw [List.append_assoc, List.singleton_append] at he
      rcases eq_or_of_cut hp hf hb he with ⟨rfl, rfl⟩ | ⟨b', rfl, hb', rfl⟩
      · exact ⟨0, by simp, [], term, after, rfl, rfl, hblank, .inl rfl, hafter⟩
      · refine ⟨(b' ++ [separator]).length, ?_, b' ++ [separator], term, after, by simp, rfl,
          hblank, .inr ⟨b', rfl, hb'⟩, hafter⟩
        simp only [List.length_append, List.length_cons, List.length_nil]
        omega
  · rintro (⟨rfl, h⟩ | ⟨n, rfl, before, term, after, rfl, rfl, hblank, hbefore, hafter⟩)
    · exact blankTermAt_zero h
    · refine ⟨first ++ separator :: before, term, after, by simp, by simp; omega, hblank, ?_,
        hafter⟩
      right
      rcases hbefore with rfl | ⟨b, rfl, hb⟩
      · exact ⟨first, rfl, hf.balanced⟩
      · exact ⟨first ++ separator :: b, by simp, hf.balanced.append_cons hp hb⟩

theorem isLeast_of_trimPieces {whole : List Char} {fragment : String} {start : Nat}
    (hp : isParen separator = false) (hs : isBlank separator = false) (hb : Balanced text)
    (h : trimPieces whole start (pieces separator text) = .error (.emptyTerm fragment position)) :
    ∃ n, position = start + n ∧ IsLeast {i | BlankTermAt separator text i} n := by
  refine hb.cut_induction (motive := fun text => ∀ start,
    trimPieces whole start (pieces separator text) = .error (.emptyTerm fragment position) →
      ∃ n, position = start + n ∧ IsLeast {i | BlankTermAt separator text i} n) hp
    (fun text hw start h => ?_) (fun first rest hf _ ih start h => ?_) start h
  · rw [pieces_of_whole hp hw] at h
    rcases error_of_trimPieces_cons h with ⟨hblank, he⟩ | ⟨-, h⟩
    · cases he
      refine ⟨0, rfl, ?_, fun i _ => Nat.zero_le i⟩
      exact ⟨[], text, [], by simp, rfl, hblank, .inl rfl, .inl rfl⟩
    · simp [trimPieces] at h
  · rw [pieces_cons_of_whole hp hf] at h
    rcases error_of_trimPieces_cons h with ⟨hblank, he⟩ | ⟨hfull, h⟩
    · cases he
      exact ⟨0, rfl, blankTermAt_zero hblank, fun i _ => Nat.zero_le i⟩
    · obtain ⟨n, rfl, hn, hleast⟩ := ih _ h
      refine ⟨first.length + 1 + n, by omega, ?_, ?_⟩
      · exact (blankTermAt_cut_iff hp hs hf).2 (.inr ⟨n, rfl, hn⟩)
      · intro i hi
        rcases (blankTermAt_cut_iff hp hs hf).1 hi with ⟨-, hblank⟩ | ⟨m, rfl, hm⟩
        · exact absurd hblank hfull
        · have : n ≤ m := hleast hm
          omega

theorem isLeast_of_split {fragment : String} (hp : isParen separator = false)
    (hs : isBlank separator = false)
    (h : split separator text = .error (.emptyTerm fragment position)) :
    fragment = Escape.shown text ∧ IsLeast {i | BlankTermAt separator text i} position := by
  by_cases hb : Balanced text
  · have hok : checkBalanced text = .ok () := checkBalanced_eq_ok_iff.2 hb
    rw [split, hok] at h
    obtain ⟨_, he⟩ := exists_emptyTerm_of_trimPieces h
    obtain ⟨n, rfl, hn⟩ := isLeast_of_trimPieces hp hs hb h
    refine ⟨(QueryError.emptyTerm.inj he).1, ?_⟩
    rwa [Nat.zero_add]
  · obtain ⟨_, -, hu⟩ := split_of_not_balanced separator hb
    simp [h] at hu

open Escape in
/-- The first blank term of an encoded text starts in the text after a separator that is not
escaped, unless it starts the text. -/
theorem exists_isLeast_of_blankTermAt (h : hasStandIn text = false)
    (hs : separator ∈ ['(', ')', ',', ';', '='])
    (hl : IsLeast {n | BlankTermAt separator (encode text) n} position) :
    ∃ before after, text = before ++ after ∧ Reported position before ∧
      (before = [] ∨ ∃ b, before = b ++ [separator] ∧ b.getLast? ≠ some '\\') ∧
      IsLeast {i | AtOffset (BlankTermAt separator) text i} before.length := by
  obtain ⟨start, term, rest, he, rfl, -, hstart, -⟩ := hl.1
  obtain ⟨s, t, ht, rfl, htail⟩ := exists_append_of_encode he
  rw [← htail] at he
  refine ⟨s, t, ht, reported_encode h ht, ?_, isLeast_atOffset h ht he hl⟩
  rcases hstart with hnil | ⟨b, hb, -⟩
  · exact .inl (encode_eq_nil_iff.1 hnil)
  · right
    obtain ⟨s', t', rfl, -, ht', hslash⟩ := exists_live_of_encode hs hb
    obtain rfl := encode_eq_nil_iff.1 ht'
    exact ⟨s', rfl, hslash⟩

end Terms

/-! ### What is reported -/

/-- What a text in some role is cut at. -/
def Reading.Role.separator? : Role → Option Char
  | level => some Terms.orSeparator
  | alternative => some Terms.andSeparator
  | term => none

theorem Reading.Role.mem_of_separator? {role : Role} {separator : Char}
    (h : role.separator? = some separator) : separator ∈ ['(', ')', ',', ';', '='] := by
  cases role with
  | level => exact Option.some.inj h ▸ by decide
  | alternative => exact Option.some.inj h ▸ by decide
  | term => simp [separator?] at h

theorem Escape.Unpaired.shown {text : List Char} (h : Unpaired text) :
    hasStandIn (shown text).toList = false ∧ encode (shown text).toList = text := by
  rw [Escape.shown, String.toList_ofList]
  exact ⟨hasStandIn_decode text, encode_decode h⟩

section Reported

variable {p : Parser} {policy : KeyPolicy} {role : Role} {text : List Char}
  {query fragment : String} {position : Nat}

theorem Reading.Raises.isLeast_blankTermAt
    (h : Raises p policy role text (.emptyTerm fragment position)) :
    ∃ separator, role.separator? = some separator ∧ fragment = Escape.shown text ∧
      IsLeast {i | Terms.BlankTermAt separator text i} position := by
  cases h with
  | level h => exact ⟨_, rfl, Terms.isLeast_of_split Terms.isParen_orSeparator (by decide) h⟩
  | alternative h => exact ⟨_, rfl, Terms.isLeast_of_split Terms.isParen_andSeparator (by decide) h⟩
  | shape h => simpa using TermShape.error_of_of h
  | comparison _ h =>
    rcases Parser.error_of_readComparison h with h | ⟨key, h⟩
    · simpa using OperatorMatch.error_of_find h
    · simpa using KeyPolicy.exists_of_check h

theorem Parser.unbalancedAt?_of_parse
    (h : p.parse query policy = .error (.unbalancedParens fragment position)) :
    fragment = Escape.shown (Escape.encode query.toList) ∧
      unbalancedAt? (Escape.encode query.toList) = some position := by
  obtain ⟨n, hn, he⟩ :=
    @readNested_of_not_balanced p policy _ (not_balanced_of_readNested h) p.maxDepth
  obtain ⟨rfl, rfl⟩ := QueryError.unbalancedParens.inj (Except.error.inj (h.symm.trans he))
  exact ⟨rfl, hn⟩

end Reported

open Escape in
/-- A refusal reports its position in the encoded text, but shows the text as it was written. The
place in what is shown is as many characters further on as there are escape pairs before it, so the
position is right exactly if there are none. At that place stands the first closing parenthesis that
closes too much or, if there is none, the first opening one that is not closed, and not after a
backslash; or the first blank term starts there, at the start or right after a separator that is not
escaped. -/
theorem parse_positions (p : Parser) (policy : KeyPolicy) (query : String) :
    (∀ fragment position, p.parse query policy = .error (.unbalancedParens fragment position) →
      ∃ before paren after, fragment.toList = before ++ paren :: after ∧
        Reported position before ∧ before.getLast? ≠ some '\\' ∧
        ((paren = ')' ∧ IsLeast {i | AtOffset ExcessAt fragment.toList i} before.length) ∨
          (paren = '(' ∧ (∀ i, ¬AtOffset ExcessAt fragment.toList i) ∧
            IsLeast {i | AtOffset UnclosedAt fragment.toList i} before.length))) ∧
    ∀ fragment position, p.parse query policy = .error (.emptyTerm fragment position) →
      ∃ role separator before after, Reaches (encode query.toList) role (encode fragment.toList) ∧
        role.separator? = some separator ∧ fragment.toList = before ++ after ∧
        Reported position before ∧
        IsLeast {i | AtOffset (Terms.BlankTermAt separator) fragment.toList i} before.length ∧
        (before = [] ∨ ∃ b, before = b ++ [separator] ∧ b.getLast? ≠ some '\\') := by
  refine ⟨fun fragment position h => ?_, fun fragment position h => ?_⟩
  · obtain ⟨rfl, hu⟩ := Parser.unbalancedAt?_of_parse h
    obtain ⟨hfree, he⟩ := (unpaired_encode query.toList).shown
    rw [← he] at hu
    rcases isLeast_of_unbalancedAt? hu with hl | ⟨hno, hl⟩
    · obtain ⟨before, after, ht, hreported, hslash, hl⟩ :=
        exists_isLeast_of_char hfree (by decide) (fun n ⟨b, a, hb, hn, _⟩ => ⟨b, a, hb, hn⟩) hl
      exact ⟨before, ')', after, ht, hreported, hslash, .inl ⟨rfl, hl⟩⟩
    · obtain ⟨before, after, ht, hreported, hslash, hl⟩ :=
        exists_isLeast_of_char hfree (by decide) (fun n ⟨b, a, hb, hn, _⟩ => ⟨b, a, hb, hn⟩) hl
      refine ⟨before, '(', after, ht, hreported, hslash, .inr ⟨rfl, fun i hi => ?_, hl⟩⟩
      obtain ⟨_, _, -, -, -, hi⟩ := hi
      exact hno _ hi
  · obtain ⟨role, part, hr, hraise⟩ := exists_raises_of_readNested h
    obtain ⟨separator, hs, rfl, hl⟩ := hraise.isLeast_blankTermAt
    have hu : Unpaired part := (unpaired_encode query.toList).of_isInfix hr.isInfix
    obtain ⟨hfree, he⟩ := hu.shown
    rw [← he] at hl hr
    obtain ⟨before, after, ht, hreported, hsep, hl⟩ :=
      Terms.exists_isLeast_of_blankTermAt hfree (Role.mem_of_separator? hs) hl
    exact ⟨role, separator, before, after, hr, hs, ht, hreported, hl, hsep⟩

open Escape in
/-- A parenthesis after an escape pair, and a blank term of a group after two of them. -/
theorem parse_positions_escaped :
    Parser.mongo.parse "a==\\,1;b==(" .unrestricted =
      .error (.unbalancedParens "a==\\,1;b==(" 9) ∧
    (∃ before paren after, "a==\\,1;b==(".toList = before ++ paren :: after ∧
      Reported 9 before ∧ (paren = ')' ∨ paren = '(')) ∧
    Parser.mongo.parse "(a==\\(\\);;b==1)" .unrestricted =
      .error (.emptyTerm "a==\\(\\);;b==1" 6) ∧
    ∃ role separator before after, Reaches (encode "(a==\\(\\);;b==1)".toList) role
        (encode "a==\\(\\);;b==1".toList) ∧ Role.separator? role = some separator ∧
      "a==\\(\\);;b==1".toList = before ++ after ∧ Reported 6 before ∧
      IsLeast {i | AtOffset (Terms.BlankTermAt separator) "a==\\(\\);;b==1".toList i}
        before.length := by
  have hparen : Parser.mongo.parse "a==\\,1;b==(" .unrestricted =
      .error (.unbalancedParens "a==\\,1;b==(" 9) := by cbv
  have hterm : Parser.mongo.parse "(a==\\(\\);;b==1)" .unrestricted =
      .error (.emptyTerm "a==\\(\\);;b==1" 6) := by cbv
  obtain ⟨before, paren, after, ht, hreported, -, hp⟩ :=
    (parse_positions .mongo .unrestricted _).1 _ _ hparen
  obtain ⟨role, separator, start, rest, hr, hs, ht', hreported', hl, -⟩ :=
    (parse_positions .mongo .unrestricted _).2 _ _ hterm
  refine ⟨hparen, ⟨before, paren, after, ht, hreported, ?_⟩, hterm,
    ⟨role, separator, start, rest, hr, hs, ht', hreported', hl⟩⟩
  rcases hp with ⟨hp, -⟩ | ⟨hp, -⟩
  · exact .inl hp
  · exact .inr hp

/-- One escape pair makes the position point before the parenthesis and before the blank term. -/
theorem parse_positions_short :
    Escape.hasStandIn "a==\\,)".toList = false ∧
    Parser.mysql.parse "a==\\,)" .unrestricted = .error (.unbalancedParens "a==\\,)" 4) ∧
    "a==\\,)".toList[4]? = some ',' ∧ "a==\\,)".toList[5]? = some ')' ∧
    Escape.hasStandIn "a==\\,;".toList = false ∧
    Parser.mysql.parse "a==\\,;" .unrestricted = .error (.emptyTerm "a==\\,;" 5) ∧
    "a==\\,;".toList[5]? = some ';' ∧ "a==\\,;".toList.length = 6 := by
  refine ⟨by decide, by cbv, by decide, by decide, by decide, by cbv, by decide, by decide⟩

end FilterQuery
