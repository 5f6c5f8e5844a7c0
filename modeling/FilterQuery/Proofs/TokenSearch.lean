import FilterQuery.Proofs.Utf8
import Mathlib.Data.List.DropRight

/-!
# The search for an operator token

`Token.split?` cuts a text at the leftmost token in it (`split?_leftmost`): no token starts earlier,
although the search tries only some of the starts. After a start that fails it goes on behind the
whole run of characters up to the next parenthesis or the end, because a token that starts within
that run would have to end within it, too (`length_lt_of_run`).

`Token.find` is the same search over the bytes of the text, by offsets. It takes no account of where
characters begin; since all bytes that it looks for are characters of their own, it steps over the
bytes of other characters one by one, and finds the same token (`find_bytes`).
-/

namespace FilterQuery

open Nesting Utf8

namespace Token

/-! ### The search over bytes -/

/-- Whether a token can start with a byte. -/
def isStartByte (b : UInt8) : Bool :=
  b == '!'.toUInt8 || b == '='.toUInt8

/-- Whether a byte may stand between the first and the last one of a token. -/
def isInnerByte (b : UInt8) : Bool :=
  !(b == '='.toUInt8 || b == '('.toUInt8 || b == ')'.toUInt8)

/-- Where a run of inner bytes ends: at the first other byte, or with the text. -/
def runEnd (form : List UInt8) (offset : Nat) : Except Fault { stop : Nat // offset ≤ stop } := do
  if offset < form.length then
    if isInnerByte (← byteAt form offset) then
      let ⟨stop, hle⟩ ← runEnd form (offset + 1)
      return ⟨stop, by omega⟩
    else return ⟨offset, Nat.le_refl offset⟩
  else return ⟨offset, Nat.le_refl offset⟩
termination_by form.length - offset

/-- The search for a token that starts at an offset or after it. -/
def findFrom (form : List UInt8) (start : Nat) : Except Fault (Option (Nat × Nat)) := do
  if start < form.length then
    if isStartByte (← byteAt form start) then
      let ⟨stop, hle⟩ ← runEnd form (start + 1)
      if stop < form.length then
        if (← byteAt form stop) = '='.toUInt8 then return some (start, stop + 1)
        else findFrom form stop
      else findFrom form stop
    else findFrom form (start + 1)
  else return none
termination_by form.length - start

/-- The byte offsets at which the first token starts and ends. -/
def find (form : List UInt8) : Except Fault (Option (Nat × Nat)) :=
  findFrom form 0

end Token

variable {c : Char} {b : UInt8} {s t : List UInt8} {text before token after run rest : List Char}

/-! ### The leftmost token -/

theorem IsToken.ne_nil (h : IsToken token) : token ≠ [] := by
  obtain ⟨c, inner, rfl, -, -⟩ := h
  simp

/-- Where a token starts, only one token starts. -/
theorem IsToken.eq_of_append_eq {token' after' : List Char} (h : IsToken token)
    (h' : IsToken token') (he : token ++ after = token' ++ after') : token = token' := by
  obtain ⟨c, inner, rfl, -, hi⟩ := h
  obtain ⟨c', inner', rfl, -, hi'⟩ := h'
  simp only [List.cons_append, List.append_assoc, List.nil_append, List.cons.injEq] at he
  obtain ⟨rfl, he⟩ := he
  have hrun := @Token.takeWhile_isInner inner after hi
  rw [he, Token.takeWhile_isInner hi'] at hrun
  rw [hrun]

theorem TokenSplit.shift_shift (s t : List Char) (r : TokenSplit) :
    (r.shift t).shift s = r.shift (s ++ t) := by
  simp [shift]

namespace Token

theorem dropWhile_append_of_all (h : run.all isInner = true) :
    (run ++ rest).dropWhile isInner = rest.dropWhile isInner :=
  List.dropWhile_append_of_pos (List.all_eq_true.1 h)

/-- No token starts within a run of inner characters that does not end with `=`. -/
theorem length_lt_of_run (hr : run.all isInner = true)
    (hne : ∀ after, rest.dropWhile isInner ≠ '=' :: after) (ht : IsToken token)
    (he : c :: (run ++ rest) = before ++ (token ++ after)) : run.length < before.length := by
  by_contra hlt
  obtain ⟨d, inner, rfl, -, hi⟩ := ht
  obtain ⟨part, hpart, hrest⟩ : ∃ part, part.all isInner = true ∧
      inner ++ '=' :: after = part ++ rest := by
    rw [← List.cons_append] at he
    rcases List.append_eq_append_iff.1 he with ⟨a, rfl, -⟩ | ⟨a, ha, hrest⟩
    · simp only [List.length_append, List.length_cons] at hlt
      omega
    · cases a with
      | nil =>
        have hlen := congrArg List.length ha
        simp only [List.length_append, List.length_cons, List.length_nil] at hlen
        omega
      | cons d' part =>
        obtain ⟨-, hrest⟩ := List.cons.inj hrest
        refine ⟨part, ?_, by simpa using hrest⟩
        -- the part is what is left of the run behind the start of the token
        cases before with
        | nil =>
          obtain ⟨-, rfl⟩ := List.cons.inj ha
          exact hr
        | cons _ before =>
          obtain ⟨-, rfl⟩ := List.cons.inj ha
          simp_all
  have hdrop := congrArg (List.dropWhile isInner) hrest
  rw [dropWhile_isInner hi, dropWhile_append_of_all hpart] at hdrop
  exact hne after hdrop.symm

theorem exists_split?_of_token (ht : IsToken token) (he : text = before ++ (token ++ after)) :
    ∃ s, split? text = some s ∧ s.before.length ≤ before.length := by
  fun_induction split? text generalizing before with
  | case1 =>
    obtain ⟨-, hn⟩ := List.append_eq_nil_iff.1 he.symm
    exact absurd (List.append_eq_nil_iff.1 hn).1 ht.ne_nil
  | case2 c text hc after' hd => exact ⟨_, rfl, Nat.zero_le _⟩
  | case3 c text hc hne ih =>
    have hsplit : c :: (text.takeWhile isInner ++ text.dropWhile isInner) =
        before ++ (token ++ after) := by
      rw [List.takeWhile_append_dropWhile, he]
    have hlt := length_lt_of_run List.all_takeWhile
      (fun after h => hne after (by rwa [List.dropWhile_idempotent] at h)) ht hsplit
    have hrun : c :: text.takeWhile isInner <+:
        c :: (text.takeWhile isInner ++ text.dropWhile isInner) := ⟨_, rfl⟩
    obtain ⟨before', rfl⟩ : c :: text.takeWhile isInner <+: before :=
      List.prefix_of_prefix_length_le hrun ⟨_, hsplit.symm⟩ hlt
    have hrest : text.dropWhile isInner = before' ++ (token ++ after) := by
      rw [List.append_assoc, ← List.cons_append] at hsplit
      exact List.append_cancel_left hsplit
    obtain ⟨s, hs, hle⟩ := ih hrest
    refine ⟨_, by rw [hs]; rfl, ?_⟩
    simp only [TokenSplit.shift, List.length_append]
    omega
  | case4 c text hc ih =>
    cases before with
    | nil =>
      obtain ⟨d, inner, rfl, hd, -⟩ := ht
      obtain ⟨rfl, -⟩ := List.cons.inj he
      exact absurd hd hc
    | cons d before =>
      obtain ⟨-, he⟩ := List.cons.inj he
      obtain ⟨s, hs, hle⟩ := ih he
      refine ⟨_, by rw [hs]; rfl, ?_⟩
      simp only [TokenSplit.shift, List.length_append, List.length_cons, List.length_nil]
      omega

/-! ### The bytes of the leftmost token -/

theorem isStartByte_of_mem (hb : b ∈ String.utf8EncodeChar c) : isStartByte b = isStart c := by
  simp only [isStartByte, isStart, Bool.beq_eq_decide_eq,
    eq_toUInt8_iff_of_mem (d := '!') (by decide) hb,
    eq_toUInt8_iff_of_mem (d := '=') (by decide) hb]

theorem isInnerByte_of_mem (hb : b ∈ String.utf8EncodeChar c) : isInnerByte b = isInner c := by
  simp only [isInnerByte, isInner, Bool.beq_eq_decide_eq,
    eq_toUInt8_iff_of_mem (d := '=') (by decide) hb,
    eq_toUInt8_iff_of_mem (d := '(') (by decide) hb,
    eq_toUInt8_iff_of_mem (d := ')') (by decide) hb]

theorem isInnerByte_of_mem_bytes (hr : run.all isInner = true) :
    ∀ b ∈ bytes run, isInnerByte b = true := by
  intro b hb
  obtain ⟨c, hc, hb⟩ := List.mem_flatMap.1 hb
  rw [isInnerByte_of_mem hb]
  exact List.all_eq_true.1 hr c hc

theorem exists_of_head?_bytes (hb : b ∈ (bytes rest).head?) :
    ∃ d ∈ rest.head?, b ∈ String.utf8EncodeChar d := by
  cases rest with
  | nil => simp at hb
  | cons d rest =>
    obtain ⟨b', form, hf⟩ := List.exists_cons_of_ne_nil (String.utf8EncodeChar_ne_nil (c := d))
    rw [bytes_cons, hf] at hb
    refine ⟨d, rfl, ?_⟩
    rw [hf]
    simp_all

theorem runEnd_append {u : List UInt8} {offset : Nat} (ho : s.length = offset)
    (ht : ∀ b ∈ t, isInnerByte b = true) (hu : ∀ b ∈ u.head?, isInnerByte b = false) :
    ∃ hle, runEnd (s ++ (t ++ u)) offset = .ok ⟨offset + t.length, hle⟩ := by
  refine ⟨Nat.le_add_right _ _, ?_⟩
  induction t generalizing s offset with
  | nil =>
    subst ho
    rw [runEnd, List.nil_append]
    cases u with
    | nil =>
      rw [if_neg (by simp)]
      rfl
    | cons b u =>
      rw [if_pos (by simp), byteAt_length]
      show (if isInnerByte b = true then _ else _) = _
      rw [hu b rfl]
      rfl
  | cons b t ih =>
    have hnext := @ih (s ++ [b]) (offset + 1) (by simp [ho]) fun d hd => ht d (by simp [hd])
    rw [List.append_assoc, List.singleton_append, ← List.cons_append] at hnext
    subst ho
    rw [runEnd, if_pos (by simp), List.cons_append, byteAt_length]
    show (if isInnerByte b = true then _ else _) = _
    rw [if_pos (ht b (by simp)), ← List.cons_append, hnext]
    refine congrArg Except.ok (Subtype.ext ?_)
    show s.length + 1 + t.length = s.length + (t.length + 1)
    omega

theorem findFrom_append {u : List UInt8} {offset : Nat} (ho : s.length = offset)
    (ht : ∀ b ∈ t, isStartByte b = false) :
    findFrom (s ++ (t ++ u)) offset = findFrom (s ++ (t ++ u)) (offset + t.length) := by
  induction t generalizing s offset with
  | nil => rfl
  | cons b t ih =>
    have hnext := @ih (s ++ [b]) (offset + 1) (by simp [ho]) fun d hd => ht d (by simp [hd])
    rw [List.append_assoc, List.singleton_append, ← List.cons_append] at hnext
    subst ho
    rw [findFrom, if_pos (by simp), List.cons_append, byteAt_length]
    show (if isStartByte b = true then _ else _) = _
    rw [ht b (by simp), ← List.cons_append]
    refine hnext.trans ?_
    rw [List.length_cons, Nat.add_assoc, Nat.add_comm 1]

theorem findFrom_token {u : List UInt8} (hb : isStartByte b = true)
    (ht : ∀ b ∈ t, isInnerByte b = true) :
    findFrom (s ++ (b :: (t ++ '='.toUInt8 :: u))) s.length =
      .ok (some (s.length, s.length + t.length + 2)) := by
  have hlen : (s ++ [b]).length = s.length + 1 := by simp
  obtain ⟨hle, hrun⟩ := runEnd_append (u := '='.toUInt8 :: u) hlen ht (by simp; decide)
  have hstop : byteAt (s ++ [b] ++ (t ++ '='.toUInt8 :: u)) (s.length + 1 + t.length) =
      .ok '='.toUInt8 := by
    have := byteAt_length (s ++ [b] ++ t) u '='.toUInt8
    simpa [Nat.add_assoc, Nat.add_comm 1] using this
  rw [List.append_assoc, List.singleton_append] at hrun hstop
  rw [findFrom, if_pos (by simp), byteAt_length]
  show (if isStartByte b = true then _ else _) = _
  rw [if_pos hb, hrun]
  show (if _ then _ else _) = _
  rw [if_pos (by simp; omega), hstop]
  show Except.ok (some (s.length, s.length + 1 + t.length + 1)) = _
  have hend : s.length + 1 + t.length + 1 = s.length + t.length + 2 := by omega
  rw [hend]

theorem findFrom_run {u : List UInt8} (hb : isStartByte b = true)
    (ht : ∀ b ∈ t, isInnerByte b = true) (hu : ∀ b ∈ u.head?, isInnerByte b = false)
    (hne : ∀ b ∈ u.head?, b ≠ '='.toUInt8) :
    findFrom (s ++ (b :: (t ++ u))) s.length =
      findFrom (s ++ (b :: (t ++ u))) (s.length + 1 + t.length) := by
  have hlen : (s ++ [b]).length = s.length + 1 := by simp
  obtain ⟨hle, hrun⟩ := runEnd_append hlen ht hu
  rw [List.append_assoc, List.singleton_append] at hrun
  rw [findFrom, if_pos (by simp), byteAt_length]
  show (if isStartByte b = true then _ else _) = _
  rw [if_pos hb, hrun]
  show (if _ then _ else _) = _
  cases u with
  | nil => rw [if_neg (by simp; omega)]
  | cons d u =>
    have hstop : byteAt (s ++ (b :: (t ++ d :: u))) (s.length + 1 + t.length) = .ok d := by
      have := byteAt_length (s ++ [b] ++ t) u d
      simpa [Nat.add_assoc, Nat.add_comm 1] using this
    rw [if_pos (by simp; omega), hstop]
    show (if d = '='.toUInt8 then _ else _) = _
    rw [if_neg (hne d rfl)]

theorem findFrom_length (form : List UInt8) : findFrom form form.length = .ok none := by
  rw [findFrom, if_neg (by omega)]
  rfl

theorem isStart_iff : isStart c = true ↔ c = '!' ∨ c = '=' := by
  simp [isStart]

theorem utf8EncodeChar_of_isStart (h : isStart c = true) :
    ∃ b, String.utf8EncodeChar c = [b] ∧ isStartByte b = true ∧ c.utf8Size = 1 := by
  rcases isStart_iff.1 h with rfl | rfl
  · exact ⟨'!'.toUInt8, rfl, by decide, by decide⟩
  · exact ⟨'='.toUInt8, rfl, by decide, by decide⟩

theorem bytes_eq_sign (text : List Char) : bytes ('=' :: text) = '='.toUInt8 :: bytes text := rfl

theorem findFrom_bytes_token (hc : isStart c = true) (hr : run.all isInner = true) :
    findFrom (bytes (before ++ c :: (run ++ '=' :: after))) (byteSize before) =
      .ok (some (TokenSplit.byteRange ⟨before, c :: (run ++ ['=']), after⟩)) := by
  obtain ⟨b, hb, hs, hone⟩ := utf8EncodeChar_of_isStart hc
  have hform : bytes (before ++ c :: (run ++ '=' :: after)) =
      bytes before ++ (b :: (bytes run ++ '='.toUInt8 :: bytes after)) := by
    rw [bytes_append, bytes_cons, hb, bytes_append, bytes_eq_sign]
    rfl
  have hsign : '='.utf8Size = 1 := by decide
  rw [hform, ← length_bytes, findFrom_token hs (isInnerByte_of_mem_bytes hr), TokenSplit.byteRange]
  simp only [byteSize_cons, byteSize_append, byteSize_nil, length_bytes, hone, hsign]
  congr 3
  omega

theorem findFrom_bytes_run (hc : isStart c = true) (hr : run.all isInner = true)
    (hi : ∀ d ∈ rest.head?, isInner d = false) (hne : ∀ d ∈ rest.head?, d ≠ '=') :
    findFrom (bytes (before ++ c :: (run ++ rest))) (byteSize before) =
      findFrom (bytes (before ++ c :: (run ++ rest))) (byteSize (before ++ c :: run)) := by
  obtain ⟨b, hb, hs, hone⟩ := utf8EncodeChar_of_isStart hc
  have hform : bytes (before ++ c :: (run ++ rest)) =
      bytes before ++ (b :: (bytes run ++ bytes rest)) := by
    rw [bytes_append, bytes_cons, hb, bytes_append]
    rfl
  have hsize : byteSize (before ++ c :: run) = (bytes before).length + 1 + (bytes run).length := by
    rw [byteSize_append, byteSize_cons, hone, length_bytes, length_bytes, Nat.add_assoc]
  rw [hform, hsize, ← length_bytes before]
  refine findFrom_run hs (isInnerByte_of_mem_bytes hr) (fun b hb => ?_) fun b hb he => ?_
  · obtain ⟨d, hd, hm⟩ := exists_of_head?_bytes hb
    rw [isInnerByte_of_mem hm, hi d hd]
  · obtain ⟨d, hd, hm⟩ := exists_of_head?_bytes hb
    exact hne d hd ((eq_toUInt8_iff_of_mem (by decide) hm).1 he)

/-- A character that starts no token is passed over, byte by byte. -/
theorem findFrom_bytes_cons (hc : ¬isStart c = true) :
    findFrom (bytes (before ++ c :: text)) (byteSize before) =
      findFrom (bytes (before ++ c :: text)) (byteSize (before ++ [c])) := by
  have hpass : ∀ b ∈ String.utf8EncodeChar c, isStartByte b = false := fun b hb => by
    rw [isStartByte_of_mem hb]
    simpa using hc
  have hsize : byteSize (before ++ [c]) = byteSize before + c.utf8Size := by simp
  rw [bytes_append, bytes_cons, findFrom_append (length_bytes before) hpass,
    String.length_utf8EncodeChar, hsize]

theorem findFrom_bytes (before text : List Char) :
    findFrom (bytes (before ++ text)) (byteSize before) =
      .ok ((split? text).map fun r => (r.shift before).byteRange) := by
  fun_induction split? text generalizing before with
  | case1 =>
    rw [List.append_nil, ← length_bytes, findFrom_length]
    rfl
  | case2 c text hc after hd =>
    have htext : text = text.takeWhile isInner ++ '=' :: after := by
      rw [← hd, List.takeWhile_append_dropWhile]
    have htoken := @findFrom_bytes_token c before after _ hc
      (List.all_takeWhile (p := isInner) (l := text))
    rw [← htext] at htoken
    simpa [TokenSplit.shift] using htoken
  | case3 c text hc hne ih =>
    have hrest (d : Char) (h : d ∈ (text.dropWhile isInner).head?) :
        isInner d = false ∧ d ≠ '=' := by
      have hin := List.head?_dropWhile_not isInner text
      cases hdrop : text.dropWhile isInner with
      | nil => simp [hdrop] at h
      | cons d' rest =>
        rw [hdrop] at hin h
        obtain rfl : d' = d := by simpa using h
        exact ⟨by simpa using hin, fun he => hne rest (by rw [hdrop, he])⟩
    have hrun := @findFrom_bytes_run c before _ _ hc
      (List.all_takeWhile (p := isInner) (l := text)) (fun d hd => (hrest d hd).1)
      fun d hd => (hrest d hd).2
    have hnext := ih (before ++ c :: text.takeWhile isInner)
    rw [List.append_assoc, List.cons_append] at hnext
    rw [hnext, List.takeWhile_append_dropWhile] at hrun
    rw [hrun, Option.map_map]
    simp only [Function.comp_def, TokenSplit.shift_shift]
  | case4 c text hc ih =>
    have hnext := ih (before ++ [c])
    rw [List.append_assoc, List.singleton_append] at hnext
    rw [findFrom_bytes_cons hc, hnext, Option.map_map]
    simp only [Function.comp_def, TokenSplit.shift_shift]

/-- The search over the bytes of a text finds what the search over the text finds. -/
theorem find_bytes (text : List Char) :
    find (bytes text) = .ok ((split? text).map TokenSplit.byteRange) := by
  simpa [find, TokenSplit.shift] using findFrom_bytes [] text

theorem byteRange_eq_some_iff {start stop : Nat} :
    (split? text).map TokenSplit.byteRange = some (start, stop) ↔
      (∃ token, slice text start stop = .ok token ∧ IsToken token) ∧
        ∀ start' stop' token, slice text start' stop' = .ok token → IsToken token →
          start ≤ start' := by
  constructor
  · intro h
    obtain ⟨r, hr, hrange⟩ := Option.map_eq_some_iff.1 h
    obtain ⟨rfl, rfl⟩ := Prod.mk.inj hrange
    obtain ⟨he, ht, -⟩ := split?_sound hr
    refine ⟨⟨r.token, ?_, ht⟩, fun start' stop' token hs ht' => ?_⟩
    · rw [he]
      exact slice_append r.before r.token r.after
    · obtain ⟨before, after, he', rfl, -⟩ := slice_eq_ok_iff.1 hs
      obtain ⟨r', hr', hle⟩ := exists_split?_of_token ht' he'
      obtain rfl : r = r' := Option.some.inj (hr.symm.trans hr')
      obtain ⟨u, rfl⟩ : r.before <+: before :=
        List.prefix_of_prefix_length_le ⟨_, he.symm⟩ ⟨_, he'.symm⟩ hle
      simp
  · rintro ⟨⟨token, hs, ht⟩, hmin⟩
    obtain ⟨before, after, he, rfl, rfl⟩ := slice_eq_ok_iff.1 hs
    obtain ⟨r, hr, hle⟩ := exists_split?_of_token ht he
    obtain ⟨he', ht', -⟩ := split?_sound hr
    have hfirst : byteSize before ≤ byteSize r.before :=
      hmin _ _ r.token (by rw [he']; exact slice_append r.before r.token r.after) ht'
    obtain ⟨u, hu⟩ : r.before <+: before :=
      List.prefix_of_prefix_length_le ⟨_, he'.symm⟩ ⟨_, he.symm⟩ hle
    -- nothing fits between the start that is found and the one that is given
    obtain rfl : u = [] := by
      by_contra hne
      have := byteSize_pos_of_ne_nil hne
      rw [← hu, byteSize_append] at hfirst
      omega
    rw [List.append_nil] at hu
    rw [← hu, he', List.append_cancel_left_eq] at he
    rw [hr, Option.map_some, TokenSplit.byteRange, hu, ht'.eq_of_append_eq ht he]

theorem split?_eq_none_iff : split? text = none ↔ ∀ part, part <:+: text → ¬IsToken part := by
  constructor
  · rintro h part ⟨before, after, rfl⟩ ht
    obtain ⟨r, hr, -⟩ := exists_split?_of_token ht (List.append_assoc before part after)
    rw [h] at hr
    simp at hr
  · intro h
    cases hr : split? text with
    | none => rfl
    | some r =>
      obtain ⟨he, ht, -⟩ := split?_sound hr
      exact absurd ht (h r.token ⟨r.before, r.after, by rw [he, List.append_assoc]⟩)

/-- The search finds no token exactly if no part of the text is one. The offsets that it finds are
those of a token before which no other one starts, and it finds the offsets of each such token. It
finds the same over the bytes of the text. A pattern has the shape of a token exactly if all of it
is a token. -/
theorem split?_leftmost (text : List Char) :
    ((split? text).map TokenSplit.byteRange = none ↔ ∀ part, part <:+: text → ¬IsToken part) ∧
    (∀ start stop, (split? text).map TokenSplit.byteRange = some (start, stop) ↔
      (∃ token, slice text start stop = .ok token ∧ IsToken token) ∧
        ∀ start' stop' token, slice text start' stop' = .ok token → IsToken token →
          start ≤ start') ∧
    find (bytes text) = .ok ((split? text).map TokenSplit.byteRange) ∧
    (isShaped text = true ↔ IsToken text) := by
  refine ⟨?_, fun start stop => byteRange_eq_some_iff, find_bytes text, isShaped_iff⟩
  rw [Option.map_eq_none_iff, split?_eq_none_iff]

/-- A start that fails at a parenthesis, behind characters of several bytes. -/
theorem split?_leftmost_failed_start :
    (split? "é!€(=gt=1==".toList).map TokenSplit.byteRange = some (7, 11) ∧
    (∃ token, slice "é!€(=gt=1==".toList 7 11 = .ok token ∧ IsToken token) ∧
    (∀ start stop token, slice "é!€(=gt=1==".toList start stop = .ok token → IsToken token →
      7 ≤ start) ∧
    slice "é!€(=gt=1==".toList 12 14 = .ok "==".toList ∧ IsToken "==".toList ∧ 7 ≤ 12 := by
  obtain ⟨-, hrange, -, -⟩ := split?_leftmost "é!€(=gt=1==".toList
  have hsplit : split? "é!€(=gt=1==".toList =
      some ⟨"é!€(".toList, "=gt=".toList, "1==".toList⟩ := by cbv
  have hfound : (split? "é!€(=gt=1==".toList).map TokenSplit.byteRange = some (7, 11) := by
    rw [hsplit]
    rfl
  obtain ⟨htoken, hfirst⟩ := (hrange 7 11).1 hfound
  have hlater : slice "é!€(=gt=1==".toList 12 14 = .ok "==".toList := rfl
  have heq : IsToken "==".toList := ⟨'=', [], rfl, rfl, rfl⟩
  exact ⟨hfound, htoken, hfirst, hlater, heq, hfirst 12 14 _ hlater heq⟩

end Token

end FilterQuery
