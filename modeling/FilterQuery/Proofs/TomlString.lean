import FilterQuery.Toml.Writer
import Mathlib.Tactic.IntervalCases

/-!
# Strings are read as they were written

Whatever the characters of a string, reading what `Writer.string` writes for it gives the string
back, with the text after it (`Text.read?_string`). The text after it may not start with a quote of
either kind: three quotes in a row would open a string of several lines, and up to two quotes right
after three closing ones belong to the string.

Between three double quotes, up to two bare quotes may follow each other, and only what comes next
decides whether they belong to the string or close it. The induction over a written string therefore
carries the bare quotes that stand right before it (`readBasic_escape`).
-/

namespace FilterQuery

namespace Toml

variable {m : Bool} {c quote : Char} {text rest : List Char}

/-! ### Characters that stand for themselves -/

theorem Writer.not_needsEscape_iff :
    needsEscape c = false ↔ isPlain c = true ∨ c = '\n' := by
  have hnewline : c = '\n' ↔ c.toNat = 0x0A := Char.toNat_inj.symm.trans Iff.rfl
  have htab : c = '\t' ↔ c.toNat = 0x09 := Char.toNat_inj.symm.trans Iff.rfl
  simp only [needsEscape, isPlain, Bool.and_eq_false_iff, Bool.or_eq_false_iff, Bool.or_eq_true,
    Bool.and_eq_true, decide_eq_true_eq, decide_eq_false_iff_not, bne_iff_ne, beq_iff_eq,
    beq_eq_false_iff_ne, bne_eq_false_iff_eq, hnewline, htab]
  omega

namespace Text

theorem isContent_of_not_needsEscape (h : Writer.needsEscape c = false) (hm : m = true ∨ c ≠ '\n') :
    isContent m c text = true := by
  rw [Writer.not_needsEscape_iff] at h
  rcases h with h | rfl
  · simp [isContent, h]
  · rcases hm with rfl | hm
    · rfl
    · exact absurd rfl hm

theorem close?_of_ne (h : c ≠ quote) : close? m quote (c :: text) = none := by
  unfold close?
  split_ifs
  · split
    · rename_i heq
      obtain ⟨rfl, -⟩ := List.cons.inj heq
      rw [if_neg fun hc => h hc.1]
    · rfl
  · exact if_neg h

theorem readBasic_cons (hq : c ≠ doubleQuote) (hb : c ≠ '\\') (hc : isContent m c text = true) :
    readBasic m (.content false) (c :: text) = prepend c (readBasic m (.content false) text) := by
  rw [readBasic]
  simp [close?_of_ne hq, hb, hc]

/-! ### Escapes -/

theorem readBasic_backslash :
    readBasic m (.content false) ('\\' :: text) = readBasic m .escape text := by
  have hclose : close? m doubleQuote ('\\' :: text) = none := close?_of_ne (by decide)
  simp [readBasic, hclose]

theorem readBasic_short {letter : Char} (h : shortEscape? letter = some c) :
    readBasic m (.content false) ('\\' :: letter :: text) =
      prepend c (readBasic m (.content false) text) := by
  rw [readBasic_backslash]
  simp [readBasic, h]

theorem readBasic_code (h : c.toNat < 128) :
    readBasic m (.content false) ('\\' :: 'u' :: (Hex.padded 4 (Hex.upper c.toNat) ++ text)) =
      prepend c (readBasic m (.content false) text) := by
  have hu : shortEscape? 'u' = none ∧ codeLength? 'u' = some 4 := ⟨rfl, rfl⟩
  have hzero : Hex.value? '0' = some 0 := rfl
  have hhigh : Hex.value? (Nat.digitChar (c.toNat / 16)).toUpper = some (c.toNat / 16) :=
    Hex.value?_toUpper_digitChar (by omega)
  have hlow : Hex.value? (Nat.digitChar (c.toNat % 16)).toUpper = some (c.toNat % 16) :=
    Hex.value?_toUpper_digitChar (by omega)
  have hcode : ofCode? (16 * (c.toNat / 16) + c.toNat % 16) = some c := by
    have hvalid : c.toNat.isValidChar := c.valid
    rw [Nat.div_add_mod, ofCode?, if_pos hvalid, Char.ofNat_toNat]
  rw [readBasic_backslash, Hex.padded_upper h]
  simp [readBasic, hu, hzero, hhigh, hlow, hcode]

theorem readBasic_escapeChar (hq : c ≠ '"') (text : List Char) :
    readBasic m (.content false) (Writer.escapeChar m c ++ text) =
      prepend c (readBasic m (.content false) text) := by
  unfold Writer.escapeChar
  split_ifs with h₁ h₂ h₃ h₄ hb hn hm he
  · subst h₁; exact readBasic_short rfl
  · subst h₂; exact readBasic_short rfl
  · subst h₃; exact readBasic_short rfl
  · subst h₄; exact readBasic_short rfl
  · subst hb; exact readBasic_short rfl
  · subst hn hm; exact readBasic_cons hq hb rfl
  · subst hn; exact readBasic_short rfl
  · refine readBasic_code ?_
    simp only [Writer.needsEscape, Bool.and_eq_true, Bool.or_eq_true, decide_eq_true_eq,
      beq_iff_eq] at he
    omega
  · exact readBasic_cons hq hb (isContent_of_not_needsEscape (by simpa using he) (.inr hn))

theorem escapeChar_eq_cons (m : Bool) (c : Char) :
    ∃ d tail, Writer.escapeChar m c = d :: tail ∧ (d = '\\' ∨ d = c ∧ c ≠ '\r') := by
  unfold Writer.escapeChar
  split_ifs with _ _ _ hr hb
  all_goals first | exact ⟨_, _, rfl, .inl rfl⟩ | exact ⟨_, _, rfl, .inr ⟨rfl, hr⟩⟩

/-! ### Quotes -/

/-- The quotes that close a string. -/
def closing (m : Bool) (quote : Char) : List Char :=
  if m then [quote, quote, quote] else [quote]

theorem lateQuotes_replicate {n : Nat} (hn : n ≤ 2) (h : rest.head? ≠ some quote) :
    lateQuotes quote (List.replicate n quote ++ rest) = (List.replicate n quote, rest) := by
  have h₀ : lateQuotes quote rest = ([], rest) := by
    rcases rest with _ | ⟨c, _ | ⟨d, rest⟩⟩
    · rfl
    · exact if_neg fun hc => h (congrArg some hc)
    · exact if_neg fun hc => h (congrArg some hc)
  have h₁ : lateQuotes quote (quote :: rest) = ([quote], rest) := by
    cases rest with
    | nil => exact if_pos rfl
    | cons d rest =>
      have hd : d ≠ quote := fun hd => h (congrArg some hd)
      simp [lateQuotes, hd]
  interval_cases n
  · exact h₀
  · exact h₁
  · simp [lateQuotes, List.replicate]

/-- Quotes that belong to a string, right before its closing ones, are read after them. -/
theorem close?_replicate {n : Nat} (hn : n ≤ 2) (hm : m = false → n = 0)
    (h : rest.head? ≠ some quote) :
    close? m quote (List.replicate n quote ++ (closing m quote ++ rest)) =
      some (List.replicate n quote, rest) := by
  cases m with
  | false => simp [hm rfl, close?, closing]
  | true =>
    have hcomm : List.replicate n quote ++ (closing true quote ++ rest) =
        quote :: quote :: quote :: (List.replicate n quote ++ rest) := by
      have hclosing : closing true quote = List.replicate 3 quote := rfl
      rw [hclosing, ← List.append_assoc, List.replicate_append_replicate, Nat.add_comm,
        ← List.replicate_append_replicate, List.append_assoc]
      rfl
    rw [hcomm, close?]
    simp [lateQuotes_replicate hn h]

theorem close?_replicate_cons {n : Nat} (hn : n < 2) (hc : c ≠ quote) :
    close? true quote (quote :: (List.replicate n quote ++ c :: text)) = none := by
  interval_cases n
  · cases text <;> simp [close?, hc]
  · simp [close?, hc]

theorem close?_nil : close? m quote [] = none := by
  cases m <;> rfl

/-! ### Strings with escapes -/

theorem readBasic_of_close? {done : List Char × List Char}
    (h : close? m doubleQuote text = some done) :
    readBasic m (.content false) text = some done := by
  cases text with
  | nil => simp [close?_nil] at h
  | cons c text => simp [readBasic, h]

/-- Up to two quotes before another character belong to a string of several lines. -/
theorem readBasic_replicate {n : Nat} (hn : n ≤ 2) (hm : m = false → n = 0) (hc : c ≠ '"') :
    readBasic m (.content false) (List.replicate n '"' ++ c :: text) =
      (readBasic m (.content false) (c :: text)).map
        fun p => (List.replicate n '"' ++ p.1, p.2) := by
  cases m with
  | false => simp [hm rfl]
  | true =>
    have hstep : ∀ k < 2, readBasic true (.content false)
        ('"' :: (List.replicate k '"' ++ c :: text)) =
          prepend '"' (readBasic true (.content false) (List.replicate k '"' ++ c :: text)) := by
      intro k hk
      have hcontent : isContent true '"' (List.replicate k '"' ++ c :: text) = true := rfl
      rw [readBasic]
      simp [doubleQuote, close?_replicate_cons hk hc, hcontent]
    have h₀ := hstep 0 (by omega)
    have h₁ := hstep 1 (by omega)
    interval_cases n
    · simp
    · simpa [prepend] using h₀
    · simp only [List.replicate, List.cons_append, List.nil_append] at h₀ h₁ ⊢
      rw [h₁, h₀]
      simp [prepend, Function.comp_def]

theorem readBasic_escape {n : Nat} (hn : n ≤ 2) (hm : m = false → n = 0)
    (h : rest.head? ≠ some '"') :
    readBasic m (.content false)
        (List.replicate n '"' ++ (Writer.escape m n text ++ (closing m '"' ++ rest))) =
      some (List.replicate n '"' ++ text, rest) := by
  induction text generalizing n with
  | nil =>
    rw [List.append_nil]
    exact readBasic_of_close? (close?_replicate hn hm h)
  | cons c text ih =>
    have hnext := @ih 0 (by omega) (fun _ => rfl)
    simp only [List.replicate_zero, List.nil_append] at hnext
    by_cases hc : c = '"'
    · subst hc
      by_cases hbare : m = true ∧ n < 2
      · -- a bare quote joins those before it
        obtain ⟨rfl, hlt⟩ := hbare
        have hmore := @ih (n + 1) (by omega) (by simp)
        simpa [Writer.escape, hlt, List.replicate_succ'] using hmore
      · have hescape : Writer.escape m n ('"' :: text) = '\\' :: '"' :: Writer.escape m 0 text := by
          simp only [Writer.escape, Bool.and_eq_true, decide_eq_true_eq, if_neg hbare, if_true]
        rw [hescape, List.cons_append, readBasic_replicate hn hm (by decide), List.cons_append,
          readBasic_short rfl, hnext]
        rfl
    · have hescape : Writer.escape m n (c :: text) =
          Writer.escapeChar m c ++ Writer.escape m 0 text := by
        rw [Writer.escape, if_neg hc]
      obtain ⟨d, tail, hd, hcases⟩ := escapeChar_eq_cons m c
      have hdq : d ≠ '"' := by
        rcases hcases with rfl | ⟨rfl, -⟩
        · decide
        · exact hc
      have hread := readBasic_escapeChar (m := m) hc
        (Writer.escape m 0 text ++ (closing m '"' ++ rest))
      rw [hnext] at hread
      rw [hescape, List.append_assoc]
      rw [hd, List.cons_append] at hread ⊢
      rw [readBasic_replicate hn hm hdq, hread]
      rfl

/-! ### Strings without escapes -/

theorem readLiteral_of_close? {done : List Char × List Char}
    (h : close? m apostrophe text = some done) : readLiteral m text = some done := by
  cases text with
  | nil => simp [close?_nil] at h
  | cons c text => simp [readLiteral, h]

theorem readLiteral_cons (h : close? m apostrophe (c :: text) = none)
    (hc : isContent m c text = true) :
    readLiteral m (c :: text) = prepend c (readLiteral m text) := by
  simp [readLiteral, h, hc]

theorem readLiteral_line (hc : ∀ c ∈ text, isPlain c = true) (ha : apostrophe ∉ text) :
    readLiteral false (text ++ (closing false apostrophe ++ rest)) = some (text, rest) := by
  induction text with
  | nil => exact readLiteral_of_close? (by simp [close?, closing])
  | cons c text ih =>
    simp only [List.mem_cons, not_or, forall_eq_or_imp] at hc ha
    have hne : c ≠ apostrophe := fun he => ha.1 he.symm
    rw [List.cons_append, readLiteral_cons (close?_of_ne hne) (by simp [isContent, hc.1]),
      ih hc.2 ha.2]
    rfl

theorem hasTriple_of_cons (h : Writer.hasTriple quote (c :: text) = false) :
    Writer.hasTriple quote text = false := by
  rcases text with _ | ⟨d, _ | ⟨e, text⟩⟩
  · rfl
  · rfl
  · rw [Writer.hasTriple, Bool.or_eq_false_iff] at h
    exact h.2

/-- Without three quotes in a row, a string of several lines closes at its end or before its last
two quotes. -/
theorem close?_of_not_hasTriple (h : Writer.hasTriple quote (c :: text) = false)
    (hr : rest.head? ≠ some quote) :
    close? true quote (c :: (text ++ (closing true quote ++ rest))) = none ∨
      close? true quote (c :: (text ++ (closing true quote ++ rest))) = some (c :: text, rest) := by
  by_cases hc : c = quote
  · subst hc
    rcases text with _ | ⟨d, _ | ⟨e, text⟩⟩
    · exact .inr (close?_replicate (n := 1) (by omega) (by simp) hr)
    · by_cases hd : d = c
      · subst hd
        exact .inr (close?_replicate (n := 2) (by omega) (by simp) hr)
      · exact .inl (by simp [close?, closing, hd])
    · refine .inl ?_
      rw [Writer.hasTriple, Bool.or_eq_false_iff] at h
      have hde : ¬(d = c ∧ e = c) := by simpa using h.1
      simp [close?, hde]
  · exact .inl (close?_of_ne hc)

theorem readLiteral_lines (hc : ∀ c ∈ text, Writer.needsEscape c = false)
    (ht : Writer.hasTriple apostrophe text = false) (hr : rest.head? ≠ some apostrophe) :
    readLiteral true (text ++ (closing true apostrophe ++ rest)) = some (text, rest) := by
  induction text with
  | nil => exact readLiteral_of_close? (close?_replicate (n := 0) (by omega) (by simp) hr)
  | cons c text ih =>
    rw [List.forall_mem_cons] at hc
    rw [List.cons_append]
    rcases close?_of_not_hasTriple ht hr with hnone | hsome
    · rw [readLiteral_cons hnone (isContent_of_not_needsEscape hc.1 (.inl rfl)),
        ih hc.2 (hasTriple_of_cons ht)]
      rfl
    · exact readLiteral_of_close? hsome

/-! ### Forms of strings -/

theorem read?_eq_readLine? {d e : Char} (h : ¬(d = c ∧ e = c)) :
    read? (c :: d :: e :: text) = readLine? (c :: d :: e :: text) := by
  have hopen : ∀ quote, ¬(c = quote ∧ d = quote ∧ e = quote) := by
    rintro quote ⟨rfl, hd, he⟩
    exact h ⟨hd, he⟩
  rw [read?, if_neg (hopen _), if_neg (hopen _)]

theorem read?_of_ne {d : Char} (h : d ≠ c) :
    read? (c :: d :: text) = readLine? (c :: d :: text) := by
  cases text with
  | nil => rfl
  | cons e text => exact read?_eq_readLine? fun hq => h hq.1

theorem read?_pair (h : rest.head? ≠ some c) :
    read? (c :: c :: rest) = readLine? (c :: c :: rest) := by
  cases rest with
  | nil => rfl
  | cons e rest => exact read?_eq_readLine? fun hq => h (congrArg some hq.2)

theorem readLine?_eq_none (hd : c ≠ '"') (ha : c ≠ apostrophe) : readLine? (c :: text) = none := by
  rw [readLine?, if_neg (show c ≠ doubleQuote from hd), if_neg ha]

theorem read?_eq_none (hd : c ≠ '"') (ha : c ≠ apostrophe) : read? (c :: text) = none := by
  rcases text with _ | ⟨d, _ | ⟨e, text⟩⟩
  · exact readLine?_eq_none hd ha
  · exact readLine?_eq_none hd ha
  · rw [read?, if_neg fun h => hd h.1, if_neg fun h => ha h.1]
    exact readLine?_eq_none hd ha

theorem dropLineEnd_of_ne (hn : c ≠ '\n') (hr : c ≠ '\r') :
    dropLineEnd (c :: text) = c :: text := by
  unfold dropLineEnd
  split
  · rename_i heq
    exact absurd (List.cons.inj heq).1 hn
  · rename_i heq
    exact absurd (List.cons.inj heq).1 hr
  · rfl

theorem dropLineEnd_tripleQuoted {written : List Char}
    (h : '\n' ∉ text → ∃ c tail, written = c :: tail ∧ c ≠ '\n' ∧ c ≠ '\r') :
    dropLineEnd ((if text.contains '\n' then ['\n'] else []) ++ written) = written := by
  split_ifs with hn
  · rfl
  · obtain ⟨c, tail, rfl, hc⟩ := h (by simpa using hn)
    exact dropLineEnd_of_ne hc.1 hc.2

theorem form_eq_literal (h : Writer.form text = .literal) :
    (∀ c ∈ text, isPlain c = true) ∧ apostrophe ∉ text ∧ text ≠ [] := by
  dsimp only [Writer.form] at h
  split_ifs at h with h₁ h₂
  simp only [Bool.and_eq_true, Bool.not_eq_true', List.any_eq_false, Bool.not_eq_true,
    List.contains_eq_mem, decide_eq_false_iff_not] at h₁ h₂
  refine ⟨fun c hc => ?_, h₂.2, ?_⟩
  · rcases Writer.not_needsEscape_iff.1 (h₂.1.1 c hc) with hp | rfl
    · exact hp
    · exact absurd hc h₂.1.2
  · rintro rfl
    simp at h₁

theorem form_eq_multilineLiteral (h : Writer.form text = .multilineLiteral) :
    (∀ c ∈ text, Writer.needsEscape c = false) ∧ Writer.hasTriple apostrophe text = false := by
  dsimp only [Writer.form] at h
  split_ifs at h with h₁ h₂ h₃ h₄
  simpa using h₄

theorem escape_eq_cons (m : Bool) (c : Char) (text : List Char) :
    ∃ d tail, Writer.escape m 0 (c :: text) = d :: tail ∧ (d = '\\' ∨ d = c ∧ c ≠ '\r') ∧
      (m = false → d ≠ '"') := by
  rw [Writer.escape]
  split_ifs with hc hm
  · subst hc
    refine ⟨_, _, rfl, .inr ⟨rfl, by decide⟩, ?_⟩
    rintro rfl
    simp at hm
  · exact ⟨_, _, rfl, .inl rfl, fun _ => by decide⟩
  · obtain ⟨d, tail, hd, hcases⟩ := escapeChar_eq_cons m c
    refine ⟨d, tail ++ Writer.escape m 0 text, by rw [hd]; rfl, hcases, fun _ => ?_⟩
    rcases hcases with rfl | ⟨rfl, -⟩
    · decide
    · exact hc

theorem read?_basic (h : rest.head? ≠ some '"') :
    read? ('"' :: (Writer.escape false 0 text ++ '"' :: rest)) = some (text, rest) := by
  have hread : readLine? ('"' :: (Writer.escape false 0 text ++ '"' :: rest)) =
      readBasic false (.content false) (Writer.escape false 0 text ++ '"' :: rest) := rfl
  have hline : read? ('"' :: (Writer.escape false 0 text ++ '"' :: rest)) =
      readLine? ('"' :: (Writer.escape false 0 text ++ '"' :: rest)) := by
    cases text with
    | nil => exact read?_pair h
    | cons c text =>
      obtain ⟨d, tail, hd, -, hdq⟩ := escape_eq_cons false c text
      rw [hd]
      exact read?_of_ne (hdq rfl)
  rw [hline, hread]
  exact readBasic_escape (m := false) (n := 0) (by omega) (fun _ => rfl) h

theorem read?_literal (hc : ∀ c ∈ text, isPlain c = true) (ha : apostrophe ∉ text)
    (hne : text ≠ []) :
    read? (apostrophe :: (text ++ apostrophe :: rest)) = some (text, rest) := by
  have hread : readLine? (apostrophe :: (text ++ apostrophe :: rest)) =
      readLiteral false (text ++ apostrophe :: rest) := rfl
  have hline : read? (apostrophe :: (text ++ apostrophe :: rest)) =
      readLine? (apostrophe :: (text ++ apostrophe :: rest)) := by
    cases text with
    | nil => exact absurd rfl hne
    | cons c text => exact read?_of_ne fun he => ha (he ▸ List.mem_cons_self)
  rw [hline, hread]
  exact readLiteral_line hc ha

theorem read?_multilineBasic (h : rest.head? ≠ some '"') :
    read? (Writer.tripleQuoted '"' text (Writer.escape true 0 text) ++ rest) =
      some (text, rest) := by
  have hdrop : dropLineEnd ((if text.contains '\n' then ['\n'] else []) ++
      (Writer.escape true 0 text ++ (closing true '"' ++ rest))) =
      Writer.escape true 0 text ++ (closing true '"' ++ rest) := by
    refine dropLineEnd_tripleQuoted fun hn => ?_
    cases text with
    | nil => exact ⟨_, _, rfl, by decide, by decide⟩
    | cons c text =>
      obtain ⟨d, tail, hd, hcases, -⟩ := escape_eq_cons true c text
      rw [hd]
      refine ⟨d, _, rfl, ?_⟩
      rcases hcases with rfl | ⟨rfl, hr⟩
      · decide
      · exact ⟨fun he => hn (he ▸ List.mem_cons_self), hr⟩
  have hread : read? (Writer.tripleQuoted '"' text (Writer.escape true 0 text) ++ rest) =
      readBasic true (.content false) (dropLineEnd ((if text.contains '\n' then ['\n'] else []) ++
        (Writer.escape true 0 text ++ (closing true '"' ++ rest)))) := by
    simp only [Writer.tripleQuoted, List.append_assoc]
    rfl
  rw [hread, hdrop]
  exact readBasic_escape (m := true) (n := 0) (by omega) (fun _ => rfl) h

theorem read?_multilineLiteral (hc : ∀ c ∈ text, Writer.needsEscape c = false)
    (ht : Writer.hasTriple apostrophe text = false) (h : rest.head? ≠ some apostrophe) :
    read? (Writer.tripleQuoted apostrophe text text ++ rest) = some (text, rest) := by
  have hdrop : dropLineEnd ((if text.contains '\n' then ['\n'] else []) ++
      (text ++ (closing true apostrophe ++ rest))) = text ++ (closing true apostrophe ++ rest) := by
    refine dropLineEnd_tripleQuoted fun hn => ?_
    cases text with
    | nil => exact ⟨_, _, rfl, by decide, by decide⟩
    | cons c text =>
      refine ⟨c, _, rfl, fun he => hn (he ▸ List.mem_cons_self), ?_⟩
      rintro rfl
      exact absurd (hc _ List.mem_cons_self) (by decide)
  have hread : read? (Writer.tripleQuoted apostrophe text text ++ rest) =
      readLiteral true (dropLineEnd ((if text.contains '\n' then ['\n'] else []) ++
        (text ++ (closing true apostrophe ++ rest)))) := by
    simp only [Writer.tripleQuoted, List.append_assoc]
    rfl
  rw [hread, hdrop]
  exact readLiteral_lines hc ht h

theorem read?_string (text : List Char) (hd : rest.head? ≠ some '"')
    (ha : rest.head? ≠ some apostrophe) :
    read? (Writer.string text ++ rest) = some (text, rest) := by
  unfold Writer.string
  cases hform : Writer.form text with
  | basic => simpa using read?_basic hd
  | literal =>
    obtain ⟨hplain, hquote, hne⟩ := form_eq_literal hform
    simpa using read?_literal hplain hquote hne
  | multilineBasic => exact read?_multilineBasic hd
  | multilineLiteral =>
    obtain ⟨hplain, htriple⟩ := form_eq_multilineLiteral hform
    exact read?_multilineLiteral hplain htriple ha

theorem string_eq_cons (text : List Char) :
    ∃ c tail, Writer.string text = c :: tail ∧ (c = '"' ∨ c = apostrophe) := by
  unfold Writer.string Writer.tripleQuoted
  cases Writer.form text with
  | basic => exact ⟨_, _, rfl, .inl rfl⟩
  | literal => exact ⟨_, _, rfl, .inr rfl⟩
  | multilineBasic => exact ⟨_, _, rfl, .inl rfl⟩
  | multilineLiteral => exact ⟨_, _, rfl, .inr rfl⟩

end Text

end Toml

end FilterQuery
