import FilterQuery.Proofs.Runs
import FilterQuery.Proofs.TomlString
import FilterQuery.Toml.ValueReader
import Mathlib.Data.List.Basic
import Mathlib.Data.List.TakeWhile

/-!
# Values are read as they were written

Strings, numbers and arrays of strings, followed by a character that can stand right after a value,
are read as what they were written for (`Value.Spells`).

A number is the word of its digits: no other kind of value is a word of digits only, and its first
digit is a zero only if it is the only one. In an array, every element is followed by a comma or a
bracket, and the reader has a step for each.
-/

namespace FilterQuery

namespace Toml

variable {text rest : List Char}

/-! ### Numbers -/

theorem ne_of_isDigit {c d : Char} (hc : c.isDigit = true) (hd : d.isDigit = false) : c ≠ d := by
  rintro rfl
  simp [hc] at hd

theorem Writer.isDigit_of_mem_number {c : Char} {n : Nat} (h : c ∈ number n) : c.isDigit = true :=
  Nat.isDigit_of_mem_toDigits (by omega) (by omega) h

theorem Writer.number_eq_cons (n : Nat) :
    ∃ c digits, number n = c :: digits ∧ ∀ d, d.isDigit = false → c ≠ d := by
  cases hn : number n with
  | nil => exact absurd hn Nat.toDigits_ne_nil
  | cons c digits =>
    have hc : c.isDigit = true := isDigit_of_mem_number (n := n) (by simp [hn])
    exact ⟨c, digits, rfl, fun d hd => ne_of_isDigit hc hd⟩

namespace Number

theorem isDigitIn_ten {c : Char} (h : c.isDigit = true) : isDigitIn 10 c = true := by
  have hle : c.toNat ≤ '9'.toNat := by
    simp only [Char.isDigit, ge_iff_le, Bool.and_eq_true, decide_eq_true_eq] at h
    exact h.2
  have hlt : c.toNat - '0'.toNat < 10 := by
    have h9 : '9'.toNat = 57 := rfl
    have h0 : '0'.toNat = 48 := rfl
    omega
  rw [isDigitIn, Hex.value?_of_isDigit h, Option.any_some, decide_eq_true_eq]
  exact hlt

theorem digits?_of_all {isDigit : Char → Bool} (h : ∀ c ∈ text, isDigit c = true)
    (hu : '_' ∉ text) (hne : text ≠ []) : digits? isDigit text = some text := by
  fun_induction digits? isDigit text with
  | case1 => exact absurd rfl hne
  | case2 c hc => rfl
  | case3 c hc => exact absurd (h c (by simp)) hc
  | case4 c d text hc _ ih =>
    have hd : d ≠ '_' := fun hd => hu (by simp [hd])
    have hdigits := ih (fun x hx => h x (List.mem_cons_of_mem c hx))
      (fun hx => hu (List.mem_cons_of_mem c hx)) (by simp)
    rw [if_neg hd, hdigits]
    rfl
  | case5 c d text hc => exact absurd (h c (by simp)) hc

theorem ofDigits_of_isDigit (h : ∀ c ∈ text, c.isDigit = true) :
    Hex.ofDigits 10 text = Nat.ofDigitChars 10 text 0 := by
  rw [Hex.ofDigits, Nat.ofDigitChars_eq_foldl]
  refine List.foldl_ext _ _ _ fun n c hc => ?_
  rw [Hex.value?_of_isDigit (h c hc)]
  rfl

theorem toDigits_eq_zero_cons {n : Nat} (h : Nat.toDigits 10 n = '0' :: text) : text = [] := by
  induction n using Nat.strongRecOn generalizing text with
  | _ n ih =>
    by_cases hn : n < 10
    · rw [Nat.toDigits_of_lt_base hn] at h
      exact (List.cons.inj h).2.symm
    · rw [Nat.toDigits_of_base_le (by omega) (by omega)] at h
      cases hq : Nat.toDigits 10 (n / 10) with
      | nil => exact absurd hq Nat.toDigits_ne_nil
      | cons c digits =>
        rw [hq, List.cons_append] at h
        obtain ⟨rfl, -⟩ := List.cons.inj h
        have hnil : digits = [] := ih (n / 10) (by omega) hq
        subst hnil
        have hzero : n / 10 = 0 := by
          rw [← Nat.ofDigitChars_ten_toDigits (n := n / 10), hq]
          rfl
        omega

theorem decimalDigits?_number (n : Nat) :
    decimalDigits? (Writer.number n) = some (Writer.number n) := by
  have hdigits : digits? (isDigitIn 10) (Writer.number n) = some (Writer.number n) := by
    refine digits?_of_all (fun c hc => isDigitIn_ten ?_) Nat.underscore_not_in_toDigits
      Nat.toDigits_ne_nil
    exact Writer.isDigit_of_mem_number hc
  unfold decimalDigits?
  split
  · rename_i heq
    rw [← hdigits, heq]
  · rename_i hne heq
    rw [hdigits, Option.some.injEq] at heq
    exact absurd (toDigits_eq_zero_cons heq) hne
  · exact hdigits

theorem sign_number (n : Nat) : sign (Writer.number n) = (false, Writer.number n) := by
  obtain ⟨c, digits, hn, hc⟩ := Writer.number_eq_cons n
  rw [hn]
  unfold sign
  split
  · rename_i h
    exact absurd (List.cons.inj h).1 (hc '-' rfl)
  · rename_i h
    exact absurd (List.cons.inj h).1 (hc '+' rfl)
  · rfl

theorem integer?_number (n : Nat) : integer? (Writer.number n) = some (n : Int) := by
  have hmark : ∀ c d tail, Writer.number n = c :: d :: tail → d.isDigit = true :=
    fun c d tail h => Writer.isDigit_of_mem_number (n := n) (by simp [h])
  have hvalue : Hex.ofDigits 10 (Writer.number n) = n := by
    rw [ofDigits_of_isDigit fun c hc => Writer.isDigit_of_mem_number hc]
    exact Nat.ofDigitChars_ten_toDigits
  unfold integer?
  split
  · rename_i h
    exact absurd (hmark _ _ _ h) (by decide)
  · rename_i h
    exact absurd (hmark _ _ _ h) (by decide)
  · rename_i h
    exact absurd (hmark _ _ _ h) (by decide)
  · rw [sign_number]
    simp only [decimalDigits?_number, Option.map_some, signed, hvalue]
    rfl

end Number

namespace Moment

theorem after?_of_isDigit {c : Char} (h : ∀ d ∈ text, d.isDigit = true) (hc : c.isDigit = false) :
    after? c text = none := by
  cases text with
  | nil => rfl
  | cons d text =>
    exact if_neg (ne_of_isDigit (h d List.mem_cons_self) hc)

theorem after?_of_number? {c : Char} {count n : Nat} (h : ∀ d ∈ text, d.isDigit = true)
    (hc : c.isDigit = false) (hn : number? count text = some (n, rest)) : after? c rest = none := by
  dsimp only [number?] at hn
  split_ifs at hn
  obtain ⟨-, rfl⟩ := Prod.mk.inj (Option.some.inj hn)
  exact after?_of_isDigit (fun d hd => h d (List.mem_of_mem_drop hd)) hc

theorem isMoment_of_isDigit (h : ∀ d ∈ text, d.isDigit = true) : isMoment text = false := by
  have hdate : date? text = none := by
    unfold date?
    cases hn : number? 4 text with
    | none => rfl
    | some p =>
      have hdash : after? '-' p.2 = none := after?_of_number? h rfl hn
      simp [hdash]
  have htime : time? text = none := by
    unfold time? clock?
    cases hn : number? 2 text with
    | none => rfl
    | some p =>
      have hcolon : after? ':' p.2 = none := after?_of_number? h rfl hn
      simp [hcolon]
  simp [isMoment, hdate, htime]

end Moment

/-! ### Values -/

/-- A text that starts with a character that can stand right after a value. -/
def EndsValue (text : List Char) : Prop :=
  ∃ c tail, text = c :: tail ∧ (c = '\n' ∨ c = ',' ∨ c = ']')

namespace Value

theorem isBare_of_isDigit {c : Char} (h : c.isDigit = true) : isBare c = true := by
  by_contra hb
  simp only [isBare, isSpace, Bool.not_eq_true, Bool.not_eq_false', Bool.or_eq_true,
    beq_iff_eq] at hb
  rcases hb with ((((((((((rfl | rfl) | rfl) | rfl) | rfl) | rfl) | rfl) | rfl) | rfl) | rfl) | rfl)
  all_goals simp at h

theorem word_of_isDigit (h : ∀ c ∈ text, c.isDigit = true) (hr : EndsValue rest) :
    word (text ++ rest) = (text, rest) := by
  obtain ⟨c, tail, rfl, hc⟩ := hr
  have hbare : ∀ d ∈ text, isBare d = true := fun d hd => isBare_of_isDigit (h d hd)
  have hend : Next (isBare · = false) (c :: tail) :=
    Next.cons (by rcases hc with rfl | rfl | rfl <;> rfl)
  unfold word
  rw [takeWhile_run hbare hend, dropWhile_run hbare hend]
  rcases hc with rfl | rfl | rfl <;> rfl

theorem readNested?_eq_readSimple? {c : Char} (levels : Nat) (hb : c ≠ '[') (hc : c ≠ '\x7b') :
    readNested? levels (c :: text) = readSimple? (c :: text) := by
  unfold readNested?
  split
  · rename_i heq
    exact absurd (List.cons.inj heq).1 hb
  · rename_i heq
    exact absurd (List.cons.inj heq).1 hc
  · rfl

theorem ofWord?_number (n : Nat) : ofWord? (Writer.number n) = some (.integer n) := by
  obtain ⟨c, digits, hn, hc⟩ := Writer.number_eq_cons n
  have hword : ∀ first tail, first.isDigit = false → Writer.number n ≠ first :: tail := by
    intro first tail hf h
    rw [hn] at h
    exact hc first hf (List.cons.inj h).1
  have hmoment : Moment.isMoment (Writer.number n) = false :=
    Moment.isMoment_of_isDigit fun c hc => Writer.isDigit_of_mem_number hc
  rw [ofWord?, if_neg (hword 't' _ rfl), if_neg (hword 'f' _ rfl), hmoment, if_neg (by simp),
    Number.integer?_number]

theorem readNested?_number (levels n : Nat) (hr : EndsValue rest) :
    readNested? levels (Writer.number n ++ rest) = some (.integer n, rest) := by
  obtain ⟨c, digits, hn, hc⟩ := Writer.number_eq_cons n
  have hsplit : word (Writer.number n ++ rest) = (Writer.number n, rest) :=
    word_of_isDigit (fun c hc => Writer.isDigit_of_mem_number hc) hr
  have hstring : Text.read? (Writer.number n ++ rest) = none := by
    rw [hn]
    exact Text.read?_eq_none (hc '"' rfl) (hc Text.apostrophe rfl)
  have hsimple : readNested? levels (Writer.number n ++ rest) =
      readSimple? (Writer.number n ++ rest) := by
    rw [hn]
    exact readNested?_eq_readSimple? levels (hc '[' rfl) (hc '\x7b' rfl)
  rw [hsimple, readSimple?, hstring, hsplit, ofWord?_number]
  rfl

theorem readNested?_string (levels : Nat) (text : List Char) (hr : EndsValue rest) :
    readNested? levels (Writer.string text ++ rest) =
      some (.string (String.ofList text), rest) := by
  have hread : Text.read? (Writer.string text ++ rest) = some (text, rest) := by
    obtain ⟨c, tail, rfl, hc⟩ := hr
    apply Text.read?_string
    · rcases hc with rfl | rfl | rfl <;> simp
    · rcases hc with rfl | rfl | rfl <;> simp [Text.apostrophe]
  obtain ⟨c, tail, hs, hc⟩ := Text.string_eq_cons text
  rw [hs] at hread ⊢
  rw [List.cons_append, readNested?_eq_readSimple?, readSimple?, ← List.cons_append, hread]
  · rcases hc with rfl | rfl <;> decide
  · rcases hc with rfl | rfl <;> decide

/-! ### Arrays -/

theorem skipGap_newline : skipGap ('\n' :: text) = skipGap text := by
  simp [skipGap, skipGapFrom, isLineEnd]

theorem skipGap_space : skipGap (' ' :: text) = skipGap text := by
  simp [skipGap, skipGapFrom, isLineEnd, isSpace]

theorem skipGap_bracket : skipGap (']' :: text) = ']' :: text := by
  simp [skipGap, skipGapFrom, isLineEnd, isSpace]

theorem skipGap_comma : skipGap (',' :: text) = ',' :: text := by
  simp [skipGap, skipGapFrom, isLineEnd, isSpace]

theorem skipGap_string (content : List Char) :
    skipGap (Writer.string content ++ text) = Writer.string content ++ text := by
  obtain ⟨c, tail, hs, hc⟩ := Text.string_eq_cons content
  rw [hs]
  rcases hc with rfl | rfl <;> simp [skipGap, skipGapFrom, isLineEnd, isSpace, Text.apostrophe]

theorem readElements?_last {item : List Char → Option (Value × List Char)} {steps : Nat}
    (h : skipGap text = ']' :: rest) : readElements? item steps text = some ([], rest) := by
  rw [readElements?.eq_def, h]
  cases steps <;> rfl

theorem readElements?_string {item : List Char → Option (Value × List Char)} {steps : Nat}
    {content : List Char} (h : skipGap text = Writer.string content ++ rest) :
    readElements? item (steps + 1) text = (do
      let (v, rest) ← item (Writer.string content ++ rest)
      match skipGap rest with
      | ',' :: rest =>
        let (vs, rest) ← readElements? item steps rest
        return (v :: vs, rest)
      | ']' :: rest => return ([v], rest)
      | _ => none) := by
  obtain ⟨c, tail, hs, hc⟩ := Text.string_eq_cons content
  rw [readElements?.eq_def, h, hs]
  rcases hc with rfl | rfl <;> rfl

/-- A string on a line of its own in an array. -/
def elementLine (content : List Char) : List Char :=
  [' ', ' ', ' ', ' '] ++ Writer.string content ++ [',', '\n']

theorem skipGap_elementLine (content : List Char) :
    skipGap (elementLine content ++ text) = Writer.string content ++ ',' :: '\n' :: text := by
  have hline : elementLine content ++ text =
      ' ' :: ' ' :: ' ' :: ' ' :: (Writer.string content ++ ',' :: '\n' :: text) := by
    simp [elementLine]
  rw [hline, skipGap_space, skipGap_space, skipGap_space, skipGap_space, skipGap_string]

theorem readElements?_lines {levels steps : Nat} {texts : List (List Char)}
    (h : texts.length ≤ steps) :
    readElements? (readNested? levels) steps
        ('\n' :: (texts.flatMap elementLine ++ ']' :: rest)) =
      some (texts.map fun t => .string (String.ofList t), rest) := by
  induction texts generalizing steps with
  | nil => exact readElements?_last (by simp [skipGap_newline, skipGap_bracket])
  | cons t texts ih =>
    cases steps with
    | zero => simp at h
    | succ steps =>
      have hrest := ih (Nat.le_of_succ_le_succ h)
      have hgap : skipGap ('\n' :: ((t :: texts).flatMap elementLine ++ ']' :: rest)) =
          Writer.string t ++ ',' :: '\n' :: (texts.flatMap elementLine ++ ']' :: rest) := by
        rw [skipGap_newline, List.flatMap_cons, List.append_assoc, skipGap_elementLine]
      rw [readElements?_string hgap, readNested?_string levels t ⟨',', _, rfl, by simp⟩]
      simp [skipGap_comma, hrest]

theorem length_le_length_flatMap_elementLine (texts : List (List Char)) :
    texts.length ≤ (texts.flatMap elementLine).length := by
  induction texts with
  | nil => simp
  | cons t texts ih =>
    have hpos : 0 < (elementLine t).length := by simp [elementLine]
    rw [List.flatMap_cons, List.length_append, List.length_cons]
    omega

theorem readNested?_bracket (levels : Nat) :
    readNested? (levels + 1) ('[' :: text) =
      (readElements? (readNested? levels) text.length text).map fun p => (.array p.1, p.2) := by
  rw [readNested?]
  cases readElements? (readNested? levels) text.length text <;> rfl

theorem readNested?_array (levels : Nat) (texts : List (List Char)) :
    readNested? (levels + 1) (Writer.array (texts.map Writer.string) ++ rest) =
      some (.array (texts.map fun t => .string (String.ofList t)), rest) := by
  rcases texts with _ | ⟨t, _ | ⟨u, texts⟩⟩
  · have hread : readElements? (readNested? levels) (']' :: rest).length (']' :: rest) =
        some ([], rest) := readElements?_last skipGap_bracket
    show readNested? (levels + 1) ('[' :: ']' :: rest) = _
    rw [readNested?_bracket, hread]
    rfl
  · have hread : readElements? (readNested? levels) (Writer.string t ++ ']' :: rest).length
        (Writer.string t ++ ']' :: rest) = some ([.string (String.ofList t)], rest) := by
      rw [List.length_append, List.length_cons, ← Nat.add_assoc,
        readElements?_string (skipGap_string t), readNested?_string levels t ⟨']', _, rfl, by simp⟩]
      simp [skipGap_bracket]
    show readNested? (levels + 1) ('[' :: (Writer.string t ++ [']'] ++ rest)) = _
    rw [readNested?_bracket, List.append_assoc, List.singleton_append, hread]
    rfl
  · have hlength : (t :: u :: texts).length ≤
        ('\n' :: ((t :: u :: texts).flatMap elementLine ++ ']' :: rest)).length := by
      refine (length_le_length_flatMap_elementLine (t :: u :: texts)).trans ?_
      rw [List.length_cons, List.length_append]
      omega
    have hlines : ((t :: u :: texts).map Writer.string).flatMap
        (fun e => "    ".toList ++ e ++ [',', '\n']) = (t :: u :: texts).flatMap elementLine := by
      have hspaces : "    ".toList = [' ', ' ', ' ', ' '] := by simp
      rw [hspaces]
      exact List.flatMap_map ..
    have hbody : Writer.array ((t :: u :: texts).map Writer.string) ++ rest =
        '[' :: '\n' :: ((t :: u :: texts).flatMap elementLine ++ ']' :: rest) := by
      rw [← hlines]
      simp [Writer.array]
    rw [hbody, readNested?_bracket, readElements?_lines hlength]
    rfl

/-- A text that says a value, whatever ends it. -/
structure Spells (written : List Char) (v : Value) : Prop where
  start : ∃ c tail, written = c :: tail ∧ isSpace c = false
  read : ∀ rest, EndsValue rest → read? (written ++ rest) = some (v, rest)

theorem Spells.string (text : List Char) :
    Spells (Writer.string text) (.string (String.ofList text)) := by
  refine ⟨?_, fun rest hr => readNested?_string maxLevels text hr⟩
  obtain ⟨c, tail, hs, hc⟩ := Text.string_eq_cons text
  refine ⟨c, tail, hs, ?_⟩
  rcases hc with rfl | rfl <;> decide

theorem Spells.number (n : Nat) : Spells (Writer.number n) (.integer n) := by
  refine ⟨?_, fun rest hr => readNested?_number maxLevels n hr⟩
  obtain ⟨c, digits, hn, hc⟩ := Writer.number_eq_cons n
  exact ⟨c, digits, hn, by simp [isSpace, hc ' ' rfl, hc '\t' rfl]⟩

theorem Spells.array (texts : List (List Char)) :
    Spells (Writer.array (texts.map Writer.string))
      (.array (texts.map fun t => .string (String.ofList t))) := by
  refine ⟨?_, fun rest _ => readNested?_array _ texts⟩
  rcases texts with _ | ⟨t, _ | ⟨u, texts⟩⟩
  all_goals exact ⟨'[', _, rfl, by decide⟩

end Value

end Toml

end FilterQuery
