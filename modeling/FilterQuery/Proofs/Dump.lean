import FilterQuery.Proofs.Rendering
import FilterQuery.Proofs.Runs
import FilterQuery.Proofs.TokenSearch

/-!
# Conditions are told apart by their dumps

If the operators of two conditions are tokens, the conditions have the same dump only if they are
the same (`Condition.eq_of_dump_eq`).

Each part of a dump shows where it ends, whatever is written after it: a character between quotes
(`Quoted.IsPiece.unique`), a quoted text (`Quoted.quote_append_inj`), an operator
(`IsToken.eq_of_append_eq`), the line of a comparison (`Condition.dumpComparison_append_inj`).
Nothing closes a conjunction or disjunction. Its parts end where the indentation is not that of a
part, so the dump of a condition is cut off where a line follows that is not `Indented` deeper.
-/

namespace FilterQuery

/-! ### Quoted texts -/

theorem Hex.lower_append_inj {m n : Nat} {rest rest' : List Char}
    (h : lower m ++ '\x7d' :: rest = lower n ++ '\x7d' :: rest') :
    m = n ∧ rest = rest' := by
  obtain ⟨hd, hr⟩ := run_unique (fun c => isSome_value?_of_mem_lower)
    (fun c => isSome_value?_of_mem_lower) (Next.cons rfl) (Next.cons rfl) h
  exact ⟨by rw [← ofDigits_lower m, hd, ofDigits_lower], (List.cons.inj hr).2⟩

namespace Quoted

/-- The character that a letter stands for after a backslash. -/
def ofLetter? (letter : Char) : Option Char :=
  if letter = '0' then some '\x00'
  else if letter = 't' then some '\t'
  else if letter = 'r' then some '\r'
  else if letter = 'n' then some '\n'
  else if letter = '\\' then some '\\'
  else if letter = '"' then some '"'
  else none

/-- A text stands for a character between quotes. -/
inductive IsPiece : List Char → Char → Prop
  | plain {c : Char} (hb : c ≠ '\\') (hq : c ≠ '"') : IsPiece [c] c
  | short {letter c : Char} (h : ofLetter? letter = some c) : IsPiece ['\\', letter] c
  | code (c : Char) : IsPiece (codePoint c) c

variable {text text' rest rest' s t : List Char} {c c' : Char}

theorem codePoint_append (c : Char) (rest : List Char) :
    codePoint c ++ rest = '\\' :: 'u' :: '\x7b' :: (Hex.lower c.toNat ++ '\x7d' :: rest) := by
  simp [codePoint]

theorem isPiece_quoteChar (c : Char) : IsPiece (quoteChar c) c := by
  unfold quoteChar
  split_ifs with hzero htab hreturn hnewline hb hq
  · exact .short (by rw [hzero]; rfl)
  · exact .short (by rw [htab]; rfl)
  · exact .short (by rw [hreturn]; rfl)
  · exact .short (by rw [hnewline]; rfl)
  · exact .short (by rw [hb]; rfl)
  · exact .short (by rw [hq]; rfl)
  · exact .code c
  · exact .plain hb hq

theorem IsPiece.ne_quote (h : IsPiece text c) : text ++ rest ≠ '"' :: rest' := by
  cases h with
  | plain hb hq => exact fun he => hq (List.cons.inj he).1
  | short h => simp
  | code => simp [codePoint]

theorem IsPiece.unique (h : IsPiece text c) (h' : IsPiece text' c')
    (he : text ++ rest = text' ++ rest') : c = c' ∧ rest = rest' := by
  have hletter {letter d : Char} (h : ofLetter? letter = some d) : letter ≠ 'u' := by
    rintro rfl
    simp [ofLetter?] at h
  cases h with
  | plain hb hq =>
    cases h' with
    | plain => exact List.cons.inj he
    | short => exact absurd (List.cons.inj he).1 hb
    | code => exact absurd (List.cons.inj he).1 hb
  | short h =>
    cases h' with
    | plain hb hq => exact absurd (List.cons.inj he).1.symm hb
    | short h' =>
      obtain ⟨rfl, rfl⟩ := List.cons.inj (List.cons.inj he).2
      exact ⟨Option.some.inj (h.symm.trans h'), rfl⟩
    | code => exact absurd (List.cons.inj (List.cons.inj he).2).1 (hletter h)
  | code =>
    cases h' with
    | plain hb hq => exact absurd (List.cons.inj he).1.symm hb
    | short h' => exact absurd (List.cons.inj (List.cons.inj he).2).1.symm (hletter h')
    | code =>
      simp only [codePoint_append, List.cons.injEq, true_and] at he
      obtain ⟨hc, hr⟩ := Hex.lower_append_inj he
      exact ⟨Char.toNat_inj.1 hc, hr⟩

theorem quote_append (text rest : List Char) :
    quote text ++ rest = '"' :: (text.flatMap quoteChar ++ '"' :: rest) := by
  simp [quote]

/-- A quoted text ends at the first bare quote. -/
theorem flatMap_quoteChar_append_inj
    (h : s.flatMap quoteChar ++ '"' :: rest = t.flatMap quoteChar ++ '"' :: rest') :
    s = t ∧ rest = rest' := by
  induction s generalizing t with
  | nil =>
    cases t with
    | nil => exact ⟨rfl, (List.cons.inj h).2⟩
    | cons d t =>
      rw [List.flatMap_cons, List.append_assoc] at h
      exact absurd h.symm (isPiece_quoteChar d).ne_quote
  | cons c s ih =>
    rw [List.flatMap_cons, List.append_assoc] at h
    cases t with
    | nil => exact absurd h (isPiece_quoteChar c).ne_quote
    | cons d t =>
      rw [List.flatMap_cons, List.append_assoc] at h
      obtain ⟨rfl, hs⟩ := (isPiece_quoteChar c).unique (isPiece_quoteChar d) h
      obtain ⟨rfl, hr⟩ := ih hs
      exact ⟨rfl, hr⟩

theorem quote_append_inj (h : quote s ++ rest = quote t ++ rest') : s = t ∧ rest = rest' := by
  rw [quote_append, quote_append] at h
  exact flatMap_quoteChar_append_inj (List.cons.inj h).2

end Quoted

namespace Condition

variable {x y : Comparison} {c c' : Condition} {children children' : List Condition} {level : Nat}
  {text rest rest' : List Char}

/-! ### Lines -/

theorem dumpComparison_append (x : Comparison) (rest : List Char) :
    dumpComparison x ++ rest = "Comparison(".toList ++ (Quoted.quote x.key.toList ++
      ' ' :: (x.operator.toList ++ ' ' :: (Quoted.quote x.value.toList ++ ')' :: rest))) := by
  -- an equation of `dumpComparison` would be proved by evaluating the text at its start
  delta dumpComparison
  simp only [List.append_assoc, List.cons_append, List.nil_append]

theorem dumpComparison_append_inj (hx : IsToken x.operator.toList) (hy : IsToken y.operator.toList)
    (h : dumpComparison x ++ rest = dumpComparison y ++ rest') : x = y ∧ rest = rest' := by
  rw [dumpComparison_append, dumpComparison_append] at h
  obtain ⟨hkey, hr⟩ := Quoted.quote_append_inj (List.append_cancel_left h)
  have htoken := (List.cons.inj hr).2
  have ho := hx.eq_of_append_eq hy htoken
  rw [ho] at htoken
  obtain ⟨hvalue, hr⟩ := Quoted.quote_append_inj (List.cons.inj (List.append_cancel_left htoken)).2
  refine ⟨?_, (List.cons.inj hr).2⟩
  obtain ⟨key, operator, value⟩ := x
  obtain rfl : key = y.key := String.toList_inj.1 hkey
  obtain rfl : operator = y.operator := String.toList_inj.1 ho
  obtain rfl : value = y.value := String.toList_inj.1 hvalue
  rfl

/-- A text starts with the indentation of a level. -/
def Indented (level : Nat) (text : List Char) : Prop :=
  List.replicate (2 * level) ' ' <+: text

/-- What the dump of a condition starts with, after the indentation. -/
def initial : Condition → Char
  | comparison _ => 'C'
  | all _ => 'A'
  | any _ => 'O'

theorem exists_dumpAt_append (level : Nat) (c : Condition) (rest : List Char) :
    ∃ tail, c.dumpAt level ++ rest = List.replicate (2 * level) ' ' ++ c.initial :: tail := by
  cases c with
  | comparison x =>
    rw [dumpAt, dumpLine, List.append_assoc, List.append_assoc, dumpComparison_append]
    exact ⟨_, rfl⟩
  | all children =>
    rw [dumpAt, dumpLine, List.append_assoc, List.append_assoc, List.append_assoc]
    exact ⟨_, rfl⟩
  | any children =>
    rw [dumpAt, dumpLine, List.append_assoc, List.append_assoc, List.append_assoc]
    exact ⟨_, rfl⟩

theorem initial_ne (c : Condition) : c.initial ≠ ' ' := by
  cases c <;> simp [initial]

theorem indented_dumpAt_append (c : Condition) : Indented level (c.dumpAt level ++ rest) := by
  obtain ⟨tail, h⟩ := exists_dumpAt_append level c rest
  exact ⟨_, h.symm⟩

theorem not_indented_succ (h : ¬Indented level text) : ¬Indented (level + 1) text := by
  refine fun hi => h (List.IsPrefix.trans ⟨[' ', ' '], ?_⟩ hi)
  rw [Nat.mul_succ, List.replicate_add]
  rfl

theorem not_indented_dumpAt_append (c : Condition) :
    ¬Indented (level + 1) (c.dumpAt level ++ rest) := by
  obtain ⟨tail, h⟩ := exists_dumpAt_append level c rest
  rw [Indented, h, Nat.mul_succ, List.replicate_add, List.prefix_append_right_inj]
  rintro ⟨_, hi⟩
  exact c.initial_ne (List.cons.inj hi).1.symm

theorem not_indented_dumpAllAt_append (h : ¬Indented level rest) :
    ¬Indented (level + 1) (dumpAllAt level children ++ rest) := by
  cases children with
  | nil => exact not_indented_succ h
  | cons c children =>
    rw [dumpAllAt, List.append_assoc]
    exact not_indented_dumpAt_append c

/-! ### Trees -/

/-- No other condition has a dump that starts the same text and is cut off there. -/
def DumpDetermines (level : Nat) (c : Condition) : Prop :=
  ∀ ⦃c' rest rest'⦄, (∀ x ∈ c'.comparisons, IsToken x.operator.toList) →
    ¬Indented (level + 1) rest → ¬Indented (level + 1) rest' →
    c.dumpAt level ++ rest = c'.dumpAt level ++ rest' → c = c' ∧ rest = rest'

theorem dumpAllAt_append_inj (hc : ∀ c ∈ children, DumpDetermines level c)
    (hc' : ∀ x ∈ comparisonsOf children', IsToken x.operator.toList)
    (hr : ¬Indented level rest) (hr' : ¬Indented level rest')
    (h : dumpAllAt level children ++ rest = dumpAllAt level children' ++ rest') :
    children = children' ∧ rest = rest' := by
  induction children generalizing children' with
  | nil =>
    cases children' with
    | nil => exact ⟨rfl, h⟩
    | cons c' children' =>
      -- one row ends where the other one goes on: what follows would be indented as a part
      rw [dumpAllAt, dumpAllAt, List.append_assoc, List.nil_append] at h
      exact absurd (h ▸ indented_dumpAt_append c') hr
  | cons c children ih =>
    rw [dumpAllAt, List.append_assoc] at h
    cases children' with
    | nil =>
      rw [dumpAllAt, List.nil_append] at h
      exact absurd (h ▸ indented_dumpAt_append c) hr'
    | cons c' children' =>
      rw [dumpAllAt, List.append_assoc] at h
      rw [comparisonsOf, List.forall_mem_append] at hc'
      obtain ⟨rfl, hs⟩ := hc c (by simp) hc'.1 (not_indented_dumpAllAt_append hr)
        (not_indented_dumpAllAt_append hr') h
      obtain ⟨rfl, hrest⟩ := ih (fun c hmem => hc c (by simp [hmem])) hc'.2 hs
      exact ⟨rfl, hrest⟩

theorem initial_eq (h : c.dumpAt level ++ rest = c'.dumpAt level ++ rest') :
    c.initial = c'.initial := by
  obtain ⟨tail, ht⟩ := exists_dumpAt_append level c rest
  obtain ⟨tail', ht'⟩ := exists_dumpAt_append level c' rest'
  rw [ht, ht'] at h
  exact (List.cons.inj (List.append_cancel_left h)).1

/-- The letter after the indentation tells the kinds of conditions apart. Equal conjunctions or
disjunctions are then a matter of their parts, which are one level deeper. -/
theorem dumpDetermines (hc : ∀ x ∈ c.comparisons, IsToken x.operator.toList) :
    c.DumpDetermines level := by
  induction c generalizing level with
  | comparison x =>
    intro c' rest rest' hc' hr hr' h
    have hi := initial_eq h
    cases c' with
    | comparison y =>
      simp only [dumpAt, dumpLine, List.append_assoc] at h
      obtain ⟨rfl, hrest⟩ := dumpComparison_append_inj (hc x (by simp [comparisons]))
        (hc' y (by simp [comparisons])) (List.append_cancel_left h)
      exact ⟨rfl, List.append_cancel_left hrest⟩
    | all children' => simp [initial] at hi
    | any children' => simp [initial] at hi
  | all children ih =>
    intro c' rest rest' hc' hr hr' h
    have hi := initial_eq h
    cases c' with
    | comparison y => simp [initial] at hi
    | all children' =>
      rw [comparisons] at hc'
      simp only [dumpAt, List.append_assoc] at h
      obtain ⟨rfl, hrest⟩ := dumpAllAt_append_inj
        (fun d hd => ih d hd fun x hx => hc x (mem_comparisons_of_child hd hx)) hc' hr hr'
        (List.append_cancel_left h)
      exact ⟨rfl, hrest⟩
    | any children' => simp [initial] at hi
  | any children ih =>
    intro c' rest rest' hc' hr hr' h
    have hi := initial_eq h
    cases c' with
    | comparison y => simp [initial] at hi
    | all children' => simp [initial] at hi
    | any children' =>
      rw [comparisons] at hc'
      simp only [dumpAt, List.append_assoc] at h
      obtain ⟨rfl, hrest⟩ := dumpAllAt_append_inj
        (fun d hd => ih d hd fun x hx => hc x (mem_comparisons_of_child hd hx)) hc' hr hr'
        (List.append_cancel_left h)
      exact ⟨rfl, hrest⟩

/-- The dump of a condition says what the condition is, whatever its keys and values look like. -/
theorem eq_of_dump_eq
    (hc : ∀ x ∈ c.comparisons, Token.isShaped x.operator.toList = true)
    (hc' : ∀ x ∈ c'.comparisons, Token.isShaped x.operator.toList = true)
    (h : c.dump = c'.dump) : c = c' := by
  have hend : ¬Indented (0 + 1) [] := by simp [Indented]
  have h : c.dumpAt 0 ++ [] = c'.dumpAt 0 ++ [] := by
    rw [List.append_nil, List.append_nil]
    exact String.ofList_injective h
  exact (dumpDetermines (fun x hx => Token.isToken_of_isShaped (hc x hx))
    (fun x hx => Token.isToken_of_isShaped (hc' x hx)) hend hend h).1

/-- A comparison whose key and operator look like ends and beginnings of lines. -/
def lineLike : Comparison :=
  ⟨"a\" == \"b\")\n  Or", "=\" \n=", "\\"⟩

theorem eq_of_dump_eq_lineLike :
    Token.isShaped lineLike.operator.toList = true ∧
    (conj [conj [.comparison lineLike, .any []]]).dump =
      (Condition.all [.comparison lineLike, .any []]).dump ∧
    conj [conj [.comparison lineLike, .any []]] = .all [.comparison lineLike, .any []] := by
  have ho : Token.isShaped lineLike.operator.toList = true := by cbv
  have hall : ∀ x ∈ (Condition.all [.comparison lineLike, .any []]).comparisons,
      Token.isShaped x.operator.toList = true := by
    intro x hx
    rw [List.mem_singleton.1 hx]
    exact ho
  exact ⟨ho, rfl, eq_of_dump_eq hall hall rfl⟩

/-- The end of the line of a comparison from its operator on, and the start of the line of another
one up to its operator. -/
def operatorAcross (x y : Comparison) : String :=
  String.ofList (x.operator.toList ++ ' ' :: (Quoted.quote x.value.toList ++ ")\n  ".toList ++
    "Comparison(".toList ++ Quoted.quote y.key.toList ++ ' ' :: y.operator.toList))

/-- Operators have to be tokens: else two comparisons can have the dump of a single one. -/
theorem dump_operatorAcross (x y : Comparison) :
    (all [.comparison ⟨x.key, operatorAcross x y, y.value⟩]).dump =
      (all [.comparison x, .comparison y]).dump := by
  have hnext : ")\n  ".toList = ')' :: '\n' :: List.replicate (2 * (0 + 1)) ' ' := by decide
  have h (x : Comparison) : dumpComparison x = "Comparison(".toList ++ (Quoted.quote x.key.toList ++
      ' ' :: (x.operator.toList ++ ' ' :: (Quoted.quote x.value.toList ++ [')']))) := by
    rw [← dumpComparison_append, List.append_nil]
  simp only [dump, dumpAt, dumpAllAt, dumpLine, h, operatorAcross, String.toList_ofList, hnext,
    List.append_assoc, List.cons_append, List.nil_append, List.append_nil]

end Condition

end FilterQuery
