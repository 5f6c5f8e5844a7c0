import FilterQuery.Proofs.TokenSearch
import FilterQuery.Query.Parser

/-!
# Reading by byte offsets

The reading functions once more, with every part of a text given by the offsets of its ends: found
by one scan of the text, moved by the size of a separator, reduced by one for a last parenthesis,
and used to cut another text. Each of these steps can go wrong, and a computation `ByOffset` stops
with a `Fault` when one does. None ever does: every function comes to the result of the function of
the same purpose on whole texts (`Gives`), which knows no faults.
-/

namespace FilterQuery

open Nesting Utf8

/-- A computation that may be refused, and that stops with a fault at a wrong offset. -/
abbrev ByOffset := ExceptT QueryError (Except Fault)

namespace ByOffset

/-! ### The functions -/

/-- One scan for the separators of depth zero in what is left of a text: `depth` parentheses are
open, `position` characters and `offset` bytes are read, `opened` is the position of the outermost
open parenthesis, and `found` holds the offsets so far. -/
def separatorsFrom (separator : Char) (whole : List Char) (depth position offset opened : Nat)
    (found : List Nat) : List Char → Except QueryError (List Nat)
  | [] =>
    if 0 < depth then .error (.unbalancedParens (Escape.shown whole) opened) else .ok found
  | c :: text =>
    if c = '(' then
      separatorsFrom separator whole (depth + 1) (position + 1) (offset + c.utf8Size)
        (if depth = 0 then position else opened) found text
    else if c = ')' then
      if depth = 0 then .error (.unbalancedParens (Escape.shown whole) position)
      else
        separatorsFrom separator whole (depth - 1) (position + 1) (offset + c.utf8Size) opened found
          text
    else if c = separator ∧ depth = 0 then
      separatorsFrom separator whole depth (position + 1) (offset + c.utf8Size) opened
        (found ++ [offset]) text
    else separatorsFrom separator whole depth (position + 1) (offset + c.utf8Size) opened found text

/-- The offsets of the separators of depth zero. -/
def separators (separator : Char) (text : List Char) : Except QueryError (List Nat) :=
  separatorsFrom separator text 0 0 0 0 [] text

/-- The trimmed terms of a text from an offset on, up to each of some further offsets. -/
def termsFrom (separator : Char) (text : List Char) (start : Nat) :
    List Nat → ByOffset (List (List Char))
  | [] => return []
  | stop :: stops => do
    let term := trim (← slice text start stop)
    if term.isEmpty then
      throw (.emptyTerm (Escape.shown text) (← slice text 0 start).length)
    else return term :: (← termsFrom separator text (stop + separator.utf8Size) stops)

/-- The trimmed terms between the separators of depth zero. -/
def split (separator : Char) (text : List Char) : ByOffset (List (List Char)) := do
  termsFrom separator text 0 ((← separators separator text) ++ [byteSize text])

/-- The scan behind `close?`, with `depth` parentheses open at an offset. -/
def closeFrom (depth offset : Nat) : List Char → Option Nat
  | [] => none
  | c :: text =>
    if c = '(' then closeFrom (depth + 1) (offset + c.utf8Size) text
    else if c = ')' then
      if depth = 0 then none
      else if depth = 1 then some offset
      else closeFrom (depth - 1) (offset + c.utf8Size) text
    else closeFrom depth (offset + c.utf8Size) text

/-- The offset of the parenthesis that closes the first one of a text. -/
def close? (text : List Char) : Option Nat :=
  closeFrom 0 0 text

/-- The shape of a trimmed term. -/
def shape (term : List Char) : ByOffset TermShape := do
  if term.head? = some '(' then
    match close? term with
    | some close =>
      if close = (← minus (byteSize term) 1) then return .group (← slice term 1 close)
      else throw (.malformedParens (Escape.shown term))
    | none => throw (.unbalancedParens (Escape.shown term) 0)
  else
    let start := ((← Token.find (bytes term)).map Prod.fst).getD (byteSize term)
    let (head, tail) ← cutAt start term
    if head.any isParen then throw (.malformedParens (Escape.shown term))
    else if tail.any isParen then return .listArgument
    else return .plain

/-- A list of values without the one pair of parentheses around all of it, if it has one. -/
def strip (value : List Char) : Except Fault (List Char) :=
  match close? value with
  | some close => do
    if value.head? = some '(' then
      if close = (← minus (byteSize value) 1) then slice value 1 close else return value
    else return value
  | none => return value

/-- Whether a whole text is one operator token. -/
def isShaped (pattern : List Char) : Except Fault Bool := do
  return (← Token.find (bytes pattern)) == some (0, byteSize pattern)

/-- Cuts a comparison term at its first operator token and looks the operator up. -/
def findOperator (operators : List Operator) (term : List Char) : ByOffset OperatorMatch := do
  match ← Token.find (bytes term) with
  | none => throw (.noOperator (Escape.shown term))
  | some (start, stop) =>
    let key := trim (← slice term 0 start)
    let token ← slice term start stop
    let value ← slice term stop (byteSize term)
    if key.isEmpty then throw (.emptyKey (Escape.shown term))
    else if Escape.hasStandIn key then throw (.escapedKey (Escape.shown term))
    else
      match Operator.find? operators (String.ofList token) with
      | none => throw (.unknownOperator (String.ofList token) (Escape.shown term))
      | some operator => return { key, operator, value }

/-- Reads a comparison. -/
def readComparison (p : Parser) (policy : KeyPolicy) (term : List Char) : ByOffset Comparison := do
  let found ← findOperator p.dialect.operators term
  let key := p.transformKey (String.ofList found.key)
  policy.check key
  let value ← if found.operator.isList then liftM (strip found.value) else pure found.value
  return { key, operator := found.operator.pattern, value := String.ofList (Escape.unescape value) }

/-- Reads a term, with `enter` for the text inside a group. -/
def readTerm (p : Parser) (policy : KeyPolicy) (enter : List Char → ByOffset Condition)
    (term : List Char) : ByOffset Condition := do
  match ← shape term with
  | .group inner => enter inner
  | .listArgument | .plain => return .comparison (← readComparison p policy term)

/-- Reads terms that hold together, with `enter` for the text inside a group. -/
def readAlternative (p : Parser) (policy : KeyPolicy) (enter : List Char → ByOffset Condition)
    (text : List Char) : ByOffset Condition := do
  let terms ← split Terms.andSeparator text
  return .conj (← terms.mapM (readTerm p policy enter))

/-- Reads alternatives, with `enter` for the text inside a group. -/
def readLevel (p : Parser) (policy : KeyPolicy) (enter : List Char → ByOffset Condition)
    (text : List Char) : ByOffset Condition := do
  let alternatives ← split Terms.orSeparator text
  return .disj (← alternatives.mapM (readAlternative p policy enter))

/-- Reads an encoded text in which groups may stand `remaining` levels deep. -/
def readNested (p : Parser) (policy : KeyPolicy) (remaining : Nat) :
    List Char → ByOffset Condition :=
  match remaining with
  | 0 => readLevel p policy fun _ => throw (.tooDeep p.maxDepth)
  | remaining + 1 => readLevel p policy (readNested p policy remaining)

/-- Reads a query. -/
def parse (p : Parser) (query : String) (policy : KeyPolicy) : ByOffset Condition :=
  readNested p policy p.maxDepth (Escape.encode query.toList)

/-- Reads a query and writes its condition in the dialect of the parser. -/
def process (p : Parser) (query : String) (policy : KeyPolicy) : ByOffset String := do
  p.dialect.render (← parse p query policy)

/-! ### Computations without a fault -/

variable {α β : Type}

/-- Whether a computation comes to a result, or to a refusal, without a fault. -/
def Gives (x : ByOffset α) (y : Except QueryError α) : Prop :=
  x.run = .ok y

namespace Gives

theorem ok (a : α) : Gives (pure a) (.ok a) := rfl

theorem refused (e : QueryError) : Gives (throw e : ByOffset α) (.error e) := rfl

theorem lift (y : Except QueryError α) : Gives (liftM y : ByOffset α) y := rfl

theorem bind {x : ByOffset α} {y : Except QueryError α} {f : α → ByOffset β}
    {g : α → Except QueryError β} (hx : Gives x y) (hf : ∀ a, Gives (f a) (g a)) :
    Gives (x >>= f) (y >>= g) := by
  rw [Gives, ExceptT.run_bind, hx]
  cases y with
  | error e => rfl
  | ok a => exact hf a

theorem step {x : Except Fault α} {a : α} {f : α → ByOffset β} {y : Except QueryError β}
    (hx : x = .ok a) (hf : Gives (f a) y) : Gives (liftM x >>= f) y := by
  subst hx
  exact hf

theorem mapM {f : α → ByOffset β} {g : α → Except QueryError β} (h : ∀ a, Gives (f a) (g a))
    (as : List α) : Gives (as.mapM f) (as.mapM g) := by
  induction as with
  | nil => exact ok []
  | cons a as ih =>
    rw [List.mapM_cons, List.mapM_cons]
    exact bind (h a) fun b => bind ih fun bs => ok (b :: bs)

end Gives

variable {separator : Char} {text term value before piece current : List Char}

/-! ### Separators -/

theorem separatorsFrom_eq (whole : List Char) (depth position offset opened : Nat)
    (found : List Nat) : separatorsFrom separator whole depth position offset opened found text =
      match unbalancedFrom depth position opened text with
      | some position => .error (.unbalancedParens (Escape.shown whole) position)
      | none => .ok (found ++ offsetsFrom separator depth offset text) := by
  -- all three scans tell an opening, a closing and any other character apart
  induction text generalizing depth position offset opened found with
  | nil => cases depth <;> simp [separatorsFrom, unbalancedFrom, offsetsFrom]
  | cons c text ih =>
    rw [separatorsFrom, unbalancedFrom, offsetsFrom]
    by_cases ho : c = '('
    · subst ho
      have hd : depthAfter depth '(' = depth + 1 := rfl
      have hcut : cuts separator depth '(' = false := by simp [cuts, isParen]
      simp only [if_true, hcut, Bool.false_eq_true, if_false, hd, ih]
    · by_cases hc : c = ')'
      · subst hc
        have hcut : cuts separator depth ')' = false := by simp [cuts, isParen]
        cases depth with
        | zero => simp
        | succ depth =>
          have hd : depthAfter (depth + 1) ')' = depth := rfl
          simp [hcut, hd, ih]
      · have hp : isParen c = false := by simp [isParen, ho, hc]
        have hd : depthAfter depth c = depth := depthAfter_of_not_isParen hp
        have hcut : cuts separator depth c = decide (c = separator ∧ depth = 0) := by
          simp [cuts, hp, Bool.decide_and, beq_eq_decide]
        rw [if_neg ho, if_neg hc, if_neg ho, if_neg hc, hcut, hd]
        simp only [decide_eq_true_eq, ih]
        split
        · cases unbalancedFrom depth (position + 1) opened text <;> simp
        · rfl

/-- One scan finds the separators and checks the parentheses. -/
theorem separators_eq (separator : Char) (text : List Char) :
    separators separator text = Terms.offsets separator text := by
  rw [separators, separatorsFrom_eq, Terms.offsets, Terms.checkBalanced, unbalancedAt?]
  cases unbalancedFrom 0 0 0 text <;> rfl

theorem exists_append_of_mem_offsetsFrom {depth offset o : Nat}
    (h : o ∈ offsetsFrom separator depth offset text) :
    ∃ s t, text = s ++ separator :: t ∧ o = offset + byteSize s := by
  induction text generalizing depth offset with
  | nil => simp [offsetsFrom] at h
  | cons c text ih =>
    have hlater {depth : Nat} (h : o ∈ offsetsFrom separator depth (offset + c.utf8Size) text) :
        ∃ s t, c :: text = s ++ separator :: t ∧ o = offset + byteSize s := by
      obtain ⟨s, t, rfl, rfl⟩ := ih h
      exact ⟨c :: s, t, rfl, by rw [byteSize_cons, Nat.add_assoc]⟩
    rw [offsetsFrom] at h
    split at h
    · next hcut =>
      obtain rfl := eq_of_cuts hcut
      rcases List.mem_cons.1 h with rfl | h
      · exact ⟨[], text, rfl, rfl⟩
      · exact hlater h
    · exact hlater h

theorem isBoundary_of_mem_offsets {offsets : List Nat}
    (h : Terms.offsets separator text = .ok offsets) : ∀ o ∈ offsets, IsBoundary text o := by
  obtain ⟨-, -, h⟩ := bind_eq_ok_iff.1 h
  obtain rfl := Except.ok.inj h
  intro o ho
  obtain ⟨s, t, rfl, rfl⟩ := exists_append_of_mem_offsetsFrom ho
  rw [Nat.zero_add]
  exact isBoundary_byteSize s (separator :: t)

/-! ### Terms -/

/-- One more term: what stands between its offsets is the piece, and what is before is the rest of
the text up to it. -/
theorem gives_termsFrom_cons {after : List Char} {stops : List Nat} {pieces : List (List Char)}
    (ht : text = before ++ (piece ++ after))
    (h : Gives (termsFrom separator text (byteSize before + byteSize piece + separator.utf8Size)
      stops) (Terms.trimPieces text (before.length + piece.length + 1) pieces)) :
    Gives (termsFrom separator text (byteSize before) ((byteSize before + byteSize piece) :: stops))
      (Terms.trimPieces text before.length (piece :: pieces)) := by
  rw [termsFrom, Terms.trimPieces]
  refine .step (slice_eq_ok_iff.2 ⟨before, after, ht, rfl, rfl⟩) ?_
  have hfront : slice text 0 (byteSize before) = .ok before :=
    slice_eq_ok_iff.2 ⟨[], piece ++ after, ht, rfl, Nat.zero_add _⟩
  cases htrim : trim piece with
  | nil => exact .step hfront (.refused _)
  | cons c term => exact .bind h fun terms => .ok ((c :: term) :: terms)

/-- The terms from the start of a piece on, of which `current` is read. -/
theorem gives_termsFrom {rest first : List Char} {more : List (List Char)} {depth : Nat}
    (ht : text = before ++ (current ++ rest))
    (hp : piecesFrom separator depth rest = first :: more) :
    Gives (termsFrom separator text (byteSize before)
        (offsetsFrom separator depth (byteSize before + byteSize current) rest ++ [byteSize text]))
      (Terms.trimPieces text before.length ((current ++ first) :: more)) := by
  induction rest generalizing before current first more depth with
  | nil =>
    rw [piecesFrom] at hp
    obtain ⟨rfl, rfl⟩ := List.cons.inj hp
    have hsize : byteSize text = byteSize before + byteSize current := by simp [ht]
    rw [offsetsFrom, List.nil_append, List.append_nil, hsize]
    exact gives_termsFrom_cons ht (.ok [])
  | cons c rest ih =>
    rw [piecesFrom] at hp
    rw [offsetsFrom]
    split at hp
    · next hcut =>
      obtain ⟨rfl, rfl⟩ := List.cons.inj hp
      obtain ⟨first, more, hp⟩ :=
        List.exists_cons_of_ne_nil (piecesFrom_ne_nil separator depth rest)
      obtain rfl := eq_of_cuts hcut
      rw [if_pos hcut, List.append_nil, List.cons_append]
      refine gives_termsFrom_cons ht ?_
      have ht' : text = (before ++ (current ++ [c])) ++ ([] ++ rest) := by simp [ht]
      have hnext := ih ht' hp
      simpa [hp, Nat.add_assoc] using hnext
    · next hcut =>
      -- the character goes over from the rest of the text to the piece that is being read
      rw [if_neg hcut]
      obtain ⟨first', more', hp'⟩ :=
        List.exists_cons_of_ne_nil (piecesFrom_ne_nil separator (depthAfter depth c) rest)
      rw [hp', consHead] at hp
      obtain ⟨rfl, rfl⟩ := List.cons.inj hp
      have ht' : text = before ++ (current ++ [c] ++ rest) := by simp [ht]
      have hnext := ih ht' hp'
      simpa [Nat.add_assoc] using hnext

theorem gives_split (separator : Char) (text : List Char) :
    Gives (split separator text) (Terms.split separator text) := by
  rw [split, separators_eq, Terms.offsets, Terms.split, pieces]
  cases hb : Terms.checkBalanced text with
  | error e => exact .refused e
  | ok _ =>
    obtain ⟨first, more, hp⟩ := List.exists_cons_of_ne_nil (piecesFrom_ne_nil separator 0 text)
    have ht : text = [] ++ ([] ++ text) := rfl
    have h := gives_termsFrom ht hp
    rw [hp]
    exact h

/-! ### Shapes -/

theorem closeFrom_eq (depth offset : Nat) : closeFrom (depth + 1) offset text =
    (splitAtClose depth text).map fun parts => offset + byteSize parts.1 := by
  induction text generalizing depth offset with
  | nil => rfl
  | cons c text ih =>
    rw [closeFrom, splitAtClose]
    by_cases ho : c = '('
    · subst ho
      have hd : depthAfter depth '(' = depth + 1 := rfl
      simp [hd, ih, Function.comp_def, Nat.add_assoc]
    · by_cases hc : c = ')'
      · subst hc
        cases depth with
        | zero => simp
        | succ depth =>
          have hd : depthAfter (depth + 1) ')' = depth := rfl
          simp [hd, ih, Function.comp_def, Nat.add_assoc]
      · have hd : depthAfter depth c = depth :=
          depthAfter_of_not_isParen (by simp [isParen, ho, hc])
        simp [ho, hc, hd, ih, Function.comp_def, Nat.add_assoc]

theorem close?_open (text : List Char) : close? ('(' :: text) =
    (splitAtClose 0 text).map fun parts => 1 + byteSize parts.1 := by
  have hsize : '('.utf8Size = 1 := by decide
  rw [close?, closeFrom, if_pos rfl, hsize, closeFrom_eq]

/-- Behind the first parenthesis of a text, its last byte is as far as the rest of it is long. -/
theorem minus_open (text : List Char) : minus (byteSize ('(' :: text)) 1 = .ok (byteSize text) := by
  have hsize : byteSize ('(' :: text) = byteSize text + 1 := Nat.add_comm _ _
  rw [hsize, minus_of_le (by omega), Nat.add_sub_cancel]

theorem close_eq_byteSize_iff {inner rest : List Char} :
    1 + byteSize inner = byteSize (inner ++ ')' :: rest) ↔ rest = [] := by
  have hsize : ')'.utf8Size = 1 := by decide
  rw [byteSize_append, byteSize_cons, hsize]
  constructor
  · intro h
    by_contra hne
    have := byteSize_pos_of_ne_nil hne
    omega
  · rintro rfl
    simp [Nat.add_comm]

theorem slice_inner (inner rest : List Char) :
    slice ('(' :: (inner ++ ')' :: rest)) 1 (1 + byteSize inner) = .ok inner :=
  slice_append ['('] inner (')' :: rest)

/-- The search for a token finds the end of the head of a term. -/
theorem getD_find (term : List Char) :
    (((Token.split? term).map TokenSplit.byteRange).map Prod.fst).getD (byteSize term) =
      byteSize (TermShape.head term) := by
  unfold TermShape.head
  cases Token.split? term <;> rfl

theorem gives_shape (term : List Char) : Gives (shape term) (TermShape.of term) := by
  by_cases h : term.head? = some '('
  · obtain ⟨text, rfl⟩ := List.head?_eq_some_iff.1 h
    rw [shape, if_pos h, close?_open, TermShape.of]
    cases hs : splitAtClose 0 text with
    | none => exact .refused _
    | some parts =>
      obtain ⟨inner, rest⟩ := parts
      obtain rfl := eq_of_splitAtClose hs
      refine .step (minus_open _) ?_
      cases rest with
      | nil =>
        rw [if_pos (close_eq_byteSize_iff.2 rfl)]
        exact .step (slice_inner inner []) (.ok _)
      | cons c rest =>
        rw [if_neg (mt close_eq_byteSize_iff.1 (List.cons_ne_nil c rest))]
        exact .refused _
  · rw [shape, if_neg h]
    unfold TermShape.of
    split
    · exact absurd rfl h
    · refine .step (Token.find_bytes term) ?_
      rw [getD_find]
      refine .step (cutAt_eq_ok_iff.2 ⟨TermShape.eq_head_append_tail term, rfl⟩) ?_
      show Gives (if _ then _ else if _ then _ else _) _
      split
      · exact .refused _
      · split <;> exact .ok _

theorem strip_eq (value : List Char) : strip value = .ok (stripListParens value) := by
  by_cases h : value.head? = some '('
  · obtain ⟨text, rfl⟩ := List.head?_eq_some_iff.1 h
    rw [strip, close?_open, stripListParens, enclosed?]
    cases hs : splitAtClose 0 text with
    | none => rfl
    | some parts =>
      obtain ⟨inner, rest⟩ := parts
      obtain rfl := eq_of_splitAtClose hs
      show (if _ then minus _ 1 >>= _ else _) = _
      rw [if_pos h, minus_open]
      show (if 1 + byteSize inner = _ then _ else _) = _
      cases rest with
      | nil =>
        rw [if_pos (close_eq_byteSize_iff.2 rfl)]
        exact slice_inner inner []
      | cons c rest =>
        rw [if_neg (mt close_eq_byteSize_iff.1 (List.cons_ne_nil c rest))]
        rfl
  · have hnone : enclosed? value = none := by
      unfold enclosed?
      split
      · exact absurd rfl h
      · rfl
    rw [strip, stripListParens, hnone]
    cases close? value with
    | none => rfl
    | some close =>
      show (if _ then _ else _) = _
      rw [if_neg h]
      rfl

/-! ### Operators -/

theorem isShaped_eq (pattern : List Char) : isShaped pattern = .ok (Token.isShaped pattern) := by
  rw [isShaped, Token.find_bytes, Token.isShaped]
  show Except.ok (_ == _) = _
  cases hr : Token.split? pattern with
  | none => rfl
  | some r =>
    obtain ⟨before, token, after⟩ := r
    obtain ⟨he, -, -⟩ := Token.split?_sound hr
    obtain rfl : pattern = before ++ (token ++ after) := he
    rw [Option.map_some, TokenSplit.byteRange, byteSize_append, byteSize_append]
    cases before with
    | cons c before =>
      have := byteSize_pos_of_ne_nil (List.cons_ne_nil c before)
      simp only [Except.ok.injEq, beq_eq_false_iff_ne, ne_eq, Option.some.injEq, Prod.mk.injEq]
      omega
    | nil =>
      cases after with
      | nil => simp
      | cons c after =>
        have := byteSize_pos_of_ne_nil (List.cons_ne_nil c after)
        simp only [Except.ok.injEq, beq_eq_false_iff_ne, ne_eq, Option.some.injEq, Prod.mk.injEq]
        omega

theorem gives_findOperator (operators : List Operator) (term : List Char) :
    Gives (findOperator operators term) (OperatorMatch.find operators term) := by
  unfold findOperator OperatorMatch.find
  refine .step (Token.find_bytes term) ?_
  cases hr : Token.split? term with
  | none => exact .refused _
  | some r =>
    obtain ⟨he, -, -⟩ := Token.split?_sound hr
    have hkey : slice term 0 (byteSize r.before) = .ok r.before :=
      slice_eq_ok_iff.2 ⟨[], r.token ++ r.after, he, rfl, Nat.zero_add _⟩
    have htoken : slice term (byteSize r.before) (byteSize r.before + byteSize r.token) =
        .ok r.token := slice_eq_ok_iff.2 ⟨r.before, r.after, he, rfl, rfl⟩
    have hvalue : slice term (byteSize r.before + byteSize r.token) (byteSize term) =
        .ok r.after := by
      rw [slice_eq_ok_iff]
      exact ⟨r.before ++ r.token, [], by simp [← he], byteSize_append _ _, by
        rw [← byteSize_append, List.append_assoc, ← he]⟩
    refine .step hkey (.step htoken (.step hvalue ?_))
    show Gives (if _ then _ else if _ then _ else _) (if _ then _ else if _ then _ else _)
    split
    · exact .refused _
    · split
      · exact .refused _
      · cases Operator.find? operators (String.ofList r.token) with
        | none => exact .refused _
        | some operator => exact .ok _

/-! ### Queries -/

section Queries

variable (p : Parser) (policy : KeyPolicy) {enter : List Char → ByOffset Condition}
  {enter' : List Char → Except QueryError Condition}

theorem gives_readComparison (term : List Char) :
    Gives (readComparison p policy term) (p.readComparison policy term) := by
  refine .bind (gives_findOperator p.dialect.operators term) fun found => ?_
  refine .bind (.lift (policy.check _)) fun _ => ?_
  cases found.operator.isList with
  | false => exact .ok _
  | true => exact .step (strip_eq found.value) (.ok _)

theorem gives_readTerm (h : ∀ inner, Gives (enter inner) (enter' inner)) (term : List Char) :
    Gives (readTerm p policy enter term) (p.readTerm policy enter' term) := by
  refine .bind (gives_shape term) fun shape => ?_
  cases shape with
  | group inner => exact h inner
  | listArgument => exact .bind (gives_readComparison p policy term) fun c => .ok _
  | plain => exact .bind (gives_readComparison p policy term) fun c => .ok _

theorem gives_readLevel (h : ∀ inner, Gives (enter inner) (enter' inner)) (text : List Char) :
    Gives (readLevel p policy enter text) (p.readLevel policy enter' text) := by
  refine .bind (gives_split Terms.orSeparator text) fun alternatives => ?_
  refine .bind (.mapM (fun alternative => ?_) alternatives) fun parts => .ok _
  refine .bind (gives_split Terms.andSeparator alternative) fun terms => ?_
  exact .bind (.mapM (gives_readTerm p policy h) terms) fun parts => .ok _

theorem gives_readNested (remaining : Nat) (text : List Char) :
    Gives (readNested p policy remaining text) (p.readNested policy remaining text) := by
  induction remaining generalizing text with
  | zero => exact gives_readLevel p policy (fun _ => .refused _) text
  | succ remaining ih => exact gives_readLevel p policy ih text

theorem gives_parse (query : String) : Gives (parse p query policy) (p.parse query policy) :=
  gives_readNested p policy p.maxDepth (Escape.encode query.toList)

theorem gives_process (query : String) : Gives (process p query policy) (p.process query policy) :=
  .bind (gives_parse p policy query) fun c => .lift (p.dialect.render c)

end Queries

/-- No function takes a wrong offset, whatever text, separator and query it is given. Separators are
found at boundaries, a token starts at one and ends at one that is not before it, and every part is
cut out between boundaries in their order, so the search for a token, the cut into terms, the shape
of a term, the value of a list, the match of an operator, and with them the reading of a query and
the writing of its condition all come to their result or their refusal. -/
theorem faultless (separator : Char) (text : List Char) (operators : List Operator) (p : Parser)
    (policy : KeyPolicy) (query : String) :
    separators separator text = Terms.offsets separator text ∧
    (∀ offsets, Terms.offsets separator text = .ok offsets → ∀ o ∈ offsets, IsBoundary text o) ∧
    (split separator text).run = .ok (Terms.split separator text) ∧
    (shape text).run = .ok (TermShape.of text) ∧
    strip text = .ok (stripListParens text) ∧
    Token.find (bytes text) = .ok ((Token.split? text).map TokenSplit.byteRange) ∧
    (∀ start stop, (Token.split? text).map TokenSplit.byteRange = some (start, stop) →
      start ≤ stop ∧ IsBoundary text start ∧ IsBoundary text stop) ∧
    isShaped text = .ok (Token.isShaped text) ∧
    (findOperator operators text).run = .ok (OperatorMatch.find operators text) ∧
    (parse p query policy).run = .ok (p.parse query policy) ∧
    (process p query policy).run = .ok (p.process query policy) := by
  refine ⟨separators_eq separator text, fun offsets => isBoundary_of_mem_offsets,
    gives_split separator text, gives_shape text, strip_eq text, Token.find_bytes text,
    fun start stop h => ?_, isShaped_eq text, gives_findOperator operators text,
    gives_parse p policy query, gives_process p policy query⟩
  obtain ⟨⟨token, hs, -⟩, -⟩ := Token.byteRange_eq_some_iff.1 h
  exact exists_slice_iff.1 ⟨token, hs⟩

/-- A separator of three bytes, next to characters of two. An offset of one byte is inside a
character of this text. -/
theorem faultless_three_bytes :
    slice "ü=gt=é€(ß€ß) ".toList 0 1 = .error .insideCharacter ∧
    Terms.offsets '€' "ü=gt=é€(ß€ß) ".toList = .ok [8] ∧
    IsBoundary "ü=gt=é€(ß€ß) ".toList 8 ∧
    (split '€' "ü=gt=é€(ß€ß) ".toList).run = .ok (.ok ["ü=gt=é".toList, "(ß€ß)".toList]) ∧
    (Token.split? "ü=gt=é€(ß€ß) ".toList).map TokenSplit.byteRange = some (2, 6) ∧
    IsBoundary "ü=gt=é€(ß€ß) ".toList 2 ∧ IsBoundary "ü=gt=é€(ß€ß) ".toList 6 ∧
    (process .mysql "ü==é,(ß=in=(1,€))" .unrestricted).run =
      .ok (Parser.mysql.process "ü==é,(ß=in=(1,€))" .unrestricted) := by
  have hoffsets : Terms.offsets '€' "ü=gt=é€(ß€ß) ".toList = .ok [8] := rfl
  have hterms : Terms.split '€' "ü=gt=é€(ß€ß) ".toList =
      .ok ["ü=gt=é".toList, "(ß€ß)".toList] := rfl
  have htoken : Token.split? "ü=gt=é€(ß€ß) ".toList =
      some ⟨"ü".toList, "=gt=".toList, "é€(ß€ß) ".toList⟩ := by cbv
  have hrange : (Token.split? "ü=gt=é€(ß€ß) ".toList).map TokenSplit.byteRange = some (2, 6) := by
    rw [htoken]
    rfl
  obtain ⟨-, hfound, hsplit, -, -, -, hends, -, -, -, hprocess⟩ :=
    faultless '€' "ü=gt=é€(ß€ß) ".toList [] .mysql .unrestricted "ü==é,(ß=in=(1,€))"
  obtain ⟨-, hstart, hstop⟩ := hends 2 6 hrange
  exact ⟨rfl, hoffsets, hfound [8] hoffsets 8 (by simp), by rw [hsplit, hterms], hrange, hstart,
    hstop, hprocess⟩

end ByOffset

end FilterQuery
