/-!
# Nested parentheses

A text is scanned from left to right with a depth: an opening parenthesis raises it, a closing one
lowers it. `unbalancedAt?` finds the parenthesis at which a text stops being balanced, `pieces`
cuts a text at the separators of depth zero, `separatorOffsets` says where in its UTF-8 form they
stand, and `splitAtClose` finds the parenthesis that closes an opened one.
-/

namespace FilterQuery.Nesting

/-- Whether a character is a parenthesis. -/
def isParen (c : Char) : Bool :=
  c == '(' || c == ')'

/-- The depth after a character that is met at a given depth. -/
def depthAfter (depth : Nat) (c : Char) : Nat :=
  if c = '(' then depth + 1 else if c = ')' then depth - 1 else depth

/-- How many bytes a text takes in UTF-8. -/
def byteSize (text : List Char) : Nat :=
  text.foldr (fun c size => c.utf8Size + size) 0

/-- The scan behind `unbalancedAt?`: `depth` parentheses are open, `position` characters are read,
and `opened` is the position of the outermost open one. -/
def unbalancedFrom (depth position opened : Nat) : List Char → Option Nat
  | [] => if depth = 0 then none else some opened
  | c :: text =>
    if c = '(' then
      unbalancedFrom (depth + 1) (position + 1) (if depth = 0 then position else opened) text
    else if c = ')' then
      if depth = 0 then some position
      else unbalancedFrom (depth - 1) (position + 1) opened text
    else unbalancedFrom depth (position + 1) opened text

/-- The position of the first closing parenthesis that nothing opened; if there is none, of the
first opening one that nothing closes; none if the text is balanced. -/
def unbalancedAt? (text : List Char) : Option Nat :=
  unbalancedFrom 0 0 0 text

/-- Whether a separator plays its role where it is met. A parenthesis never does. -/
def cuts (separator : Char) (depth : Nat) (c : Char) : Bool :=
  c == separator && depth == 0 && !isParen c

/-- Puts a character in front of the first of some pieces. -/
def consHead (c : Char) : List (List Char) → List (List Char)
  | [] => [[c]]
  | piece :: rest => (c :: piece) :: rest

/-- The scan behind `pieces`, from a given depth. -/
def piecesFrom (separator : Char) (depth : Nat) : List Char → List (List Char)
  | [] => [[]]
  | c :: text =>
    if cuts separator depth c then [] :: piecesFrom separator depth text
    else consHead c (piecesFrom separator (depthAfter depth c) text)

/-- What stands between the separators of depth zero. -/
def pieces (separator : Char) (text : List Char) : List (List Char) :=
  piecesFrom separator 0 text

/-- The scan behind `separatorOffsets`, from a given depth and byte offset. -/
def offsetsFrom (separator : Char) (depth offset : Nat) : List Char → List Nat
  | [] => []
  | c :: text =>
    if cuts separator depth c then
      offset :: offsetsFrom separator depth (offset + c.utf8Size) text
    else offsetsFrom separator (depthAfter depth c) (offset + c.utf8Size) text

/-- The byte offsets of the separators of depth zero. -/
def separatorOffsets (separator : Char) (text : List Char) : List Nat :=
  offsetsFrom separator 0 0 text

/-- Splits a text at the parenthesis that closes one opened before it, with `depth` further ones
open: what stands before that parenthesis, and what stands after it. -/
def splitAtClose (depth : Nat) : List Char → Option (List Char × List Char)
  | [] => none
  | c :: text =>
    if c = ')' ∧ depth = 0 then some ([], text)
    else (splitAtClose (depthAfter depth c) text).map fun (inner, rest) => (c :: inner, rest)

/-- What one pair of parentheses around the whole text encloses. -/
def enclosed? : List Char → Option (List Char)
  | '(' :: text =>
    match splitAtClose 0 text with
    | some (inner, []) => some inner
    | _ => none
  | _ => none

theorem piecesFrom_ne_nil (separator : Char) (depth : Nat) (text : List Char) :
    piecesFrom separator depth text ≠ [] := by
  cases text with
  | nil => simp [piecesFrom]
  | cons c text =>
    rw [piecesFrom]
    split
    · simp
    · cases piecesFrom separator (depthAfter depth c) text <;> simp [consHead]

@[simp]
theorem byteSize_nil : byteSize [] = 0 := rfl

@[simp]
theorem byteSize_cons (c : Char) (text : List Char) :
    byteSize (c :: text) = c.utf8Size + byteSize text := rfl

@[simp]
theorem byteSize_append (s t : List Char) : byteSize (s ++ t) = byteSize s + byteSize t := by
  induction s with
  | nil => simp
  | cons c s ih => rw [List.cons_append, byteSize_cons, byteSize_cons, ih, Nat.add_assoc]

theorem eq_of_splitAtClose {depth : Nat} {text inner rest : List Char}
    (h : splitAtClose depth text = some (inner, rest)) : text = inner ++ ')' :: rest := by
  induction text generalizing depth inner with
  | nil => simp [splitAtClose] at h
  | cons c text ih =>
    rw [splitAtClose] at h
    split at h
    · next hc =>
      simp only [Option.some.injEq, Prod.mk.injEq] at h
      simp [← h.1, ← h.2, hc.1]
    · obtain ⟨⟨i, r⟩, hs, he⟩ := Option.map_eq_some_iff.1 h
      simp only [Prod.mk.injEq] at he
      obtain ⟨rfl, rfl⟩ := he
      simp [ih hs]

theorem eq_of_enclosed? {text inner : List Char} (h : enclosed? text = some inner) :
    text = '(' :: (inner ++ [')']) := by
  unfold enclosed? at h
  split at h
  · split at h
    · next hs =>
      simp only [Option.some.injEq] at h
      rw [eq_of_splitAtClose hs, h]
    · simp at h
  · simp at h

end FilterQuery.Nesting
