import FilterQuery.Text.Nesting

/-!
# Operator tokens

A token is `!` or `=`, then any characters other than `=` and parentheses, then `=`. A term is cut
at the first token in it. The search goes through the text once: a start that no `=` closes before
the next parenthesis rules out every start up to that parenthesis.
-/

namespace FilterQuery

/-- A text cut at an operator token. -/
structure TokenSplit where
  before : List Char
  token : List Char
  after : List Char
deriving Repr, DecidableEq

namespace TokenSplit

/-- The same token, with more text before it. -/
def shift (text : List Char) (s : TokenSplit) : TokenSplit :=
  { s with before := text ++ s.before }

/-- The byte offsets at which the token starts and ends. -/
def byteRange (s : TokenSplit) : Nat × Nat :=
  (Nesting.byteSize s.before, Nesting.byteSize s.before + Nesting.byteSize s.token)

end TokenSplit

namespace Token

/-- Whether a token can start with a character. -/
def isStart (c : Char) : Bool :=
  c == '!' || c == '='

/-- Whether a character may stand between the first and the last one of a token. -/
def isInner (c : Char) : Bool :=
  !(c == '=' || c == '(' || c == ')')

/-- Cuts a text at the first operator token in it. -/
def split? : List Char → Option TokenSplit
  | [] => none
  | c :: text =>
    if isStart c then
      match text.dropWhile isInner with
      | '=' :: after => some ⟨[], c :: (text.takeWhile isInner ++ ['=']), after⟩
      | _ => (split? (text.dropWhile isInner)).map (.shift (c :: text.takeWhile isInner))
    else (split? text).map (.shift [c])
termination_by text => text.length
decreasing_by
  · have := (List.dropWhile_sublist (l := text) isInner).length_le
    simp only [List.length_cons]
    omega
  · simp

/-- Whether a whole text is one operator token. -/
def isShaped (text : List Char) : Bool :=
  match split? text with
  | some ⟨[], _, []⟩ => true
  | _ => false

theorem dropWhile_isInner {inner rest : List Char} (h : inner.all isInner = true) :
    (inner ++ '=' :: rest).dropWhile isInner = '=' :: rest := by
  induction inner with
  | nil => rfl
  | cons c inner ih => simp_all

theorem takeWhile_isInner {inner rest : List Char} (h : inner.all isInner = true) :
    (inner ++ '=' :: rest).takeWhile isInner = inner := by
  induction inner with
  | nil => rfl
  | cons c inner ih => simp_all

theorem split?_token {c : Char} {inner rest : List Char} (hc : isStart c = true)
    (hi : inner.all isInner = true) :
    split? (c :: (inner ++ '=' :: rest)) = some ⟨[], c :: (inner ++ ['=']), rest⟩ := by
  rw [split?, if_pos hc, dropWhile_isInner hi, takeWhile_isInner hi]
  rfl

theorem isShaped_token {c : Char} {inner : List Char} (hc : isStart c = true)
    (hi : inner.all isInner = true) : isShaped (c :: (inner ++ ['='])) = true := by
  simp [isShaped, @split?_token c inner [] hc hi]

end Token

end FilterQuery
