/-!
# Escape pairs

The characters `(`, `)`, `,`, `;` and `=` have a role in a query. Written after a backslash they
are ordinary text. `encode` replaces each such pair by one stand-in character of the private use
area, so that no later scan meets a character that is not meant to play its role. `decode` brings
the pairs back, for texts that are shown; `unescape` brings back the bare characters, for values.
-/

namespace FilterQuery.Escape

/-- The stand-in of an escapable character. -/
def standIn? : Char → Option Char
  | '(' => some '\ue000'
  | ')' => some '\ue001'
  | ',' => some '\ue002'
  | ';' => some '\ue003'
  | '=' => some '\ue004'
  | _ => none

/-- The character that a stand-in is for. -/
def literal? : Char → Option Char
  | '\ue000' => some '('
  | '\ue001' => some ')'
  | '\ue002' => some ','
  | '\ue003' => some ';'
  | '\ue004' => some '='
  | _ => none

/-- Whether a character is a stand-in. -/
def isStandIn (c : Char) : Bool :=
  (literal? c).isSome

/-- Replaces every escape pair, from left to right, by its stand-in. -/
def encode : List Char → List Char
  | [] => []
  | [c] => [c]
  | c :: d :: text =>
    match if c = '\\' then standIn? d else none with
    | some p => p :: encode text
    | none => c :: encode (d :: text)

/-- What a character is written as: a stand-in as its escape pair, any other as itself. -/
def spelling (c : Char) : List Char :=
  match literal? c with
  | some l => ['\\', l]
  | none => [c]

/-- Writes every stand-in as its escape pair. -/
def decode (text : List Char) : List Char :=
  text.flatMap spelling

/-- Writes every stand-in as the bare character that it is for. -/
def unescape (text : List Char) : List Char :=
  text.map fun c => (literal? c).getD c

/-- Whether a text holds a stand-in. -/
def hasStandIn (text : List Char) : Bool :=
  text.any isStandIn

/-- An encoded text as its author wrote it. -/
def shown (text : List Char) : String :=
  String.ofList (decode text)

@[simp]
theorem decode_nil : decode [] = [] := rfl

@[simp]
theorem decode_cons (c : Char) (text : List Char) :
    decode (c :: text) = spelling c ++ decode text :=
  rfl

@[simp]
theorem decode_append (s t : List Char) : decode (s ++ t) = decode s ++ decode t := by
  simp [decode]

theorem literal?_eq_some_iff {p c : Char} : literal? p = some c ↔ standIn? c = some p := by
  constructor
  · intro h
    unfold literal? at h
    split at h <;> simp_all [standIn?]
    all_goals subst h; rfl
  · intro h
    unfold standIn? at h
    split at h <;> simp_all [literal?]
    all_goals subst h; rfl

end FilterQuery.Escape
