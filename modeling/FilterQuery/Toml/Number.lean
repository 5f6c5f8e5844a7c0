import FilterQuery.Text.Hex
import FilterQuery.Toml.Value

/-!
# Reading numbers

Digits may have single underscores between them. Decimal numbers have no superfluous zeros at their
start; those in base sixteen, eight or two have a mark before them and no sign.
-/

namespace FilterQuery.Toml.Number

/-- The digits of a text, without the underscores between them. -/
def digits? (isDigit : Char → Bool) : List Char → Option (List Char)
  | [] => none
  | [c] => if isDigit c then some [c] else none
  | c :: d :: text =>
    if isDigit c then
      (if d = '_' then digits? isDigit text else digits? isDigit (d :: text)).map (c :: ·)
    else none

/-- Whether a character is a digit in a base up to sixteen. -/
def isDigitIn (base : Nat) (c : Char) : Bool :=
  (Hex.value? c).any (· < base)

/-- The digits of a decimal number without superfluous zeros at its start. -/
def decimalDigits? (text : List Char) : Option (List Char) :=
  match digits? (isDigitIn 10) text with
  | some ['0'] => some ['0']
  | some ('0' :: _) => none
  | result => result

/-- Splits off a sign: whether it is a minus, and the text after it. -/
def sign : List Char → Bool × List Char
  | '-' :: text => (true, text)
  | '+' :: text => (false, text)
  | text => (false, text)

/-- A number with a sign. -/
def signed (negative : Bool) (n : Nat) : Int :=
  if negative then -n else n

/-- Reads an integer in a base other than ten, from after its mark. -/
def based? (base : Nat) (text : List Char) : Option Int :=
  (digits? (isDigitIn base) text).map fun digits => Hex.ofDigits base digits

/-- Reads an integer. -/
def integer? (text : List Char) : Option Int :=
  match text with
  | '0' :: 'x' :: text => based? 16 text
  | '0' :: 'o' :: text => based? 8 text
  | '0' :: 'b' :: text => based? 2 text
  | text =>
    let (negative, text) := sign text
    (decimalDigits? text).map fun digits => signed negative (Hex.ofDigits 10 digits)

/-- Reads the exponent that ends a float, or nothing for the exponent zero. -/
def exponent? : List Char → Option Int
  | [] => some 0
  | c :: text =>
    if c = 'e' ∨ c = 'E' then
      let (negative, text) := sign text
      (digits? (isDigitIn 10) text).map fun digits => signed negative (Hex.ofDigits 10 digits)
    else none

/-- Whether a character is a decimal digit or an underscore. -/
def isDigitOrGap (c : Char) : Bool :=
  isDigitIn 10 c || c == '_'

/-- Reads a float from the part of it before a point or exponent and the part from there on. -/
def fraction? (negative : Bool) (whole rest : List Char) : Option Decimal := do
  let digits ← decimalDigits? whole
  match rest with
  | [] => none
  | '.' :: text =>
    let places ← digits? (isDigitIn 10) (text.takeWhile isDigitOrGap)
    let exponent ← exponent? (text.dropWhile isDigitOrGap)
    return .finite negative (Hex.ofDigits 10 (digits ++ places)) (exponent - places.length)
  | text => return .finite negative (Hex.ofDigits 10 digits) (← exponent? text)

/-- Reads a float. -/
def float? (text : List Char) : Option Decimal :=
  let (negative, text) := sign text
  if text = ['i', 'n', 'f'] then some (.infinite negative)
  else if text = ['n', 'a', 'n'] then some .notANumber
  else fraction? negative (text.takeWhile isDigitOrGap) (text.dropWhile isDigitOrGap)

end FilterQuery.Toml.Number
