/-!
# Values of TOML

What a TOML document can hold. Floats keep their exact decimal value, dates and times their text.
-/

namespace FilterQuery.Toml

/-- A float as it is written. -/
inductive Decimal where
  /-- The number `mantissa * 10 ^ exponent`, negated or not. -/
  | finite (negative : Bool) (mantissa : Nat) (exponent : Int)
  | infinite (negative : Bool)
  | notANumber
deriving Repr, DecidableEq

/-- The least number that is too great for a double: half a unit above the greatest double. -/
def Decimal.bound : Nat :=
  Nat.pow 2 1024 - Nat.pow 2 970

/-- Whether a float is written as a number and is too great for a double. The number of digits
decides where it can, so that no great power of ten is computed. -/
def Decimal.overflows : Decimal → Bool
  | finite _ mantissa exponent =>
    let magnitude := (Nat.toDigits 10 mantissa).length + exponent
    if mantissa = 0 ∨ magnitude < 300 then false
    else if 310 < magnitude then true
    else bound * Nat.pow 10 (-exponent).toNat ≤ mantissa * Nat.pow 10 exponent.toNat
  | infinite _ => false
  | notANumber => false

/-- A value of TOML. -/
inductive Value where
  | string (s : String)
  | integer (n : Int)
  | float (x : Decimal)
  | boolean (b : Bool)
  | moment (text : String)
  | array (elements : List Value)
  | table (entries : List (String × Value))
deriving Repr

namespace Value

mutual
/-- Whether every number in a value has a machine form: an integer of 128 bits, signed or not, or a
double. -/
def isSized : Value → Bool
  | integer n => -2 ^ 127 ≤ n && n < 2 ^ 128
  | float x => !x.overflows
  | array elements => allSized elements
  | table entries => entriesSized entries
  | _ => true

/-- Whether every number in some values has a machine form. -/
def allSized : List Value → Bool
  | [] => true
  | v :: vs => isSized v && allSized vs

/-- Whether every number in the values of some entries has a machine form. -/
def entriesSized : List (String × Value) → Bool
  | [] => true
  | (_, v) :: es => isSized v && entriesSized es
end

end Value

end FilterQuery.Toml
