/-!
# Hexadecimal digits

Numbers in base sixteen, with lower-case or upper-case digits, the value of a digit, and the number
that some digits stand for.
-/

namespace FilterQuery.Hex

/-- The lower-case digits of a number, without leading zeros. -/
def lower (n : Nat) : List Char :=
  Nat.toDigits 16 n

/-- Fills a row of digits with zeros on the left, up to a width. -/
def padded (width : Nat) (digits : List Char) : List Char :=
  List.replicate (width - digits.length) '0' ++ digits

/-- The upper-case digits of a number, without leading zeros. -/
def upper (n : Nat) : List Char :=
  (lower n).map Char.toUpper

/-- The value of a digit, of either case. -/
def value? (c : Char) : Option Nat :=
  if '0' ≤ c ∧ c ≤ '9' then some (c.toNat - 0x30)
  else if 'a' ≤ c ∧ c ≤ 'f' then some (c.toNat - 0x57)
  else if 'A' ≤ c ∧ c ≤ 'F' then some (c.toNat - 0x37)
  else none

/-- The number with some digits in a base up to sixteen. -/
def ofDigits (base : Nat) (digits : List Char) : Nat :=
  digits.foldl (fun n c => base * n + (value? c).getD 0) 0

variable {n : Nat}

theorem value?_digitChar (h : n < 16) : value? (Nat.digitChar n) = some n := by
  revert n
  decide

theorem value?_toUpper_digitChar (h : n < 16) : value? (Nat.digitChar n).toUpper = some n := by
  revert n
  decide

theorem value?_of_isDigit {c : Char} (h : c.isDigit = true) :
    value? c = some (c.toNat - '0'.toNat) := by
  simp only [Char.isDigit, ge_iff_le, Bool.and_eq_true, decide_eq_true_eq] at h
  exact if_pos h

theorem padded_lower (h : n < 32) :
    padded 4 (lower n) = ['0', '0', Nat.digitChar (n / 16), Nat.digitChar (n % 16)] := by
  revert n
  decide

theorem padded_upper (h : n < 128) :
    padded 4 (upper n) =
      ['0', '0', (Nat.digitChar (n / 16)).toUpper, (Nat.digitChar (n % 16)).toUpper] := by
  revert n
  decide

theorem lower_of_lt (h : n < 16) : lower n = [Nat.digitChar n] :=
  Nat.toDigits_of_lt_base h

theorem lower_of_le (h : 16 ≤ n) : lower n = lower (n / 16) ++ [Nat.digitChar (n % 16)] :=
  Nat.toDigits_of_base_le (by decide) h

theorem isSome_value?_of_mem_lower {c : Char} (h : c ∈ lower n) : (value? c).isSome = true := by
  induction n using Nat.strongRecOn with
  | _ n ih =>
    rcases Nat.lt_or_ge n 16 with hn | hn
    · rw [lower_of_lt hn, List.mem_singleton] at h
      rw [h, value?_digitChar hn]
      rfl
    · rw [lower_of_le hn, List.mem_append, List.mem_singleton] at h
      rcases h with h | rfl
      · exact ih (n / 16) (by omega) h
      · rw [value?_digitChar (by omega)]
        rfl

theorem ofDigits_lower (n : Nat) : ofDigits 16 (lower n) = n := by
  induction n using Nat.strongRecOn with
  | _ n ih =>
    rcases Nat.lt_or_ge n 16 with hn | hn
    · simp [ofDigits, lower_of_lt hn, value?_digitChar hn]
    · have hq := ih (n / 16) (by omega)
      have hd : value? (Nat.digitChar (n % 16)) = some (n % 16) := value?_digitChar (by omega)
      rw [ofDigits] at hq
      rw [ofDigits, lower_of_le hn, List.foldl_append, hq, List.foldl_cons, hd]
      simpa using Nat.div_add_mod n 16

end FilterQuery.Hex
