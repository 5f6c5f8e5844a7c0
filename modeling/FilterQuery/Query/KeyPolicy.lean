import FilterQuery.Query.Error

/-!
# Which keys a query may use

A list of allowed keys, if given, admits no other key; a list of forbidden keys, if given, admits
none of its own. Both hold for a key after it has been transformed.
-/

namespace FilterQuery

/-- The keys that a query may use. -/
structure KeyPolicy where
  allowed : Option (List String) := none
  forbidden : Option (List String) := none
deriving Repr, DecidableEq

namespace KeyPolicy

/-- The policy that admits every key. -/
def unrestricted : KeyPolicy := {}

/-- Whether a list of allowed keys, if there is one, holds a key. -/
def allows (p : KeyPolicy) (key : String) : Bool :=
  p.allowed.all fun keys => keys.contains key

/-- Whether there is a list of forbidden keys and it holds a key. -/
def forbids (p : KeyPolicy) (key : String) : Bool :=
  p.forbidden.any fun keys => keys.contains key

/-- Refuses a key that is not allowed, then one that is forbidden. -/
def check (p : KeyPolicy) (key : String) : Except QueryError Unit :=
  if !p.allows key then .error (.keyNotAllowed key)
  else if p.forbids key then .error (.keyForbidden key)
  else .ok ()

theorem check_eq_ok_iff {p : KeyPolicy} {key : String} :
    p.check key = .ok () ↔ p.allows key = true ∧ p.forbids key = false := by
  cases ha : p.allows key <;> cases hf : p.forbids key <;> simp [check, ha, hf]

theorem exists_of_check {p : KeyPolicy} {key : String} {e : QueryError}
    (h : p.check key = .error e) : e = .keyNotAllowed key ∨ e = .keyForbidden key := by
  unfold check at h
  split at h
  · exact .inl (Except.error.inj h).symm
  · split at h
    · exact .inr (Except.error.inj h).symm
    · simp at h

@[simp]
theorem check_unrestricted (key : String) : unrestricted.check key = .ok () := rfl

end KeyPolicy

end FilterQuery
