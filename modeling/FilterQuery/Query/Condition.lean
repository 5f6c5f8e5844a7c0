import FilterQuery.Text.Quoted

/-!
# Conditions

What a query asks for: a comparison of a key with a value, or several conditions of which all, or
at least one, have to hold. `conj` and `disj` build conditions in normal form: a conjunction within
a conjunction is merged into it, and so for disjunctions, and a single condition stands alone.
-/

namespace FilterQuery

/-- A key, the token of an operator, and a value. -/
structure Comparison where
  key : String
  operator : String
  value : String
deriving Repr, DecidableEq

/-- A condition on the values of keys. -/
inductive Condition where
  /-- A single comparison. -/
  | comparison (c : Comparison)
  /-- All of the conditions hold. -/
  | all (children : List Condition)
  /-- At least one of the conditions holds. -/
  | any (children : List Condition)
deriving Repr

namespace Condition

/-- The conditions that a condition adds to a conjunction around it. -/
def conjuncts : Condition → List Condition
  | all children => children
  | c => [c]

/-- The conditions that a condition adds to a disjunction around it. -/
def disjuncts : Condition → List Condition
  | any children => children
  | c => [c]

/-- The conjunction of some conditions, merged one level deep. -/
def conj (cs : List Condition) : Condition :=
  match cs.flatMap conjuncts with
  | [c] => c
  | children => all children

/-- The disjunction of some conditions, merged one level deep. -/
def disj (cs : List Condition) : Condition :=
  match cs.flatMap disjuncts with
  | [c] => c
  | children => any children

mutual
/-- The comparisons of a condition, from left to right. -/
def comparisons : Condition → List Comparison
  | comparison c => [c]
  | all children => comparisonsOf children
  | any children => comparisonsOf children

/-- The comparisons of several conditions, from left to right. -/
def comparisonsOf : List Condition → List Comparison
  | [] => []
  | c :: cs => comparisons c ++ comparisonsOf cs
end

/-- The line that stands for a comparison in a dump. -/
def dumpComparison (c : Comparison) : List Char :=
  "Comparison(".toList ++ Quoted.quote c.key.toList ++ ' ' :: c.operator.toList ++
    ' ' :: Quoted.quote c.value.toList ++ [')']

/-- A line of a dump, moved two spaces to the right for each level. -/
def dumpLine (level : Nat) (line : List Char) : List Char :=
  List.replicate (2 * level) ' ' ++ line ++ ['\n']

mutual
/-- The dump of a condition at a level: a line for it, then the dumps of its parts. -/
def dumpAt (level : Nat) : Condition → List Char
  | comparison c => dumpLine level (dumpComparison c)
  | all children => dumpLine level "And".toList ++ dumpAllAt (level + 1) children
  | any children => dumpLine level "Or".toList ++ dumpAllAt (level + 1) children

/-- The dumps of several conditions at a level. -/
def dumpAllAt (level : Nat) : List Condition → List Char
  | [] => []
  | c :: cs => dumpAt level c ++ dumpAllAt level cs
end

/-- A condition as indented lines, one for each of its parts. -/
def dump (c : Condition) : String :=
  String.ofList (dumpAt 0 c)

/-- Induction over a condition and all conditions inside it. -/
@[induction_eliminator]
theorem induction {motive : Condition → Prop} (comparison : ∀ c, motive (.comparison c))
    (all : ∀ children, (∀ c ∈ children, motive c) → motive (.all children))
    (any : ∀ children, (∀ c ∈ children, motive c) → motive (.any children)) (c : Condition) :
    motive c :=
  match c with
  | .comparison c => comparison c
  | .all children => all children fun c _ => induction comparison all any c
  | .any children => any children fun c _ => induction comparison all any c

theorem comparisonsOf_append (cs ds : List Condition) :
    comparisonsOf (cs ++ ds) = comparisonsOf cs ++ comparisonsOf ds := by
  induction cs with
  | nil => rfl
  | cons c cs ih => simp [comparisonsOf, ih]

theorem comparisonsOf_conjuncts (c : Condition) : comparisonsOf c.conjuncts = c.comparisons := by
  cases c <;> simp [conjuncts, comparisons, comparisonsOf]

theorem comparisonsOf_disjuncts (c : Condition) : comparisonsOf c.disjuncts = c.comparisons := by
  cases c <;> simp [disjuncts, comparisons, comparisonsOf]

end Condition

end FilterQuery
