import FilterQuery.Proofs.Rendering

/-!
# What is written, piece by piece

Writing a condition is all or nothing: it fails exactly if the operator of some comparison is not
registered, and then names the first such comparison (`Dialect.render_all_or_nothing`). Both follow
from one equation, `Dialect.render_eq`: a condition is written by going through its comparisons from
left to right, however they are nested.

Where a dialect puts fixed texts before, between and after the parts of a conjunction and of a
disjunction (`Joint`), `Condition.fragments` lists the pieces of what is written. Each comparison is
one of them, in the order of the comparisons, and every other piece is one of the fixed texts.
-/

namespace FilterQuery

/-- The texts before, between and after the parts of a conjunction or disjunction. -/
structure Joint where
  opening : String
  separator : String
  closing : String

/-- A piece of what is written for a condition. -/
inductive Fragment where
  /-- What is written for a comparison. -/
  | leaf (x : Comparison)
  /-- A text before, between or after parts. -/
  | joint (text : String)

/-- The comparison that a piece is written for. -/
def Fragment.comparison? : Fragment → Option Comparison
  | leaf x => some x
  | joint _ => none

/-- A piece, given what is written for each comparison. -/
def Fragment.text (leaf : Comparison → String) : Fragment → String
  | .leaf x => leaf x
  | .joint text => text

/-- Some pieces one after the other. -/
def Fragment.join (leaf : Comparison → String) (fragments : List Fragment) : String :=
  String.join (fragments.map (text leaf))

namespace Joint

/-- Joins what is written for some parts. -/
def join (j : Joint) (parts : List String) : String :=
  j.opening ++ String.intercalate j.separator parts ++ j.closing

/-- Joins the pieces of some parts. -/
def lay (j : Joint) (parts : List (List Fragment)) : List Fragment :=
  .joint j.opening :: ([.joint j.separator].intercalate parts ++ [.joint j.closing])

def texts (j : Joint) : List String :=
  [j.opening, j.separator, j.closing]

end Joint

/-- The pieces of what is written for a condition. -/
def Condition.fragments (conj disj : Joint) : Condition → List Fragment
  | .comparison x => [.leaf x]
  | .all children => conj.lay (children.map (fragments conj disj))
  | .any children => disj.lay (children.map (fragments conj disj))

variable {leaf : Comparison → String} {parts : List (List Fragment)} {text : String}

/-! ### Pieces put together -/

namespace Fragment

@[simp]
theorem join_nil : join leaf [] = "" := rfl

@[simp]
theorem join_cons (f : Fragment) (fs : List Fragment) :
    join leaf (f :: fs) = f.text leaf ++ join leaf fs := by
  rw [join, List.map_cons, String.join_cons, join]

@[simp]
theorem join_append (fs gs : List Fragment) :
    join leaf (fs ++ gs) = join leaf fs ++ join leaf gs := by
  rw [join, List.map_append, String.join_append, join, join]

theorem join_intercalate (separator : String) (parts : List (List Fragment)) :
    join leaf ([joint separator].intercalate parts) =
      String.intercalate separator (parts.map (join leaf)) := by
  induction parts with
  | nil => rfl
  | cons part parts ih =>
    cases parts with
    | nil => simp
    | cons next parts =>
      simp only [List.map_cons] at ih ⊢
      rw [List.intercalate_cons_cons, join_append, join_append, ih, String.intercalate_cons_cons]
      simp [Fragment.text]

theorem filterMap_intercalate (separator : String) (parts : List (List Fragment)) :
    ([joint separator].intercalate parts).filterMap comparison? =
      parts.flatMap fun part => part.filterMap comparison? := by
  induction parts with
  | nil => rfl
  | cons part parts ih =>
    cases parts with
    | nil => simp
    | cons next parts =>
      rw [List.intercalate_cons_cons, List.filterMap_append, List.filterMap_append, ih]
      simp [comparison?]

theorem mem_intercalate {separator : String}
    (h : joint text ∈ [joint separator].intercalate parts) :
    text = separator ∨ ∃ part ∈ parts, joint text ∈ part := by
  induction parts with
  | nil => simp at h
  | cons part parts ih =>
    cases parts with
    | nil => exact .inr ⟨part, by simp, by simpa using h⟩
    | cons next parts =>
      rw [List.intercalate_cons_cons] at h
      simp only [List.append_assoc, List.mem_append, List.mem_singleton, joint.injEq] at h
      rcases h with h | h | h
      · exact .inr ⟨part, by simp, h⟩
      · exact .inl h
      · rcases ih h with h | ⟨p, hp, h⟩
        · exact .inl h
        · exact .inr ⟨p, by simp_all, h⟩

end Fragment

namespace Joint

variable {j : Joint}

theorem join_lay : Fragment.join leaf (j.lay parts) = j.join (parts.map (Fragment.join leaf)) := by
  rw [lay, Fragment.join_cons, Fragment.join_append, Fragment.join_intercalate, join,
    ← String.append_assoc]
  simp [Fragment.text]

theorem filterMap_lay : (j.lay parts).filterMap Fragment.comparison? =
    parts.flatMap fun part => part.filterMap Fragment.comparison? := by
  rw [lay, List.filterMap_cons, List.filterMap_append, Fragment.filterMap_intercalate]
  simp [Fragment.comparison?]

theorem mem_lay (h : .joint text ∈ j.lay parts) :
    text ∈ j.texts ∨ ∃ part ∈ parts, .joint text ∈ part := by
  simp only [lay, List.mem_cons, List.mem_append, Fragment.joint.injEq, List.not_mem_nil,
    or_false] at h
  rcases h with h | h | h
  · exact .inl (by simp [texts, h])
  · exact (Fragment.mem_intercalate h).imp_left fun h => by simp [texts, h]
  · exact .inl (by simp [texts, h])

end Joint

namespace Condition

variable {conj disj : Joint} {c : Condition}

theorem filterMap_fragments (conj disj : Joint) (c : Condition) :
    (c.fragments conj disj).filterMap Fragment.comparison? = c.comparisons := by
  have hchildren (children : List Condition)
      (h : ∀ c ∈ children,
        (c.fragments conj disj).filterMap Fragment.comparison? = c.comparisons) (j : Joint) :
      (j.lay (children.map (fragments conj disj))).filterMap Fragment.comparison? =
        comparisonsOf children := by
    rw [Joint.filterMap_lay, List.flatMap_map, comparisonsOf_eq]
    exact List.flatMap_congr h
  induction c with
  | comparison x => rw [fragments, comparisons]; rfl
  | all children ih => rw [fragments, comparisons, hchildren children ih]
  | any children ih => rw [fragments, comparisons, hchildren children ih]

theorem mem_texts_of_mem_fragments (h : .joint text ∈ c.fragments conj disj) :
    text ∈ conj.texts ++ disj.texts := by
  rw [List.mem_append]
  induction c with
  | comparison x => simp [fragments] at h
  | all children ih =>
    rw [fragments] at h
    rcases Joint.mem_lay h with h | ⟨part, hpart, h⟩
    · exact .inl h
    · obtain ⟨c, hc, rfl⟩ := List.mem_map.1 hpart
      exact ih c hc h
  | any children ih =>
    rw [fragments] at h
    rcases Joint.mem_lay h with h | ⟨part, hpart, h⟩
    · exact .inr h
    · obtain ⟨c, hc, rfl⟩ := List.mem_map.1 hpart
      exact ih c hc h

end Condition

namespace Dialect

variable {d : Dialect} {x : Comparison} {e : QueryError} {conj disj : Joint}

theorem write_eq_join (hc : d.conjunction = conj.join) (hd : d.disjunction = disj.join)
    (c : Condition) : d.write leaf c = Fragment.join leaf (c.fragments conj disj) := by
  induction c with
  | comparison x => simp [write, Condition.fragments, Fragment.text]
  | all children ih =>
    rw [write, Condition.fragments, Joint.join_lay, hc, List.map_map]
    exact congrArg _ (List.map_congr_left ih)
  | any children ih =>
    rw [write, Condition.fragments, Joint.join_lay, hd, List.map_map]
    exact congrArg _ (List.map_congr_left ih)

/-! ### Operators that are registered -/

theorem exists_renderComparison_iff :
    (∃ s, d.renderComparison x = .ok s) ↔ ∃ o ∈ d.operators, o.pattern = x.operator := by
  rw [← Operator.exists_find?_iff, renderComparison, operator?]
  cases Operator.find? d.operators x.operator <;> simp

theorem renderComparison_eq_error_iff : d.renderComparison x = .error e ↔
    (∀ o ∈ d.operators, o.pattern ≠ x.operator) ∧
      e = .unknownOperator x.operator (x.key ++ x.operator ++ x.value) := by
  have hnone : (∀ o ∈ d.operators, o.pattern ≠ x.operator) ↔
      ¬∃ o ∈ d.operators, o.pattern = x.operator := by simp
  rw [hnone, ← Operator.exists_find?_iff, renderComparison, operator?]
  cases Operator.find? d.operators x.operator <;> simp [eq_comm]

theorem leaf_of_renderComparison {s : String} (h : d.renderComparison x = .ok s) :
    ∃ o, d.operator? x.operator = some o ∧ s = o.format x.key x.value ∧ d.leaf x = s := by
  unfold renderComparison at h
  unfold leaf
  split at h
  · next o ho =>
    obtain rfl := Except.ok.inj h
    exact ⟨o, ho, rfl, by rw [ho]; rfl⟩
  · simp at h

/-- A condition is written if every operator in it is registered. Else it is refused for the first
comparison whose operator is not, which is shown in full. What is written by a dialect with fixed
texts around and between the parts is made of the comparisons, each once and in their order, and of
these texts. -/
theorem render_all_or_nothing (d : Dialect) (c : Condition) :
    ((∃ s, d.render c = .ok s) ↔
      ∀ x ∈ c.comparisons, ∃ o ∈ d.operators, o.pattern = x.operator) ∧
    (∀ e, d.render c = .error e ↔ ∃ before x after, c.comparisons = before ++ x :: after ∧
      (∀ y ∈ before, ∃ o ∈ d.operators, o.pattern = y.operator) ∧
      (∀ o ∈ d.operators, o.pattern ≠ x.operator) ∧
      e = .unknownOperator x.operator (x.key ++ x.operator ++ x.value)) ∧
    ∀ conj disj : Joint, d.conjunction = conj.join → d.disjunction = disj.join →
      ∀ s, d.render c = .ok s →
        s = Fragment.join d.leaf (c.fragments conj disj) ∧
        (c.fragments conj disj).filterMap Fragment.comparison? = c.comparisons ∧
        (∀ x ∈ c.comparisons, ∃ o, d.operator? x.operator = some o ∧
          d.leaf x = o.format x.key x.value) ∧
        ∀ text, .joint text ∈ c.fragments conj disj → text ∈ conj.texts ++ disj.texts := by
  have hrender : d.render c =
      (fun _ => d.write d.leaf c) <$> c.comparisons.mapM d.renderComparison := by
    refine render_eq fun x _ s hs => ?_
    obtain ⟨o, -, -, hleaf⟩ := leaf_of_renderComparison hs
    exact hleaf
  refine ⟨?_, fun e => ?_, fun conj disj hc hd s hs => ?_⟩
  · simp_rw [← exists_renderComparison_iff]
    refine ⟨fun ⟨s, hs⟩ x hx => ?_, fun h => ⟨d.write d.leaf c, render_of_forall fun x hx => ?_⟩⟩
    · rw [hrender] at hs
      obtain ⟨texts, htexts, -⟩ := map_eq_ok_iff.1 hs
      obtain ⟨s, -, hs⟩ := exists_of_forall₂ (mapM_eq_ok_iff.1 htexts) x hx
      exact ⟨s, hs⟩
    · obtain ⟨s, hs⟩ := h x hx
      obtain ⟨o, -, -, hleaf⟩ := leaf_of_renderComparison hs
      exact hs.trans (congrArg _ hleaf.symm)
  · simp_rw [hrender, map_eq_error_iff, mapM_eq_error_iff, exists_renderComparison_iff,
      renderComparison_eq_error_iff]
  · rw [hrender] at hs
    obtain ⟨texts, htexts, rfl⟩ := map_eq_ok_iff.1 hs
    refine ⟨write_eq_join hc hd c, c.filterMap_fragments conj disj, fun x hx => ?_,
      fun text h => Condition.mem_texts_of_mem_fragments h⟩
    obtain ⟨s, -, hs⟩ := exists_of_forall₂ (mapM_eq_ok_iff.1 htexts) x hx
    obtain ⟨o, ho, hformat, hleaf⟩ := leaf_of_renderComparison hs
    exact ⟨o, ho, hleaf.trans hformat⟩

/-- A conjunction without parts is written as the texts before and after its parts. -/
theorem render_all_or_nothing_nested :
    mysql.render (.any [.comparison ⟨"b", "==", "2"⟩, .all [],
      .all [.comparison ⟨"a", "=in=", "1,2"⟩]]) = .ok "(b = 2 OR () OR (a IN (1,2)))" ∧
    ∃ fragments, Fragment.join mysql.leaf fragments = "(b = 2 OR () OR (a IN (1,2)))" ∧
      fragments.filterMap Fragment.comparison? = [⟨"b", "==", "2"⟩, ⟨"a", "=in=", "1,2"⟩] ∧
      ∀ text, .joint text ∈ fragments →
        text ∈ ["(", " AND ", ")"] ++ ["(", " OR ", ")"] := by
  have h : mysql.render (.any [.comparison ⟨"b", "==", "2"⟩, .all [],
      .all [.comparison ⟨"a", "=in=", "1,2"⟩]]) = .ok "(b = 2 OR () OR (a IN (1,2)))" := by cbv
  obtain ⟨hs, hleaves, -, htexts⟩ := (render_all_or_nothing mysql _).2.2
    ⟨"(", " AND ", ")"⟩ ⟨"(", " OR ", ")"⟩ rfl rfl _ h
  exact ⟨h, _, hs.symm, hleaves, htexts⟩

end Dialect

end FilterQuery
