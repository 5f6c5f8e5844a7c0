import Mathlib.Data.List.TakeWhile

/-!
# Runs of characters

A run of characters of one kind ends where a character of another kind follows, so a text has one
run at its start (`run_unique`). `Next` says what may follow a part of a text.
-/

namespace FilterQuery

variable {p : Char → Bool} {q r : Char → Prop} {c : Char} {text text' rest rest' : List Char}

/-- A text is empty or starts with a character as given. -/
def Next (p : Char → Prop) (text : List Char) : Prop :=
  ∀ c, text.head? = some c → p c

theorem Next.nil : Next q [] := by
  intro c hc
  simp at hc

theorem Next.cons (h : q c) : Next q (c :: text) := by
  intro d hd
  rw [List.head?_cons, Option.some.injEq] at hd
  exact hd ▸ h

theorem Next.of_cons (h : Next q (c :: text)) : q c :=
  h c rfl

theorem Next.mono (hqr : ∀ c, q c → r c) (h : Next q text) : Next r text :=
  fun c hc => hqr c (h c hc)

theorem Next.append (h : ∀ c ∈ text, q c) (hr : Next q rest) : Next q (text ++ rest) := by
  cases text with
  | nil => exact hr
  | cons c text => exact Next.cons (h c (by simp))

theorem takeWhile_run (h : ∀ c ∈ text, p c = true) (hr : Next (p · = false) rest) :
    (text ++ rest).takeWhile p = text := by
  rw [List.takeWhile_append_of_pos h]
  cases rest with
  | nil => simp
  | cons c rest => simp [hr.of_cons]

theorem dropWhile_run (h : ∀ c ∈ text, p c = true) (hr : Next (p · = false) rest) :
    (text ++ rest).dropWhile p = rest := by
  rw [List.dropWhile_append_of_pos h]
  cases rest with
  | nil => rfl
  | cons c rest => simp [hr.of_cons]

theorem run_unique (h : ∀ c ∈ text, p c = true) (h' : ∀ c ∈ text', p c = true)
    (hr : Next (p · = false) rest) (hr' : Next (p · = false) rest')
    (he : text ++ rest = text' ++ rest') : text = text' ∧ rest = rest' := by
  obtain rfl : text = text' := by rw [← takeWhile_run h hr, he, takeWhile_run h' hr']
  exact ⟨rfl, List.append_cancel_left he⟩

end FilterQuery
