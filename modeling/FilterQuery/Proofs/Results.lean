import Mathlib.Data.List.Forall2

/-!
# Steps that may be refused, and rows of them

What follows from the result of a step, of one step after another (`bind_eq_ok_iff`,
`bind_eq_error_iff`) and of a step for each member of a list (`mapM_eq_ok_iff`,
`mapM_eq_error_iff`). The members and their results go along with each other (`List.Forall₂`).
-/

namespace FilterQuery

variable {α β γ ε : Type}

/-! ### Results -/

theorem bind_eq_ok_iff {x : Except ε α} {f : α → Except ε β} {b : β} :
    x >>= f = .ok b ↔ ∃ a, x = .ok a ∧ f a = .ok b := by
  cases x with
  | error e => simp [bind, Except.bind]
  | ok a => simp [bind, Except.bind]

theorem map_eq_ok_iff {x : Except ε α} {f : α → β} {b : β} :
    f <$> x = .ok b ↔ ∃ a, x = .ok a ∧ f a = b := by
  cases x with
  | error e => simp [Functor.map, Except.map]
  | ok a => simp [Functor.map, Except.map]

theorem bind_eq_error_iff {x : Except ε α} {f : α → Except ε β} {e : ε} :
    x >>= f = .error e ↔ x = .error e ∨ ∃ a, x = .ok a ∧ f a = .error e := by
  cases x with
  | error e' => simp [bind, Except.bind]
  | ok a => simp [bind, Except.bind]

theorem map_eq_error_iff {x : Except ε α} {f : α → β} {e : ε} :
    f <$> x = .error e ↔ x = .error e := by
  cases x with
  | error e' => simp [Functor.map, Except.map]
  | ok a => simp [Functor.map, Except.map]

theorem mapM_eq_ok_iff {f : α → Except ε β} {as : List α} {bs : List β} :
    as.mapM f = .ok bs ↔ List.Forall₂ (fun a b => f a = .ok b) as bs := by
  induction as generalizing bs with
  | nil => simp [pure, Except.pure, eq_comm]
  | cons a as ih =>
    rw [List.mapM_cons, List.forall₂_cons_left_iff]
    simp only [bind_eq_ok_iff, ih, pure, Except.pure, Except.ok.injEq]
    constructor
    · rintro ⟨b, hb, bs, hbs, rfl⟩
      exact ⟨b, bs, hb, hbs, rfl⟩
    · rintro ⟨b, bs, hb, hbs, rfl⟩
      exact ⟨b, hb, bs, hbs, rfl⟩

/-- A run over a list is refused at the first element that is refused. -/
theorem mapM_eq_error_iff {f : α → Except ε β} {as : List α} {e : ε} :
    as.mapM f = .error e ↔ ∃ before a after, as = before ++ a :: after ∧
      (∀ b ∈ before, ∃ c, f b = .ok c) ∧ f a = .error e := by
  induction as with
  | nil => simp [pure, Except.pure]
  | cons a as ih =>
    rw [List.mapM_cons, bind_eq_error_iff]
    constructor
    · rintro (ha | ⟨b, hb, h⟩)
      · exact ⟨[], a, as, rfl, by simp, ha⟩
      · rcases bind_eq_error_iff.1 h with h | ⟨bs, -, h⟩
        · obtain ⟨before, a', after, rfl, hok, he⟩ := ih.1 h
          exact ⟨a :: before, a', after, rfl, by simpa using ⟨⟨b, hb⟩, hok⟩, he⟩
        · simp [pure, Except.pure] at h
    · rintro ⟨before, a', after, hs, hok, he⟩
      cases before with
      | nil =>
        obtain ⟨rfl, rfl⟩ := List.cons.inj hs
        exact .inl he
      | cons b before =>
        obtain ⟨rfl, rfl⟩ := List.cons.inj hs
        obtain ⟨⟨c, hc⟩, hok⟩ := List.forall_mem_cons.1 hok
        exact .inr ⟨c, hc, bind_eq_error_iff.2 (.inl (ih.2 ⟨before, a', after, rfl, hok, he⟩))⟩

theorem mapM_congr_of_mem {f g : α → Except ε β} {as : List α}
    (h : ∀ a ∈ as, f a = g a) : as.mapM f = as.mapM g := by
  induction as with
  | nil => rfl
  | cons a as ih =>
    rw [List.mapM_cons, List.mapM_cons, h a (by simp), ih fun b hb => h b (by simp [hb])]

theorem mapError_bind (g : ε → ε) (x : Except ε α) (f : α → Except ε β) :
    (x >>= f).mapError g = x.mapError g >>= fun a => (f a).mapError g := by
  cases x <;> rfl

theorem mapError_map (g : ε → ε) (x : Except ε α) (f : α → β) :
    (f <$> x).mapError g = f <$> x.mapError g := by
  cases x <;> rfl

theorem mapError_mapM (g : ε → ε) (f : α → Except ε β) (as : List α) :
    (as.mapM f).mapError g = as.mapM fun a => (f a).mapError g := by
  induction as with
  | nil => rfl
  | cons a as ih =>
    rw [List.mapM_cons, List.mapM_cons, mapError_bind, ← ih]
    congr 1
    funext b
    rw [mapError_bind]
    rfl

/-! ### Lists that go along with each other -/

theorem exists_of_forall₂ {R : α → β → Prop} {as : List α} {bs : List β}
    (h : List.Forall₂ R as bs) : ∀ a ∈ as, ∃ b ∈ bs, R a b := by
  induction h with
  | nil => simp
  | cons h _ ih => simpa using ⟨.inl h, fun a ha => .inr (ih a ha)⟩

theorem forall₂_iff_exists_map {Q : γ → β → Prop} {Part : γ → α → Prop} {g : α → β}
    {cs : List γ} {bs : List β} (h : ∀ c ∈ cs, ∀ b, Q c b ↔ ∃ a, Part c a ∧ g a = b) :
    List.Forall₂ Q cs bs ↔ ∃ as, List.Forall₂ Part cs as ∧ as.map g = bs := by
  induction cs generalizing bs with
  | nil => simp [eq_comm]
  | cons c cs ih =>
    simp only [List.forall₂_cons_left_iff, h c (by simp), ih fun d hd => h d (by simp [hd])]
    constructor
    · rintro ⟨_, _, ⟨a, ha, rfl⟩, ⟨as, has, rfl⟩, rfl⟩
      exact ⟨a :: as, ⟨a, as, ha, has, rfl⟩, rfl⟩
    · rintro ⟨_, ⟨a, as, ha, has, rfl⟩, rfl⟩
      exact ⟨g a, as.map g, ⟨a, ha, rfl⟩, ⟨as, has, rfl⟩, rfl⟩

theorem forall₂_unique {R S : α → β → Prop} {as : List α} {bs cs : List β}
    (hu : ∀ a b c, R a b → S a c → b = c) (h : List.Forall₂ R as bs) (h' : List.Forall₂ S as cs) :
    bs = cs := by
  induction h generalizing cs with
  | nil => exact (List.forall₂_nil_left_iff.1 h').symm
  | cons hb _ ih =>
    obtain ⟨c, cs, hc, hcs, rfl⟩ := List.forall₂_cons_left_iff.1 h'
    rw [hu _ _ _ hb hc, ih hcs]

theorem rel_find? {R : α → β → Prop} {f : α → Bool} {g : β → Bool} {as : List α}
    {bs : List β} (h : List.Forall₂ R as bs) (hfg : ∀ a b, R a b → f a = g b) :
    Option.Rel R (as.find? f) (bs.find? g) := by
  induction h with
  | nil => exact .none
  | @cons a b as bs hab _ ih =>
    rw [List.find?_cons, List.find?_cons, ← hfg a b hab]
    cases f a with
    | true => exact .some hab
    | false => exact ih

end FilterQuery
