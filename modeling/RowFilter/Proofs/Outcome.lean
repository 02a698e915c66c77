/-! # Outcomes

Facts about computations that give a value or fail with an error: what a sequence of two needs
to succeed, which errors it can fail with, and how two computations compare.
-/

namespace RowFilter.Outcome

variable {ε α β : Type}

theorem bind_eq_ok {x : Except ε α} {f : α → Except ε β} {b : β} :
    (x >>= f) = .ok b ↔ ∃ a, x = .ok a ∧ f a = .ok b := by
  cases x <;> simp [bind, Except.bind]

theorem bind_eq_error {x : Except ε α} {f : α → Except ε β} {e : ε} :
    (x >>= f) = .error e ↔ x = .error e ∨ ∃ a, x = .ok a ∧ f a = .error e := by
  cases x <;> simp [bind, Except.bind]

theorem map_eq_ok {x : Except ε α} {f : α → β} {b : β} :
    x.map f = .ok b ↔ ∃ a, x = .ok a ∧ f a = b := by
  cases x <;> simp [Except.map]

theorem mapError_eq_ok {ε' : Type} {x : Except ε α} {f : ε → ε'} {a : α} :
    x.mapError f = .ok a ↔ x = .ok a := by
  constructor
  · cases x with
    | error e => rintro ⟨⟩
    | ok b => rintro ⟨⟩; rfl
  · rintro rfl
    rfl

/-- Where every step gives a value, so does the sequence of them. -/
theorem mapM_eq_ok {f : α → Except ε β} {g : α → β} {xs : List α}
    (h : ∀ x ∈ xs, f x = .ok (g x)) : xs.mapM f = .ok (xs.map g) := by
  induction xs with
  | nil => rfl
  | cons x rest ih =>
      rw [List.forall_mem_cons] at h
      rw [List.mapM_cons, h.1, ih h.2]
      rfl

/-- A sequence of steps gives the values that the steps give one by one. -/
theorem mapM_eq_ok_iff {f : α → Except ε β} {xs : List α} {ys : List β} :
    xs.mapM f = .ok ys ↔ xs.map f = ys.map Except.ok := by
  induction xs generalizing ys with
  | nil => cases ys <;> simp [pure, Except.pure]
  | cons x rest ih =>
      rw [List.mapM_cons]
      cases ys <;> simp [bind_eq_ok, ih, pure, Except.pure]

theorem exists_map_ok {f : α → Except ε β} {xs : List α}
    (each : ∀ x ∈ xs, ∃ y, f x = .ok y) : ∃ ys : List β, xs.map f = ys.map Except.ok := by
  induction xs with
  | nil => exact ⟨[], rfl⟩
  | cons x rest ih =>
      rw [List.forall_mem_cons] at each
      obtain ⟨⟨y, first⟩, others⟩ := each
      obtain ⟨ys, later⟩ := ih others
      exact ⟨y :: ys, by rw [List.map_cons, List.map_cons, first, later]⟩

theorem forM_eq_ok {f : α → Except ε PUnit} {xs : List α} :
    xs.forM f = .ok () ↔ ∀ x ∈ xs, f x = .ok () := by
  induction xs with
  | nil => simp [pure, Except.pure]
  | cons x rest ih =>
      change (f x >>= fun _ => rest.forM f) = _ ↔ _
      rw [bind_eq_ok, List.forall_mem_cons, ← ih]
      exact ⟨fun ⟨_, first, others⟩ => ⟨first, others⟩, fun ⟨first, others⟩ => ⟨_, first, others⟩⟩

/-- The outcome is a value, or an error of the kind that is admitted. -/
def FailsOnly (admitted : ε → Prop) (x : Except ε α) : Prop := ∀ e, x = .error e → admitted e

theorem FailsOnly.ok (admitted : ε → Prop) (a : α) : FailsOnly admitted (.ok a : Except ε α) := by
  intro e h
  cases h

theorem FailsOnly.bind {admitted : ε → Prop} {x : Except ε α} {f : α → Except ε β}
    (hx : FailsOnly admitted x) (hf : ∀ a, x = .ok a → FailsOnly admitted (f a)) :
    FailsOnly admitted (x >>= f) := by
  intro e h
  rcases bind_eq_error.mp h with first | ⟨a, value, second⟩
  · exact hx e first
  · exact hf a value e second

theorem FailsOnly.error {admitted : ε → Prop} {e : ε} (h : admitted e) :
    FailsOnly admitted (.error e : Except ε α) := by
  intro e' same
  cases same
  exact h

theorem FailsOnly.mapM {admitted : ε → Prop} {f : α → Except ε β} {xs : List α}
    (h : ∀ x ∈ xs, FailsOnly admitted (f x)) : FailsOnly admitted (xs.mapM f) := by
  induction xs with
  | nil => exact .ok admitted _
  | cons x rest ih =>
      rw [List.forall_mem_cons] at h
      rw [List.mapM_cons]
      exact h.1.bind fun _ _ => (ih h.2).bind fun _ _ => .ok admitted _

theorem FailsOnly.forM {admitted : ε → Prop} {f : α → Except ε PUnit} {xs : List α}
    (h : ∀ x ∈ xs, FailsOnly admitted (f x)) : FailsOnly admitted (xs.forM f) := by
  induction xs with
  | nil => exact .ok admitted _
  | cons x rest ih =>
      rw [List.forall_mem_cons] at h
      exact h.1.bind fun _ _ => ih h.2

theorem FailsOnly.mono {admitted wider : ε → Prop} (h : ∀ e, admitted e → wider e)
    {x : Except ε α} (hx : FailsOnly admitted x) : FailsOnly wider x :=
  fun e error => h e (hx e error)

/-- Whatever value the first computation gives, the second gives. -/
def Extends (x y : Except ε α) : Prop := ∀ a, x = .ok a → y = .ok a

theorem Extends.refl (x : Except ε α) : Extends x x := fun _ value => value

theorem Extends.bind {x y : Except ε α} {f g : α → Except ε β} (h : Extends x y)
    (next : ∀ a, Extends (f a) (g a)) : Extends (x >>= f) (y >>= g) := by
  intro b value
  obtain ⟨a, first, second⟩ := bind_eq_ok.mp value
  exact bind_eq_ok.mpr ⟨a, h a first, next a b second⟩

theorem Extends.map {x y : Except ε α} (h : Extends x y) (f : α → β) :
    Extends (x.map f) (y.map f) := by
  intro b value
  obtain ⟨a, first, same⟩ := map_eq_ok.mp value
  exact map_eq_ok.mpr ⟨a, h a first, same⟩

/-- A guard may be exchanged for one that refuses less. -/
theorem Extends.guard {p q : Prop} [Decidable p] [Decidable q] (weaker : q → p) {e e' : ε}
    {x y : Except ε α} (h : Extends x y) :
    Extends (if p then .error e else x) (if q then .error e' else y) := by
  intro a value
  split at value
  · cases value
  · rename_i passed
    rw [if_neg (mt weaker passed)]
    exact h a value

/-- Two computations fail with the same error, or give values that are related. -/
inductive Alike {α' : Type} (r : α → α' → Prop) : Except ε α → Except ε α' → Prop where
  | error (e : ε) : Alike r (.error e) (.error e)
  | ok {a : α} {a' : α'} : r a a' → Alike r (.ok a) (.ok a')

section Alike

variable {α' β' : Type} {r : α → α' → Prop} {x : Except ε α} {x' : Except ε α'}

theorem Alike.of_eq {r : α → α → Prop} (same : ∀ a, r a a) (x : Except ε α) : Alike r x x := by
  cases x with
  | error e => exact .error e
  | ok a => exact .ok (same a)

theorem Alike.bind {s : β → β' → Prop} {f : α → Except ε β} {f' : α' → Except ε β'}
    (h : Alike r x x') (next : ∀ a a', r a a' → Alike s (f a) (f' a')) :
    Alike s (x >>= f) (x' >>= f') := by
  cases h with
  | error e => exact .error e
  | ok related => exact next _ _ related

/-- A first step that both computations share. -/
theorem Alike.after {s : β → β' → Prop} {f : α → Except ε β} {f' : α → Except ε β'}
    (x : Except ε α) (next : ∀ a, Alike s (f a) (f' a)) : Alike s (x >>= f) (x >>= f') := by
  cases x with
  | error e => exact .error e
  | ok a => exact next a

theorem Alike.guard {p : Prop} [Decidable p] (e : ε) (h : Alike r x x') :
    Alike r (if p then .error e else x) (if p then .error e else x') := by
  split
  · exact .error e
  · exact h

theorem Alike.error_iff (h : Alike r x x') (e : ε) : x = .error e ↔ x' = .error e := by
  cases h <;> simp

theorem Alike.related (h : Alike r x x') {a : α} {a' : α'} (value : x = .ok a)
    (value' : x' = .ok a') : r a a' := by
  subst value value'
  cases h with
  | ok related => exact related

end Alike

/-- Two computations both fail, each with an error of its own, or both give values, and these are
related. -/
inductive Together {α' : Type} (r : α → α' → Prop) : Except ε α → Except ε α' → Prop where
  | error (e e' : ε) : Together r (.error e) (.error e')
  | ok {a : α} {a' : α'} : r a a' → Together r (.ok a) (.ok a')

section Together

variable {α' β' : Type} {r : α → α' → Prop} {x : Except ε α} {x' : Except ε α'}

theorem Together.bind {s : β → β' → Prop} {f : α → Except ε β} {f' : α' → Except ε β'}
    (h : Together r x x') (next : ∀ a a', r a a' → Together s (f a) (f' a')) :
    Together s (x >>= f) (x' >>= f') := by
  cases h with
  | error e e' => exact .error e e'
  | ok related => exact next _ _ related

/-- A first step that both computations share. -/
theorem Together.after {s : β → β' → Prop} {f : α → Except ε β} {f' : α → Except ε β'}
    (x : Except ε α) (next : ∀ a, Together s (f a) (f' a)) : Together s (x >>= f) (x >>= f') := by
  cases x with
  | error e => exact .error e e
  | ok a => exact next a

theorem Together.map {s : β → β' → Prop} {f : α → β} {f' : α' → β'} (h : Together r x x')
    (next : ∀ a a', r a a' → s (f a) (f' a')) : Together s (x.map f) (x'.map f') := by
  cases h with
  | error e e' => exact .error e e'
  | ok related => exact .ok (next _ _ related)

theorem Together.related (h : Together r x x') {a : α} {a' : α'} (value : x = .ok a)
    (value' : x' = .ok a') : r a a' := by
  subst value value'
  cases h with
  | ok related => exact related

end Together

end RowFilter.Outcome
