/-!
# Computations that may fail

How a computation that ends well, or fails, is taken apart (`bind_eq_ok`, `mapM_eq_error`), and when
two of them end alike (`Agrees`): they are gone through in step, up to a failure that is excused.
-/

namespace OclScan

variable {ε α β : Type} {e : ε} {b : β} {x : Except ε α} {f : α → Except ε β}

theorem bind_eq_ok (h : (x >>= f) = .ok b) : ∃ a, x = .ok a ∧ f a = .ok b := by
  cases x with
  | error e => cases h
  | ok a => exact ⟨a, rfl, h⟩

theorem bind_eq_error (h : (x >>= f) = .error e) :
    x = .error e ∨ ∃ a, x = .ok a ∧ f a = .error e := by
  cases x with
  | error e' => exact .inl (congrArg _ (Except.error.inj h))
  | ok a => exact .inr ⟨a, rfl, h⟩

theorem map_eq_ok {g : α → β} (h : x.map g = .ok b) : ∃ a, x = .ok a ∧ g a = b := by
  cases x with
  | error e => cases h
  | ok a => exact ⟨a, rfl, Except.ok.inj h⟩

theorem map_eq_error {g : α → β} (h : x.map g = .error e) : x = .error e := by
  cases x with
  | error e' => exact congrArg _ (Except.error.inj h)
  | ok a => cases h

/-- A list is gone through up to the first failure. -/
theorem mapM_eq_error {xs : List α} (h : xs.mapM f = .error e) :
    ∃ (j : Nat) (x : α), xs[j]? = some x ∧ f x = .error e ∧
      ∀ i < j, ∀ y, xs[i]? = some y → ∃ b, f y = .ok b := by
  induction xs with
  | nil => cases h
  | cons x xs ih =>
    rw [List.mapM_cons] at h
    rcases bind_eq_error h with hx | ⟨b, hx, h⟩
    · exact ⟨0, x, rfl, hx, nofun⟩
    rcases bind_eq_error h with hxs | ⟨bs, -, h⟩
    · obtain ⟨j, y, hy, hfail, hbefore⟩ := ih hxs
      refine ⟨j + 1, y, hy, hfail, fun i hi z hz => ?_⟩
      cases i with
      | zero => exact ⟨b, Option.some.inj hz ▸ hx⟩
      | succ i => exact hbefore i (Nat.lt_of_succ_lt_succ hi) z hz
    · cases h

/-! ## Computations that agree -/

variable {P : ε → Prop}

/-- The second computation ends as the first, unless that one fails in a way that is excused. -/
def Agrees (P : ε → Prop) (x y : Except ε α) : Prop := y = x ∨ ∃ e, x = .error e ∧ P e

theorem Agrees.refl (x : Except ε α) : Agrees P x x := .inl rfl

theorem Agrees.map {x y : Except ε α} (h : Agrees P x y) (f : α → β) :
    Agrees P (x.map f) (y.map f) := by
  rcases h with rfl | ⟨e, rfl, he⟩
  · exact .refl _
  · exact .inr ⟨e, rfl, he⟩

theorem Agrees.bind {x y : Except ε α} {f g : α → Except ε β} (h : Agrees P x y)
    (hfg : ∀ a, Agrees P (f a) (g a)) : Agrees P (x >>= f) (y >>= g) := by
  rcases h with rfl | ⟨e, rfl, he⟩
  · cases y with
    | error e => exact .refl _
    | ok a => exact hfg a
  · exact .inr ⟨e, rfl, he⟩

/-- A list is gone through in step, up to a failure that is excused. -/
theorem Agrees.mapM {f g : α → Except ε β} {xs : List α} (h : ∀ x ∈ xs, Agrees P (f x) (g x)) :
    Agrees P (xs.mapM f) (xs.mapM g) := by
  induction xs with
  | nil => exact .refl _
  | cons x xs ih =>
    obtain ⟨hx, hxs⟩ := List.forall_mem_cons.mp h
    simp only [List.mapM_cons]
    exact hx.bind fun b => (ih hxs).bind fun bs => .refl _

/-- What does not fail, or fails in a way that is not excused, ends alike. -/
theorem Agrees.eq {x y : Except ε α} (h : Agrees P x y) (hx : ∀ e, x = .error e → ¬ P e) :
    y = x := by
  rcases h with h | ⟨e, he, hP⟩
  · exact h
  · exact absurd hP (hx e he)

end OclScan
