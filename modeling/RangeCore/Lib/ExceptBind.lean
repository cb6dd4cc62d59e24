import Mathlib.Logic.Basic

/-!
# Peeling successful `Except` computations

Programs that return an error value or a result are modelled in the `Except` monad. Reasoning
about a run that succeeded goes backwards through its binds: each bound computation succeeded,
with a value the rest was run on, and each guard `if c then throw e` did not fire. These lemmas
state that once, so that proofs about such programs take them apart with `obtain` instead of
unfolding the monad.

## Main results

* `Except.bind_eq_ok_iff`: a successful bind.
* `Except.ite_throw_bind_eq_ok_iff`: a guard in `do` notation passed.
* `Except.ite_bind_eq_ok_iff`: a branch in `do` notation followed by more of it succeeded.
* `Except.foldlM_invariant`: a successful fold keeps what each successful step keeps.
* `Option.bind_eq_none_iff_of_forall`: an `Option` bind whose rest fails whatever it is given.
-/

universe u v w

namespace Except

variable {ε : Type u} {α β : Type v}

theorem pure_eq_ok (a : α) : (pure a : Except ε α) = .ok a := rfl

@[simp] theorem ok_bind (a : α) (f : α → Except ε β) : (Except.ok a >>= f) = f a := rfl

@[simp] theorem error_bind (e : ε) (f : α → Except ε β) :
    (Except.error e >>= f : Except ε β) = .error e := rfl

@[simp] theorem throw_bind (e : ε) (f : α → Except ε β) :
    (throw e >>= f : Except ε β) = .error e := rfl

@[simp] theorem throw_ne_ok (e : ε) (a : α) : (throw e : Except ε α) ≠ .ok a := nofun

/-- A branch whose first arm fails succeeded exactly when its condition is false and the other arm
succeeded. -/
@[simp] theorem ite_error_eq_ok_iff {c : Prop} [Decidable c] {e : ε} {x : Except ε α} {a : α} :
    (if c then .error e else x) = .ok a ↔ ¬c ∧ x = .ok a := by
  by_cases hc : c <;> simp [hc]

@[simp] theorem ite_eq_ok_iff_of_error {c : Prop} [Decidable c] {e : ε} {x : Except ε α}
    {a : α} : (if c then x else .error e) = .ok a ↔ c ∧ x = .ok a := by
  by_cases hc : c <;> simp [hc]

/-- A bind succeeded exactly when its first computation did and the rest succeeded on its
value. -/
theorem bind_eq_ok_iff {x : Except ε α} {f : α → Except ε β} {b : β} :
    x >>= f = .ok b ↔ ∃ a, x = .ok a ∧ f a = .ok b := by
  cases x with
  | error e => simp
  | ok a => simp

/-- A guard `if c then throw e` in `do` notation, which elaborates to a branch on `c` whose first
arm throws, passed exactly when `c` is false and the rest succeeded. -/
theorem ite_throw_bind_eq_ok_iff {c : Prop} [Decidable c] {e : ε} {f : PUnit → Except ε β}
    {x : Except ε β} {b : β} : (if c then throw e >>= f else x) = .ok b ↔ ¬c ∧ x = .ok b := by
  by_cases hc : c
  · simp only [hc, ↓reduceIte, not_true_eq_false, false_and, iff_false]
    exact fun h => nomatch h
  · simp only [hc, ↓reduceIte, not_false_eq_true, true_and]

/-- A branch followed by more `do` notation, which elaborates to the branch with the rest in each
arm, succeeded exactly when the branch did and the rest succeeded on its value. -/
theorem ite_bind_eq_ok_iff {c : Prop} [Decidable c] {x y : Except ε α} {f : α → Except ε β}
    {b : β} : (if c then x >>= f else y >>= f) = .ok b ↔
      ∃ a, (if c then x else y) = .ok a ∧ f a = .ok b := by
  split <;> exact bind_eq_ok_iff

/-- A mapped computation succeeded exactly when the computation did, with the value mapped. -/
theorem map_eq_ok_iff {f : α → β} {x : Except ε α} {b : β} :
    x.map f = .ok b ↔ ∃ a, x = .ok a ∧ f a = b := by
  cases x with
  | error e => simp [Except.map]
  | ok a => simp [Except.map]

/-- A fold in `Except` that succeeded kept every property that each successful step keeps. -/
theorem foldlM_invariant {γ : Type w} {f : α → γ → Except ε α} (P : α → Prop)
    (hstep : ∀ a c a', P a → f a c = .ok a' → P a') {l : List γ} {a a' : α} (ha : P a)
    (h : l.foldlM f a = .ok a') : P a' := by
  induction l generalizing a with
  | nil =>
    cases h
    exact ha
  | cons c l ih =>
    rw [List.foldlM_cons] at h
    obtain ⟨a₁, h₁, h'⟩ := bind_eq_ok_iff.1 h
    exact ih (hstep a c a₁ ha h₁) h'

end Except

namespace Option

/-- A bind whose continuation fails or not whatever value it is given fails exactly when the
first computation or the continuation does: a chain of independent binds fails when one fails. -/
theorem bind_eq_none_iff_of_forall {α β : Type*} {x : Option α} {g : α → Option β} {P : Prop}
    (hg : ∀ a, g a = none ↔ P) : x.bind g = none ↔ x = none ∨ P := by
  cases x with
  | none => simp
  | some a => simp [hg]

end Option
