import Mathlib.Order.Basic

/-!
# Iterating a partial function

`PartialFun.iterate f n a` applies a partial function `f : α → Option α` `n` times, starting from
`a`, and fails as soon as one application fails. A loop that follows `n` links of a linked
structure, any of which may be missing, computes it.

## Main definitions

* `PartialFun.iterate`

## Main results

* `PartialFun.iterate_succ'`: the last application split off.
* `PartialFun.iterate_of_links`: along a sequence whose consecutive terms are linked by `f`, the
  iteration from the first term reaches the `n`-th one.
-/

namespace PartialFun

variable {α : Type*} (f : α → Option α)

/-- `f` applied `n` times from `a`; `none` as soon as one application is `none`. -/
def iterate : ℕ → α → Option α
  | 0, a => some a
  | n + 1, a => (f a).bind (iterate n)

@[simp] theorem iterate_zero (a : α) : iterate f 0 a = some a := rfl

@[simp] theorem iterate_succ (n : ℕ) (a : α) :
    iterate f (n + 1) a = (f a).bind (iterate f n) := rfl

/-- The iteration with its last application split off. -/
theorem iterate_succ' (n : ℕ) (a : α) : iterate f (n + 1) a = (iterate f n a).bind f := by
  induction n generalizing a with
  | zero =>
    rw [iterate_succ, iterate_zero, Option.bind_some]
    cases f a <;> rfl
  | succ n ih =>
    rw [iterate_succ, iterate_succ]
    cases f a with
    | none => rfl
    | some b => exact ih b

/-- Along a sequence `g` whose terms are linked by `f`, `n` steps from `g 0` reach `g n`. -/
theorem iterate_of_links {g : ℕ → α} {n : ℕ} (hg : ∀ j < n, f (g j) = some (g (j + 1))) :
    iterate f n (g 0) = some (g n) := by
  induction n with
  | zero => rfl
  | succ n ih =>
    rw [iterate_succ', ih fun j hj => hg j (Nat.lt_succ_of_lt hj)]
    exact hg n (Nat.lt_succ_self n)

end PartialFun
