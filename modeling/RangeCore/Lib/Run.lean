import Mathlib.Order.Basic
import Mathlib.Data.List.TakeDrop

/-!
# Runs of a state machine

A state machine is a step function `step : σ → α → σ` from a state and an input to the next
state; its run on a list of inputs folds the step over them. Safety properties of such a machine
are stated over all runs and proved from what one step does: an invariant that holds initially
and is kept by every step holds after every run, and a quantity that no step decreases never
decreases along a run.

## Main definitions

* `StateMachine.run`, and `StateMachine.runPartial` for a step that may fail.

## Main results

* `StateMachine.run_invariant`: an inductive invariant holds after every run.
* `StateMachine.run_invariant_of_mem`: the same for a run whose inputs all keep it.
* `StateMachine.run_take_mono`: a quantity no step decreases is monotone along a run.
* `StateMachine.exists_mem_of_run_lost`: a property lost along a run was lost by one of its
  inputs.
* `StateMachine.runPartial_invariant_of_mem`: an invariant holds after a run that does not fail.
-/

namespace StateMachine

variable {σ α : Type*} (step : σ → α → σ)

/-- The state after the inputs `as`, in order, from `s`. -/
def run (s : σ) (as : List α) : σ := as.foldl step s

@[simp] theorem run_nil (s : σ) : run step s [] = s := rfl

@[simp] theorem run_cons (s : σ) (a : α) (as : List α) :
    run step s (a :: as) = run step (step s a) as := rfl

theorem run_append (s : σ) (as bs : List α) :
    run step s (as ++ bs) = run step (run step s as) bs :=
  List.foldl_append

/-- An invariant that holds initially and is kept by every step holds after every run. -/
theorem run_invariant (P : σ → Prop) {s : σ} (h0 : P s) (hstep : ∀ s a, P s → P (step s a))
    (as : List α) : P (run step s as) := by
  induction as generalizing s with
  | nil => exact h0
  | cons a as ih => exact ih (hstep s a h0)

/-- An invariant kept by every step on the inputs of the run holds after it. -/
theorem run_invariant_of_mem (P : σ → Prop) {s : σ} {as : List α} (h0 : P s)
    (hstep : ∀ s, ∀ a ∈ as, P s → P (step s a)) : P (run step s as) := by
  induction as generalizing s with
  | nil => exact h0
  | cons a as ih =>
    exact ih (hstep s a List.mem_cons_self h0) fun s b hb => hstep s b (List.mem_cons_of_mem a hb)

/-- A property that a step loses only on an input of `Q` is lost along a run only if one of the
run's inputs is one of `Q`. -/
theorem exists_mem_of_run_lost (P : σ → Prop) (Q : α → Prop)
    (hstep : ∀ s a, P s → ¬ P (step s a) → Q a) {s : σ} (hs : P s) {as : List α}
    (hlost : ¬ P (run step s as)) : ∃ a ∈ as, Q a := by
  induction as generalizing s with
  | nil => exact absurd hs hlost
  | cons a as ih =>
    by_cases hnext : P (step s a)
    · obtain ⟨b, hb, hq⟩ := ih hnext hlost
      exact ⟨b, List.mem_cons_of_mem a hb, hq⟩
    · exact ⟨a, List.mem_cons_self, hstep s a hs hnext⟩

/-- A quantity that no step from an invariant state decreases does not decrease over a run. -/
theorem run_mono {β : Type*} [Preorder β] (P : σ → Prop) (f : σ → β)
    (hP : ∀ s a, P s → P (step s a)) (hstep : ∀ s a, P s → f s ≤ f (step s a)) {s : σ} (hs : P s)
    (as : List α) : f s ≤ f (run step s as) := by
  induction as generalizing s with
  | nil => exact le_rfl
  | cons a as ih => exact (hstep s a hs).trans (ih (hP s a hs))

/-- A quantity that no step from an invariant state decreases is monotone along a run: it is no
larger after `i` inputs than after `j ≥ i`. -/
theorem run_take_mono {β : Type*} [Preorder β] (P : σ → Prop) (f : σ → β)
    (hP : ∀ s a, P s → P (step s a)) (hstep : ∀ s a, P s → f s ≤ f (step s a)) {s : σ} (hs : P s)
    (as : List α) {i j : ℕ} (hij : i ≤ j) :
    f (run step s (as.take i)) ≤ f (run step s (as.take j)) := by
  have hsplit : as.take j = as.take i ++ (as.take j).drop i := by
    conv_lhs => rw [← List.take_append_drop i (as.take j)]
    rw [List.take_take, Nat.min_eq_left hij]
  rw [hsplit, run_append]
  exact run_mono step P f hP hstep (run_invariant step P hs hP _) _

/-- The run of a step that may fail: the state after the inputs, or `none` from the first step
that fails. -/
def runPartial (f : σ → α → Option σ) (s : σ) : List α → Option σ
  | [] => some s
  | a :: as => (f s a).bind fun s' => runPartial f s' as

/-- An invariant kept by every step on the inputs holds after a run that does not fail. -/
theorem runPartial_invariant_of_mem (f : σ → α → Option σ) (P : σ → Prop) {s s' : σ}
    {as : List α} (h0 : P s) (hstep : ∀ s, ∀ a ∈ as, ∀ s', f s a = some s' → P s → P s')
    (h : runPartial f s as = some s') : P s' := by
  induction as generalizing s with
  | nil =>
    rw [runPartial, Option.some_inj] at h
    exact h ▸ h0
  | cons a as ih =>
    obtain ⟨s₁, h₁, h⟩ := Option.bind_eq_some_iff.1 h
    exact ih (hstep s a List.mem_cons_self s₁ h₁ h0)
      (fun s b hb => hstep s b (List.mem_cons_of_mem a hb)) h

end StateMachine
