import RangeCore.Lib.GoRuntime

/-!
# Rate limiting by a table of last-use times

A rate limiter keeps, per key, the time of the key's last accepted use: a use at `now` is accepted
only when the key has no entry or its entry is at least `period` old, and then records `now`; a
periodic sweep removes entries older than `period`. One step leaves an entry written with its
own time, kept, or removed once older than `period` (`RateLimit.Step`).

After a use at `t`, and as long as every later step happens between `t` and a bound `hi`, the
entry holds a time from `t` on or it was swept after `period` had passed since `t`
(`RateLimit.Since`, kept by every step: `RateLimit.Since.step`). A use accepted at a time from
`hi` on is then at least `period` after `t` (`RateLimit.Since.period_le`). The steps in between
need not come in the order of their times.

A table whose entries are written only when empty (`RateLimit.StepOnce`) keeps an entry unchanged
as long as the steps come at most `period` after its time.

## Main definitions

* `RateLimit.Step`, `RateLimit.Since`.
* `RateLimit.StepOnce`: a step of a table whose entries are not rewritten before they are
  `period` old.

## Main results

* `RateLimit.Since.step`: the invariant through one step.
* `RateLimit.Since.period_le`: two accepted uses are `period` apart.
* `RateLimit.StepOnce.eq_of_sub_le`: such a table keeps an entry for `period`.
* `RateLimit.step_expire`, `RateLimit.stepOnce_expire`: a sweep of a Go map of times
  (`GoTime.expire`) is a step of both kinds.
-/

namespace RateLimit

/-- One step of an entry at time `now`: written with `now`, kept, or removed being older than
`period`. -/
def Step (period now : ℤ) (e e' : Option ℤ) : Prop :=
  e' = some now ∨ e' = e ∨ (e' = none ∧ ∃ v, e = some v ∧ period < now - v)

/-- Since a use at `t`, with the steps before `hi`: the entry holds a time from `t` on, or it was
removed after `period` had passed since `t`. -/
def Since (period t hi : ℤ) (e : Option ℤ) : Prop :=
  (∃ v, e = some v ∧ t ≤ v) ∨ (e = none ∧ t + period < hi)

variable {period t hi now : ℤ} {e e' : Option ℤ}

theorem Step.refl : Step period now e e := .inr (.inl rfl)

theorem since_some {v : ℤ} (h : t ≤ v) : Since period t hi (some v) := .inl ⟨v, rfl, h⟩

/-- Every step between `t` and `hi` keeps the invariant. -/
theorem Since.step (h : Since period t hi e) (hs : Step period now e e') (ht : t ≤ now)
    (hhi : now ≤ hi) : Since period t hi e' := by
  rcases hs with rfl | rfl | ⟨rfl, v, rfl, hv⟩
  · exact since_some ht
  · exact h
  · -- the removed entry was the last use's time or a later one
    rcases h with ⟨v', hv', htv⟩ | ⟨hnone, -⟩
    · cases hv'
      exact .inr ⟨rfl, by omega⟩
    · cases hnone

/-- A use accepted from `hi` on comes at least `period` after the use at `t`. -/
theorem Since.period_le (h : Since period t hi e)
    (hcheck : ∀ v, e = some v → period ≤ now - v) (hhi : hi ≤ now) : period ≤ now - t := by
  rcases h with ⟨v, rfl, htv⟩ | ⟨-, hlt⟩
  · have := hcheck v rfl
    omega
  · omega

/-! ### Tables that keep an entry for a period -/

/-- One step of an entry that is not rewritten before it is `period` old: it is kept, or, being
empty or older than `period`, it is left empty or written with `now`. -/
def StepOnce (period now : ℤ) (e e' : Option ℤ) : Prop :=
  e' = e ∨ (e' = none ∨ e' = some now) ∧ ∀ v, e = some v → period < now - v

theorem StepOnce.refl : StepOnce period now e e := .inl rfl

/-- Two such steps at one time are one. -/
theorem StepOnce.trans {e'' : Option ℤ} (h₁ : StepOnce period now e e')
    (h₂ : StepOnce period now e' e'') : StepOnce period now e e'' := by
  rcases h₁ with rfl | ⟨he', hold⟩
  · exact h₂
  · rcases h₂ with rfl | ⟨he'', -⟩
    · exact .inr ⟨he', hold⟩
    · exact .inr ⟨he'', hold⟩

/-- Such a step is a step of a rate limiter. -/
theorem StepOnce.toStep (h : StepOnce period now e e') : Step period now e e' := by
  rcases h with rfl | ⟨rfl | rfl, hold⟩
  · exact Step.refl
  · cases e with
    | none => exact Step.refl
    | some v => exact .inr (.inr ⟨rfl, v, rfl, hold v rfl⟩)
  · exact .inl rfl

/-- An entry at most `period` old is kept. -/
theorem StepOnce.eq_of_sub_le {v : ℤ} (h : StepOnce period now (some v) e')
    (hv : now - v ≤ period) : e' = some v := by
  rcases h with rfl | ⟨-, hold⟩
  · rfl
  · have := hold v rfl
    omega

/-- A sweep at `now` of a table of times with a period that is a `Duration` keeps every entry
at most that old. -/
theorem stepOnce_expire {α : Type*} (m : α → Option ℤ) (k : α) (h0 : 0 ≤ period)
    (hp : period < GoTime.maxDuration) :
    StepOnce period now (m k) (GoTime.expire m now period k) := by
  cases hk : GoTime.expire m now period k with
  | none =>
    refine .inr ⟨.inl rfl, fun v hv => ?_⟩
    exact (GoTime.lt_sub_iff h0 hp).1 (GoTime.expire_eq_none_iff.1 hk v hv)
  | some v => exact .inl (GoTime.expire_eq_some_iff.1 hk).1.symm

/-- A sweep at `now` of a table of times with a period that is a `Duration` is a step of each
entry. -/
theorem step_expire {α : Type*} (m : α → Option ℤ) (k : α) (h0 : 0 ≤ period)
    (hp : period < GoTime.maxDuration) : Step period now (m k) (GoTime.expire m now period k) :=
  (stepOnce_expire m k h0 hp).toStep

end RateLimit
