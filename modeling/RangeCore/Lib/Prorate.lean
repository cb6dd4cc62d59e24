import Mathlib

/-!
# Pro-rata shares on a fixed scale

A payer owes the amounts `u₁, …, uₙ`, of total `U`, and has a budget `B`. It pays each claimant
`uᵢ * p / d`, rounded down, for a scale `p` out of `d`: the full `d` when the budget covers the
total, and `B * d / U`, rounded down, otherwise. Rounding each share down never pays more than
rounding the whole, so the shares add up to at most the budget; no share exceeds its claim; and
when the budget covers the total every claim is paid in full.

## Main definitions

* `Prorate.scale`: the scale out of `d` that a budget allows for a total.

## Main results

* `Prorate.mul_div_le`, `Prorate.share_le`: a share is at most its claim.
* `Prorate.share_of_le`: a covered total is paid in full.
* `Prorate.sum_shares_le`: the shares add up to at most the budget.
-/

namespace Prorate

/-- The scale out of `d` at which a budget pays a total: all of it when the budget covers it,
the budget's fraction of it, rounded down, otherwise. -/
def scale (d budget total : ℕ) : ℕ := if budget < total then budget * d / total else d

variable {d budget total : ℕ}

theorem scale_le : scale d budget total ≤ d := by
  unfold scale
  split_ifs with h
  · exact Nat.div_le_of_le_mul (Nat.mul_le_mul_right d h.le)
  · exact le_rfl

theorem scale_of_le (h : total ≤ budget) : scale d budget total = d := by
  simp [scale, Nat.not_lt.2 h]

/-- The whole total at the scale is within the budget. -/
theorem total_mul_scale_div_le (hd : 0 < d) : total * scale d budget total / d ≤ budget := by
  unfold scale
  split_ifs with h
  · -- `total * (budget * d / total) ≤ budget * d`
    exact Nat.div_le_of_le_mul (by simpa [Nat.mul_comm d] using Nat.mul_div_le (budget * d) total)
  · rw [Nat.mul_div_cancel _ hd]
    exact Nat.not_lt.1 h

/-- A claim scaled by at most `d` out of `d` is at most the claim. -/
theorem mul_div_le {u p : ℕ} (h : p ≤ d) : u * p / d ≤ u :=
  Nat.div_le_of_le_mul (by simpa [Nat.mul_comm d] using Nat.mul_le_mul_left u h)

/-- A share is at most its claim. -/
theorem share_le (u : ℕ) : u * scale d budget total / d ≤ u := mul_div_le scale_le

/-- When the budget covers the total, every claim is paid in full. -/
theorem share_of_le (u : ℕ) (hd : 0 < d) (h : total ≤ budget) :
    u * scale d budget total / d = u := by
  rw [scale_of_le h, Nat.mul_div_cancel _ hd]

/-- Rounding each share down pays at most the rounded-down whole. -/
theorem sum_map_mul_div_le (us : List ℕ) (p d : ℕ) :
    (us.map (· * p / d)).sum ≤ us.sum * p / d := by
  induction us with
  | nil => simp
  | cons u us ih =>
    simp only [List.map_cons, List.sum_cons, Nat.add_mul]
    calc u * p / d + (us.map (· * p / d)).sum
        ≤ u * p / d + us.sum * p / d := Nat.add_le_add_left ih _
      _ ≤ (u * p + us.sum * p) / d := Nat.div_add_div_le_add_div

/-- The shares of the claims `us`, at the scale their total allows, add up to at most the
budget. -/
theorem sum_shares_le (us : List ℕ) (hd : 0 < d) :
    (us.map (· * scale d budget us.sum / d)).sum ≤ budget :=
  (sum_map_mul_div_le us _ d).trans (total_mul_scale_div_le hd)

end Prorate
