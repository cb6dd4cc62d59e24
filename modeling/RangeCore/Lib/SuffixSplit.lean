import Mathlib.Data.List.DropRight
import Mathlib.Data.List.Induction

/-!
# Splitting a list before its longest marked suffix

For a predicate `p`, `List.rdropWhile p l` and `List.rtakeWhile p l` cut `l` just after its last
unmarked element. A program that reads such a split off a list either scans forward, remembering
whether a marked element has been seen, or scans backward by index until it meets an unmarked
element. This file states the split in the two forms such scans produce: as a concatenation
`u ++ c` of an unmarked-ending prefix and a marked suffix, and as a cut at an index.

## Main results

* `List.rtakeWhile_append_of_forall`, `List.rdropWhile_append_of_forall`: the split of `u ++ c`
  when `c` is marked throughout and `u` does not end in a marked element.
* `List.rtakeWhile_eq_drop_of_index`, `List.rdropWhile_eq_take_of_index`: the split at the last
  unmarked index.
-/

namespace List

variable {α : Type*} (p : α → Bool)

/-- Marked elements appended after an unmarked-ending prefix are exactly the longest marked
suffix. -/
theorem rtakeWhile_append_of_forall {u c : List α} (hu : ∀ x ∈ u.getLast?, p x = false)
    (hc : ∀ x ∈ c, p x) : rtakeWhile p (u ++ c) = c := by
  induction c using List.reverseRecOn with
  | nil =>
    rw [append_nil, rtakeWhile_eq_nil_iff]
    intro hne
    simpa using hu (u.getLast hne) (getLast?_eq_some_getLast hne)
  | append_singleton c x ih =>
    have hx : p x := hc x (mem_append_right c (mem_singleton_self x))
    rw [← append_assoc, rtakeWhile_concat_pos p (u ++ c) x hx,
      ih fun y hy => hc y (mem_append_left [x] hy)]

/-- Dropping the longest marked suffix of `u ++ c` leaves `u`, under the hypotheses of
`rtakeWhile_append_of_forall`. -/
theorem rdropWhile_append_of_forall {u c : List α} (hu : ∀ x ∈ u.getLast?, p x = false)
    (hc : ∀ x ∈ c, p x) : rdropWhile p (u ++ c) = u := by
  have h := rdropWhile_append_rtakeWhile (p := p) (l := u ++ c)
  rw [rtakeWhile_append_of_forall p hu hc] at h
  exact append_cancel_right h

/-- An unmarked prefix ends in an unmarked element. -/
theorem getLast?_forall_of_forall {u : List α} (hu : ∀ x ∈ u, p x = false) :
    ∀ x ∈ u.getLast?, p x = false :=
  fun x hx => hu x (mem_of_getLast? hx)

/-- When `l[i]` is unmarked and every later element is marked, the longest marked suffix starts
at `i + 1`. -/
theorem rtakeWhile_eq_drop_of_index {l : List α} {i : ℕ} (hi : i < l.length)
    (hneg : p l[i] = false) (hpos : ∀ j (hj : j < l.length), i < j → p l[j]) :
    rtakeWhile p l = l.drop (i + 1) := by
  have hlast : ∀ x ∈ (l.take (i + 1)).getLast?, p x = false := by
    intro x hx
    rw [getLast?_take, if_neg (Nat.succ_ne_zero i), Nat.add_sub_cancel,
      getElem?_eq_getElem hi] at hx
    rw [← Option.some.inj hx]
    exact hneg
  have hdrop : ∀ x ∈ l.drop (i + 1), p x := by
    intro x hx
    obtain ⟨k, hk, rfl⟩ := getElem_of_mem hx
    rw [getElem_drop]
    exact hpos _ _ (by omega)
  conv_lhs => rw [← take_append_drop (i + 1) l]
  exact rtakeWhile_append_of_forall p hlast hdrop

/-- The prefix left by `rtakeWhile_eq_drop_of_index`. -/
theorem rdropWhile_eq_take_of_index {l : List α} {i : ℕ} (hi : i < l.length)
    (hneg : p l[i] = false) (hpos : ∀ j (hj : j < l.length), i < j → p l[j]) :
    rdropWhile p l = l.take (i + 1) := by
  have h := rdropWhile_append_rtakeWhile (p := p) (l := l)
  rw [rtakeWhile_eq_drop_of_index p hi hneg hpos] at h
  conv_rhs at h => rw [← take_append_drop (i + 1) l]
  exact append_cancel_right h

end List
