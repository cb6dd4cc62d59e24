import Mathlib

/-!
# A queue that pops a least element

A binary heap of `container/heap`, as a program sees it through `heap.Push`, `heap.Pop` and its
root `h[0]`: a multiset of elements from which `Pop` removes a least one under the heap's `Less`.
Which of several least elements it removes depends on the heap's layout; the queue here removes
the first of them in list order, and every result below holds of it only through
`popMin_perm` and `popMin_le`, which a binary heap satisfies too.

The order is given by a key into a linear order, so that `Less` is `key a < key b`.

## Main definitions

* `MinQueue.popMin`.

## Main results

* `MinQueue.popMin_eq_none_iff`, `MinQueue.popMin_perm`, `MinQueue.popMin_le`.
* `MinQueue.mem_of_popMin`: the popped queue holds every other element.
-/

namespace MinQueue

variable {α β : Type*} [LinearOrder β] (key : α → β)

/-- `heap.Pop`: a least element, the first of them, and the queue without it. -/
def popMin : List α → Option (α × List α)
  | [] => none
  | x :: xs =>
    match popMin xs with
    | none => some (x, [])
    | some (y, ys) => if key y < key x then some (y, x :: ys) else some (x, xs)

variable {key}

@[simp] theorem popMin_eq_none_iff {l : List α} : popMin key l = none ↔ l = [] := by
  cases l with
  | nil => simp [popMin]
  | cons x xs =>
    simp only [popMin, reduceCtorEq, iff_false]
    split
    · simp
    · split <;> simp

/-- The popped element and the rest are the queue. -/
theorem popMin_perm {l : List α} {u : α} {rest : List α} (h : popMin key l = some (u, rest)) :
    l.Perm (u :: rest) := by
  induction l generalizing u rest with
  | nil => simp [popMin] at h
  | cons x xs ih =>
    simp only [popMin] at h
    split at h
    · rename_i ht
      obtain rfl := popMin_eq_none_iff.1 ht
      obtain ⟨rfl, rfl⟩ := Prod.mk.inj (Option.some.inj h)
      exact .refl _
    · rename_i y ys ht
      split at h
      · obtain ⟨rfl, rfl⟩ := Prod.mk.inj (Option.some.inj h)
        exact ((ih ht).cons x).trans (.swap _ _ _)
      · obtain ⟨rfl, rfl⟩ := Prod.mk.inj (Option.some.inj h)
        exact .refl _

/-- The popped element is least. -/
theorem popMin_le {l : List α} {u : α} {rest : List α} (h : popMin key l = some (u, rest)) :
    ∀ v ∈ l, key u ≤ key v := by
  induction l generalizing u rest with
  | nil => simp [popMin] at h
  | cons x xs ih =>
    simp only [popMin] at h
    split at h
    · rename_i ht
      obtain rfl := popMin_eq_none_iff.1 ht
      obtain ⟨rfl, rfl⟩ := Prod.mk.inj (Option.some.inj h)
      simp
    · rename_i y ys ht
      have hy := ih ht
      split at h
      · rename_i hlt
        obtain ⟨rfl, rfl⟩ := Prod.mk.inj (Option.some.inj h)
        intro v hv
        rcases List.mem_cons.1 hv with rfl | hv
        · exact hlt.le
        · exact hy v hv
      · rename_i hle
        obtain ⟨rfl, rfl⟩ := Prod.mk.inj (Option.some.inj h)
        intro v hv
        rcases List.mem_cons.1 hv with rfl | hv
        · exact le_rfl
        · exact (not_lt.1 hle).trans (hy v hv)

theorem mem_of_popMin {l : List α} {u : α} {rest : List α} (h : popMin key l = some (u, rest)) :
    u ∈ l := (popMin_perm h).mem_iff.2 (List.mem_cons_self)

/-- Every element of the queue other than the popped one is in the rest. -/
theorem mem_rest_of_popMin {l : List α} {u v : α} {rest : List α}
    (h : popMin key l = some (u, rest)) (hv : v ∈ l) (hne : v ≠ u) : v ∈ rest := by
  rcases List.mem_cons.1 ((popMin_perm h).mem_iff.1 hv) with heq | hv
  · exact absurd heq hne
  · exact hv

end MinQueue
