import Mathlib.Algebra.BigOperators.Group.List.Basic
import Mathlib.Data.List.Nodup
import Mathlib.Data.List.Perm.Basic
import Mathlib.Logic.Function.Basic

/-!
# Arrays with a position map and swap-and-pop removal

A common storage pattern keeps a set as an array together with a map from each element to its
position in the array. An element is added by pushing it and recording the old length as its
position. It is removed by moving the last element into its position, recording that position
for the moved element, and popping the array. The pair is consistent when the array has no
duplicates and the map gives the position of each element.

## Main definitions

* `IndexedList.Valid`: the array has no duplicates and the map gives the positions.

## Main results

* `IndexedList.Valid.push`: pushing a new element keeps the pair consistent.
* `IndexedList.Valid.swapPop`: so does the swap-and-pop removal of an element, and the array left
  is the old one with that element erased, up to order.
* `IndexedList.mem_swapPop`, `IndexedList.sum_map_swapPop`: what the removal leaves.
* `IndexedList.swapPopFirst`, `IndexedList.mem_swapPopFirst`: the removal of the first occurrence
  found by a linear search, and what it leaves.
-/

namespace IndexedList

variable {α : Type*}

/-- `l` has no duplicates and `idx` gives the position of each of its elements. -/
structure Valid (l : List α) (idx : α → ℕ) : Prop where
  nodup : l.Nodup
  index : ∀ i (h : i < l.length), idx l[i] = i

theorem valid_nil (idx : α → ℕ) : Valid [] idx :=
  ⟨List.nodup_nil, fun _ h => absurd h (Nat.not_lt_zero _)⟩

/-- The recorded position of an element is a position of the array holding it. -/
theorem Valid.getElem_idx {l : List α} {idx : α → ℕ} (hv : Valid l idx) {a : α} (ha : a ∈ l) :
    ∃ h : idx a < l.length, l[idx a] = a := by
  obtain ⟨i, hi, rfl⟩ := List.getElem_of_mem ha
  rw [hv.index i hi]
  exact ⟨hi, rfl⟩

theorem Valid.congr {l : List α} {idx idx' : α → ℕ} (hv : Valid l idx)
    (h : ∀ a ∈ l, idx' a = idx a) : Valid l idx' :=
  ⟨hv.nodup, fun i hi => (h _ (List.getElem_mem hi)).trans (hv.index i hi)⟩

/-- The last element sits at the last position. -/
theorem Valid.idx_last {xs : List α} {x : α} {idx : α → ℕ} (hv : Valid (xs ++ [x]) idx) :
    idx x = xs.length := by
  have := hv.index xs.length (by simp)
  simpa using this

/-- Removing the last element itself is a pop. -/
theorem Valid.swapPop_last {xs : List α} {x : α} {idx : α → ℕ} (hv : Valid (xs ++ [x]) idx) :
    ((xs ++ [x]).set (idx x) x).dropLast = xs := by
  rw [hv.idx_last, List.set_append, if_neg (Nat.lt_irrefl _), Nat.sub_self]
  simp

/-- Removing an element before the last writes the last one into its position. -/
theorem Valid.swapPop_of_mem {xs : List α} {x a : α} {idx : α → ℕ} (hv : Valid (xs ++ [x]) idx)
    (ha : a ∈ xs) :
    ∃ h : idx a < xs.length, xs[idx a] = a ∧
      ((xs ++ [x]).set (idx a) x).dropLast = xs.set (idx a) x := by
  obtain ⟨h, hget⟩ := hv.getElem_idx (List.mem_append_left _ ha)
  have hx : x ∉ xs := (List.nodup_append.1 hv.nodup).2.2 |> fun h' hx => h' x hx x
    (List.mem_singleton_self x) rfl
  have hlt : idx a < xs.length := by
    rcases Nat.lt_or_ge (idx a) xs.length with hlt | hge
    · exact hlt
    · -- the only position at or after `xs.length` holds `x`, which is not in `xs`
      have heq : idx a = xs.length := by simp at h; omega
      have hlast : (xs ++ [x])[idx a] = x := by simp [heq]
      exact absurd (by rw [hlast.symm.trans hget]; exact ha) hx
  refine ⟨hlt, ?_, ?_⟩
  · rwa [List.getElem_append_left hlt] at hget
  · rw [List.set_append, if_pos hlt, List.dropLast_concat]

variable [DecidableEq α]

/-- Pushing an element that is not in the array, at the old length. -/
theorem Valid.push {l : List α} {idx : α → ℕ} (hv : Valid l idx) {a : α} (ha : a ∉ l) :
    Valid (l ++ [a]) (Function.update idx a l.length) := by
  refine ⟨List.nodup_append.2 ⟨hv.nodup, List.nodup_singleton a, ?_⟩, ?_⟩
  · intro b hb c hc hbc
    rw [List.mem_singleton] at hc
    exact ha (hc ▸ hbc ▸ hb)
  · intro i hi
    rw [List.length_append, List.length_singleton] at hi
    rcases Nat.lt_succ_iff_lt_or_eq.1 hi with hi | rfl
    · have hne : l[i] ≠ a := fun h => ha (h ▸ List.getElem_mem hi)
      rw [List.getElem_append_left hi, Function.update_of_ne hne, hv.index i hi]
    · simp

/-- Swap-and-pop removal of an element `a` of the array, the last element being `x`: the pair
stays consistent with `x` at `a`'s old position, and the array left is `l.erase a` up to
order. -/
theorem Valid.swapPop {l : List α} {idx : α → ℕ} (hv : Valid l idx) {a x : α} (ha : a ∈ l)
    (hlast : l.getLast? = some x) :
    Valid ((l.set (idx a) x).dropLast) (Function.update idx x (idx a)) ∧
      (l.set (idx a) x).dropLast.Perm (l.erase a) := by
  obtain ⟨xs, rfl⟩ := List.getLast?_eq_some_iff.1 hlast
  have hnodup := List.nodup_append.1 hv.nodup
  have hx : x ∉ xs := fun hx => hnodup.2.2 x hx x (List.mem_singleton_self x) rfl
  -- positions of `xs` are kept by the update at `x`, which is not among them
  have hkeep : ∀ j (hj : j < xs.length), idx xs[j] = j := fun j hj => by
    have := hv.index j (by simp; omega)
    rwa [List.getElem_append_left hj] at this
  by_cases hax : a = x
  · subst hax
    rw [hv.swapPop_last]
    refine ⟨⟨hnodup.1, fun j hj => ?_⟩, ?_⟩
    · rw [Function.update_of_ne (fun h => hx (by rw [← h]; exact List.getElem_mem hj)),
        hkeep j hj]
    · rw [List.erase_append_right _ hx]
      simp
  · have ha' : a ∈ xs := by
      rcases List.mem_append.1 ha with h | h
      · exact h
      · exact absurd (List.mem_singleton.1 h) hax
    obtain ⟨hlt, hget, heq⟩ := hv.swapPop_of_mem ha'
    rw [heq]
    refine ⟨⟨List.Nodup.set hnodup.1 hx, fun j hj => ?_⟩, ?_⟩
    · rw [List.getElem_set]
      split_ifs with hij
      · rw [Function.update_self, hij]
      · have hj' : j < xs.length := by simpa using hj
        rw [Function.update_of_ne (fun h => hx (by rw [← h]; exact List.getElem_mem hj')),
          hkeep j hj']
    · -- `xs.set i x` is `xs` with position `i` erased and `x` moved to the end
      have herase := List.Nodup.erase_getElem hnodup.1 (idx a) hlt
      rw [hget] at herase
      rw [List.erase_append_left _ ha', herase, List.set_eq_take_append_cons_drop, if_pos hlt,
        List.eraseIdx_eq_take_drop_succ]
      exact List.perm_middle.trans (List.perm_append_singleton _ _).symm

/-- The elements left by a swap-and-pop removal of `a` are the others. -/
theorem mem_swapPop {l : List α} {idx : α → ℕ} (hv : Valid l idx) {a x : α} (ha : a ∈ l)
    (hlast : l.getLast? = some x) {b : α} :
    b ∈ (l.set (idx a) x).dropLast ↔ b ∈ l ∧ b ≠ a := by
  rw [(hv.swapPop ha hlast).2.mem_iff, hv.nodup.mem_erase_iff, and_comm]

/-- A sum over the array loses exactly the removed element's term. -/
theorem sum_map_swapPop {M : Type*} [AddCommGroup M] (f : α → M) {l : List α} {idx : α → ℕ}
    (hv : Valid l idx) {a x : α} (ha : a ∈ l) (hlast : l.getLast? = some x) :
    (((l.set (idx a) x).dropLast).map f).sum = (l.map f).sum - f a := by
  rw [((hv.swapPop ha hlast).2.map f).sum_eq]
  exact eq_sub_of_add_eq' (List.sum_map_erase f ha)

/-! ### Removal by a linear search

Without a position map, the element to remove is found by a linear search for its first
occurrence, and removed there by the same swap and pop. On an array without duplicates its
position is the one a position map would record, so the removal leaves the other elements. -/

/-- Swap-and-pop removal of the first occurrence of `a`, found by a linear search: the last
element is written into its position and the array popped. An array without `a` is kept. -/
def swapPopFirst (a : α) (l : List α) : List α :=
  if l.idxOf a < l.length then (l.set (l.idxOf a) (l.getLastD a)).dropLast else l

/-- In an array without duplicates, the first occurrence of each element is its position. -/
theorem valid_idxOf {l : List α} (h : l.Nodup) : Valid l (l.idxOf ·) :=
  ⟨h, fun i hi => h.idxOf_getElem i hi⟩

theorem swapPopFirst_perm {l : List α} (h : l.Nodup) (a : α) :
    (swapPopFirst a l).Perm (l.erase a) := by
  unfold swapPopFirst
  split_ifs with ha
  · have ha' : a ∈ l := List.idxOf_lt_length_iff.1 ha
    obtain ⟨x, hx⟩ : ∃ x, l.getLast? = some x :=
      Option.isSome_iff_exists.1 (List.getLast?_isSome.2 (List.ne_nil_of_mem ha'))
    rw [List.getLastD_eq_getLast?, hx, Option.getD_some]
    exact ((valid_idxOf h).swapPop ha' hx).2
  · rw [List.erase_of_not_mem (mt List.idxOf_lt_length_of_mem ha)]

theorem nodup_swapPopFirst {l : List α} (h : l.Nodup) (a : α) : (swapPopFirst a l).Nodup :=
  (swapPopFirst_perm h a).nodup_iff.2 (h.erase a)

/-- The elements left by the removal of `a` are the others. -/
theorem mem_swapPopFirst {l : List α} (h : l.Nodup) {a b : α} :
    b ∈ swapPopFirst a l ↔ b ∈ l ∧ b ≠ a := by
  rw [(swapPopFirst_perm h a).mem_iff, h.mem_erase_iff, and_comm]

end IndexedList
