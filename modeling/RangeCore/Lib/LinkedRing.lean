import Mathlib.Data.List.Chain
import Mathlib.Data.List.Nodup

/-!
# Rings of links

A circular doubly linked list keeps for each element a link `next` to the element after it and a
link `prev` to the one before, the last element linking on to the first. `LinkedRing.IsRing next
prev l` says that the links follow the list `l` that way, with no element twice.

The operations of such a list relink a few elements at a time, and each one leaves a ring on a new
list: inserting an element after the last one (`IsRing.insert`), unlinking one
(`IsRing.erase`), and starting the list at another element (`IsRing.append_comm`,
`IsRing.rotate_one`); the links of elements off the ring do not matter (`IsRing.congr`).

## Main definitions

* `LinkedRing.Linked`, `LinkedRing.IsRing`.

## Main results

* `LinkedRing.IsRing.insert`, `LinkedRing.IsRing.erase`, `LinkedRing.IsRing.append_comm`.
* `LinkedRing.IsRing.eq_singleton_of_next_eq`: an element that is its own successor is alone.
-/

namespace LinkedRing

variable {α : Type*} (next prev : α → α)

/-- `b` follows `a`: `a` links forward to `b`, and `b` back to `a`. -/
def Linked (a b : α) : Prop := next a = b ∧ prev b = a

/-- The links make a ring of the elements of `l` in its order: none of them twice, each linked
to the one after it, and the last one to the first. -/
structure IsRing (l : List α) : Prop where
  nodup : l.Nodup
  chain : (l ++ l.take 1).IsChain (Linked next prev)

variable {next prev} {a b m : α} {l p s t : List α}

theorem isRing_nil : IsRing next prev [] := ⟨List.nodup_nil, List.IsChain.nil⟩

theorem isRing_singleton : IsRing next prev [a] ↔ next a = a ∧ prev a = a := by
  have hpair : [a, a].IsChain (Linked next prev) ↔ Linked next prev a a := List.isChain_pair
  exact ⟨fun h => hpair.1 h.chain, fun h => ⟨List.nodup_singleton a, hpair.2 h⟩⟩

theorem isRing_cons :
    IsRing next prev (a :: t) ↔
      (a :: t).Nodup ∧ ((a :: t) ++ [a]).IsChain (Linked next prev) :=
  ⟨fun h => ⟨h.nodup, h.chain⟩, fun h => ⟨h.1, h.2⟩⟩

namespace IsRing

/-- The links of the elements off the ring may be anything. -/
theorem congr {next' prev' : α → α} (h : IsRing next prev l) (hn : ∀ x ∈ l, next' x = next x)
    (hp : ∀ x ∈ l, prev' x = prev x) : IsRing next' prev' l := by
  have hmem : ∀ x ∈ l ++ l.take 1, x ∈ l := fun x hx =>
    (List.mem_append.1 hx).elim id List.mem_of_mem_take
  refine ⟨h.nodup, h.chain.imp_of_mem_imp fun x y hx hy hxy => ?_⟩
  exact ⟨(hn x (hmem x hx)).trans hxy.1, (hp y (hmem y hy)).trans hxy.2⟩

/-- The first element links forward to the second, or to itself when it is alone. -/
theorem next_head (h : IsRing next prev (a :: t)) : next a = t.headD a := by
  have hc := (isRing_cons.1 h).2
  cases t with
  | nil => exact (List.isChain_pair.1 hc).1
  | cons b u => exact (List.isChain_cons_cons.1 hc).1.1

/-- The last element links forward to the first, and the first back to it. -/
theorem linked_getLast (h : IsRing next prev (a :: t)) :
    Linked next prev ((a :: t).getLast (List.cons_ne_nil a t)) a := by
  have hc := List.isChain_append.1 (isRing_cons.1 h).2
  exact hc.2.2 _ (List.getLast?_eq_some_getLast (List.cons_ne_nil a t)) a rfl

/-- The list may start at its second element. -/
theorem rotate_one (h : IsRing next prev (a :: t)) : IsRing next prev (t ++ [a]) := by
  have hnodup : (t ++ [a]).Nodup := List.perm_append_singleton a t |>.nodup_iff.2 h.nodup
  cases t with
  | nil => exact h
  | cons b u =>
    have hc := List.isChain_cons_cons.1 (isRing_cons.1 h).2
    refine ⟨hnodup, ?_⟩
    rw [List.cons_append, List.take_succ_cons, List.take_zero]
    refine List.IsChain.append hc.2 (List.isChain_singleton b) fun x hx y hy => ?_
    rw [List.getLast?_eq_some_getLast (List.cons_ne_nil _ _), Option.mem_some_iff] at hx
    rw [List.head?_cons, Option.mem_some_iff] at hy
    subst hx hy
    simpa using hc.1

/-- The list may start at any of its elements. -/
theorem append_comm (h : IsRing next prev (p ++ s)) : IsRing next prev (s ++ p) := by
  induction p generalizing s with
  | nil => simpa using h
  | cons a p ih =>
    have hrot : IsRing next prev (p ++ s ++ [a]) :=
      (show IsRing next prev (a :: (p ++ s)) from h).rotate_one
    have h' := ih (s := s ++ [a]) (by simpa using hrot)
    simpa using h'

/-- An element that links forward to itself is alone on the ring. -/
theorem eq_singleton_of_next_eq (h : IsRing next prev (a :: t)) (hn : next a = a) : t = [] := by
  cases t with
  | nil => rfl
  | cons b u =>
    have hab : b = a := by simpa [h.next_head] using hn
    exact absurd (by simp [hab]) (List.nodup_cons.1 h.nodup).1

/-- Inserting `m` after the last element: the last element and `m` link forward to `m` and to
the first one, the first one and `m` back to `m` and to the last one, and no other link of the
ring changes. -/
theorem insert {next' prev' : α → α} (h : IsRing next prev (a :: t)) (hm : m ∉ a :: t)
    (hn : ∀ x ∈ a :: t, x ≠ (a :: t).getLast (List.cons_ne_nil a t) → next' x = next x)
    (hp : ∀ x ∈ a :: t, x ≠ a → prev' x = prev x)
    (hlast : Linked next' prev' ((a :: t).getLast (List.cons_ne_nil a t)) m)
    (hfirst : Linked next' prev' m a) : IsRing next' prev' (a :: t ++ [m]) := by
  have hnd := List.nodup_cons.1 h.nodup
  refine ⟨List.nodup_append.2 ⟨h.nodup, List.nodup_singleton m, fun x hx y hy => ?_⟩, ?_⟩
  · rw [List.mem_singleton.1 hy]
    exact fun hxm => hm (hxm ▸ hx)
  have hlinked := h.linked_getLast
  -- the links inside `a :: t`: the element before a successor in `t` is not the last one,
  -- whose successor is `a`, and that successor is not `a`
  have hinner : (a :: t).IsChain (Linked next' prev') := by
    refine ((isRing_cons.1 h).2.left_of_append).imp_of_mem_tail_imp fun x y hx hy hxy => ?_
    have hya : y ≠ a := fun hya => hnd.1 (hya ▸ hy)
    have hxl : x ≠ (a :: t).getLast (List.cons_ne_nil a t) := by
      rintro rfl
      exact hya (hxy.1.symm.trans hlinked.1)
    exact ⟨(hn x hx hxl).trans hxy.1, (hp y (List.mem_cons_of_mem a hy) hya).trans hxy.2⟩
  have hclosing : [m, a].IsChain (Linked next' prev') := List.isChain_pair.2 hfirst
  rw [List.cons_append, List.take_succ_cons, List.take_zero, ← List.cons_append,
    List.append_assoc, List.singleton_append]
  refine hinner.append hclosing fun x hx y hy => ?_
  rw [List.getLast?_eq_some_getLast (List.cons_ne_nil _ _), Option.mem_some_iff] at hx
  rw [List.head?_cons, Option.mem_some_iff] at hy
  subst hx hy
  exact hlast

/-- Unlinking the first element `m`: its predecessor links forward to its successor and the
successor back to the predecessor, and no other link of the rest changes. -/
theorem erase_head {next' prev' : α → α} (h : IsRing next prev (m :: b :: t))
    (hn : ∀ x ∈ b :: t, x ≠ prev m → next' x = next x)
    (hp : ∀ x ∈ b :: t, x ≠ next m → prev' x = prev x)
    (hlink : Linked next' prev' (prev m) (next m)) : IsRing next' prev' (b :: t) := by
  have hnd := List.nodup_cons.1 h.nodup
  have hnext : next m = b := h.next_head
  have hlast : Linked next prev ((b :: t).getLast (List.cons_ne_nil b t)) m := by
    have := h.linked_getLast
    rwa [List.getLast_cons (List.cons_ne_nil b t)] at this
  have hprev : prev m = (b :: t).getLast (List.cons_ne_nil b t) := hlast.2
  have hinner : (b :: t).IsChain (Linked next' prev') := by
    have hc := (List.isChain_cons_cons.1 (isRing_cons.1 h).2).2
    refine hc.left_of_append.imp_of_mem_tail_imp fun x y hx hy hxy => ?_
    have hyb : y ≠ next m := hnext ▸ fun hyb => (List.nodup_cons.1 hnd.2).1 (hyb ▸ hy)
    have hxm : x ≠ prev m := by
      rintro rfl
      rw [hprev] at hxy
      exact hnd.1 (hxy.1.symm.trans hlast.1 ▸ List.mem_cons_of_mem b hy)
    exact ⟨(hn x hx hxm).trans hxy.1, (hp y (List.mem_cons_of_mem b hy) hyb).trans hxy.2⟩
  refine ⟨hnd.2, ?_⟩
  rw [List.take_succ_cons, List.take_zero]
  refine hinner.append (List.isChain_singleton b) fun x hx y hy => ?_
  rw [List.getLast?_eq_some_getLast (List.cons_ne_nil _ _), Option.mem_some_iff] at hx
  rw [List.head?_cons, Option.mem_some_iff] at hy
  subst hx hy
  rw [← hprev, ← hnext]
  exact hlink

/-- Unlinking any element `m` of a ring with others on it: its predecessor links forward to its
successor and the successor back to the predecessor, and no other link of the rest changes. -/
theorem erase {next' prev' : α → α} (h : IsRing next prev (p ++ m :: s)) (hne : p ++ s ≠ [])
    (hn : ∀ x ∈ p ++ s, x ≠ prev m → next' x = next x)
    (hp : ∀ x ∈ p ++ s, x ≠ next m → prev' x = prev x)
    (hlink : Linked next' prev' (prev m) (next m)) : IsRing next' prev' (p ++ s) := by
  have hrot : IsRing next prev (m :: (s ++ p)) := by simpa using h.append_comm (p := p)
  have hmem : ∀ x, x ∈ s ++ p ↔ x ∈ p ++ s := fun x => by simp [or_comm]
  obtain ⟨b, u, hbu⟩ : ∃ b u, s ++ p = b :: u :=
    List.exists_cons_of_ne_nil fun h' => hne (List.append_eq_nil_iff.2
      ⟨(List.append_eq_nil_iff.1 h').2, (List.append_eq_nil_iff.1 h').1⟩)
  rw [hbu] at hrot hmem
  have h' := hrot.erase_head (fun x hx => hn x ((hmem x).1 hx)) (fun x hx => hp x ((hmem x).1 hx))
    hlink
  rw [← hbu] at h'
  exact h'.append_comm

end IsRing

end LinkedRing
