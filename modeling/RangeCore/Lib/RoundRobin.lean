import Mathlib

/-!
# Weighted round robin

A scheduler that serves elements in turns: the element whose turn it is is served once per step,
`w a` times in a row, after which the turn passes to its successor `next a`. Its state is the
element whose turn it is with the number of times it has been served in this turn, and
`RoundRobin.served next w n s` lists the elements that `n` steps from `s` serve.

A turn that has served `k` of the `w a` times serves `a` another `w a - k` times and hands over
(`served_turn`, `iterate_step_turn`). So a round over a chain of successors from the start of a
turn serves each element of the chain as often as its weight, in the chain's order
(`served_round`), and every step ends within a turn when no weight is zero (`valid_step`).

## Main definitions

* `RoundRobin.step`, `RoundRobin.served`, `RoundRobin.Valid`.

## Main results

* `RoundRobin.served_add`: the steps of two runs one after the other.
* `RoundRobin.served_turn`, `RoundRobin.iterate_step_turn`: the rest of a turn.
* `RoundRobin.served_round`: a round along a chain of successors.
-/

namespace RoundRobin

variable {α : Type*} (next : α → α) (w : α → ℕ)

/-- One step: the element whose turn it is is served once more, and after its `w`-th time in
the turn the turn passes to its successor. -/
def step (s : α × ℕ) : α × ℕ :=
  if s.2 + 1 < w s.1 then (s.1, s.2 + 1) else (next s.1, 0)

/-- The elements that `n` steps from `s` serve, in order. -/
def served : ℕ → α × ℕ → List α
  | 0, _ => []
  | n + 1, s => s.1 :: served n (step next w s)

/-- A position within a turn: fewer times served than the weight. -/
def Valid (s : α × ℕ) : Prop := s.2 < w s.1

variable {next w}

@[simp] theorem served_zero (s : α × ℕ) : served next w 0 s = [] := rfl

theorem served_succ (n : ℕ) (s : α × ℕ) :
    served next w (n + 1) s = s.1 :: served next w n (step next w s) := rfl

@[simp] theorem length_served (n : ℕ) (s : α × ℕ) : (served next w n s).length = n := by
  induction n generalizing s with
  | zero => rfl
  | succ n ih => simp [served_succ, ih]

/-- The steps of two runs one after the other. -/
theorem served_add (m n : ℕ) (s : α × ℕ) :
    served next w (m + n) s = served next w m s ++ served next w n ((step next w)^[m] s) := by
  induction m generalizing s with
  | zero => simp
  | succ m ih =>
    rw [Nat.add_right_comm, served_succ, ih, served_succ, Function.iterate_succ_apply]
    rfl

/-- The `i`-th step serves the element whose turn it is after `i` steps. -/
theorem getElem?_served {n i : ℕ} (s : α × ℕ) (hi : i < n) :
    (served next w n s)[i]? = some ((step next w)^[i] s).1 := by
  induction n generalizing i s with
  | zero => omega
  | succ n ih =>
    cases i with
    | zero => rfl
    | succ i =>
      simp only [served_succ, List.getElem?_cons_succ, Function.iterate_succ_apply]
      exact ih _ (by omega)

theorem iterate_step_within {a : α} {k j : ℕ} (h : k + j < w a) :
    (step next w)^[j] (a, k) = (a, k + j) := by
  induction j with
  | zero => rfl
  | succ j ih =>
    rw [Function.iterate_succ_apply', ih (by omega)]
    simp only [step, if_pos (show k + j + 1 < w a by omega)]
    rfl

/-- The rest of a turn hands over to the successor, with nothing served of its turn yet. -/
theorem iterate_step_turn {a : α} {k : ℕ} (h : k < w a) :
    (step next w)^[w a - k] (a, k) = (next a, 0) := by
  obtain ⟨j, hj⟩ : ∃ j, w a - k = j + 1 := ⟨w a - k - 1, by omega⟩
  rw [hj, Function.iterate_succ_apply', iterate_step_within (by omega)]
  simp only [step, if_neg (show ¬k + j + 1 < w a by omega)]

theorem served_within {a : α} {k j : ℕ} (h : k + j ≤ w a) :
    served next w j (a, k) = List.replicate j a := by
  induction j generalizing k with
  | zero => rfl
  | succ j ih =>
    rw [served_succ, List.replicate_succ]
    by_cases hlast : k + 1 < w a
    · simp only [step, if_pos hlast]
      rw [ih (by omega)]
    · have hj : j = 0 := by omega
      subst hj
      rfl

/-- The rest of a turn serves its element as many times as its weight leaves. -/
theorem served_turn {a : α} {k : ℕ} (h : k < w a) :
    served next w (w a - k) (a, k) = List.replicate (w a - k) a :=
  served_within (by omega)

/-- A round along a chain of successors, from the start of the first one's turn: each element of
the chain is served as often as its weight, in the chain's order, and the turn then passes to
the successor of the last one. -/
theorem served_round {a : α} {l : List α} (hl : (a :: l).IsChain fun x y => next x = y)
    (hw : ∀ x ∈ a :: l, 0 < w x) :
    served next w ((a :: l).map w).sum (a, 0) = (a :: l).flatMap (fun x => List.replicate (w x) x) ∧
      (step next w)^[((a :: l).map w).sum] (a, 0) =
        (next ((a :: l).getLast (List.cons_ne_nil a l)), 0) := by
  -- a whole turn, from its start
  have hturn : ∀ x, 0 < w x → (step next w)^[w x] (x, 0) = (next x, 0) := fun x hx => by
    simpa using (iterate_step_turn hx : (step next w)^[w x - 0] (x, 0) = (next x, 0))
  have hserved : ∀ x, 0 < w x → served next w (w x) (x, 0) = List.replicate (w x) x :=
    fun x hx => by simpa using (served_turn hx : served next w (w x - 0) (x, 0) = _)
  induction l generalizing a with
  | nil =>
    simp only [List.map_cons, List.map_nil, List.sum_cons, List.sum_nil, Nat.add_zero,
      List.flatMap_cons, List.flatMap_nil, List.append_nil, List.getLast_singleton]
    exact ⟨hserved a (hw a (by simp)), hturn a (hw a (by simp))⟩
  | cons b l ih =>
    obtain ⟨hab, hchain⟩ := List.isChain_cons_cons.1 hl
    have hturn_a : (step next w)^[w a] (a, 0) = (b, 0) := hab ▸ hturn a (hw a (by simp))
    obtain ⟨ihs, ihi⟩ := ih hchain fun x hx => hw x (List.mem_cons_of_mem a hx)
    have hsum : ((a :: b :: l).map w).sum = w a + ((b :: l).map w).sum := by simp
    refine ⟨?_, ?_⟩
    · rw [hsum, served_add, hturn_a, ihs, hserved a (hw a (by simp))]
      simp only [List.flatMap_cons]
    · rw [hsum, Nat.add_comm, Function.iterate_add_apply, hturn_a, ihi,
        List.getLast_cons (List.cons_ne_nil b l)]

/-- Every step ends within a turn when the successor's weight is not zero. -/
theorem valid_step {s : α × ℕ} (hw : 0 < w (next s.1)) : Valid w (step next w s) := by
  unfold step
  split
  · assumption
  · exact hw

end RoundRobin
