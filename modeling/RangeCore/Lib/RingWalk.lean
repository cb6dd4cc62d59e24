import Mathlib.Data.List.Nodup

/-!
# Walking a ring of links

`RingWalk.walk next start n a` follows the links `next` from `a`, listing every element it visits,
until a link leads back to `start`; it has room for `n` elements and fails when the walk does not
close within them. A loop `do { out[i] = x; x = next(x); ++i; } while (x != start)` that writes
the elements of a circular linked list into an array of length `n` computes it.

A walk that closes is the same whatever room it was given, and the walk from any element it
visits is one of its suffixes; so it visits no element twice.

## Main definitions

* `RingWalk.walk`

## Main results

* `RingWalk.walk_unique`: the room does not change a walk that closes.
* `RingWalk.suffix_of_mem`: the walk from a visited element is a suffix.
* `RingWalk.walk_nodup`: a walk that closes visits no element twice.
* `RingWalk.length_le`: it fits its room.
-/

namespace RingWalk

variable {α : Type*} [DecidableEq α] (next : α → α) (start : α)

/-- The elements from `a` along `next` up to the one whose link is `start`, if there are at most
`n` of them. -/
def walk : ℕ → α → Option (List α)
  | 0, _ => none
  | n + 1, a => if next a = start then some [a] else (walk n (next a)).map (a :: ·)

variable {next start}

theorem walk_succ (n : ℕ) (a : α) : walk next start (n + 1) a =
    if next a = start then some [a] else (walk next start n (next a)).map (a :: ·) := rfl

/-- One step of a walk that closes: it stops at `a`, or goes on from `next a`. -/
theorem walk_succ_eq_some {n : ℕ} {a : α} {l : List α} :
    walk next start (n + 1) a = some l ↔
      next a = start ∧ l = [a] ∨
        next a ≠ start ∧ ∃ l', walk next start n (next a) = some l' ∧ l = a :: l' := by
  rw [walk_succ]
  by_cases ha : next a = start
  · simp [ha, eq_comm]
  · rw [if_neg ha, Option.map_eq_some_iff]
    simp only [ha, false_and, false_or, ne_eq, not_false_eq_true, true_and]
    constructor <;> rintro ⟨l', hl', rfl⟩ <;> exact ⟨l', hl', rfl⟩

/-- A walk that closes is the same whatever room it was given. -/
theorem walk_unique {n m : ℕ} {a : α} {l l' : List α} (h : walk next start n a = some l)
    (h' : walk next start m a = some l') : l = l' := by
  induction n generalizing m a l l' with
  | zero => cases h
  | succ n ih =>
    cases m with
    | zero => cases h'
    | succ m =>
      rcases walk_succ_eq_some.1 h with ⟨ha, rfl⟩ | ⟨ha, k, hk, rfl⟩
      · rcases walk_succ_eq_some.1 h' with ⟨-, rfl⟩ | ⟨ha', -⟩
        · rfl
        · exact absurd ha ha'
      · rcases walk_succ_eq_some.1 h' with ⟨ha', -⟩ | ⟨-, k', hk', rfl⟩
        · exact absurd ha' ha
        · rw [ih hk hk']

/-- The walk from an element a walk visits, with some room, is a suffix of it. -/
theorem suffix_of_mem {n : ℕ} {a b : α} {l : List α} (h : walk next start n a = some l)
    (hb : b ∈ l) : ∃ m l', walk next start m b = some l' ∧ l' <:+ l := by
  induction n generalizing a l with
  | zero => cases h
  | succ n ih =>
    rcases walk_succ_eq_some.1 h with ⟨-, rfl⟩ | ⟨-, k, hk, rfl⟩
    · rw [List.mem_singleton.1 hb]
      exact ⟨n + 1, _, h, List.suffix_refl _⟩
    · rcases List.mem_cons.1 hb with rfl | hb
      · exact ⟨n + 1, _, h, List.suffix_refl _⟩
      · obtain ⟨m, l', hl', hsuf⟩ := ih hk hb
        exact ⟨m, l', hl', hsuf.trans (List.suffix_cons a k)⟩

/-- A walk that closes visits no element twice: a second visit of `a` would make the walk from
`a` a proper suffix of itself. -/
theorem walk_nodup {n : ℕ} {a : α} {l : List α} (h : walk next start n a = some l) : l.Nodup := by
  induction n generalizing a l with
  | zero => cases h
  | succ n ih =>
    rcases walk_succ_eq_some.1 h with ⟨-, rfl⟩ | ⟨-, k, hk, rfl⟩
    · exact List.nodup_singleton a
    · refine List.nodup_cons.2 ⟨fun ha => ?_, ih hk⟩
      obtain ⟨m, l', hl', hsuf⟩ := suffix_of_mem hk ha
      rw [walk_unique hl' h] at hsuf
      have hlen := hsuf.length_le
      simp only [List.length_cons] at hlen
      omega

/-- A walk that closes fits its room. -/
theorem length_le {n : ℕ} {a : α} {l : List α} (h : walk next start n a = some l) :
    l.length ≤ n := by
  induction n generalizing a l with
  | zero => cases h
  | succ n ih =>
    rcases walk_succ_eq_some.1 h with ⟨-, rfl⟩ | ⟨-, k, hk, rfl⟩
    · simp
    · simpa using ih hk

end RingWalk
