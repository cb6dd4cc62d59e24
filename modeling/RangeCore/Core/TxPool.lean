import RangeCore.Consensus.Mirrors
import RangeCore.Lib.MinQueue

/-!
# The price heap of the transaction pool

`TxPool` of `core/tx_pool.go` keeps every transaction it holds in the lookup `all`, and beside it
`priced` (`core/tx_list.go`), a heap of the same transactions by price from which the pool sheds
the cheapest: `Cap` pops the entries below a price threshold for `SetGasPrice`, `Discard` pops
the cheapest for `add` on a full pool, and `Underpriced` compares a newcomer with the root. A
transaction that leaves the lookup stays in the heap as a stale entry, which the pops skip and
count; `Removed` counts one more, and rebuilds the heap from the lookup once the stale entries
pass a quarter of it.

Zero-fee transactions (`IsValidZeroFee`: masternode heartbeats and invalidations, checkpoint
signatures and Gen 2 claims, at price and value zero) get their own treatment: a local one is
not kept as local, and `SetGasPrice` does not remove those that `Cap` pops. But `Cap` has popped
them, so they stay in the lookup without an entry in the heap until a rebuild; and `Discard`
does not skip them, so a full pool sheds them first (`zero_fee_pool_protection_breaks`).

What holds over every run is weaker: every transaction of the lookup that is not zero-fee has an
entry in the heap (`PooledTxs.Inv`, kept by every operation, `PooledTxs.inv_run`).

The local accounts are protected as the pool means them to be. `Cap` and `Discard` skip their
transactions, so `SetGasPrice` removes only remote transactions below the new price that are not
zero-fee (`setGasPrice_removes`), and along every run a transaction of a local account leaves the
pool only through an event that names it: its removal, the removal of its sender's transactions,
or its replacement in the sender's list (`local_eviction_run`).

The model holds of `TxPool` its lookup, heap, local accounts and price threshold. Its pending and
queued lists are not held: what `add` needs of them, whether the sender's list takes the
transaction and which one it replaces, is an argument of the call. A transaction is its own
hash. The heap pops a least element under `priceHeap.Less` (`MinQueue.popMin`), and the proofs
use only that it is least.

## Main definitions

* `RangeCore.isValidZeroFee`, `RangeCore.priceKey`.
* `RangeCore.PricedList` with `put`, `removed`, `cap`, `underpriced` and `discard`.
* `RangeCore.PooledTxs` with `removeTx`, `setGasPrice`, `add`, `removeBySenderLocked`, `step`.

## Main results

* `RangeCore.PricedList.cap_covers`, `RangeCore.PricedList.discard_covers`: what the pops keep.
* `RangeCore.PooledTxs.Inv.step`, `RangeCore.PooledTxs.inv_run`.
* `RangeCore.PooledTxs.setGasPrice_removes`, `RangeCore.PooledTxs.local_eviction_run`.
* `RangeCore.PooledTxs.zero_fee_pool_protection_breaks`.
-/

namespace RangeCore

/-- `ZeroFeeGasLimit`. -/
def zeroFeeGasLimit : UInt64 := 500000

/-- `tx.Cost()`: the gas at its price, and the value. -/
def Transaction.cost (tx : Transaction) : ℕ := tx.price * tx.gasLimit.toNat + tx.amount

section ZeroFee

variable (ids : MethodIds)

/-- `IsGen2Migration`: a `claim` call to the migration contract. -/
def isGen2Migration (tx : Transaction) : Bool :=
  decide (tx.recipient = some rangeMigrationContract) && decide (methodID tx = ids.claim)

/-- `IsMasternodeCall`: a `heartbeat` or `invalidate` call to the masternode registry. -/
def isMasternodeCall (tx : Transaction) : Bool :=
  decide (tx.recipient = some rangeMasternodeRegistry) &&
    (decide (methodID tx = ids.mnHeartbeat) || decide (methodID tx = ids.mnInvalidate))

/-- `IsCheckpointCall`: a `sign` call to the checkpoint registry. -/
def isCheckpointCall (tx : Transaction) : Bool :=
  decide (tx.recipient = some rangeCheckpointRegistry) && decide (methodID tx = ids.cpSign)

/-- `IsValidZeroFee`: a call that costs nothing, within `ZeroFeeGasLimit`, of one of the three
kinds the consensus runs for free. -/
def isValidZeroFee (tx : Transaction) : Bool :=
  if tx.cost ≠ 0 then false
  else if zeroFeeGasLimit < tx.gasLimit then false
  else isGen2Migration ids tx || isMasternodeCall ids tx || isCheckpointCall ids tx

end ZeroFee

/-- `priceHeap.Less` as a key: the cheaper first, and at one price the higher nonce. -/
def priceKey (tx : Transaction) : ℕ ×ₗ ℕᵒᵈ :=
  toLex (tx.price, OrderDual.toDual tx.accountNonce.toNat)

theorem priceKey_lt_iff {a b : Transaction} :
    priceKey a < priceKey b ↔
      a.price < b.price ∨ a.price = b.price ∧ b.accountNonce < a.accountNonce := by
  simp only [priceKey, Prod.Lex.toLex_lt_toLex, OrderDual.toDual_lt_toDual,
    UInt64.lt_iff_toNat_lt]

/-- A key at most another's has at most its price. -/
theorem price_le_of_priceKey_le {a b : Transaction} (h : priceKey a ≤ priceKey b) :
    a.price ≤ b.price := by
  rw [← not_lt, priceKey_lt_iff] at h
  push Not at h
  exact h.1

/-- `txPricedList`: the heap, and the count of its entries taken as stale. The lookup `all` that
it points to is the pool's, passed to each operation. -/
structure PricedList where
  items : List Transaction
  stales : ℤ

/-- What a pass of pops over the heap has done so far: the heap left, the entries to drop, and
those to push back. -/
structure HeapPass where
  heap : PricedList
  drop : List Transaction
  save : List Transaction

namespace PricedList

variable (all : List Transaction) (isLocal : Transaction → Bool)

/-- `Put`. -/
def put (l : PricedList) (tx : Transaction) : PricedList := { l with items := l.items ++ [tx] }

/-- `Removed`: one more stale entry, and past a quarter of the heap a new heap of the lookup. -/
def removed (l : PricedList) : PricedList :=
  if l.stales + 1 ≤ ((l.items.length / 4 : ℕ) : ℤ) then { l with stales := l.stales + 1 }
  else ⟨all, 0⟩

/-- The loop of `Cap`: pop until the heap is empty or a held entry at or above the threshold,
which is saved; a stale entry is uncounted, a held local one saved and any other dropped. -/
def capLoop (threshold : ℕ) : ℕ → HeapPass → HeapPass
  | 0, s => s
  | fuel + 1, s =>
    match MinQueue.popMin priceKey s.heap.items with
    | none => s
    | some (tx, items) =>
      if !all.contains tx then capLoop threshold fuel { s with heap := ⟨items, s.heap.stales - 1⟩ }
      else if threshold ≤ tx.price then
        { s with heap := ⟨items, s.heap.stales⟩, save := s.save ++ [tx] }
      else if isLocal tx then
        capLoop threshold fuel { s with heap := ⟨items, s.heap.stales⟩, save := s.save ++ [tx] }
      else capLoop threshold fuel { s with heap := ⟨items, s.heap.stales⟩, drop := s.drop ++ [tx] }

/-- `Cap(threshold, local)`: the held remote entries below the threshold, popped; the saved ones
are pushed back. Every turn pops, so the heap's length is fuel enough. -/
def cap (l : PricedList) (threshold : ℕ) : PricedList × List Transaction :=
  let s := capLoop all isLocal threshold l.items.length ⟨l, [], []⟩
  (⟨s.heap.items ++ s.save, s.heap.stales⟩, s.drop)

/-- The loop of `Discard`: pop until the heap is empty or `count` entries are dropped; a stale
entry is uncounted, a held local one saved and any other dropped. -/
def discardLoop : ℕ → ℤ → HeapPass → HeapPass
  | 0, _, s => s
  | fuel + 1, count, s =>
    if count ≤ 0 then s
    else
      match MinQueue.popMin priceKey s.heap.items with
      | none => s
      | some (tx, items) =>
        if !all.contains tx then discardLoop fuel count { s with heap := ⟨items, s.heap.stales - 1⟩ }
        else if isLocal tx then
          discardLoop fuel count { s with heap := ⟨items, s.heap.stales⟩, save := s.save ++ [tx] }
        else
          discardLoop fuel (count - 1)
            { s with heap := ⟨items, s.heap.stales⟩, drop := s.drop ++ [tx] }

/-- `Discard(count, local)`: the `count` cheapest held remote entries, popped; the saved ones are
pushed back. -/
def discard (l : PricedList) (count : ℤ) : PricedList × List Transaction :=
  let s := discardLoop all isLocal l.items.length count ⟨l, [], []⟩
  (⟨s.heap.items ++ s.save, s.heap.stales⟩, s.drop)

/-- The loop at the start of `Underpriced`: stale entries at the root are popped and uncounted. -/
def staleLoop : ℕ → PricedList → PricedList
  | 0, l => l
  | fuel + 1, l =>
    match MinQueue.popMin priceKey l.items with
    | none => l
    | some (head, items) =>
      if !all.contains head then staleLoop fuel ⟨items, l.stales - 1⟩ else l

/-- `Underpriced(tx, local)`: a remote transaction at most as dear as the root, once the stale
entries at the root are gone; an empty heap answers no. -/
def underpriced (l : PricedList) (tx : Transaction) : PricedList × Bool :=
  if isLocal tx then (l, false)
  else
    let l := staleLoop all l.items.length l
    match MinQueue.popMin priceKey l.items with
    | none => (l, false)
    | some (cheapest, _) => (l, decide (tx.price ≤ cheapest.price))

/-! ### What the pops keep -/

variable {all isLocal}

theorem removed_items (l : PricedList) :
    (l.removed all).items = l.items ∨ (l.removed all).items = all := by
  unfold removed
  split_ifs
  · exact .inl rfl
  · exact .inr rfl

/-- A pass of `Cap` loses no held entry: each is left in the heap, dropped or saved. -/
theorem capLoop_covers {threshold : ℕ} (fuel : ℕ) (s : HeapPass) {tx : Transaction}
    (hall : tx ∈ all) (h : tx ∈ s.heap.items ∨ tx ∈ s.drop ∨ tx ∈ s.save) :
    let s' := capLoop all isLocal threshold fuel s
    tx ∈ s'.heap.items ∨ tx ∈ s'.drop ∨ tx ∈ s'.save := by
  induction fuel generalizing s with
  | zero => exact h
  | succ fuel ih =>
    simp only [capLoop]
    split
    · exact h
    · rename_i u items hpop
      -- the popped entry `u` is the only one that moves
      have hmove : tx ∈ items ∨ tx = u ∨ tx ∈ s.drop ∨ tx ∈ s.save := by
        rcases h with h | h
        · rcases eq_or_ne tx u with rfl | hne
          · exact .inr (.inl rfl)
          · exact .inl (MinQueue.mem_rest_of_popMin hpop h hne)
        · exact .inr (.inr h)
      split_ifs with hstale hthr hloc
      · -- a stale `u` is not `tx`, which is held
        apply ih
        rcases hmove with hm | rfl | hm
        · exact .inl hm
        · simp [hall] at hstale
        · exact .inr hm
      · simp only [List.mem_append, List.mem_singleton]
        tauto
      · apply ih
        simp only [List.mem_append, List.mem_singleton]
        tauto
      · apply ih
        simp only [List.mem_append, List.mem_singleton]
        tauto

/-- `Cap` drops only held remote entries below the threshold. -/
theorem capLoop_drop {threshold : ℕ} (fuel : ℕ) (s : HeapPass) {tx : Transaction}
    (h : tx ∈ (capLoop all isLocal threshold fuel s).drop) :
    tx ∈ s.drop ∨ (tx ∈ all ∧ isLocal tx = false ∧ tx.price < threshold) := by
  induction fuel generalizing s with
  | zero => exact .inl h
  | succ fuel ih =>
    simp only [capLoop] at h
    split at h
    · exact .inl h
    · rename_i u items hpop
      split_ifs at h with hstale hthr hloc
      · exact (ih _ h :)
      · exact .inl h
      · exact (ih _ h :)
      · rcases ih _ h with h | h
        · rcases List.mem_append.1 h with h | h
          · exact .inl h
          · obtain rfl := List.mem_singleton.1 h
            have hheld : tx ∈ all := by simpa using hstale
            have hremote : isLocal tx = false := by simpa using hloc
            exact .inr ⟨hheld, hremote, Nat.lt_of_not_le hthr⟩
        · exact .inr h

/-- A pass of `Discard` loses no held entry: each is left in the heap, dropped or saved. -/
theorem discardLoop_covers (fuel : ℕ) (count : ℤ) (s : HeapPass) {tx : Transaction}
    (hall : tx ∈ all) (h : tx ∈ s.heap.items ∨ tx ∈ s.drop ∨ tx ∈ s.save) :
    let s' := discardLoop all isLocal fuel count s
    tx ∈ s'.heap.items ∨ tx ∈ s'.drop ∨ tx ∈ s'.save := by
  induction fuel generalizing count s with
  | zero => exact h
  | succ fuel ih =>
    simp only [discardLoop]
    split_ifs with hcount
    · exact h
    split
    · exact h
    · rename_i u items hpop
      have hmove : tx ∈ items ∨ tx = u ∨ tx ∈ s.drop ∨ tx ∈ s.save := by
        rcases h with h | h
        · rcases eq_or_ne tx u with rfl | hne
          · exact .inr (.inl rfl)
          · exact .inl (MinQueue.mem_rest_of_popMin hpop h hne)
        · exact .inr (.inr h)
      split_ifs with hstale hloc
      · -- a stale `u` is not `tx`, which is held
        apply ih
        rcases hmove with hm | rfl | hm
        · exact .inl hm
        · simp [hall] at hstale
        · exact .inr hm
      · apply ih
        simp only [List.mem_append, List.mem_singleton]
        tauto
      · apply ih
        simp only [List.mem_append, List.mem_singleton]
        tauto

/-- `Discard` drops only held remote entries. -/
theorem discardLoop_drop (fuel : ℕ) (count : ℤ) (s : HeapPass) {tx : Transaction}
    (h : tx ∈ (discardLoop all isLocal fuel count s).drop) :
    tx ∈ s.drop ∨ (tx ∈ all ∧ isLocal tx = false) := by
  induction fuel generalizing count s with
  | zero => exact .inl h
  | succ fuel ih =>
    simp only [discardLoop] at h
    split_ifs at h with hcount
    · exact .inl h
    split at h
    · exact .inl h
    · rename_i u items hpop
      split_ifs at h with hstale hloc
      · exact (ih _ _ h :)
      · exact (ih _ _ h :)
      · rcases ih _ _ h with h | h
        · rcases List.mem_append.1 h with h | h
          · exact .inl h
          · obtain rfl := List.mem_singleton.1 h
            have hheld : tx ∈ all := by simpa using hstale
            have hremote : isLocal tx = false := by simpa using hloc
            exact .inr ⟨hheld, hremote⟩
        · exact .inr h

/-- The stale pops of `Underpriced` lose no held entry. -/
theorem staleLoop_covers (fuel : ℕ) (l : PricedList) {tx : Transaction} (hall : tx ∈ all)
    (h : tx ∈ l.items) : tx ∈ (staleLoop all fuel l).items := by
  induction fuel generalizing l with
  | zero => exact h
  | succ fuel ih =>
    simp only [staleLoop]
    split
    · exact h
    · rename_i u items hpop
      split_ifs with hstale
      · apply ih
        rcases eq_or_ne tx u with rfl | hne
        · simp [hall] at hstale
        · exact MinQueue.mem_rest_of_popMin hpop h hne
      · exact h

/-- After `Cap`, a held entry of the heap before is in the heap or dropped. -/
theorem cap_covers (l : PricedList) (threshold : ℕ) {tx : Transaction} (hall : tx ∈ all)
    (h : tx ∈ l.items) :
    tx ∈ (l.cap all isLocal threshold).1.items ∨ tx ∈ (l.cap all isLocal threshold).2 := by
  have := @capLoop_covers all isLocal threshold l.items.length ⟨l, [], []⟩ tx hall (.inl h)
  simp only [cap, List.mem_append]
  tauto

/-- `Cap` drops only held remote entries below the threshold. -/
theorem cap_drop (l : PricedList) (threshold : ℕ) {tx : Transaction}
    (h : tx ∈ (l.cap all isLocal threshold).2) :
    tx ∈ all ∧ isLocal tx = false ∧ tx.price < threshold := by
  rcases capLoop_drop _ _ h with h | h
  · simp at h
  · exact h

/-- After `Discard`, a held entry of the heap before is in the heap or dropped. -/
theorem discard_covers (l : PricedList) (count : ℤ) {tx : Transaction} (hall : tx ∈ all)
    (h : tx ∈ l.items) :
    tx ∈ (l.discard all isLocal count).1.items ∨ tx ∈ (l.discard all isLocal count).2 := by
  have := @discardLoop_covers all isLocal l.items.length count ⟨l, [], []⟩ tx hall (.inl h)
  simp only [discard, List.mem_append]
  tauto

/-- `Discard` drops only held remote entries. -/
theorem discard_drop (l : PricedList) (count : ℤ) {tx : Transaction}
    (h : tx ∈ (l.discard all isLocal count).2) : tx ∈ all ∧ isLocal tx = false := by
  rcases discardLoop_drop _ _ _ h with h | h
  · simp at h
  · exact h

/-- `Underpriced` pops only stale entries. -/
theorem underpriced_covers (l : PricedList) (t : Transaction) {tx : Transaction}
    (hall : tx ∈ all) (h : tx ∈ l.items) : tx ∈ (l.underpriced all isLocal t).1.items := by
  unfold underpriced
  split_ifs
  · exact h
  · dsimp only
    split <;> exact staleLoop_covers _ _ hall h

end PricedList

/-- `TxPoolConfig.GlobalSlots` and `GlobalQueue`, whose sum is the pool's capacity. -/
structure PoolConfig where
  globalSlots : UInt64
  globalQueue : UInt64

/-- The parts of `TxPool` that hold its transactions: the lookup `all`, the heap `priced`, the
local accounts `locals` and the price threshold `gasPrice`. -/
structure PooledTxs where
  all : List Transaction
  priced : PricedList
  locals : List Address
  gasPrice : ℕ

/-- Why `add` turns a transaction away: it is known, `validateTx` failed, it is underpriced on a
full pool, or the sender's list kept the transaction it would replace. -/
inductive AddError
  | knownTransaction
  | invalid
  | errUnderpriced
  | errReplaceUnderpriced
  deriving DecidableEq, Repr

/-- The events of a run of the pool: `add`, with what `validateTx` and the sender's pending or
queued list decided (`none` when the list refused it, else the transaction it replaced, if any);
`SetGasPrice`; and the removals of the eviction loop, `reset` and the blacklist,
`removeTx(hash, true)` and `removeBySenderLocked`. -/
inductive PoolEvent
  | add (tx : Transaction) (isLocal valid : Bool) (place : Option (Option Transaction))
  | setGasPrice (price : ℕ)
  | removeTx (tx : Transaction)
  | removeBySenderLocked (sender : Address)

section Pool

variable (env : PoolEnv) (config : PoolConfig)

/-- `accountSet.containsTx`: the sender is in the set; no sender is not. -/
def containsTx (locals : List Address) (tx : Transaction) : Bool :=
  match env.sender tx with
  | .ok addr => locals.contains addr
  | .error _ => false

namespace PooledTxs

/-- `NewTxPool`: no transactions, at the configured price limit. -/
def new (priceLimit : ℕ) : PooledTxs := ⟨[], ⟨[], 0⟩, [], priceLimit⟩

variable (p : PooledTxs)

/-- `removeTx(hash, outofbound)`, of what it does to the lookup and the heap: a held transaction
leaves the lookup, and counts as stale unless it was popped already. The pending and queued
lists it also updates are not held. -/
def removeTx (tx : Transaction) (outofbound : Bool) : PooledTxs :=
  if p.all.contains tx then
    let all := p.all.erase tx
    { p with all, priced := if outofbound then p.priced.removed all else p.priced }
  else p

/-- `removeTx` of each transaction in turn. -/
def removeTxs (txs : List Transaction) (outofbound : Bool) : PooledTxs :=
  txs.foldl (fun p tx => p.removeTx tx outofbound) p

/-- `SetGasPrice(price)`: the threshold is set, and of what `Cap` pops every transaction but the
zero-fee ones is removed. -/
def setGasPrice (price : ℕ) : PooledTxs :=
  let (priced, drop) := p.priced.cap p.all (containsTx env p.locals) price
  drop.foldl (fun p tx => if isValidZeroFee env.ids tx then p else p.removeTx tx false)
    { p with gasPrice := price, priced }

/-- The full-pool branch of `add`: on a pool at capacity, a remote transaction that is
underpriced and not zero-fee is turned away (`Underpriced` runs first, and pops stale entries);
otherwise `Discard` pops the cheapest remote transactions to make room, and they are removed. -/
def makeRoom (tx : Transaction) (isLocal : Bool) : PooledTxs × Except AddError Unit :=
  if config.globalSlots + config.globalQueue ≤ UInt64.ofNat p.all.length then
    let (priced, under) :=
      if isLocal then (p.priced, false) else p.priced.underpriced p.all (containsTx env p.locals) tx
    let p := { p with priced }
    if under && !isValidZeroFee env.ids tx then (p, .error .errUnderpriced)
    else
      let count := (p.all.length : ℤ) - (config.globalSlots + config.globalQueue - 1).toInt64.toInt
      let (priced, drop) := p.priced.discard p.all (containsTx env p.locals) count
      (drop.foldl (fun p tx => p.removeTx tx false) { p with priced }, .ok ())
  else (p, .ok ())

/-- The end of `add` once the sender's list took the transaction: the one it replaced leaves the
lookup and counts as stale, and the transaction goes into the lookup and the heap. -/
def insert (tx : Transaction) (old : Option Transaction) : PooledTxs :=
  let p := match old with
    | none => p
    | some old =>
      let all := p.all.erase old
      { p with all, priced := p.priced.removed all }
  { p with all := p.all ++ [tx], priced := p.priced.put tx }

/-- `add(tx, local)`: whether the transaction replaced another, or why it was turned away. A
zero-fee transaction is never local; a local one makes its sender local. -/
def add (tx : Transaction) (isLocal valid : Bool) (place : Option (Option Transaction)) :
    PooledTxs × Except AddError Bool :=
  let isLocal := isLocal && !isValidZeroFee env.ids tx
  if p.all.contains tx then (p, .error .knownTransaction)
  else if !valid then (p, .error .invalid)
  else
    match p.makeRoom env config tx isLocal with
    | (p, .error e) => (p, .error e)
    | (p, .ok ()) =>
      match place with
      | none => (p, .error .errReplaceUnderpriced)
      | some old =>
        let p := p.insert tx old
        -- `from, _ := types.Sender(pool.signer, tx)`, the zero address on an error
        let sender := (env.sender tx).toOption.getD 0
        let p := if isLocal && !p.locals.contains sender then
            { p with locals := p.locals ++ [sender] }
          else p
        (p, .ok old.isSome)

/-- `removeBySenderLocked(sender)`: the sender's pending and queued transactions, which are its
transactions in the lookup, removed with `removeTx(hash, true)`. -/
def removeBySenderLocked (sender : Address) : PooledTxs :=
  p.removeTxs (p.all.filter fun tx => decide (env.sender tx = .ok sender)) true

/-- One event of a run. -/
def step : PoolEvent → PooledTxs
  | .add tx isLocal valid place => (p.add env config tx isLocal valid place).1
  | .setGasPrice price => p.setGasPrice env price
  | .removeTx tx => p.removeTx tx true
  | .removeBySenderLocked sender => p.removeBySenderLocked env sender

end PooledTxs

end Pool

/-! ### Every transaction but the zero-fee ones has an entry in the heap -/

namespace PooledTxs

variable {env : PoolEnv} {config : PoolConfig} {p : PooledTxs}

/-- What every run keeps: the lookup holds each transaction once, as a Go map does, and every
transaction of it that is not zero-fee has an entry in the heap. -/
structure Inv (env : PoolEnv) (p : PooledTxs) : Prop where
  nodup : p.all.Nodup
  covered : ∀ tx ∈ p.all, tx ∈ p.priced.items ∨ isValidZeroFee env.ids tx = true

theorem removeTx_of_mem {tx : Transaction} {outofbound : Bool} (h : tx ∈ p.all) :
    p.removeTx tx outofbound = ⟨p.all.erase tx,
      if outofbound then p.priced.removed (p.all.erase tx) else p.priced, p.locals, p.gasPrice⟩ :=
  if_pos (List.contains_iff_mem.2 h)

theorem removeTx_of_not_mem {tx : Transaction} {outofbound : Bool} (h : tx ∉ p.all) :
    p.removeTx tx outofbound = p :=
  if_neg (by simpa using h)

@[simp] theorem all_removeTx (tx : Transaction) (outofbound : Bool) :
    (p.removeTx tx outofbound).all = p.all.erase tx := by
  by_cases h : tx ∈ p.all
  · rw [removeTx_of_mem h]
  · rw [removeTx_of_not_mem h, List.erase_of_not_mem h]

theorem priced_removeTx_false (tx : Transaction) : (p.removeTx tx false).priced = p.priced := by
  by_cases h : tx ∈ p.all
  · rw [removeTx_of_mem h]
    rfl
  · rw [removeTx_of_not_mem h]

/-- After `removeTx` the heap is as it was, or a new heap of the lookup. -/
theorem items_removeTx (tx : Transaction) (outofbound : Bool) :
    (p.removeTx tx outofbound).priced.items = p.priced.items ∨
      (p.removeTx tx outofbound).priced.items = (p.removeTx tx outofbound).all := by
  by_cases h : tx ∈ p.all
  · rw [removeTx_of_mem h]
    cases outofbound
    · exact .inl rfl
    · exact PricedList.removed_items _
  · rw [removeTx_of_not_mem h]
    exact .inl rfl

theorem all_removeTxs_subset {txs : List Transaction} {outofbound : Bool} {tx : Transaction}
    (h : tx ∈ (p.removeTxs txs outofbound).all) : tx ∈ p.all := by
  induction txs generalizing p with
  | nil => exact h
  | cons t txs ih => exact List.mem_of_mem_erase (by simpa using ih h)

theorem Inv.removeTx (h : p.Inv env) (tx : Transaction) (outofbound : Bool) :
    (p.removeTx tx outofbound).Inv env := by
  refine ⟨by simpa using h.nodup.erase tx, fun t ht => ?_⟩
  rcases h.covered t (List.mem_of_mem_erase (by simpa using ht)) with hc | hz
  · rcases items_removeTx (p := p) tx outofbound with hi | hi
    · exact .inl (hi ▸ hc)
    · exact .inl (hi ▸ ht)
  · exact .inr hz

theorem Inv.removeTxs (h : p.Inv env) (txs : List Transaction) (outofbound : Bool) :
    (p.removeTxs txs outofbound).Inv env := by
  induction txs generalizing p with
  | nil => exact h
  | cons tx txs ih => exact ih (h.removeTx tx outofbound)

/-- Removing popped entries with `removeTx(hash, false)`: a lookup whose transactions are
covered, zero-fee or among those removed is covered afterwards. -/
theorem inv_removeTxs_popped {txs : List Transaction} (hnodup : p.all.Nodup)
    (hcov : ∀ tx ∈ p.all, tx ∈ p.priced.items ∨ isValidZeroFee env.ids tx = true ∨ tx ∈ txs) :
    (p.removeTxs txs false).Inv env := by
  induction txs generalizing p with
  | nil => exact ⟨hnodup, fun tx htx => (hcov tx htx).imp_right (Or.resolve_right · (by simp))⟩
  | cons t txs ih =>
    apply ih (by simpa using hnodup.erase t)
    intro tx htx
    rw [all_removeTx, hnodup.mem_erase_iff] at htx
    rw [priced_removeTx_false]
    rcases hcov tx htx.2 with hc | hz | hm
    · exact .inl hc
    · exact .inr (.inl hz)
    · exact .inr (.inr ((List.mem_cons.1 hm).resolve_left htx.1))

/-- The loop of `SetGasPrice` is the removal of the popped transactions that are not zero-fee. -/
theorem foldl_skip_zeroFee (ids : MethodIds) (drop : List Transaction) (q : PooledTxs) :
    drop.foldl (fun p tx => if isValidZeroFee ids tx then p else p.removeTx tx false) q =
      q.removeTxs (drop.filter fun tx => !isValidZeroFee ids tx) false := by
  induction drop generalizing q with
  | nil => rfl
  | cons tx drop ih =>
    by_cases hz : isValidZeroFee ids tx = true
    · simp only [List.foldl_cons, hz, if_true, ih, List.filter_cons, Bool.not_true,
        Bool.false_eq_true, if_false]
    · simp only [List.foldl_cons, hz, ih, List.filter_cons, Bool.not_false, if_true]
      rfl

theorem Inv.setGasPrice (h : p.Inv env) (price : ℕ) : (p.setGasPrice env price).Inv env := by
  simp only [PooledTxs.setGasPrice, foldl_skip_zeroFee]
  refine inv_removeTxs_popped h.nodup fun tx htx => ?_
  rcases h.covered tx htx with hc | hz
  · -- a covered transaction stays in the heap, or `Cap` popped it
    rcases PricedList.cap_covers p.priced price htx hc with hk | hd
    · exact .inl hk
    · by_cases hz : isValidZeroFee env.ids tx = true
      · exact .inr (.inl hz)
      · exact .inr (.inr (List.mem_filter.2 ⟨hd, by simpa using hz⟩))
  · exact .inr (.inl hz)

/-- The three ways `makeRoom` ends: the pool was not full; or, after `Underpriced` popped stale
entries, the transaction was turned away, or `Discard` popped `count` entries that were removed. -/
theorem makeRoom_cases (env : PoolEnv) (config : PoolConfig) (p : PooledTxs) (tx : Transaction)
    (isLocal : Bool) :
    (p.makeRoom env config tx isLocal).1 = p ∨
      ∃ priced : PricedList, (∀ t ∈ p.all, t ∈ p.priced.items → t ∈ priced.items) ∧
        ((p.makeRoom env config tx isLocal).1 = { p with priced } ∨
          ∃ count, (p.makeRoom env config tx isLocal).1 =
            { p with priced := (priced.discard p.all (containsTx env p.locals) count).1 }.removeTxs
              (priced.discard p.all (containsTx env p.locals) count).2 false) := by
  unfold PooledTxs.makeRoom
  by_cases hfull : config.globalSlots + config.globalQueue ≤ UInt64.ofNat p.all.length
  · rw [if_pos hfull]
    right
    -- `Underpriced` pops only stale entries
    have hunder : ∀ t ∈ p.all, t ∈ p.priced.items →
        t ∈ (if isLocal then (p.priced, false)
          else p.priced.underpriced p.all (containsTx env p.locals) tx).1.items := by
      intro t ht hc
      split_ifs
      · exact hc
      · exact PricedList.underpriced_covers _ _ ht hc
    generalize (if isLocal then (p.priced, false)
      else p.priced.underpriced p.all (containsTx env p.locals) tx) = r at hunder ⊢
    obtain ⟨priced, under⟩ := r
    refine ⟨priced, hunder, ?_⟩
    dsimp only
    by_cases hu : (under && !isValidZeroFee env.ids tx) = true
    · rw [if_pos hu]
      exact .inl rfl
    · rw [if_neg hu]
      exact .inr ⟨_, rfl⟩
  · rw [if_neg hfull]
    exact .inl rfl

theorem Inv.makeRoom (h : p.Inv env) (tx : Transaction) (isLocal : Bool) :
    (p.makeRoom env config tx isLocal).1.Inv env := by
  rcases makeRoom_cases env config p tx isLocal with heq | ⟨priced, hunder, heq | ⟨count, heq⟩⟩
  · rw [heq]
    exact h
  · rw [heq]
    exact ⟨h.nodup, fun t ht => (h.covered t ht).imp_left (hunder t ht)⟩
  · rw [heq]
    refine inv_removeTxs_popped h.nodup fun t ht => ?_
    rcases h.covered t ht with hc | hz
    · rcases PricedList.discard_covers priced count ht (hunder t ht hc) with hk | hd
      · exact .inl hk
      · exact .inr (.inr hd)
    · exact .inr (.inl hz)

theorem all_makeRoom_subset {tx t : Transaction} {isLocal : Bool}
    (h : t ∈ (p.makeRoom env config tx isLocal).1.all) : t ∈ p.all := by
  rcases makeRoom_cases env config p tx isLocal with heq | ⟨priced, -, heq | ⟨count, heq⟩⟩
  · rwa [heq] at h
  · rwa [heq] at h
  · rw [heq] at h
    exact (all_removeTxs_subset h :)

theorem Inv.insert (h : p.Inv env) {tx : Transaction} (htx : tx ∉ p.all)
    (old : Option Transaction) : (p.insert tx old).Inv env := by
  -- the replaced transaction leaves first
  have hold : (match old with
      | none => p
      | some old => { p with all := p.all.erase old, priced := p.priced.removed (p.all.erase old) }
      : PooledTxs).Inv env ∧
      tx ∉ (match old with
      | none => p
      | some old => { p with all := p.all.erase old, priced := p.priced.removed (p.all.erase old) }
      : PooledTxs).all := by
    cases old with
    | none => exact ⟨h, htx⟩
    | some old =>
      refine ⟨⟨h.nodup.erase old, fun t ht => ?_⟩, fun hm => htx (List.mem_of_mem_erase hm)⟩
      rcases h.covered t (List.mem_of_mem_erase ht) with hc | hz
      · rcases @PricedList.removed_items (p.all.erase old) p.priced with hi | hi
        · exact .inl (hi ▸ hc)
        · exact .inl (hi ▸ ht)
      · exact .inr hz
  obtain ⟨⟨hnodup, hcov⟩, htx'⟩ := hold
  refine ⟨hnodup.append (List.nodup_singleton tx) (by simpa using htx'), fun t ht => ?_⟩
  rcases List.mem_append.1 ht with ht | ht
  · exact (hcov t ht).imp_left fun hc => List.mem_append_left _ hc
  · exact .inl (List.mem_append_right _ ht)

theorem Inv.add (h : p.Inv env) (tx : Transaction) (isLocal valid : Bool)
    (place : Option (Option Transaction)) : (p.add env config tx isLocal valid place).1.Inv env := by
  unfold PooledTxs.add
  dsimp only
  split_ifs with hknown hvalid
  · exact h
  · exact h
  · have hroom := @Inv.makeRoom env config p h tx (isLocal && !isValidZeroFee env.ids tx)
    have hfresh : tx ∉ (p.makeRoom env config tx (isLocal && !isValidZeroFee env.ids tx)).1.all :=
      fun hm => hknown (by simpa using all_makeRoom_subset hm)
    generalize p.makeRoom env config tx (isLocal && !isValidZeroFee env.ids tx) = r at hroom hfresh
    obtain ⟨q, res⟩ := r
    cases res with
    | error e => exact hroom
    | ok u =>
      cases place with
      | none => exact hroom
      | some old =>
        dsimp only
        have hins := hroom.insert hfresh old
        split_ifs
        · exact ⟨hins.nodup, hins.covered⟩
        · exact hins

theorem Inv.step (h : p.Inv env) (e : PoolEvent) : (p.step env config e).Inv env := by
  cases e with
  | add tx isLocal valid place => exact h.add tx isLocal valid place
  | setGasPrice price => exact h.setGasPrice price
  | removeTx tx => exact h.removeTx tx true
  | removeBySenderLocked sender => exact h.removeTxs _ true

theorem inv_new (priceLimit : ℕ) : (new priceLimit).Inv env :=
  ⟨List.nodup_nil, fun _ h => absurd h List.not_mem_nil⟩

/-- Along every run from a new pool, every transaction of the lookup that is not zero-fee has an
entry in the heap. -/
theorem inv_run (priceLimit : ℕ) (es : List PoolEvent) :
    (StateMachine.run (fun p e => p.step env config e) (new priceLimit) es).Inv env :=
  StateMachine.run_invariant _ (fun p : PooledTxs => p.Inv env) (inv_new priceLimit)
    (fun _ e hp => hp.step e) es

/-- The zero-fee transactions lose both protections the pool means to give them. A masternode
heartbeat at price zero, with gas 100000 above its intrinsic gas and within `ZeroFeeGasLimit`,
added to a pool of capacity one: `SetGasPrice(1)` leaves it in the
lookup with no entry in the heap; and a remote transaction at price one, added to the full pool,
has `Discard` shed the heartbeat to make room. -/
theorem zero_fee_pool_protection_breaks :
    let env : PoolEnv :=
      { ids := ⟨#v[1, 0, 0, 0], #v[2, 0, 0, 0], #v[3, 0, 0, 0], #v[4, 0, 0, 0], #v[5, 0, 0, 0],
          #v[6, 0, 0, 0]⟩
        sender := fun _ => .ok 0xA#160
        currentState := ⟨fun _ => 0, fun _ => 0, fun _ _ => 0, fun _ => 0⟩
        hasBlockChain := true
        applyMessage := fun _ _ _ => some []
        ebiSigner := 0 }
    let config : PoolConfig := ⟨1, 0⟩
    let heartbeat : Transaction :=
      ⟨0, 0, 100000, some rangeMasternodeRegistry, 0, [3, 0, 0, 0], 0, 0, 0⟩
    let p := (new 1).step env config (.add heartbeat false true (some none))
    isValidZeroFee env.ids heartbeat = true ∧ heartbeat ∈ p.all ∧
      (heartbeat ∈ (p.step env config (.setGasPrice 1)).all ∧
        heartbeat ∉ (p.step env config (.setGasPrice 1)).priced.items) ∧
      heartbeat ∉ (p.step env config (.add ⟨0, 1, 21000, none, 0, [], 0, 0, 0⟩ false true
        (some none))).all := by
  decide

/-! ### What the pool evicts -/

theorem mem_removeTxs {txs : List Transaction} {outofbound : Bool} {tx : Transaction}
    (h : tx ∈ p.all) (hn : tx ∉ txs) : tx ∈ (p.removeTxs txs outofbound).all := by
  induction txs generalizing p with
  | nil => exact h
  | cons t txs ih =>
    have hne : tx ≠ t := fun heq => hn (heq ▸ List.mem_cons_self)
    refine ih ?_ fun hm => hn (List.mem_cons_of_mem t hm)
    rw [all_removeTx]
    exact (List.mem_erase_of_ne hne).2 h

@[simp] theorem locals_removeTx (tx : Transaction) (outofbound : Bool) :
    (p.removeTx tx outofbound).locals = p.locals := by
  by_cases h : tx ∈ p.all
  · rw [removeTx_of_mem h]
  · rw [removeTx_of_not_mem h]

@[simp] theorem locals_removeTxs (txs : List Transaction) (outofbound : Bool) :
    (p.removeTxs txs outofbound).locals = p.locals := by
  induction txs generalizing p with
  | nil => rfl
  | cons t txs ih => exact (ih :).trans (locals_removeTx t outofbound)

/-- What `SetGasPrice` removes is what `Cap` popped and is not zero-fee. -/
theorem mem_cap_of_setGasPrice {price : ℕ} {tx : Transaction} (hmem : tx ∈ p.all)
    (hgone : tx ∉ (p.setGasPrice env price).all) :
    tx ∈ (p.priced.cap p.all (containsTx env p.locals) price).2 ∧
      isValidZeroFee env.ids tx = false := by
  simp only [PooledTxs.setGasPrice, foldl_skip_zeroFee] at hgone
  have hdrop : tx ∈ (p.priced.cap p.all (containsTx env p.locals) price).2.filter
      fun tx => !isValidZeroFee env.ids tx := by
    by_contra hn
    exact hgone (mem_removeTxs hmem hn)
  obtain ⟨hcap, hzero⟩ := List.mem_filter.1 hdrop
  exact ⟨hcap, by simpa using hzero⟩

/-- `SetGasPrice` removes a transaction only if it is remote, below the new price and not
zero-fee. -/
theorem setGasPrice_removes {price : ℕ} {tx : Transaction} (hmem : tx ∈ p.all)
    (hgone : tx ∉ (p.setGasPrice env price).all) :
    containsTx env p.locals tx = false ∧ tx.price < price ∧ isValidZeroFee env.ids tx = false := by
  obtain ⟨hcap, hzero⟩ := mem_cap_of_setGasPrice hmem hgone
  obtain ⟨-, hloc, hprice⟩ := PricedList.cap_drop p.priced price hcap
  exact ⟨hloc, hprice, hzero⟩

/-- A pool of one account, `0xA`, whose method ids are `1` to `6`. -/
def sampleEnv : PoolEnv where
  ids := ⟨#v[1, 0, 0, 0], #v[2, 0, 0, 0], #v[3, 0, 0, 0], #v[4, 0, 0, 0], #v[5, 0, 0, 0],
    #v[6, 0, 0, 0]⟩
  sender := fun _ => .ok 0xA#160
  currentState := ⟨fun _ => 0, fun _ => 0, fun _ _ => 0, fun _ => 0⟩
  hasBlockChain := true
  applyMessage := fun _ _ _ => some []
  ebiSigner := 0

/-- A remote transfer at price zero, in a pool whose price then rises to one. -/
theorem setGasPrice_removes_transfer :
    let tx : Transaction := ⟨0, 0, 21000, none, 0, [], 0, 0, 0⟩
    let p := (new 0).step sampleEnv ⟨1, 0⟩ (.add tx false true (some none))
    tx ∈ p.all ∧ tx ∉ (p.setGasPrice sampleEnv 1).all ∧
      (containsTx sampleEnv p.locals tx = false ∧ tx.price < 1 ∧
        isValidZeroFee sampleEnv.ids tx = false) :=
  ⟨by decide, by decide, setGasPrice_removes (by decide) (by decide)⟩

@[simp] theorem locals_makeRoom (tx : Transaction) (isLocal : Bool) :
    (p.makeRoom env config tx isLocal).1.locals = p.locals := by
  rcases makeRoom_cases env config p tx isLocal with heq | ⟨priced, -, heq | ⟨count, heq⟩⟩
  · rw [heq]
  · rw [heq]
  · rw [heq, locals_removeTxs]

/-- `makeRoom` keeps the transactions of local accounts. -/
theorem mem_makeRoom {tx t : Transaction} {isLocal : Bool} (hmem : t ∈ p.all)
    (hloc : containsTx env p.locals t = true) : t ∈ (p.makeRoom env config tx isLocal).1.all := by
  rcases makeRoom_cases env config p tx isLocal with heq | ⟨priced, -, heq | ⟨count, heq⟩⟩
  · rwa [heq]
  · rwa [heq]
  · rw [heq]
    -- `Discard` pops no transaction of a local account
    have hn : t ∉ (priced.discard p.all (containsTx env p.locals) count).2 := fun hd => by
      simp [(PricedList.discard_drop priced count hd).2] at hloc
    exact mem_removeTxs hmem hn

/-- `add` keeps every local account. -/
theorem locals_add (tx : Transaction) (isLocal valid : Bool) (place : Option (Option Transaction))
    {a : Address} (ha : a ∈ p.locals) : a ∈ (p.add env config tx isLocal valid place).1.locals := by
  unfold PooledTxs.add
  dsimp only
  split_ifs with hknown hvalid
  · exact ha
  · exact ha
  · have hlocals := @locals_makeRoom env config p tx (isLocal && !isValidZeroFee env.ids tx)
    generalize p.makeRoom env config tx (isLocal && !isValidZeroFee env.ids tx) = r at hlocals
    obtain ⟨q, res⟩ := r
    cases res with
    | error e => exact hlocals ▸ ha
    | ok u =>
      cases place with
      | none => exact hlocals ▸ ha
      | some old =>
        dsimp only
        have hlocs : (q.insert tx old).locals = p.locals := by
          cases old <;> exact hlocals
        split_ifs
        · exact List.mem_append_left _ (hlocs ▸ ha)
        · exact hlocs ▸ ha

/-- `add` removes a transaction of a local account only when the new transaction replaces it. -/
theorem add_removes {tx t : Transaction} {isLocal valid : Bool}
    {place : Option (Option Transaction)} (hmem : t ∈ p.all)
    (hloc : containsTx env p.locals t = true) :
    t ∈ (p.add env config tx isLocal valid place).1.all ∨ place = some (some t) := by
  unfold PooledTxs.add
  dsimp only
  split_ifs with hknown hvalid
  -- a known or invalid transaction leaves the pool as it was
  · exact .inl hmem
  · exact .inl hmem
  · have hroom :=
      @mem_makeRoom env config p tx t (isLocal && !isValidZeroFee env.ids tx) hmem hloc
    generalize p.makeRoom env config tx (isLocal && !isValidZeroFee env.ids tx) = r at hroom
    obtain ⟨q, res⟩ := r
    cases res with
    | error e => exact .inl hroom
    | ok u =>
      cases place with
      | none => exact .inl hroom
      | some old =>
        dsimp only
        -- `insert` drops only the replaced transaction
        have hins : t ∈ (q.insert tx old).all ∨ old = some t := by
          cases old with
          | none => exact .inl (List.mem_append_left _ hroom)
          | some old =>
            by_cases hold : t = old
            · exact .inr (congrArg some hold.symm)
            · exact .inl (List.mem_append_left _ ((List.mem_erase_of_ne hold).2 hroom))
        -- both branches of the price bump keep the replaced transaction as the only loss
        split_ifs <;> exact hins.imp_right (congrArg some)

/-- The local accounts only grow. -/
theorem locals_step (e : PoolEvent) {a : Address} (ha : a ∈ p.locals) :
    a ∈ (p.step env config e).locals := by
  cases e with
  | add tx isLocal valid place => exact locals_add tx isLocal valid place ha
  | setGasPrice price =>
    simpa [PooledTxs.step, PooledTxs.setGasPrice, foldl_skip_zeroFee] using ha
  | removeTx tx => simpa [PooledTxs.step] using ha
  | removeBySenderLocked sender =>
    simpa [PooledTxs.step, PooledTxs.removeBySenderLocked] using ha

theorem containsTx_step {t : Transaction} (e : PoolEvent)
    (hloc : containsTx env p.locals t = true) : containsTx env (p.step env config e).locals t = true := by
  unfold containsTx at hloc ⊢
  split at hloc
  · rename_i addr _
    exact List.contains_iff_mem.2 (locals_step e (List.contains_iff_mem.1 hloc))
  · exact absurd hloc Bool.false_ne_true

/-- One event removes a transaction of a local account only by naming it: `removeTx` of it,
`removeBySenderLocked` of its sender, or an `add` whose transaction replaces it. -/
theorem step_removes_local {t : Transaction} (e : PoolEvent) (hmem : t ∈ p.all)
    (hloc : containsTx env p.locals t = true) (hgone : t ∉ (p.step env config e).all) :
    e = .removeTx t ∨ (∃ sender, e = .removeBySenderLocked sender ∧ env.sender t = .ok sender) ∨
      ∃ tx isLocal valid, e = .add tx isLocal valid (some (some t)) := by
  cases e with
  | add tx isLocal valid place =>
    rcases @add_removes env config p tx t isLocal valid place hmem hloc with h | h
    · exact absurd h hgone
    · exact .inr (.inr ⟨tx, isLocal, valid, by rw [h]⟩)
  | setGasPrice price =>
    -- `Cap` pops no transaction of a local account
    have hremote := (PricedList.cap_drop p.priced price (mem_cap_of_setGasPrice hmem hgone).1).2.1
    rw [hloc] at hremote
    exact absurd hremote (by decide)
  | removeTx tx =>
    by_cases h : t = tx
    · exact .inl (h ▸ rfl)
    · refine absurd ?_ hgone
      simpa [PooledTxs.step] using (List.mem_erase_of_ne h).2 hmem
  | removeBySenderLocked sender =>
    by_cases hs : env.sender t = .ok sender
    · exact .inr (.inl ⟨sender, rfl, hs⟩)
    · exact absurd (mem_removeTxs hmem (by simp [hs])) hgone

/-- Along every run, the local accounts only grow, and a transaction of a local account leaves
the pool only through an event that names it: `removeTx` of it, `removeBySenderLocked` of its
sender, or an `add` whose transaction replaces it in the sender's list. Neither `SetGasPrice` nor
the room that `add` makes on a full pool evicts it. -/
theorem local_eviction_run (p : PooledTxs) (es : List PoolEvent) :
    (∀ a ∈ p.locals, a ∈ (StateMachine.run (fun p e => p.step env config e) p es).locals) ∧
      ∀ t ∈ p.all, containsTx env p.locals t = true →
        t ∉ (StateMachine.run (fun p e => p.step env config e) p es).all →
        ∃ e ∈ es, e = .removeTx t ∨
          (∃ sender, e = .removeBySenderLocked sender ∧ env.sender t = .ok sender) ∨
            ∃ tx isLocal valid, e = .add tx isLocal valid (some (some t)) := by
  constructor
  · intro a ha
    exact StateMachine.run_invariant _ (fun q : PooledTxs => a ∈ q.locals) ha
      (fun _ e h => locals_step e h) es
  · intro t hmem hloc hgone
    -- the transaction stays while it is in the pool of a local account, which it stays
    exact StateMachine.exists_mem_of_run_lost _
      (fun p : PooledTxs => t ∈ p.all ∧ containsTx env p.locals t = true) _
      (fun _ e ⟨hm, hl⟩ hlost => step_removes_local e hm hl
        fun hm' => hlost ⟨hm', containsTx_step e hl⟩)
      ⟨hmem, hloc⟩ fun h => hgone h.1

/-- A local transaction of `0xA` at price 1 that `SetGasPrice(5)` keeps and `removeTx` takes
out. -/
theorem local_eviction_run_removeTx :
    let tx : Transaction := ⟨0, 1, 21000, none, 0, [], 0, 0, 0⟩
    let p : PooledTxs := ⟨[tx], ⟨[tx], 0⟩, [0xA#160], 0⟩
    tx ∈ (StateMachine.run (fun p e => p.step sampleEnv ⟨1, 0⟩ e) p [.setGasPrice 5]).all ∧
      0xA#160 ∈ (StateMachine.run (fun p e => p.step sampleEnv ⟨1, 0⟩ e) p
        [.setGasPrice 5, .removeTx tx]).locals ∧
      ∃ e ∈ [PoolEvent.setGasPrice 5, .removeTx tx], e = .removeTx tx ∨
        (∃ sender, e = .removeBySenderLocked sender ∧ sampleEnv.sender tx = .ok sender) ∨
          ∃ tx' isLocal valid, e = .add tx' isLocal valid (some (some tx)) := by
  intro tx p
  have hrun := @local_eviction_run sampleEnv ⟨1, 0⟩ p [.setGasPrice 5, .removeTx tx]
  exact ⟨by decide, hrun.1 _ (by decide), hrun.2 tx (by decide) (by decide) (by decide)⟩

end PooledTxs

end RangeCore
