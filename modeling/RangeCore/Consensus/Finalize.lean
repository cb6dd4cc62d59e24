import RangeCore.Consensus.Engine
import RangeCore.Lib.SuffixSplit
import RangeCore.Lib.ExceptBind

/-!
# Block finalization

`Range.Finalize` of `range/consensus/engine.go`: it splits the block's transactions before their
longest suffix of consensus-shaped transactions, runs the consensus steps of `govFinalize` on the
rest, and accepts only when the transactions these steps append are, hash by hash, that suffix.

The consensus steps after `processConsensusGasLimits` call system contracts through the EVM; they
are the parameter `GovSteps`, which keeps of each step what `govFinalize` sees: the transactions it
appends, its receipts, the state it leaves, its error. `processBlockRewards` appends one
transaction, `processDrainable` appends the transactions it sends, the others append none.

## Main definitions

* `RangeCore.Consensus.GovSteps`.
* `RangeCore.Consensus.Range.govFinalize`, `RangeCore.Consensus.Range.finalizeBlock` (the
  unexported `finalize`), `RangeCore.Consensus.Range.finalize` (`Finalize`).
* `RangeCore.Consensus.finalizeSplit`: the backward split loop of `Finalize`.

## Main results

* `RangeCore.Consensus.finalizeSplit_eq`: the loop cuts every list before its longest consensus
  suffix.
* `RangeCore.Consensus.Range.finalizeBlock_extends`: finalization only appends transactions.
* `RangeCore.Consensus.Range.finalize_ok`: an accepted block's consensus suffix is, hash by hash,
  what finalization appends to the rest.
-/

namespace RangeCore.Consensus

/-- The consensus steps of `govFinalize` that call system contracts, as `govFinalize` sees them;
the number passed is `len(txs)`, the index the step's transactions get in the block. -/
structure GovSteps where
  processBlockRewards : Range → Header → StateDB → ℕ → Except Error (Transaction × Receipt × StateDB)
  processMasternodes : Range → Header → StateDB → Except Error StateDB
  processBlacklists : Range → Header → StateDB → Except Error StateDB
  processDrainable : Range → Header → StateDB → ℕ →
    Except Error (List (Transaction × Receipt) × StateDB)
  finalizeMigration : Header → StateDB → List Transaction → Except Error StateDB

namespace Range

variable (e : Range) (steps : GovSteps) (hasher : Hasher) (evm : Evm)

/-- `govFinalize`: the gas limits are read first and update the engine whatever happens next; the
other steps run in order until one fails. -/
def govFinalize (header : Header) (db : StateDB) (txs : List Transaction)
    (receipts : List Receipt) : Range × Except Error (List Transaction × List Receipt × StateDB) :=
  match e.processConsensusGasLimits hasher evm header db with
  | .error err => (e, .error err)
  | .ok e =>
    (e, do
      let (tx, receipt, db) ← steps.processBlockRewards e header db txs.length
      let txs := txs ++ [tx]
      let receipts := receipts ++ [receipt]
      let db ← steps.processMasternodes e header db
      let db ← steps.processBlacklists e header db
      let (drained, db) ← steps.processDrainable e header db txs.length
      let txs := txs ++ drained.map Prod.fst
      let receipts := receipts ++ drained.map Prod.snd
      let db ← steps.finalizeMigration header db txs
      pure (txs, receipts, db))

/-- The unexported `finalize`: `govFinalize` unless the coinbase is still empty (a block being
mined), then the block of the resulting transactions. -/
def finalizeBlock (header : Header) (db : StateDB) (txs : List Transaction)
    (receipts : List Receipt) : Range × Except Error (List Transaction × List Receipt × StateDB) :=
  if header.coinbase ≠ 0 then e.govFinalize steps hasher evm header db txs receipts
  else (e, .ok (txs, receipts, db))

end Range

/-- The backward loop of `Finalize` with `i + 1` for its index `i`: the first transaction from the
end that is not consensus-shaped ends the kept part; if every one is, nothing is kept. -/
def finalizeSplit (txs : List Transaction) : ℕ → List Transaction × List Transaction
  | 0 => (txs, [])
  | i + 1 =>
    match txs[i]? with
    | none => (txs, [])
    | some tx =>
      if !tx.isConsensus then (txs.take (i + 1), txs.drop (i + 1))
      else if i = 0 then ([], txs)
      else finalizeSplit txs i

namespace Range

variable (e : Range) (steps : GovSteps) (hasher : Hasher) (evm : Evm)

/-- `Finalize`: the block is finalized on the transactions before the consensus suffix, and the
transactions finalization appends must be that suffix, hash by hash. -/
def finalize (header : Header) (db : StateDB) (txs : List Transaction)
    (receipts : List Receipt) : Range × Except Error (List Transaction × List Receipt × StateDB) :=
  let split := finalizeSplit txs txs.length
  let fin := e.finalizeBlock steps hasher evm header db split.1 receipts
  (fin.1, do
    let (btxs, receipts, db) ← fin.2
    let ntxs := btxs.drop split.1.length
    if ntxs.length ≠ split.2.length then throw .errInvalidConsensusTx
    if ntxs.map hasher.txHash ≠ split.2.map hasher.txHash then throw .errInvalidConsensusTx
    pure (btxs, receipts, db))

end Range

/-! ### The split -/

/-- Once the loop index has passed only consensus transactions, the loop cuts before the longest
consensus suffix. -/
theorem finalizeSplit_of_suffix (txs : List Transaction) {n : ℕ} (hn : 0 < n)
    (hle : n ≤ txs.length)
    (hsuf : ∀ j (hj : j < txs.length), n ≤ j → txs[j].isConsensus) :
    finalizeSplit txs n =
      (txs.rdropWhile Transaction.isConsensus, txs.rtakeWhile Transaction.isConsensus) := by
  induction n with
  | zero => exact absurd hn (Nat.lt_irrefl 0)
  | succ i ih =>
    have hi : i < txs.length := hle
    simp only [finalizeSplit, List.getElem?_eq_getElem hi]
    by_cases hc : txs[i].isConsensus
    · have hall : ∀ j (hj : j < txs.length), i ≤ j → txs[j].isConsensus := by
        intro j hj hij
        rcases Nat.eq_or_lt_of_le hij with rfl | hlt
        · exact hc
        · exact hsuf j hj hlt
      by_cases hi0 : i = 0
      · subst hi0
        have hmem : ∀ x ∈ txs, x.isConsensus := by
          intro x hx
          obtain ⟨j, hj, rfl⟩ := List.getElem_of_mem hx
          exact hall j hj (Nat.zero_le j)
        simp only [hc, Bool.not_true, Bool.false_eq_true, ↓reduceIte]
        rw [(List.rdropWhile_eq_nil_iff).2 hmem, (List.rtakeWhile_eq_self_iff).2 hmem]
      · simp only [hc, Bool.not_true, Bool.false_eq_true, ↓reduceIte, hi0]
        exact ih (Nat.pos_of_ne_zero hi0) (Nat.le_of_lt hi) hall
    · have hneg : txs[i].isConsensus = false := by simpa using hc
      simp only [hneg, Bool.not_false, ↓reduceIte]
      rw [List.rdropWhile_eq_take_of_index _ hi hneg fun j hj hij => hsuf j hj hij,
        List.rtakeWhile_eq_drop_of_index _ hi hneg fun j hj hij => hsuf j hj hij]

/-- The backward loop of `Finalize` cuts every list before its longest consensus suffix. -/
theorem finalizeSplit_eq (txs : List Transaction) :
    finalizeSplit txs txs.length =
      (txs.rdropWhile Transaction.isConsensus, txs.rtakeWhile Transaction.isConsensus) := by
  rcases Nat.eq_zero_or_pos txs.length with h0 | hpos
  · rw [List.length_eq_zero_iff.mp h0]
    rfl
  · exact finalizeSplit_of_suffix txs hpos le_rfl fun j hj hle => absurd hj (by omega)

/-! ### Finalization only appends -/

namespace Range

variable (e : Range) (steps : GovSteps) (hasher : Hasher) (evm : Evm)

/-- What a successful `govFinalize` did: the gas limits gave the engine it returns, and on that
engine the reward step appended one transaction right after the given ones, followed by the
transactions the drain step sent. -/
theorem govFinalize_ok {header : Header} {db db' : StateDB}
    {txs btxs : List Transaction} {receipts rs : List Receipt} {e' : Range}
    (h : e.govFinalize steps hasher evm header db txs receipts = (e', .ok (btxs, rs, db'))) :
    e.processConsensusGasLimits hasher evm header db = .ok e' ∧
      ∃ tx receipt db₁ drained,
        steps.processBlockRewards e' header db txs.length = .ok (tx, receipt, db₁) ∧
        btxs = txs ++ [tx] ++ drained := by
  unfold govFinalize at h
  split at h
  · cases h
  · rename_i e₁ hgas
    obtain ⟨rfl, h2⟩ := Prod.mk.inj h
    obtain ⟨⟨tx, receipt, db₁⟩, hrew, h2⟩ := Except.bind_eq_ok_iff.1 h2
    obtain ⟨db₂, -, h2⟩ := Except.bind_eq_ok_iff.1 h2
    obtain ⟨db₃, -, h2⟩ := Except.bind_eq_ok_iff.1 h2
    obtain ⟨⟨drained, db₄⟩, -, h2⟩ := Except.bind_eq_ok_iff.1 h2
    obtain ⟨db₅, -, h2⟩ := Except.bind_eq_ok_iff.1 h2
    simp only [pure, Except.pure, Except.ok.injEq, Prod.mk.injEq] at h2
    exact ⟨hgas, tx, receipt, db₁, drained.map Prod.fst, hrew, h2.1.symm⟩

/-- `govFinalize` returns the transactions it was given followed by those it appends. -/
theorem govFinalize_extends {header : Header} {db db' : StateDB}
    {txs btxs : List Transaction} {receipts rs : List Receipt} {e' : Range}
    (h : e.govFinalize steps hasher evm header db txs receipts = (e', .ok (btxs, rs, db'))) :
    ∃ gen, btxs = txs ++ gen := by
  obtain ⟨-, tx, -, -, drained, -, rfl⟩ := e.govFinalize_ok steps hasher evm h
  exact ⟨[tx] ++ drained, List.append_assoc _ _ _⟩

/-- Finalization returns the transactions it was given followed by those it appends. -/
theorem finalizeBlock_extends {header : Header} {db db' : StateDB}
    {txs btxs : List Transaction} {receipts rs : List Receipt} {e' : Range}
    (h : e.finalizeBlock steps hasher evm header db txs receipts = (e', .ok (btxs, rs, db'))) :
    ∃ gen, btxs = txs ++ gen := by
  unfold finalizeBlock at h
  split at h
  · exact e.govFinalize_extends steps hasher evm h
  · simp only [Prod.mk.injEq, Except.ok.injEq] at h
    exact ⟨[], by rw [List.append_nil, h.2.1]⟩

/-- An accepted block: finalization of the transactions before the consensus suffix appends
transactions whose hashes are, in order, those of the suffix. -/
theorem finalize_ok {header : Header} {db db' : StateDB} {txs btxs : List Transaction}
    {receipts rs : List Receipt} {e' : Range}
    (h : e.finalize steps hasher evm header db txs receipts = (e', .ok (btxs, rs, db'))) :
    ∃ gen, (e.finalizeBlock steps hasher evm header db
        (txs.rdropWhile Transaction.isConsensus) receipts).2 =
        .ok (txs.rdropWhile Transaction.isConsensus ++ gen, rs, db') ∧
      btxs = txs.rdropWhile Transaction.isConsensus ++ gen ∧
      gen.map hasher.txHash = (txs.rtakeWhile Transaction.isConsensus).map hasher.txHash := by
  have h2 := congrArg Prod.snd h
  simp only [finalize, finalizeSplit_eq] at h2
  obtain ⟨⟨btxs₀, rs₀, db₀⟩, hfin, h2⟩ := Except.bind_eq_ok_iff.1 h2
  obtain ⟨-, h2⟩ := Except.ite_throw_bind_eq_ok_iff.1 h2
  obtain ⟨hhash, h2⟩ := Except.ite_throw_bind_eq_ok_iff.1 h2
  obtain ⟨rfl, rfl, rfl⟩ : btxs₀ = btxs ∧ rs₀ = rs ∧ db₀ = db' := by
    simpa only [pure, Except.pure, Except.ok.injEq, Prod.mk.injEq] using h2
  have hfb : e.finalizeBlock steps hasher evm header db (txs.rdropWhile Transaction.isConsensus)
      receipts = ((e.finalizeBlock steps hasher evm header db
        (txs.rdropWhile Transaction.isConsensus) receipts).1, .ok (btxs₀, rs₀, db₀)) :=
    Prod.ext rfl hfin
  obtain ⟨gen, rfl⟩ := e.finalizeBlock_extends steps hasher evm hfb
  refine ⟨gen, hfin, rfl, ?_⟩
  simpa only [List.drop_left, not_not] using hhash

end Range

end RangeCore.Consensus
