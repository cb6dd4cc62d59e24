import RangeCore.Consensus.Finalize

/-!
# Block processing and the framing of consensus transactions

`StateProcessor.Process` of `core/state_processor.go`: it applies the block's transactions in
order, skipping consensus-shaped ones and rejecting a transaction that is not consensus-shaped
after one that is, then lets the engine finalize the block on the resulting state.

Applying a user transaction (`ApplyTransaction`, the EVM state transition) is the parameter
`applyTransaction`; the engine's `Finalize` is a parameter of `process` as in Go, where it is a
method of the `consensus.Engine` interface, and is instantiated with `Range.finalize` for the
main result.

## Main definitions

* `RangeCore.TxEnv`: what `ApplyTransaction` threads through a block.
* `RangeCore.processLoop`, `RangeCore.process`.

## Main results

* `RangeCore.processLoop_ok`: a run of the loop that reaches the end applied an unmarked prefix
  and skipped a consensus suffix.
* `RangeCore.process_consensus_framing`: an accepted block is a prefix without consensus
  transactions followed, hash by hash, by the consensus transactions the Range engine appends on
  the state the prefix leaves, and the two loops split it at the same place.
-/

namespace RangeCore

/-- The state, gas pool and gas used that `ApplyTransaction` threads through a block. -/
structure TxEnv where
  db : StateDB
  gasPool : UInt64
  usedGas : UInt64

/-- `ApplyTransaction` at a position of the block: a receipt and the new environment. -/
abbrev ApplyTransaction := TxEnv → ℕ → Transaction → Except Error (Receipt × TxEnv)

/-- `consensus.Engine.Finalize` as `Process` calls it. -/
abbrev EngineFinalize :=
  Header → StateDB → List Transaction → List Receipt →
    Except Error (List Transaction × List Receipt × StateDB)

/-- The transaction loop of `Process` from position `i`, with the `consensusStarted` flag. -/
def processLoop (applyTransaction : ApplyTransaction) :
    List Transaction → ℕ → Bool → TxEnv → List Receipt →
      Except Error (TxEnv × List Receipt × Bool)
  | [], _, started, env, receipts => .ok (env, receipts, started)
  | tx :: txs, i, started, env, receipts =>
    if tx.isConsensus then processLoop applyTransaction txs (i + 1) true env receipts
    else if started then .error .errInvalidConsensusTx
    else do
      let (receipt, env) ← applyTransaction env i tx
      processLoop applyTransaction txs (i + 1) false env (receipts ++ [receipt])

/-- `StateProcessor.Process`: the receipts of the block and the gas it used. `rangeConfig` says
whether the chain configuration has a Range section. -/
def process (applyTransaction : ApplyTransaction) (finalize : EngineFinalize)
    (rangeConfig : Bool) (header : Header) (txs : List Transaction) (env : TxEnv) :
    Except Error (List Receipt × UInt64) := do
  let (env, receipts, started) ← processLoop applyTransaction txs 0 false env []
  let (_, finReceipts, _) ← finalize header env.db txs receipts
  let receipts := receipts ++ finReceipts.drop receipts.length
  if started && !rangeConfig then throw .errInvalidConsensusTx
  pure (receipts, env.usedGas)

variable (applyTransaction : ApplyTransaction)

/-- Once a consensus transaction has been seen, the loop reaches the end only over consensus
transactions, and then changes nothing. -/
theorem processLoop_started {txs : List Transaction} {i : ℕ} {env : TxEnv}
    {receipts : List Receipt} {r : TxEnv × List Receipt × Bool}
    (h : processLoop applyTransaction txs i true env receipts = .ok r) :
    (∀ tx ∈ txs, tx.isConsensus) ∧ r = (env, receipts, true) := by
  induction txs generalizing i with
  | nil =>
    simp only [processLoop, Except.ok.injEq] at h
    exact ⟨fun _ hx => absurd hx List.not_mem_nil, h.symm⟩
  | cons tx txs ih =>
    by_cases hc : tx.isConsensus
    · simp only [processLoop, hc, ↓reduceIte] at h
      obtain ⟨hall, rfl⟩ := ih h
      refine ⟨fun x hx => ?_, rfl⟩
      rcases List.mem_cons.1 hx with rfl | hx
      · exact hc
      · exact hall x hx
    · simp only [processLoop, hc, Bool.false_eq_true, ↓reduceIte] at h
      cases h

/-- A run of the loop that reaches the end, from the flag unset, applied a prefix `u` without
consensus transactions and skipped a suffix `c` of consensus transactions; on `u` alone it ends
with the same environment and receipts and the flag unset. -/
theorem processLoop_ok {txs : List Transaction} {i : ℕ} {env env' : TxEnv}
    {receipts receipts' : List Receipt} {started : Bool}
    (h : processLoop applyTransaction txs i false env receipts = .ok (env', receipts', started)) :
    ∃ u c, txs = u ++ c ∧ (∀ tx ∈ u, tx.isConsensus = false) ∧ (∀ tx ∈ c, tx.isConsensus) ∧
      processLoop applyTransaction u i false env receipts = .ok (env', receipts', false) := by
  induction txs generalizing i env receipts with
  | nil =>
    simp only [processLoop, Except.ok.injEq, Prod.mk.injEq] at h
    obtain ⟨rfl, rfl, -⟩ := h
    exact ⟨[], [], rfl, by simp, by simp, rfl⟩
  | cons tx txs ih =>
    by_cases hc : tx.isConsensus
    · simp only [processLoop, hc, ↓reduceIte] at h
      obtain ⟨hall, hr⟩ := processLoop_started applyTransaction h
      simp only [Prod.mk.injEq] at hr
      obtain ⟨rfl, rfl, -⟩ := hr
      refine ⟨[], tx :: txs, rfl, by simp, fun x hx => ?_, rfl⟩
      rcases List.mem_cons.1 hx with rfl | hx
      · exact hc
      · exact hall x hx
    · have hneg : tx.isConsensus = false := by simpa using hc
      simp only [processLoop, hneg, Bool.false_eq_true, ↓reduceIte] at h
      obtain ⟨⟨receipt, env₁⟩, happ, hrest⟩ := Except.bind_eq_ok_iff.1 h
      obtain ⟨u, c, rfl, hu, hc', hrun⟩ := ih hrest
      refine ⟨tx :: u, c, rfl, fun x hx => ?_, hc', ?_⟩
      · rcases List.mem_cons.1 hx with rfl | hx
        · exact hneg
        · exact hu x hx
      · simp only [processLoop, hneg, Bool.false_eq_true, ↓reduceIte, happ, Except.ok_bind]
        exact hrun

open Consensus in
/-- Consensus-transaction framing. When `Process` accepts a block under the Range engine, its
transactions are a prefix `u` with no consensus-shaped transaction followed by a suffix `c` of
consensus-shaped ones; applying `u` leaves a state on which the engine's finalization of `u`
appends transactions whose hashes are, in order, those of `c`. The backward split of `Finalize`
cuts every list, accepted or not, before its longest consensus suffix, which for an accepted
block is between `u` and `c`. -/
theorem process_consensus_framing (e : Range) (steps : GovSteps) (hasher : Hasher) (evm : Evm)
    (rangeConfig : Bool) (header : Header) (txs : List Transaction) (env : TxEnv)
    {result : List Receipt × UInt64}
    (h : process applyTransaction
      (fun header db txs receipts => (e.finalize steps hasher evm header db txs receipts).2)
      rangeConfig header txs env = .ok result) :
    (∀ l : List Transaction, finalizeSplit l l.length =
      (l.rdropWhile Transaction.isConsensus, l.rtakeWhile Transaction.isConsensus)) ∧
    ∃ u c envU receiptsU gen rs db,
      txs = u ++ c ∧ (∀ tx ∈ u, tx.isConsensus = false) ∧ (∀ tx ∈ c, tx.isConsensus) ∧
      finalizeSplit txs txs.length = (u, c) ∧
      processLoop applyTransaction u 0 false env [] = .ok (envU, receiptsU, false) ∧
      (e.finalizeBlock steps hasher evm header envU.db u receiptsU).2 = .ok (u ++ gen, rs, db) ∧
      c.map hasher.txHash = gen.map hasher.txHash := by
  refine ⟨finalizeSplit_eq, ?_⟩
  obtain ⟨⟨envU, receiptsU, started⟩, hloop, h⟩ := Except.bind_eq_ok_iff.1 h
  obtain ⟨⟨btxs, rs, db⟩, hfin, -⟩ := Except.bind_eq_ok_iff.1 h
  obtain ⟨u, c, rfl, hu, hc, hrun⟩ := processLoop_ok applyTransaction hloop
  have hfin' : e.finalize steps hasher evm header envU.db (u ++ c) receiptsU =
      ((e.finalize steps hasher evm header envU.db (u ++ c) receiptsU).1, .ok (btxs, rs, db)) :=
    Prod.ext rfl hfin
  obtain ⟨gen, hgen, -, hhash⟩ := e.finalize_ok steps hasher evm hfin'
  have hdrop : (u ++ c).rdropWhile Transaction.isConsensus = u :=
    List.rdropWhile_append_of_forall _ (List.getLast?_forall_of_forall _ hu) hc
  have htake : (u ++ c).rtakeWhile Transaction.isConsensus = c :=
    List.rtakeWhile_append_of_forall _ (List.getLast?_forall_of_forall _ hu) hc
  rw [hdrop] at hgen
  rw [htake] at hhash
  exact ⟨u, c, envU, receiptsU, gen, rs, db, rfl, hu, hc, by rw [finalizeSplit_eq, hdrop, htake],
    hrun, hgen, hhash.symm⟩

section Sealed

open Consensus

/-- A user transfer of 5 to `0xA`. -/
def framingUser : Transaction :=
  { accountNonce := 0, price := 1, gasLimit := 21000, recipient := some 0xA#160, amount := 5,
    payload := [], v := 27, r := 1, s := 1 }

/-- A consensus-shaped transaction, from the system faucet: the block reward. -/
def framingReward : Transaction :=
  { accountNonce := 0, price := 0, gasLimit := 0, recipient := some 0x310#160, amount := 7,
    payload := [], v := 0x320, r := 0, s := 0 }

/-- A consensus-shaped transaction, from the system faucet: a drained balance. -/
def framingDrain : Transaction :=
  { accountNonce := 0, price := 0, gasLimit := 0, recipient := some 0x305#160, amount := 3,
    payload := [], v := 0x320, r := 0, s := 0 }

/-- Consensus steps that succeed, the reward step appending `framingReward` and the drain step
`framingDrain`. -/
def framingSteps : GovSteps :=
  ⟨fun _ _ db _ => .ok (framingReward, ⟨7, false, 0⟩, db), fun _ _ db => .ok db,
    fun _ _ db => .ok db, fun _ _ db _ => .ok ([(framingDrain, ⟨3, false, 0⟩)], db),
    fun _ db _ => .ok db⟩

/-- An EVM whose `consensusGasLimits()` answers the call gas 40000 and the transfer gas
8000000. -/
def framingEvm : Evm :=
  ⟨fun _ _ _ _ gas _ db => ⟨bytesBE 32 40000 ++ bytesBE 32 8000000, gas, 0, none, db⟩⟩

/-- A hasher whose transaction hash tells the three transactions apart. -/
def framingHasher : Hasher :=
  ⟨fun _ => 0, fun tx => BitVec.ofNat 256 tx.amount, fun _ => 0, fun _ => 0⟩

/-- `ApplyTransaction` that uses the whole gas limit of each transaction. -/
def framingApply : ApplyTransaction := fun env _ tx =>
  .ok (⟨0, false, tx.gasLimit⟩, { env with usedGas := env.usedGas + tx.gasLimit })

/-- A sealed header, whose coinbase `0xC0` is set, so that `govFinalize` runs. -/
def framingHeader : Header :=
  { parentHash := 0, uncleHash := 0, coinbase := 0xC0#160, root := 0, difficulty := 1,
    number := 1, gasLimit := 8000000, gasUsed := 0, time := 0, extra := [], mixDigest := 0,
    nonce := 0, signature := [] }

/-- A block with a user transfer followed by the reward and the drained transaction that the
consensus steps generate is accepted, and the framing splits it after the transfer: the
finalization of the transfer alone appends transactions with the hashes of the other two. -/
theorem process_consensus_framing_sealed :
    ∃ result, process framingApply
        (fun header db txs receipts =>
          (Range.new.finalize framingSteps framingHasher framingEvm header db txs receipts).2)
        true framingHeader [framingUser, framingReward, framingDrain]
        ⟨⟨fun _ => 0, fun _ => 0, fun _ _ => 0, fun _ => 0⟩, 8000000, 0⟩ = .ok result ∧
      ∃ envU receiptsU gen rs db,
        processLoop framingApply [framingUser] 0 false
          ⟨⟨fun _ => 0, fun _ => 0, fun _ _ => 0, fun _ => 0⟩, 8000000, 0⟩ [] =
          .ok (envU, receiptsU, false) ∧
        (Range.new.finalizeBlock framingSteps framingHasher framingEvm framingHeader envU.db
          [framingUser] receiptsU).2 = .ok ([framingUser] ++ gen, rs, db) ∧
        [framingReward, framingDrain].map framingHasher.txHash = gen.map framingHasher.txHash := by
  obtain ⟨result, h⟩ : ∃ result, process framingApply
      (fun header db txs receipts =>
        (Range.new.finalize framingSteps framingHasher framingEvm header db txs receipts).2)
      true framingHeader [framingUser, framingReward, framingDrain]
      ⟨⟨fun _ => 0, fun _ => 0, fun _ _ => 0, fun _ => 0⟩, 8000000, 0⟩ = .ok result :=
    ⟨_, rfl⟩
  obtain ⟨u, c, envU, receiptsU, gen, rs, db, -, -, -, hsplit, hloop, hfin, hhash⟩ :=
    (process_consensus_framing _ _ _ _ _ true _ _ _ h).2
  -- the split puts the user transfer before the two consensus transactions
  have hsplit' : finalizeSplit [framingUser, framingReward, framingDrain] 3 =
      ([framingUser], [framingReward, framingDrain]) := by
    decide
  obtain ⟨rfl, rfl⟩ := Prod.mk.inj (hsplit.symm.trans hsplit')
  exact ⟨result, h, envU, receiptsU, gen, rs, db, hloop, hfin, hhash⟩

end Sealed

end RangeCore
