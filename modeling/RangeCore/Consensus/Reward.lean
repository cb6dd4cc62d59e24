import RangeCore.Consensus.History

/-!
# Block rewards

`Range.processBlockRewards` of `range/consensus/reward.go`. For the duration of the step the
system faucet holds `BigBalance`. A call of `getReward(number)` on the block reward proxy, whose
state changes are reverted, gives the total reward. A consensus transaction from the faucet then
sends that total to `reward()` of the proxy. At the end a `defer` sets the faucet's balance to
zero, whatever it held before the step.

The reward contracts run inside the interpreter, the parameter `Evm`. What the step does with
the faucet does not depend on them: after every successful step the faucet holds nothing. Coins
that a transaction of the block sent to the faucet are burned by the block's reward step.

## Main definitions

* `RangeCore.Consensus.Range.getRewardMsg`, `RangeCore.Consensus.Range.rewardTx`
* `RangeCore.Transaction.asConsensusMessage`
* `RangeCore.Consensus.Range.processBlockRewards`, `RangeCore.Consensus.Range.rewardSteps`

## Main results

* `RangeCore.Consensus.Range.processBlockRewards_ok`: what a successful step did.
* `RangeCore.Consensus.Range.processBlockRewards_faucet`: the faucet ends empty, and every other
  balance is the one the reward transaction left.
* `RangeCore.Consensus.Range.govFinalize_rewardTx`: a finalized block carries the reward
  transaction right after the transactions it was given.
* `RangeCore.Consensus.reward_burns_faucet_deposit`: a deposit to the faucet is burned.
-/

namespace RangeCore

/-- `Transaction.AsMessage` with the `ConsensusSigner`, for a call: the sender is the consensus
sender, and a transaction that is not consensus-shaped has none. -/
def Transaction.asConsensusMessage (tx : Transaction) : Except Error Consensus.Message :=
  if !tx.isConsensus then .error .notConsensusTx
  else
    .ok { sender := tx.consensusSender, recipient := tx.recipient.getD 0,
          nonce := tx.accountNonce, amount := tx.amount, gasLimit := tx.gasLimit,
          gasPrice := tx.price, data := tx.payload, checkNonce := true }

namespace Consensus

/-- `BigBalance = MaxBig256 / 2`. -/
def bigBalance : ℕ := (2 ^ 256 - 1) / 2

namespace Range

variable (e : Range) (hasher : Hasher) (evm : Evm)

/-- The message of the `getReward(number)` call of `processBlockRewards`. -/
def getRewardMsg (header : Header) : Message :=
  { sender := e.systemFaucet, recipient := rangeBlockReward, nonce := 0, amount := 0,
    gasLimit := e.callGas, gasPrice := 0,
    data := methodId hasher "getReward(uint256)" ++ bytesBE 32 header.number,
    checkNonce := false }

/-- The reward transaction of `processBlockRewards` on the state `db`: `reward()` on the block
reward proxy with the total reward as value and the engine's `xferGas`, from the system faucet
as consensus sender. -/
def rewardTx (db : StateDB) (totalReward : ℕ) : Transaction :=
  Transaction.withConsensusSender
    { accountNonce := db.nonce e.systemFaucet, price := 0, gasLimit := e.xferGas,
      recipient := some rangeBlockReward, amount := totalReward,
      payload := methodId hasher "reward()", v := 0, r := 0, s := 0 }
    e.systemFaucet

/-- `processBlockRewards`: the reward transaction and its receipt, and the state after it with
the faucet emptied. The index the transaction gets in the block only labels its logs. -/
def processBlockRewards (header : Header) (db : StateDB) (_txIndex : ℕ) :
    Except Error (Transaction × Receipt × StateDB) := do
  let db := db.setBalance e.systemFaucet bigBalance
  let msg := e.getRewardMsg hasher header
  -- the call runs on a snapshot that is reverted: only its output is kept
  let (output, _) ← applyMessage evm (e.createEVM msg header) msg msg.gasLimit db
  let totalReward ← unpackWords 1 output
  let tx := e.rewardTx hasher db (totalReward.headD 0)
  let msg ← tx.asConsensusMessage
  let (_, gasUsed, failed, db, _) ← applyMessage evm (e.createEVM msg header) msg msg.gasLimit db
  -- the deferred reset of the faucet
  pure (tx, ⟨hasher.txHash tx, failed, gasUsed⟩, db.setBalance e.systemFaucet 0)

/-- The reward step of `govFinalize` as this model runs it; the other steps are `steps`'. -/
def rewardSteps (steps : GovSteps) : GovSteps :=
  { steps with processBlockRewards := fun e header db n => e.processBlockRewards hasher evm header db n }

/-- The reward transaction is consensus-shaped, its consensus sender is the faucet, and it pays
the total reward to the block reward proxy. -/
theorem rewardTx_consensus (db : StateDB) (totalReward : ℕ) (hs : e.systemFaucet ≠ 0) :
    (e.rewardTx hasher db totalReward).isConsensus ∧
      (e.rewardTx hasher db totalReward).consensusSender = e.systemFaucet ∧
      (e.rewardTx hasher db totalReward).recipient = some rangeBlockReward ∧
      (e.rewardTx hasher db totalReward).amount = totalReward :=
  ⟨(Transaction.isConsensus_withConsensusSender _ hs).1,
    (Transaction.isConsensus_withConsensusSender _ hs).2, rfl, rfl⟩

variable {e hasher evm}

/-- A successful step sent the reward transaction for the total that `getReward` returned, and
left the state of that transaction with the faucet emptied. -/
theorem processBlockRewards_ok {header : Header} {db db' : StateDB} {n : ℕ} {tx : Transaction}
    {receipt : Receipt}
    (h : e.processBlockRewards hasher evm header db n = .ok (tx, receipt, db')) :
    ∃ totalReward msg after,
      tx = e.rewardTx hasher (db.setBalance e.systemFaucet bigBalance) totalReward ∧
      tx.asConsensusMessage = .ok msg ∧
      (∃ ret gp, applyMessage evm (e.createEVM msg header) msg msg.gasLimit
        (db.setBalance e.systemFaucet bigBalance) =
          .ok (ret, receipt.gasUsed, receipt.failed, after, gp)) ∧
      receipt.txHash = hasher.txHash tx ∧ db' = after.setBalance e.systemFaucet 0 := by
  unfold processBlockRewards at h
  obtain ⟨⟨output, _⟩, -, h⟩ := Except.bind_eq_ok_iff.1 h
  obtain ⟨ws, -, h⟩ := Except.bind_eq_ok_iff.1 h
  obtain ⟨msg, hmsg, h⟩ := Except.bind_eq_ok_iff.1 h
  obtain ⟨⟨ret, gasUsed, failed, after, gp⟩, hcall, h⟩ := Except.bind_eq_ok_iff.1 h
  cases h
  exact ⟨_, msg, after, rfl, hmsg, ⟨ret, gp, hcall⟩, rfl, rfl⟩

/-- After every successful step the system faucet holds nothing, whatever it held before and
whatever the reward contracts did; every other balance is the one the reward transaction left. -/
theorem processBlockRewards_faucet {header : Header} {db db' : StateDB} {n : ℕ}
    {tx : Transaction} {receipt : Receipt}
    (h : e.processBlockRewards hasher evm header db n = .ok (tx, receipt, db')) :
    db'.balance e.systemFaucet = 0 ∧
      ∃ msg after, tx.asConsensusMessage = .ok msg ∧
        (∃ ret gp, applyMessage evm (e.createEVM msg header) msg msg.gasLimit
          (db.setBalance e.systemFaucet bigBalance) =
            .ok (ret, receipt.gasUsed, receipt.failed, after, gp)) ∧
        ∀ a, a ≠ e.systemFaucet → db'.balance a = after.balance a := by
  obtain ⟨_, msg, after, -, hmsg, hcall, -, rfl⟩ := processBlockRewards_ok h
  refine ⟨by simp [StateDB.setBalance], msg, after, hmsg, hcall, fun a ha => ?_⟩
  simp [StateDB.setBalance, Function.update_of_ne ha]

/-- A block that `govFinalize` finalizes with the modelled reward step carries, right after the
transactions it was given, the reward transaction: consensus-shaped, from the system faucet, to
the block reward proxy. The gas-limit step before it changes none of these. -/
theorem govFinalize_rewardTx {steps : GovSteps} {header : Header} {db db' : StateDB}
    {txs btxs : List Transaction} {receipts rs : List Receipt} {e' : Range}
    (hs : e.systemFaucet ≠ 0)
    (h : e.govFinalize (rewardSteps hasher evm steps) hasher evm header db txs receipts =
      (e', .ok (btxs, rs, db'))) :
    ∃ tx, btxs[txs.length]? = some tx ∧ tx.isConsensus ∧ tx.consensusSender = e.systemFaucet ∧
      tx.recipient = some rangeBlockReward := by
  obtain ⟨hgas, tx, receipt, db₁, drained, hrew, rfl⟩ := e.govFinalize_ok _ hasher evm h
  obtain ⟨ws, rfl⟩ := processConsensusGasLimits_ok hgas
  obtain ⟨total, -, -, htx, -⟩ := processBlockRewards_ok (n := txs.length) hrew
  -- the engine after the gas limits has the same faucet
  obtain ⟨hcons, hsender, hto, -⟩ := rewardTx_consensus
    { e with callGas := UInt64.ofNat (ws.getD 0 0), xferGas := UInt64.ofNat (ws.getD 1 0) } hasher
    (db.setBalance e.systemFaucet bigBalance) total hs
  refine ⟨tx, by simp, ?_, ?_, ?_⟩ <;> rw [htx]
  exacts [hcons, hsender, hto]

end Range

/-! ### A deposit to the faucet -/

/-- An engine after a first `Finalize` under the spork registry's gas limits. -/
def rewardEngine : Range := { Range.new with callGas := 15000000, xferGas := 30000000 }

/-- The total reward `getReward` returns in the fixture. -/
def rewardTotal : ℕ := 2

/-- An interpreter standing in for the reward contracts: the call's value moves from the caller
to the callee, a reward sent to the block reward proxy is passed on to the block's coinbase, and
every call answers `rewardTotal`. -/
def rewardEvm : Evm where
  call ctx caller callee _ gas value db :=
    let db := (db.setBalance caller (db.balance caller - value)).setBalance callee
      (db.balance callee + value)
    let db := if callee = rangeBlockReward then
        (db.setBalance callee (db.balance callee - value)).setBalance ctx.coinbase
          (db.balance ctx.coinbase + value)
      else db
    ⟨bytesBE 32 rewardTotal, gas, 0, none, db⟩

/-- The state after the block's transactions: one of them sent 1 wei to the system faucet. -/
def rewardState : StateDB where
  balance a := if a = rangeSystemFaucet then 1 else 0
  nonce _ := 0
  storage _ _ := 0
  codeSize _ := 0

/-- Block 5, minted by `0xC0`. -/
def rewardHeader : Header where
  parentHash := 5
  uncleHash := 0
  coinbase := 0xC0
  root := 0
  difficulty := 1
  number := 5
  gasLimit := 8000000
  gasUsed := 0
  time := 150
  extra := []
  mixDigest := 0
  nonce := 1
  signature := []

/-- The reward step on `rewardState`. -/
def rewardRun : Except Error (Transaction × Receipt × StateDB) :=
  rewardEngine.processBlockRewards ⟨fun _ => 0, fun _ => 0, fun _ => 0, fun _ => 0⟩ rewardEvm
    rewardHeader rewardState 0

/-- The reward step burns the wei a transaction of the block sent to the faucet: the faucet goes
from 1 wei to none, the block reward proxy passes the whole reward on, and the coinbase receives
it, so the supply grows by the reward less the deposit. -/
theorem reward_burns_faucet_deposit :
    rewardState.balance rangeSystemFaucet = 1 ∧ rewardState.balance rangeBlockReward = 0 ∧
      rewardState.balance rewardHeader.coinbase = 0 ∧
      rewardRun.map (fun r => (r.2.2.balance rangeSystemFaucet, r.2.2.balance rangeBlockReward,
        r.2.2.balance rewardHeader.coinbase)) = .ok (0, 0, rewardTotal) :=
  ⟨rfl, rfl, rfl, by decide⟩

end Consensus

end RangeCore
