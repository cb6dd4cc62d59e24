import RangeCore.Governance.MasternodeRegistry
import RangeCore.Lib.Run
import RangeCore.Lib.ExceptBind

/-!
# The whole masternode registry

`MasternodeRegistryV2` with the parts that `RangeCore.Governance.MasternodeRegistry` leaves out:
its configuration, the status checks of `_checkStatus`, `heartbeat`, `invalidate` with
`validationTarget` and the validation epochs of `_processValidationEpoch`, the token callback
`onCollateralUpdate`, and the block reward `reward`, whose loop `_reward` walks the ring of
masternodes paying, deactivating and cleaning them up.

The contracts the registry calls are read through the call's environment `RegistryEnv`: the
masternode token's `balanceInfo`, `blockhash`, whether a `send` to an address succeeds and
whether the treasury's `reward` does. Gas is read only through the checks
`gasleft() > GAS_RESERVE` of `reward`; as gas only decreases during a call, the checks that pass
are the first ones, and `RegistryEnv.gas` says how many. A call runs atomically, as
`noReentry` makes it, and one that reverts leaves the storage as it was.

## Main definitions

* `RangeCore.Governance.MasternodeRegistryV2`, `RangeCore.Governance.RegistryEnv`.
* `RangeCore.Governance.checkStatus`, `RangeCore.Governance.MasternodeRegistryV2.isActive`.
* `RangeCore.Governance.MasternodeRegistryV2.heartbeat`, `validationTarget`, `invalidate`,
  `processValidationEpoch`, `onCollateralUpdate`, `rewardAdvance`, `rewardPenalty`, `rewardLogic`,
  `rewardStep`, `moveRemaining`, `payRewards`, `reward`, `new`.
* `RangeCore.Governance.RegistryCall`, `RangeCore.Governance.MasternodeRegistryV2.exec`,
  `RangeCore.Governance.MasternodeRegistryV2.runCalls`.
-/

namespace RangeCore.Governance

/-- `MN_HEARTBEAT_INTERVAL = 60 minutes`. -/
def mnHeartbeatInterval : Uint := 3600

/-- `MN_HEARTBEAT_INTERVAL_MIN = MN_HEARTBEAT_INTERVAL / 2`. -/
def mnHeartbeatIntervalMin : Uint := mnHeartbeatInterval / 2

/-- `MN_HEARTBEAT_INTERVAL_MAX = MN_HEARTBEAT_INTERVAL * 2`. -/
def mnHeartbeatIntervalMax : Uint := mnHeartbeatInterval * 2

/-- `MN_HEARTBEAT_PAST_BLOCKS = 10`. -/
def mnHeartbeatPastBlocks : Uint := 10

/-- `TARGET_HEARTBEATS_COEF = 4`. -/
def targetHeartbeatsCoef : Uint := 4

/-- `REWARD_MASTERNODE_V1 = 9.14 ether`. -/
def rewardMasternodeV1 : Uint := BitVec.ofNat 256 9140000000000000000

/-- `ValidationStatus`. -/
inductive ValidationStatus where
  | mnActive
  | mnCollaterIssue
  | mnNotActive
  | mnHeartbeat
  deriving DecidableEq, Repr

/-- `_checkStatus` with the owner's token balance and its last change: a masternode with no
payouts left is inactive, one whose heartbeat is overdue has a heartbeat issue, and one whose
stored collateral differs from the balance, or whose balance changed after the announcement,
has a collateral issue. -/
def checkStatus (timestamp : Uint) (mnstatus : MnStatus) (mninfo : MnInfo)
    (balance lastBlock : Uint) : ValidationStatus :=
  if mnstatus.seqPayouts = 0 then .mnNotActive
  else if timestamp > mnstatus.nextHeartbeat + mnHeartbeatIntervalMax then .mnHeartbeat
  else if balance ≠ mninfo.collateral then .mnCollaterIssue
  else if lastBlock > mninfo.announcedBlock then .mnCollaterIssue
  else .mnActive

/-- The storage of `MasternodeRegistryV2`: the announcement part, the configuration, the
validation epoch and the contract's balance. -/
structure MasternodeRegistryV2 extends MasternodeRegistry where
  requireValidation : Uint
  validationPeriods : Uint
  cleanupPeriod : Uint
  paymentsPerBlock : Uint
  lastBlockNumber : Uint
  currValidationEnds : Uint
  currValidationOffset : Uint
  balance : Uint

/-- The constructor's `_config`. -/
structure RegistryConfig where
  requireValidation : Uint
  validationPeriods : Uint
  cleanupPeriod : Uint
  initialEverCollateral : Uint
  paymentsPerBlock : Uint

/-- What a call of the registry reads of its transaction and block and of the contracts it
calls. -/
structure RegistryEnv extends CallEnv where
  msgValue : Uint
  /-- `IMasternodeToken.balanceInfo`: an owner's collateral and the block of its last change. -/
  balanceInfo : Address → Uint × Uint
  blockhash : Uint → Hash
  /-- How many of the call's checks `gasleft() > GAS_RESERVE` pass. -/
  gas : ℕ
  /-- Whether `send` of a reward to the address succeeds. -/
  accepts : Address → Bool
  /-- The treasury's `reward` with the given value. -/
  treasuryReward : Uint → Except Revert Unit

namespace MasternodeRegistryV2

variable (r : MasternodeRegistryV2) (env : RegistryEnv)

/-- A step of the announcement part, run on the whole registry. -/
def onPart (f : MasternodeRegistry → Except Revert MasternodeRegistry) :
    Except Revert MasternodeRegistryV2 :=
  (f r.toMasternodeRegistry).map fun a => { r with toMasternodeRegistry := a }

/-- `_checkStatus(mnstatus, mninfo)`: the status against the owner's current token balance. -/
def checkStatusOf (mnstatus : MnStatus) (mninfo : MnInfo) : ValidationStatus :=
  checkStatus env.timestamp mnstatus mninfo (env.balanceInfo mninfo.owner).1
    (env.balanceInfo mninfo.owner).2

/-- `_isActive`. -/
def isActive (masternode : Address) : Bool :=
  checkStatusOf env (r.mnStatus masternode) (r.v1storage.masternodes masternode) == .mnActive

/-- `_newHeartbeatInterval`: four seconds per active masternode, at least half an hour. -/
def newHeartbeatInterval : Uint :=
  let delay := r.mnActive * targetHeartbeatsCoef
  if delay < mnHeartbeatIntervalMin then mnHeartbeatIntervalMin else delay

/-- `heartbeat` by the caller as masternode. -/
def heartbeat (blockNumber : Uint) (blockHash : Hash) (swFeatures : Uint) :
    Except Revert MasternodeRegistryV2 := do
  require (env.blockNumber - blockNumber - 1 ≤ mnHeartbeatPastBlocks) "Too old block"
  require (env.blockhash blockNumber = blockHash) "Block mismatch"
  let masternode := env.caller
  let s := r.mnStatus masternode
  require (r.isActive env masternode = true) "Not active"
  require (s.nextHeartbeat ≤ env.timestamp) "Too early"
  pure
    { r with
      mnStatus := Function.update r.mnStatus masternode
        { s with nextHeartbeat := env.timestamp + r.newHeartbeatInterval, swFeatures } }

/-- `validationTarget`: the validator at the masternode's index plus the epoch's offset, around
`validator_list`. -/
def validationTarget (masternode : Address) : Except Revert Address := do
  let total : Uint := BitVec.ofNat 256 r.validatorList.length
  let offset := r.currValidationOffset
  let offset := if offset = total then offset + 1 else offset
  -- `% total` of an empty list divides by zero
  if total = 0 then throw .assert
  let targetIndex := ((r.mnStatus masternode).validatorIndex + offset) % total
  match r.validatorList[targetIndex.toNat]? with
  | some target => pure target
  | none => throw .assert

/-- `invalidate`: an active caller votes, once per epoch, against its validation target. -/
def invalidate (masternode : Address) : Except Revert MasternodeRegistryV2 := do
  let caller := env.caller
  require (caller ≠ masternode) "Invalidation for self"
  let voteEpoch := r.currValidationEnds
  let cs := r.mnStatus caller
  require (r.isActive env caller = true) "Not active caller"
  require (cs.lastVoteEpoch < voteEpoch) "Already invalidated"
  let target ← r.validationTarget caller
  require (target = masternode) "Invalid target"
  let s := r.mnStatus masternode
  require (r.isActive env masternode = true) "Not active target"
  let mnStatus := Function.update r.mnStatus caller { cs with lastVoteEpoch := voteEpoch }
  pure
    { r with
      mnStatus := Function.update mnStatus masternode { s with invalidations := s.invalidations + 1 } }

/-- `_processValidationEpoch`: at the end of an epoch, when validation is enabled, the next end
and a fresh offset from the last block hash. -/
def processValidationEpoch : Except Revert MasternodeRegistryV2 :=
  if env.blockNumber ≥ r.currValidationEnds then
    let total : Uint := BitVec.ofNat 256 r.validatorList.length
    let vperiods := r.validationPeriods
    if total < vperiods then .ok r
    -- `total / vperiods` and `% (total - 1)` revert on a zero divisor
    else if vperiods = 0 then .error .assert
    else
      let vperiod := total / vperiods
      let vperiod := if vperiod < vperiods then vperiods else vperiod
      if total - 1 = 0 then .error .assert
      else
        .ok
          { r with
            currValidationEnds := env.blockNumber + vperiod
            currValidationOffset := env.blockhash (env.blockNumber - 1) % (total - 1) + 1 }
  else .ok r

/-- `onCollateralUpdate`, the token's callback for an owner: a masternode with a collateral issue
is re-announced with the new balance, or denounced below the minimum. -/
def onCollateralUpdate (owner : Address) : Except Revert MasternodeRegistryV2 := do
  let masternode := r.v1storage.ownerMasternodes owner
  if masternode = 0 then return r
  let (balance, lastBlock) := env.balanceInfo owner
  let mninfo := r.v1storage.masternodes masternode
  let check := checkStatus env.timestamp (r.mnStatus masternode) mninfo balance lastBlock
  if check = .mnCollaterIssue then
    if balance ≥ mnCollateralV2Min then
      r.onPart (·.announceInternal env.toCallEnv masternode owner balance mninfo.ipv4address
        (mninfo.enode0, mninfo.enode1))
    else r.onPart (·.denounceInternal masternode owner)
  else pure r

/-- `_canReward`: below `require_validation` active masternodes every one is paid; otherwise
one with fewer invalidations than half the validation periods. -/
def canReward (invalidations : Uint) : Bool :=
  if r.mnActive < r.requireValidation then true
  else invalidations < (r.validationPeriods + 1) / 2

/-- The first part of `_reward`: the current masternode has one more payout in its turn, or,
after its last one, its invalidations are reset and the turn passes to its successor. -/
def rewardAdvance : MasternodeRegistryV2 :=
  let masternode := r.currentMasternode
  let payouts := r.currentPayouts + 1
  if payouts < (r.mnStatus masternode).seqPayouts then { r with currentPayouts := payouts }
  else
    { r with
      mnStatus := Function.update r.mnStatus masternode
        { r.mnStatus masternode with invalidations := 0 }
      currentMasternode := (r.v1storage.masternodes masternode).next
      currentPayouts := 0 }

/-- "When not valid" in `_reward`: a masternode with a collateral issue is denounced at once, one
with payouts left is deactivated for a later cleanup, and an inactive one is cleaned up once it
has been inactive for `cleanup_period`. -/
def rewardPenalty (masternode : Address) (mninfo : MnInfo) (status : ValidationStatus) :
    Except Revert MasternodeRegistryV2 := do
  let mnstatus := r.mnStatus masternode
  if status = .mnCollaterIssue then
    r.onPart (·.denounceInternal masternode mninfo.owner)
  else if mnstatus.seqPayouts > 0 then
    let r : MasternodeRegistryV2 :=
      { r with
        mnStatus := Function.update r.mnStatus masternode
          { mnstatus with seqPayouts := 0, inactiveSince := env.timestamp } }
    let r ← r.onPart (·.deactiveCommon masternode mninfo.collateral)
    pure { r with currentMasternode := mninfo.next, currentPayouts := 0 }
  else if env.timestamp - mnstatus.inactiveSince > r.cleanupPeriod then
    r.onPart (·.denounceInternal masternode mninfo.owner)
  else pure r

/-- The "reward logic" of `_reward` for the visited masternode, with its `Info` and invalidations
as read before the first part: an active one is paid, unless too many validators invalidated
it, and any other is dealt with by `rewardPenalty`. The result says whether the part was given
away. -/
def rewardLogic (masternode : Address) (mninfo : MnInfo) (invalidations rewardPart : Uint) :
    Except Revert (Bool × MasternodeRegistryV2) := do
  let status := checkStatusOf env (r.mnStatus masternode) mninfo
  if status = .mnActive then
    if !r.canReward invalidations then return (true, r)
    -- `send` fails without reverting
    if env.accepts mninfo.owner && decide (rewardPart ≤ r.balance) then
      return (true, { r with balance := r.balance - rewardPart })
  let r ← r.rewardPenalty env masternode mninfo status
  return (false, r)

/-- `_reward(reward_part)`: one visit of the current masternode, nothing when there is none. -/
def rewardStep (rewardPart : Uint) : Except Revert (Bool × MasternodeRegistryV2) :=
  let masternode := r.currentMasternode
  if masternode = 0 then .ok (true, r)
  else
    r.rewardAdvance.rewardLogic env masternode (r.v1storage.masternodes masternode)
      (r.mnStatus masternode).invalidations rewardPart

/-- `while ((gasleft() > GAS_RESERVE) && !_reward(reward_part)) {}` with `gas` checks left to
pass; it returns the checks left. -/
def rewardWhile (rewardPart : Uint) : ℕ → MasternodeRegistryV2 →
    Except Revert (ℕ × MasternodeRegistryV2)
  | 0, r => .ok (0, r)
  | gas + 1, r => do
    let (done, r) ← r.rewardStep env rewardPart
    if done then pure (gas, r) else rewardWhile rewardPart gas r

/-- `for (uint i = fractions; i > 0; --i) { assert(gasleft() > GAS_RESERVE); while ... }`. -/
def rewardFractions (rewardPart : Uint) : ℕ → ℕ → MasternodeRegistryV2 →
    Except Revert MasternodeRegistryV2
  | 0, _, r => .ok r
  | _ + 1, 0, _ => .error .assert
  | fractions + 1, gas + 1, r => do
    let (gas, r) ← rewardWhile env rewardPart gas r
    rewardFractions rewardPart fractions gas r

/-- The start of `reward`, with the payment already in the balance: what remains from earlier
blocks goes to the treasury. -/
def moveRemaining : Except Revert MasternodeRegistryV2 := do
  let diff := r.balance - env.msgValue
  if (0 : Uint).slt diff then
    env.treasuryReward diff
    pure { r with balance := r.balance - diff }
  else pure r

/-- The processing of `reward` for a payment of `REWARD_MASTERNODE_V1`: once per block, after
the validation epoch, it is split into `payments_per_block` parts given around the ring. -/
def payRewards : Except Revert MasternodeRegistryV2 := do
  require (r.lastBlockNumber < env.blockNumber) "Call outside of governance!"
  let r := { r with lastBlockNumber := env.blockNumber }
  let r ← r.processValidationEpoch env
  if env.msgValue ≠ r.balance then throw .assert
  let fractions := r.paymentsPerBlock
  if fractions = 0 then throw .assert
  r.rewardFractions env (rewardMasternodeV1 / fractions) fractions.toNat env.gas

/-- `reward`: the payment arrives, the rest of the balance goes to the treasury, and only a
payment of exactly `REWARD_MASTERNODE_V1` is processed. -/
def reward : Except Revert MasternodeRegistryV2 := do
  let r ← ({ r with balance := r.balance + env.msgValue } : MasternodeRegistryV2).moveRemaining env
  if env.msgValue = rewardMasternodeV1 then r.payRewards env else pure r

/-- `enumerateActive`: the first `mn_active` entries of `validator_list`. -/
def enumerateActive : Except Revert (List Address) :=
  if r.validatorList.length < r.mnActive.toNat then .error .assert
  else .ok (r.validatorList.take r.mnActive.toNat)

/-- `count`: active and announced masternodes, their collateral, and the most ever announced. -/
def count : Uint × Uint × Uint × Uint × Uint :=
  (r.mnActive, r.mnAnnounced, r.mnActiveCollateral, r.mnAnnouncedCollateral, r.mnEverCollateral)

/-- `ownerInfo`: an owner's masternode with its address, enode, collateral, announcement block
and software features. -/
def ownerInfo (owner : Address) :
    Except Revert (Address × UInt32 × (Hash × Hash) × Uint × Uint × Uint) := do
  let masternode := r.v1storage.ownerMasternodes owner
  require (masternode ≠ 0) "Unknown owner"
  let mninfo := r.v1storage.masternodes masternode
  pure (masternode, mninfo.ipv4address, (mninfo.enode0, mninfo.enode1), mninfo.collateral,
    mninfo.announcedBlock, (r.mnStatus masternode).swFeatures)

theorem onPart_eq_ok {r : MasternodeRegistryV2}
    {f : MasternodeRegistry → Except Revert MasternodeRegistry} {r' : MasternodeRegistryV2} :
    r.onPart f = .ok r' ↔
      ∃ a, f r.toMasternodeRegistry = .ok a ∧ r' = { r with toMasternodeRegistry := a } := by
  unfold onPart
  cases f r.toMasternodeRegistry with
  | error e => simp [Except.map]
  | ok a => simp [Except.map, eq_comm]

@[simp] theorem rewardAdvance_v1storage : r.rewardAdvance.v1storage = r.v1storage := by
  unfold rewardAdvance
  dsimp only
  split <;> rfl

/-- The validation epoch moves the epoch's end and offset only. -/
theorem processValidationEpoch_ok {r' : MasternodeRegistryV2}
    (h : r.processValidationEpoch env = .ok r') : r'.toMasternodeRegistry = r.toMasternodeRegistry := by
  unfold processValidationEpoch at h
  dsimp only at h
  split_ifs at h <;> cases h <;> rfl

/-- Moving the remaining balance changes the balance only. -/
theorem moveRemaining_ok {r' : MasternodeRegistryV2} (h : r.moveRemaining env = .ok r') :
    r'.toMasternodeRegistry = r.toMasternodeRegistry := by
  unfold moveRemaining at h
  dsimp only at h
  split_ifs at h
  · obtain ⟨⟨⟩, -, h⟩ := Except.bind_eq_ok_iff.1 h
    cases h
    rfl
  · cases h
    rfl

section Invariant

/-! An invariant of the announcement part that every `_reward` step keeps is kept by the loops
of `reward` and by `reward` itself, whose other writes leave the announcement part alone. -/

variable {env} {P : MasternodeRegistry → Prop}

theorem rewardWhile_invariant {rewardPart : Uint}
    (hstep : ∀ {r r' : MasternodeRegistryV2} {paid : Bool}, P r.toMasternodeRegistry →
      r.rewardStep env rewardPart = .ok (paid, r') → P r'.toMasternodeRegistry)
    (gas : ℕ) {gas' : ℕ} {r r' : MasternodeRegistryV2} (h : P r.toMasternodeRegistry)
    (hd : rewardWhile env rewardPart gas r = .ok (gas', r')) : P r'.toMasternodeRegistry := by
  induction gas generalizing r with
  | zero =>
    cases hd
    exact h
  | succ gas ih =>
    obtain ⟨⟨paid, r₁⟩, h₁, hd⟩ := Except.bind_eq_ok_iff.1 hd
    have hinv := hstep h h₁
    dsimp only at hd
    split_ifs at hd
    · cases hd
      exact hinv
    · exact ih hinv hd

theorem rewardFractions_invariant {rewardPart : Uint}
    (hstep : ∀ {r r' : MasternodeRegistryV2} {paid : Bool}, P r.toMasternodeRegistry →
      r.rewardStep env rewardPart = .ok (paid, r') → P r'.toMasternodeRegistry)
    (fractions gas : ℕ) {r r' : MasternodeRegistryV2} (h : P r.toMasternodeRegistry)
    (hd : rewardFractions env rewardPart fractions gas r = .ok r') : P r'.toMasternodeRegistry := by
  induction fractions generalizing gas r with
  | zero =>
    cases hd
    exact h
  | succ fractions ih =>
    cases gas with
    | zero => cases hd
    | succ gas =>
      obtain ⟨⟨gas', r₁⟩, h₁, hd⟩ := Except.bind_eq_ok_iff.1 hd
      exact ih gas' (rewardWhile_invariant hstep gas h h₁) hd

theorem reward_invariant
    (hstep : ∀ {rewardPart : Uint} {r r' : MasternodeRegistryV2} {paid : Bool},
      P r.toMasternodeRegistry → r.rewardStep env rewardPart = .ok (paid, r') →
        P r'.toMasternodeRegistry)
    {r r' : MasternodeRegistryV2} (h : P r.toMasternodeRegistry) (hd : r.reward env = .ok r') :
    P r'.toMasternodeRegistry := by
  unfold reward at hd
  obtain ⟨r₁, h₁, hd⟩ := Except.bind_eq_ok_iff.1 hd
  have hinv : P r₁.toMasternodeRegistry := by
    rw [moveRemaining_ok _ _ h₁]
    exact h
  split_ifs at hd
  · unfold payRewards at hd
    obtain ⟨⟨⟩, -, hd⟩ := Except.bind_eq_ok_iff.1 hd
    obtain ⟨r₂, h₂, hd⟩ := Except.bind_eq_ok_iff.1 hd
    have hinv₂ : P r₂.toMasternodeRegistry := by
      rw [processValidationEpoch_ok _ _ h₂]
      exact hinv
    dsimp only at hd
    -- the two `assert`s passed
    obtain ⟨-, hd⟩ := Except.ite_throw_bind_eq_ok_iff.1 hd
    obtain ⟨-, hd⟩ := Except.ite_throw_bind_eq_ok_iff.1 hd
    exact rewardFractions_invariant hstep _ _ hinv₂ hd
  · cases hd
    exact hinv

end Invariant

end MasternodeRegistryV2

namespace MasternodeRegistryV2

/-- The constructor. -/
def new (config : RegistryConfig) (env : RegistryEnv) : Except Revert MasternodeRegistryV2 := do
  let r : MasternodeRegistryV2 :=
    { toMasternodeRegistry := MasternodeRegistry.init config.initialEverCollateral
      requireValidation := config.requireValidation
      validationPeriods := config.validationPeriods
      cleanupPeriod := config.cleanupPeriod
      paymentsPerBlock := config.paymentsPerBlock
      lastBlockNumber := 0
      currValidationEnds := 0
      currValidationOffset := 0
      balance := 0 }
  require (r.validationPeriods ≤ r.requireValidation) "Validations > Require"
  require (config.initialEverCollateral ≥ mnCollateralV2Min) "Initial collateral"
  r.processValidationEpoch env

/-- The constructor leaves the storage and the ring empty. -/
theorem new_toMasternodeRegistry {config : RegistryConfig} {env : RegistryEnv}
    {r : MasternodeRegistryV2} (h : new config env = .ok r) :
    r.toMasternodeRegistry = MasternodeRegistry.init config.initialEverCollateral := by
  unfold new at h
  obtain ⟨⟨⟩, -, h⟩ := Except.bind_eq_ok_iff.1 h
  obtain ⟨⟨⟩, -, h⟩ := Except.bind_eq_ok_iff.1 h
  exact processValidationEpoch_ok _ _ h

end MasternodeRegistryV2

/-- The registry's external calls that change its storage. -/
inductive RegistryCall where
  | announce (masternode : Address) (ipv4address : UInt32) (enode : Hash × Hash)
  | denounce (masternode : Address)
  | heartbeat (blockNumber : Uint) (blockHash : Hash) (swFeatures : Uint)
  | invalidate (masternode : Address)
  | onCollateralUpdate (owner : Address)
  | reward

namespace MasternodeRegistryV2

/-- A call with its environment; every function but `reward` rejects a payment. -/
def exec (r : MasternodeRegistryV2) (env : RegistryEnv) : RegistryCall →
    Except Revert MasternodeRegistryV2
  | .reward => r.reward env
  | call => do
    require (env.msgValue = 0) ""
    match call with
    | .announce masternode ipv4address enode =>
      r.onPart (·.announce env.toCallEnv env.balanceInfo masternode ipv4address enode)
    | .denounce masternode => r.onPart (·.denounce env.toCallEnv masternode)
    | .heartbeat blockNumber blockHash swFeatures =>
      r.heartbeat env blockNumber blockHash swFeatures
    | .invalidate masternode => r.invalidate env masternode
    | .onCollateralUpdate owner => r.onCollateralUpdate env owner
    | .reward => r.reward env

/-- The storage after a call: its result, or the old storage if it reverted. -/
def commit (r : MasternodeRegistryV2) (env : RegistryEnv) (call : RegistryCall) :
    MasternodeRegistryV2 :=
  match r.exec env call with
  | .ok r' => r'
  | .error _ => r

/-- The storage after the calls, in order, each with its environment. -/
def runCalls (r : MasternodeRegistryV2) (calls : List (RegistryEnv × RegistryCall)) :
    MasternodeRegistryV2 :=
  StateMachine.run (fun r c => r.commit c.1 c.2) r calls

end MasternodeRegistryV2

end RangeCore.Governance
