import RangeCore.Governance.RegistryV2
import RangeCore.Lib.RingWalk

/-!
# The genesis masternode registry

`MasternodeRegistryV1`, the registry of `range/contracts/src/MasternodeRegistryV1.sol` that
`MasternodeRegistryV2` replaces by an upgrade. It keeps its announced masternodes in the same
storage contract `StorageMasternodeRegistryV1`, with the same ring and the same counters; its
`Status` differs. V1 records the time of the last heartbeat where V2 records when the next one is
due, and V1 also records `invalidation_since`, the block from which a masternode's invalidations
are counted.

The contract also differs in what it does with its masternodes:

* `announce` needs `MN_COLLATERAL_MIN`.
* A heartbeat is overdue `MN_HEARTBEAT_INTERVAL_MAX` after the last one.
* The validation target is chosen from `block.number / validation_period`.
* `reward` pays the whole `REWARD_MASTERNODE_V1` to a single masternode.
* A masternode with a collateral issue is only ever denounced.

`enumerate` walks the ring from the current masternode into an array of `mn_announced` entries
(`MnStorage.enumerate`); `MasternodeRegistryV2` has the same code.

## Main definitions

* `RangeCore.Governance.MnStorage.enumerate`.
* `RangeCore.Governance.MnStatusV1`, `RangeCore.Governance.MasternodeRegistryV1`.
* `RangeCore.Governance.MasternodeRegistryV1.announce`, `denounceInternal`, `heartbeat`,
  `validationTarget`, `invalidate`, `onCollateralUpdate`, `rewardStep`, `reward`, `enumerate`,
  `enumerateActive`, `exec`, `runCalls`.

## Main results

* `RangeCore.Governance.MnStorage.length_enumerate`: `enumerate` fills its array.
* `RangeCore.Governance.MnStorage.enumerate_nodup`: an enumeration with no zero entry lists every
  masternode once.
-/

namespace RangeCore.Governance

/-- `MN_COLLATERAL_MIN = 10000 ether`. -/
def mnCollateralMin : Uint := BitVec.ofNat 256 (10000 * 10 ^ 18)

namespace MnStorage

/-- `enumerate` over the storage, with `mn_announced` and `current_masternode`: the ring walked
along `next` from the current masternode, written into an array of `mn_announced` entries that
starts as zeros. A write past the end of the array fails. -/
def enumerate (st : MnStorage) (mnAnnounced : Uint) (currentMasternode : Address) :
    Except Revert (List Address) :=
  let n := mnAnnounced.toNat
  if currentMasternode = 0 then .ok (List.replicate n 0)
  else
    match RingWalk.walk (fun m => (st.masternodes m).next) currentMasternode n currentMasternode with
    | some l => .ok (l ++ List.replicate (n - l.length) 0)
    | none => .error .assert

/-- What `enumerate` returns: zeros when there is no current masternode, and otherwise the ring
walk, closed within the array, followed by zeros. -/
theorem enumerate_ok {st : MnStorage} {mnAnnounced : Uint} {currentMasternode : Address}
    {l : List Address} (h : st.enumerate mnAnnounced currentMasternode = .ok l) :
    currentMasternode = 0 ∧ l = List.replicate mnAnnounced.toNat 0 ∨
      ∃ walked, RingWalk.walk (fun m => (st.masternodes m).next) currentMasternode
          mnAnnounced.toNat currentMasternode = some walked ∧
        l = walked ++ List.replicate (mnAnnounced.toNat - walked.length) 0 := by
  unfold enumerate at h
  dsimp only at h
  split at h
  · cases h
    exact .inl ⟨‹_›, rfl⟩
  · split at h
    · rename_i walked hw
      cases h
      exact .inr ⟨walked, hw, rfl⟩
    · cases h

variable {st : MnStorage} {mnAnnounced : Uint} {currentMasternode : Address} {l : List Address}

/-- `enumerate` fills its array of `mn_announced` entries. -/
theorem length_enumerate (h : st.enumerate mnAnnounced currentMasternode = .ok l) :
    l.length = mnAnnounced.toNat := by
  rcases enumerate_ok h with ⟨-, rfl⟩ | ⟨walked, hw, rfl⟩
  · exact List.length_replicate
  · have hle := RingWalk.length_le hw
    rw [List.length_append, List.length_replicate]
    omega

/-- An enumeration with no zero entry lists every masternode once: the ring walk filled the
array, and a walk that closes visits no masternode twice. -/
theorem enumerate_nodup (h : st.enumerate mnAnnounced currentMasternode = .ok l)
    (hzero : (0 : Address) ∉ l) : l.Nodup := by
  rcases enumerate_ok h with ⟨-, rfl⟩ | ⟨walked, hw, rfl⟩
  · have hn : mnAnnounced.toNat = 0 := by
      by_contra hn
      exact hzero (List.mem_replicate.2 ⟨hn, rfl⟩)
    rw [hn]
    exact List.nodup_nil
  · -- no zero was added after the walk
    have hk : mnAnnounced.toNat - walked.length = 0 := by
      by_contra hk
      exact hzero (List.mem_append_right _ (List.mem_replicate.2 ⟨hk, rfl⟩))
    rw [hk, List.replicate_zero, List.append_nil]
    exact RingWalk.walk_nodup hw

end MnStorage

/-- `MasternodeRegistryV1.Status`. -/
structure MnStatusV1 where
  swFeatures : Uint
  lastHeartbeat : Uint
  inactiveSince : Uint
  validatorIndex : Uint
  invalidationSince : Uint
  invalidations : Uint
  seqPayouts : Uint
  lastVoteEpoch : Uint
  deriving DecidableEq, Repr

/-- The zero `Status`. -/
def MnStatusV1.zero : MnStatusV1 := ⟨0, 0, 0, 0, 0, 0, 0, 0⟩

/-- The storage of `MasternodeRegistryV1`, with the contract's balance. -/
structure MasternodeRegistryV1 where
  v1storage : MnStorage
  mnAnnounced : Uint
  currentMasternode : Address
  currentPayouts : Uint
  requireValidation : Uint
  validationPeriod : Uint
  cleanupPeriod : Uint
  mnEverCollateral : Uint
  mnActiveCollateral : Uint
  mnAnnouncedCollateral : Uint
  mnActive : Uint
  mnStatus : Address → MnStatusV1
  validatorList : List Address
  lastBlockNumber : Uint
  balance : Uint

/-- The constructor's `_config`. -/
structure RegistryConfigV1 where
  requireValidation : Uint
  validationPeriod : Uint
  cleanupPeriod : Uint
  initialEverCollateral : Uint

namespace MasternodeRegistryV1

/-- The constructor: a fresh storage contract, and `mn_ever_collateral` from the configuration. -/
def new (config : RegistryConfigV1) : Except Revert MasternodeRegistryV1 := do
  let r : MasternodeRegistryV1 :=
    { v1storage := MnStorage.empty
      mnAnnounced := 0
      currentMasternode := 0
      currentPayouts := 0
      requireValidation := config.requireValidation
      validationPeriod := config.validationPeriod
      cleanupPeriod := config.cleanupPeriod
      mnEverCollateral := config.initialEverCollateral
      mnActiveCollateral := 0
      mnAnnouncedCollateral := 0
      mnActive := 0
      mnStatus := fun _ => MnStatusV1.zero
      validatorList := []
      lastBlockNumber := 0
      balance := 0 }
  require (config.initialEverCollateral ≥ mnCollateralMin) "Initial collateral"
  pure r

/-- `_checkStatus` of V1 with the owner's token balance and its last change: the heartbeat is
overdue `MN_HEARTBEAT_INTERVAL_MAX` after the last one. -/
def checkStatus (timestamp : Uint) (mnstatus : MnStatusV1) (mninfo : MnInfo)
    (balance lastBlock : Uint) : ValidationStatus :=
  if mnstatus.seqPayouts = 0 then .mnNotActive
  else if timestamp - mnstatus.lastHeartbeat ≥ mnHeartbeatIntervalMax then .mnHeartbeat
  else if balance ≠ mninfo.collateral then .mnCollaterIssue
  else if lastBlock > mninfo.announcedBlock then .mnCollaterIssue
  else .mnActive

variable (r : MasternodeRegistryV1) (env : RegistryEnv)

/-- `_checkStatus(mnstatus, mninfo)`: the status against the owner's current token balance. -/
def checkStatusOf (mnstatus : MnStatusV1) (mninfo : MnInfo) : ValidationStatus :=
  checkStatus env.timestamp mnstatus mninfo (env.balanceInfo mninfo.owner).1
    (env.balanceInfo mninfo.owner).2

/-- `_isActive`. -/
def isActive (masternode : Address) : Bool :=
  checkStatusOf env (r.mnStatus masternode) (r.v1storage.masternodes masternode) == .mnActive

/-- `_deactive_common`: the masternode leaves `validator_list` (the last validator takes its
index) and the active counters. -/
def deactiveCommon (masternode : Address) (collateral : Uint) :
    Except Revert MasternodeRegistryV1 := do
  let some lastValidator := r.validatorList.getLast? | throw .assert
  let validatorIndex := (r.mnStatus masternode).validatorIndex
  let mnStatus := Function.update r.mnStatus lastValidator
    { r.mnStatus lastValidator with validatorIndex }
  if r.validatorList.length ≤ validatorIndex.toNat then throw .assert
  pure
    { r with
      mnStatus
      validatorList := (r.validatorList.set validatorIndex.toNat lastValidator).dropLast
      mnActive := r.mnActive - 1
      mnActiveCollateral := r.mnActiveCollateral - collateral }

/-- `_denounce`: nothing for a free slot; otherwise the owner must match, the masternode is
unlinked, deactivated if it still had payouts, and deleted. -/
def denounceInternal (masternode owner : Address) : Except Revert MasternodeRegistryV1 := do
  let mninfo := r.v1storage.masternodes masternode
  if mninfo.owner = 0 then return r
  require (owner = mninfo.owner) "Invalid owner"
  let r : MasternodeRegistryV1 :=
    if mninfo.next = masternode then { r with currentMasternode := 0 }
    else
      let r :=
        if r.currentMasternode = masternode then
          { r with currentMasternode := mninfo.next, currentPayouts := 0 }
        else r
      let st := r.v1storage.setMasternodePos mninfo.prev false 0 true mninfo.next
      { r with v1storage := st.setMasternodePos mninfo.next true mninfo.prev false 0 }
  let r : MasternodeRegistryV1 :=
    { r with mnAnnouncedCollateral := r.mnAnnouncedCollateral - mninfo.collateral }
  let r : MasternodeRegistryV1 ←
    if (r.mnStatus masternode).seqPayouts > 0 then r.deactiveCommon masternode mninfo.collateral
    else pure r
  pure
    { r with
      mnStatus := Function.update r.mnStatus masternode MnStatusV1.zero
      v1storage := r.v1storage.deleteMasternode masternode
      mnAnnounced := r.mnAnnounced - 1 }

/-- `_announce_insert`: the masternode goes before the current one, or becomes the current one
and its own neighbour when there is none. It returns the new registry, `next` and `prev`. -/
def announceInsert (masternode : Address) : MasternodeRegistryV1 × Address × Address :=
  let next := r.currentMasternode
  if next ≠ 0 then
    let nextinfo := r.v1storage.masternodes next
    let st := r.v1storage.setMasternodePos nextinfo.prev false 0 true masternode
    ({ r with v1storage := st.setMasternodePos next true masternode false 0 }, next, nextinfo.prev)
  else
    ({ r with currentMasternode := masternode, currentPayouts := 0 }, masternode, masternode)

/-- `announce`, by the caller as owner with the collateral the masternode token reports: the
owner's old masternode is denounced, the slot must be free and the address public; the
masternode is inserted and stored, its last heartbeat is now, it has one sequential payout per
`MN_COLLATERAL_MIN`, its invalidations count from this block, and it is appended to
`validator_list`. -/
def announce (masternode : Address) (ipv4address : UInt32) (enode : Hash × Hash) :
    Except Revert MasternodeRegistryV1 := do
  let owner := env.caller
  let balance := (env.balanceInfo owner).1
  require (balance ≥ mnCollateralMin) "Invalid collateral"
  let old := r.v1storage.ownerMasternodes owner
  let r ← if old ≠ 0 then r.denounceInternal old owner else pure r
  require ((r.v1storage.masternodes masternode).owner = 0) "Invalid owner"
  MasternodeRegistry.announceCheckIpv4 ipv4address
  let (r, next, prev) := r.announceInsert masternode
  let st ← r.v1storage.setMasternode masternode owner ipv4address enode balance env.blockNumber
    prev next
  let status :=
    { r.mnStatus masternode with
      lastHeartbeat := env.timestamp
      seqPayouts := balance / mnCollateralMin
      invalidationSince := env.blockNumber
      validatorIndex := BitVec.ofNat 256 r.validatorList.length }
  let announced := r.mnAnnouncedCollateral + balance
  pure
    { r with
      v1storage := st
      mnStatus := Function.update r.mnStatus masternode status
      mnActive := r.mnActive + 1
      mnAnnounced := r.mnAnnounced + 1
      mnActiveCollateral := r.mnActiveCollateral + balance
      mnAnnouncedCollateral := announced
      mnEverCollateral := if announced > r.mnEverCollateral then announced else r.mnEverCollateral
      validatorList := r.validatorList ++ [masternode] }

/-- `heartbeat` by the caller as masternode: more than `MN_HEARTBEAT_INTERVAL_MIN` after the last
one. -/
def heartbeat (blockNumber : Uint) (blockHash : Hash) (swFeatures : Uint) :
    Except Revert MasternodeRegistryV1 := do
  require (env.blockNumber - blockNumber - 1 ≤ mnHeartbeatPastBlocks) "Too old block"
  require (env.blockhash blockNumber = blockHash) "Block mismatch"
  let masternode := env.caller
  let s := r.mnStatus masternode
  require (r.isActive env masternode = true) "Not active"
  let hearbeatDelay := env.timestamp - s.lastHeartbeat
  require (hearbeatDelay > mnHeartbeatIntervalMin) "Too early"
  pure
    { r with
      mnStatus := Function.update r.mnStatus masternode
        { s with lastHeartbeat := env.timestamp, swFeatures } }

/-- `validationTarget`: the validator at the masternode's index plus an offset from the block
number, around `validator_list`. -/
def validationTarget (masternode : Address) : Except Revert Address := do
  let total : Uint := BitVec.ofNat 256 r.validatorList.length
  let vperiod := r.validationPeriod
  -- `/ vperiod`, `% (total - 1)` and `% total` revert on a zero divisor
  if vperiod = 0 then throw .assert
  if total - 1 = 0 then throw .assert
  let offset := env.blockNumber / vperiod % (total - 1) + 1
  if total = 0 then throw .assert
  let targetIndex := ((r.mnStatus masternode).validatorIndex + offset) % total
  match r.validatorList[targetIndex.toNat]? with
  | some target => pure target
  | none => throw .assert

/-- `invalidate`: an active caller votes, once per vote epoch, against its validation target. -/
def invalidate (masternode : Address) : Except Revert MasternodeRegistryV1 := do
  let caller := env.caller
  require (caller ≠ masternode) "Invalidation for self"
  if r.validationPeriod = 0 then throw .assert
  let voteEpoch := env.blockNumber / r.validationPeriod
  let cs := r.mnStatus caller
  require (r.isActive env caller = true) "Not active caller"
  require (cs.lastVoteEpoch < voteEpoch) "Already invalidated"
  let target ← r.validationTarget env caller
  require (target = masternode) "Invalid target"
  let s := r.mnStatus masternode
  require (r.isActive env masternode = true) "Not active target"
  let mnStatus := Function.update r.mnStatus caller { cs with lastVoteEpoch := voteEpoch }
  pure
    { r with
      mnStatus := Function.update mnStatus masternode { s with invalidations := s.invalidations + 1 } }

/-- `onCollateralUpdate`, the token's callback for an owner: a masternode with a collateral issue
is denounced. -/
def onCollateralUpdate (owner : Address) : Except Revert MasternodeRegistryV1 := do
  let masternode := r.v1storage.ownerMasternodes owner
  if masternode = 0 then return r
  let mninfo := r.v1storage.masternodes masternode
  if checkStatusOf env (r.mnStatus masternode) mninfo = .mnCollaterIssue then
    r.denounceInternal masternode owner
  else pure r

/-- `_canReward`: below `require_validation` active masternodes every one is paid; otherwise one
with fewer invalidations than half the validation periods since `invalidation_since`. -/
def canReward (invalidations invalidationSince : Uint) : Except Revert Bool := do
  if r.mnActive < r.requireValidation then return true
  if r.validationPeriod = 0 then throw .assert
  let threshold := env.blockNumber - invalidationSince
  let threshold := threshold / r.validationPeriod + 1
  let threshold := threshold / 2
  pure (invalidations < threshold)

/-- The first part of `_reward`: the current masternode has one more payout in its turn, or,
after its last one, its invalidations are reset and counted from this block, and the turn passes
to its successor. -/
def rewardAdvance : MasternodeRegistryV1 :=
  let masternode := r.currentMasternode
  let payouts := r.currentPayouts + 1
  if payouts < (r.mnStatus masternode).seqPayouts then { r with currentPayouts := payouts }
  else
    { r with
      mnStatus := Function.update r.mnStatus masternode
        { r.mnStatus masternode with invalidations := 0, invalidationSince := env.blockNumber }
      currentMasternode := (r.v1storage.masternodes masternode).next
      currentPayouts := 0 }

/-- "When not valid" in `_reward`: a masternode with a collateral issue is denounced at once, one
with payouts left is deactivated for a later cleanup, and an inactive one is cleaned up once it
has been inactive for `cleanup_period`. -/
def rewardPenalty (masternode : Address) (mninfo : MnInfo) (status : ValidationStatus) :
    Except Revert MasternodeRegistryV1 := do
  let mnstatus := r.mnStatus masternode
  if status = .mnCollaterIssue then r.denounceInternal masternode mninfo.owner
  else if mnstatus.seqPayouts > 0 then
    let r : MasternodeRegistryV1 :=
      { r with
        mnStatus := Function.update r.mnStatus masternode
          { mnstatus with seqPayouts := 0, inactiveSince := env.timestamp } }
    let r ← r.deactiveCommon masternode mninfo.collateral
    pure { r with currentMasternode := mninfo.next, currentPayouts := 0 }
  else if env.timestamp - mnstatus.inactiveSince > r.cleanupPeriod then
    r.denounceInternal masternode mninfo.owner
  else pure r

/-- The "reward logic" of `_reward` for the visited masternode, with its `Info`, invalidations and
`invalidation_since` as read before the first part: an active one is sent the whole payment,
unless too many validators invalidated it, and any other is dealt with by `rewardPenalty`. The
result says whether the loop is done. -/
def rewardLogic (masternode : Address) (mninfo : MnInfo) (invalidations invalidationSince : Uint) :
    Except Revert (Bool × MasternodeRegistryV1) := do
  let status := checkStatusOf env (r.mnStatus masternode) mninfo
  if status = .mnActive then
    let can ← r.canReward env invalidations invalidationSince
    if !can then return (true, r)
    -- `send` fails without reverting
    if env.accepts mninfo.owner && decide (env.msgValue ≤ r.balance) then
      return (true, { r with balance := r.balance - env.msgValue })
  let r ← r.rewardPenalty env masternode mninfo status
  return (false, r)

/-- `_reward()`: one visit of the current masternode, nothing when there is none. -/
def rewardStep : Except Revert (Bool × MasternodeRegistryV1) :=
  let masternode := r.currentMasternode
  if masternode = 0 then .ok (true, r)
  else
    (r.rewardAdvance env).rewardLogic env masternode (r.v1storage.masternodes masternode)
      (r.mnStatus masternode).invalidations (r.mnStatus masternode).invalidationSince

/-- `while ((gasleft() > GAS_RESERVE) && !_reward()) {}` with `gas` checks left to pass. -/
def rewardWhile : ℕ → MasternodeRegistryV1 → Except Revert MasternodeRegistryV1
  | 0, r => .ok r
  | gas + 1, r => do
    let (done, r) ← r.rewardStep env
    if done then pure r else rewardWhile gas r

/-- The start of `reward`, with the payment already in the balance: what remains from earlier
blocks goes to the treasury. -/
def moveRemaining : Except Revert MasternodeRegistryV1 := do
  let diff := r.balance - env.msgValue
  if (0 : Uint).slt diff then
    env.treasuryReward diff
    pure { r with balance := r.balance - diff }
  else pure r

/-- The processing of `reward` for a payment of `REWARD_MASTERNODE_V1`. The check against
`last_block_number` is made, but `last_block_number = last_block_number` writes back the value it
reads, so the field stays as the constructor left it. -/
def payRewards : Except Revert MasternodeRegistryV1 := do
  require (r.lastBlockNumber < env.blockNumber) "Call outside of governance!"
  match env.gas with
  | 0 => throw .assert
  | gas + 1 =>
    if env.msgValue ≠ r.balance then throw .assert
    r.rewardWhile env gas

/-- `reward`: the payment arrives, the rest of the balance goes to the treasury, and only a
payment of exactly `REWARD_MASTERNODE_V1` is processed. -/
def reward : Except Revert MasternodeRegistryV1 := do
  let r ← ({ r with balance := r.balance + env.msgValue } : MasternodeRegistryV1).moveRemaining env
  if env.msgValue = rewardMasternodeV1 then r.payRewards env else pure r

/-- `enumerate`: the announced masternodes from the current one around the ring. -/
def enumerate : Except Revert (List Address) :=
  r.v1storage.enumerate r.mnAnnounced r.currentMasternode

/-- `enumerateActive`: the first `mn_active` entries of `validator_list`. -/
def enumerateActive : Except Revert (List Address) :=
  if r.validatorList.length < r.mnActive.toNat then .error .assert
  else .ok (r.validatorList.take r.mnActive.toNat)

/-- A call with its environment; every function but `reward` rejects a payment. -/
def exec : RegistryCall → Except Revert MasternodeRegistryV1
  | .reward => r.reward env
  | call => do
    require (env.msgValue = 0) ""
    match call with
    | .announce masternode ipv4address enode => r.announce env masternode ipv4address enode
    | .denounce masternode => r.denounceInternal masternode env.caller
    | .heartbeat blockNumber blockHash swFeatures =>
      r.heartbeat env blockNumber blockHash swFeatures
    | .invalidate masternode => r.invalidate env masternode
    | .onCollateralUpdate owner => r.onCollateralUpdate env owner
    | .reward => r.reward env

/-- The storage after a call: its result, or the old storage if it reverted. -/
def commit (call : RegistryCall) : MasternodeRegistryV1 :=
  match r.exec env call with
  | .ok r' => r'
  | .error _ => r

/-- The storage after the calls, in order, each with its environment. -/
def runCalls (calls : List (RegistryEnv × RegistryCall)) : MasternodeRegistryV1 :=
  StateMachine.run (fun r c => r.commit c.1 c.2) r calls

end MasternodeRegistryV1

end RangeCore.Governance
