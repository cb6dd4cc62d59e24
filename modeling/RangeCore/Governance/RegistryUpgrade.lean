import RangeCore.Governance.RegistryV1
import RangeCore.Lib.ExceptBind

/-!
# Upgrading the masternode registry from V1 to V2

`GovernedProxy.upgrade` calls `migrate(old)` on the new implementation. Its `_migrate` takes over
the storage contract of `MasternodeRegistryV1` and copies the ring, the counters and the
collateral sums. It then rebuilds `validator_list` and the statuses from the old contract's
`enumerate()`, from the last masternode enumerated to the first, and starts a validation epoch.

Every enumerated masternode gets a status with V1's payouts, invalidations and votes, a heartbeat
due a few seconds per position from now, and the position it is appended at
(`Migrated.getElem_validatorIndex`). But `enumerate()` lists every announced masternode. In V1,
`_reward` deactivates a masternode whose heartbeat lapsed: its `seq_payouts` becomes zero and it
leaves `validator_list` and `mn_active`, but it stays announced until its cleanup. `_migrate`
appends it to the V2 `validator_list` all the same, and copies V1's `mn_active`. So after an
upgrade `enumerateActive()` returns the first `mn_active` entries of the reversed enumeration
(`Migrated.enumerateActive_eq`), which may include a deactivated masternode and leave out an
active one (`migrate_lists_inactive`).

## Main definitions

* `RangeCore.Governance.MasternodeRegistryV2.restoredStatus`, `restoreStatus`, `restoreAll`: the
  loop of `_migrate`.
* `RangeCore.Governance.MasternodeRegistryV2.migrate`, `enumerate`.
* `RangeCore.Governance.MasternodeRegistryV2.Migrated`: what `_migrate` makes of the V2 storage.

## Main results

* `RangeCore.Governance.MasternodeRegistryV2.migrate_ok`: a successful `_migrate` enumerates the
  old registry and migrates from it.
* `RangeCore.Governance.MasternodeRegistryV2.Migrated.getElem_validatorIndex`: each migrated
  masternode records its position in `validator_list`.
* `RangeCore.Governance.MasternodeRegistryV2.Migrated.enumerateActive_eq`: what
  `enumerateActive` returns after the upgrade.
* `RangeCore.Governance.MasternodeRegistryV2.migrate_validatorList`: the validator list of an
  upgrade into a fresh registry.
* `RangeCore.Governance.MasternodeRegistryV2.migrate_lists_inactive`.
-/

namespace RangeCore.Governance

namespace MasternodeRegistryV2

/-- The V2 `Status` that `_migrate` makes of a V1 one for the masternode at position `i` of the
old enumeration: the next heartbeat is due `i * TARGET_HEARTBEATS_COEF` seconds from now, the
index is where it is appended, and the last heartbeat and `invalidation_since` are dropped. -/
def restoredStatus (timestamp : Uint) (status : MnStatusV1) (i : ℕ) (validatorIndex : Uint) :
    MnStatus where
  swFeatures := status.swFeatures
  nextHeartbeat := timestamp + BitVec.ofNat 256 i * targetHeartbeatsCoef
  inactiveSince := status.inactiveSince
  validatorIndex
  invalidations := status.invalidations
  seqPayouts := status.seqPayouts
  lastVoteEpoch := status.lastVoteEpoch

/-- One pass of `_migrate`'s loop: the masternode at position `i` of the old enumeration is
appended to `validator_list` with its restored status. -/
def restoreStatus (r : MasternodeRegistryV2) (timestamp : Uint) (status : MnStatusV1) (i : ℕ)
    (mn : Address) : MasternodeRegistryV2 :=
  { r with
    mnStatus := Function.update r.mnStatus mn
      (restoredStatus timestamp status i (BitVec.ofNat 256 r.validatorList.length))
    validatorList := r.validatorList ++ [mn] }

/-- `for (uint i = old_list.length; i-- > 0;)` over the entries of `l`, numbered from `n`: the
passes go from the last entry to the first. -/
def restoreAll (timestamp : Uint) (status : Address → MnStatusV1) (l : List Address) (n : ℕ)
    (r : MasternodeRegistryV2) : MasternodeRegistryV2 :=
  (l.zipIdx n).foldr (fun p r => r.restoreStatus timestamp (status p.1) p.2 p.1) r

/-- `_migrate(old)`: V2 takes over V1's storage contract, ring, counters and collateral sums,
rebuilds `validator_list` and the statuses from V1's `enumerate()`, and starts a validation
epoch. -/
def migrate (r : MasternodeRegistryV2) (env : RegistryEnv) (old : MasternodeRegistryV1) :
    Except Revert MasternodeRegistryV2 := do
  let oldList ← old.enumerate
  let r : MasternodeRegistryV2 :=
    { r with
      v1storage := old.v1storage
      mnAnnounced := old.mnAnnounced
      currentMasternode := old.currentMasternode
      currentPayouts := old.currentPayouts
      mnEverCollateral := old.mnEverCollateral
      mnActiveCollateral := old.mnActiveCollateral
      mnAnnouncedCollateral := old.mnAnnouncedCollateral
      mnActive := old.mnActive
      lastBlockNumber := env.blockNumber }
  (restoreAll env.timestamp old.mnStatus oldList 0 r).processValidationEpoch env

/-- `enumerate` of V2: the same walk over its own storage. -/
def enumerate (r : MasternodeRegistryV2) : Except Revert (List Address) :=
  r.v1storage.enumerate r.mnAnnounced r.currentMasternode

/-! ### The loop -/

section restoreAll

variable {timestamp : Uint} {status : Address → MnStatusV1}

@[simp] theorem restoreAll_nil (n : ℕ) (r : MasternodeRegistryV2) :
    restoreAll timestamp status [] n r = r := rfl

theorem restoreAll_cons (a : Address) (l : List Address) (n : ℕ) (r : MasternodeRegistryV2) :
    restoreAll timestamp status (a :: l) n r =
      (restoreAll timestamp status l (n + 1) r).restoreStatus timestamp (status a) n a := rfl

/-- The loop writes statuses and appends the entries, reversed, to `validator_list`. -/
theorem restoreAll_eq (l : List Address) (n : ℕ) (r : MasternodeRegistryV2) :
    ∃ mnStatus, restoreAll timestamp status l n r =
      { r with mnStatus, validatorList := r.validatorList ++ l.reverse } := by
  induction l generalizing n with
  | nil => exact ⟨r.mnStatus, by simp⟩
  | cons a l ih =>
    obtain ⟨mnStatus, hl⟩ := ih (n + 1)
    refine ⟨Function.update mnStatus a (restoredStatus timestamp (status a) n
      (BitVec.ofNat 256 (r.validatorList ++ l.reverse).length)), ?_⟩
    rw [restoreAll_cons, hl]
    simp only [restoreStatus, List.reverse_cons, List.append_assoc]

/-- The loop changes only the statuses and `validator_list`. -/
theorem toMasternodeRegistry_restoreAll (l : List Address) (n : ℕ) (r : MasternodeRegistryV2) :
    (restoreAll timestamp status l n r).toMasternodeRegistry =
      { r.toMasternodeRegistry with
        mnStatus := (restoreAll timestamp status l n r).mnStatus
        validatorList := r.validatorList ++ l.reverse } := by
  obtain ⟨mnStatus, h⟩ := @restoreAll_eq timestamp status l n r
  rw [h]

theorem validatorList_restoreAll (l : List Address) (n : ℕ) (r : MasternodeRegistryV2) :
    (restoreAll timestamp status l n r).validatorList = r.validatorList ++ l.reverse :=
  congrArg MasternodeRegistry.validatorList (toMasternodeRegistry_restoreAll l n r)

/-- The status of an entry is written by its first occurrence, the last pass that reaches it, at
the position it is appended; the others keep theirs. -/
theorem mnStatus_restoreAll (l : List Address) (n : ℕ) (r : MasternodeRegistryV2) (m : Address) :
    (restoreAll timestamp status l n r).mnStatus m =
      if m ∈ l then
        restoredStatus timestamp (status m) (n + l.idxOf m)
          (BitVec.ofNat 256 (r.validatorList.length + (l.length - 1 - l.idxOf m)))
      else r.mnStatus m := by
  induction l generalizing n with
  | nil => simp
  | cons a l ih =>
    rw [restoreAll_cons]
    simp only [restoreStatus, validatorList_restoreAll, List.length_append, List.length_reverse]
    by_cases hm : m = a
    · subst hm
      simp
    · rw [Function.update_of_ne hm, ih, List.idxOf_cons_ne _ (Ne.symm hm)]
      by_cases hml : m ∈ l
      · simp only [hml, List.mem_cons, hm, false_or, if_true, List.length_cons]
        congr 1
        · omega
        · congr 1
          omega
      · simp [hml, hm]

end restoreAll

/-! ### `_migrate` -/

/-- What `_migrate` from `old`, with `oldList` its enumeration, makes of the V2 storage `r`: V1's
ring, counters and collateral sums, the enumeration reversed after the old `validator_list`, and
the statuses of the loop. -/
structure Migrated (r : MasternodeRegistryV2) (timestamp : Uint) (old : MasternodeRegistryV1)
    (oldList : List Address) (r' : MasternodeRegistryV2) : Prop where
  v1storage : r'.v1storage = old.v1storage
  mnAnnounced : r'.mnAnnounced = old.mnAnnounced
  currentMasternode : r'.currentMasternode = old.currentMasternode
  currentPayouts : r'.currentPayouts = old.currentPayouts
  mnEverCollateral : r'.mnEverCollateral = old.mnEverCollateral
  mnActiveCollateral : r'.mnActiveCollateral = old.mnActiveCollateral
  mnAnnouncedCollateral : r'.mnAnnouncedCollateral = old.mnAnnouncedCollateral
  mnActive : r'.mnActive = old.mnActive
  validatorList : r'.validatorList = r.validatorList ++ oldList.reverse
  mnStatus : ∀ (m : Address), r'.mnStatus m =
    if m ∈ oldList then
      restoredStatus timestamp (old.mnStatus m) (oldList.idxOf m)
        (BitVec.ofNat 256 (r.validatorList.length + (oldList.length - 1 - oldList.idxOf m)))
    else r.mnStatus m

variable {r r' : MasternodeRegistryV2} {env : RegistryEnv} {old : MasternodeRegistryV1}

/-- A successful `_migrate` enumerates the old registry and migrates from it. -/
theorem migrate_ok (h : r.migrate env old = .ok r') :
    ∃ oldList, old.enumerate = .ok oldList ∧ Migrated r env.timestamp old oldList r' := by
  unfold migrate at h
  obtain ⟨oldList, hl, h⟩ := Except.bind_eq_ok_iff.1 h
  refine ⟨oldList, hl, ?_⟩
  -- the validation epoch leaves the registry part as the loop left it
  have hp := processValidationEpoch_ok _ env h
  have hs : ∀ m, r'.mnStatus m = _ := fun m => congrFun (congrArg MasternodeRegistry.mnStatus hp) m
  rw [toMasternodeRegistry_restoreAll] at hp
  refine ⟨congrArg (·.v1storage) hp, congrArg (·.mnAnnounced) hp,
    congrArg (·.currentMasternode) hp, congrArg (·.currentPayouts) hp,
    congrArg (·.mnEverCollateral) hp, congrArg (·.mnActiveCollateral) hp,
    congrArg (·.mnAnnouncedCollateral) hp, congrArg (·.mnActive) hp,
    congrArg (·.validatorList) hp, fun m => ?_⟩
  rw [hs, mnStatus_restoreAll, Nat.zero_add]

namespace Migrated

variable {timestamp : Uint} {oldList : List Address} (h : Migrated r timestamp old oldList r')
include h

/-- Each migrated masternode keeps its V1 payouts. -/
theorem seqPayouts_eq {m : Address} (hm : m ∈ oldList) :
    (r'.mnStatus m).seqPayouts = (old.mnStatus m).seqPayouts := by
  rw [h.mnStatus, if_pos hm]
  rfl

/-- Each migrated masternode records its position in `validator_list`, as long as the positions
fit a word. -/
theorem getElem_validatorIndex {m : Address} (hm : m ∈ oldList)
    (hlen : r.validatorList.length + oldList.length ≤ 2 ^ 256) :
    r'.validatorList[(r'.mnStatus m).validatorIndex.toNat]? = some m := by
  have hidx := List.idxOf_lt_length_of_mem hm
  rw [h.mnStatus, if_pos hm]
  simp only [restoredStatus, BitVec.toNat_ofNat]
  rw [Nat.mod_eq_of_lt (by omega), h.validatorList, List.getElem?_append_right (by omega),
    Nat.add_sub_cancel_left, @List.getElem?_reverse' _ oldList _ (oldList.idxOf m) (by omega),
    List.getElem?_eq_getElem hidx, List.getElem_idxOf]

/-- After a migration into an empty `validator_list`, `enumerateActive` returns the first
`mn_active` of V1 entries of the reversed enumeration. -/
theorem enumerateActive_eq (hr : r.validatorList = []) :
    r'.enumerateActive =
      if oldList.length < old.mnActive.toNat then .error .assert
      else .ok (oldList.reverse.take old.mnActive.toNat) := by
  unfold enumerateActive
  rw [h.validatorList, h.mnActive, hr, List.nil_append, List.length_reverse]

end Migrated

/-- What an upgrade into a fresh `validator_list` makes of it: the old enumeration reversed, with
V1's `mn_active`; every entry keeps its V1 payouts and records its own position, and the list
has no duplicates when the enumeration had no zero entry. -/
theorem migrate_validatorList (hr : r.validatorList = []) (h : r.migrate env old = .ok r') :
    ∃ oldList, old.enumerate = .ok oldList ∧ r'.validatorList = oldList.reverse ∧
      r'.mnActive = old.mnActive ∧
      (∀ m ∈ r'.validatorList, (r'.mnStatus m).seqPayouts = (old.mnStatus m).seqPayouts ∧
        r'.validatorList[(r'.mnStatus m).validatorIndex.toNat]? = some m) ∧
      ((0 : Address) ∉ oldList → r'.validatorList.Nodup) := by
  obtain ⟨oldList, hl, hm⟩ := migrate_ok h
  have hlist : r'.validatorList = oldList.reverse := by
    rw [hm.validatorList, hr, List.nil_append]
  -- the enumeration has `mn_announced` entries, so every position fits a word
  have hlen : r.validatorList.length + oldList.length ≤ 2 ^ 256 := by
    rw [hr, List.length_nil, Nat.zero_add, MnStorage.length_enumerate hl]
    exact (BitVec.isLt _).le
  refine ⟨oldList, hl, hlist, hm.mnActive, fun m hmem => ?_, fun h0 => ?_⟩
  · rw [hlist, List.mem_reverse] at hmem
    exact ⟨hm.seqPayouts_eq hmem, hm.getElem_validatorIndex hmem hlen⟩
  · rw [hlist, List.nodup_reverse]
    exact MnStorage.enumerate_nodup hl h0

/-- Two masternodes announced in V1, the first of which misses its heartbeats: `_reward`
deactivates it, and the upgrade lists it as V2's only active masternode. In V1 the masternode
`0xA` is announced at time 0 and `0xB` at time 7200, each with `MN_COLLATERAL_MIN`; at 7200 the
reward visits `0xA`, whose heartbeat is overdue, deactivates it and passes the turn to `0xB`.
V1's active set is `[0xB]` while both are announced. The migration enumerates `[0xB, 0xA]`, appends
it reversed, and keeps `mn_active = 1`, so V2's `enumerateActive()` returns `[0xA]`, whose
`seq_payouts` is zero. -/
theorem migrate_lists_inactive :
    let a : Address := 0xA#160
    let b : Address := 0xB#160
    let env : Address → Uint → Uint → Uint → RegistryEnv :=
      fun caller blockNumber timestamp msgValue =>
        { caller, blockNumber, timestamp, msgValue
          balanceInfo := fun _ => (mnCollateralMin, 0), blockhash := fun _ => 0, gas := 2
          accepts := fun _ => true, treasuryReward := fun _ => .ok () }
    ∃ v1 r₀ r', MasternodeRegistryV1.new ⟨5, 3, 86400, mnCollateralMin⟩ = .ok v1 ∧
      let old := v1.runCalls
        [(env 0xA11CE#160 10 0 0, .announce a 0x01020304 (0, 0)),
          (env 0xB0B#160 11 7200 0, .announce b 0x01020305 (0, 0)),
          (env 0xC#160 12 7200 rewardMasternodeV1, .reward)]
      (old.v1storage.masternodes a).owner = 0xA11CE#160 ∧ (old.mnStatus a).seqPayouts = 0 ∧
        old.enumerate = .ok [b, a] ∧ old.enumerateActive = .ok [b] ∧
        new ⟨5, 3, 86400, mnCollateralV2Min, 1⟩ (env 0xC#160 13 7300 0) = .ok r₀ ∧
        r₀.migrate (env 0xC#160 13 7300 0) old = .ok r' ∧
        r'.validatorList = [a, b] ∧ r'.mnActive = 1 ∧ (r'.mnStatus a).seqPayouts = 0 ∧
        r'.enumerateActive = .ok [a] :=
  ⟨_, _, _, rfl, rfl, rfl, rfl, rfl, rfl, rfl, rfl, rfl, rfl, rfl⟩

end MasternodeRegistryV2

end RangeCore.Governance
