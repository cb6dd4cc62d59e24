import RangeCore.Governance.Basic

/-!
# The masternode registry

`MasternodeRegistryV2` of `range/contracts/src/MasternodeRegistryV2.sol` over its storage contract
`StorageMasternodeRegistryV1`: announced masternodes form a circular doubly linked list through
the `prev` and `next` fields of their `Info`, `current_masternode` points into it, and
`owner_masternodes` maps each owner to its masternode. The zero address stands for "none" in
`current_masternode` and `owner_masternodes`, and an `Info` with a zero owner is a free slot.

This module has the announcement side: `announce` (clearing the owner's old masternode, checking
that the slot is free and the address public, inserting before the current masternode) and
`denounce` (unlinking, deactivating, deleting). The collateral of an owner is read from the
masternode token, a separate contract, through `CallEnv`-like input `balanceInfo`.

## Main definitions

* `RangeCore.Governance.MnInfo`, `RangeCore.Governance.MnStorage` and its three setters.
* `RangeCore.Governance.MnStatus`, `RangeCore.Governance.MasternodeRegistry`,
  `RangeCore.Governance.MasternodeRegistry.init`.
* `RangeCore.Governance.MasternodeRegistry.announce`, `denounce` and their internal steps.

## Main results

* `RangeCore.Governance.MasternodeRegistry.announce_zero_masternode`: the zero address can be
  announced, after which the same owner builds a second ring.
-/

namespace RangeCore.Governance

/-- `MN_COLLATERAL_V2_MIN = 1000 ether`. -/
def mnCollateralV2Min : Uint := BitVec.ofNat 256 (1000 * 10 ^ 18)

/-- `StorageMasternodeRegistryV1.Info`. -/
structure MnInfo where
  announcedBlock : Uint
  collateral : Uint
  enode0 : Hash
  enode1 : Hash
  owner : Address
  prev : Address
  next : Address
  ipv4address : UInt32
  deriving DecidableEq, Repr

/-- The zero `Info` of an unwritten or deleted slot. -/
def MnInfo.zero : MnInfo := ⟨0, 0, 0, 0, 0, 0, 0, 0⟩

/-- `StorageMasternodeRegistryV1`. -/
structure MnStorage where
  masternodes : Address → MnInfo
  ownerMasternodes : Address → Address

namespace MnStorage

/-- The empty storage. -/
def empty : MnStorage := ⟨fun _ => MnInfo.zero, fun _ => 0⟩

/-- `setMasternode`: the whole `Info` is written, and an owner change is allowed only into a free
slot (the `assert`), which then records the masternode under its owner. -/
def setMasternode (st : MnStorage) (masternode owner : Address) (ipv4address : UInt32)
    (enode : Hash × Hash) (collateral announcedBlock : Uint) (prev next : Address) :
    Except Revert MnStorage := do
  let oldOwner := (st.masternodes masternode).owner
  let ownerMasternodes ←
    if oldOwner ≠ owner then
      if oldOwner = 0 then pure (Function.update st.ownerMasternodes owner masternode)
      else throw .assert
    else pure st.ownerMasternodes
  pure
    { masternodes := Function.update st.masternodes masternode
        ⟨announcedBlock, collateral, enode.1, enode.2, owner, prev, next, ipv4address⟩
      ownerMasternodes }

/-- `setMasternodePos`: `prev` and `next` of a slot, each written only when its flag is set. -/
def setMasternodePos (st : MnStorage) (masternode : Address) (setPrev : Bool) (prev : Address)
    (setNext : Bool) (next : Address) : MnStorage :=
  let item := st.masternodes masternode
  let item := if setPrev then { item with prev } else item
  let item := if setNext then { item with next } else item
  { st with masternodes := Function.update st.masternodes masternode item }

/-- `deleteMasternode`: the owner's entry and the slot are cleared. -/
def deleteMasternode (st : MnStorage) (masternode : Address) : MnStorage where
  masternodes := Function.update st.masternodes masternode MnInfo.zero
  ownerMasternodes := Function.update st.ownerMasternodes (st.masternodes masternode).owner 0

end MnStorage

/-- `MasternodeRegistryV2.Status`. -/
structure MnStatus where
  swFeatures : Uint
  nextHeartbeat : Uint
  inactiveSince : Uint
  validatorIndex : Uint
  invalidations : Uint
  seqPayouts : Uint
  lastVoteEpoch : Uint
  deriving DecidableEq, Repr

/-- The zero `Status`. -/
def MnStatus.zero : MnStatus := ⟨0, 0, 0, 0, 0, 0, 0⟩

/-- The storage of `MasternodeRegistryV2` that announcement and denouncement read and write. -/
structure MasternodeRegistry where
  v1storage : MnStorage
  mnAnnounced : Uint
  currentMasternode : Address
  currentPayouts : Uint
  mnEverCollateral : Uint
  mnActiveCollateral : Uint
  mnAnnouncedCollateral : Uint
  mnActive : Uint
  mnStatus : Address → MnStatus
  validatorList : List Address

namespace MasternodeRegistry

/-- The registry after its constructor: empty storage, no masternode, and `mn_ever_collateral`
set to the configured initial value. -/
def init (initialEverCollateral : Uint) : MasternodeRegistry where
  v1storage := MnStorage.empty
  mnAnnounced := 0
  currentMasternode := 0
  currentPayouts := 0
  mnEverCollateral := initialEverCollateral
  mnActiveCollateral := 0
  mnAnnouncedCollateral := 0
  mnActive := 0
  mnStatus _ := MnStatus.zero
  validatorList := []

/-- `_deactive_common`: the masternode leaves `validator_list` (the last validator takes its
index) and the active counters. -/
def deactiveCommon (r : MasternodeRegistry) (masternode : Address) (collateral : Uint) :
    Except Revert MasternodeRegistry := do
  let some lastValidator := r.validatorList.getLast? | throw .assert
  let validatorIndex := (r.mnStatus masternode).validatorIndex
  let mnStatus := Function.update r.mnStatus lastValidator
    { r.mnStatus lastValidator with validatorIndex }
  if r.validatorList.length ≤ validatorIndex.toNat then throw .assert
  pure
    { r with
      mnStatus
      validatorList := (r.validatorList.set validatorIndex.toNat lastValidator).dropLast
      mnActive := r.mnActive - 1
      mnActiveCollateral := r.mnActiveCollateral - collateral }

/-- `_denounce`: nothing for a free slot; otherwise the owner must match, the masternode is
unlinked (the ring becomes empty when it was its own successor), deactivated if it still had
payouts, and deleted. -/
def denounceInternal (r : MasternodeRegistry) (masternode owner : Address) :
    Except Revert MasternodeRegistry := do
  let mninfo := r.v1storage.masternodes masternode
  if mninfo.owner = 0 then return r
  require (owner = mninfo.owner) "Invalid owner"
  let r : MasternodeRegistry :=
    if mninfo.next = masternode then { r with currentMasternode := 0 }
    else
      let r :=
        if r.currentMasternode = masternode then
          { r with currentMasternode := mninfo.next, currentPayouts := 0 }
        else r
      let st := r.v1storage.setMasternodePos mninfo.prev false 0 true mninfo.next
      { r with v1storage := st.setMasternodePos mninfo.next true mninfo.prev false 0 }
  let r : MasternodeRegistry :=
    { r with mnAnnouncedCollateral := r.mnAnnouncedCollateral - mninfo.collateral }
  let r : MasternodeRegistry ←
    if (r.mnStatus masternode).seqPayouts > 0 then r.deactiveCommon masternode mninfo.collateral
    else pure r
  pure
    { r with
      mnStatus := Function.update r.mnStatus masternode MnStatus.zero
      v1storage := r.v1storage.deleteMasternode masternode
      mnAnnounced := r.mnAnnounced - 1 }

/-- `denounce`, by the caller as owner. -/
def denounce (r : MasternodeRegistry) (env : CallEnv) (masternode : Address) :
    Except Revert MasternodeRegistry :=
  r.denounceInternal masternode env.caller

/-- `_announce_check_ipv4`: the address must be public. -/
def announceCheckIpv4 (ipv4address : UInt32) : Except Revert Unit :=
  let a := ipv4address &&& 0xFF000000
  let b := ipv4address &&& 0x00FF0000
  let c := ipv4address &&& 0x0000FF00
  require
    (a ≠ (127 : UInt32) <<< 24 ∧
      a ≠ (10 : UInt32) <<< 24 ∧
      ¬(a = (192 : UInt32) <<< 24 ∧ b = (168 : UInt32) <<< 16) ∧
      ¬(a = (172 : UInt32) <<< 24 ∧ b &&& (0x00F00000 : UInt32) = (16 : UInt32) <<< 16) ∧
      a ≠ 0 ∧
      ¬(a = (100 : UInt32) <<< 24 ∧ b &&& (0x00C00000 : UInt32) = (64 : UInt32) <<< 16) ∧
      ¬(a = (169 : UInt32) <<< 24 ∧ b = (254 : UInt32) <<< 16) ∧
      ¬(a = (198 : UInt32) <<< 24 ∧ b &&& (0x00FE0000 : UInt32) = (18 : UInt32) <<< 16) ∧
      ¬(a = (198 : UInt32) <<< 24 ∧ b = (51 : UInt32) <<< 16 ∧ c = (100 : UInt32) <<< 8) ∧
      ¬(a = (203 : UInt32) <<< 24 ∧ b = (0 : UInt32) <<< 16 ∧ c = (113 : UInt32) <<< 8) ∧
      a &&& (0xF0000000 : UInt32) ≠ (224 : UInt32) <<< 24 ∧
      a &&& (0xF0000000 : UInt32) ≠ (240 : UInt32) <<< 24 ∧
      ipv4address ≠ 0xFFFFFFFF)
    "Wrong IP"

/-- `_announce_insert`: the masternode goes before the current one, or becomes the current one
and its own neighbour when there is none. It returns the new registry, `next` and `prev`. -/
def announceInsert (r : MasternodeRegistry) (masternode : Address) :
    MasternodeRegistry × Address × Address :=
  let next := r.currentMasternode
  if next ≠ 0 then
    let nextinfo := r.v1storage.masternodes next
    let st := r.v1storage.setMasternodePos nextinfo.prev false 0 true masternode
    ({ r with v1storage := st.setMasternodePos next true masternode false 0 }, next, nextinfo.prev)
  else
    ({ r with currentMasternode := masternode, currentPayouts := 0 }, masternode, masternode)

/-- `_announce`: the owner's old masternode is denounced, the slot must be free and the address
public; the masternode is inserted, stored with its collateral, made active with a heartbeat due
now and one sequential payout per minimum collateral, and appended to `validator_list`. -/
def announceInternal (r : MasternodeRegistry) (env : CallEnv) (masternode owner : Address)
    (balance : Uint) (ipv4address : UInt32) (enode : Hash × Hash) :
    Except Revert MasternodeRegistry := do
  let old := r.v1storage.ownerMasternodes owner
  let r ← if old ≠ 0 then r.denounceInternal old owner else pure r
  require ((r.v1storage.masternodes masternode).owner = 0) "Invalid owner"
  announceCheckIpv4 ipv4address
  let (r, next, prev) := r.announceInsert masternode
  let st ← r.v1storage.setMasternode masternode owner ipv4address enode balance env.blockNumber
    prev next
  let status :=
    { r.mnStatus masternode with
      nextHeartbeat := env.timestamp
      seqPayouts := balance / mnCollateralV2Min
      validatorIndex := BitVec.ofNat 256 r.validatorList.length }
  let announced := r.mnAnnouncedCollateral + balance
  pure
    { r with
      v1storage := st
      mnStatus := Function.update r.mnStatus masternode status
      mnActive := r.mnActive + 1
      mnAnnounced := r.mnAnnounced + 1
      mnActiveCollateral := r.mnActiveCollateral + balance
      mnAnnouncedCollateral := announced
      mnEverCollateral := if announced > r.mnEverCollateral then announced else r.mnEverCollateral
      validatorList := r.validatorList ++ [masternode] }

/-- `announce`, by the caller as owner, with the collateral `balanceInfo` reports for it from the
masternode token (`_announce_checkbalance`). -/
def announce (r : MasternodeRegistry) (env : CallEnv) (balanceInfo : Address → Uint × Uint)
    (masternode : Address) (ipv4address : UInt32) (enode : Hash × Hash) :
    Except Revert MasternodeRegistry := do
  let owner := env.caller
  let balance := (balanceInfo owner).1
  require (balance ≥ mnCollateralV2Min) "Invalid collateral"
  r.announceInternal env masternode owner balance ipv4address enode

/-- The zero address is announced. From the constructor state, an owner with the minimum
collateral announces the masternode `0`: no check rejects it, it becomes the current masternode,
which the registry reads as "no masternode", and its owner's entry points to `0`, read as "none".
A second announcement by the same owner therefore neither denounces it nor finds a ring to join:
the new masternode forms a ring of its own while `0` stays announced, two masternodes of one
owner, counted in `mn_announced`. -/
theorem announce_zero_masternode :
    ∃ r₁ r₂,
      (init mnCollateralV2Min).announce ⟨0xA11CE#160, 100, 1000⟩ (fun _ => (mnCollateralV2Min, 0))
          0 0x01020304 (0, 0) = .ok r₁ ∧
        (r₁.v1storage.masternodes 0).owner = 0xA11CE#160 ∧ r₁.currentMasternode = 0 ∧
        r₁.v1storage.ownerMasternodes 0xA11CE#160 = 0 ∧ r₁.mnAnnounced = 1 ∧
      r₁.announce ⟨0xA11CE#160, 101, 1015⟩ (fun _ => (mnCollateralV2Min, 0)) 0xBEEF#160
          0x01020304 (0, 0) = .ok r₂ ∧
        (r₂.v1storage.masternodes 0).owner = 0xA11CE#160 ∧
        (r₂.v1storage.masternodes 0xBEEF#160).owner = 0xA11CE#160 ∧
        (r₂.v1storage.masternodes 0xBEEF#160).next = 0xBEEF#160 ∧
        (r₂.v1storage.masternodes 0xBEEF#160).prev = 0xBEEF#160 ∧
        r₂.currentMasternode = 0xBEEF#160 ∧ r₂.mnAnnounced = 2 :=
  ⟨_, _, rfl, rfl, rfl, rfl, rfl, rfl, rfl, rfl, rfl, rfl, rfl, rfl⟩

end MasternodeRegistry

end RangeCore.Governance
