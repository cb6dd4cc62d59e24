import RangeCore.Governance.MasternodeToken
import RangeCore.Governance.Proposal
import RangeCore.Lib.IndexedList
import RangeCore.Lib.Run
import RangeCore.Lib.ExceptBind

/-!
# The blacklist registry

`BlacklistRegistryV1` of `range/contracts/src/BlacklistRegistryV1.sol`. For each address the
storage `StorageBlacklistRegistryV1` keeps up to three proposals (`BlacklistProposalV1`, a generic
proposal with quorum 10 over one week): `enforce` to blacklist it, `revoke` to lift that, and
`drain` to confiscate its coins; the addresses with an enforce proposal are kept in
`address_list` with their positions, removed by swap-and-pop. An address is blacklisted when its
enforce proposal is obeyed and no revoke proposal was accepted.

The calls clean up finished proposals before they open a new one, through cascades of cases on
the three proposals. Two of the cases fall through to the creation of the new proposal: `propose`
with a revoke proposal whose vote is still open, and `proposeRevoke` with a revoke proposal that
was accepted. Each storage operation keeps the storage consistent (`BlacklistStorage.Inv`); the
runs of the registry are in `RangeCore.Governance.BlacklistRuns`.

The proposals are kept in the registry's state by address, numbered in creation order from 1; a
destroyed proposal has no code, and a call to it reverts. `drainMigration` calls the migration
contract's `blacklistClaim`, whose outcome is a parameter of the call here.

## Main definitions

* `RangeCore.Governance.BlacklistStorage`: `setEnforce`, `setRevoke`, `setDrain`, `remove`.
* `RangeCore.Governance.GenericProposal.isObeyed`.
* `RangeCore.Governance.BlacklistRegistry`: `propose`, `proposeRevoke`, `proposeDrain`,
  `collect`, `drainMigration`, `onDrain`, `isBlacklisted`, `isDrainable`, and the calls of a run.

## Main results

* `RangeCore.Governance.BlacklistStorage.Inv.setEnforce`, `Inv.setRevoke`, `Inv.setDrain`,
  `Inv.remove`: the storage operations keep the storage consistent.
-/

namespace RangeCore.Governance

/-- `FEE_BLACKLIST_V1`: 1000 ether. -/
def feeBlacklistV1 : Uint := BitVec.ofNat 256 (1000 * 10 ^ 18)

/-- `FEE_BLACKLIST_REVOKE_V1`: 100 ether. -/
def feeBlacklistRevokeV1 : Uint := BitVec.ofNat 256 (100 * 10 ^ 18)

/-- `FEE_BLACKLIST_DRAIN_V1`: 100 ether. -/
def feeBlacklistDrainV1 : Uint := BitVec.ofNat 256 (100 * 10 ^ 18)

/-- `BlacklistProposalV1.isObeyed`: accepted, or approved by more than twice the rejections and
more than `MN_COLLATERAL_MAX`, which may hold before the vote ends. -/
def GenericProposal.isObeyed (p : GenericProposal) (timestamp : Uint) : Bool :=
  if p.isAccepted timestamp then true
  else
    let accepted := p.acceptedWeight
    let rejected := p.rejectedWeight
    accepted > rejected * 2 && accepted > mnCollateralMax

/-- `StorageBlacklistRegistryV1.Info`: the proposals of an address, by address (0 for none), and
its position in `address_list`. -/
structure BlacklistInfo where
  enforce : ℕ
  revoke : ℕ
  drain : ℕ
  index : ℕ
  deriving DecidableEq

/-- The zero value of `Info`, what `delete` leaves. -/
def BlacklistInfo.zero : BlacklistInfo := ⟨0, 0, 0, 0⟩

/-- `StorageBlacklistRegistryV1`. -/
structure BlacklistStorage where
  addressInfo : Address → BlacklistInfo
  addressList : List Address

namespace BlacklistStorage

variable (s : BlacklistStorage)

/-- `setEnforce`: only for an address without an enforce proposal, which is appended to
`address_list`. -/
def setEnforce (addr : Address) (proposal : ℕ) : Except Revert BlacklistStorage := do
  let item := s.addressInfo addr
  if item.enforce ≠ 0 then throw .assert
  pure
    { addressInfo :=
        Function.update s.addressInfo addr
          { item with enforce := proposal, index := s.addressList.length }
      addressList := s.addressList ++ [addr] }

/-- `setRevoke`. -/
def setRevoke (addr : Address) (proposal : ℕ) : Except Revert BlacklistStorage := do
  let item := s.addressInfo addr
  if item.enforce = 0 then throw .assert
  pure { s with addressInfo := Function.update s.addressInfo addr { item with revoke := proposal } }

/-- `setDrain`. -/
def setDrain (addr : Address) (proposal : ℕ) : Except Revert BlacklistStorage := do
  let item := s.addressInfo addr
  if item.enforce = 0 then throw .assert
  pure { s with addressInfo := Function.update s.addressInfo addr { item with drain := proposal } }

/-- `remove`: the last address moves into the removed one's position, the array is popped, and
the removed address's entry is deleted. Reading past the end of the array fails as an
assertion does. -/
def remove (addr : Address) : Except Revert BlacklistStorage := do
  let item := s.addressInfo addr
  if item.enforce = 0 then throw .assert
  match s.addressList.getLast? with
  | none => throw .assert
  | some last =>
    let addressInfo :=
      Function.update s.addressInfo last { s.addressInfo last with index := item.index }
    if ¬item.index < s.addressList.length then throw .assert
    pure
      { addressInfo := Function.update addressInfo addr .zero
        addressList := (s.addressList.set item.index last).dropLast }

variable {s s' : BlacklistStorage} {addr : Address} {proposal : ℕ}

theorem setEnforce_ok (h : s.setEnforce addr proposal = .ok s') :
    (s.addressInfo addr).enforce = 0 ∧
      s' = { addressInfo := Function.update s.addressInfo addr
                { s.addressInfo addr with enforce := proposal, index := s.addressList.length }
             addressList := s.addressList ++ [addr] } := by
  unfold setEnforce at h
  obtain ⟨h0, h⟩ := Except.ite_throw_bind_eq_ok_iff.1 h
  cases h
  exact ⟨not_not.1 h0, rfl⟩

theorem setRevoke_ok (h : s.setRevoke addr proposal = .ok s') :
    (s.addressInfo addr).enforce ≠ 0 ∧
      s' = { s with
        addressInfo := Function.update s.addressInfo addr { s.addressInfo addr with revoke := proposal } } := by
  unfold setRevoke at h
  obtain ⟨h0, h⟩ := Except.ite_throw_bind_eq_ok_iff.1 h
  cases h
  exact ⟨h0, rfl⟩

theorem setDrain_ok (h : s.setDrain addr proposal = .ok s') :
    (s.addressInfo addr).enforce ≠ 0 ∧
      s' = { s with
        addressInfo := Function.update s.addressInfo addr { s.addressInfo addr with drain := proposal } } := by
  unfold setDrain at h
  obtain ⟨h0, h⟩ := Except.ite_throw_bind_eq_ok_iff.1 h
  cases h
  exact ⟨h0, rfl⟩

/-- A successful `remove`: the address had an enforce proposal, and the array its last element
`last`, which moves into the address's position. -/
theorem remove_ok (h : s.remove addr = .ok s') :
    (s.addressInfo addr).enforce ≠ 0 ∧ ∃ last, s.addressList.getLast? = some last ∧
      s' = { addressInfo := Function.update (Function.update s.addressInfo last
                { s.addressInfo last with index := (s.addressInfo addr).index }) addr .zero
             addressList := (s.addressList.set (s.addressInfo addr).index last).dropLast } := by
  unfold remove at h
  obtain ⟨h0, h⟩ := Except.ite_throw_bind_eq_ok_iff.1 h
  split at h
  · exact nomatch h
  · rename_i last hlast
    obtain ⟨-, h⟩ := Except.ite_throw_bind_eq_ok_iff.1 h
    cases h
    exact ⟨h0, last, hlast, rfl⟩

/-! ### Consistency of the storage -/

/-- The storage is consistent: `address_list` has no duplicates, each address's `index` is its
position there, and its addresses are those with an enforce proposal. -/
structure Inv (s : BlacklistStorage) : Prop where
  valid : IndexedList.Valid s.addressList fun a => (s.addressInfo a).index
  mem_iff : ∀ a, a ∈ s.addressList ↔ (s.addressInfo a).enforce ≠ 0

theorem inv_zero : (BlacklistStorage.mk (fun _ => .zero) []).Inv :=
  ⟨IndexedList.valid_nil _, fun _ => by simp [BlacklistInfo.zero]⟩

/-- Storage whose array, enforce proposals and positions are unchanged stays consistent. -/
theorem Inv.of_info (h : s.Inv) (hlist : s'.addressList = s.addressList)
    (henforce : ∀ a, (s'.addressInfo a).enforce = (s.addressInfo a).enforce)
    (hindex : ∀ a, (s'.addressInfo a).index = (s.addressInfo a).index) : s'.Inv := by
  refine ⟨?_, fun a => ?_⟩
  · rw [hlist]
    exact h.valid.congr fun a _ => hindex a
  · rw [hlist, henforce]
    exact h.mem_iff a

theorem Inv.setEnforce (h : s.Inv) (hd : s.setEnforce addr proposal = .ok s')
    (hp : proposal ≠ 0) : s'.Inv := by
  obtain ⟨h0, rfl⟩ := setEnforce_ok hd
  have hnot : addr ∉ s.addressList := fun hm => (h.mem_iff addr).1 hm h0
  refine ⟨(h.valid.push hnot).congr fun b _ => ?_, fun b => ?_⟩ <;>
    by_cases hb : b = addr
  · simp [hb]
  · simp [hb]
  · simp [hb, hp]
  · simp [hb, h.mem_iff b]

theorem Inv.setRevoke (h : s.Inv) (hd : s.setRevoke addr proposal = .ok s') : s'.Inv := by
  obtain ⟨-, rfl⟩ := setRevoke_ok hd
  refine h.of_info rfl (fun a => ?_) (fun a => ?_) <;>
    by_cases ha : a = addr <;> simp [ha]

theorem Inv.setDrain (h : s.Inv) (hd : s.setDrain addr proposal = .ok s') : s'.Inv := by
  obtain ⟨-, rfl⟩ := setDrain_ok hd
  refine h.of_info rfl (fun a => ?_) (fun a => ?_) <;>
    by_cases ha : a = addr <;> simp [ha]

/-- `remove` is the swap-and-pop removal of `IndexedList`. -/
theorem Inv.remove (h : s.Inv) (hd : s.remove addr = .ok s') : s'.Inv := by
  obtain ⟨h0, last, hlast, rfl⟩ := remove_ok hd
  have hmem : addr ∈ s.addressList := (h.mem_iff addr).2 h0
  -- the position map after the removal, at the addresses left, is the one `swapPop` keeps
  have hindex : ∀ b, b ≠ addr → ((Function.update (Function.update s.addressInfo last
      { s.addressInfo last with index := (s.addressInfo addr).index }) addr .zero) b).index =
      Function.update (fun a => (s.addressInfo a).index) last (s.addressInfo addr).index b := by
    intro b hb
    by_cases hbl : b = last
    · subst hbl
      simp [hb]
    · simp [hb, hbl]
  refine ⟨(h.valid.swapPop hmem hlast).1.congr fun b hb => hindex b ?_, fun b => ?_⟩
  · exact ((IndexedList.mem_swapPop h.valid hmem hlast).1 hb).2
  · rw [IndexedList.mem_swapPop h.valid hmem hlast]
    by_cases hb : b = addr
    · simp [hb, BlacklistInfo.zero]
    · by_cases hbl : b = last
      · subst hbl
        simp [hb, h.mem_iff b]
      · simp [hb, hbl, h.mem_iff b]

end BlacklistStorage

/-- `BlacklistRegistryV1` with its proposals. -/
structure BlacklistRegistry where
  /-- The registry's own address, the parent of its proposals. -/
  address : Address
  /-- `proxy`: the origin of the consensus's transactions. -/
  proxy : Address
  /-- `EBI_signer`, who proposes without a fee. -/
  ebiSigner : Address
  v1storage : BlacklistStorage
  /-- The proposals by address; `none` where there is no code. -/
  proposals : ℕ → Option GenericProposal
  /-- The address of the next proposal `new` creates. -/
  nextProposal : ℕ

namespace BlacklistRegistry

/-- The constructor, with empty storage. -/
def new (address proxy ebiSigner : Address) : BlacklistRegistry :=
  { address, proxy, ebiSigner
    v1storage := { addressInfo := fun _ => .zero, addressList := [] }
    proposals := fun _ => none
    nextProposal := 1 }

variable (r : BlacklistRegistry)

/-- The proposal at an address, for a call to it: a call to an address without code reverts. -/
def proposal (id : ℕ) : Except Revert GenericProposal :=
  match r.proposals id with
  | none => .error (.require "")
  | some p => .ok p

/-- `_requireFee`: `EBI_signer` pays nothing. -/
def requireFee (env : CallEnv) (value fee : Uint) : Except Revert Unit :=
  let fee := if env.caller = r.ebiSigner then 0 else fee
  require (value = fee) "Invalid fee"

/-- `_createProposal`: a `BlacklistProposalV1` created by the registry through the proposal
creator, with the caller as fee payer and the call's value as fee. -/
def createProposal (registry : MasternodeRegistryV2) (env : CallEnv) (value : Uint) :
    Except Revert (ℕ × BlacklistRegistry) := do
  let p ← GenericProposal.new registry { env with caller := r.address } 10 604800 env.caller
  let p ← p.setFee r.address value
  let id := r.nextProposal
  pure (id, { r with proposals := Function.update r.proposals id (some p), nextProposal := id + 1 })

/-- `proposal.destroy()`. -/
def destroyProposal (id : ℕ) : Except Revert BlacklistRegistry := do
  let p ← r.proposal id
  p.destroy r.address
  pure { r with proposals := Function.update r.proposals id none }

/-- `proposal.collect()`: the fee goes to the treasury. -/
def collectProposal (id : ℕ) (timestamp : Uint) : Except Revert BlacklistRegistry := do
  let p ← r.proposal id
  let (p, _) ← p.collect r.address timestamp
  pure { r with proposals := Function.update r.proposals id (some p) }

/-- `proposal.destroy()` where the address is not zero. -/
def destroyIfAny (id : ℕ) : Except Revert BlacklistRegistry :=
  if id ≠ 0 then r.destroyProposal id else .ok r

/-- A storage call. -/
def onStorage (f : BlacklistStorage → Except Revert BlacklistStorage) :
    Except Revert BlacklistRegistry := do
  let v1storage ← f r.v1storage
  pure { r with v1storage }

/-- `isBlacklisted`: not when a revoke proposal was accepted, else when the enforce proposal is
obeyed. -/
def isBlacklisted (timestamp : Uint) (addr : Address) : Except Revert Bool := do
  let info := r.v1storage.addressInfo addr
  let revoked ← if info.revoke ≠ 0 then (·.isAccepted timestamp) <$> r.proposal info.revoke
    else pure false
  if revoked then pure false
  else if info.enforce ≠ 0 then (·.isObeyed timestamp) <$> r.proposal info.enforce
  else pure false

/-- `isDrainable`: the enforce and the drain proposal are accepted, and no revoke proposal is. -/
def isDrainable (timestamp : Uint) (addr : Address) : Except Revert Bool := do
  let info := r.v1storage.addressInfo addr
  if info.enforce = 0 then pure false
  else
    let enforce ← r.proposal info.enforce
    if !enforce.isAccepted timestamp then pure false
    else
      let revoked ← if info.revoke ≠ 0 then (·.isAccepted timestamp) <$> r.proposal info.revoke
        else pure false
      if revoked then pure false
      else if info.drain = 0 then pure false
      else (·.isAccepted timestamp) <$> r.proposal info.drain

/-- The cleanup of `propose` for an address with an enforce proposal. An accepted revoke
proposal clears the entry and a rejected enforce proposal is collected; a revoke proposal whose
vote is still open falls through. -/
def proposeCleanup (timestamp : Uint) (addr : Address) (info : BlacklistInfo) :
    Except Revert BlacklistRegistry := do
  if info.revoke ≠ 0 then
    let revoke ← r.proposal info.revoke
    if revoke.isAccepted timestamp then
      let r ← r.destroyProposal info.enforce
      let r ← r.destroyProposal info.revoke
      let r ← r.destroyIfAny info.drain
      r.onStorage (·.remove addr)
    else if revoke.isFinished timestamp then throw (.require "Already active (1)")
    else pure r
  else
    let enforce ← r.proposal info.enforce
    if enforce.isFinished timestamp && !enforce.isAccepted timestamp then
      let r ← r.collectProposal info.enforce timestamp
      let r ← r.destroyIfAny info.drain
      r.onStorage (·.remove addr)
    else throw (.require "Already active (2)")

/-- `propose`. -/
def propose (registry : MasternodeRegistryV2) (env : CallEnv) (value : Uint) (addr : Address) :
    Except Revert BlacklistRegistry := do
  r.requireFee env value feeBlacklistV1
  let info := r.v1storage.addressInfo addr
  let r ← if info.enforce ≠ 0 then r.proposeCleanup env.timestamp addr info else pure r
  let (proposal, r) ← r.createProposal registry env value
  r.onStorage (·.setEnforce addr proposal)

/-- The cleanup of `proposeRevoke`. A finished revoke proposal that was not accepted is
collected; one that was accepted falls through. -/
def proposeRevokeCleanup (timestamp : Uint) (info : BlacklistInfo) :
    Except Revert BlacklistRegistry := do
  if info.revoke ≠ 0 then
    let revoke ← r.proposal info.revoke
    if !revoke.isFinished timestamp then throw (.require "Already active")
    else if !revoke.isAccepted timestamp then r.collectProposal info.revoke timestamp
    else pure r
  else
    let enforce ← r.proposal info.enforce
    if !enforce.isFinished timestamp then throw (.require "Not applicable")
    else if !enforce.isAccepted timestamp then throw (.require "No need (2)")
    else pure r

/-- `proposeRevoke`. -/
def proposeRevoke (registry : MasternodeRegistryV2) (env : CallEnv) (value : Uint)
    (addr : Address) : Except Revert BlacklistRegistry := do
  r.requireFee env value feeBlacklistRevokeV1
  let info := r.v1storage.addressInfo addr
  require (info.enforce ≠ 0) "No need (1)"
  let r ← r.proposeRevokeCleanup env.timestamp info
  let (proposal, r) ← r.createProposal registry env value
  r.onStorage (·.setRevoke addr proposal)

/-- `proposeDrain`. -/
def proposeDrain (registry : MasternodeRegistryV2) (env : CallEnv) (value : Uint)
    (addr : Address) : Except Revert BlacklistRegistry := do
  r.requireFee env value feeBlacklistDrainV1
  let blacklisted ← r.isBlacklisted env.timestamp addr
  require (blacklisted = true) "Not blacklisted"
  let info := r.v1storage.addressInfo addr
  let r ← if info.drain ≠ 0 then do
      let drain ← r.proposal info.drain
      if drain.isAccepted env.timestamp then throw (.require "Not need")
      else if drain.isFinished env.timestamp then r.collectProposal info.drain env.timestamp
      else throw (.require "Voting in progress")
    else pure r
  let (proposal, r) ← r.createProposal registry env value
  r.onStorage (·.setDrain addr proposal)

/-- The revoke branch of `collect`, once the enforce proposal is accepted and there is no drain
proposal: an accepted revoke clears the entry, a rejected one is collected. -/
def collectRevoke (timestamp : Uint) (addr : Address) (info : BlacklistInfo) :
    Except Revert BlacklistRegistry := do
  let revoke ← r.proposal info.revoke
  require (revoke.isFinished timestamp = true) "Revoke voting in progress"
  if revoke.isAccepted timestamp then
    let r ← r.destroyProposal info.enforce
    let r ← r.destroyProposal info.revoke
    if info.drain ≠ 0 then throw .assert
    r.onStorage (·.remove addr)
  else
    let r ← r.collectProposal info.revoke timestamp
    r.onStorage (·.setRevoke addr 0)

/-- `collect`. -/
def collect (timestamp : Uint) (addr : Address) : Except Revert BlacklistRegistry := do
  let info := r.v1storage.addressInfo addr
  require (info.enforce ≠ 0) "Nothing to collect"
  let enforce ← r.proposal info.enforce
  require (enforce.isFinished timestamp = true) "Enforce voting in progress"
  if !enforce.isAccepted timestamp then
    let r ← r.collectProposal info.enforce timestamp
    r.onStorage (·.remove addr)
  else if info.drain ≠ 0 then
    let drain ← r.proposal info.drain
    require (drain.isFinished timestamp = true) "Drain voting in progress"
    if drain.isAccepted timestamp then throw (.require "Account must be drained")
    let r ← r.collectProposal info.drain timestamp
    r.onStorage (·.setDrain addr 0)
  else if info.revoke ≠ 0 then r.collectRevoke timestamp addr info
  else throw (.require "No proposals ready to collect")

/-- `_onDrain`: every proposal of the address is destroyed and its entry removed. -/
def onDrainInternal (addr : Address) : Except Revert BlacklistRegistry := do
  let info := r.v1storage.addressInfo addr
  if info.enforce ≠ 0 then
    let r ← r.destroyProposal info.enforce
    let r ← r.destroyIfAny info.revoke
    let r ← r.destroyIfAny info.drain
    r.onStorage (·.remove addr)
  else pure r

/-- `onDrain`: only from the consensus. -/
def onDrain (origin : Address) (addr : Address) : Except Revert BlacklistRegistry := do
  require (origin = r.proxy) "Not consensus"
  r.onDrainInternal addr

/-- `drainMigration`, with the outcome of the migration's `blacklistClaim` of the item. -/
def drainMigration (timestamp : Uint) (owner : Address) (blacklistClaim : Except Revert Unit) :
    Except Revert BlacklistRegistry := do
  let drainable ← r.isDrainable timestamp owner
  require (drainable = true) "Not drainable"
  blacklistClaim
  r.onDrainInternal owner

/-- A call to the proposal at an address by anyone. A call to an address without code does
nothing. -/
def onProposal (id : ℕ) (f : GenericProposal → Except Revert GenericProposal) :
    Except Revert BlacklistRegistry :=
  match r.proposals id with
  | none => .ok r
  | some p => do
    let p ← f p
    pure { r with proposals := Function.update r.proposals id (some p) }

end BlacklistRegistry

/-- The calls of a run: those of the registry, with the masternode registry its proposals read
and the value they bring, and the votes on its proposals. -/
inductive BlacklistCall where
  | propose (addr : Address) (registry : MasternodeRegistryV2) (value : Uint)
  | proposeRevoke (addr : Address) (registry : MasternodeRegistryV2) (value : Uint)
  | proposeDrain (addr : Address) (registry : MasternodeRegistryV2) (value : Uint)
  | collect (addr : Address)
  | drainMigration (owner : Address) (blacklistClaim : Except Revert Unit)
  | onDrain (origin addr : Address)
  | voteAccept (proposal : ℕ) (registry : MasternodeRegistryV2)
  | voteReject (proposal : ℕ) (registry : MasternodeRegistryV2)

namespace BlacklistRegistry

variable (r : BlacklistRegistry) (env : CallEnv)

/-- A call. -/
def exec : BlacklistCall → Except Revert BlacklistRegistry
  | .propose addr registry value => r.propose registry env value addr
  | .proposeRevoke addr registry value => r.proposeRevoke registry env value addr
  | .proposeDrain addr registry value => r.proposeDrain registry env value addr
  | .collect addr => r.collect env.timestamp addr
  | .drainMigration owner blacklistClaim => r.drainMigration env.timestamp owner blacklistClaim
  | .onDrain origin addr => r.onDrain origin addr
  | .voteAccept proposal registry => r.onProposal proposal (·.voteAccept registry env)
  | .voteReject proposal registry => r.onProposal proposal (·.voteReject registry env)

/-- The state after a call: its result, or the old state if it reverted. -/
def commit (call : BlacklistCall) : BlacklistRegistry :=
  match r.exec env call with
  | .ok r' => r'
  | .error _ => r

/-- The state after the calls, in order, each with its environment. -/
def runCalls (calls : List (CallEnv × BlacklistCall)) : BlacklistRegistry :=
  StateMachine.run (fun r c => r.commit c.1 c.2) r calls

end BlacklistRegistry

end RangeCore.Governance
