import RangeCore.Governance.Proposal
import RangeCore.Lib.IndexedList
import RangeCore.Lib.Run
import RangeCore.Lib.ExceptBind

/-!
# Governed proxies and their upgrades

`GovernedProxy` of `range/contracts/src/GovernedProxy.sol` forwards every call to its current
implementation `impl`, and changes `impl` only through upgrade proposals. `proposeUpgrade` has
the spork registry create a proposal for a new implementation that names the proxy as its own,
records it in the mapping `upgrade_proposals` and pushes it onto `upgrade_proposal_list`.
`upgrade` switches to the implementation of an accepted proposal and `collectUpgradeProposal`
hands the fee of a rejected one to the treasury; both then remove the proposal from the mapping
and, by a linear search and swap-and-pop, from the list. The spork registry,
`SporkRegistryV2` of `SporkRegistryV2.sol`, creates an `UpgradeProposalV1`, voted on by the
masternodes under the rules of `GenericProposalV1` against a fee of 10000 ether, except for its
emergency signer, who pays nothing and gets an `EmergencyProposal`, accepted from the start.

Over every run of calls from the proxy's constructor (`RangeCore.Governance.GovernedProxyRuns`),
the list holds exactly the registered proposals, each once (`UpgradeSystem.Inv`). `impl` changes
only by an upgrade through a registered proposal that is accepted, which is then unregistered
(`UpgradeSystem.impl_change`). A collected proposal keeps its code, so creation never gives its
address again and it cannot upgrade (`UpgradeSystem.upgrade_retired`). A registered proposal is
accepted only by the votes on it, or as an emergency proposal that the emergency signer asked
for in a direct call, with no fee and no period (`UpgradeSystem.emergency_history`).

Proposals are kept by address in the spork registry's state, numbered in creation order, so
that creation gives an address without code; a destroyed proposal has no code. The
implementations and the treasury are other contracts: what their `proxy()` returns and how
their `migrate`, `destroy` and `contribute` return are parameters of the call. They cannot call
back into the proxy, whose calls are guarded by `noReentry` and whose fallback requires a
direct call. A call that reverts leaves every state as it was.

## Main definitions

* `RangeCore.Governance.UpgradeProposal`: `UpgradeProposalV1` and `EmergencyProposal`.
* `RangeCore.Governance.SporkRegistry.createUpgradeProposal`.
* `RangeCore.Governance.GovernedProxy`, `GovernedProxy.cleanupProposal`.
* `RangeCore.Governance.UpgradeSystem`: `proposeUpgrade`, `upgrade`, `collectUpgradeProposal`,
  and the calls of a run.
* `RangeCore.Governance.UpgradeProposal.Voted`: a proposal as the vote made it.

## Main results

* `RangeCore.Governance.SporkRegistry.createUpgradeProposal_ok`: what a new proposal is.
* `RangeCore.Governance.GovernedProxy.Consistent.cleanupProposal`,
  `RangeCore.Governance.GovernedProxy.Consistent.push`: the list and the mapping stay in
  agreement.
* `RangeCore.Governance.UpgradeSystem.proposeUpgrade_ok`, `upgrade_ok`,
  `collectUpgradeProposal_ok`, `exec_cases`: what each call does; the runs are in
  `RangeCore.Governance.GovernedProxyRuns`.
-/

namespace RangeCore.Governance

/-- `FEE_UPGRADE_V1`: 10000 ether. -/
def feeUpgradeV1 : Uint := BitVec.ofNat 256 (10000 * 10 ^ 18)

/-- `PERIOD_UPGRADE_MIN`: two weeks. -/
def periodUpgradeMin : Uint := BitVec.ofNat 256 1209600

/-- `PERIOD_UPGRADE_MAX`: 365 days. -/
def periodUpgradeMax : Uint := BitVec.ofNat 256 31536000

/-- The two contracts the spork registry creates as upgrade proposals. -/
inductive UpgradeProposalKind where
  | upgradeProposalV1
  | emergencyProposal
  deriving DecidableEq, Repr

/-- The storage of an upgrade proposal: that of `GenericProposalV1`, the proposed
implementation `impl` and the `creator`, with which of the two contracts it is. -/
structure UpgradeProposal extends GenericProposal where
  kind : UpgradeProposalKind
  impl : Address
  creator : Address

namespace UpgradeProposal

/-- The constructor of `UpgradeProposalV1`, which `EmergencyProposal` inherits, run by the spork
registry (`env.caller`): a generic proposal with the quorum `QUORUM_MAJORITY`, whose parent is
then set to `_parent`. -/
def new (kind : UpgradeProposalKind) (registry : MasternodeRegistryV2) (env : CallEnv)
    (parent impl : Address) (period : Uint) (feePayer : Address) :
    Except Revert UpgradeProposal := do
  let p ← GenericProposal.new registry env quorumMajority period feePayer
  pure { p with parent, kind, impl, creator := env.caller }

variable (p : UpgradeProposal)

/-- `isAccepted`, which `EmergencyProposal` overrides to be true. -/
def isAccepted (timestamp : Uint) : Bool :=
  match p.kind with
  | .upgradeProposalV1 => p.toGenericProposal.isAccepted timestamp
  | .emergencyProposal => true

/-- `isFinished`, which `EmergencyProposal` overrides to be true. -/
def isFinished (timestamp : Uint) : Bool :=
  match p.kind with
  | .upgradeProposalV1 => p.toGenericProposal.isFinished timestamp
  | .emergencyProposal => true

/-- `voteAccept`, which `EmergencyProposal` overrides to do nothing. -/
def voteAccept (registry : MasternodeRegistryV2) (env : CallEnv) :
    Except Revert UpgradeProposal :=
  match p.kind with
  | .upgradeProposalV1 => do
    let q ← p.toGenericProposal.voteAccept registry env
    pure { p with toGenericProposal := q }
  | .emergencyProposal => pure p

/-- `voteReject`, which `EmergencyProposal` overrides to do nothing. -/
def voteReject (registry : MasternodeRegistryV2) (env : CallEnv) :
    Except Revert UpgradeProposal :=
  match p.kind with
  | .upgradeProposalV1 => do
    let q ← p.toGenericProposal.voteReject registry env
    pure { p with toGenericProposal := q }
  | .emergencyProposal => pure p

/-- `withdraw`, with the contract's own `isAccepted`. -/
def withdraw (timestamp : Uint) : Except Revert UpgradeProposal := do
  require (p.isAccepted timestamp = true) "Not accepted"
  pure { p with balance := 0 }

/-- `collect`, with the contract's own `isFinished` and `isAccepted`: the parent takes the
balance of a finished proposal that was not accepted, for the treasury's `contribute`. -/
def collect (caller : Address) (timestamp : Uint) : Except Revert (UpgradeProposal × Uint) := do
  require ((p.isFinished timestamp && !p.isAccepted timestamp) = true) "Not collectable"
  require (caller = p.parent) "Only parent"
  pure ({ p with balance := 0 }, p.balance)

/-- `UpgradeProposalV1.setFee`: the creator, not the parent, pays the fee in. -/
def setFee (caller : Address) (value : Uint) : Except Revert UpgradeProposal := do
  require (caller = p.creator) "Only parent"
  pure { p with feeAmount := p.feeAmount + value, balance := p.balance + value }

end UpgradeProposal

namespace GenericProposal

/-- What the calls of anyone do to a generic proposal after its creation: votes, and the
withdrawal of its fee once it is accepted. -/
inductive Call (p p' : GenericProposal) : Prop
  | voteAccept (registry : MasternodeRegistryV2) (env : CallEnv)
      (h : p.voteAccept registry env = .ok p')
  | voteReject (registry : MasternodeRegistryV2) (env : CallEnv)
      (h : p.voteReject registry env = .ok p')
  | withdraw (timestamp : Uint) (h : p.withdraw timestamp = .ok p')

end GenericProposal

namespace UpgradeProposal

/-- An `UpgradeProposalV1` as the rules of `GenericProposalV1` make it: created by the
constructor, its fee `FEE_UPGRADE_V1` paid in by `setFee`, and then changed only by votes and
the withdrawal of the fee. -/
def Voted (p : UpgradeProposal) : Prop :=
  ∃ registry env parent impl period feePayer p₀ p₁,
    UpgradeProposal.new .upgradeProposalV1 registry env parent impl period feePayer = .ok p₀ ∧
    p₀.setFee env.caller feeUpgradeV1 = .ok p₁ ∧
    Relation.ReflTransGen GenericProposal.Call p₁.toGenericProposal p.toGenericProposal

/-- `p'` is `p` after calls of anyone: the same contract, implementation and parent, and for an
`UpgradeProposalV1` a generic part changed only by votes and withdrawals. -/
structure Later (p p' : UpgradeProposal) : Prop where
  kind_eq : p'.kind = p.kind
  impl_eq : p'.impl = p.impl
  parent_eq : p'.parent = p.parent
  calls : p.kind = .upgradeProposalV1 →
    Relation.ReflTransGen GenericProposal.Call p.toGenericProposal p'.toGenericProposal

variable {p p' : UpgradeProposal} {registry : MasternodeRegistryV2} {env : CallEnv}

theorem new_ok {kind : UpgradeProposalKind} {parent impl : Address} {period : Uint}
    {feePayer : Address} (h : UpgradeProposal.new kind registry env parent impl period feePayer = .ok p) :
    p.kind = kind ∧ p.impl = impl ∧ p.parent = parent ∧ p.creator = env.caller ∧
      ∃ q, GenericProposal.new registry env quorumMajority period feePayer = .ok q ∧
        p.toGenericProposal = { q with parent } := by
  unfold UpgradeProposal.new at h
  obtain ⟨q, hq, h⟩ := Except.bind_eq_ok_iff.1 h
  cases h
  exact ⟨rfl, rfl, rfl, rfl, q, hq, rfl⟩

/-- `setFee` changes only the fee and the balance. -/
theorem setFee_ok {caller : Address} {value : Uint} (h : p.setFee caller value = .ok p') :
    caller = p.creator ∧ p'.kind = p.kind ∧ p'.impl = p.impl ∧ p'.parent = p.parent ∧
      p' = { p with feeAmount := p.feeAmount + value, balance := p.balance + value } := by
  unfold setFee at h
  obtain ⟨⟨⟩, hc, h⟩ := Except.bind_eq_ok_iff.1 h
  cases h
  exact ⟨require_eq_ok.1 hc, rfl, rfl, rfl, rfl⟩

theorem isAccepted_upgradeProposalV1 (hk : p.kind = .upgradeProposalV1) (t : Uint) :
    p.isAccepted t = p.toGenericProposal.isAccepted t := by
  simp [isAccepted, hk]

theorem Later.refl (p : UpgradeProposal) : p.Later p := ⟨rfl, rfl, rfl, fun _ => .refl⟩

theorem later_voteAccept (h : p.voteAccept registry env = .ok p') : p.Later p' := by
  unfold voteAccept at h
  split at h
  · obtain ⟨q, hq, h⟩ := Except.bind_eq_ok_iff.1 h
    cases h
    exact ⟨rfl, rfl, GenericProposal.parent_voteAccept hq, fun _ => .single (.voteAccept _ _ hq)⟩
  · cases h
    exact .refl p

theorem later_voteReject (h : p.voteReject registry env = .ok p') : p.Later p' := by
  unfold voteReject at h
  split at h
  · obtain ⟨q, hq, h⟩ := Except.bind_eq_ok_iff.1 h
    cases h
    exact ⟨rfl, rfl, GenericProposal.parent_voteReject hq, fun _ => .single (.voteReject _ _ hq)⟩
  · cases h
    exact .refl p

theorem later_withdraw {t : Uint} (h : p.withdraw t = .ok p') : p.Later p' := by
  unfold withdraw at h
  obtain ⟨⟨⟩, hacc, h⟩ := Except.bind_eq_ok_iff.1 h
  cases h
  refine ⟨rfl, rfl, rfl, fun hk => .single (.withdraw t ?_)⟩
  -- an `UpgradeProposalV1` checks the acceptance of its generic part
  have hacc : p.toGenericProposal.isAccepted t = true := by
    rw [← isAccepted_upgradeProposalV1 hk]
    exact require_eq_ok.1 hacc
  simp [GenericProposal.withdraw, hacc, require]

/-- Votes and withdrawals keep a proposal as the vote made it. -/
theorem Voted.later (hv : p.Voted) (hl : p.Later p') (hk : p.kind = .upgradeProposalV1) :
    p'.Voted := by
  obtain ⟨registry, env, parent, impl, period, feePayer, p₀, p₁, hnew, hfee, hcalls⟩ := hv
  exact ⟨registry, env, parent, impl, period, feePayer, p₀, p₁, hnew, hfee,
    hcalls.trans (hl.calls hk)⟩

end UpgradeProposal

/-- `SporkRegistryV2` with the upgrade proposals it created. -/
structure SporkRegistry where
  /-- The registry's own address, the creator of its proposals. -/
  address : Address
  /-- `Emergency_signer`. -/
  emergencySigner : Address
  /-- The proposals by address; `none` where there is no code. -/
  proposals : ℕ → Option UpgradeProposal
  /-- The address of the next proposal `new` creates. -/
  nextProposal : ℕ

namespace SporkRegistry

/-- The constructor, before any proposal. -/
def new (address emergencySigner : Address) : SporkRegistry :=
  { address, emergencySigner, proposals := fun _ => none, nextProposal := 1 }

variable (r : SporkRegistry)

/-- The proposal at an address, for a call to it from a contract: a call to an address without
code reverts. -/
def proposal (id : ℕ) : Except Revert UpgradeProposal :=
  match r.proposals id with
  | none => .error (.require "")
  | some p => .ok p

/-- `createUpgradeProposal`, called by a proxy (`env.caller`) with the value `value`. The
emergency signer as fee payer gets an `EmergencyProposal`, with no fee and no period; anyone
else gets an `UpgradeProposalV1`, whose fee `FEE_UPGRADE_V1` the registry pays in. -/
def createUpgradeProposal (registry : MasternodeRegistryV2) (env : CallEnv) (value : Uint)
    (impl : Address) (period : Uint) (feePayer : Address) :
    Except Revert (ℕ × SporkRegistry) := do
  -- the constructors run with the registry as `msg.sender`
  let create := { env with caller := r.address }
  let p ← if r.emergencySigner = feePayer then do
      require (value = 0) "Invalid fee"
      require (period = 0) "Invalid period"
      UpgradeProposal.new .emergencyProposal registry create env.caller impl period feePayer
    else do
      require (value = feeUpgradeV1) "Invalid fee"
      require (period ≥ periodUpgradeMin) "Period min"
      require (period ≤ periodUpgradeMax) "Period max"
      let p ← UpgradeProposal.new .upgradeProposalV1 registry create env.caller impl period
        feePayer
      p.setFee r.address value
  let id := r.nextProposal
  pure (id, { r with proposals := Function.update r.proposals id (some p), nextProposal := id + 1 })

/-- `proposal.destroy()` by `caller`. -/
def destroyProposal (caller : Address) (id : ℕ) : Except Revert SporkRegistry := do
  let p ← r.proposal id
  p.destroy caller
  pure { r with proposals := Function.update r.proposals id none }

/-- `proposal.collect()` by `caller`, the treasury's `contribute` returning as `contribute`
says. -/
def collectProposal (caller : Address) (timestamp : Uint) (contribute : Except Revert Unit)
    (id : ℕ) : Except Revert SporkRegistry := do
  let p ← r.proposal id
  let (p, _) ← p.collect caller timestamp
  contribute
  pure { r with proposals := Function.update r.proposals id (some p) }

/-- A call to the proposal at an address by anyone. A call to an address without code does
nothing. -/
def onProposal (id : ℕ) (f : UpgradeProposal → Except Revert UpgradeProposal) :
    Except Revert SporkRegistry :=
  match r.proposals id with
  | none => .ok r
  | some p => do
    let p ← f p
    pure { r with proposals := Function.update r.proposals id (some p) }

/-- Every address from `nextProposal` on has no code, so that creation gives a fresh address. -/
def Fresh : Prop := ∀ id, r.nextProposal ≤ id → r.proposals id = none

theorem fresh_new (address emergencySigner : Address) : (new address emergencySigner).Fresh :=
  fun _ _ => rfl

variable {r r' : SporkRegistry} {id : ℕ} {p : UpgradeProposal}

/-- A proposal with code is below `nextProposal`. -/
theorem Fresh.lt_of_eq_some (h : r.Fresh) (hp : r.proposals id = some p) : id < r.nextProposal := by
  by_contra hle
  rw [h id (Nat.le_of_not_lt hle)] at hp
  cases hp

theorem proposal_eq_ok : r.proposal id = .ok p ↔ r.proposals id = some p := by
  unfold proposal
  split <;> simp_all

/-- A new proposal takes the next address. The emergency signer's is an `EmergencyProposal`, for
no fee and no period; any other is an `UpgradeProposalV1` as the vote makes it. -/
theorem createUpgradeProposal_ok {registry : MasternodeRegistryV2} {env : CallEnv}
    {value period : Uint} {impl feePayer : Address}
    (h : r.createUpgradeProposal registry env value impl period feePayer = .ok (id, r')) :
    id = r.nextProposal ∧ ∃ p : UpgradeProposal,
      r' = { r with
        proposals := Function.update r.proposals r.nextProposal (some p)
        nextProposal := r.nextProposal + 1 } ∧
      p.impl = impl ∧ p.parent = env.caller ∧
      (p.kind = .emergencyProposal → feePayer = r.emergencySigner ∧ value = 0 ∧ period = 0) ∧
      (p.kind = .upgradeProposalV1 → p.Voted) := by
  unfold createUpgradeProposal at h
  dsimp only at h
  split_ifs at h with hsigner
  · -- the emergency signer's proposal
    obtain ⟨⟨⟩, hvalue, h⟩ := Except.bind_eq_ok_iff.1 h
    obtain ⟨⟨⟩, hperiod, h⟩ := Except.bind_eq_ok_iff.1 h
    obtain ⟨p, hp, h⟩ := Except.bind_eq_ok_iff.1 h
    cases h
    obtain ⟨hk, himpl, hparent, -⟩ := UpgradeProposal.new_ok hp
    refine ⟨rfl, p, rfl, himpl, hparent,
      fun _ => ⟨hsigner.symm, require_eq_ok.1 hvalue, require_eq_ok.1 hperiod⟩, fun h => ?_⟩
    rw [hk] at h
    cases h
  · obtain ⟨⟨⟩, hvalue, h⟩ := Except.bind_eq_ok_iff.1 h
    obtain ⟨⟨⟩, -, h⟩ := Except.bind_eq_ok_iff.1 h
    obtain ⟨⟨⟩, -, h⟩ := Except.bind_eq_ok_iff.1 h
    obtain ⟨p₀, hp₀, h⟩ := Except.bind_eq_ok_iff.1 h
    obtain ⟨p, hp, h⟩ := Except.bind_eq_ok_iff.1 h
    cases h
    obtain ⟨hk, himpl, hparent, -⟩ := UpgradeProposal.new_ok hp₀
    -- the fields are read off before the fee is a literal, which unification would unfold
    obtain ⟨-, hk', himpl', hparent', -⟩ := UpgradeProposal.setFee_ok hp
    rw [require_eq_ok.1 hvalue] at hp
    refine ⟨rfl, p, rfl, himpl'.trans himpl, hparent'.trans hparent, fun h => ?_,
      fun _ => ⟨registry, _, _, _, _, _, p₀, p, hp₀, hp, .refl⟩⟩
    rw [hk', hk] at h
    cases h

theorem destroyProposal_ok {caller : Address} (h : r.destroyProposal caller id = .ok r') :
    ∃ p, r.proposals id = some p ∧ caller = p.parent ∧
      r' = { r with proposals := Function.update r.proposals id none } := by
  unfold destroyProposal at h
  obtain ⟨p, hp, h⟩ := Except.bind_eq_ok_iff.1 h
  obtain ⟨⟨⟩, hc, h⟩ := Except.bind_eq_ok_iff.1 h
  cases h
  exact ⟨p, proposal_eq_ok.1 hp, require_eq_ok.1 hc, rfl⟩

theorem collectProposal_ok {caller : Address} {timestamp : Uint} {contribute : Except Revert Unit}
    (h : r.collectProposal caller timestamp contribute id = .ok r') :
    ∃ p p' amount, r.proposals id = some p ∧ p.collect caller timestamp = .ok (p', amount) ∧
      r' = { r with proposals := Function.update r.proposals id (some p') } := by
  unfold collectProposal at h
  obtain ⟨p, hp, h⟩ := Except.bind_eq_ok_iff.1 h
  obtain ⟨⟨p', amount⟩, hc, h⟩ := Except.bind_eq_ok_iff.1 h
  obtain ⟨⟨⟩, -, h⟩ := Except.bind_eq_ok_iff.1 h
  cases h
  exact ⟨p, p', amount, proposal_eq_ok.1 hp, hc, rfl⟩

theorem onProposal_ok {f : UpgradeProposal → Except Revert UpgradeProposal}
    (h : r.onProposal id f = .ok r') :
    r' = r ∨ ∃ p p', r.proposals id = some p ∧ f p = .ok p' ∧
      r' = { r with proposals := Function.update r.proposals id (some p') } := by
  unfold onProposal at h
  split at h
  · cases h
    exact .inl rfl
  · rename_i p hp
    obtain ⟨p', hp', h⟩ := Except.bind_eq_ok_iff.1 h
    cases h
    exact .inr ⟨p, p', hp, hp', rfl⟩

end SporkRegistry

/-- The storage of a `GovernedProxy`, with its address `address(this)`; the spork registry
behind `spork_proxy` is kept beside it. -/
structure GovernedProxy where
  address : Address
  impl : Address
  upgradeProposals : ℕ → Address
  upgradeProposalList : List ℕ

namespace GovernedProxy

/-- The constructor. -/
def new (address impl : Address) : GovernedProxy :=
  { address, impl, upgradeProposals := fun _ => 0, upgradeProposalList := [] }

/-- `_cleanupProposal`: the mapping entry is deleted, and the first occurrence in the list is
overwritten by the last element, which is popped. -/
def cleanupProposal (g : GovernedProxy) (proposal : ℕ) : GovernedProxy :=
  { g with
    upgradeProposals := Function.update g.upgradeProposals proposal 0
    upgradeProposalList := IndexedList.swapPopFirst proposal g.upgradeProposalList }

/-- The list and the mapping agree: the list holds each proposal with an implementation in the
mapping, once, and no other. -/
structure Consistent (g : GovernedProxy) : Prop where
  nodup : g.upgradeProposalList.Nodup
  mem_iff : ∀ p, p ∈ g.upgradeProposalList ↔ g.upgradeProposals p ≠ 0

variable {g : GovernedProxy} {p : ℕ}

theorem consistent_new (address impl : Address) : (new address impl).Consistent :=
  ⟨List.nodup_nil, fun p => by simp [new]⟩

@[simp] theorem cleanupProposal_address : (g.cleanupProposal p).address = g.address := rfl

@[simp] theorem cleanupProposal_impl : (g.cleanupProposal p).impl = g.impl := rfl

@[simp] theorem cleanupProposal_upgradeProposals :
    (g.cleanupProposal p).upgradeProposals = Function.update g.upgradeProposals p 0 := rfl

/-- Deleting the mapping entry before `_cleanupProposal` changes nothing. -/
theorem cleanupProposal_update_zero :
    { g with upgradeProposals := Function.update g.upgradeProposals p 0 }.cleanupProposal p =
      g.cleanupProposal p := by
  simp [cleanupProposal]

/-- `_cleanupProposal` keeps the list and the mapping in agreement: on a list without
duplicates, the linear search finds the only occurrence. -/
theorem Consistent.cleanupProposal (h : g.Consistent) (p : ℕ) : (g.cleanupProposal p).Consistent := by
  refine ⟨IndexedList.nodup_swapPopFirst h.nodup p, fun q => ?_⟩
  simp only [GovernedProxy.cleanupProposal, IndexedList.mem_swapPopFirst h.nodup, h.mem_iff]
  by_cases hq : q = p
  · simp [hq]
  · simp [hq]

theorem Consistent.setImpl (h : g.Consistent) (impl : Address) :
    ({ g with impl } : GovernedProxy).Consistent :=
  ⟨h.nodup, h.mem_iff⟩

/-- Registering a proposal that is not registered, with a nonzero implementation, keeps the list
and the mapping in agreement. -/
theorem Consistent.push (h : g.Consistent) (hp : g.upgradeProposals p = 0) {impl : Address}
    (himpl : impl ≠ 0) :
    ({ g with
        upgradeProposals := Function.update g.upgradeProposals p impl
        upgradeProposalList := g.upgradeProposalList ++ [p] } : GovernedProxy).Consistent := by
  have hnot : p ∉ g.upgradeProposalList := fun hm => (h.mem_iff p).1 hm hp
  refine ⟨List.nodup_append.2 ⟨h.nodup, List.nodup_singleton p, ?_⟩, fun q => ?_⟩
  · rintro a ha b hb rfl
    exact hnot (List.mem_singleton.1 hb ▸ ha)
  · by_cases hq : q = p
    · simpa [hq] using himpl
    · simp [hq, h.mem_iff]

end GovernedProxy

/-- What a transaction calling the proxy reads: `msg.sender`, `tx.origin`, `msg.value` and its
block, and how the other contracts it calls answer. -/
structure ProxyEnv where
  sender : Address
  origin : Address
  value : Uint
  blockNumber : Uint
  timestamp : Uint
  /-- `proxy()` of the contract at an address; `none` where there is no code, and a call there
  reverts. -/
  proxyOf : Address → Option Address
  /-- There is no code at address zero. -/
  proxyOf_zero : proxyOf 0 = none
  /-- How `new_impl.migrate(old_impl)` returns. -/
  migrate : Except Revert Unit
  /-- How `old_impl.destroy(new_impl)` returns. -/
  destroy : Except Revert Unit
  /-- How the treasury's `contribute` returns. -/
  contribute : Except Revert Unit

/-- A governed proxy with the spork registry that creates its proposals. -/
structure UpgradeSystem where
  proxy : GovernedProxy
  spork : SporkRegistry

/-- The calls of a run: those of the proxy, and those of anyone to the proposals. -/
inductive UpgradeCall where
  | proposeUpgrade (registry : MasternodeRegistryV2) (env : ProxyEnv) (newImpl : Address)
      (period : Uint)
  | upgrade (env : ProxyEnv) (proposal : ℕ)
  | collectUpgradeProposal (env : ProxyEnv) (proposal : ℕ)
  | voteAccept (registry : MasternodeRegistryV2) (env : CallEnv) (proposal : ℕ)
  | voteReject (registry : MasternodeRegistryV2) (env : CallEnv) (proposal : ℕ)
  | withdraw (env : CallEnv) (proposal : ℕ)

namespace UpgradeSystem

/-- The proxy's constructor, beside a spork registry. -/
def new (address impl : Address) (spork : SporkRegistry) : UpgradeSystem :=
  { proxy := .new address impl, spork }

variable (s : UpgradeSystem)

/-- `proposeUpgrade`. -/
def proposeUpgrade (registry : MasternodeRegistryV2) (env : ProxyEnv) (newImpl : Address)
    (period : Uint) : Except Revert UpgradeSystem := do
  require (env.origin = env.sender) "Only direct calls are allowed!"
  require (newImpl ≠ s.proxy.impl) "Already active!"
  let some proxy := env.proxyOf newImpl | throw (.require "")
  require (proxy = s.proxy.address) "Wrong proxy!"
  let (proposal, spork) ← s.spork.createUpgradeProposal registry
    ⟨s.proxy.address, env.blockNumber, env.timestamp⟩ env.value newImpl period env.sender
  pure
    { proxy :=
        { s.proxy with
          upgradeProposals := Function.update s.proxy.upgradeProposals proposal newImpl
          upgradeProposalList := s.proxy.upgradeProposalList ++ [proposal] }
      spork }

/-- `upgrade`: `new_impl.migrate(old_impl)`, then `impl = new_impl`, `old_impl.destroy(new_impl)`,
`_cleanupProposal` and `_proposal.destroy()`. -/
def upgrade (env : ProxyEnv) (proposal : ℕ) : Except Revert UpgradeSystem := do
  let newImpl := s.proxy.upgradeProposals proposal
  require (newImpl ≠ s.proxy.impl) "Already active!"
  require (newImpl ≠ 0) "Not registered!"
  let p ← s.spork.proposal proposal
  require (p.isAccepted env.timestamp = true) "Not accepted!"
  env.migrate
  env.destroy
  let spork ← s.spork.destroyProposal s.proxy.address proposal
  pure { proxy := { s.proxy with impl := newImpl }.cleanupProposal proposal, spork }

/-- `collectUpgradeProposal`: the mapping entry is deleted before `_cleanupProposal` deletes it
again. -/
def collectUpgradeProposal (env : ProxyEnv) (proposal : ℕ) : Except Revert UpgradeSystem := do
  require (s.proxy.upgradeProposals proposal ≠ 0) "Not registered!"
  let spork ← s.spork.collectProposal s.proxy.address env.timestamp env.contribute proposal
  let proxy :=
    { s.proxy with upgradeProposals := Function.update s.proxy.upgradeProposals proposal 0 }
  pure { proxy := proxy.cleanupProposal proposal, spork }

/-- A call to a proposal by anyone. -/
def onProposal (proposal : ℕ) (f : UpgradeProposal → Except Revert UpgradeProposal) :
    Except Revert UpgradeSystem := do
  let spork ← s.spork.onProposal proposal f
  pure { s with spork }

/-- A call. -/
def exec : UpgradeCall → Except Revert UpgradeSystem
  | .proposeUpgrade registry env newImpl period => s.proposeUpgrade registry env newImpl period
  | .upgrade env proposal => s.upgrade env proposal
  | .collectUpgradeProposal env proposal => s.collectUpgradeProposal env proposal
  | .voteAccept registry env proposal => s.onProposal proposal (·.voteAccept registry env)
  | .voteReject registry env proposal => s.onProposal proposal (·.voteReject registry env)
  | .withdraw env proposal => s.onProposal proposal (·.withdraw env.timestamp)

/-- The state after a call: its result, or the old state if it reverted. -/
def commit (call : UpgradeCall) : UpgradeSystem :=
  match s.exec call with
  | .ok s' => s'
  | .error _ => s

/-- The state after the calls, in order. -/
def runCalls (calls : List UpgradeCall) : UpgradeSystem :=
  StateMachine.run commit s calls

/-! ### What each call does -/

variable {s s' : UpgradeSystem} {registry : MasternodeRegistryV2} {env : ProxyEnv}
  {newImpl : Address} {period : Uint} {proposal : ℕ}

/-- A successful `proposeUpgrade`: a direct call for an implementation with code, which is not
at address zero, registered under the next proposal address. -/
theorem proposeUpgrade_ok (h : s.proposeUpgrade registry env newImpl period = .ok s') :
    env.origin = env.sender ∧ newImpl ≠ 0 ∧ ∃ p : UpgradeProposal,
      s' =
        { proxy :=
            { s.proxy with
              upgradeProposals :=
                Function.update s.proxy.upgradeProposals s.spork.nextProposal newImpl
              upgradeProposalList := s.proxy.upgradeProposalList ++ [s.spork.nextProposal] }
          spork :=
            { s.spork with
              proposals := Function.update s.spork.proposals s.spork.nextProposal (some p)
              nextProposal := s.spork.nextProposal + 1 } } ∧
      p.impl = newImpl ∧ p.parent = s.proxy.address ∧
      (p.kind = .emergencyProposal →
        env.sender = s.spork.emergencySigner ∧ env.value = 0 ∧ period = 0) ∧
      (p.kind = .upgradeProposalV1 → p.Voted) := by
  unfold proposeUpgrade at h
  obtain ⟨⟨⟩, horigin, h⟩ := Except.bind_eq_ok_iff.1 h
  obtain ⟨⟨⟩, -, h⟩ := Except.bind_eq_ok_iff.1 h
  -- `_newImpl.proxy()` needs code at `_newImpl`, which address zero does not have
  cases hproxy : env.proxyOf newImpl with
  | none => simp [hproxy] at h
  | some proxy =>
    have hne : newImpl ≠ 0 := by
      rintro rfl
      rw [env.proxyOf_zero] at hproxy
      cases hproxy
    simp only [hproxy] at h
    obtain ⟨⟨⟩, -, h⟩ := Except.bind_eq_ok_iff.1 h
    obtain ⟨⟨id, r⟩, hc, h⟩ := Except.bind_eq_ok_iff.1 h
    cases h
    obtain ⟨rfl, p, rfl, himpl, hparent, hem, hv⟩ := SporkRegistry.createUpgradeProposal_ok hc
    exact ⟨require_eq_ok.1 horigin, hne, p, rfl, himpl, hparent, hem, hv⟩

/-- A successful `upgrade`: through a registered proposal for another implementation, which is
accepted; the implementation changes, and the proposal is unregistered and destroyed. -/
theorem upgrade_ok (h : s.upgrade env proposal = .ok s') :
    ∃ p, s.spork.proposals proposal = some p ∧ p.isAccepted env.timestamp = true ∧
      s.proxy.upgradeProposals proposal ≠ s.proxy.impl ∧ s.proxy.upgradeProposals proposal ≠ 0 ∧
      s' =
        { proxy :=
            { s.proxy with impl := s.proxy.upgradeProposals proposal }.cleanupProposal proposal
          spork := { s.spork with proposals := Function.update s.spork.proposals proposal none } } := by
  unfold upgrade at h
  obtain ⟨⟨⟩, hactive, h⟩ := Except.bind_eq_ok_iff.1 h
  obtain ⟨⟨⟩, hreg, h⟩ := Except.bind_eq_ok_iff.1 h
  obtain ⟨p, hp, h⟩ := Except.bind_eq_ok_iff.1 h
  obtain ⟨⟨⟩, hacc, h⟩ := Except.bind_eq_ok_iff.1 h
  -- `migrate` and `destroy` of the implementations returned
  obtain ⟨⟨⟩, -, h⟩ := Except.bind_eq_ok_iff.1 h
  obtain ⟨⟨⟩, -, h⟩ := Except.bind_eq_ok_iff.1 h
  obtain ⟨r, hr, h⟩ := Except.bind_eq_ok_iff.1 h
  cases h
  obtain ⟨-, -, -, rfl⟩ := SporkRegistry.destroyProposal_ok hr
  exact ⟨p, SporkRegistry.proposal_eq_ok.1 hp, require_eq_ok.1 hacc, require_eq_ok.1 hactive,
    require_eq_ok.1 hreg, rfl⟩

/-- A successful `collectUpgradeProposal`: through a registered proposal, which is collected and
unregistered. -/
theorem collectUpgradeProposal_ok (h : s.collectUpgradeProposal env proposal = .ok s') :
    s.proxy.upgradeProposals proposal ≠ 0 ∧ ∃ p p' amount, s.spork.proposals proposal = some p ∧
      p.collect s.proxy.address env.timestamp = .ok (p', amount) ∧
      s' =
        { proxy := s.proxy.cleanupProposal proposal
          spork :=
            { s.spork with proposals := Function.update s.spork.proposals proposal (some p') } } := by
  unfold collectUpgradeProposal at h
  obtain ⟨⟨⟩, hreg, h⟩ := Except.bind_eq_ok_iff.1 h
  obtain ⟨r, hr, h⟩ := Except.bind_eq_ok_iff.1 h
  cases h
  obtain ⟨p, p', amount, hp, hc, rfl⟩ := SporkRegistry.collectProposal_ok hr
  exact ⟨require_eq_ok.1 hreg, p, p', amount, hp, hc,
    by rw [GovernedProxy.cleanupProposal_update_zero]⟩

/-- A call to a proposal changes at most that proposal. -/
theorem onProposal_ok {f : UpgradeProposal → Except Revert UpgradeProposal}
    (h : s.onProposal proposal f = .ok s') :
    s' = s ∨ ∃ p p', s.spork.proposals proposal = some p ∧ f p = .ok p' ∧
      s' = { s with
        spork := { s.spork with proposals := Function.update s.spork.proposals proposal (some p') } } := by
  unfold onProposal at h
  obtain ⟨r, hr, h⟩ := Except.bind_eq_ok_iff.1 h
  cases h
  rcases SporkRegistry.onProposal_ok hr with rfl | ⟨p, p', hp, hp', rfl⟩
  · exact .inl rfl
  · exact .inr ⟨p, p', hp, hp', rfl⟩

/-- `s'` is `s` after a call of anyone to a proposal: the proxy and the registry as they were but
for the proposals, each of which kept its code, or its lack of code, and changed only by calls
of anyone. -/
structure OnlyProposals (s s' : UpgradeSystem) : Prop where
  proxy_eq : s'.proxy = s.proxy
  nextProposal_eq : s'.spork.nextProposal = s.spork.nextProposal
  emergencySigner_eq : s'.spork.emergencySigner = s.spork.emergencySigner
  none_iff : ∀ q, s'.spork.proposals q = none ↔ s.spork.proposals q = none
  later : ∀ q p', s'.spork.proposals q = some p' →
    ∃ p, s.spork.proposals q = some p ∧ p.Later p'

theorem onlyProposals_onProposal {f : UpgradeProposal → Except Revert UpgradeProposal}
    (hf : ∀ p p', f p = .ok p' → p.Later p') (h : s.onProposal proposal f = .ok s') :
    OnlyProposals s s' := by
  rcases onProposal_ok h with rfl | ⟨p, p', hp, hp', rfl⟩
  · exact ⟨rfl, rfl, rfl, fun _ => Iff.rfl, fun q p' hq => ⟨p', hq, .refl p'⟩⟩
  · refine ⟨rfl, rfl, rfl, fun q => ?_, fun q p'' hq => ?_⟩
    · by_cases hqp : q = proposal
      · subst hqp
        simp [hp]
      · simp [Function.update_of_ne hqp]
    · by_cases hqp : q = proposal
      · subst hqp
        simp only [Function.update_self, Option.some_inj] at hq
        exact ⟨p, hp, hq ▸ hf p p' hp'⟩
      · simp only [Function.update_of_ne hqp] at hq
        exact ⟨p'', hq, .refl p''⟩

/-- The four kinds of call: the proxy's three, and those of anyone to a proposal. -/
theorem exec_cases {call : UpgradeCall} (h : s.exec call = .ok s') :
    (∃ registry env newImpl period, call = .proposeUpgrade registry env newImpl period ∧
      s.proposeUpgrade registry env newImpl period = .ok s') ∨
    (∃ env proposal, call = .upgrade env proposal ∧ s.upgrade env proposal = .ok s') ∨
    (∃ env proposal, call = .collectUpgradeProposal env proposal ∧
      s.collectUpgradeProposal env proposal = .ok s') ∨
    OnlyProposals s s' := by
  cases call with
  | proposeUpgrade registry env newImpl period => exact .inl ⟨_, _, _, _, rfl, h⟩
  | upgrade env proposal => exact .inr (.inl ⟨_, _, rfl, h⟩)
  | collectUpgradeProposal env proposal => exact .inr (.inr (.inl ⟨_, _, rfl, h⟩))
  | voteAccept registry env proposal =>
    exact .inr (.inr (.inr (onlyProposals_onProposal (fun _ _ => UpgradeProposal.later_voteAccept) h)))
  | voteReject registry env proposal =>
    exact .inr (.inr (.inr (onlyProposals_onProposal (fun _ _ => UpgradeProposal.later_voteReject) h)))
  | withdraw env proposal =>
    exact .inr (.inr (.inr (onlyProposals_onProposal (fun _ _ => UpgradeProposal.later_withdraw) h)))

theorem commit_eq_of_ok {call : UpgradeCall} (h : s.exec call = .ok s') : s.commit call = s' := by
  simp [commit, h]

theorem commit_eq_of_error {call : UpgradeCall} {e : Revert} (h : s.exec call = .error e) :
    s.commit call = s := by
  simp [commit, h]

theorem runCalls_append (calls calls' : List UpgradeCall) :
    s.runCalls (calls ++ calls') = (s.runCalls calls).runCalls calls' :=
  StateMachine.run_append _ _ _ _

theorem runCalls_append_singleton (calls : List UpgradeCall) (call : UpgradeCall) :
    s.runCalls (calls ++ [call]) = (s.runCalls calls).commit call := by
  simp [runCalls, StateMachine.run_append]

end UpgradeSystem

end RangeCore.Governance
