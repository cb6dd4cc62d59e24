import RangeCore.Governance.RegistryV2
import RangeCore.Lib.ExceptBind

/-!
# Generic proposals

`GenericProposalV1` of `range/contracts/src/GenericProposalV1.sol`, the voting part of every
governance proposal (budget, upgrade, blacklist, checkpoint). At creation it reads the
registry's `count`: the active collateral becomes `total_weight`, from which a quorum weight and
a finish weight are derived. Until the deadline every masternode owner whose masternode was
announced before the proposal's block votes once, with the collateral `ownerInfo` reports.

`isAccepted` and `isFinished` stay true once true as votes come in and time passes, as long as
the weights do not wrap (`GenericProposal.Grows`): before the deadline, when votes come in, a
proposal is accepted exactly when its approvals reached the finish weight.
A proposal that is finished and not accepted, the condition under which its fee is collected,
can still become accepted, however: it finishes early when the rejections pass the finish
weight, votes are taken until the deadline, and the owners of announced masternodes that the
reward loop has deactivated vote with collateral that `total_weight` does not count
(`rejected_then_accepted`).

## Main definitions

* `RangeCore.Governance.GenericProposal`, `RangeCore.Governance.GenericProposal.new`.
* `RangeCore.Governance.GenericProposal.isAccepted`, `isFinished`, `voteCommon`, `voteAccept`,
  `voteReject`, and the calls of the parent and of anyone after the vote: `setFee`, `destroy`,
  `collect`, `withdraw`.
* `RangeCore.Governance.GenericProposal.Grows`: the proposal after votes.

## Main results

* `RangeCore.Governance.GenericProposal.voteCommon_ok`: who may vote, and only once.
* `RangeCore.Governance.GenericProposal.isAccepted_iff_of_lt_deadline`.
* `RangeCore.Governance.GenericProposal.isFinished_grows`,
  `RangeCore.Governance.GenericProposal.isAccepted_voteAccept`,
  `RangeCore.Governance.GenericProposal.isAccepted_voteReject`: votes keep both.
* `RangeCore.Governance.GenericProposal.rejected_then_accepted`.
-/

namespace RangeCore.Governance

/-- `QUORUM_MIN`. -/
def quorumMin : UInt8 := 1

/-- `QUORUM_MAJORITY`. -/
def quorumMajority : UInt8 := 51

/-- `QUORUM_MAX`. -/
def quorumMax : UInt8 := 100

/-- The storage of a `GenericProposalV1`, with its ether balance. -/
structure GenericProposal where
  parent : Address
  createdBlock : Uint
  deadline : Uint
  feePayer : Address
  feeAmount : Uint
  acceptedWeight : Uint
  rejectedWeight : Uint
  totalWeight : Uint
  quorumWeight : Uint
  finishWeight : Uint
  voted : Address → Bool
  balance : Uint

namespace GenericProposal

/-- A `uint8` widened to `uint`. -/
def widen (q : UInt8) : Uint := BitVec.ofNat 256 q.toNat

/-- The constructor, run by `parent` with the registry as it is then: the quorum and finish
weights are taken from the active collateral, which must be at least half the most ever
announced. -/
def new (registry : MasternodeRegistryV2) (env : CallEnv) (quorum : UInt8) (period : Uint)
    (feePayer : Address) : Except Revert GenericProposal := do
  let (_, _, totalWeight, _, everWeight) := registry.count
  require (everWeight > 0) "Not ready for proposals"
  require (totalWeight ≥ everWeight / 2) "Active weight < 1/2 ever weight"
  require (quorum ≥ quorumMin) "Quorum min"
  require (quorum ≤ quorumMax) "Quorum max"
  let quorumWeight := totalWeight * widen quorum / widen quorumMax
  let finishWeight :=
    if quorum ≥ quorumMajority then quorumWeight
    else totalWeight * widen quorumMajority / widen quorumMax
  require (quorumWeight > 0) "Quorum weight"
  require (finishWeight > 0) "Finish weight"
  pure
    { parent := env.caller
      createdBlock := env.blockNumber
      deadline := env.timestamp + period
      feePayer
      feeAmount := 0
      acceptedWeight := 0
      rejectedWeight := 0
      totalWeight
      quorumWeight
      finishWeight
      voted := fun _ => false
      balance := 0 }

variable (p : GenericProposal)

/-- `isFinished` at a time: the deadline passed, or the approvals reached the finish weight, or
the rejections passed it. -/
def isFinished (timestamp : Uint) : Bool :=
  p.deadline ≤ timestamp || p.acceptedWeight ≥ p.finishWeight || p.rejectedWeight > p.finishWeight

/-- `isAccepted` at a time: the approvals reached the finish weight, or the vote is finished
with the quorum reached and more approvals than rejections. -/
def isAccepted (timestamp : Uint) : Bool :=
  if p.acceptedWeight ≥ p.finishWeight then true
  else if !p.isFinished timestamp then false
  else if p.acceptedWeight + p.rejectedWeight < p.quorumWeight then false
  else p.acceptedWeight > p.rejectedWeight

/-- `_voteCommon`: before the deadline, an owner whose masternode was announced before the
proposal's block and who has not voted yet is recorded as voted; the result is its
collateral. -/
def voteCommon (registry : MasternodeRegistryV2) (env : CallEnv) :
    Except Revert (Uint × GenericProposal) := do
  require (p.deadline > env.timestamp) "Finished"
  let owner := env.caller
  let (_, _, _, collateral, announcedBlock, _) ← registry.ownerInfo owner
  require (announcedBlock < p.createdBlock) "Not eligible"
  require (p.voted owner = false) "Already voted"
  pure (collateral, { p with voted := Function.update p.voted owner true })

/-- `voteAccept`. -/
def voteAccept (registry : MasternodeRegistryV2) (env : CallEnv) :
    Except Revert GenericProposal := do
  let (collateral, p) ← p.voteCommon registry env
  pure { p with acceptedWeight := p.acceptedWeight + collateral }

/-- `voteReject`. -/
def voteReject (registry : MasternodeRegistryV2) (env : CallEnv) :
    Except Revert GenericProposal := do
  let (collateral, p) ← p.voteCommon registry env
  pure { p with rejectedWeight := p.rejectedWeight + collateral }

/-- `withdraw`: once the proposal is accepted, anyone sends its balance to the fee payer. -/
def withdraw (timestamp : Uint) : Except Revert GenericProposal := do
  require (p.isAccepted timestamp = true) "Not accepted"
  pure { p with balance := 0 }

/-- `destroy`: only the parent may; the proposal then destroys itself, its balance going to the
fee payer. -/
def destroy (caller : Address) : Except Revert Unit :=
  require (caller = p.parent) "Only parent"

/-- `collect`: the parent takes the balance of a finished proposal that was not accepted. The
result is the proposal and the amount it passes to the treasury's `contribute`. -/
def collect (caller : Address) (timestamp : Uint) : Except Revert (GenericProposal × Uint) := do
  require ((p.isFinished timestamp && !p.isAccepted timestamp) = true) "Not collectable"
  require (caller = p.parent) "Only parent"
  pure ({ p with balance := 0 }, p.balance)

/-- `setFee`: the parent pays the fee in. -/
def setFee (caller : Address) (value : Uint) : Except Revert GenericProposal := do
  require (caller = p.parent) "Only parent"
  pure { p with feeAmount := p.feeAmount + value, balance := p.balance + value }

/-! ### Stability of the outcome -/

variable {p p' : GenericProposal} {registry : MasternodeRegistryV2} {env : CallEnv}

/-- A successful `_voteCommon`: before the deadline, by an owner that has not voted, whose
masternode was announced before the proposal's block; the owner is recorded and its collateral
returned. -/
theorem voteCommon_ok {w : Uint} (h : p.voteCommon registry env = .ok (w, p')) :
    env.timestamp < p.deadline ∧ p.voted env.caller = false ∧
      ∃ info, registry.ownerInfo env.caller = .ok info ∧ info.2.2.2.2.1 < p.createdBlock ∧
        w = info.2.2.2.1 ∧ p' = { p with voted := Function.update p.voted env.caller true } := by
  unfold voteCommon at h
  obtain ⟨⟨⟩, hlive, h⟩ := Except.bind_eq_ok_iff.1 h
  obtain ⟨⟨m, ip, enode, collateral, announcedBlock, sw⟩, hinfo, h⟩ := Except.bind_eq_ok_iff.1 h
  obtain ⟨⟨⟩, heligible, h⟩ := Except.bind_eq_ok_iff.1 h
  obtain ⟨⟨⟩, hvoted, h⟩ := Except.bind_eq_ok_iff.1 h
  cases h
  exact ⟨require_eq_ok.1 hlive, require_eq_ok.1 hvoted, _, hinfo, require_eq_ok.1 heligible,
    rfl, rfl⟩

/-- Before the deadline a proposal is accepted exactly when its approvals reached the finish
weight: the other way to acceptance needs it finished, and finishing early by rejections
leaves more rejections than approvals. -/
theorem isAccepted_iff_of_lt_deadline {t : Uint} (ht : t < p.deadline) :
    p.isAccepted t = true ↔ p.finishWeight ≤ p.acceptedWeight := by
  by_cases hacc : p.finishWeight ≤ p.acceptedWeight
  · simp [isAccepted, hacc]
  · -- before the deadline only rejections past the finish weight finish the vote, and they
    -- outnumber the approvals
    have hdl : ¬p.deadline ≤ t := by bv_omega
    have hmaj : p.finishWeight < p.rejectedWeight → ¬p.rejectedWeight < p.acceptedWeight := by
      bv_omega
    by_cases hrej : p.finishWeight < p.rejectedWeight
    · simp [isAccepted, isFinished, hacc, hdl, hrej, hmaj hrej]
    · simp [isAccepted, isFinished, hacc, hdl, hrej]

/-- `p'` is `p` after votes: the same deadline and thresholds, and neither weight smaller. -/
structure Grows (p p' : GenericProposal) : Prop where
  deadline : p'.deadline = p.deadline
  quorumWeight : p'.quorumWeight = p.quorumWeight
  finishWeight : p'.finishWeight = p.finishWeight
  accepted : p.acceptedWeight ≤ p'.acceptedWeight
  rejected : p.rejectedWeight ≤ p'.rejectedWeight

/-- A finished vote stays finished as time passes and the weights grow. -/
theorem isFinished_grows {t t' : Uint} (h : p.isFinished t = true) (ht : t ≤ t')
    (hg : Grows p p') : p'.isFinished t' = true := by
  simp only [isFinished, Bool.or_eq_true, decide_eq_true_eq] at h ⊢
  rw [hg.deadline, hg.finishWeight]
  have ha := hg.accepted
  have hr := hg.rejected
  rcases h with (h | h) | h
  · exact .inl (.inl (BitVec.le_trans h ht))
  · exact .inl (.inr (BitVec.le_trans h ha))
  · exact .inr (by bv_omega)

/-- An accepted proposal stays accepted at every later time once its approvals only grew, if it
was accepted before the deadline, the only time votes come in. -/
theorem isAccepted_grows {t t' : Uint} (h : p.isAccepted t = true) (ht : t < p.deadline)
    (hg : Grows p p') : p'.isAccepted t' = true := by
  have hfin := (isAccepted_iff_of_lt_deadline ht).1 h
  have hfin' : p'.finishWeight ≤ p'.acceptedWeight := by
    rw [hg.finishWeight]
    exact BitVec.le_trans hfin hg.accepted
  simp [isAccepted, hfin']

/-- A successful approval: the vote was open, and the voter's collateral is added to the
approvals. -/
theorem voteAccept_ok (h : p.voteAccept registry env = .ok p') :
    env.timestamp < p.deadline ∧ ∃ w, p' =
      { p with
        voted := Function.update p.voted env.caller true
        acceptedWeight := p.acceptedWeight + w } := by
  unfold voteAccept at h
  obtain ⟨⟨w, q⟩, hq, h⟩ := Except.bind_eq_ok_iff.1 h
  obtain ⟨hlive, -, -, -, -, -, rfl⟩ := voteCommon_ok hq
  cases h
  exact ⟨hlive, w, rfl⟩

/-- A successful rejection: the vote was open, and the voter's collateral is added to the
rejections. -/
theorem voteReject_ok (h : p.voteReject registry env = .ok p') :
    env.timestamp < p.deadline ∧ ∃ w, p' =
      { p with
        voted := Function.update p.voted env.caller true
        rejectedWeight := p.rejectedWeight + w } := by
  unfold voteReject at h
  obtain ⟨⟨w, q⟩, hq, h⟩ := Except.bind_eq_ok_iff.1 h
  obtain ⟨hlive, -, -, -, -, -, rfl⟩ := voteCommon_ok hq
  cases h
  exact ⟨hlive, w, rfl⟩

/-- An approval keeps the deadline and thresholds, and grows the approvals unless they wrap. -/
theorem grows_voteAccept (h : p.voteAccept registry env = .ok p')
    (hwrap : p.acceptedWeight ≤ p'.acceptedWeight) : Grows p p' := by
  obtain ⟨-, w, rfl⟩ := voteAccept_ok h
  exact ⟨rfl, rfl, rfl, hwrap, BitVec.le_refl _⟩

/-- A rejection keeps the deadline and thresholds, and grows the rejections unless they wrap. -/
theorem grows_voteReject (h : p.voteReject registry env = .ok p')
    (hwrap : p.rejectedWeight ≤ p'.rejectedWeight) : Grows p p' := by
  obtain ⟨-, w, rfl⟩ := voteReject_ok h
  exact ⟨rfl, rfl, rfl, BitVec.le_refl _, hwrap⟩

/-- A proposal accepted at some time stays accepted, at every time, after an approval cast then
or later that does not wrap the approvals. -/
theorem isAccepted_voteAccept {t t' : Uint} (hacc : p.isAccepted t = true)
    (ht : t ≤ env.timestamp) (h : p.voteAccept registry env = .ok p')
    (hwrap : p.acceptedWeight ≤ p'.acceptedWeight) : p'.isAccepted t' = true := by
  have hlive := (voteAccept_ok h).1
  exact isAccepted_grows hacc (by bv_omega) (grows_voteAccept h hwrap)

/-- The same for a rejection. -/
theorem isAccepted_voteReject {t t' : Uint} (hacc : p.isAccepted t = true)
    (ht : t ≤ env.timestamp) (h : p.voteReject registry env = .ok p')
    (hwrap : p.rejectedWeight ≤ p'.rejectedWeight) : p'.isAccepted t' = true := by
  have hlive := (voteReject_ok h).1
  exact isAccepted_grows hacc (by bv_omega) (grows_voteReject h hwrap)

/-! ### The parent -/

/-- The constructor makes its caller the parent, and no later call changes it. -/
theorem parent_new {quorum : UInt8} {period : Uint} {feePayer : Address}
    (h : GenericProposal.new registry env quorum period feePayer = .ok p) :
    p.parent = env.caller := by
  unfold GenericProposal.new at h
  -- the six `require`s pass
  obtain ⟨⟨⟩, -, h⟩ := Except.bind_eq_ok_iff.1 h
  obtain ⟨⟨⟩, -, h⟩ := Except.bind_eq_ok_iff.1 h
  obtain ⟨⟨⟩, -, h⟩ := Except.bind_eq_ok_iff.1 h
  obtain ⟨⟨⟩, -, h⟩ := Except.bind_eq_ok_iff.1 h
  obtain ⟨⟨⟩, -, h⟩ := Except.bind_eq_ok_iff.1 h
  obtain ⟨⟨⟩, -, h⟩ := Except.bind_eq_ok_iff.1 h
  cases h
  rfl

theorem parent_voteAccept (h : p.voteAccept registry env = .ok p') : p'.parent = p.parent := by
  obtain ⟨-, w, rfl⟩ := voteAccept_ok h
  rfl

theorem parent_voteReject (h : p.voteReject registry env = .ok p') : p'.parent = p.parent := by
  obtain ⟨-, w, rfl⟩ := voteReject_ok h
  rfl

theorem parent_withdraw {t : Uint} (h : p.withdraw t = .ok p') : p'.parent = p.parent := by
  unfold withdraw at h
  obtain ⟨⟨⟩, -, h⟩ := Except.bind_eq_ok_iff.1 h
  cases h
  rfl

theorem parent_setFee {caller : Address} {value : Uint} (h : p.setFee caller value = .ok p') :
    p'.parent = p.parent := by
  unfold setFee at h
  obtain ⟨⟨⟩, -, h⟩ := Except.bind_eq_ok_iff.1 h
  cases h
  rfl

/-- A rejected proposal turns accepted. Two owners announce a masternode each, with the minimum
collateral; the first misses its heartbeats, and the next `reward` deactivates it, which takes
its collateral out of the active weight but leaves it announced. A proposal created then has the
active collateral of one masternode as `total_weight`; the owner of the deactivated masternode,
announced before the proposal, rejects it with a weight past the finish weight, so the vote is
finished and not accepted, as `collect` requires. Before the deadline the other owner approves,
and the proposal is accepted. -/
theorem rejected_then_accepted :
    let a : Address := 0xA11CE#160
    let b : Address := 0xB0B#160
    let env : Address → Uint → Uint → Uint → RegistryEnv :=
      fun caller blockNumber timestamp msgValue =>
        { caller, blockNumber, timestamp, msgValue
          balanceInfo := fun _ => (mnCollateralV2Min, 5), blockhash := fun _ => 0, gas := 10
          accepts := fun _ => true, treasuryReward := fun _ => .ok () }
    ∃ r₀ p₀ p₁ p₂,
      MasternodeRegistryV2.new ⟨5, 3, 86400, mnCollateralV2Min, 1⟩ (env a 1 0 0) = .ok r₀ ∧
      let r := r₀.runCalls
        [(env b 10 1000 0, .announce 0xB#160 0x01020304 (0, 0)),
          (env a 11 9000 0, .announce 0xA#160 0x01020304 (0, 0)),
          (env a 12 9000 rewardMasternodeV1, .reward)]
      GenericProposal.new r ⟨a, 13, 9000⟩ quorumMajority 604800 a = .ok p₀ ∧
        p₀.voteReject r ⟨b, 14, 9100⟩ = .ok p₁ ∧
        p₁.isFinished 9100 = true ∧ p₁.isAccepted 9100 = false ∧
        p₁.voteAccept r ⟨a, 15, 9200⟩ = .ok p₂ ∧ p₂.isAccepted 9200 = true :=
  ⟨_, _, _, _, rfl, rfl, rfl, rfl, rfl, rfl, rfl⟩

end GenericProposal

end RangeCore.Governance
