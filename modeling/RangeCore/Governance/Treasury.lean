import RangeCore.Governance.Proposal
import RangeCore.Lib.Prorate
import RangeCore.Lib.Run
import RangeCore.Lib.ExceptBind

/-!
# The treasury and its budget proposals

`TreasuryV1` of `range/contracts/src/TreasuryV1.sol` with the `BudgetProposalV1` contracts it
creates. `propose` takes a fee, a unique `ref_uuid` and an amount, and puts a new budget proposal
into the first free one of `BUDGET_PROPOSAL_MAX` slots. Every block `reward` runs two loops over
the slots. `_reward_status` asks each proposal for its `budgetStatus`: a fulfilled accepted
proposal destroys itself, a finished proposal that was not accepted gives its fee to the treasury
through `collect`, and both free their slot; the accepted ones still owed something are listed
with what is unpaid. `_reward_distribute` then pays each of them the same per-mille share of what
it is owed, the share the balance allows (`Prorate.scale`).

The proposals are contracts of their own, reached by address. The model keeps them in the
treasury's state, by address, and numbers the addresses of `new` in creation order from 1, the
zero address being an empty slot; a destroyed proposal has no code. A ghost log records the
events `BudgetProposal` and `Payout` and the calls `destroy` and `collect`.

## Main definitions

* `RangeCore.Governance.BudgetProposal`, `distributePayout`, `budgetStatus`.
* `RangeCore.Governance.Treasury`, `Treasury.new`, `propose`, `rewardStatus`,
  `rewardDistribute`, `reward`, and the calls of a run: `TreasuryCall`, `Treasury.exec`,
  `Treasury.runCalls`.
-/

namespace RangeCore.Governance

/-- `FEE_BUDGET_V1`: 100 ether. -/
def feeBudgetV1 : Uint := BitVec.ofNat 256 (100 * 10 ^ 18)

/-- `BUDGET_AMOUNT_MIN`. -/
def budgetAmountMin : Uint := feeBudgetV1

/-- `BUDGET_AMOUNT_MAX`: `REWARD_TREASURY_V1`, 184000 ether. -/
def budgetAmountMax : Uint := BitVec.ofNat 256 (184000 * 10 ^ 18)

/-- `PERIOD_BUDGET_MIN`: two weeks. -/
def periodBudgetMin : Uint := 1209600

/-- `PERIOD_BUDGET_MAX`: 30 days. -/
def periodBudgetMax : Uint := 2592000

/-- `BUDGET_PROPOSAL_MAX`: the number of proposal slots. -/
def budgetProposalMax : ℕ := 100

/-- The storage of a `BudgetProposalV1`. -/
structure BudgetProposal extends GenericProposal where
  paidAmount : Uint
  proposedAmount : Uint
  refUuid : Uint

namespace BudgetProposal

/-- The constructor: a generic proposal with quorum 7 whose fee payer is the payout address. -/
def new (registry : MasternodeRegistryV2) (env : CallEnv) (payoutAddress : Address)
    (refUuid proposedAmount period : Uint) : Except Revert BudgetProposal := do
  let p ← GenericProposal.new registry env 7 period payoutAddress
  pure { toGenericProposal := p, paidAmount := 0, proposedAmount, refUuid }

variable (b : BudgetProposal)

/-- `distributePayout`: anyone may pay, the sum paid staying within the proposed amount. -/
def distributePayout (value : Uint) : Except Revert BudgetProposal := do
  let paidAmount := b.paidAmount + value
  if ¬paidAmount ≤ b.proposedAmount then throw .assert
  pure { b with paidAmount, balance := b.balance + value }

/-- `budgetStatus`: the uuid, `isAccepted`, `isFinished` and what is unpaid. -/
def budgetStatus (timestamp : Uint) : Except Revert (Uint × Bool × Bool × Uint) := do
  if ¬b.paidAmount ≤ b.proposedAmount then throw .assert
  pure (b.refUuid, b.isAccepted timestamp, b.isFinished timestamp,
    b.proposedAmount - b.paidAmount)

variable {b b' : BudgetProposal}

theorem parent_new {registry : MasternodeRegistryV2} {env : CallEnv} {payoutAddress : Address}
    {refUuid proposedAmount period : Uint}
    (h : BudgetProposal.new registry env payoutAddress refUuid proposedAmount period = .ok b) :
    b.parent = env.caller ∧ b.paidAmount = 0 ∧ b.proposedAmount = proposedAmount := by
  unfold BudgetProposal.new at h
  obtain ⟨p, hp, h⟩ := Except.bind_eq_ok_iff.1 h
  cases h
  exact ⟨GenericProposal.parent_new hp, rfl, rfl⟩

theorem refUuid_new {registry : MasternodeRegistryV2} {env : CallEnv} {payoutAddress : Address}
    {refUuid proposedAmount period : Uint}
    (h : BudgetProposal.new registry env payoutAddress refUuid proposedAmount period = .ok b) :
    b.refUuid = refUuid := by
  unfold BudgetProposal.new at h
  obtain ⟨p, -, h⟩ := Except.bind_eq_ok_iff.1 h
  cases h
  rfl

/-- A successful payout stays within the proposed amount. -/
theorem distributePayout_ok {value : Uint} (h : b.distributePayout value = .ok b') :
    b.paidAmount + value ≤ b.proposedAmount ∧
      b' = { b with paidAmount := b.paidAmount + value, balance := b.balance + value } := by
  unfold distributePayout at h
  obtain ⟨hle, h⟩ := Except.ite_throw_bind_eq_ok_iff.1 h
  cases h
  exact ⟨not_not.1 hle, rfl⟩

theorem distributePayout_eq {value : Uint} (h : b.paidAmount + value ≤ b.proposedAmount) :
    b.distributePayout value =
      .ok { b with paidAmount := b.paidAmount + value, balance := b.balance + value } := by
  unfold distributePayout
  rw [if_neg (not_not.2 h)]
  rfl

theorem budgetStatus_eq {timestamp : Uint} (h : b.paidAmount ≤ b.proposedAmount) :
    b.budgetStatus timestamp = .ok (b.refUuid, b.isAccepted timestamp, b.isFinished timestamp,
      b.proposedAmount - b.paidAmount) := by
  unfold budgetStatus
  rw [if_neg (not_not.2 h)]
  rfl

end BudgetProposal

/-- What the treasury logs: its events `BudgetProposal` and `Payout`, and its calls `destroy` and
`collect` to proposals. -/
inductive TreasuryEvent where
  | budgetProposal (refUuid : Uint) (proposal : ℕ) (payoutAddress : Address)
      (amount deadline : Uint)
  | payout (refUuid : Uint) (proposal : ℕ) (amount : Uint)
  | destroyed (proposal : ℕ)
  | collected (proposal : ℕ)
  deriving DecidableEq

namespace TreasuryEvent

/-- The uuid a `propose` took. -/
def proposedUuid : TreasuryEvent → Option Uint
  | budgetProposal refUuid .. => some refUuid
  | _ => none

/-- The proposal a call `destroy` or `collect` took out of its slot. -/
def removed : TreasuryEvent → Option ℕ
  | destroyed proposal | collected proposal => some proposal
  | _ => none

variable {refUuid amount deadline : Uint} {proposal : ℕ} {payoutAddress : Address}

@[simp] theorem proposedUuid_budgetProposal :
    (budgetProposal refUuid proposal payoutAddress amount deadline).proposedUuid = some refUuid :=
  rfl

@[simp] theorem proposedUuid_payout : (payout refUuid proposal amount).proposedUuid = none := rfl

@[simp] theorem proposedUuid_destroyed : (destroyed proposal).proposedUuid = none := rfl

@[simp] theorem proposedUuid_collected : (collected proposal).proposedUuid = none := rfl

@[simp] theorem removed_budgetProposal :
    (budgetProposal refUuid proposal payoutAddress amount deadline).removed = none :=
  rfl

@[simp] theorem removed_payout : (payout refUuid proposal amount).removed = none := rfl

@[simp] theorem removed_destroyed : (destroyed proposal).removed = some proposal := rfl

@[simp] theorem removed_collected : (collected proposal).removed = some proposal := rfl

end TreasuryEvent

/-- `TreasuryV1` with its proposals. -/
structure Treasury where
  /-- The treasury's own address, the `parent` of its proposals. -/
  address : Address
  superblockCycle : Uint
  /-- `StorageTreasuryV1.uuid_proposal`. -/
  uuidProposal : Uint → ℕ
  /-- `StorageTreasuryV1.proposal_uuid`. -/
  proposalUuid : ℕ → Uint
  activeProposals : Fin budgetProposalMax → ℕ
  /-- The budget proposals by address; `none` where there is no code. -/
  proposals : ℕ → Option BudgetProposal
  /-- The address of the next proposal `new` creates. -/
  nextProposal : ℕ
  balance : Uint
  log : List TreasuryEvent

/-- An entry of the memory array `accepted` of `reward`. -/
structure AcceptedProposal where
  proposal : ℕ
  refUuid : Uint
  unpaid : Uint

namespace Treasury

/-- The constructor. -/
def new (address : Address) (superblockCycle : Uint) : Except Revert Treasury := do
  if ¬superblockCycle > 0 then throw .assert
  pure
    { address, superblockCycle
      uuidProposal := fun _ => 0
      proposalUuid := fun _ => 0
      activeProposals := fun _ => 0
      proposals := fun _ => none
      nextProposal := 1
      balance := 0
      log := [] }

variable (t : Treasury)

/-- The uuids taken by `propose`, oldest first. -/
def proposedUuids : List Uint := t.log.filterMap TreasuryEvent.proposedUuid

/-- The proposals taken out of their slots, oldest first. -/
def removals : List ℕ := t.log.filterMap TreasuryEvent.removed

/-- The first free slot, the one the loop of `propose` stops at. -/
def firstFreeSlot : Option (Fin budgetProposalMax) :=
  (List.finRange budgetProposalMax).find? (t.activeProposals · = 0)

/-- `propose`. The fee passes through the treasury to the new proposal's `setFee`. -/
def propose (registry : MasternodeRegistryV2) (env : CallEnv)
    (value amount refUuid period : Uint) : Except Revert Treasury := do
  require (value = feeBudgetV1) "Invalid fee"
  require (amount ≥ budgetAmountMin) "Too small amount"
  require (amount ≤ budgetAmountMax) "Too large amount"
  require (period ≥ periodBudgetMin) "Too small period"
  require (period ≤ periodBudgetMax) "Too large period"
  let payoutAddress := env.caller
  require (t.uuidProposal refUuid = 0) "UUID in use"
  match t.firstFreeSlot with
  | none => throw (.require "Too many active proposals")
  | some i =>
    let proposal := t.nextProposal
    let b ← BudgetProposal.new registry { env with caller := t.address } payoutAddress refUuid
      amount period
    let p ← b.setFee t.address value
    pure
      { t with
        activeProposals := Function.update t.activeProposals i proposal
        proposals := Function.update t.proposals proposal (some { b with toGenericProposal := p })
        nextProposal := proposal + 1
        uuidProposal := Function.update t.uuidProposal refUuid proposal
        proposalUuid := Function.update t.proposalUuid proposal refUuid
        log := t.log ++ [.budgetProposal refUuid proposal payoutAddress amount p.deadline] }

/-- `delete active_proposals[i]`. -/
def clearSlot (i : Fin budgetProposalMax) : Treasury :=
  { t with activeProposals := Function.update t.activeProposals i 0 }

/-- `proposal.destroy()` on a fulfilled proposal: its code and balance go. -/
def destroyProposal (proposal : ℕ) (b : BudgetProposal) : Except Revert Treasury := do
  b.destroy t.address
  pure { t with
    proposals := Function.update t.proposals proposal none
    log := t.log ++ [.destroyed proposal] }

/-- `proposal.collect()` on a rejected proposal: its balance comes to the treasury through
`contribute`. -/
def collectProposal (proposal : ℕ) (b : BudgetProposal) (timestamp : Uint) :
    Except Revert Treasury := do
  let (p, amount) ← b.collect t.address timestamp
  pure { t with
    proposals := Function.update t.proposals proposal (some { b with toGenericProposal := p })
    balance := t.balance + amount
    log := t.log ++ [.collected proposal] }

variable {t t' : Treasury}

theorem activeProposals_firstFreeSlot {i : Fin budgetProposalMax}
    (h : t.firstFreeSlot = some i) : t.activeProposals i = 0 := by
  simpa using List.find?_some h

/-- A successful `propose`: the amount is within `BUDGET_AMOUNT_MAX`, the uuid was free, and the
new proposal, with the treasury as parent and nothing paid, is at the next address in a slot that
was free. -/
theorem propose_ok {registry : MasternodeRegistryV2} {env : CallEnv}
    {value amount refUuid period : Uint}
    (h : t.propose registry env value amount refUuid period = .ok t') :
    amount ≤ budgetAmountMax ∧ t.uuidProposal refUuid = 0 ∧
      ∃ i b deadline, t.activeProposals i = 0 ∧ b.parent = t.address ∧ b.paidAmount = 0 ∧
        b.proposedAmount = amount ∧
        t' = { t with
          activeProposals := Function.update t.activeProposals i t.nextProposal
          proposals := Function.update t.proposals t.nextProposal (some b)
          nextProposal := t.nextProposal + 1
          uuidProposal := Function.update t.uuidProposal refUuid t.nextProposal
          proposalUuid := Function.update t.proposalUuid t.nextProposal refUuid
          log := t.log ++ [.budgetProposal refUuid t.nextProposal env.caller amount deadline] } := by
  unfold propose at h
  obtain ⟨⟨⟩, -, h⟩ := Except.bind_eq_ok_iff.1 h
  obtain ⟨⟨⟩, -, h⟩ := Except.bind_eq_ok_iff.1 h
  obtain ⟨⟨⟩, hmax, h⟩ := Except.bind_eq_ok_iff.1 h
  obtain ⟨⟨⟩, -, h⟩ := Except.bind_eq_ok_iff.1 h
  obtain ⟨⟨⟩, -, h⟩ := Except.bind_eq_ok_iff.1 h
  obtain ⟨⟨⟩, huuid, h⟩ := Except.bind_eq_ok_iff.1 h
  split at h
  · exact nomatch h
  · rename_i i hi
    obtain ⟨b, hb, h⟩ := Except.bind_eq_ok_iff.1 h
    obtain ⟨p, hp, h⟩ := Except.bind_eq_ok_iff.1 h
    cases h
    obtain ⟨hparent, hpaid, hamount⟩ := BudgetProposal.parent_new hb
    refine ⟨require_eq_ok.1 hmax, require_eq_ok.1 huuid, i, { b with toGenericProposal := p }, _,
      activeProposals_firstFreeSlot hi, ?_, hpaid, hamount, rfl⟩
    exact (GenericProposal.parent_setFee hp).trans hparent

/-- The proposal `propose` creates, at the next address, keeps the uuid it was given. -/
theorem propose_refUuid {registry : MasternodeRegistryV2} {env : CallEnv}
    {value amount refUuid period : Uint}
    (h : t.propose registry env value amount refUuid period = .ok t') :
    ∃ b, t'.proposals t.nextProposal = some b ∧ b.refUuid = refUuid := by
  unfold propose at h
  -- past the six `require`s
  repeat obtain ⟨⟨⟩, -, h⟩ := Except.bind_eq_ok_iff.1 h
  split at h
  · cases h
  · obtain ⟨b, hb, h⟩ := Except.bind_eq_ok_iff.1 h
    obtain ⟨p, -, h⟩ := Except.bind_eq_ok_iff.1 h
    cases h
    exact ⟨_, Function.update_self .., (BudgetProposal.refUuid_new hb :)⟩

theorem destroyProposal_eq {proposal : ℕ} {b : BudgetProposal} (h : b.parent = t.address) :
    t.destroyProposal proposal b =
      .ok { t with
        proposals := Function.update t.proposals proposal none
        log := t.log ++ [.destroyed proposal] } := by
  simp [destroyProposal, GenericProposal.destroy, h]
  rfl

theorem collectProposal_eq {proposal : ℕ} {b : BudgetProposal} {timestamp : Uint}
    (h : b.parent = t.address) (hfin : b.isFinished timestamp = true)
    (hacc : b.isAccepted timestamp = false) :
    t.collectProposal proposal b timestamp =
      .ok { t with
        proposals := Function.update t.proposals proposal (some { b with balance := 0 })
        balance := t.balance + b.balance
        log := t.log ++ [.collected proposal] } := by
  simp [collectProposal, GenericProposal.collect, h, hfin, hacc]
  rfl

end Treasury

/-- One turn of the loop of `_reward_status`, on slot `i`, with the treasury, the accepted
proposals listed so far and their unpaid total. -/
def rewardStatusSlot (timestamp : Uint) :
    Treasury × List AcceptedProposal × Uint → Fin budgetProposalMax →
      Except Revert (Treasury × List AcceptedProposal × Uint)
  | (t, accepted, unpaidTotal), i =>
    let proposal := t.activeProposals i
    if proposal = 0 then .ok (t, accepted, unpaidTotal)
    else
      match t.proposals proposal with
      -- a call to an address without code reverts
      | none => .error (.require "")
      | some b => do
        let (refUuid, isAccepted, isFinished, unpaid) ← b.budgetStatus timestamp
        if isAccepted then
          if unpaid > 0 then
            pure (t, accepted ++ [⟨proposal, refUuid, unpaid⟩], unpaidTotal + unpaid)
          else
            -- fulfilled
            let t ← t.destroyProposal proposal b
            pure (t.clearSlot i, accepted, unpaidTotal)
        else if isFinished then
          -- rejected
          let t ← t.collectProposal proposal b timestamp
          pure (t.clearSlot i, accepted, unpaidTotal)
        else pure (t, accepted, unpaidTotal)

/-- `payoutAmount`: the share of what is unpaid at a per-mille rate. -/
def payoutAmount (permille : Uint) (a : AcceptedProposal) : Uint := a.unpaid * permille / 1000

/-- One turn of the loop of `_reward_distribute`: the share is sent with `distributePayout`. -/
def rewardDistributeOne (permille : Uint) (t : Treasury) (a : AcceptedProposal) :
    Except Revert Treasury := do
  let amount := payoutAmount permille a
  if ¬amount ≤ a.unpaid then throw .assert
  -- a call whose value the balance does not cover fails, and so does one to no code
  if t.balance < amount then throw (.require "")
  match t.proposals a.proposal with
  | none => throw (.require "")
  | some b =>
    let b ← b.distributePayout amount
    pure { t with
      proposals := Function.update t.proposals a.proposal (some b)
      balance := t.balance - amount
      log := t.log ++ [.payout a.refUuid a.proposal amount] }

section
variable {t t' : Treasury} {permille : Uint} {a : AcceptedProposal}

/-- A successful payout: the share is within what is unpaid and the balance, and the proposal's
`distributePayout` took it. -/
theorem rewardDistributeOne_ok (h : rewardDistributeOne permille t a = .ok t') :
    payoutAmount permille a ≤ t.balance ∧
      ∃ b b', t.proposals a.proposal = some b ∧
        b.distributePayout (payoutAmount permille a) = .ok b' ∧
        t' = { t with
          proposals := Function.update t.proposals a.proposal (some b')
          balance := t.balance - payoutAmount permille a
          log := t.log ++ [.payout a.refUuid a.proposal (payoutAmount permille a)] } := by
  unfold rewardDistributeOne at h
  obtain ⟨-, h⟩ := Except.ite_throw_bind_eq_ok_iff.1 h
  obtain ⟨hbal, h⟩ := Except.ite_throw_bind_eq_ok_iff.1 h
  split at h
  · exact nomatch h
  · rename_i b hb
    obtain ⟨b', hb', h⟩ := Except.bind_eq_ok_iff.1 h
    cases h
    exact ⟨BitVec.not_lt.1 hbal, b, b', hb, hb', rfl⟩

theorem rewardDistributeOne_eq {b : BudgetProposal} (hle : payoutAmount permille a ≤ a.unpaid)
    (hbal : payoutAmount permille a ≤ t.balance) (hb : t.proposals a.proposal = some b)
    (hpaid : b.paidAmount + payoutAmount permille a ≤ b.proposedAmount) :
    rewardDistributeOne permille t a =
      .ok { t with
        proposals := Function.update t.proposals a.proposal
          (some { b with
            paidAmount := b.paidAmount + payoutAmount permille a
            balance := b.balance + payoutAmount permille a })
        balance := t.balance - payoutAmount permille a
        log := t.log ++ [.payout a.refUuid a.proposal (payoutAmount permille a)] } := by
  unfold rewardDistributeOne
  rw [if_neg (not_not.2 hle), if_neg (BitVec.not_lt.2 hbal)]
  simp only [hb, BudgetProposal.distributePayout_eq hpaid]
  rfl

end

/-- The per-mille rate `reward` pays at: all of it when the balance covers the unpaid total. -/
def rewardPermille (currBalance unpaidTotal : Uint) : Uint :=
  if unpaidTotal > currBalance then currBalance * 1000 / unpaidTotal else 1000

namespace Treasury

variable (t : Treasury)

/-- `_reward_status`. -/
def rewardStatus (timestamp : Uint) : Except Revert (Treasury × List AcceptedProposal × Uint) :=
  (List.finRange budgetProposalMax).foldlM (rewardStatusSlot timestamp) (t, [], 0)

/-- `_reward_distribute`. -/
def rewardDistribute (permille : Uint) (accepted : List AcceptedProposal) :
    Except Revert Treasury :=
  accepted.foldlM (rewardDistributeOne permille) t

/-- `reward`, with the value the call brings. -/
def reward (env : CallEnv) (value : Uint) : Except Revert Treasury := do
  let t : Treasury := { t with balance := t.balance + value }
  let (t, accepted, unpaidTotal) ← t.rewardStatus env.timestamp
  let currBalance := t.balance
  if currBalance > 0 ∧ unpaidTotal > 0 then
    t.rewardDistribute (rewardPermille currBalance unpaidTotal) accepted
  else pure t

/-- A call to the proposal at an address. A call to an address without code does nothing. -/
def onProposal (proposal : ℕ) (f : BudgetProposal → Except Revert BudgetProposal) :
    Except Revert Treasury :=
  match t.proposals proposal with
  | none => .ok t
  | some b => do
    let b ← f b
    pure { t with proposals := Function.update t.proposals proposal (some b) }

end Treasury

/-- The calls of a run: those of the treasury, with the value they bring and the registry they
read, and those anyone makes to a proposal. -/
inductive TreasuryCall where
  | propose (registry : MasternodeRegistryV2) (value amount refUuid period : Uint)
  | reward (value : Uint)
  | contribute (value : Uint)
  | voteAccept (proposal : ℕ) (registry : MasternodeRegistryV2)
  | voteReject (proposal : ℕ) (registry : MasternodeRegistryV2)
  | withdraw (proposal : ℕ)
  | distributePayout (proposal : ℕ) (value : Uint)

namespace Treasury

variable (t : Treasury) (env : CallEnv)

/-- A call. -/
def exec : TreasuryCall → Except Revert Treasury
  | .propose registry value amount refUuid period =>
    t.propose registry env value amount refUuid period
  | .reward value => t.reward env value
  | .contribute value => .ok { t with balance := t.balance + value }
  | .voteAccept proposal registry =>
    t.onProposal proposal fun b => do
      let p ← b.voteAccept registry env
      pure { b with toGenericProposal := p }
  | .voteReject proposal registry =>
    t.onProposal proposal fun b => do
      let p ← b.voteReject registry env
      pure { b with toGenericProposal := p }
  | .withdraw proposal =>
    t.onProposal proposal fun b => do
      let p ← b.withdraw env.timestamp
      pure { b with toGenericProposal := p }
  | .distributePayout proposal value => t.onProposal proposal (·.distributePayout value)

/-- The state after a call: its result, or the old state if it reverted. -/
def commit (call : TreasuryCall) : Treasury :=
  match t.exec env call with
  | .ok t' => t'
  | .error _ => t

/-- The state after the calls, in order, each with its environment. -/
def runCalls (calls : List (CallEnv × TreasuryCall)) : Treasury :=
  StateMachine.run (fun t c => t.commit c.1 c.2) t calls

end Treasury

end RangeCore.Governance
