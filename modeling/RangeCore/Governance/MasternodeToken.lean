import RangeCore.Governance.ValidatorList

/-!
# The masternode token and the collateral it backs

`MasternodeTokenV2` of `range/contracts/src/MasternodeTokenV2.sol`, over `MasternodeTokenV1`,
holds each owner's collateral with the block of its last change. `depositCollateral` adds the
payment and `withdrawCollateral` takes an amount out and sends it to the owner; each keeps the
balance a multiple of `MN_COLLATERAL_V2_MIN` and at most `MN_COLLATERAL_MAX`, stores it, and
notifies the registry through `onCollateralUpdate`. The registry reads the balances through
`balanceInfo`: in `CollateralSystem` the two contracts run together and every call of the
registry reads the token's storage.

`onCollateralUpdate` re-announces or denounces a masternode only when `_checkStatus` reports a
collateral issue (`onCollateralUpdate_resync`). That check looks at the payouts and at the
heartbeat deadline before it compares the balance, so a masternode whose heartbeat is overdue
keeps the collateral it was announced with after its owner withdraws
(`withdraw_keeps_announced_collateral`).

## Main definitions

* `RangeCore.Governance.mnCollateralMax`, `RangeCore.Governance.validateBalance`.
* `RangeCore.Governance.MasternodeToken`, `RangeCore.Governance.CollateralSystem` with
  `depositCollateral`, `withdrawCollateral`, `exec` and `runCalls`.

## Main results

* `RangeCore.Governance.MasternodeRegistryV2.onCollateralUpdate_resync`: on a collateral issue
  the masternode is stored again with the new balance, or its slot is freed.
* `RangeCore.Governance.CollateralSystem.withdraw_keeps_announced_collateral`.
-/

namespace RangeCore.Governance

/-- `MN_COLLATERAL_MAX = 100000 ether`. -/
def mnCollateralMax : Uint := BitVec.ofNat 256 (100000 * 10 ^ 18)

/-- `MasternodeTokenV2._validateBalance`. -/
def validateBalance (amount : Uint) : Except Revert Unit := do
  if amount > mnCollateralMax then throw (.require "Too much")
  if amount % mnCollateralV2Min ≠ 0 then throw (.require "Not a multiple")

/-- `StorageMasternodeTokenV1.balances`: per owner, the amount and the block of its last
change, as `balanceInfo` returns them. -/
structure MasternodeToken where
  balances : Address → Uint × Uint

/-- The masternode token and the registry it notifies. -/
structure CollateralSystem where
  token : MasternodeToken
  registry : MasternodeRegistryV2

/-- The calls of the two contracts. -/
inductive CollateralCall where
  | depositCollateral
  | withdrawCollateral (amount : Uint)
  | registry (call : RegistryCall)

namespace CollateralSystem

variable (s : CollateralSystem) (env : RegistryEnv)

/-- What a call of the registry reads: its `balanceInfo` is the token's storage. -/
def registryEnv : RegistryEnv := { env with balanceInfo := s.token.balances }

/-- `depositCollateral` by the caller: the payment is added, and the registry notified with no
payment of its own. -/
def depositCollateral : Except Revert CollateralSystem := do
  let tokenOwner := env.caller
  let balance := (s.token.balances tokenOwner).1 + env.msgValue
  validateBalance balance
  let token : MasternodeToken :=
    ⟨Function.update s.token.balances tokenOwner (balance, env.blockNumber)⟩
  let registry ← s.registry.onCollateralUpdate
    { env with balanceInfo := token.balances, msgValue := 0 } tokenOwner
  pure ⟨token, registry⟩

/-- `withdrawCollateral(_amount)` by the caller: the amount is taken out, the registry notified,
and the amount sent to the owner, whose refusal reverts the call. -/
def withdrawCollateral (amount : Uint) : Except Revert CollateralSystem := do
  require (env.msgValue = 0) ""
  let tokenOwner := env.caller
  let balance := (s.token.balances tokenOwner).1
  if balance < amount then throw (.require "Not enough")
  let balance := balance - amount
  validateBalance balance
  let token : MasternodeToken :=
    ⟨Function.update s.token.balances tokenOwner (balance, env.blockNumber)⟩
  let registry ← s.registry.onCollateralUpdate { env with balanceInfo := token.balances } tokenOwner
  require (env.accepts tokenOwner = true) ""
  pure ⟨token, registry⟩

/-- A call of either contract. -/
def exec : CollateralCall → Except Revert CollateralSystem
  | .depositCollateral => s.depositCollateral env
  | .withdrawCollateral amount => s.withdrawCollateral env amount
  | .registry call => (s.registry.exec (s.registryEnv env) call).map fun registry => { s with registry }

/-- The state after a call: its result, or the old state if it reverted. -/
def commit (call : CollateralCall) : CollateralSystem :=
  match s.exec env call with
  | .ok s' => s'
  | .error _ => s

/-- The state after the calls, in order, each with its environment. -/
def runCalls (calls : List (RegistryEnv × CollateralCall)) : CollateralSystem :=
  StateMachine.run (fun s c => s.commit c.1 c.2) s calls

end CollateralSystem

/-- The two contracts deployed: the registry's constructor, and a token with no balances. -/
def CollateralSystem.new (config : RegistryConfig) (env : RegistryEnv) :
    Except Revert CollateralSystem :=
  (MasternodeRegistryV2.new config env).map fun registry => ⟨⟨fun _ => (0, 0)⟩, registry⟩

/-! ### The registry's callback -/

namespace MasternodeRegistryV2

/-- `onCollateralUpdate` on a collateral issue of the owner's masternode: with at least the
minimum left it is stored again under its owner with the new balance as collateral; below it,
its slot is freed. -/
theorem onCollateralUpdate_resync {r r' : MasternodeRegistryV2} {env : RegistryEnv}
    {owner m : Address} (hm : r.v1storage.ownerMasternodes owner = m) (hm0 : m ≠ 0)
    (hissue : checkStatus env.timestamp (r.mnStatus m) (r.v1storage.masternodes m)
      (env.balanceInfo owner).1 (env.balanceInfo owner).2 = .mnCollaterIssue)
    (hd : r.onCollateralUpdate env owner = .ok r') :
    (mnCollateralV2Min ≤ (env.balanceInfo owner).1 →
      (r'.v1storage.masternodes m).collateral = (env.balanceInfo owner).1 ∧
        (r'.v1storage.masternodes m).owner = owner) ∧
    ((env.balanceInfo owner).1 < mnCollateralV2Min → (r'.v1storage.masternodes m).owner = 0) := by
  rcases hbal : env.balanceInfo owner with ⟨balance, lastBlock⟩
  rw [hbal] at hissue
  unfold onCollateralUpdate at hd
  rw [hbal] at hd
  dsimp only at hd
  rw [hm, if_neg hm0, if_pos hissue] at hd
  constructor
  · intro hmin
    rw [if_pos hmin] at hd
    obtain ⟨a, ha, rfl⟩ := onPart_eq_ok.1 hd
    obtain ⟨r₁, st, -, -, -, hst, rfl⟩ := MasternodeRegistry.announceInternal_ok ha
    obtain ⟨hslots, -⟩ := MnStorage.setMasternode_ok hst
    simp [hslots]
  · intro hlt
    have hmin : ¬balance ≥ mnCollateralV2Min := fun hge =>
      absurd (BitVec.lt_def.1 hlt) (Nat.not_lt.2 (BitVec.le_def.1 hge))
    rw [if_neg hmin] at hd
    obtain ⟨a, ha, rfl⟩ := onPart_eq_ok.1 hd
    rcases MasternodeRegistry.denounceInternal_ok ha with ⟨h0, rfl⟩ | ⟨-, -, r₁, r₂, -, -, -, rfl⟩
    · exact h0
    · simp [MnStorage.deleteMasternode, MnInfo.zero]

end MasternodeRegistryV2

/-! ### A withdrawal after a missed heartbeat -/

namespace CollateralSystem

/-- A withdrawal leaves the registry counting collateral that is no longer locked. An owner
deposits `2 * MN_COLLATERAL_V2_MIN` and announces a masternode; more than
`MN_HEARTBEAT_INTERVAL_MAX` after the heartbeat it was due, the owner withdraws half. The token
stores the new balance and calls `onCollateralUpdate`, whose `_checkStatus` reports the overdue
heartbeat before it compares the balance, so nothing is re-announced: the masternode is still
the owner's, with its old collateral in its slot, in `mn_announced_collateral` and in the
collateral `ownerInfo` reports as voting weight. -/
theorem withdraw_keeps_announced_collateral :
    let owner : Address := 0xA11CE#160
    let masternode : Address := 0xBEEF#160
    let env : Uint → Uint → Uint → RegistryEnv := fun blockNumber timestamp msgValue =>
      { caller := owner, blockNumber, timestamp, msgValue, balanceInfo := fun _ => (0, 0)
        blockhash := fun _ => 0, gas := 0, accepts := fun _ => true
        treasuryReward := fun _ => .ok () }
    ∃ s₀ s',
      CollateralSystem.new ⟨5, 3, 86400, mnCollateralV2Min, 1⟩ (env 1 0 0) = .ok s₀ ∧
      (s₀.runCalls [(env 10 100 (2 * mnCollateralV2Min), .depositCollateral),
          (env 11 1000 0, .registry (.announce masternode 0x01020304 (0, 0)))]).exec
        (env 20 8201 0) (.withdrawCollateral mnCollateralV2Min) = .ok s' ∧
      (s'.token.balances owner).1 = mnCollateralV2Min ∧
      s'.registry.v1storage.ownerMasternodes owner = masternode ∧
      (s'.registry.v1storage.masternodes masternode).collateral = 2 * mnCollateralV2Min ∧
      s'.registry.mnAnnouncedCollateral = 2 * mnCollateralV2Min ∧
      ∃ info, s'.registry.ownerInfo owner = .ok info ∧ info.2.2.2.1 = 2 * mnCollateralV2Min :=
  ⟨_, _, rfl, rfl, rfl, rfl, rfl, rfl, _, rfl, rfl⟩

end CollateralSystem

end RangeCore.Governance
