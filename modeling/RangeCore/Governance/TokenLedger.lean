import Mathlib
import RangeCore.Governance.MasternodeToken
import RangeCore.Governance.RegistryV1

/-!
# The accounts of the masternode token

`MasternodeTokenV2` holds the collateral of the masternode owners in ether: `depositCollateral`
is payable and stores the payment on top of the owner's balance, `withdrawCollateral` sends the
amount back, and `totalSupply()` is the contract's own ether, `address(this).balance`. Ether may
also arrive without a call of the token, by a `selfdestruct` or as a block's coinbase, which no
code of the token can refuse; the ledger counts it apart (`TokenLedger.forced`).

Every stored balance is one that `_validateBalance` accepts, a multiple of
`MN_COLLATERAL_V2_MIN` of at most `MN_COLLATERAL_MAX` (`BalanceOk`): a call that would store
another reverts, and the balances that V2 takes over from V1's storage are such balances
(`BalanceOk.of_validateBalanceV1`). A withdrawal pays out at most the caller's balance
(`withdrawCollateral_ok`).

The token's ether is the sum of the balances and of the forced ether as long as no deposit
wraps the owner's balance: `balance += msg.value` is unchecked 256-bit arithmetic in Solidity
0.5, so a payment that takes the sum past `2^256` stores the wrapped balance while the token
keeps the whole payment (`token_accounting_wraps`). Payments below `2^256 - MN_COLLATERAL_MAX`
cannot wrap (`token_accounting`), and every payment a caller can make is one, since all the ether
in existence is far below that bound.

## Main definitions

* `RangeCore.Governance.BalanceOk`, `RangeCore.Governance.totalBalance`.
* `RangeCore.Governance.TokenLedger` with `step` and `run`,
  `RangeCore.Governance.TokenLedger.LedgerInv`.

## Main results

* `RangeCore.Governance.CollateralSystem.depositCollateral_ok`,
  `RangeCore.Governance.CollateralSystem.withdrawCollateral_ok`.
* `RangeCore.Governance.CollateralSystem.balancesOk_runCalls`: the balances stay valid over
  every run.
* `RangeCore.Governance.TokenLedger.sys_run`: the ledger runs the token and the registry as
  `runCalls` does.
* `RangeCore.Governance.TokenLedger.token_accounting`.
* `RangeCore.Governance.TokenLedger.token_accounting_wraps`.
-/

namespace RangeCore.Governance

/-- `MasternodeTokenV1._validateBalance`, whose multiples are of `MN_COLLATERAL_MIN`. -/
def validateBalanceV1 (amount : Uint) : Except Revert Unit := do
  if amount > mnCollateralMax then throw (.require "Too much")
  if amount % mnCollateralMin ≠ 0 then throw (.require "Not a multiple")

/-- A balance that `MasternodeTokenV2._validateBalance` accepts. -/
def BalanceOk (b : Uint) : Prop := b ≤ mnCollateralMax ∧ b % mnCollateralV2Min = 0

theorem validateBalance_eq_ok {b : Uint} : validateBalance b = .ok () ↔ BalanceOk b := by
  unfold validateBalance BalanceOk
  by_cases hmax : b > mnCollateralMax
  · simp [hmax, BitVec.not_le.2 hmax]
  · by_cases hmul : b % mnCollateralV2Min = 0 <;>
      simp [hmax, hmul, BitVec.not_lt.1 hmax, Except.pure_eq_ok]

/-- A multiple of `MN_COLLATERAL_MIN` is one of `MN_COLLATERAL_V2_MIN`: the balances V1 stored
are valid for V2, which takes over V1's storage. -/
theorem BalanceOk.of_validateBalanceV1 {b : Uint} (h : validateBalanceV1 b = .ok ()) :
    BalanceOk b := by
  unfold validateBalanceV1 at h
  by_cases hmax : b > mnCollateralMax
  · simp [hmax] at h
  rw [if_neg hmax] at h
  by_cases hmul : b % mnCollateralMin = 0
  swap
  · rw [if_pos hmul] at h
    simp at h
  refine ⟨BitVec.not_lt.1 hmax, ?_⟩
  -- `MN_COLLATERAL_MIN` is ten times `MN_COLLATERAL_V2_MIN`
  have hmin : mnCollateralMin.toNat = 10 * mnCollateralV2Min.toNat := by
    simp [mnCollateralMin, mnCollateralV2Min]
  rw [← BitVec.toNat_inj, BitVec.toNat_umod] at hmul ⊢
  rw [hmin] at hmul
  simpa using Nat.mod_eq_zero_of_dvd (dvd_trans (Dvd.intro_left 10 rfl)
    (Nat.dvd_of_mod_eq_zero hmul))

/-- The sum of the stored balances. -/
def totalBalance (t : MasternodeToken) : ℕ := ∑ a : Address, (t.balances a).1.toNat

/-- Storing one balance changes the sum by the difference. -/
theorem totalBalance_update {t t' : MasternodeToken} {a : Address} {v n : Uint}
    (h : t'.balances = Function.update t.balances a (v, n)) :
    totalBalance t' + (t.balances a).1.toNat = totalBalance t + v.toNat := by
  have hcomp : (fun x => (t'.balances x).1.toNat) =
      Function.update (fun x => (t.balances x).1.toNat) a v.toNat := by
    funext x
    rw [h]
    by_cases hx : x = a
    · subst hx
      simp
    · simp [hx]
  unfold totalBalance
  rw [hcomp, Finset.sum_update_of_mem (Finset.mem_univ a), Finset.sdiff_singleton_eq_erase,
    ← Finset.add_sum_erase _ _ (Finset.mem_univ a)]
  omega

theorem totalBalance_eq_zero {t : MasternodeToken} (h : ∀ a, (t.balances a).1 = 0) :
    totalBalance t = 0 :=
  Finset.sum_eq_zero fun a _ => by simp [h a]

theorem balance_le_totalBalance (t : MasternodeToken) (a : Address) :
    (t.balances a).1.toNat ≤ totalBalance t :=
  Finset.single_le_sum (f := fun x => (t.balances x).1.toNat) (fun _ _ => Nat.zero_le _)
    (Finset.mem_univ a)

namespace CollateralSystem

variable {s s' : CollateralSystem} {env : RegistryEnv}

/-- A deposit that does not revert stores the payment on top of the caller's balance, a sum
that `_validateBalance` accepts. -/
theorem depositCollateral_ok (h : s.depositCollateral env = .ok s') :
    BalanceOk ((s.token.balances env.caller).1 + env.msgValue) ∧
      s'.token.balances = Function.update s.token.balances env.caller
        ((s.token.balances env.caller).1 + env.msgValue, env.blockNumber) := by
  unfold depositCollateral at h
  obtain ⟨⟨⟩, hval, h⟩ := Except.bind_eq_ok_iff.1 h
  obtain ⟨r, -, h⟩ := Except.bind_eq_ok_iff.1 h
  cases h
  exact ⟨validateBalance_eq_ok.1 hval, rfl⟩

/-- A withdrawal that does not revert takes at most the caller's balance, leaves a balance that
`_validateBalance` accepts and stores it. -/
theorem withdrawCollateral_ok {amount : Uint} (h : s.withdrawCollateral env amount = .ok s') :
    amount ≤ (s.token.balances env.caller).1 ∧
      BalanceOk ((s.token.balances env.caller).1 - amount) ∧
      s'.token.balances = Function.update s.token.balances env.caller
        ((s.token.balances env.caller).1 - amount, env.blockNumber) := by
  unfold withdrawCollateral at h
  obtain ⟨⟨⟩, -, h⟩ := Except.bind_eq_ok_iff.1 h
  dsimp only at h
  split at h
  · simp at h
  rename_i hle
  obtain ⟨⟨⟩, hval, h⟩ := Except.bind_eq_ok_iff.1 h
  obtain ⟨r, -, h⟩ := Except.bind_eq_ok_iff.1 h
  obtain ⟨⟨⟩, -, h⟩ := Except.bind_eq_ok_iff.1 h
  cases h
  exact ⟨BitVec.not_lt.1 hle, validateBalance_eq_ok.1 hval, rfl⟩

/-- A call of the registry leaves the token's storage alone. -/
theorem exec_registry_token {call : RegistryCall} (h : s.exec env (.registry call) = .ok s') :
    s'.token = s.token := by
  simp only [exec] at h
  cases hr : s.registry.exec (s.registryEnv env) call with
  | error e =>
    rw [hr] at h
    cases h
  | ok r =>
    rw [hr] at h
    cases h
    rfl

/-- Every stored balance is one that `_validateBalance` accepts. -/
def BalancesOk (t : MasternodeToken) : Prop := ∀ a, BalanceOk (t.balances a).1

theorem BalancesOk.update {t : MasternodeToken} (h : BalancesOk t) {a : Address} {v n : Uint}
    (hv : BalanceOk v) : BalancesOk { balances := Function.update t.balances a (v, n) } := by
  intro x
  by_cases hx : x = a
  · subst hx
    simpa using hv
  · simpa [hx] using h x

/-- No call that succeeds stores a balance that `_validateBalance` rejects: a call that would
reverts. -/
theorem BalancesOk.exec {call : CollateralCall} (h : BalancesOk s.token)
    (hs : s.exec env call = .ok s') : BalancesOk s'.token := by
  cases call with
  | depositCollateral =>
    obtain ⟨hv, hbal⟩ := depositCollateral_ok hs
    intro a
    rw [hbal]
    exact h.update hv a
  | withdrawCollateral amount =>
    obtain ⟨-, hv, hbal⟩ := withdrawCollateral_ok hs
    intro a
    rw [hbal]
    exact h.update hv a
  | registry call => exact exec_registry_token hs ▸ h

/-- Over every run of the token and the registry, the stored balances stay valid. -/
theorem balancesOk_runCalls (h : BalancesOk s.token) (calls : List (RegistryEnv × CollateralCall)) :
    BalancesOk (s.runCalls calls).token := by
  unfold runCalls
  refine StateMachine.run_invariant _ (fun s : CollateralSystem => BalancesOk s.token) h
    (fun s c hs => ?_) calls
  show BalancesOk (s.commit c.1 c.2).token
  unfold commit
  split
  · exact hs.exec ‹_›
  · exact hs

/-- A deposit of an owner without a masternode, onto a balance it leaves valid: the balance is
stored and the registry returns at once. -/
theorem depositCollateral_of_no_masternode
    (hm : s.registry.v1storage.ownerMasternodes env.caller = 0)
    (hv : BalanceOk ((s.token.balances env.caller).1 + env.msgValue)) :
    s.depositCollateral env = .ok ⟨⟨Function.update s.token.balances env.caller
      ((s.token.balances env.caller).1 + env.msgValue, env.blockNumber)⟩, s.registry⟩ := by
  simp [depositCollateral, validateBalance_eq_ok.2 hv, MasternodeRegistryV2.onCollateralUpdate, hm]

/-- The system deployed: a token with no balances, and the registry's constructor. -/
theorem new_ok {config : RegistryConfig} (h : CollateralSystem.new config env = .ok s) :
    s.token = ⟨fun _ => (0, 0)⟩ ∧ MasternodeRegistryV2.new config env = .ok s.registry := by
  unfold CollateralSystem.new at h
  cases hr : MasternodeRegistryV2.new config env with
  | error e =>
    rw [hr] at h
    cases h
  | ok r =>
    rw [hr] at h
    cases h
    exact ⟨rfl, rfl⟩

end CollateralSystem

/-! ### The token's ether -/

/-- The masternode token with its ether: the token and the registry, the ether the token
contract holds (`address(this).balance`, which `totalSupply()` returns), and how much of it
arrived without a call of the token. -/
structure TokenLedger where
  sys : CollateralSystem
  ether : ℕ
  forced : ℕ

/-- What happens to the token: a call of the token or of the registry with its environment, or
ether sent to the token without a call. -/
inductive LedgerEvent where
  | call (env : RegistryEnv) (call : CollateralCall)
  | force (amount : ℕ)

/-- The call of an event, if it is one. -/
def LedgerEvent.call? : LedgerEvent → Option (RegistryEnv × CollateralCall)
  | .call env c => some (env, c)
  | .force _ => none

namespace TokenLedger

/-- The ether a call moves into the token: the payment of a deposit. -/
def etherIn (env : RegistryEnv) : CollateralCall → ℕ
  | .depositCollateral => env.msgValue.toNat
  | _ => 0

/-- The ether a call sends out of the token: the amount of a withdrawal. -/
def etherOut : CollateralCall → ℕ
  | .withdrawCollateral amount => amount.toNat
  | _ => 0

/-- One event; a call that reverts changes nothing. -/
def step (l : TokenLedger) : LedgerEvent → TokenLedger
  | .call env c =>
    match l.sys.exec env c with
    | .ok sys => ⟨sys, l.ether + etherIn env c - etherOut c, l.forced⟩
    | .error _ => l
  | .force amount => ⟨l.sys, l.ether + amount, l.forced + amount⟩

@[simp] theorem step_force (l : TokenLedger) (amount : ℕ) :
    l.step (.force amount) = ⟨l.sys, l.ether + amount, l.forced + amount⟩ := rfl

theorem step_call_ok {l : TokenLedger} {env : RegistryEnv} {c : CollateralCall}
    {sys : CollateralSystem} (h : l.sys.exec env c = .ok sys) :
    l.step (.call env c) = ⟨sys, l.ether + etherIn env c - etherOut c, l.forced⟩ := by
  simp only [step, h]

theorem step_call_error {l : TokenLedger} {env : RegistryEnv} {c : CollateralCall}
    {e : Revert} (h : l.sys.exec env c = .error e) : l.step (.call env c) = l := by
  simp only [step, h]

/-- The ledger after the events, in order. -/
def run (l : TokenLedger) (es : List LedgerEvent) : TokenLedger :=
  StateMachine.run step l es

/-- The token and the registry of a ledger run as `runCalls` of its calls. -/
theorem sys_run (l : TokenLedger) (es : List LedgerEvent) :
    (l.run es).sys = l.sys.runCalls (es.filterMap LedgerEvent.call?) := by
  induction es generalizing l with
  | nil => rfl
  | cons e es ih =>
    rw [run, StateMachine.run_cons, ← run, ih]
    cases e with
    | call env c =>
      show (l.step (.call env c)).sys.runCalls _ = (l.sys.commit env c).runCalls _
      cases hx : l.sys.exec env c with
      | ok sys => rw [step_call_ok hx, CollateralSystem.commit, hx]
      | error e => rw [step_call_error hx, CollateralSystem.commit, hx]
    | force amount => rfl

/-- The accounts of the token: the stored balances are valid, and the ether is their sum and
the forced ether. -/
structure LedgerInv (l : TokenLedger) : Prop where
  balancesOk : CollateralSystem.BalancesOk l.sys.token
  ether_eq : l.ether = totalBalance l.sys.token + l.forced

variable {l : TokenLedger}

/-- A deposit below `2^256 - MN_COLLATERAL_MAX` onto a valid balance does not wrap. -/
theorem toNat_add_of_balanceOk {b v : Uint} (hb : BalanceOk b)
    (hv : v.toNat + mnCollateralMax.toNat < 2 ^ 256) : (b + v).toNat = b.toNat + v.toNat := by
  have hle : b.toNat ≤ mnCollateralMax.toNat := BitVec.le_def.1 hb.1
  rw [BitVec.toNat_add, Nat.mod_eq_of_lt (by omega)]

/-- Every event keeps the accounts, a call paying less than `2^256 - MN_COLLATERAL_MAX`. -/
theorem LedgerInv.step (h : LedgerInv l) {e : LedgerEvent}
    (hvalue : ∀ env c, e = .call env c → env.msgValue.toNat + mnCollateralMax.toNat < 2 ^ 256) :
    LedgerInv (l.step e) := by
  cases e with
  | force amount => exact ⟨h.balancesOk, by simp [h.ether_eq]; omega⟩
  | call env c =>
    cases hs : l.sys.exec env c with
    | error e => exact (step_call_error hs).symm ▸ h
    | ok sys =>
      rw [step_call_ok hs]
      refine ⟨h.balancesOk.exec hs, ?_⟩
      have hether := h.ether_eq
      cases c with
      | depositCollateral =>
        obtain ⟨-, hbal⟩ := CollateralSystem.depositCollateral_ok hs
        have hsum := totalBalance_update hbal
        rw [toNat_add_of_balanceOk (h.balancesOk env.caller) (hvalue env _ rfl)] at hsum
        simp only [etherIn, etherOut]
        omega
      | withdrawCollateral amount =>
        obtain ⟨hle, -, hbal⟩ := CollateralSystem.withdrawCollateral_ok hs
        have hsum := totalBalance_update hbal
        rw [BitVec.toNat_sub_of_le hle] at hsum
        -- the amount is at most the caller's balance, itself at most the sum
        have hpaid := balance_le_totalBalance l.sys.token env.caller
        have hamount : amount.toNat ≤ (l.sys.token.balances env.caller).1.toNat :=
          BitVec.le_def.1 hle
        simp only [etherIn, etherOut]
        omega
      | registry call =>
        rw [CollateralSystem.exec_registry_token hs]
        simpa [etherIn, etherOut] using hether

/-- A token with no balances and no ether keeps its accounts. -/
theorem ledgerInv_new {s : CollateralSystem} (h : s.token = ⟨fun _ => (0, 0)⟩) :
    LedgerInv ⟨s, 0, 0⟩ := by
  have hzero : ∀ a, (s.token.balances a).1 = 0 := fun a => by rw [h]
  refine ⟨fun a => ?_, ?_⟩
  · rw [hzero a]
    exact ⟨BitVec.le_def.2 (Nat.zero_le _), BitVec.zero_umod⟩
  · simp [totalBalance_eq_zero hzero]

/-- Over every run whose calls pay less than `2^256 - MN_COLLATERAL_MAX`, as every payment out
of the ether supply does, the stored balances stay valid and the token's ether is their sum and
the forced ether, so that `totalSupply()` is at least the sum; a call that would store an
invalid balance reverts; and a withdrawal pays out at most the caller's balance. -/
theorem token_accounting (l : TokenLedger) (hl : LedgerInv l) (es : List LedgerEvent)
    (hvalue : ∀ env c, LedgerEvent.call env c ∈ es →
      env.msgValue.toNat + mnCollateralMax.toNat < 2 ^ 256) :
    CollateralSystem.BalancesOk (l.run es).sys.token ∧
      (l.run es).ether = totalBalance (l.run es).sys.token + (l.run es).forced ∧
      totalBalance (l.run es).sys.token ≤ (l.run es).ether ∧
      (∀ (s s' : CollateralSystem) env c, CollateralSystem.BalancesOk s.token →
        s.exec env c = .ok s' → CollateralSystem.BalancesOk s'.token) ∧
      ∀ (s s' : CollateralSystem) env amount, s.exec env (.withdrawCollateral amount) = .ok s' →
        amount ≤ (s.token.balances env.caller).1 := by
  have hrun : LedgerInv (l.run es) :=
    StateMachine.run_invariant_of_mem step LedgerInv hl
      (fun l e he hl => hl.step fun env c hc => hvalue env c (hc ▸ he))
  refine ⟨hrun.balancesOk, hrun.ether_eq, by rw [hrun.ether_eq]; omega,
    fun s s' env c h hs => h.exec hs, fun s s' env amount hs => ?_⟩
  exact (CollateralSystem.withdrawCollateral_ok hs).1

/-- A deposit of `MN_COLLATERAL_V2_MIN` into the token deployed with the registry. -/
theorem token_accounting_deposit :
    let env : Uint → Uint → RegistryEnv := fun blockNumber msgValue =>
      { caller := 0xA11CE#160, blockNumber, timestamp := 0, msgValue, balanceInfo := fun _ => (0, 0)
        blockhash := fun _ => 0, gas := 0, accepts := fun _ => true
        treasuryReward := fun _ => .ok () }
    ∃ s₀, CollateralSystem.new ⟨5, 3, 86400, mnCollateralV2Min, 1⟩ (env 1 0) = .ok s₀ ∧
      LedgerInv ⟨s₀, 0, 0⟩ ∧
      let l := (⟨s₀, 0, 0⟩ : TokenLedger).run [.call (env 10 mnCollateralV2Min) .depositCollateral]
      l.ether = totalBalance l.sys.token + l.forced := by
  intro env
  obtain ⟨s₀, hs₀⟩ : ∃ s₀, CollateralSystem.new ⟨5, 3, 86400, mnCollateralV2Min, 1⟩ (env 1 0) =
      .ok s₀ := ⟨_, rfl⟩
  have hl := ledgerInv_new (CollateralSystem.new_ok hs₀).1
  refine ⟨s₀, hs₀, hl, (token_accounting ⟨s₀, 0, 0⟩ hl _ fun e c hc => ?_).2.1⟩
  simp only [List.mem_singleton, LedgerEvent.call.injEq] at hc
  obtain ⟨rfl, -⟩ := hc
  norm_num [env, mnCollateralV2Min, mnCollateralMax]

/-- A deposit that wraps. The owner deposits `MN_COLLATERAL_V2_MIN`, then pays
`2^256 - MN_COLLATERAL_V2_MIN`: the sum `balance + msg.value` wraps to zero, which
`_validateBalance` accepts, so the owner's stored balance is zero while the token holds `2^256`
wei and no balance accounts for it. -/
theorem token_accounting_wraps :
    let owner : Address := 0xA11CE#160
    let env : Uint → Uint → RegistryEnv := fun blockNumber msgValue =>
      { caller := owner, blockNumber, timestamp := 0, msgValue, balanceInfo := fun _ => (0, 0)
        blockhash := fun _ => 0, gas := 0, accepts := fun _ => true
        treasuryReward := fun _ => .ok () }
    ∃ s₀, CollateralSystem.new ⟨5, 3, 86400, mnCollateralV2Min, 1⟩ (env 1 0) = .ok s₀ ∧
      LedgerInv ⟨s₀, 0, 0⟩ ∧
      let l := (⟨s₀, 0, 0⟩ : TokenLedger).run [.call (env 10 mnCollateralV2Min) .depositCollateral,
        .call (env 11 (0 - mnCollateralV2Min)) .depositCollateral]
      (l.sys.token.balances owner).1 = 0 ∧ l.ether = 2 ^ 256 ∧
        l.ether ≠ totalBalance l.sys.token + l.forced := by
  intro owner env
  obtain ⟨s₀, hs₀⟩ : ∃ s₀, CollateralSystem.new ⟨5, 3, 86400, mnCollateralV2Min, 1⟩ (env 1 0) =
      .ok s₀ := ⟨_, rfl⟩
  obtain ⟨htoken, hreg⟩ := CollateralSystem.new_ok hs₀
  refine ⟨s₀, hs₀, ledgerInv_new htoken, ?_⟩
  intro l
  have hmn : s₀.registry.v1storage.ownerMasternodes owner = 0 := by
    rw [MasternodeRegistryV2.new_toMasternodeRegistry hreg]
    rfl
  have hzero : ∀ a, (s₀.token.balances a).1 = 0 := fun a => by rw [htoken]
  -- the first deposit stores `MN_COLLATERAL_V2_MIN`, the second wraps it to zero
  have hmin : BalanceOk mnCollateralV2Min := ⟨by decide, by decide⟩
  have hwrap : mnCollateralV2Min + (0 - mnCollateralV2Min) = 0 := by simp
  obtain ⟨s₁, h₁, hbal₁, hreg₁⟩ : ∃ s₁, s₀.exec (env 10 mnCollateralV2Min) .depositCollateral = .ok s₁ ∧
      s₁.token.balances = Function.update s₀.token.balances owner (mnCollateralV2Min, 10) ∧
      s₁.registry = s₀.registry :=
    ⟨_, CollateralSystem.depositCollateral_of_no_masternode hmn (by simpa [hzero, env] using hmin),
      by simp [hzero, env], rfl⟩
  obtain ⟨s₂, h₂, hbal₂⟩ : ∃ s₂,
      s₁.exec (env 11 (0 - mnCollateralV2Min)) .depositCollateral = .ok s₂ ∧
      s₂.token.balances = Function.update s₁.token.balances owner (0, 11) :=
    ⟨_, CollateralSystem.depositCollateral_of_no_masternode (by rw [hreg₁]; exact hmn)
      (by simp only [hbal₁, Function.update_self, env, hwrap]; exact ⟨by decide, by decide⟩),
      by simp [hbal₁, env]⟩
  have hl : l = ⟨s₂, mnCollateralV2Min.toNat + (0 - mnCollateralV2Min).toNat, 0⟩ := by
    have hl₁ := step_call_ok (l := ⟨s₀, 0, 0⟩) h₁
    have hl₂ := step_call_ok (l := ⟨s₁, 0 + etherIn (env 10 mnCollateralV2Min) .depositCollateral -
      etherOut .depositCollateral, 0⟩) h₂
    simp only [l, run, StateMachine.run_cons, StateMachine.run_nil, hl₁, hl₂]
    simp [etherIn, etherOut, env]
  have hbal : ∀ a, (l.sys.token.balances a).1 = 0 := fun a => by
    rw [hl, hbal₂, hbal₁]
    by_cases ha : a = owner <;> simp [ha, hzero]
  have hether : l.ether = 2 ^ 256 := by
    rw [hl]
    norm_num [mnCollateralV2Min, BitVec.toNat_sub]
  refine ⟨hbal owner, hether, ?_⟩
  rw [hether, totalBalance_eq_zero hbal, hl]
  norm_num

end TokenLedger

end RangeCore.Governance
