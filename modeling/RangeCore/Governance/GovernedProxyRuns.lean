import RangeCore.Governance.GovernedProxy

/-!
# Runs of a governed proxy

What every run of calls from the proxy's constructor keeps, and how its implementation changes
along it. The invariant (`UpgradeSystem.Inv`) has three parts: the proxy's list and mapping
agree; the spork registry's next address has no code, nor has any after it; and every
registered proposal exists, for the implementation the mapping gives, with the proxy as its
parent and, for an `UpgradeProposalV1`, as the vote made it. Each call keeps it, by the four
kinds of call of `UpgradeSystem.exec_cases`.

From it: a call changes `impl` only as an `upgrade` through a registered proposal that is
accepted, and unregisters that proposal (`impl_change`); a collected proposal keeps its code, so
it is never registered again and never upgrades (`upgrade_retired`); a registered proposal is
accepted only under the rules of `GenericProposalV1`, or as an emergency proposal that a run
shows was asked for by the emergency signer in a direct call with no fee and no period
(`emergency_history`); and an accepted registered proposal does upgrade when the
implementations' calls return (`upgrade_eq_ok`).

## Main definitions

* `RangeCore.Governance.UpgradeSystem.Inv`, `RangeCore.Governance.UpgradeSystem.Retired`.

## Main results

* `RangeCore.Governance.UpgradeSystem.Inv.commit`, `RangeCore.Governance.UpgradeSystem.Inv.runCalls`.
* `RangeCore.Governance.UpgradeSystem.impl_change`.
* `RangeCore.Governance.UpgradeSystem.Retired.runCalls`,
  `RangeCore.Governance.UpgradeSystem.upgrade_retired`.
* `RangeCore.Governance.UpgradeSystem.emergency_history`.
* `RangeCore.Governance.UpgradeSystem.upgrade_eq_ok`.
-/

namespace RangeCore.Governance

namespace UpgradeSystem

/-- What every reachable system keeps: the proxy's list and mapping agree, the spork registry
creates at fresh addresses, and each registered proposal exists, for the implementation the
mapping gives, with the proxy as parent and, if it is an `UpgradeProposalV1`, as the vote made
it. -/
structure Inv (s : UpgradeSystem) : Prop where
  proxy : s.proxy.Consistent
  fresh : s.spork.Fresh
  registered : ∀ p, s.proxy.upgradeProposals p ≠ 0 → ∃ up, s.spork.proposals p = some up ∧
    up.impl = s.proxy.upgradeProposals p ∧ up.parent = s.proxy.address ∧
    (up.kind = .upgradeProposalV1 → up.Voted)

variable {s s' : UpgradeSystem} {registry : MasternodeRegistryV2} {env : ProxyEnv}
  {newImpl : Address} {period : Uint} {proposal p : ℕ}

theorem inv_new (address impl : Address) {spork : SporkRegistry} (h : spork.Fresh) :
    (new address impl spork).Inv :=
  ⟨GovernedProxy.consistent_new address impl, h, fun _ hp => absurd rfl hp⟩

/-- A registered proposal has code, so it is below the next address. -/
theorem Inv.lt_nextProposal (hs : s.Inv) (hp : s.proxy.upgradeProposals p ≠ 0) :
    p < s.spork.nextProposal := by
  obtain ⟨up, hup, -⟩ := hs.registered p hp
  exact hs.fresh.lt_of_eq_some hup

/-! ### Each call keeps the invariant -/

theorem Inv.proposeUpgrade (hs : s.Inv)
    (h : s.proposeUpgrade registry env newImpl period = .ok s') : s'.Inv := by
  obtain ⟨-, hne, up, rfl, himpl, hparent, -, hv⟩ := proposeUpgrade_ok h
  have hfree : s.proxy.upgradeProposals s.spork.nextProposal = 0 := by
    by_contra hreg
    exact absurd (hs.lt_nextProposal hreg) (Nat.lt_irrefl _)
  refine ⟨hs.proxy.push hfree hne, fun q hq => ?_, fun q hq => ?_⟩
  · -- the addresses past the new one are still without code
    have hq' : q ≠ s.spork.nextProposal := by simp at hq; omega
    simp [Function.update_of_ne hq', hs.fresh q (by simp at hq; omega)]
  · by_cases hqn : q = s.spork.nextProposal
    · subst hqn
      exact ⟨up, by simp, by simp [himpl], hparent, hv⟩
    · simp only [Function.update_of_ne hqn] at hq ⊢
      exact hs.registered q hq

theorem Inv.upgrade (hs : s.Inv) (h : s.upgrade env proposal = .ok s') : s'.Inv := by
  obtain ⟨-, -, -, -, -, rfl⟩ := upgrade_ok h
  refine ⟨(hs.proxy.setImpl _).cleanupProposal proposal, fun q hq => ?_, fun q hq => ?_⟩
  · by_cases hqp : q = proposal
    · simp [hqp]
    · simp [Function.update_of_ne hqp, hs.fresh q hq]
  · -- the upgrading proposal is unregistered; the others are as they were
    have hqp : q ≠ proposal := by
      rintro rfl
      simp at hq
    simp only [GovernedProxy.cleanupProposal_upgradeProposals, Function.update_of_ne hqp] at hq
    simpa [Function.update_of_ne hqp] using hs.registered q hq

theorem Inv.collectUpgradeProposal (hs : s.Inv) (h : s.collectUpgradeProposal env proposal = .ok s') :
    s'.Inv := by
  obtain ⟨-, up, up', amount, hup, -, rfl⟩ := collectUpgradeProposal_ok h
  have hlt := hs.fresh.lt_of_eq_some hup
  refine ⟨hs.proxy.cleanupProposal proposal, fun q hq => ?_, fun q hq => ?_⟩
  · have hqp : q ≠ proposal := by
      rintro rfl
      exact absurd hq (Nat.not_le_of_lt hlt)
    simp [Function.update_of_ne hqp, hs.fresh q hq]
  · have hqp : q ≠ proposal := by
      rintro rfl
      simp at hq
    simp only [GovernedProxy.cleanupProposal_upgradeProposals, Function.update_of_ne hqp] at hq
    simpa [Function.update_of_ne hqp] using hs.registered q hq

/-- Calls of anyone to proposals keep the invariant: a registered proposal keeps its
implementation and parent, and votes keep an `UpgradeProposalV1` as the vote made it. -/
theorem Inv.onlyProposals (hs : s.Inv) (h : OnlyProposals s s') : s'.Inv := by
  refine ⟨h.proxy_eq ▸ hs.proxy, fun q hq => ?_, fun q hq => ?_⟩
  · rw [h.none_iff]
    exact hs.fresh q (h.nextProposal_eq ▸ hq)
  · rw [h.proxy_eq] at hq ⊢
    obtain ⟨up, hup, himpl, hparent, hv⟩ := hs.registered q hq
    obtain ⟨up', hup'⟩ := Option.ne_none_iff_exists'.1 (mt (h.none_iff q).1 (by simp [hup]))
    obtain ⟨up₀, hup₀, hl⟩ := h.later q up' hup'
    rw [hup] at hup₀
    cases hup₀
    exact ⟨up', hup', hl.impl_eq.trans himpl, hl.parent_eq.trans hparent,
      fun hk => (hv (hl.kind_eq.symm.trans hk)).later hl (hl.kind_eq.symm.trans hk)⟩

theorem Inv.exec (hs : s.Inv) {call : UpgradeCall} (h : s.exec call = .ok s') : s'.Inv := by
  rcases exec_cases h with ⟨registry, env, newImpl, period, -, h⟩ | ⟨env, proposal, -, h⟩ |
    ⟨env, proposal, -, h⟩ | h
  · exact hs.proposeUpgrade h
  · exact hs.upgrade h
  · exact hs.collectUpgradeProposal h
  · exact hs.onlyProposals h

theorem Inv.commit (hs : s.Inv) (call : UpgradeCall) : (s.commit call).Inv := by
  cases h : s.exec call with
  | ok s' => rw [commit_eq_of_ok h]; exact hs.exec h
  | error e => rw [commit_eq_of_error h]; exact hs

theorem Inv.runCalls (hs : s.Inv) (calls : List UpgradeCall) : (s.runCalls calls).Inv :=
  StateMachine.run_invariant UpgradeSystem.commit Inv hs (fun _ call hs => hs.commit call) calls

/-! ### How the implementation changes -/

/-- `impl` changes only by an `upgrade` through a registered proposal for another
implementation that is accepted; the implementation becomes the proposal's, and the proposal is
unregistered. -/
theorem impl_change (hs : s.Inv) {call : UpgradeCall} (h : s.exec call = .ok s')
    (himpl : s'.proxy.impl ≠ s.proxy.impl) :
    ∃ env proposal up, call = .upgrade env proposal ∧ s.spork.proposals proposal = some up ∧
      up.isAccepted env.timestamp = true ∧ s.proxy.upgradeProposals proposal ≠ 0 ∧
      s.proxy.upgradeProposals proposal ≠ s.proxy.impl ∧
      s'.proxy.impl = s.proxy.upgradeProposals proposal ∧ s'.proxy.upgradeProposals proposal = 0 ∧
      proposal ∉ s'.proxy.upgradeProposalList := by
  rcases exec_cases h with ⟨registry, env, newImpl, period, -, h⟩ | ⟨env, proposal, rfl, h⟩ |
    ⟨env, proposal, -, h⟩ | h
  · obtain ⟨-, -, up, rfl, -⟩ := proposeUpgrade_ok h
    exact absurd rfl himpl
  · obtain ⟨up, hup, hacc, hactive, hreg, rfl⟩ := upgrade_ok h
    refine ⟨env, proposal, up, rfl, hup, hacc, hreg, hactive, rfl, by simp, fun hm => ?_⟩
    -- the linear search found the proposal's only occurrence
    exact ((IndexedList.mem_swapPopFirst hs.proxy.nodup).1 hm).2 rfl
  · obtain ⟨-, up, up', amount, -, -, rfl⟩ := collectUpgradeProposal_ok h
    exact absurd rfl himpl
  · exact absurd (congrArg GovernedProxy.impl h.proxy_eq) himpl

/-! ### Collected proposals -/

/-- A proposal that is not registered but whose contract is still there, as after its
collection. -/
structure Retired (s : UpgradeSystem) (p : ℕ) : Prop where
  unregistered : s.proxy.upgradeProposals p = 0
  exists_code : s.spork.proposals p ≠ none

theorem retired_collectUpgradeProposal (h : s.collectUpgradeProposal env p = .ok s') :
    s'.Retired p := by
  obtain ⟨-, up, up', amount, -, -, rfl⟩ := collectUpgradeProposal_ok h
  exact ⟨by simp, by simp⟩

/-- A retired proposal stays retired: creation takes an address without code, `upgrade` and
`collectUpgradeProposal` touch only registered proposals, and the calls of anyone keep code
where there is code. -/
theorem Retired.exec (hs : s.Inv) (hr : s.Retired p) {call : UpgradeCall}
    (h : s.exec call = .ok s') : s'.Retired p := by
  rcases exec_cases h with ⟨registry, env, newImpl, period, -, h⟩ | ⟨env, proposal, -, h⟩ |
    ⟨env, proposal, -, h⟩ | h
  · obtain ⟨-, -, up, rfl, -⟩ := proposeUpgrade_ok h
    have hne : p ≠ s.spork.nextProposal := by
      rintro rfl
      exact hr.exists_code (hs.fresh _ le_rfl)
    exact ⟨by simp [Function.update_of_ne hne, hr.unregistered],
      by simp [Function.update_of_ne hne, hr.exists_code]⟩
  · obtain ⟨up, -, -, -, hreg, rfl⟩ := upgrade_ok h
    have hne : p ≠ proposal := by
      rintro rfl
      exact hreg hr.unregistered
    exact ⟨by simp [Function.update_of_ne hne, hr.unregistered],
      by simp [Function.update_of_ne hne, hr.exists_code]⟩
  · obtain ⟨-, up, up', amount, -, -, rfl⟩ := collectUpgradeProposal_ok h
    by_cases hne : p = proposal
    · subst hne
      exact ⟨by simp, by simp⟩
    · exact ⟨by simp [Function.update_of_ne hne, hr.unregistered],
        by simp [Function.update_of_ne hne, hr.exists_code]⟩
  · exact ⟨h.proxy_eq ▸ hr.unregistered, fun hn => hr.exists_code ((h.none_iff p).1 hn)⟩

theorem Retired.commit (hs : s.Inv) (hr : s.Retired p) (call : UpgradeCall) :
    (s.commit call).Retired p := by
  cases h : s.exec call with
  | ok s' => rw [commit_eq_of_ok h]; exact hr.exec hs h
  | error e => rw [commit_eq_of_error h]; exact hr

theorem Retired.runCalls (hs : s.Inv) (hr : s.Retired p) (calls : List UpgradeCall) :
    (s.runCalls calls).Retired p :=
  (StateMachine.run_invariant UpgradeSystem.commit (fun s : UpgradeSystem => s.Inv ∧ s.Retired p)
    ⟨hs, hr⟩
    (fun _ call h => ⟨h.1.commit call, h.2.commit h.1 call⟩) calls).2

/-- A retired proposal cannot upgrade: it is not registered. -/
theorem upgrade_retired (hr : s.Retired p) (env : ProxyEnv) : ∃ e, s.upgrade env p = .error e := by
  cases h : s.upgrade env p with
  | error e => exact ⟨e, rfl⟩
  | ok s' =>
    obtain ⟨-, -, -, -, hreg, -⟩ := upgrade_ok h
    exact absurd hr.unregistered hreg

/-! ### Where emergency proposals come from -/

/-- A proposal registered after a call was registered before it, as the same contract, or the
call created it; an emergency proposal is created only by a direct call of the emergency
signer, with no fee and no period. -/
theorem registered_exec {call : UpgradeCall} {up : UpgradeProposal} (h : s.exec call = .ok s')
    (hreg : s'.proxy.upgradeProposals p ≠ 0) (hup : s'.spork.proposals p = some up) :
    (s.proxy.upgradeProposals p ≠ 0 ∧ ∃ up₀, s.spork.proposals p = some up₀ ∧ up₀.kind = up.kind) ∨
    ∃ registry env newImpl period, call = .proposeUpgrade registry env newImpl period ∧
      p = s.spork.nextProposal ∧
      (up.kind = .emergencyProposal → env.origin = env.sender ∧
        env.sender = s.spork.emergencySigner ∧ env.value = 0 ∧ period = 0) := by
  rcases exec_cases h with ⟨registry, env, newImpl, period, rfl, h⟩ | ⟨env, proposal, -, h⟩ |
    ⟨env, proposal, -, h⟩ | h
  · obtain ⟨horigin, -, up₁, rfl, -, -, hem, -⟩ := proposeUpgrade_ok h
    by_cases hpn : p = s.spork.nextProposal
    · subst hpn
      simp only [Function.update_self, Option.some_inj] at hup
      subst hup
      exact .inr ⟨registry, env, newImpl, period, rfl, rfl, fun hk => ⟨horigin, hem hk⟩⟩
    · simp only [Function.update_of_ne hpn] at hreg hup
      exact .inl ⟨hreg, up, hup, rfl⟩
  · obtain ⟨up₁, -, -, -, -, rfl⟩ := upgrade_ok h
    have hpp : p ≠ proposal := by
      rintro rfl
      simp at hreg
    simp only [GovernedProxy.cleanupProposal_upgradeProposals, Function.update_of_ne hpp] at hreg hup
    exact .inl ⟨hreg, up, hup, rfl⟩
  · obtain ⟨-, up₁, up₁', amount, -, -, rfl⟩ := collectUpgradeProposal_ok h
    have hpp : p ≠ proposal := by
      rintro rfl
      simp at hreg
    simp only [GovernedProxy.cleanupProposal_upgradeProposals, Function.update_of_ne hpp] at hreg hup
    exact .inl ⟨hreg, up, hup, rfl⟩
  · obtain ⟨up₀, hup₀, hl⟩ := h.later p up hup
    exact .inl ⟨h.proxy_eq ▸ hreg, up₀, hup₀, hl.kind_eq.symm⟩

theorem emergencySigner_commit (call : UpgradeCall) :
    (s.commit call).spork.emergencySigner = s.spork.emergencySigner := by
  cases h : s.exec call with
  | error e => rw [commit_eq_of_error h]
  | ok s' =>
    rw [commit_eq_of_ok h]
    rcases exec_cases h with ⟨registry, env, newImpl, period, -, h⟩ | ⟨env, proposal, -, h⟩ |
      ⟨env, proposal, -, h⟩ | h
    · obtain ⟨-, -, up, rfl, -⟩ := proposeUpgrade_ok h
      rfl
    · obtain ⟨up, -, -, -, -, rfl⟩ := upgrade_ok h
      rfl
    · obtain ⟨-, up, up', amount, -, -, rfl⟩ := collectUpgradeProposal_ok h
      rfl
    · exact h.emergencySigner_eq

theorem emergencySigner_runCalls (calls : List UpgradeCall) :
    (s.runCalls calls).spork.emergencySigner = s.spork.emergencySigner := by
  induction calls using List.reverseRecOn with
  | nil => rfl
  | append_singleton calls call ih => rw [runCalls_append_singleton, emergencySigner_commit, ih]

/-- Every emergency proposal registered after a run from a system without registered
proposals was created in it, by a call of `proposeUpgrade` that succeeded, made directly by
the emergency signer with no fee and no period. -/
theorem emergency_history (h₀ : ∀ q, s.proxy.upgradeProposals q = 0) (calls : List UpgradeCall)
    {up : UpgradeProposal} (hreg : (s.runCalls calls).proxy.upgradeProposals p ≠ 0)
    (hup : (s.runCalls calls).spork.proposals p = some up) (hk : up.kind = .emergencyProposal) :
    ∃ calls₁ calls₂ registry env newImpl s₁,
      calls = calls₁ ++ .proposeUpgrade registry env newImpl 0 :: calls₂ ∧
      (s.runCalls calls₁).spork.nextProposal = p ∧
      (s.runCalls calls₁).exec (.proposeUpgrade registry env newImpl 0) = .ok s₁ ∧
      env.origin = env.sender ∧ env.sender = s.spork.emergencySigner ∧ env.value = 0 := by
  -- induction on the run from its end: the last call created the proposal, or it was
  -- registered before, as the same contract
  induction calls using List.reverseRecOn generalizing up with
  | nil => exact absurd (h₀ p) hreg
  | append_singleton calls call ih =>
    rw [runCalls_append_singleton] at hreg hup
    cases hc : (s.runCalls calls).exec call with
    | error e =>
      rw [commit_eq_of_error hc] at hreg hup
      obtain ⟨calls₁, calls₂, registry, env, newImpl, s₁, rfl, hrest⟩ := ih hreg hup hk
      exact ⟨calls₁, calls₂ ++ [call], registry, env, newImpl, s₁, by simp, hrest⟩
    | ok s' =>
      rw [commit_eq_of_ok hc] at hreg hup
      rcases registered_exec hc hreg hup with ⟨hreg₀, up₀, hup₀, hk₀⟩ |
        ⟨registry, env, newImpl, period, rfl, rfl, hem⟩
      · obtain ⟨calls₁, calls₂, registry, env, newImpl, s₁, rfl, hrest⟩ :=
          ih hreg₀ hup₀ (hk₀.trans hk)
        exact ⟨calls₁, calls₂ ++ [call], registry, env, newImpl, s₁, by simp, hrest⟩
      · obtain ⟨horigin, hsigner, hvalue, rfl⟩ := hem hk
        exact ⟨calls, [], registry, env, newImpl, s', rfl, rfl, hc, horigin,
          hsigner.trans (emergencySigner_runCalls calls), hvalue⟩

/-! ### Accepted proposals upgrade -/

/-- An accepted registered proposal for another implementation upgrades the proxy when the
implementations' `migrate` and `destroy` return: the proposal's parent is the proxy, so its
`destroy` passes. -/
theorem upgrade_eq_ok (hs : s.Inv) {up : UpgradeProposal}
    (hreg : s.proxy.upgradeProposals proposal ≠ 0)
    (hactive : s.proxy.upgradeProposals proposal ≠ s.proxy.impl)
    (hup : s.spork.proposals proposal = some up) (hacc : up.isAccepted env.timestamp = true)
    (hmigrate : env.migrate = .ok ()) (hdestroy : env.destroy = .ok ()) :
    s.upgrade env proposal = .ok
      { proxy :=
          { s.proxy with impl := s.proxy.upgradeProposals proposal }.cleanupProposal proposal
        spork := { s.spork with proposals := Function.update s.spork.proposals proposal none } } := by
  obtain ⟨up', hup', -, hparent, -⟩ := hs.registered proposal hreg
  rw [hup] at hup'
  cases hup'
  -- `simp` writes the zero address as a literal
  have hreg' : s.proxy.upgradeProposals proposal ≠ 0#160 := hreg
  simp [upgrade, SporkRegistry.proposal, SporkRegistry.destroyProposal, GenericProposal.destroy,
    require, hup, hacc, hmigrate, hdestroy, hactive, hreg', hparent]

/-! ### Upgrades over a whole run -/

/-- Over every run of calls from the proxy's constructor: the list holds each registered
proposal once and no other; the next call changes `impl` only by an upgrade through a
registered, accepted proposal for another implementation, which it unregisters; a collected
proposal never upgrades; and a registered proposal is accepted only as the votes accepted it
under the rules of `GenericProposalV1`, or as an emergency proposal created by a direct call of
the emergency signer with no fee and no period. -/
theorem governed_upgrades (address impl : Address) (spork : SporkRegistry) (hspork : spork.Fresh)
    (calls : List UpgradeCall) :
    let s₀ := new address impl spork
    let s := s₀.runCalls calls
    s.proxy.upgradeProposalList.Nodup ∧
      (∀ p, p ∈ s.proxy.upgradeProposalList ↔ s.proxy.upgradeProposals p ≠ 0) ∧
      (∀ call s', s.exec call = .ok s' → s'.proxy.impl ≠ s.proxy.impl →
        ∃ env proposal up, call = .upgrade env proposal ∧ s.spork.proposals proposal = some up ∧
          up.isAccepted env.timestamp = true ∧ s.proxy.upgradeProposals proposal ≠ 0 ∧
          s.proxy.upgradeProposals proposal ≠ s.proxy.impl ∧
          s'.proxy.impl = s.proxy.upgradeProposals proposal ∧
          s'.proxy.upgradeProposals proposal = 0 ∧ proposal ∉ s'.proxy.upgradeProposalList) ∧
      (∀ calls₁ calls₂ env p s₁, calls = calls₁ ++ .collectUpgradeProposal env p :: calls₂ →
        (s₀.runCalls calls₁).exec (.collectUpgradeProposal env p) = .ok s₁ →
        ∀ env', ∃ e, s.exec (.upgrade env' p) = .error e) ∧
      (∀ p up t, s.proxy.upgradeProposals p ≠ 0 → s.spork.proposals p = some up →
        up.isAccepted t = true →
        (up.kind = .upgradeProposalV1 ∧ up.Voted ∧ up.toGenericProposal.isAccepted t = true) ∨
        (up.kind = .emergencyProposal ∧ ∃ calls₁ calls₂ registry env newImpl s₁,
          calls = calls₁ ++ .proposeUpgrade registry env newImpl 0 :: calls₂ ∧
          (s₀.runCalls calls₁).spork.nextProposal = p ∧
          (s₀.runCalls calls₁).exec (.proposeUpgrade registry env newImpl 0) = .ok s₁ ∧
          env.origin = env.sender ∧ env.sender = spork.emergencySigner ∧ env.value = 0)) := by
  intro s₀ s
  have hs₀ : s₀.Inv := inv_new address impl hspork
  have hs : s.Inv := hs₀.runCalls calls
  refine ⟨hs.proxy.nodup, hs.proxy.mem_iff, fun call s' h himpl => impl_change hs h himpl, ?_, ?_⟩
  · rintro calls₁ calls₂ env p s₁ rfl h₁ env'
    -- the collection retires the proposal, and the rest of the run keeps it retired
    have hr : (s₀.runCalls (calls₁ ++ [.collectUpgradeProposal env p])).Retired p := by
      rw [runCalls_append_singleton, commit_eq_of_ok h₁]
      exact retired_collectUpgradeProposal h₁
    have hsplit : s = (s₀.runCalls (calls₁ ++ [.collectUpgradeProposal env p])).runCalls calls₂ := by
      rw [← runCalls_append, List.append_assoc, List.singleton_append]
    rw [hsplit]
    exact upgrade_retired (hr.runCalls (hs₀.runCalls _) calls₂) env'
  · intro p up t hreg hup hacc
    cases hk : up.kind with
    | upgradeProposalV1 =>
      obtain ⟨up', hup', -, -, hv⟩ := hs.registered p hreg
      rw [hup] at hup'
      cases hup'
      exact .inl ⟨rfl, hv hk, by rwa [← UpgradeProposal.isAccepted_upgradeProposalV1 hk]⟩
    | emergencyProposal =>
      exact .inr ⟨rfl, emergency_history (fun _ => rfl) calls hreg hup hk⟩

/-- The registry's environment in the run below: every owner holds the minimum collateral. -/
def votingEnv (caller : Address) (blockNumber timestamp msgValue : Uint) : RegistryEnv :=
  { caller, blockNumber, timestamp, msgValue
    balanceInfo := fun _ => (mnCollateralV2Min, 5), blockhash := fun _ => 0, gas := 10
    accepts := fun _ => true, treasuryReward := fun _ => .ok () }

/-- A direct call of the proxy by `0xB0B` at block 11, where the contract at `0x2` names the
proxy `0x9` as its own. -/
def proxyCall (timestamp value : Uint) : ProxyEnv :=
  { sender := 0xB0B#160, origin := 0xB0B#160, value, blockNumber := 11, timestamp
    proxyOf := fun a => if a = 0x2#160 then some 0x9#160 else none
    proxyOf_zero := by decide
    migrate := .ok (), destroy := .ok (), contribute := .ok () }

/-- A run that registers and votes a proposal: a masternode is announced, `0xB0B` proposes the
implementation `0x2` with the fee, and the owner of the masternode approves. The proposal is
registered, it was voted as the rules of `GenericProposalV1` make it, and the upgrade goes
through. -/
theorem governed_upgrades_voted :
    let spork := SporkRegistry.new 0x5#160 0xE#160
    ∃ r₀, MasternodeRegistryV2.new ⟨5, 3, 86400, mnCollateralV2Min, 1⟩
        (votingEnv 0xA11CE#160 1 0 0) = .ok r₀ ∧
      let r := r₀.runCalls [(votingEnv 0xA11CE#160 10 1000 0, .announce 0xA#160 0x01020304 (0, 0))]
      let s := (new 0x9#160 0x1#160 spork).runCalls
        [.proposeUpgrade r (proxyCall 1000 feeUpgradeV1) 0x2#160 periodUpgradeMin,
          .voteAccept r ⟨0xA11CE#160, 12, 1001⟩ 1]
      spork.Fresh ∧ s.proxy.upgradeProposalList = [1] ∧
        (∃ up, s.spork.proposals 1 = some up ∧ up.kind = .upgradeProposalV1 ∧ up.Voted ∧
          up.toGenericProposal.isAccepted 1002 = true) ∧
        ∃ s', s.exec (.upgrade (proxyCall 1002 0) 1) = .ok s' ∧ s'.proxy.impl = 0x2#160 := by
  intro spork
  refine ⟨_, rfl, ?_⟩
  intro r s
  have hfresh : spork.Fresh := SporkRegistry.fresh_new _ _
  have hreg : s.proxy.upgradeProposals 1 ≠ 0 := by decide +kernel
  obtain ⟨up, hup⟩ := Option.isSome_iff_exists.1 (by decide +kernel : (s.spork.proposals 1).isSome)
  have hkind : up.kind = .upgradeProposalV1 := by
    have h : (s.spork.proposals 1).map (·.kind) = some .upgradeProposalV1 := by decide +kernel
    simpa [hup] using h
  have hacc : up.isAccepted 1002 = true := by
    have h : (s.spork.proposals 1).map (·.isAccepted 1002) = some true := by decide +kernel
    simpa [hup] using h
  -- the registered, accepted proposal was voted, by the theorem
  obtain ⟨-, hvoted, hgen⟩ | ⟨hemergency, -⟩ :=
    (governed_upgrades _ _ spork hfresh _).2.2.2.2 1 up 1002 hreg hup hacc
  · obtain ⟨s', hs'⟩ : ∃ s', s.exec (.upgrade (proxyCall 1002 0) 1) = .ok s' := by
      cases h : s.exec (.upgrade (proxyCall 1002 0) 1) with
      | error e =>
        have hok : (s.exec (.upgrade (proxyCall 1002 0) 1)).toBool = true := by decide +kernel
        rw [h] at hok
        cases hok
      | ok s' => exact ⟨s', rfl⟩
    have himpl : (s.exec (.upgrade (proxyCall 1002 0) 1)).toOption.map (·.proxy.impl) =
        some 0x2#160 := by decide +kernel
    rw [hs'] at himpl
    exact ⟨hfresh, by decide +kernel, ⟨up, hup, hkind, hvoted, hgen⟩, s', hs',
      Option.some_injective _ himpl⟩
  · rw [hkind] at hemergency
    cases hemergency

end UpgradeSystem

end RangeCore.Governance
