import RangeCore.Governance.Blacklist

/-!
# Runs of the blacklist registry

What every call of `BlacklistRegistryV1` does to its storage, and what a run of calls keeps.
Each call is taken apart into the proposal calls it makes, which leave the storage alone
(`KeepsStorage`), and the storage calls that end it, each of which keeps the storage consistent
(`BlacklistStorage.Inv`); so every reachable registry has consistent storage
(`storageInv_runCalls`).

Consistent storage does not make the storage's assertions unreachable. `propose` for an
address whose revoke proposal is still being voted on cleans nothing up and creates a new
enforce proposal, and `setEnforce` then fails its assertion (`propose_with_open_revoke`).
`proposeRevoke` for an address whose revoke proposal was accepted replaces it by a new one
whose vote has not started, so the address is blacklisted again by its old enforce proposal
(`proposeRevoke_reblacklists`).

## Main definitions

* `RangeCore.Governance.BlacklistRegistry.Inv`: the invariant of a reachable registry.
* `RangeCore.Governance.BlacklistRegistry.KeepsStorage`: a call that leaves the storage alone.

## Main results

* `RangeCore.Governance.BlacklistRegistry.Inv.exec`: every call keeps the invariant.
* `RangeCore.Governance.BlacklistRegistry.storageInv_runCalls`.
* `RangeCore.Governance.BlacklistRegistry.propose_with_open_revoke`,
  `RangeCore.Governance.BlacklistRegistry.proposeRevoke_reblacklists`: runs from the constructor.
-/

namespace RangeCore.Governance

namespace BlacklistRegistry

/-- What every reachable registry keeps: its storage is consistent, and proposal addresses are
numbered from 1, so that a proposal's address is never the 0 that stands for none. -/
structure Inv (r : BlacklistRegistry) : Prop where
  storage : r.v1storage.Inv
  nextProposal_pos : 0 < r.nextProposal

/-- A call that leaves the storage as it is and moves the next proposal address only up. -/
structure KeepsStorage (r r' : BlacklistRegistry) : Prop where
  v1storage : r'.v1storage = r.v1storage
  nextProposal_le : r.nextProposal ≤ r'.nextProposal

variable {r r' r'' : BlacklistRegistry} {registry : MasternodeRegistryV2} {env : CallEnv}
  {value timestamp : Uint} {addr : Address} {id : ℕ}

theorem KeepsStorage.rfl : KeepsStorage r r := ⟨Eq.refl _, le_rfl⟩

theorem KeepsStorage.trans (h : KeepsStorage r r') (h' : KeepsStorage r' r'') :
    KeepsStorage r r'' :=
  ⟨h'.v1storage.trans h.v1storage, h.nextProposal_le.trans h'.nextProposal_le⟩

theorem Inv.keeps (h : r.Inv) (hk : KeepsStorage r r') : r'.Inv :=
  ⟨hk.v1storage ▸ h.storage, h.nextProposal_pos.trans_le hk.nextProposal_le⟩

/-! ### What each primitive does -/

theorem keepsStorage_destroyProposal (hd : r.destroyProposal id = .ok r') : KeepsStorage r r' := by
  unfold destroyProposal at hd
  obtain ⟨p, -, hd⟩ := Except.bind_eq_ok_iff.1 hd
  obtain ⟨⟨⟩, -, hd⟩ := Except.bind_eq_ok_iff.1 hd
  cases hd
  exact ⟨Eq.refl _, le_rfl⟩

theorem keepsStorage_collectProposal (hd : r.collectProposal id timestamp = .ok r') :
    KeepsStorage r r' := by
  unfold collectProposal at hd
  obtain ⟨p, -, hd⟩ := Except.bind_eq_ok_iff.1 hd
  obtain ⟨⟨p', v⟩, -, hd⟩ := Except.bind_eq_ok_iff.1 hd
  cases hd
  exact ⟨Eq.refl _, le_rfl⟩

theorem keepsStorage_destroyIfAny (hd : r.destroyIfAny id = .ok r') : KeepsStorage r r' := by
  unfold destroyIfAny at hd
  split_ifs at hd
  · exact keepsStorage_destroyProposal hd
  · cases hd
    exact KeepsStorage.rfl

theorem keepsStorage_onProposal {f : GenericProposal → Except Revert GenericProposal}
    (hd : r.onProposal id f = .ok r') : KeepsStorage r r' := by
  unfold onProposal at hd
  split at hd
  · cases hd
    exact KeepsStorage.rfl
  · obtain ⟨p', -, hd⟩ := Except.bind_eq_ok_iff.1 hd
    cases hd
    exact ⟨Eq.refl _, le_rfl⟩

/-- A new proposal takes the next address. -/
theorem createProposal_ok (hd : r.createProposal registry env value = .ok (id, r')) :
    id = r.nextProposal ∧ KeepsStorage r r' := by
  unfold createProposal at hd
  obtain ⟨p, -, hd⟩ := Except.bind_eq_ok_iff.1 hd
  obtain ⟨p', -, hd⟩ := Except.bind_eq_ok_iff.1 hd
  cases hd
  exact ⟨Eq.refl _, Eq.refl _, Nat.le_succ _⟩

theorem onStorage_ok {f : BlacklistStorage → Except Revert BlacklistStorage}
    (hd : r.onStorage f = .ok r') : ∃ s', f r.v1storage = .ok s' ∧ r' = { r with v1storage := s' } := by
  unfold onStorage at hd
  obtain ⟨s', hs, hd⟩ := Except.bind_eq_ok_iff.1 hd
  cases hd
  exact ⟨s', hs, Eq.refl _⟩

/-- A storage call that keeps the storage consistent keeps the registry's invariant. -/
theorem Inv.onStorage (h : r.Inv) {f : BlacklistStorage → Except Revert BlacklistStorage}
    (hf : ∀ s', f r.v1storage = .ok s' → s'.Inv) (hd : r.onStorage f = .ok r') : r'.Inv := by
  obtain ⟨s', hs, rfl⟩ := onStorage_ok hd
  exact ⟨hf s' hs, h.nextProposal_pos⟩

/-- A new proposal recorded in the storage, by a storage call that keeps it consistent for a
nonzero proposal address. -/
theorem Inv.createProposal (h : r.Inv) {r₁ : BlacklistRegistry}
    {set : ℕ → BlacklistStorage → Except Revert BlacklistStorage}
    (hc : r.createProposal registry env value = .ok (id, r₁))
    (hd : r₁.onStorage (set id) = .ok r')
    (hset : ∀ s s' id, s.Inv → id ≠ 0 → set id s = .ok s' → s'.Inv) : r'.Inv := by
  obtain ⟨rfl, hk⟩ := createProposal_ok hc
  have h₁ := h.keeps hk
  exact h₁.onStorage (fun s' => hset _ s' _ h₁.storage h.nextProposal_pos.ne') hd

/-- A storage call after calls that kept the storage, by a storage call that keeps it
consistent. -/
theorem Inv.keeps_onStorage (h : r.Inv) {r₁ : BlacklistRegistry} (hk : KeepsStorage r r₁)
    {f : BlacklistStorage → Except Revert BlacklistStorage} (hd : r₁.onStorage f = .ok r')
    (hf : ∀ s s', s.Inv → f s = .ok s' → s'.Inv) : r'.Inv :=
  (h.keeps hk).onStorage (fun s' => hf _ s' (h.keeps hk).storage) hd

/-! ### Each call keeps the invariant -/

theorem Inv.proposeCleanup (h : r.Inv) {info : BlacklistInfo}
    (hd : r.proposeCleanup timestamp addr info = .ok r') : r'.Inv := by
  unfold BlacklistRegistry.proposeCleanup at hd
  split_ifs at hd with hrevoke
  · obtain ⟨revoke, -, hd⟩ := Except.bind_eq_ok_iff.1 hd
    split_ifs at hd
    · -- an accepted revoke: every proposal of the address goes, and so does its entry
      obtain ⟨r₁, h₁, hd⟩ := Except.bind_eq_ok_iff.1 hd
      obtain ⟨r₂, h₂, hd⟩ := Except.bind_eq_ok_iff.1 hd
      obtain ⟨r₃, h₃, hd⟩ := Except.bind_eq_ok_iff.1 hd
      exact h.keeps_onStorage (((keepsStorage_destroyProposal h₁).trans
        (keepsStorage_destroyProposal h₂)).trans (keepsStorage_destroyIfAny h₃)) hd
        fun _ _ hs => hs.remove
    · -- a revoke whose vote is open falls through
      cases hd
      exact h
  · obtain ⟨enforce, -, hd⟩ := Except.bind_eq_ok_iff.1 hd
    split_ifs at hd
    · obtain ⟨r₁, h₁, hd⟩ := Except.bind_eq_ok_iff.1 hd
      obtain ⟨r₂, h₂, hd⟩ := Except.bind_eq_ok_iff.1 hd
      exact h.keeps_onStorage ((keepsStorage_collectProposal h₁).trans
        (keepsStorage_destroyIfAny h₂)) hd fun _ _ hs => hs.remove

theorem Inv.propose (h : r.Inv) (hd : r.propose registry env value addr = .ok r') : r'.Inv := by
  unfold BlacklistRegistry.propose at hd
  obtain ⟨⟨⟩, -, hd⟩ := Except.bind_eq_ok_iff.1 hd
  dsimp only at hd
  obtain ⟨r₁, h₁, hd⟩ := Except.ite_bind_eq_ok_iff.1 hd
  obtain ⟨⟨id, r₂⟩, hc, hd⟩ := Except.bind_eq_ok_iff.1 hd
  -- an address with an enforce proposal is cleaned up first
  have h₁' : r₁.Inv := by
    split_ifs at h₁
    · exact h.proposeCleanup h₁
    · cases h₁
      exact h
  exact h₁'.createProposal hc hd fun _ _ _ hs hid hset => hs.setEnforce hset hid

theorem keepsStorage_proposeRevokeCleanup {info : BlacklistInfo}
    (hd : r.proposeRevokeCleanup timestamp info = .ok r') : KeepsStorage r r' := by
  unfold proposeRevokeCleanup at hd
  split_ifs at hd
  · obtain ⟨revoke, -, hd⟩ := Except.bind_eq_ok_iff.1 hd
    split_ifs at hd
    · exact keepsStorage_collectProposal hd
    · -- an accepted revoke falls through
      cases hd
      exact .rfl
  · obtain ⟨enforce, -, hd⟩ := Except.bind_eq_ok_iff.1 hd
    split_ifs at hd
    cases hd
    exact .rfl

theorem Inv.proposeRevoke (h : r.Inv) (hd : r.proposeRevoke registry env value addr = .ok r') :
    r'.Inv := by
  unfold BlacklistRegistry.proposeRevoke at hd
  obtain ⟨⟨⟩, -, hd⟩ := Except.bind_eq_ok_iff.1 hd
  obtain ⟨⟨⟩, -, hd⟩ := Except.bind_eq_ok_iff.1 hd
  obtain ⟨r₁, h₁, hd⟩ := Except.bind_eq_ok_iff.1 hd
  obtain ⟨⟨id, r₂⟩, hc, hd⟩ := Except.bind_eq_ok_iff.1 hd
  exact (h.keeps (keepsStorage_proposeRevokeCleanup h₁)).createProposal hc hd
    fun _ _ _ hs _ hset => hs.setRevoke hset

theorem Inv.proposeDrain (h : r.Inv) (hd : r.proposeDrain registry env value addr = .ok r') :
    r'.Inv := by
  unfold BlacklistRegistry.proposeDrain at hd
  obtain ⟨⟨⟩, -, hd⟩ := Except.bind_eq_ok_iff.1 hd
  obtain ⟨b, -, hd⟩ := Except.bind_eq_ok_iff.1 hd
  obtain ⟨⟨⟩, -, hd⟩ := Except.bind_eq_ok_iff.1 hd
  dsimp only at hd
  -- the rest of the call is elaborated into each branch on the old drain proposal
  split at hd
  · obtain ⟨drain, -, hd⟩ := Except.bind_eq_ok_iff.1 hd
    split at hd
    · exact nomatch hd
    split at hd
    · -- a finished drain proposal that was not accepted is collected first
      obtain ⟨r₁, h₁, hd⟩ := Except.bind_eq_ok_iff.1 hd
      obtain ⟨⟨id, r₂⟩, hc, hd⟩ := Except.bind_eq_ok_iff.1 hd
      exact (h.keeps (keepsStorage_collectProposal h₁)).createProposal hc hd
        fun _ _ _ hs _ hset => hs.setDrain hset
    · exact nomatch hd
  · obtain ⟨r₁, h₁, hd⟩ := Except.bind_eq_ok_iff.1 hd
    cases h₁
    obtain ⟨⟨id, r₂⟩, hc, hd⟩ := Except.bind_eq_ok_iff.1 hd
    exact h.createProposal hc hd fun _ _ _ hs _ hset => hs.setDrain hset

theorem Inv.collectRevoke (h : r.Inv) {info : BlacklistInfo}
    (hd : r.collectRevoke timestamp addr info = .ok r') : r'.Inv := by
  unfold BlacklistRegistry.collectRevoke at hd
  obtain ⟨revoke, -, hd⟩ := Except.bind_eq_ok_iff.1 hd
  obtain ⟨⟨⟩, -, hd⟩ := Except.bind_eq_ok_iff.1 hd
  split at hd
  · obtain ⟨r₁, h₁, hd⟩ := Except.bind_eq_ok_iff.1 hd
    obtain ⟨r₂, h₂, hd⟩ := Except.bind_eq_ok_iff.1 hd
    dsimp only at hd
    obtain ⟨-, hd⟩ := Except.ite_throw_bind_eq_ok_iff.1 hd
    exact h.keeps_onStorage ((keepsStorage_destroyProposal h₁).trans
      (keepsStorage_destroyProposal h₂)) hd fun _ _ hs => hs.remove
  · obtain ⟨r₁, h₁, hd⟩ := Except.bind_eq_ok_iff.1 hd
    exact h.keeps_onStorage (keepsStorage_collectProposal h₁) hd fun _ _ hs => hs.setRevoke

theorem Inv.collect (h : r.Inv) (hd : r.collect timestamp addr = .ok r') : r'.Inv := by
  unfold BlacklistRegistry.collect at hd
  obtain ⟨⟨⟩, -, hd⟩ := Except.bind_eq_ok_iff.1 hd
  obtain ⟨enforce, -, hd⟩ := Except.bind_eq_ok_iff.1 hd
  obtain ⟨⟨⟩, -, hd⟩ := Except.bind_eq_ok_iff.1 hd
  split at hd
  · -- a rejected enforce proposal: collected, and the entry removed
    obtain ⟨r₁, h₁, hd⟩ := Except.bind_eq_ok_iff.1 hd
    exact h.keeps_onStorage (keepsStorage_collectProposal h₁) hd fun _ _ hs => hs.remove
  split at hd
  · -- a drain proposal that was not accepted: collected
    obtain ⟨drain, -, hd⟩ := Except.bind_eq_ok_iff.1 hd
    obtain ⟨⟨⟩, -, hd⟩ := Except.bind_eq_ok_iff.1 hd
    dsimp only at hd
    obtain ⟨-, hd⟩ := Except.ite_throw_bind_eq_ok_iff.1 hd
    obtain ⟨r₁, h₁, hd⟩ := Except.bind_eq_ok_iff.1 hd
    exact h.keeps_onStorage (keepsStorage_collectProposal h₁) hd fun _ _ hs => hs.setDrain
  split at hd
  · exact h.collectRevoke hd
  · cases hd

theorem Inv.onDrainInternal (h : r.Inv) (hd : r.onDrainInternal addr = .ok r') : r'.Inv := by
  unfold BlacklistRegistry.onDrainInternal at hd
  dsimp only at hd
  split at hd
  · obtain ⟨r₁, h₁, hd⟩ := Except.bind_eq_ok_iff.1 hd
    obtain ⟨r₂, h₂, hd⟩ := Except.bind_eq_ok_iff.1 hd
    obtain ⟨r₃, h₃, hd⟩ := Except.bind_eq_ok_iff.1 hd
    exact h.keeps_onStorage (((keepsStorage_destroyProposal h₁).trans
      (keepsStorage_destroyIfAny h₂)).trans (keepsStorage_destroyIfAny h₃)) hd
      fun _ _ hs => hs.remove
  · cases hd
    exact h

theorem Inv.onDrain (h : r.Inv) {origin : Address} (hd : r.onDrain origin addr = .ok r') :
    r'.Inv := by
  unfold BlacklistRegistry.onDrain at hd
  obtain ⟨⟨⟩, -, hd⟩ := Except.bind_eq_ok_iff.1 hd
  exact h.onDrainInternal hd

theorem Inv.drainMigration (h : r.Inv) {owner : Address} {blacklistClaim : Except Revert Unit}
    (hd : r.drainMigration timestamp owner blacklistClaim = .ok r') : r'.Inv := by
  unfold BlacklistRegistry.drainMigration at hd
  obtain ⟨b, -, hd⟩ := Except.bind_eq_ok_iff.1 hd
  obtain ⟨⟨⟩, -, hd⟩ := Except.bind_eq_ok_iff.1 hd
  obtain ⟨⟨⟩, -, hd⟩ := Except.bind_eq_ok_iff.1 hd
  exact h.onDrainInternal hd

theorem Inv.exec (h : r.Inv) (env : CallEnv) (call : BlacklistCall) (hd : r.exec env call = .ok r') :
    r'.Inv := by
  cases call with
  | propose => exact h.propose hd
  | proposeRevoke => exact h.proposeRevoke hd
  | proposeDrain => exact h.proposeDrain hd
  | collect => exact h.collect hd
  | drainMigration => exact h.drainMigration hd
  | onDrain => exact h.onDrain hd
  | voteAccept => exact h.keeps (keepsStorage_onProposal hd)
  | voteReject => exact h.keeps (keepsStorage_onProposal hd)

theorem Inv.commit (h : r.Inv) (env : CallEnv) (call : BlacklistCall) : (r.commit env call).Inv := by
  unfold BlacklistRegistry.commit
  split
  · exact h.exec env call ‹_›
  · exact h

theorem inv_new (address proxy ebiSigner : Address) : (new address proxy ebiSigner).Inv :=
  ⟨BlacklistStorage.inv_zero, Nat.one_pos⟩

/-- The storage of every reachable registry is consistent. -/
theorem storageInv_runCalls (address proxy ebiSigner : Address)
    (calls : List (CallEnv × BlacklistCall)) :
    ((new address proxy ebiSigner).runCalls calls).v1storage.Inv :=
  (StateMachine.run_invariant _ Inv (inv_new address proxy ebiSigner)
    (fun _ c h => h.commit c.1 c.2) calls).storage

/-! ### Two runs -/

/-- An address is proposed and blacklisted, and a revoke proposal for it opened; while the
revoke vote is open, `propose` for the address again passes its cleanup and reaches the
assertion of `setEnforce`. -/
theorem propose_with_open_revoke :
    let a : Address := 0xBAD#160
    let owner : Address := 0xA11CE#160
    let proposer : Address := 0xB0B#160
    let mnEnv : Address → Uint → Uint → RegistryEnv := fun caller blockNumber timestamp =>
      { caller, blockNumber, timestamp, msgValue := 0
        balanceInfo := fun _ => (mnCollateralV2Min, 5), blockhash := fun _ => 0, gas := 10
        accepts := fun _ => true, treasuryReward := fun _ => .ok () }
    ∃ mn₀, MasternodeRegistryV2.new ⟨5, 3, 86400, mnCollateralV2Min, 1⟩ (mnEnv owner 1 0) = .ok mn₀ ∧
      let mn := mn₀.runCalls [(mnEnv owner 10 1000, .announce 0xA#160 0x01020304 (0, 0))]
      let r := (BlacklistRegistry.new 0xB1AC#160 0x9E0#160 0xEB1#160).runCalls
        [(⟨proposer, 20, 2000⟩, .propose a mn feeBlacklistV1),
          (⟨owner, 21, 2100⟩, .voteAccept 1 mn),
          (⟨proposer, 22, 2200⟩, .proposeRevoke a mn feeBlacklistRevokeV1)]
      r.v1storage.addressInfo a = ⟨1, 2, 0, 0⟩ ∧
        (r.proposals 2).map (·.isFinished 2300) = some false ∧
        r.propose mn ⟨proposer, 23, 2300⟩ feeBlacklistV1 a = .error .assert :=
  ⟨_, rfl, rfl, rfl, rfl⟩

/-- An address is blacklisted and its revoke proposal accepted, so that it is no longer
blacklisted; `proposeRevoke` for it then succeeds, replaces the accepted revoke proposal by a
new one, and the address is blacklisted again. -/
theorem proposeRevoke_reblacklists :
    let a : Address := 0xBAD#160
    let owner : Address := 0xA11CE#160
    let proposer : Address := 0xB0B#160
    let mnEnv : Address → Uint → Uint → RegistryEnv := fun caller blockNumber timestamp =>
      { caller, blockNumber, timestamp, msgValue := 0
        balanceInfo := fun _ => (mnCollateralV2Min, 5), blockhash := fun _ => 0, gas := 10
        accepts := fun _ => true, treasuryReward := fun _ => .ok () }
    ∃ mn₀ r', MasternodeRegistryV2.new ⟨5, 3, 86400, mnCollateralV2Min, 1⟩ (mnEnv owner 1 0) = .ok mn₀ ∧
      let mn := mn₀.runCalls [(mnEnv owner 10 1000, .announce 0xA#160 0x01020304 (0, 0))]
      let r := (BlacklistRegistry.new 0xB1AC#160 0x9E0#160 0xEB1#160).runCalls
        [(⟨proposer, 20, 2000⟩, .propose a mn feeBlacklistV1),
          (⟨owner, 21, 2100⟩, .voteAccept 1 mn),
          (⟨proposer, 22, 2200⟩, .proposeRevoke a mn feeBlacklistRevokeV1),
          (⟨owner, 23, 2300⟩, .voteAccept 2 mn)]
      (r.proposals 2).map (·.isAccepted 2400) = some true ∧
        r.isBlacklisted 2400 a = .ok false ∧
        r.proposeRevoke mn ⟨proposer, 24, 2400⟩ feeBlacklistRevokeV1 a = .ok r' ∧
        r'.isBlacklisted 2400 a = .ok true :=
  ⟨_, _, rfl, rfl, rfl, rfl, rfl⟩

end BlacklistRegistry

end RangeCore.Governance
