import RangeCore.Governance.BlacklistRuns
import RangeCore.Governance.Gen2Migration

/-!
# Draining Gen 2 coins through the blacklist registry

`BlacklistRegistryV1.drainMigration(item_id, owner)` calls the migration contract's
`blacklistClaim` for one item and then `_onDrain(owner)`, which destroys the owner's proposals and
removes its entry. The two contracts are taken together here, the migration naming the registry
as its blacklist registry.

A successful `drainMigration` pays one item of the owner to the compensation fund and clears the
owner's entry, whatever other items the owner still has: from then on the owner is neither
blacklisted nor drainable (`drainMigration_clears`), so `verifyClaim` no longer stops it. An
owner with two items is drained of the first and then claims the second
(`drainMigration_leaves_unclaimed`).

## Main definitions

* `RangeCore.Governance.DrainSystem`: the registry and the migration contract, with
  `drainMigration` and `claim`.

## Main results

* `RangeCore.Governance.DrainSystem.drainMigration_clears`.
* `RangeCore.Governance.DrainSystem.drainMigration_leaves_unclaimed`.
-/

namespace RangeCore.Governance

/-! ### An entry removed is neither blacklisted nor drainable -/

namespace BlacklistStorage

variable {s s' : BlacklistStorage} {addr : Address}

theorem addressInfo_remove (h : s.remove addr = .ok s') : s'.addressInfo addr = .zero := by
  obtain ⟨-, last, -, rfl⟩ := remove_ok h
  exact Function.update_self _ _ _

end BlacklistStorage

namespace BlacklistRegistry

variable {r r' : BlacklistRegistry} {timestamp : Uint} {addr : Address}

theorem isBlacklisted_of_zero (h : r.v1storage.addressInfo addr = .zero) (timestamp : Uint) :
    r.isBlacklisted timestamp addr = .ok false := by
  simp [isBlacklisted, h, BlacklistInfo.zero, Except.pure_eq_ok]

theorem isDrainable_of_zero (h : r.v1storage.addressInfo addr = .zero) (timestamp : Uint) :
    r.isDrainable timestamp addr = .ok false := by
  simp [isDrainable, h, BlacklistInfo.zero, Except.pure_eq_ok]

/-- A drainable address has an enforce proposal. -/
theorem enforce_ne_zero_of_isDrainable (h : r.isDrainable timestamp addr = .ok true) :
    (r.v1storage.addressInfo addr).enforce ≠ 0 := by
  intro h0
  simp [isDrainable, h0, Except.pure_eq_ok] at h

/-- `_onDrain` of an address with an enforce proposal clears its entry. -/
theorem onDrainInternal_clears (h : (r.v1storage.addressInfo addr).enforce ≠ 0)
    (hd : r.onDrainInternal addr = .ok r') : r'.v1storage.addressInfo addr = .zero := by
  unfold onDrainInternal at hd
  dsimp only at hd
  rw [if_pos h] at hd
  obtain ⟨r₁, -, hd⟩ := Except.bind_eq_ok_iff.1 hd
  obtain ⟨r₂, -, hd⟩ := Except.bind_eq_ok_iff.1 hd
  obtain ⟨r₃, -, hd⟩ := Except.bind_eq_ok_iff.1 hd
  -- whatever the destroyed proposals left, `remove` zeroes the entry
  obtain ⟨s', hs, rfl⟩ := onStorage_ok hd
  exact BlacklistStorage.addressInfo_remove hs

end BlacklistRegistry

/-- The blacklist registry and the Gen 2 migration contract, which names the registry as its
blacklist registry. -/
structure DrainSystem where
  registry : BlacklistRegistry
  migration : Gen2Migration

namespace DrainSystem

variable (s : DrainSystem)

/-- What a call to the migration by `sender` sees: the registry, and its `isBlacklisted` at the
time of the call. -/
def migrationEnv (sender : Address) (timestamp : Uint) (accepts : Address → Bool) :
    MigrationEnv :=
  ⟨sender, s.registry.address, s.registry.isBlacklisted timestamp, accepts⟩

/-- `drainMigration`: the registry's call, whose `blacklistClaim` of the item is the migration's,
called by the registry. -/
def drainMigration (timestamp : Uint) (itemId : ℕ) (owner : Address) :
    Except Revert DrainSystem := do
  let claim := s.migration.blacklistClaim
    (s.migrationEnv s.registry.address timestamp fun _ => true) itemId owner
  let registry ← s.registry.drainMigration timestamp owner ((fun _ => ()) <$> claim)
  let migration ← claim
  pure { registry, migration }

/-- The migration's `claim`, by `env.caller`, whose `verifyClaim` asks the registry. -/
def claim (hasher : Hasher) (ecrecover : EcrecoverPrecompile) (env : CallEnv)
    (accepts : Address → Bool) (itemId : ℕ) (destination : Address) (v : UInt8) (r sig : Hash) :
    Except Revert DrainSystem := do
  let migration ← s.migration.claim hasher ecrecover
    (s.migrationEnv env.caller env.timestamp accepts) itemId destination v r sig
  pure { s with migration }

variable {s s' : DrainSystem} {timestamp : Uint} {itemId : ℕ} {owner : Address}

/-- A successful `drainMigration` pays one unpaid item of the owner and clears the owner's entry:
at every time after, the owner is neither blacklisted nor drainable, whatever items it still
has. -/
theorem drainMigration_clears (hd : s.drainMigration timestamp itemId owner = .ok s') :
    ∃ hi : itemId < s.migration.coins.length, s.migration.coins[itemId].owner = owner ∧
      s.migration.Pays s'.migration itemId ∧
      s'.registry.v1storage.addressInfo owner = .zero ∧
      ∀ timestamp', s'.registry.isBlacklisted timestamp' owner = .ok false ∧
        s'.registry.isDrainable timestamp' owner = .ok false := by
  unfold drainMigration at hd
  obtain ⟨r', hr, hd⟩ := Except.bind_eq_ok_iff.1 hd
  obtain ⟨m', hm, hd⟩ := Except.bind_eq_ok_iff.1 hd
  cases hd
  obtain ⟨hi, howner, -, hp⟩ := Gen2Migration.blacklistClaim_ok hm
  -- the registry's part: the owner was drainable, and `_onDrain` removed its entry
  unfold BlacklistRegistry.drainMigration at hr
  obtain ⟨b, hb, hr⟩ := Except.bind_eq_ok_iff.1 hr
  obtain ⟨⟨⟩, hreq, hr⟩ := Except.bind_eq_ok_iff.1 hr
  obtain ⟨⟨⟩, -, hr⟩ := Except.bind_eq_ok_iff.1 hr
  rw [require_eq_ok] at hreq
  rw [hreq] at hb
  have hzero := BlacklistRegistry.onDrainInternal_clears
    (BlacklistRegistry.enforce_ne_zero_of_isDrainable hb) hr
  exact ⟨hi, howner, hp, hzero, fun t => ⟨BlacklistRegistry.isBlacklisted_of_zero hzero t,
    BlacklistRegistry.isDrainable_of_zero hzero t⟩⟩

/-- An address with two Gen 2 items is blacklisted and a drain of it accepted; `drainMigration` of
its first item removes its entry, and the second item is then claimed with its owner's
signature. -/
theorem drainMigration_leaves_unclaimed :
    let a : Address := 0xBAD#160
    let owner : Address := 0xA11CE#160
    let proposer : Address := 0xB0B#160
    let mnEnv : Address → Uint → Uint → RegistryEnv := fun caller blockNumber timestamp =>
      { caller, blockNumber, timestamp, msgValue := 0
        balanceInfo := fun _ => (mnCollateralV2Min, 5), blockhash := fun _ => 0, gas := 10
        accepts := fun _ => true, treasuryReward := fun _ => .ok () }
    let hasher : Hasher := ⟨fun _ => 0, fun _ => 0, fun _ => 0, fun _ => 0⟩
    ∃ mn₀ m₀ s', MasternodeRegistryV2.new ⟨5, 3, 86400, mnCollateralV2Min, 1⟩ (mnEnv owner 1 0) = .ok mn₀ ∧
      (Gen2Migration.new 1 0x5167#160).setSnapshot 0x5167#160 [a, a] [5, 7] [] = .ok m₀ ∧
      let mn := mn₀.runCalls [(mnEnv owner 10 1000, .announce 0xA#160 0x01020304 (0, 0))]
      let r := (BlacklistRegistry.new 0xB1AC#160 0x9E0#160 0xEB1#160).runCalls
        [(⟨proposer, 20, 2000⟩, .propose a mn feeBlacklistV1),
          (⟨owner, 21, 2100⟩, .voteAccept 1 mn),
          (⟨proposer, 22, 2200⟩, .proposeDrain a mn feeBlacklistDrainV1),
          (⟨owner, 23, 2300⟩, .voteAccept 2 mn)]
      let s : DrainSystem := ⟨r, m₀.finalizeMigration⟩
      r.isDrainable 2400 a = .ok true ∧
        s.drainMigration 2400 0 a = .ok s' ∧
        s'.migration.coins[1]? = some ⟨a, 7⟩ ∧
        s'.registry.isBlacklisted 2500 a = .ok false ∧
        ∃ s'', s'.claim hasher (fun _ _ _ _ => some a) ⟨0xD#160, 25, 2500⟩ (fun _ => true) 1
          0xD#160 27 0 0 = .ok s'' ∧ s''.migration.coins[1]? = some ⟨a, 0⟩ :=
  ⟨_, _, _, rfl, rfl, rfl, rfl, rfl, rfl, _, rfl, rfl⟩

end DrainSystem

end RangeCore.Governance
