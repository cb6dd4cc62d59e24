import RangeCore.Consensus.Engine
import RangeCore.Lib.GoRuntime
import RangeCore.Lib.RateLimit
import RangeCore.Lib.ExceptBind
import RangeCore.Lib.Run

/-!
# The zero-fee protector of the transaction pool

`zeroFeeProtector` of `core/range_zerofee.go` rate-limits the zero-fee transactions the pool lets
in: masternode heartbeats, invalidations and checkpoint signatures per sender, and Gen 2 coin
claims per item. Each kind has a table of the time of its last accepted call; `checkDoS`
rejects a call whose entry is younger than the kind's period, dry-runs the call on a copy of
the pool's state, and records the time only when everything passed. Whatever the outcome, the
deferred `cleanupAllByTimeout` then sweeps, at most once a minute, the entries older than their
periods.

The checks by method have three outcomes (`dispatch_cases`), so one call changes an entry in one
of three ways: it writes the call's own time, keeps it, or removes it being older than the
entry's period (`stamp_checkDoS`); an accepted call found its entry at least a period old and
leaves its own time (`checkDoS_ok_stamp`). Along any run, two accepted calls under one key are
then a period apart (`RateLimit.Since`, carried by `since_run`). A rejected call only sweeps
(`checkDoS_error_eq`), which may remove entries of other keys (`zero_fee_rejected_sweeps`).

Times are nanoseconds on the clock that `time.Now` reads; the method selectors are parameters,
being `Keccak256` values this development does not compute.

## Main definitions

* `RangeCore.PoolEnv`, `RangeCore.PoolError`, `RangeCore.methodID`.
* `RangeCore.ZeroFeeProtector` with `cleanupAllBySender`, `cleanupAllByTimeout`,
  `checkMasternode`, `checkMigration`, `checkDoS`, `step` and `run`.
* `RangeCore.ZfKey`, `RangeCore.zfKey`, `RangeCore.ZeroFeeProtector.stamp`: what a call is
  limited by.

## Main results

* `RangeCore.ZeroFeeProtector.dispatch_cases`: the outcomes of the checks.
* `RangeCore.ZeroFeeProtector.stamp_checkDoS`, `RangeCore.ZeroFeeProtector.checkDoS_ok_stamp`.
* `RangeCore.ZeroFeeProtector.since_run`: the invariant along a run.
* `RangeCore.ZeroFeeProtector.zero_fee_rate_limits`.
* `RangeCore.ZeroFeeProtector.zero_fee_rejected_sweeps`.
-/

namespace RangeCore

/-- `energi_params.Range_MasternodeRegistry`. -/
def rangeMasternodeRegistry : Address := 0x302#160

/-- `energi_params.Range_MasternodeList`: the storage of active-masternode flags. -/
def rangeMasternodeList : Address := 0x30C#160

/-- `types.MethodID`: four bytes. -/
abbrev MethodID := Vector UInt8 4

/-- `tx.MethodID()`: the first four bytes of the payload, zeros for a shorter one. -/
def methodID (tx : Transaction) : MethodID :=
  if h : 4 ≤ tx.payload.length then ⟨(tx.payload.take 4).toArray, by simp [h]⟩
  else ⟨#[0, 0, 0, 0], rfl⟩

/-- A call whose data starts with a selector calls that method. -/
theorem methodID_eq_of_payload {tx : Transaction} {sel : MethodID} {args : List UInt8}
    (h : tx.payload = sel.toList ++ args) : methodID tx = sel := by
  have hlen : 4 ≤ tx.payload.length := by simp [h]
  rw [methodID, dif_pos hlen]
  apply Vector.toArray_inj.1
  simp [h, List.take_left', Vector.toArray_toList]

/-- The selectors that `init` reads from the ABIs: `claim` and `verifyClaim` of
`Gen2Migration`, `heartbeat` and `invalidate` of `IMasternodeRegistryV2`, `sign` of
`ICheckpointRegistry`, and `propose` of `IBlacklistRegistry`. -/
structure MethodIds where
  claim : MethodID
  verifyClaim : MethodID
  mnHeartbeat : MethodID
  mnInvalidate : MethodID
  cpSign : MethodID
  blPropose : MethodID

/-- What the pool's checks read of the node besides their own tables: the selectors, the sender
that `types.Sender` recovers, the pool's current state, whether `pool.chain` is a `*BlockChain`,
the output of `ApplyMessage` of a message with the sender, the transaction's fields and the
given call data on a copy of the state (`none` when it failed or returned an error), and the
chain configuration's EBI signer. -/
structure PoolEnv where
  ids : MethodIds
  sender : Transaction → Except Error Address
  currentState : StateDB
  hasBlockChain : Bool
  applyMessage : Address → Transaction → List UInt8 → Option (List UInt8)
  ebiSigner : Address

/-- What the zero-fee and pre-blacklist checks return: `ErrZeroFeeDoS`, `ErrPreBlacklist`, the
`fmt.Errorf` of a claim without its data, and the error of `types.Sender`. -/
inductive PoolError where
  | errZeroFeeDoS
  | errPreBlacklist
  | missingTxData
  | sender (e : Error)
  deriving DecidableEq, Repr

/-- `zfCleanupTimeout`, a minute in nanoseconds. -/
def zfCleanupTimeout : ℤ := 60 * 10 ^ 9

/-- `zfMinHeartbeatPeriod`. -/
def zfMinHeartbeatPeriod : ℤ := 60 * 10 ^ 9

/-- `zfMinInvalidationPeriod`. -/
def zfMinInvalidationPeriod : ℤ := 60 * 10 ^ 9

/-- `zfMinCoinClaimPeriod`. -/
def zfMinCoinClaimPeriod : ℤ := 3 * 60 * 10 ^ 9

/-- `zfMinCheckpointPeriod`. -/
def zfMinCheckpointPeriod : ℤ := 10 * 60 * 10 ^ 9

/-- `zeroFeeProtector`: the time of the last accepted call per sender for each masternode call,
per item for coin claims, and the time of the next sweep. -/
structure ZeroFeeProtector where
  mnHeartbeats : Address → Option ℤ
  mnInvalidations : Address → Option ℤ
  mnCheckpoints : Address → Option ℤ
  coinClaims : UInt32 → Option ℤ
  nextCleanup : ℤ

/-- `newZeroFeeProtector`, created at `now`. -/
def newZeroFeeProtector (now : ℤ) : ZeroFeeProtector :=
  ⟨fun _ => none, fun _ => none, fun _ => none, fun _ => none, now + zfCleanupTimeout⟩

namespace ZeroFeeProtector

variable (z : ZeroFeeProtector) (env : PoolEnv)

/-- `cleanupTimeout`: the entries older than `timeout` are deleted. -/
def cleanupTimeout (now : ℤ) (timeMap : Address → Option ℤ) (timeout : ℤ) :
    Address → Option ℤ :=
  GoTime.expire timeMap now timeout

/-- `cleanupBySender`. -/
def cleanupBySender (sender : Address) (timeMap : Address → Option ℤ) : Address → Option ℤ :=
  Function.update timeMap sender none

/-- `cleanupAllBySender`: the sender's entries of the three masternode tables are deleted. -/
def cleanupAllBySender (sender : Address) : ZeroFeeProtector :=
  { z with
    mnHeartbeats := cleanupBySender sender z.mnHeartbeats
    mnInvalidations := cleanupBySender sender z.mnInvalidations
    mnCheckpoints := cleanupBySender sender z.mnCheckpoints }

/-- `cleanupAllByTimeout`: from `nextCleanup` on, every table loses its entries older than its
period, and the next sweep is a minute later. -/
def cleanupAllByTimeout (now : ℤ) : ZeroFeeProtector :=
  if GoTime.after z.nextCleanup now then z
  else
    { mnHeartbeats := cleanupTimeout now z.mnHeartbeats zfMinHeartbeatPeriod
      mnInvalidations := cleanupTimeout now z.mnInvalidations zfMinInvalidationPeriod
      mnCheckpoints := cleanupTimeout now z.mnCheckpoints zfMinCheckpointPeriod
      coinClaims := GoTime.expire z.coinClaims now zfMinCoinClaimPeriod
      nextCleanup := now + zfCleanupTimeout }

/-- `checkMasternode`: a call too soon after the sender's last one, from a sender the
masternode list does not flag, without a blockchain, or failing its dry run is rejected; an
accepted one records its time in the table, which is returned. -/
def checkMasternode (sender : Address) (now : ℤ) (tx : Transaction)
    (timeMap : Address → Option ℤ) (timeout : ℤ) : Except PoolError (Address → Option ℤ) := do
  if let some v := timeMap sender then
    if GoTime.sub now v < timeout then throw .errZeroFeeDoS
  if env.currentState.storage rangeMasternodeList sender.toHash = 0 then throw .errZeroFeeDoS
  if !env.hasBlockChain then throw .errZeroFeeDoS
  match env.applyMessage sender tx tx.payload with
  | none => throw .errZeroFeeDoS
  | some _ => pure (Function.update timeMap sender (some now))

/-- The item a claim's call data names, `uint32(new(big.Int).SetBytes(callData[4:36]).Uint64())`:
the low 32 bits of its first argument. -/
def claimItem (callData : List UInt8) : UInt32 :=
  UInt32.ofNat (Consensus.ofBytesBE ((callData.drop 4).take 32))

/-- `checkMigration`: a claim with no more than its item, too soon after the item's last claim,
without a blockchain, whose `verifyClaim` dry run fails or does not return a positive amount is
rejected; an accepted one records its time under the item, in the table returned. -/
def checkMigration (coinClaims : UInt32 → Option ℤ) (sender : Address) (now : ℤ)
    (tx : Transaction) : Except PoolError (UInt32 → Option ℤ) := do
  let callData := tx.payload
  if callData.length ≤ 36 then throw .missingTxData
  let itemId := claimItem callData
  if let some v := coinClaims itemId then
    if GoTime.sub now v < zfMinCoinClaimPeriod then throw .errZeroFeeDoS
  -- `copy(callData[:], energiVerifyClaimID[:])` turns the claim into its `verifyClaim`
  let callData := env.ids.verifyClaim.toList ++ callData.drop 4
  if !env.hasBlockChain then throw .errZeroFeeDoS
  match env.applyMessage sender tx callData with
  | none => throw .errZeroFeeDoS
  | some output =>
    if output.length ≠ 32 then throw .errZeroFeeDoS
    if Consensus.ofBytesBE output = 0 then throw .errZeroFeeDoS
    pure (Function.update coinClaims itemId (some now))

/-- A check of one table: the protector with the table it returns, or as it was on an error. -/
def applyCheck {β : Type} (set : β → ZeroFeeProtector) :
    Except PoolError β → ZeroFeeProtector × Except PoolError Unit
  | .ok m => (set m, .ok ())
  | .error e => (z, .error e)

/-- The checks of `checkDoS` by the method of the call, each against its table. -/
def dispatch (now : ℤ) (tx : Transaction) : ZeroFeeProtector × Except PoolError Unit :=
  match env.sender tx with
  | .error e => (z, .error (.sender e))
  | .ok sender =>
    let method := methodID tx
    if method = env.ids.mnHeartbeat then
      z.applyCheck (fun m => { z with mnHeartbeats := m })
        (checkMasternode env sender now tx z.mnHeartbeats zfMinHeartbeatPeriod)
    else if method = env.ids.mnInvalidate then
      z.applyCheck (fun m => { z with mnInvalidations := m })
        (checkMasternode env sender now tx z.mnInvalidations zfMinInvalidationPeriod)
    else if method = env.ids.claim then
      z.applyCheck (fun m => { z with coinClaims := m })
        (checkMigration env z.coinClaims sender now tx)
    else if method = env.ids.cpSign then
      z.applyCheck (fun m => { z with mnCheckpoints := m })
        (checkMasternode env sender now tx z.mnCheckpoints zfMinCheckpointPeriod)
    else (z, .ok ())

/-- `checkDoS` at `now`: the call's checks, after which the tables are swept
(`defer z.cleanupAllByTimeout(now)`) whatever the outcome. -/
def checkDoS (now : ℤ) (tx : Transaction) : ZeroFeeProtector × Except PoolError Unit :=
  ((z.dispatch env now tx).1.cleanupAllByTimeout now, (z.dispatch env now tx).2)

end ZeroFeeProtector

/-! ### What a call is limited by -/

/-- The entry a zero-fee call is limited by: the sender's entry in the heartbeat, invalidation or
checkpoint table, or the item's in the claims table. -/
inductive ZfKey where
  | heartbeat (sender : Address)
  | invalidation (sender : Address)
  | coinClaim (item : UInt32)
  | checkpoint (sender : Address)
  deriving DecidableEq

namespace ZfKey

/-- The period of the key's table. -/
def period : ZfKey → ℤ
  | .heartbeat _ => zfMinHeartbeatPeriod
  | .invalidation _ => zfMinInvalidationPeriod
  | .coinClaim _ => zfMinCoinClaimPeriod
  | .checkpoint _ => zfMinCheckpointPeriod

/-- Every period is a positive `Duration`. -/
theorem period_pos_lt (κ : ZfKey) : 0 < κ.period ∧ κ.period < GoTime.maxDuration := by
  cases κ <;> simp [period, zfMinHeartbeatPeriod, zfMinInvalidationPeriod, zfMinCoinClaimPeriod,
    zfMinCheckpointPeriod, GoTime.maxDuration]

/-- The masternode whose entry a key is: the tables that `cleanupAllBySender` clears. -/
def masternode : ZfKey → Option Address
  | .heartbeat s => some s
  | .invalidation s => some s
  | .coinClaim _ => none
  | .checkpoint s => some s

end ZfKey

/-- The key `checkDoS` checks a transaction under, by the dispatch on its method: none for a
transaction whose sender is not recovered, a claim with no more than its item, or another
method. -/
def zfKey (env : PoolEnv) (tx : Transaction) : Option ZfKey :=
  match env.sender tx with
  | .error _ => none
  | .ok sender =>
    let method := methodID tx
    if method = env.ids.mnHeartbeat then some (.heartbeat sender)
    else if method = env.ids.mnInvalidate then some (.invalidation sender)
    else if method = env.ids.claim then
      if tx.payload.length ≤ 36 then none else some (.coinClaim (ZeroFeeProtector.claimItem tx.payload))
    else if method = env.ids.cpSign then some (.checkpoint sender)
    else none

namespace ZeroFeeProtector

variable (z : ZeroFeeProtector) {env : PoolEnv}

/-- The entry of a key. -/
def stamp : ZfKey → Option ℤ
  | .heartbeat s => z.mnHeartbeats s
  | .invalidation s => z.mnInvalidations s
  | .coinClaim i => z.coinClaims i
  | .checkpoint s => z.mnCheckpoints s

/-- The protector with a time recorded under a key. -/
def record : ZfKey → ℤ → ZeroFeeProtector
  | .heartbeat s, now => { z with mnHeartbeats := Function.update z.mnHeartbeats s (some now) }
  | .invalidation s, now =>
    { z with mnInvalidations := Function.update z.mnInvalidations s (some now) }
  | .coinClaim i, now => { z with coinClaims := Function.update z.coinClaims i (some now) }
  | .checkpoint s, now => { z with mnCheckpoints := Function.update z.mnCheckpoints s (some now) }

@[simp] theorem stamp_record (κ κ' : ZfKey) (now : ℤ) :
    (z.record κ now).stamp κ' = if κ' = κ then some now else z.stamp κ' := by
  cases κ <;> cases κ' <;> simp [record, stamp, Function.update_apply]

variable {z} {sender : Address} {now : ℤ} {tx : Transaction}

theorem checkMasternode_ok {m m' : Address → Option ℤ} {T : ℤ}
    (h : checkMasternode env sender now tx m T = .ok m') :
    (∀ v, m sender = some v → ¬GoTime.sub now v < T) ∧ m' = Function.update m sender (some now) := by
  unfold checkMasternode at h
  dsimp only at h
  -- the entry and the dry run decide which branch returned
  cases hm : m sender <;> cases happ : env.applyMessage sender tx tx.payload <;>
    simp [hm, happ, Except.pure_eq_ok] at h ⊢
  · exact h.2.2.symm
  · exact ⟨h.1, h.2.2.2.symm⟩

theorem checkMigration_ok {c c' : UInt32 → Option ℤ}
    (h : checkMigration env c sender now tx = .ok c') :
    ¬tx.payload.length ≤ 36 ∧
      (∀ v, c (claimItem tx.payload) = some v → ¬GoTime.sub now v < zfMinCoinClaimPeriod) ∧
      c' = Function.update c (claimItem tx.payload) (some now) := by
  unfold checkMigration at h
  dsimp only at h
  cases hm : c (claimItem tx.payload) <;>
    cases happ : env.applyMessage sender tx (env.ids.verifyClaim.toList ++ tx.payload.drop 4) <;>
    simp [hm, happ, Except.pure_eq_ok] at h ⊢
  · exact ⟨h.1, h.2.2.2.2.symm⟩
  · exact ⟨h.1, h.2.1, h.2.2.2.2.2.symm⟩

/-- A masternode check under the key of the sender's entry: rejected with the protector as it
was, or accepted having found the entry at least the period old, with the time recorded. -/
theorem applyCheck_checkMasternode (κ : ZfKey) (m : Address → Option ℤ)
    (set : (Address → Option ℤ) → ZeroFeeProtector) (hm : z.stamp κ = m sender)
    (hset : set (Function.update m sender (some now)) = z.record κ now) :
    (∃ e, z.applyCheck set (checkMasternode env sender now tx m κ.period) = (z, .error e)) ∨
      (∀ v, z.stamp κ = some v → ¬GoTime.sub now v < κ.period) ∧
        z.applyCheck set (checkMasternode env sender now tx m κ.period) =
          (z.record κ now, .ok ()) := by
  cases hc : checkMasternode env sender now tx m κ.period with
  | error e => exact .inl ⟨e, rfl⟩
  | ok m' =>
    obtain ⟨hentry, rfl⟩ := checkMasternode_ok hc
    exact .inr ⟨hm ▸ hentry, by rw [← hset]; rfl⟩

/-- The claim check: rejected with the protector as it was, or accepted for a claim with more
than its item, having found the item's entry at least the period old, with the time recorded. -/
theorem applyCheck_checkMigration :
    (∃ e, z.applyCheck (fun m => { z with coinClaims := m })
        (checkMigration env z.coinClaims sender now tx) = (z, .error e)) ∨
      ¬tx.payload.length ≤ 36 ∧
        (∀ v, z.stamp (.coinClaim (claimItem tx.payload)) = some v →
          ¬GoTime.sub now v < zfMinCoinClaimPeriod) ∧
        z.applyCheck (fun m => { z with coinClaims := m })
            (checkMigration env z.coinClaims sender now tx) =
          (z.record (.coinClaim (claimItem tx.payload)) now, .ok ()) := by
  cases hc : checkMigration env z.coinClaims sender now tx with
  | error e => exact .inl ⟨e, rfl⟩
  | ok c' =>
    obtain ⟨hlen, hentry, rfl⟩ := checkMigration_ok hc
    exact .inr ⟨hlen, hentry, rfl⟩

variable (z env now tx)

/-- What the checks of a call do: a rejected call leaves the protector as it was; an accepted
call under a key found the key's entry at least its period old and records the time under it;
an accepted call under no key changes nothing. -/
theorem dispatch_cases :
    (∃ e, z.dispatch env now tx = (z, .error e)) ∨
      (∃ κ, zfKey env tx = some κ ∧ (∀ v, z.stamp κ = some v → ¬GoTime.sub now v < κ.period) ∧
        z.dispatch env now tx = (z.record κ now, .ok ())) ∨
      zfKey env tx = none ∧ z.dispatch env now tx = (z, .ok ()) := by
  unfold dispatch zfKey
  cases env.sender tx with
  | error e => exact .inl ⟨_, rfl⟩
  | ok sender =>
    dsimp only
    split_ifs with hhb hinv hclaim hlen hcp
    · rcases applyCheck_checkMasternode (.heartbeat sender) z.mnHeartbeats
        (fun m => { z with mnHeartbeats := m }) rfl rfl with h | ⟨hc, h⟩
      · exact .inl h
      · exact .inr (.inl ⟨_, rfl, hc, h⟩)
    · rcases applyCheck_checkMasternode (.invalidation sender) z.mnInvalidations
        (fun m => { z with mnInvalidations := m }) rfl rfl with h | ⟨hc, h⟩
      · exact .inl h
      · exact .inr (.inl ⟨_, rfl, hc, h⟩)
    · -- a claim with no more than its item is rejected by its length check
      rcases applyCheck_checkMigration with h | ⟨hlen', -⟩
      · exact .inl h
      · exact absurd hlen hlen'
    · rcases applyCheck_checkMigration with h | ⟨-, hc, h⟩
      · exact .inl h
      · exact .inr (.inl ⟨_, rfl, hc, h⟩)
    · rcases applyCheck_checkMasternode (.checkpoint sender) z.mnCheckpoints
        (fun m => { z with mnCheckpoints := m }) rfl rfl with h | ⟨hc, h⟩
      · exact .inl h
      · exact .inr (.inl ⟨_, rfl, hc, h⟩)
    · exact .inr (.inr ⟨rfl, rfl⟩)

variable {z env now tx}

/-- A sweep removes an entry only once it is older than its period. -/
theorem stamp_cleanupAllByTimeout (now : ℤ) (κ : ZfKey) :
    RateLimit.Step κ.period now (z.stamp κ) ((z.cleanupAllByTimeout now).stamp κ) := by
  unfold cleanupAllByTimeout
  split
  · exact RateLimit.Step.refl
  · obtain ⟨h0, hmax⟩ := κ.period_pos_lt
    cases κ <;> exact RateLimit.step_expire _ _ h0.le hmax

/-- A sweep keeps an entry of its own time. -/
theorem stamp_cleanupAllByTimeout_of_eq {κ : ZfKey} (h : z.stamp κ = some now) :
    (z.cleanupAllByTimeout now).stamp κ = some now := by
  rcases stamp_cleanupAllByTimeout now κ with h' | h' | ⟨-, v, hv, hlt⟩
  · exact h'
  · rw [h', h]
  · rw [h] at hv
    cases hv
    have := κ.period_pos_lt.1
    omega

/-- One call changes an entry by writing the call's time, keeping it, or removing it being older
than its period. -/
theorem stamp_checkDoS (κ : ZfKey) :
    RateLimit.Step κ.period now (z.stamp κ) ((z.checkDoS env now tx).1.stamp κ) := by
  unfold checkDoS
  rcases dispatch_cases z env now tx with ⟨e, h⟩ | ⟨κ₀, -, -, h⟩ | ⟨-, h⟩
  · rw [h]
    exact stamp_cleanupAllByTimeout now κ
  · rw [h]
    dsimp only
    by_cases hκ : κ = κ₀
    · -- the recorded entry is of the call's own time, which the sweep keeps
      have hrec : (z.record κ₀ now).stamp κ = some now := by simp [hκ]
      exact .inl (stamp_cleanupAllByTimeout_of_eq hrec)
    · have hrec : (z.record κ₀ now).stamp κ = z.stamp κ := by simp [hκ]
      exact hrec ▸ stamp_cleanupAllByTimeout now κ
  · rw [h]
    exact stamp_cleanupAllByTimeout now κ

/-- An accepted call under a key found the key's entry at least its period old and leaves the
call's time in it. -/
theorem checkDoS_ok_stamp {κ : ZfKey} (hκ : zfKey env tx = some κ)
    (hok : (z.checkDoS env now tx).2 = .ok ()) :
    (∀ v, z.stamp κ = some v → κ.period ≤ now - v) ∧ (z.checkDoS env now tx).1.stamp κ = some now := by
  unfold checkDoS at hok ⊢
  rcases dispatch_cases z env now tx with ⟨e, h⟩ | ⟨κ₀, hκ₀, hc, h⟩ | ⟨hnone, -⟩
  · rw [h] at hok
    cases hok
  · rw [hκ] at hκ₀
    cases hκ₀
    obtain ⟨h0, hmax⟩ := κ.period_pos_lt
    refine ⟨fun v hv => not_lt.1 fun hlt => hc v hv ((GoTime.sub_lt_iff h0 hmax.le).2 hlt), ?_⟩
    rw [h]
    exact stamp_cleanupAllByTimeout_of_eq (by simp)
  · rw [hκ] at hnone
    cases hnone

/-- A rejected call only sweeps. -/
theorem checkDoS_error_eq {e : PoolError} (h : (z.checkDoS env now tx).2 = .error e) :
    (z.checkDoS env now tx).1 = z.cleanupAllByTimeout now := by
  unfold checkDoS at h ⊢
  rcases dispatch_cases z env now tx with ⟨e', h'⟩ | ⟨κ₀, -, -, h'⟩ | ⟨-, h'⟩
  · rw [h']
  · rw [h'] at h
    cases h
  · rw [h'] at h
    cases h

/-- `cleanupAllBySender` keeps the entries of every other sender and of every claim. -/
theorem stamp_cleanupAllBySender {s : Address} {κ : ZfKey} (h : κ.masternode ≠ some s) :
    (z.cleanupAllBySender s).stamp κ = z.stamp κ := by
  cases κ <;>
    simp_all [cleanupAllBySender, cleanupBySender, stamp, ZfKey.masternode]

end ZeroFeeProtector

/-! ### Runs of the protector -/

/-- What the pool does to the protector: `checkDoS` of a call at a time, and
`cleanupAllBySender` of a sender, which the pre-blacklist does on a target it records. -/
inductive ZfEvent where
  | checkDoS (env : PoolEnv) (now : ℤ) (tx : Transaction)
  | cleanupAllBySender (sender : Address)

namespace ZeroFeeProtector

/-- The protector after one event. -/
def step (z : ZeroFeeProtector) : ZfEvent → ZeroFeeProtector
  | .checkDoS env now tx => (z.checkDoS env now tx).1
  | .cleanupAllBySender s => z.cleanupAllBySender s

/-- The protector after the events, in order. -/
def run (z : ZeroFeeProtector) (es : List ZfEvent) : ZeroFeeProtector :=
  StateMachine.run step z es

variable {z : ZeroFeeProtector} {κ : ZfKey} {t hi : ℤ}

/-- Along events whose calls come between `t` and `hi` and that do not clear the key's
masternode, an entry from a use at `t` keeps a time from `t` on or is swept a period after it. -/
theorem since_run (es : List ZfEvent) (h : RateLimit.Since κ.period t hi (z.stamp κ))
    (hclock : ∀ env now tx, ZfEvent.checkDoS env now tx ∈ es → t ≤ now ∧ now ≤ hi)
    (hkeep : ∀ s, ZfEvent.cleanupAllBySender s ∈ es → κ.masternode ≠ some s) :
    RateLimit.Since κ.period t hi ((z.run es).stamp κ) := by
  refine StateMachine.run_invariant_of_mem step (fun z => RateLimit.Since κ.period t hi (z.stamp κ))
    h fun z e he hz => ?_
  cases e with
  | checkDoS env now tx =>
    obtain ⟨ht, hhi⟩ := hclock env now tx he
    exact hz.step (stamp_checkDoS κ) ht hhi
  | cleanupAllBySender s =>
    show RateLimit.Since _ _ _ ((z.cleanupAllBySender s).stamp κ)
    rw [stamp_cleanupAllBySender (hkeep s he)]
    exact hz

/-- Over any run, two accepted calls under one key (a sender's heartbeats, invalidations or
checkpoint signatures, or the claims of one item), with the calls in between on a clock between
theirs and no clearing of the sender, are the key's period apart; a sweep removes only entries
older than their period; and a rejected call changes the tables only by the sweep. -/
theorem zero_fee_rate_limits (z : ZeroFeeProtector) (pre mid : List ZfEvent) {env env' : PoolEnv}
    {now now' : ℤ} {tx tx' : Transaction} {κ : ZfKey} (hκ : zfKey env tx = some κ)
    (hκ' : zfKey env' tx' = some κ) (hok : ((z.run pre).checkDoS env now tx).2 = .ok ())
    (hok' : ((((z.run pre).checkDoS env now tx).1.run mid).checkDoS env' now' tx').2 = .ok ())
    (hclock : ∀ e n x, ZfEvent.checkDoS e n x ∈ mid → now ≤ n ∧ n ≤ now')
    (hkeep : ∀ s, ZfEvent.cleanupAllBySender s ∈ mid → κ.masternode ≠ some s) :
    κ.period ≤ now' - now ∧
      (∀ (z : ZeroFeeProtector) (now : ℤ) (κ : ZfKey) (v : ℤ), z.stamp κ = some v →
        (z.cleanupAllByTimeout now).stamp κ = none → κ.period < now - v) ∧
      ∀ (z : ZeroFeeProtector) env now tx (e : PoolError), (z.checkDoS env now tx).2 = .error e →
        (z.checkDoS env now tx).1 = z.cleanupAllByTimeout now := by
  refine ⟨?_, fun z now κ v hv hnone => ?_, fun z env now tx e h => checkDoS_error_eq h⟩
  · -- the first call leaves its time, which the calls in between keep or sweep a period later
    have hsince : RateLimit.Since κ.period now now' (((z.run pre).checkDoS env now tx).1.stamp κ) :=
      by rw [(checkDoS_ok_stamp hκ hok).2]; exact RateLimit.since_some le_rfl
    exact (since_run mid hsince hclock hkeep).period_le (checkDoS_ok_stamp hκ' hok').1 le_rfl
  · rcases stamp_cleanupAllByTimeout (z := z) now κ with h | h | ⟨-, v', hv', hlt⟩
    · rw [h] at hnone
      cases hnone
    · rw [h, hv] at hnone
      cases hnone
    · rw [hv] at hv'
      cases hv'
      exact hlt

/-- Two heartbeats of a masternode the list flags, a minute apart, are both accepted. -/
theorem zero_fee_rate_limits_heartbeats :
    let env : PoolEnv :=
      { ids := ⟨#v[1, 0, 0, 0], #v[2, 0, 0, 0], #v[3, 0, 0, 0], #v[4, 0, 0, 0], #v[5, 0, 0, 0],
          #v[6, 0, 0, 0]⟩
        sender := fun _ => .ok 0xA#160
        currentState := ⟨fun _ => 0, fun _ => 0, fun _ _ => 1, fun _ => 0⟩
        hasBlockChain := true
        applyMessage := fun _ _ _ => some []
        ebiSigner := 0 }
    let tx : Transaction := ⟨0, 0, 0, some rangeMasternodeRegistry, 0, [3, 0, 0, 0], 0, 0, 0⟩
    ((newZeroFeeProtector 0).checkDoS env 0 tx).2 = .ok () ∧
      (((newZeroFeeProtector 0).checkDoS env 0 tx).1.checkDoS env (60 * 10 ^ 9) tx).2 = .ok () ∧
      (ZfKey.heartbeat 0xA#160).period ≤ 60 * 10 ^ 9 - 0 := by
  intro env tx
  have hok : ((newZeroFeeProtector 0).checkDoS env 0 tx).2 = .ok () := rfl
  have hok' : (((newZeroFeeProtector 0).checkDoS env 0 tx).1.checkDoS env (60 * 10 ^ 9) tx).2 =
      .ok () := rfl
  exact ⟨hok, hok', (@zero_fee_rate_limits (newZeroFeeProtector 0) [] [] env env 0 (60 * 10 ^ 9)
    tx tx _ rfl rfl hok hok' (by simp) (by simp)).1⟩

/-- A heartbeat from a sender the masternode list does not flag, two minutes after the last
heartbeat of `0xA` and past the time of the next sweep: it is rejected, and the sweep it runs
removes the entry of `0xA`. -/
theorem zero_fee_rejected_sweeps :
    let env : PoolEnv :=
      { ids := ⟨#v[1, 0, 0, 0], #v[2, 0, 0, 0], #v[3, 0, 0, 0], #v[4, 0, 0, 0], #v[5, 0, 0, 0],
          #v[6, 0, 0, 0]⟩
        sender := fun _ => .ok 0xB#160
        currentState := ⟨fun _ => 0, fun _ => 0, fun _ _ => 0, fun _ => 0⟩
        hasBlockChain := true
        applyMessage := fun _ _ _ => some []
        ebiSigner := 0 }
    let tx : Transaction := ⟨0, 0, 0, some rangeMasternodeRegistry, 0, [3, 0, 0, 0], 0, 0, 0⟩
    let z : ZeroFeeProtector :=
      { newZeroFeeProtector 0 with
        mnHeartbeats := fun s => if s = 0xA#160 then some 0 else none
        nextCleanup := 0 }
    (z.checkDoS env (2 * 60 * 10 ^ 9) tx).2 = .error .errZeroFeeDoS ∧ z.mnHeartbeats 0xA#160 = some 0 ∧
      (z.checkDoS env (2 * 60 * 10 ^ 9) tx).1.mnHeartbeats 0xA#160 = none := by
  intro env tx z
  exact ⟨rfl, rfl, rfl⟩

end ZeroFeeProtector

end RangeCore
