import RangeCore.Core.ZeroFee

/-!
# The preliminary blacklist of the transaction pool

`preBlacklist` of `core/range_preblacklist.go` holds back, for an hour, the targets that the EBI
signer proposes to blacklist, before the registry's vote ends. A transaction that calls
`propose(target)` on the blacklist registry from the EBI signer, and whose dry run succeeds,
records the target with the time of the call, unless the target is known already or
whitelisted, and removes the target's transactions from the pool, which clears its zero-fee
entries too. `processTx`, which `validateTx` runs on every transaction, then rejects the
target's transactions with `ErrPreBlacklist` while its entry is at most `pbPeriod` old, and
`filterBlocks` cuts a batch of imported blocks before the first one the target mined.

An entry is not rewritten before it is `pbPeriod` old: each call keeps it, or, the entry being
empty or older, leaves it empty or writes the call's time (`proposed_pbStep`, a
`RateLimit.StepOnce`). An entry is written only by a proposal that passed every check
(`processProposal_eq_some`). So along any run whose clock stays within `pbPeriod` of a recorded
time, the entry keeps that time (`proposed_pbRun`) and the target's transactions are rejected
(`processTx_preblacklisted`); `filterBlocks` returns the longest prefix of its blocks with no
recorded coinbase (`filterBlocks_eq_takeWhile`).

The target is read from the bytes 16 to 36 of the call data with no check of their length, so a
`propose` call of the EBI signer with less data panics in `processTx`
(`processTx_short_propose_panics`); so does a pool whose chain is not a `*BlockChain`, at the
type assertion (`processProposal_eq_none_iff`). A panic is `none`.

## Main definitions

* `RangeCore.PreBlacklist` with `cleanupRoutine`, `isActive`, `processProposal`, `processTx` and
  `filterBlocks`.
* `RangeCore.TxPool`: the pool's zero-fee protector and pre-blacklist, with
  `removeBySenderLocked`, `preBlacklistHook`, `pbStep` and `pbRun`.

## Main results

* `RangeCore.PreBlacklist.processProposal_eq_none_iff`,
  `RangeCore.PreBlacklist.processProposal_eq_some`: the panics and the writes of a proposal.
* `RangeCore.TxPool.proposed_pbStep`, `RangeCore.TxPool.proposed_pbRun`.
* `RangeCore.PreBlacklist.processTx_preblacklisted`.
* `RangeCore.PreBlacklist.filterBlocks_eq_takeWhile`.
* `RangeCore.PreBlacklist.processTx_short_propose_panics`.
-/

namespace RangeCore

/-- `pbCleanupTimeout`, a minute in nanoseconds. -/
def pbCleanupTimeout : ℤ := 60 * 10 ^ 9

/-- `pbPeriod`, an hour. -/
def pbPeriod : ℤ := 60 * 60 * 10 ^ 9

/-- `preBlacklist`: the time each target was proposed at, and the time of the next sweep. -/
structure PreBlacklist where
  proposed : Address → Option ℤ
  nextCleanup : ℤ

/-- `newPreBlacklist`, created at `now`. -/
def newPreBlacklist (now : ℤ) : PreBlacklist := ⟨fun _ => none, now + pbCleanupTimeout⟩

/-- The parts of `TxPool` that its zero-fee and pre-blacklist checks read and write. -/
structure TxPool where
  zfProtector : ZeroFeeProtector
  preBlacklist : PreBlacklist

/-- `removeBySenderLocked`: of what it does, the clearing of the sender's zero-fee entries (the
removal of its pending and queued transactions is not modelled). -/
def TxPool.removeBySenderLocked (pool : TxPool) (sender : Address) : TxPool :=
  { pool with zfProtector := pool.zfProtector.cleanupAllBySender sender }

namespace PreBlacklist

variable (pb : PreBlacklist)

/-- `cleanupRoutine`: from `nextCleanup` on, the entries older than `pbPeriod` are deleted and
the next sweep is a minute later. -/
def cleanupRoutine (now : ℤ) : PreBlacklist :=
  if GoTime.after pb.nextCleanup now then pb
  else { proposed := GoTime.expire pb.proposed now pbPeriod, nextCleanup := now + pbCleanupTimeout }

/-- `isActive`: the sender was proposed at most `pbPeriod` ago. -/
def isActive (sender : Address) (now : ℤ) : Bool :=
  match pb.proposed sender with
  | some t => decide (GoTime.sub now t ≤ pbPeriod)
  | none => false

/-- `copy(target[:], callData[16:36])`: the address in the low 20 bytes of the first argument,
or `none` for the panic of the slice expression. -/
def proposalTarget (callData : List UInt8) : Option Address :=
  (GoSlice.slice callData 16 36).map fun b => BitVec.ofNat 160 (Consensus.ofBytesBE b)

/-- The pool with a target recorded at `now` in its pre-blacklist. -/
def record (pool : TxPool) (target : Address) (now : ℤ) : TxPool :=
  { pool with
    preBlacklist :=
      { pool.preBlacklist with
        proposed := Function.update pool.preBlacklist.proposed target (some now) } }

/-- `processProposal` of a sender's transaction at `now`: a `propose` call of the EBI signer on
the blacklist registry, whose target is neither known nor whitelisted and whose dry run returns
a word, records the target and removes its transactions; any other transaction changes nothing.
The slice of the target and the type assertion on the pool's chain may panic. -/
def processProposal (pool : TxPool) (env : PoolEnv) (sender : Address) (now : ℤ)
    (tx : Transaction) : Option TxPool := do
  if tx.recipient ≠ some rangeBlacklistRegistry then return pool
  if methodID tx ≠ env.ids.blPropose then return pool
  if sender ≠ env.ebiSigner then return pool
  let target ← proposalTarget tx.payload
  -- a known target keeps the time it was first proposed at
  if (pool.preBlacklist.proposed target).isSome then return pool
  if isWhitelisted env.currentState target then return pool
  -- the single-valued assertion `pool.chain.(*BlockChain)` panics on any other chain
  if !env.hasBlockChain then none
  match env.applyMessage sender tx tx.payload with
  | none => return pool
  | some output =>
    if output.length ≠ 32 then return pool
    return (record pool target now).removeBySenderLocked target

/-- `processTx` at `now` (the time `pb.timeNow()` reads): after the sweep, the transaction is
rejected with the error of `types.Sender`, or with `ErrPreBlacklist` while its sender is
pre-blacklisted; otherwise it is accepted after `processProposal`. -/
def processTx (pool : TxPool) (env : PoolEnv) (now : ℤ) (tx : Transaction) :
    Option (TxPool × Except PoolError Unit) := do
  let pool := { pool with preBlacklist := pool.preBlacklist.cleanupRoutine now }
  match env.sender tx with
  | .error e => return (pool, .error (.sender e))
  | .ok sender =>
    if pool.preBlacklist.isActive sender now then return (pool, .error .errPreBlacklist)
    let pool ← processProposal pool env sender now tx
    return (pool, .ok ())

/-- `filterBlocks` at `now`: after the sweep, the blocks before the first one whose coinbase is
recorded (`blocks[:i]`), or all of them. A block is read through its header. -/
def filterBlocks (now : ℤ) (blocks : List Header) : PreBlacklist × List Header :=
  let pb := pb.cleanupRoutine now
  match blocks.findIdx? fun b => (pb.proposed b.coinbase).isSome with
  | some i => (pb, blocks.take i)
  | none => (pb, blocks)

/-! ### What a proposal does -/

theorem proposalTarget_eq_none_iff {callData : List UInt8} :
    proposalTarget callData = none ↔ callData.length < 36 := by
  rw [proposalTarget, Option.map_eq_none_iff, GoSlice.slice_eq_none_iff]
  omega

@[simp] theorem preBlacklist_removeBySenderLocked (pool : TxPool) (s : Address) :
    (pool.removeBySenderLocked s).preBlacklist = pool.preBlacklist := rfl

variable {pool pool' : TxPool} {env : PoolEnv} {sender : Address} {now : ℤ} {tx : Transaction}

/-- A proposal that does not panic changes nothing, or it is a `propose` call of the EBI signer
on the registry, for a target neither known nor whitelisted, whose dry run returns a word, and it
records the target at `now` and removes the target's transactions. -/
theorem processProposal_eq_some (h : processProposal pool env sender now tx = some pool') :
    pool' = pool ∨
      ∃ target, tx.recipient = some rangeBlacklistRegistry ∧ methodID tx = env.ids.blPropose ∧
        sender = env.ebiSigner ∧ proposalTarget tx.payload = some target ∧
        pool.preBlacklist.proposed target = none ∧ isWhitelisted env.currentState target = false ∧
        env.hasBlockChain = true ∧
        (∃ output, env.applyMessage sender tx tx.payload = some output ∧ output.length = 32) ∧
        pool' = (record pool target now).removeBySenderLocked target := by
  simp only [processProposal, ne_eq, ite_not, Option.pure_def] at h
  split_ifs at h with hto hm hs hbc
  all_goals try exact .inl (Option.some_inj.1 h).symm
  all_goals obtain ⟨target, ht, h⟩ := Option.bind_eq_some_iff.1 h
  all_goals split_ifs at h with hk hw
  all_goals try exact .inl (Option.some_inj.1 h).symm
  · simp at h
  · rcases happ : env.applyMessage sender tx tx.payload with _ | output
    · simp only [happ, Option.some_inj] at h
      exact .inl h.symm
    · simp only [happ] at h
      split_ifs at h with hlen
      · refine .inr ⟨target, hto, hm, hs, ht, by simpa using hk, by simpa using hw,
          by simpa using hbc, ⟨output, rfl, hlen⟩, (Option.some_inj.1 h).symm⟩
      · exact .inl (Option.some_inj.1 h).symm

/-- A transaction that is not a `propose` call of the EBI signer on the registry changes
nothing. -/
theorem processProposal_of_not_propose
    (h : ¬(tx.recipient = some rangeBlacklistRegistry ∧ methodID tx = env.ids.blPropose ∧
      sender = env.ebiSigner)) :
    processProposal pool env sender now tx = some pool := by
  rw [not_and_or, not_and_or] at h
  rcases h with h | h | h <;> simp [processProposal, h]

/-- A proposal panics exactly on a `propose` call of the EBI signer on the registry whose call
data is too short for the target, or whose target is new and not whitelisted while the pool's
chain is not a `*BlockChain`. -/
theorem processProposal_eq_none_iff :
    processProposal pool env sender now tx = none ↔
      tx.recipient = some rangeBlacklistRegistry ∧ methodID tx = env.ids.blPropose ∧
        sender = env.ebiSigner ∧
        (tx.payload.length < 36 ∨
          ∃ target, proposalTarget tx.payload = some target ∧
            pool.preBlacklist.proposed target = none ∧
            isWhitelisted env.currentState target = false ∧ env.hasBlockChain = false) := by
  by_cases hgate : tx.recipient = some rangeBlacklistRegistry ∧ methodID tx = env.ids.blPropose ∧
      sender = env.ebiSigner
  swap
  · rw [processProposal_of_not_propose hgate]
    exact ⟨nofun, fun h => absurd ⟨h.1, h.2.1, h.2.2.1⟩ hgate⟩
  obtain ⟨hto, hm, rfl⟩ := hgate
  rcases ht : proposalTarget tx.payload with _ | target
  · simp [processProposal, hto, hm, ht, proposalTarget_eq_none_iff.1 ht]
  have hlen : ¬tx.payload.length < 36 := fun h => by
    rw [proposalTarget_eq_none_iff.2 h] at ht
    cases ht
  -- past the target, only the type assertion panics
  rcases hk : pool.preBlacklist.proposed target with _ | v <;>
    cases hw : isWhitelisted env.currentState target <;> cases hb : env.hasBlockChain <;>
    simp [processProposal, hto, hm, ht, hlen, hk, hw, hb]
  rcases env.applyMessage env.ebiSigner tx tx.payload with _ | output
  · simp
  · dsimp only
    split_ifs <;> simp

/-! ### Entries are kept for `pbPeriod` -/

theorem pbPeriod_pos_lt : 0 < pbPeriod ∧ pbPeriod < GoTime.maxDuration := by
  norm_num [pbPeriod, GoTime.maxDuration]

/-- The sweep keeps every entry at most `pbPeriod` old. -/
theorem proposed_cleanupRoutine (pb : PreBlacklist) (now : ℤ) (a : Address) :
    RateLimit.StepOnce pbPeriod now (pb.proposed a) ((pb.cleanupRoutine now).proposed a) := by
  rw [cleanupRoutine]
  split
  · exact RateLimit.StepOnce.refl
  · exact RateLimit.stepOnce_expire _ _ pbPeriod_pos_lt.1.le pbPeriod_pos_lt.2

/-- A proposal writes only an empty entry, with its own time. -/
theorem proposed_processProposal (h : processProposal pool env sender now tx = some pool')
    (a : Address) :
    RateLimit.StepOnce pbPeriod now (pool.preBlacklist.proposed a) (pool'.preBlacklist.proposed a) := by
  rcases processProposal_eq_some h with rfl | ⟨target, -, -, -, -, hk, -, -, -, rfl⟩
  · exact RateLimit.StepOnce.refl
  by_cases ha : a = target
  · subst ha
    refine .inr ⟨.inr (by simp [record]), fun v hv => ?_⟩
    rw [hk] at hv
    cases hv
  · simp only [preBlacklist_removeBySenderLocked, record, Function.update_of_ne ha]
    exact RateLimit.StepOnce.refl

/-- `processTx` returns the swept pool, or the result of a proposal on it. -/
theorem processTx_eq_some {r : Except PoolError Unit} (h : processTx pool env now tx = some (pool', r)) :
    pool' = { pool with preBlacklist := pool.preBlacklist.cleanupRoutine now } ∨
      ∃ sender, processProposal { pool with preBlacklist := pool.preBlacklist.cleanupRoutine now }
        env sender now tx = some pool' := by
  simp only [processTx, Option.pure_def] at h
  split at h
  · exact .inl (Prod.mk.inj (Option.some_inj.1 h)).1.symm
  split_ifs at h
  · exact .inl (Prod.mk.inj (Option.some_inj.1 h)).1.symm
  obtain ⟨p, hp, h⟩ := Option.bind_eq_some_iff.1 h
  rw [(Prod.mk.inj (Option.some_inj.1 h)).1] at hp
  exact .inr ⟨_, hp⟩

/-- A transaction of a sender recorded at `t`, at a time at most `pbPeriod` after `t`, is
rejected with `ErrPreBlacklist`. -/
theorem processTx_preblacklisted {T : Address} {t : ℤ} (h : pool.preBlacklist.proposed T = some t)
    (hs : env.sender tx = .ok T) (hnow : now - t ≤ pbPeriod) :
    processTx pool env now tx =
      some ({ pool with preBlacklist := pool.preBlacklist.cleanupRoutine now }, .error .errPreBlacklist) := by
  have hkept : (pool.preBlacklist.cleanupRoutine now).proposed T = some t :=
    (h ▸ proposed_cleanupRoutine pool.preBlacklist now T).eq_of_sub_le hnow
  -- the saturated `now.Sub(t)` is below `pbPeriod` with `now - t`
  have hsub : GoTime.sub now t ≤ pbPeriod := not_lt.1 fun hlt => by
    have := (GoTime.lt_sub_iff pbPeriod_pos_lt.1.le pbPeriod_pos_lt.2).1 hlt
    omega
  simp [processTx, hs, isActive, hkept, hsub]

/-- A new pre-blacklist stays empty through its sweeps. -/
theorem proposed_cleanupRoutine_newPreBlacklist (created now : ℤ) (a : Address) :
    ((newPreBlacklist created).cleanupRoutine now).proposed a = none := by
  rw [cleanupRoutine]
  split
  · rfl
  · simp [newPreBlacklist, GoTime.expire]

/-- A `propose` call of the EBI signer on the blacklist registry with nothing after the selector,
checked by a new pre-blacklist: `processTx` panics at `callData[16:36]`, whatever the pool's
state, chain and clock. -/
theorem processTx_short_propose_panics (ids : MethodIds) (signer : Address) (state : StateDB)
    (hasBlockChain : Bool) (applyMessage : Address → Transaction → List UInt8 → Option (List UInt8))
    (zf : ZeroFeeProtector) (created now : ℤ) :
    let env : PoolEnv :=
      { ids, sender := fun _ => .ok signer, currentState := state, hasBlockChain, applyMessage
        ebiSigner := signer }
    let tx : Transaction := ⟨0, 0, 100000, some rangeBlacklistRegistry, 0, ids.blPropose.toList, 0, 0, 0⟩
    processTx ⟨zf, newPreBlacklist created⟩ env now tx = none := by
  intro env tx
  have hm : methodID tx = ids.blPropose := methodID_eq_of_payload (List.append_nil _).symm
  have hpanic : processProposal ⟨zf, (newPreBlacklist created).cleanupRoutine now⟩ env signer now tx =
      none := processProposal_eq_none_iff.2 ⟨rfl, hm, rfl, .inl (by simp [tx])⟩
  simp [processTx, env, isActive, proposed_cleanupRoutine_newPreBlacklist, hpanic]

theorem filterBlocks_fst (now : ℤ) (blocks : List Header) :
    (pb.filterBlocks now blocks).1 = pb.cleanupRoutine now := by
  unfold filterBlocks
  dsimp only
  split <;> rfl

/-- `filterBlocks` returns the longest prefix of the blocks whose coinbases the swept
pre-blacklist does not hold. -/
theorem filterBlocks_eq_takeWhile (now : ℤ) (blocks : List Header) :
    (pb.filterBlocks now blocks).2 =
      blocks.takeWhile fun b => ((pb.cleanupRoutine now).proposed b.coinbase).isNone := by
  rw [List.takeWhile_eq_take_findIdx_not]
  unfold filterBlocks
  dsimp only
  split
  next i hi =>
    rw [List.findIdx?_eq_some_iff_findIdx_eq] at hi
    simp [← hi.2]
  next hi =>
    rw [List.findIdx?_eq_none_iff_findIdx_eq] at hi
    simp [hi]

end PreBlacklist

/-! ### Runs of the pre-blacklist -/

/-- What the pool asks of its pre-blacklist: `processTx` of a transaction, from `validateTx`, and
`filterBlocks` of a batch of blocks, from `PreBlacklistHook`, each at the time it reads. -/
inductive PbEvent where
  | processTx (env : PoolEnv) (now : ℤ) (tx : Transaction)
  | filterBlocks (now : ℤ) (blocks : List Header)

/-- The time an event reads. -/
def PbEvent.now : PbEvent → ℤ
  | .processTx _ now _ => now
  | .filterBlocks now _ => now

namespace TxPool

/-- `PreBlacklistHook`. -/
def preBlacklistHook (pool : TxPool) (now : ℤ) (blocks : List Header) : TxPool × List Header :=
  ({ pool with preBlacklist := (pool.preBlacklist.filterBlocks now blocks).1 },
    (pool.preBlacklist.filterBlocks now blocks).2)

/-- The pool after one event, or `none` for a panic. -/
def pbStep (pool : TxPool) : PbEvent → Option TxPool
  | .processTx env now tx => (PreBlacklist.processTx pool env now tx).map Prod.fst
  | .filterBlocks now blocks => some (pool.preBlacklistHook now blocks).1

/-- The pool after the events, in order, or `none` from the first panic. -/
def pbRun (pool : TxPool) (es : List PbEvent) : Option TxPool :=
  StateMachine.runPartial pbStep pool es

variable {pool pool' : TxPool}

/-- One event keeps an entry, or, the entry being empty or older than `pbPeriod`, leaves it empty
or writes the event's time. -/
theorem proposed_pbStep {e : PbEvent} (h : pool.pbStep e = some pool') (a : Address) :
    RateLimit.StepOnce pbPeriod e.now (pool.preBlacklist.proposed a)
      (pool'.preBlacklist.proposed a) := by
  cases e with
  | processTx env now tx =>
    obtain ⟨⟨p, r⟩, hp, rfl⟩ := Option.map_eq_some_iff.1 h
    have hsweep := PreBlacklist.proposed_cleanupRoutine pool.preBlacklist now a
    rcases PreBlacklist.processTx_eq_some hp with rfl | ⟨sender, hprop⟩
    · exact hsweep
    · exact hsweep.trans (PreBlacklist.proposed_processProposal hprop a)
  | filterBlocks now blocks =>
    rw [← Option.some_inj.1 h]
    show RateLimit.StepOnce _ _ _ ((pool.preBlacklist.filterBlocks now blocks).1.proposed a)
    rw [PreBlacklist.filterBlocks_fst]
    exact PreBlacklist.proposed_cleanupRoutine pool.preBlacklist now a

/-- Along a run that does not panic, whose clock stays at most `pbPeriod` after an entry's time,
the entry keeps that time. -/
theorem proposed_pbRun {es : List PbEvent} {T : Address} {t : ℤ}
    (h : pool.preBlacklist.proposed T = some t) (hrun : pool.pbRun es = some pool')
    (hclock : ∀ e ∈ es, e.now - t ≤ pbPeriod) : pool'.preBlacklist.proposed T = some t := by
  refine StateMachine.runPartial_invariant_of_mem pbStep
    (fun p => p.preBlacklist.proposed T = some t) h (fun p e he p' hp hT => ?_) hrun
  exact (hT ▸ proposed_pbStep hp T).eq_of_sub_le (hclock e he)

end TxPool

end RangeCore
