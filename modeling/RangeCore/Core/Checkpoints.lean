import RangeCore.Core.State
import RangeCore.Lib.Run
import RangeCore.Lib.ExceptBind

/-!
# The checkpoint manager

`checkpointManager` of `core/range_checkpoints.go`: a map `validated` of checkpoints by block
number, the watermark `latest` and the map `future`, which nothing writes. `addCheckpoint` adds a
checkpoint, locally (the hard-coded ones, at start-up) or from the network with the signature of
the checkpoint signer first, then asks the chain to enforce it and raises `latest`; `validate`
checks a block against the checkpoints and raises `latest` too.

The manager is a state machine over calls of the two methods. The chain is its environment, read
afresh at each call: its current head may move in any way between calls, and enforcing a
checkpoint may move it as well.

## Main definitions

* `RangeCore.Checkpoint`, `RangeCore.CheckpointManager`, `RangeCore.newCheckpointManager`.
* `RangeCore.rangeCheckpoints`, `RangeCore.maxHardcodedCheckpoint`.
* `RangeCore.CheckpointManager.validate`, `RangeCore.CheckpointManager.addCheckpoint`,
  `RangeCore.CheckpointManager.updateLatest`, `RangeCore.hashToSign`.
* `RangeCore.CheckpointCall`, `RangeCore.CheckpointManager.exec`.
* `RangeCore.CheckpointManager.Inv`, `RangeCore.CheckpointCall.Safe`.

## Main results

* `RangeCore.CheckpointManager.addCheckpoint_cases`, `validate_cases`: what one call can do.
* `RangeCore.CheckpointManager.exec_inv`: the invariant is kept by every call.
* `RangeCore.checkpointManager_safety`: the safety properties of every run.
-/

namespace RangeCore

/-- `Checkpoint`. -/
structure Checkpoint where
  since : UInt64
  number : UInt64
  hash : Hash
  deriving DecidableEq, Repr

/-- `CheckpointSignature`. -/
abbrev CheckpointSignature := List UInt8

/-- `validCheckpoint`. -/
structure ValidCheckpoint where
  checkpoint : Checkpoint
  signatures : List CheckpointSignature

/-- `checkpointManager` without its mutex and event feed. -/
structure CheckpointManager where
  validated : UInt64 → Option ValidCheckpoint
  latest : UInt64
  future : UInt64 → Option Checkpoint

/-- `newCheckpointManager`. -/
def newCheckpointManager : CheckpointManager where
  validated := fun _ => none
  latest := 0
  future := fun _ => none

/-- `CheckpointValidateChain` as one call reads it: blocks of the canonical chain by number and
the current head. -/
structure CheckpointValidateChain where
  getHeaderByNumber : UInt64 → Option Header
  currentHeader : Header

/-- `CheckpointChain` as one `addCheckpoint` call reads it: the genesis hash, the checkpoint
signer of the Range configuration (`none` without one), and `EnforceCheckpoint` with the current
head it leaves. -/
structure CheckpointChain where
  genesisHash : Hash
  cppSigner : Option Address
  enforceCheckpoint : Checkpoint → Except Error Unit × Header

/-- `params.MainnetGenesisHash`. -/
def mainnetGenesisHash : Hash :=
  0xd8e2a3b0ad08f8eaabaf653d25b7d9beee2911101010a2cd4f6692a9a1dc228a#256

/-- `energi_params.RangeCheckpoints`: the hard-coded checkpoints of a genesis, empty for every
genesis but the main net's. -/
def rangeCheckpoints (genesis : Hash) : List (UInt64 × Hash) :=
  if genesis = mainnetGenesisHash then
    [(38283, 0xbcdaf97b5fa9041b34afcee7ffa85ce88e8e1a9eada2855b5e3ee55b8153f70d#256),
      (38284, 0x2a724c7ae36f26b61f5702b0b2099c37061b105b619f250991b573e8d32d63a0#256)]
  else []

/-- The two loops of `addCheckpoint` over the hard-coded checkpoint numbers, in map iteration
order: the first number, then the maximum with every number; zero for no number. -/
def maxHardcodedCheckpoint : List UInt64 → UInt64
  | [] => 0
  | n :: ns => (n :: ns).foldl (fun m k => if k > m then k else m) n

/-- `checkpointManager.hashToSign`. -/
def hashToSign (hasher : Hasher) (cp : Checkpoint) : List UInt8 :=
  (hasher.keccak256 ("||Range Blockchain Checkpoint||".toUTF8.toList ++
    bytesBE 32 cp.number.toNat ++ cp.hash.bytes)).bytes

namespace CheckpointManager

variable (hasher : Hasher) (ecrecover : Ecrecover)

/-- `updateLatest`: `latest` moves up to a checkpoint that is not above the current head. -/
def updateLatest (cm : CheckpointManager) (current : Header) (cp : Checkpoint) :
    CheckpointManager :=
  if cp.number > cm.latest ∧ cp.number ≤ UInt64.ofNat current.number then
    { cm with latest := cp.number }
  else cm

/-- `validate`: a block at a checkpointed number must have its hash; below `latest` a block must
match the canonical chain. -/
def validate (cm : CheckpointManager) (chain : CheckpointValidateChain) (num : UInt64)
    (hash : Hash) : CheckpointManager × Except Error Unit :=
  match cm.validated num with
  | some cp =>
    if cp.checkpoint.hash ≠ hash then (cm, .error .errCheckpointMismatch)
    else (cm.updateLatest chain.currentHeader cp.checkpoint, .ok ())
  | none =>
    if num < cm.latest then
      match chain.getHeaderByNumber num with
      | some header =>
        if hasher.headerHash header ≠ hash then (cm, .error .errCheckpointMismatch)
        else (cm, .ok ())
      | none => (cm, .ok ())
    else
      match cm.future num with
      | some cp => if cp.hash ≠ hash then (cm, .error .errCheckpointMismatch) else (cm, .ok ())
      | none => (cm, .ok ())

/-- The signature check of a checkpoint from the network: the first signature must recover to the
checkpoint signer. -/
def checkCppSignature (chain : CheckpointChain) (cp : Checkpoint)
    (sigs : List CheckpointSignature) : Except Error Unit :=
  match sigs with
  | [] => .error .missingCheckpointSignatures
  | sig :: _ => do
    let pubkey ← ecrecover (hashToSign hasher cp) sig
    if chain.cppSigner ≠ some (pubkeyToAddress hasher pubkey) then throw .invalidCppSignature
    pure ()

/-- `validated` with `cp` and its signatures stored under its number. -/
def store (cm : CheckpointManager) (cp : Checkpoint) (sigs : List CheckpointSignature) :
    CheckpointManager :=
  { cm with validated := Function.update cm.validated cp.number (some ⟨cp, sigs⟩) }

/-- The first guard of `addCheckpoint`: a checkpoint is stale when the one stored under its number
is equal to it or newer. -/
def isStale (cm : CheckpointManager) (cp : Checkpoint) : Bool :=
  match cm.validated cp.number with
  | some curr => curr.checkpoint == cp || decide (curr.checkpoint.since > cp.since)
  | none => false

/-- `addCheckpoint`. A checkpoint equal to the stored one, or older than it, changes nothing.
From the network, a checkpoint at or below the last hard-coded one is ignored and any other must
carry the signer's signature first. The checkpoint is then stored, enforced, and may raise
`latest`; the enforcement error is returned. -/
def addCheckpoint (cm : CheckpointManager) (chain : CheckpointChain) (cp : Checkpoint)
    (sigs : List CheckpointSignature) (isLocal : Bool) : CheckpointManager × Except Error Unit :=
  if cm.isStale cp then (cm, .ok ())
  else if !isLocal ∧
      cp.number ≤ maxHardcodedCheckpoint ((rangeCheckpoints chain.genesisHash).map Prod.fst) then
    (cm, .ok ())
  else
    match (if isLocal then .ok () else checkCppSignature hasher ecrecover chain cp sigs) with
    | .error err => (cm, .error err)
    | .ok () =>
      let (err, current) := chain.enforceCheckpoint cp
      ((cm.store cp sigs).updateLatest current cp, err)

end CheckpointManager

/-- A call of the checkpoint manager, with the chain as that call reads it. -/
inductive CheckpointCall where
  | addCheckpoint (chain : CheckpointChain) (cp : Checkpoint) (sigs : List CheckpointSignature)
      (isLocal : Bool)
  | validate (chain : CheckpointValidateChain) (num : UInt64) (hash : Hash)

namespace CheckpointManager

variable (hasher : Hasher) (ecrecover : Ecrecover)

/-- One call: the new manager and the call's result. -/
def exec (cm : CheckpointManager) : CheckpointCall → CheckpointManager × Except Error Unit
  | .addCheckpoint chain cp sigs isLocal => cm.addCheckpoint hasher ecrecover chain cp sigs isLocal
  | .validate chain num hash => cm.validate hasher chain num hash

/-! ### What one call can do -/

@[simp] theorem updateLatest_validated (cm : CheckpointManager) (current : Header)
    (cp : Checkpoint) : (cm.updateLatest current cp).validated = cm.validated := by
  unfold updateLatest
  split_ifs <;> rfl

theorem le_updateLatest_latest (cm : CheckpointManager) (current : Header) (cp : Checkpoint) :
    cm.latest ≤ (cm.updateLatest current cp).latest := by
  unfold updateLatest
  split_ifs with h
  · exact UInt64.le_of_lt h.1
  · exact UInt64.le_refl _

/-- `latest` after `updateLatest` is the old one or the checkpoint's number. -/
theorem updateLatest_latest_eq (cm : CheckpointManager) (current : Header) (cp : Checkpoint) :
    (cm.updateLatest current cp).latest = cm.latest ∨
      (cm.updateLatest current cp).latest = cp.number := by
  unfold updateLatest
  split_ifs
  · exact Or.inr rfl
  · exact Or.inl rfl

@[simp] theorem store_validated_self (cm : CheckpointManager) (cp : Checkpoint)
    (sigs : List CheckpointSignature) : (cm.store cp sigs).validated cp.number = some ⟨cp, sigs⟩ :=
  Function.update_self _ _ _

theorem store_validated_of_ne (cm : CheckpointManager) (cp : Checkpoint)
    (sigs : List CheckpointSignature) {k : UInt64} (hk : k ≠ cp.number) :
    (cm.store cp sigs).validated k = cm.validated k :=
  Function.update_of_ne hk _ _

@[simp] theorem store_latest (cm : CheckpointManager) (cp : Checkpoint)
    (sigs : List CheckpointSignature) : (cm.store cp sigs).latest = cm.latest := rfl

/-- `addCheckpoint` either changes nothing or, having passed its guards, stores the checkpoint and
updates `latest` against the head the enforcement leaves. -/
theorem addCheckpoint_cases (cm : CheckpointManager) (chain : CheckpointChain) (cp : Checkpoint)
    (sigs : List CheckpointSignature) (isLocal : Bool) :
    (cm.addCheckpoint hasher ecrecover chain cp sigs isLocal).1 = cm ∨
      ((∀ curr, cm.validated cp.number = some curr →
          curr.checkpoint ≠ cp ∧ curr.checkpoint.since ≤ cp.since) ∧
        (isLocal ∨ (maxHardcodedCheckpoint ((rangeCheckpoints chain.genesisHash).map Prod.fst) <
            cp.number ∧ checkCppSignature hasher ecrecover chain cp sigs = .ok ())) ∧
        (cm.addCheckpoint hasher ecrecover chain cp sigs isLocal).1 =
          (cm.store cp sigs).updateLatest (chain.enforceCheckpoint cp).2 cp) := by
  unfold addCheckpoint
  by_cases hstale : cm.isStale cp
  · rw [if_pos hstale]
    exact Or.inl rfl
  have hfresh : ∀ curr, cm.validated cp.number = some curr →
      curr.checkpoint ≠ cp ∧ curr.checkpoint.since ≤ cp.since := by
    intro curr hcurr
    simp only [isStale, hcurr, Bool.or_eq_true, beq_iff_eq, decide_eq_true_eq, not_or] at hstale
    exact ⟨hstale.1, UInt64.not_lt.1 hstale.2⟩
  rw [if_neg hstale]
  by_cases hhard : (!isLocal) = true ∧
      cp.number ≤ maxHardcodedCheckpoint ((rangeCheckpoints chain.genesisHash).map Prod.fst)
  · rw [if_pos hhard]
    exact Or.inl rfl
  rw [if_neg hhard]
  cases isLocal with
  | true => exact Or.inr ⟨hfresh, Or.inl rfl, rfl⟩
  | false =>
    have hmax : maxHardcodedCheckpoint ((rangeCheckpoints chain.genesisHash).map Prod.fst) <
        cp.number :=
      UInt64.not_le.1 (by simpa using hhard)
    simp only [Bool.false_eq_true, ↓reduceIte]
    split
    · exact Or.inl rfl
    · rename_i hsig
      exact Or.inr ⟨hfresh, Or.inr ⟨hmax, hsig⟩, rfl⟩

/-- `validate` either changes nothing or, for a checkpointed number with the right hash, updates
`latest` with that checkpoint; its result is an error on a checkpoint with another hash. -/
theorem validate_cases (cm : CheckpointManager) (chain : CheckpointValidateChain) (num : UInt64)
    (hash : Hash) :
    ((cm.validate hasher chain num hash).1 = cm ∨
      ∃ v, cm.validated num = some v ∧ v.checkpoint.hash = hash ∧
        (cm.validate hasher chain num hash).1 = cm.updateLatest chain.currentHeader v.checkpoint) ∧
    (∀ v, cm.validated num = some v → (cm.validate hasher chain num hash).2 = .ok () →
      hash = v.checkpoint.hash) := by
  unfold validate
  split
  · rename_i v hv
    by_cases hh : v.checkpoint.hash = hash
    · simp only [hh, ne_eq, not_true_eq_false, ↓reduceIte]
      refine ⟨Or.inr ⟨v, hv, hh, rfl⟩, fun w hw _ => ?_⟩
      rw [hv, Option.some.injEq] at hw
      rw [← hw, hh]
    · simp only [hh, ne_eq, not_false_eq_true, ↓reduceIte, true_or, true_and]
      intro w _ hr
      cases hr
  · rename_i hv
    refine ⟨Or.inl ?_, fun v hv' => ?_⟩
    · split_ifs
      · split
        · split_ifs <;> rfl
        · rfl
      · split
        · split_ifs <;> rfl
        · rfl
    · rw [hv] at hv'
      cases hv'

/-- A signature check that passed: the first signature recovers, over `hashToSign`, to a key
whose address is the configured checkpoint signer. -/
theorem checkCppSignature_ok {chain : CheckpointChain} {cp : Checkpoint}
    {sigs : List CheckpointSignature}
    (h : checkCppSignature hasher ecrecover chain cp sigs = .ok ()) :
    ∃ sig rest pubkey, sigs = sig :: rest ∧ ecrecover (hashToSign hasher cp) sig = .ok pubkey ∧
      chain.cppSigner = some (pubkeyToAddress hasher pubkey) := by
  cases sigs with
  | nil => cases h
  | cons sig rest =>
    obtain ⟨pubkey, hrec, h⟩ := Except.bind_eq_ok_iff.1 h
    obtain ⟨hsigner, -⟩ := Except.ite_throw_bind_eq_ok_iff.1 h
    exact ⟨sig, rest, pubkey, rfl, hrec, not_not.1 hsigner⟩

/-- The signature check passes when the first signature recovers, over `hashToSign`, to a key
whose address is the configured checkpoint signer. -/
theorem checkCppSignature_cons {chain : CheckpointChain} {cp : Checkpoint}
    {sig : CheckpointSignature} {pubkey : List UInt8} (rest : List CheckpointSignature)
    (hrec : ecrecover (hashToSign hasher cp) sig = .ok pubkey)
    (hsigner : chain.cppSigner = some (pubkeyToAddress hasher pubkey)) :
    checkCppSignature hasher ecrecover chain cp (sig :: rest) = .ok () := by
  simp [checkCppSignature, hrec, hsigner, Except.pure_eq_ok]

/-! ### The invariant -/

/-- The invariant of the manager: every checkpoint is stored under its own number, and `latest` is
zero or a number with a stored checkpoint. -/
structure Inv (cm : CheckpointManager) : Prop where
  keyed : ∀ k v, cm.validated k = some v → v.checkpoint.number = k
  latest_validated : cm.latest = 0 ∨ (cm.validated cm.latest).isSome

theorem inv_newCheckpointManager : Inv newCheckpointManager :=
  ⟨fun _ _ h => (nomatch h), Or.inl rfl⟩

theorem Inv.store {cm : CheckpointManager} (hinv : Inv cm) (cp : Checkpoint)
    (sigs : List CheckpointSignature) : Inv (cm.store cp sigs) := by
  constructor
  · intro k v hk
    by_cases hkc : k = cp.number
    · subst hkc
      rw [store_validated_self, Option.some.injEq] at hk
      rw [← hk]
    · rw [store_validated_of_ne cm cp sigs hkc] at hk
      exact hinv.keyed k v hk
  · rcases hinv.latest_validated with h0 | hsome
    · exact Or.inl h0
    · right
      by_cases hl : cm.latest = cp.number
      · rw [store_latest, hl, store_validated_self]
        rfl
      · rwa [store_latest, store_validated_of_ne cm cp sigs hl]

theorem Inv.updateLatest {cm : CheckpointManager} (hinv : Inv cm) (current : Header)
    {cp : Checkpoint} (hcp : (cm.validated cp.number).isSome) :
    Inv (cm.updateLatest current cp) := by
  refine ⟨by simpa using hinv.keyed, ?_⟩
  rcases updateLatest_latest_eq cm current cp with hl | hl
  · rw [hl, updateLatest_validated]
    exact hinv.latest_validated
  · rw [hl, updateLatest_validated]
    exact Or.inr hcp

/-- Every call keeps the invariant. -/
theorem exec_inv {cm : CheckpointManager} (hinv : Inv cm) (call : CheckpointCall) :
    Inv (cm.exec hasher ecrecover call).1 := by
  cases call with
  | addCheckpoint chain cp sigs isLocal =>
    rcases addCheckpoint_cases hasher ecrecover cm chain cp sigs isLocal with h | ⟨-, -, h⟩
    · rw [exec, h]
      exact hinv
    · rw [exec, h]
      exact (hinv.store cp sigs).updateLatest _ (by rw [store_validated_self]; rfl)
  | validate chain num hash =>
    rcases (validate_cases hasher cm chain num hash).1 with h | ⟨v, hv, -, h⟩
    · rw [exec, h]
      exact hinv
    · rw [exec, h]
      refine hinv.updateLatest _ ?_
      rw [hinv.keyed num v hv, hv]
      rfl

/-- No call lowers `latest`. -/
theorem latest_le_exec (cm : CheckpointManager) (call : CheckpointCall) :
    cm.latest ≤ (cm.exec hasher ecrecover call).1.latest := by
  cases call with
  | addCheckpoint chain cp sigs isLocal =>
    rcases addCheckpoint_cases hasher ecrecover cm chain cp sigs isLocal with h | ⟨-, -, h⟩
    · rw [exec, h]
      exact UInt64.le_refl _
    · rw [exec, h]
      exact le_updateLatest_latest (cm.store cp sigs) _ cp
  | validate chain num hash =>
    rcases (validate_cases hasher cm chain num hash).1 with h | ⟨v, -, -, h⟩
    · rw [exec, h]
      exact UInt64.le_refl _
    · rw [exec, h]
      exact le_updateLatest_latest _ _ _

end CheckpointManager

/-- What a call taking the manager from `cm` to `cm'` with result `r` must respect. A call from
the network leaves every number up to the last hard-coded checkpoint alone, and changes
`validated` only with the signer's signature first; no call replaces a stored checkpoint by one
with a smaller `Since`; `validate` accepts a checkpointed number only with the stored hash. -/
def CheckpointCall.Safe (hasher : Hasher) (ecrecover : Ecrecover) (cm cm' : CheckpointManager)
    (r : Except Error Unit) : CheckpointCall → Prop
  | .addCheckpoint chain cp sigs isLocal =>
    (isLocal = false → ∀ k ≤ maxHardcodedCheckpoint ((rangeCheckpoints chain.genesisHash).map
        Prod.fst), cm'.validated k = cm.validated k) ∧
    (isLocal = false → cm'.validated ≠ cm.validated →
      ∃ sig rest pubkey, sigs = sig :: rest ∧ ecrecover (hashToSign hasher cp) sig = .ok pubkey ∧
        chain.cppSigner = some (pubkeyToAddress hasher pubkey)) ∧
    (∀ k v v', cm.validated k = some v → cm'.validated k = some v' →
      v.checkpoint.since ≤ v'.checkpoint.since)
  | .validate _ num hash =>
    cm'.validated = cm.validated ∧
      ∀ v, cm.validated num = some v → r = .ok () → hash = v.checkpoint.hash

namespace CheckpointManager

variable (hasher : Hasher) (ecrecover : Ecrecover)

/-- Every call respects `CheckpointCall.Safe`, from any manager. -/
theorem exec_safe (cm : CheckpointManager) (call : CheckpointCall) :
    call.Safe hasher ecrecover cm (cm.exec hasher ecrecover call).1
      (cm.exec hasher ecrecover call).2 := by
  cases call with
  | addCheckpoint chain cp sigs isLocal =>
    rcases addCheckpoint_cases hasher ecrecover cm chain cp sigs isLocal with
      h | ⟨hfresh, hguard, h⟩
    · simp only [CheckpointCall.Safe, exec, h, ne_eq, not_true_eq_false, false_imp_iff,
        imp_true_iff, true_and]
      intro k v v' hv hv'
      rw [hv, Option.some.injEq] at hv'
      rw [hv']
      exact UInt64.le_refl _
    · simp only [CheckpointCall.Safe, exec, h, updateLatest_validated]
      refine ⟨fun hl k hk => ?_, fun hl _ => ?_, fun k v v' hv hv' => ?_⟩
      · have hmax := (hguard.resolve_left (by simp [hl])).1
        exact store_validated_of_ne cm cp sigs fun hkc =>
          absurd (UInt64.lt_of_le_of_lt hk hmax) (hkc ▸ UInt64.lt_irrefl k)
      · exact checkCppSignature_ok hasher ecrecover
          (hguard.resolve_left (by simp [hl])).2
      · by_cases hkc : k = cp.number
        · subst hkc
          rw [store_validated_self, Option.some.injEq] at hv'
          rw [← hv']
          exact (hfresh v hv).2
        · rw [store_validated_of_ne cm cp sigs hkc, hv, Option.some.injEq] at hv'
          rw [hv']
          exact UInt64.le_refl _
  | validate chain num hash =>
    have hval : (cm.validate hasher chain num hash).1.validated = cm.validated := by
      rcases (validate_cases hasher cm chain num hash).1 with h | ⟨v, -, -, h⟩
      · rw [h]
      · rw [h, updateLatest_validated]
    exact ⟨hval, (validate_cases hasher cm chain num hash).2⟩

/-- The manager after the calls `calls`, in order. -/
def runCalls (cm : CheckpointManager) (calls : List CheckpointCall) : CheckpointManager :=
  StateMachine.run (fun cm call => (cm.exec hasher ecrecover call).1) cm calls

/-- Checkpoint manager safety. Along every sequence of calls from a new manager, with the chain
read afresh at each call, `latest` never decreases; in every state it reaches, `latest` is zero or
the number of a stored checkpoint; and every next call respects `CheckpointCall.Safe`. -/
theorem checkpointManager_safety (calls : List CheckpointCall) (call : CheckpointCall) :
    (∀ i k, (runCalls hasher ecrecover newCheckpointManager (calls.take i)).latest ≤
      (runCalls hasher ecrecover newCheckpointManager (calls.take (i + k))).latest) ∧
    let cm := runCalls hasher ecrecover newCheckpointManager calls
    (cm.latest = 0 ∨ ∃ v, cm.validated cm.latest = some v ∧ v.checkpoint.number = cm.latest) ∧
    call.Safe hasher ecrecover cm (cm.exec hasher ecrecover call).1
      (cm.exec hasher ecrecover call).2 := by
  have hinv : Inv (runCalls hasher ecrecover newCheckpointManager calls) :=
    StateMachine.run_invariant _ Inv inv_newCheckpointManager
      (fun cm call hcm => exec_inv hasher ecrecover hcm call) calls
  refine ⟨fun i k => ?_, ?_, exec_safe hasher ecrecover _ call⟩
  · exact UInt64.le_iff_toNat_le.2 <|
      StateMachine.run_take_mono _ (fun _ => True) (fun cm => cm.latest.toNat)
        (fun _ _ _ => trivial)
        (fun cm call _ => UInt64.le_iff_toNat_le.1 (latest_le_exec hasher ecrecover cm call))
        trivial calls (Nat.le_add_right i k)
  · rcases hinv.latest_validated with h0 | hsome
    · exact Or.inl h0
    · obtain ⟨v, hv⟩ := Option.isSome_iff_exists.1 hsome
      exact Or.inr ⟨v, hv, hinv.keyed _ v hv⟩

end CheckpointManager

end RangeCore
