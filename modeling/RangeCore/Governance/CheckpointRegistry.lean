import RangeCore.Governance.Basic
import RangeCore.Core.Checkpoints

/-!
# Checkpoint signatures from the registry to the node

A dynamic checkpoint is proposed to `CheckpointRegistryV2` (`range/contracts/src`) with the
checkpoint signer's 65-byte signature `r ‖ s ‖ v` of `signatureBase(number, hash)`, the hash of
`abi.encodePacked("||Range Blockchain Checkpoint||", number, hash)`. The registry accepts it when
the `ecrecover` precompile recovers `CPP_signer`, and deploys a checkpoint object, `CheckpointV2`,
that stores the signature under its signer; masternodes add theirs with `sign`. The node's
`CheckpointService.onCheckpoint` (`range/service/checkpoints.go`) reads the object back, takes
`27` off the signature's `v`, as `crypto.Ecrecover` wants `v` in `{0, 1}` where the precompile
wants `{27, 28}`, and passes it to `addCheckpoint` from the network, which checks it against
`checkpointManager.hashToSign` (`core/range_checkpoints.go`).

The two sides hash the same bytes for every checkpoint number below `2^64`, and a signature the
registry accepts is, after any `sign` calls on its object, one the node accepts, given only that
the precompile and `crypto.Ecrecover` recover the same key (`RangeCore.Governance.EcrecoverAgree`).

## Main definitions

* `RangeCore.Governance.signatureBase`, `RangeCore.Governance.decodeRS`.
* `RangeCore.Governance.CheckpointV1`: the checkpoint object, with `CheckpointV2.new`, `sign`,
  `signature` and `info`, and the runs of `sign` calls.
* `RangeCore.Governance.CheckpointRegistryV2.propose`.
* `RangeCore.Governance.onCheckpoint`.

## Main results

* `RangeCore.Governance.hashToSign_eq_signatureBase`: the node hashes the registry's bytes.
* `RangeCore.Governance.CheckpointV1.Signed.runCalls`: no `sign` call changes a stored signature.
* `RangeCore.Governance.CheckpointRegistryV2.checkpoint_signature_agree`.
-/

namespace RangeCore.Governance

/-- The text that `signatureBase` and `hashToSign` put before the checkpoint. -/
def checkpointTag : List UInt8 := "||Range Blockchain Checkpoint||".toUTF8.toList

/-- `abi.encodePacked("||Range Blockchain Checkpoint||", number, hash)`: the text in place, the
`uint` as its 32 big-endian bytes and the `bytes32` as they are. -/
def signatureBaseData (number : Uint) (hash : Hash) : List UInt8 :=
  checkpointTag ++ bytesBE 32 number.toNat ++ hash.bytes

/-- `CheckpointRegistryV1.signatureBase`. -/
def signatureBase (hasher : Hasher) (number : Uint) (hash : Hash) : Hash :=
  hasher.keccak256 (signatureBaseData number hash)

/-- The word whose big-endian bytes are `bs`. -/
def wordOfBytes (bs : List UInt8) : Hash :=
  BitVec.ofNat 256 (bs.foldl (fun acc b => acc * 256 + b.toNat) 0)

/-- `abi.decode(signature, (bytes32, bytes32))`: the words `r` and `s` of a signature's first
64 bytes. -/
def decodeRS (signature : List UInt8) : Hash × Hash :=
  (wordOfBytes (signature.take 32), wordOfBytes ((signature.drop 32).take 32))

/-- Solidity's `ecrecover(hash, uint8(signature[64]), r, s)` of a signature's bytes: address 0
when the precompile recovers no key. -/
def recoverSigner (ecrecover : EcrecoverPrecompile) (hash : Hash) (signature : List UInt8) :
    Address :=
  (ecrecover hash (signature.getD 64 0) (decodeRS signature).1 (decodeRS signature).2).getD 0

/-- The precompile and `crypto.Ecrecover` recover the same key: a 65-byte signature whose `v` is
`27` or `28` and that the precompile recovers to `a` is, with `v - 27` in place of `v`, one that
`crypto.Ecrecover` recovers to a key of address `a`. -/
def EcrecoverAgree (hasher : Hasher) (precompile : EcrecoverPrecompile) (ecrecover : Ecrecover) :
    Prop :=
  ∀ (digest : Hash) (signature : List UInt8) (v : UInt8) (a : Address),
    signature.length = 65 → signature[64]? = some v → (v = 27 ∨ v = 28) →
    precompile digest v (decodeRS signature).1 (decodeRS signature).2 = some a →
    ∃ pubkey, ecrecover digest.bytes (signature.set 64 (v - 27)) = .ok pubkey ∧
      pubkeyToAddress hasher pubkey = a

/-- `CheckpointV1`, the checkpoint object, without the registry proxy through which `sign` asks
whether a masternode is active: `signers` maps a signer to one past the index of its signature
in `signatureList`, and to 0 if it has not signed. -/
structure CheckpointV1 where
  since : Uint
  number : Uint
  hash : Hash
  signatureBase : Hash
  signers : Address → Uint
  signatureList : List (List UInt8)

namespace CheckpointV1

/-- `SIGNING_PERIOD`: masternodes sign within 1440 blocks of the checkpoint's creation. -/
def signingPeriod : Uint := 24 * 60

/-- The constructor of `CheckpointV1`. -/
def new (env : CallEnv) (number : Uint) (hash : Hash) (sigbase : Hash) : CheckpointV1 where
  since := env.blockNumber
  number := number
  hash := hash
  signatureBase := sigbase
  signers := fun _ => 0
  signatureList := []

/-- `signature_list.push(signature); signers[signer] = signature_list.length;`. -/
def addSignature (cp : CheckpointV1) (signer : Address) (signature : List UInt8) :
    CheckpointV1 :=
  let signatureList := cp.signatureList ++ [signature]
  { cp with
    signatureList := signatureList
    signers := Function.update cp.signers signer (BitVec.ofNat 256 signatureList.length) }

variable (ecrecover : EcrecoverPrecompile)

/-- `sign`: an active masternode that has not signed adds its signature within the signing
period; `isActive` is the masternode registry's answer. -/
def sign (cp : CheckpointV1) (env : CallEnv) (isActive : Address → Except Revert Bool)
    (signature : List UInt8) : Except Revert CheckpointV1 := do
  require (env.blockNumber - cp.since < signingPeriod) "Signing has ended"
  require (signature.length = 65) "Invalid signature length"
  let masternode := recoverSigner ecrecover cp.signatureBase signature
  require (cp.signers masternode = 0) "Already signed"
  let active ← isActive masternode
  require (active = true) "Not active MN"
  pure (cp.addSignature masternode signature)

/-- `signature(masternode)`. -/
def signature (cp : CheckpointV1) (masternode : Address) : Except Revert (List UInt8) := do
  let index := cp.signers masternode
  require (index ≠ 0) "Not signed yet"
  match cp.signatureList[(index - 1).toNat]? with
  | some sig => pure sig
  | none => throw .assert

/-- `info()`: the number, the hash and the block of creation. -/
def info (cp : CheckpointV1) : Uint × Hash × Uint := (cp.number, cp.hash, cp.since)

/-- A `sign` call with what it reads of the world. -/
structure SignCall where
  env : CallEnv
  isActive : Address → Except Revert Bool
  signature : List UInt8

/-- The object after a `sign` call, unchanged if the call reverts. -/
def commit (cp : CheckpointV1) (call : SignCall) : CheckpointV1 :=
  match cp.sign ecrecover call.env call.isActive call.signature with
  | .ok cp' => cp'
  | .error _ => cp

/-- The object after the calls, in order. -/
def runCalls (cp : CheckpointV1) (calls : List SignCall) : CheckpointV1 :=
  StateMachine.run (commit ecrecover) cp calls

end CheckpointV1

/-- The constructor of `CheckpointV2`: a `CheckpointV1` holding the proposer's signature under
the address it recovers to. -/
def CheckpointV2.new (ecrecover : EcrecoverPrecompile) (env : CallEnv) (number : Uint)
    (hash : Hash) (sigbase : Hash) (cppSig : List UInt8) : Except Revert CheckpointV1 := do
  require (cppSig.length = 65) "Invalid signature length"
  let signer := recoverSigner ecrecover sigbase cppSig
  pure ((CheckpointV1.new env number hash sigbase).addSignature signer cppSig)

/-- `CheckpointRegistryV2` with the checkpoints of its storage; the storage's `add` is called by
its owner, the registry. -/
structure CheckpointRegistryV2 where
  checkpoints : List CheckpointV1
  cppSigner : Address

/-- `CheckpointRegistryV2.propose`: a checkpoint signed by `CPP_signer` is deployed and listed. -/
def CheckpointRegistryV2.propose (hasher : Hasher) (ecrecover : EcrecoverPrecompile)
    (reg : CheckpointRegistryV2) (env : CallEnv) (number : Uint) (hash : Hash)
    (signature : List UInt8) : Except Revert (CheckpointRegistryV2 × CheckpointV1) := do
  let sigbase := signatureBase hasher number hash
  require (signature.length = 65) "Invalid signature length"
  require (recoverSigner ecrecover sigbase signature = reg.cppSigner) "Invalid signer"
  let checkpoint ← CheckpointV2.new ecrecover env number hash sigbase signature
  pure ({ reg with checkpoints := reg.checkpoints ++ [checkpoint] }, checkpoint)

/-- `CheckpointService.onCheckpoint` up to its call of `AddDynamicCheckpoint`, which is
`addCheckpoint` from the network: the checkpoint and signatures it passes, the `uint`s cut to
their low 64 bits by `big.Int.Uint64`, or `none` when the object has no signature of the node's
checkpoint signer. -/
def onCheckpoint (cppSigner : Address) (cp : CheckpointV1) :
    Option (Checkpoint × List CheckpointSignature) :=
  let (number, hash, since) := cp.info
  match cp.signature cppSigner with
  | .error _ => none
  | .ok cppSig =>
    let cppSig := if cppSig.length ≥ 65 then cppSig.modify 64 (· - 27) else cppSig
    some (⟨UInt64.ofNat since.toNat, UInt64.ofNat number.toNat, hash⟩, [cppSig])

end RangeCore.Governance

namespace RangeCore.Governance

/-! ### The bytes both sides hash -/

/-- `checkpointManager.hashToSign` of a checkpoint whose number is a `uint` below `2^64` cut to
64 bits is the registry's `signatureBase`. -/
theorem hashToSign_eq_signatureBase (hasher : Hasher) (since : UInt64) (number : Uint)
    (hash : Hash) (hnum : number.toNat < 2 ^ 64) :
    hashToSign hasher ⟨since, UInt64.ofNat number.toNat, hash⟩ =
      (signatureBase hasher number hash).bytes := by
  have hcut : (UInt64.ofNat number.toNat).toNat = number.toNat := by
    simpa using hnum
  simp only [hashToSign, signatureBase, signatureBaseData, checkpointTag, hcut]

/-! ### The checkpoint object -/

namespace CheckpointV1

@[simp] theorem addSignature_signatureList (cp : CheckpointV1) (signer : Address)
    (signature : List UInt8) :
    (cp.addSignature signer signature).signatureList = cp.signatureList ++ [signature] := rfl

@[simp] theorem addSignature_info (cp : CheckpointV1) (signer : Address)
    (signature : List UInt8) : (cp.addSignature signer signature).info = cp.info := rfl

theorem addSignature_signers_of_ne (cp : CheckpointV1) {signer a : Address}
    (signature : List UInt8) (ha : a ≠ signer) :
    (cp.addSignature signer signature).signers a = cp.signers a :=
  Function.update_of_ne ha _ _

/-- `a` has signed `cp` with `signature`: `signers` points at it in `signatureList`. -/
def Signed (cp : CheckpointV1) (a : Address) (signature : List UInt8) : Prop :=
  ∃ i, i + 1 < 2 ^ 256 ∧ cp.signers a = BitVec.ofNat 256 (i + 1) ∧
    cp.signatureList[i]? = some signature

theorem ofNat_succ_ne_zero {i : ℕ} (hi : i + 1 < 2 ^ 256) : BitVec.ofNat 256 (i + 1) ≠ 0 := by
  intro h
  have h' := congrArg BitVec.toNat h
  rw [BitVec.toNat_ofNat, Nat.mod_eq_of_lt hi] at h'
  simp at h'

theorem toNat_ofNat_succ_sub_one {i : ℕ} (hi : i + 1 < 2 ^ 256) :
    (BitVec.ofNat 256 (i + 1) - 1).toNat = i := by
  rw [BitVec.toNat_sub, BitVec.toNat_ofNat, Nat.mod_eq_of_lt hi]
  simp
  omega

theorem Signed.signers_ne_zero {cp : CheckpointV1} {a : Address} {signature : List UInt8}
    (h : cp.Signed a signature) : cp.signers a ≠ 0 := by
  obtain ⟨i, hi, hsigner, -⟩ := h
  rw [hsigner]
  exact ofNat_succ_ne_zero hi

/-- `signature` reads back what a signer signed. -/
theorem Signed.signature {cp : CheckpointV1} {a : Address} {signature : List UInt8}
    (h : cp.Signed a signature) : cp.signature a = .ok signature := by
  obtain ⟨i, hi, hsigner, hsig⟩ := h
  simp only [CheckpointV1.signature, require, hsigner, toNat_ofNat_succ_sub_one hi, hsig]
  rw [if_pos (ofNat_succ_ne_zero hi)]
  rfl

/-- Another signature leaves a signer's in place. -/
theorem Signed.addSignature {cp : CheckpointV1} {a m : Address} {signature : List UInt8}
    (h : cp.Signed a signature) (hm : cp.signers m = 0) (sig : List UInt8) :
    (cp.addSignature m sig).Signed a signature := by
  have ham : a ≠ m := fun heq => h.signers_ne_zero (heq ▸ hm)
  obtain ⟨i, hi, hsigner, hsig⟩ := h
  refine ⟨i, hi, ?_, ?_⟩
  · rw [addSignature_signers_of_ne cp sig ham, hsigner]
  · rw [addSignature_signatureList, List.getElem?_append_left (List.getElem?_eq_some_iff.1 hsig).1,
      hsig]

/-- The first signature of a new object is signed by its signer. -/
theorem signed_new_addSignature (env : CallEnv) (number : Uint) (hash sigbase : Hash)
    (signer : Address) (signature : List UInt8) :
    ((new env number hash sigbase).addSignature signer signature).Signed signer signature :=
  ⟨0, by decide, Function.update_self _ _ _, rfl⟩

variable {ecrecover : EcrecoverPrecompile}

/-- What a `sign` call that succeeded did: a signer with no signature added one. -/
theorem sign_ok {cp cp' : CheckpointV1} {env : CallEnv} {isActive : Address → Except Revert Bool}
    {signature : List UInt8} (h : cp.sign ecrecover env isActive signature = .ok cp') :
    ∃ m, cp.signers m = 0 ∧ cp' = cp.addSignature m signature := by
  unfold sign at h
  obtain ⟨⟨⟩, -, h⟩ := Except.bind_eq_ok_iff.1 h
  obtain ⟨⟨⟩, -, h⟩ := Except.bind_eq_ok_iff.1 h
  obtain ⟨⟨⟩, hm, h⟩ := Except.bind_eq_ok_iff.1 h
  obtain ⟨active, -, h⟩ := Except.bind_eq_ok_iff.1 h
  obtain ⟨⟨⟩, -, h⟩ := Except.bind_eq_ok_iff.1 h
  exact ⟨_, require_eq_ok.1 hm, (Except.ok.inj h).symm⟩

theorem commit_cases (cp : CheckpointV1) (call : SignCall) :
    cp.commit ecrecover call = cp ∨
      ∃ m, cp.signers m = 0 ∧ cp.commit ecrecover call = cp.addSignature m call.signature := by
  unfold commit
  split
  · rename_i cp' hsign
    exact Or.inr (sign_ok hsign)
  · exact Or.inl rfl

/-- No run of `sign` calls changes a stored signature. -/
theorem Signed.runCalls {cp : CheckpointV1} {a : Address} {signature : List UInt8}
    (h : cp.Signed a signature) (calls : List SignCall) :
    (cp.runCalls ecrecover calls).Signed a signature := by
  refine StateMachine.run_invariant _ (fun c : CheckpointV1 => c.Signed a signature) h ?_ calls
  intro c call hc
  rcases commit_cases c call with hcommit | ⟨m, hm, hcommit⟩
  · rwa [hcommit]
  · rw [hcommit]
    exact hc.addSignature hm _

/-- No run of `sign` calls changes what `info` reads. -/
theorem runCalls_info (cp : CheckpointV1) (calls : List SignCall) :
    (cp.runCalls ecrecover calls).info = cp.info := by
  refine StateMachine.run_invariant _ (fun c : CheckpointV1 => c.info = cp.info) rfl ?_ calls
  intro c call hc
  rcases commit_cases c call with hcommit | ⟨m, -, hcommit⟩
  · rwa [hcommit]
  · rw [hcommit, addSignature_info, hc]

end CheckpointV1

/-! ### From the registry to the node -/

/-- A `propose` signed by `CPP_signer` deploys an object holding the signature under
`CPP_signer`, with the checkpoint's number and hash, and lists it. -/
theorem CheckpointRegistryV2.propose_ok_of_signer (hasher : Hasher)
    (ecrecover : EcrecoverPrecompile) (reg : CheckpointRegistryV2) (env : CallEnv) (number : Uint)
    (hash : Hash) {signature : List UInt8} (hlen : signature.length = 65)
    (hsigner : recoverSigner ecrecover (signatureBase hasher number hash) signature =
      reg.cppSigner) :
    ∃ cp, reg.propose hasher ecrecover env number hash signature =
        .ok ({ reg with checkpoints := reg.checkpoints ++ [cp] }, cp) ∧
      cp.Signed reg.cppSigner signature ∧ cp.info = (number, hash, env.blockNumber) := by
  refine ⟨(CheckpointV1.new env number hash (signatureBase hasher number hash)).addSignature
    reg.cppSigner signature, ?_, CheckpointV1.signed_new_addSignature _ _ _ _ _ _, rfl⟩
  simp [propose, CheckpointV2.new, require, hlen, hsigner, Except.pure_eq_ok]

/-- What the service passes on for an object that the node's checkpoint signer has signed. -/
theorem onCheckpoint_of_signed {cp : CheckpointV1} {a : Address} {signature : List UInt8}
    (h : cp.Signed a signature) (hlen : signature.length = 65) :
    onCheckpoint a cp = some (⟨UInt64.ofNat cp.since.toNat, UInt64.ofNat cp.number.toNat, cp.hash⟩,
      [signature.modify 64 (· - 27)]) := by
  simp [onCheckpoint, CheckpointV1.info, h.signature, hlen]

/-- The service's `cpp_sig[64] -= 27` replaces `v` by `v - 27`. -/
theorem modify_v_eq_set {signature : List UInt8} {v : UInt8} (hv : signature[64]? = some v) :
    signature.modify 64 (· - 27) = signature.set 64 (v - 27) := by
  rw [List.modify_eq_set, hv]
  rfl

/-- A checkpoint signature the registry accepts is one the node accepts. Both sides hash the same
bytes for every checkpoint number below `2^64`. A 65-byte signature with `v` in `{27, 28}` that
the precompile recovers to `CPP_signer` is accepted by `propose`. After any `sign` calls on the
object it deploys, `onCheckpoint` hands the node that checkpoint with the signature it reads back
for the node's signer. The node's signature check then passes, when the node's signer is
`CPP_signer` and the two recoveries agree. -/
theorem CheckpointRegistryV2.checkpoint_signature_agree (hasher : Hasher)
    (precompile : EcrecoverPrecompile) (ecrecover : Ecrecover)
    (hagree : EcrecoverAgree hasher precompile ecrecover) (reg : CheckpointRegistryV2)
    (env : CallEnv) (chain : CheckpointChain) (hcpp : chain.cppSigner = some reg.cppSigner)
    (number : Uint) (hash : Hash) (hnum : number.toNat < 2 ^ 64) (signature : List UInt8)
    (v : UInt8) (hlen : signature.length = 65) (hv : signature[64]? = some v)
    (hv27 : v = 27 ∨ v = 28)
    (hrec : precompile (signatureBase hasher number hash) v (decodeRS signature).1
      (decodeRS signature).2 = some reg.cppSigner) :
    (∀ since : UInt64, hashToSign hasher ⟨since, UInt64.ofNat number.toNat, hash⟩ =
      (signatureBase hasher number hash).bytes) ∧
    ∃ reg' checkpoint, reg.propose hasher precompile env number hash signature =
        .ok (reg', checkpoint) ∧
      ∀ calls, ∃ cp sigs,
        onCheckpoint reg.cppSigner (checkpoint.runCalls precompile calls) = some (cp, sigs) ∧
        cp.number = UInt64.ofNat number.toNat ∧ cp.hash = hash ∧
        CheckpointManager.checkCppSignature hasher ecrecover chain cp sigs = .ok () := by
  have hsigner : recoverSigner precompile (signatureBase hasher number hash) signature =
      reg.cppSigner := by
    simp [recoverSigner, List.getD_eq_getElem?_getD, hv, hrec]
  obtain ⟨checkpoint, hpropose, hsigned, hinfo⟩ :=
    propose_ok_of_signer hasher precompile reg env number hash hlen hsigner
  obtain ⟨pubkey, hpub, haddr⟩ := hagree _ signature v reg.cppSigner hlen hv hv27 hrec
  refine ⟨fun since => hashToSign_eq_signatureBase hasher since number hash hnum, _, checkpoint,
    hpropose, fun calls => ?_⟩
  -- the `sign` calls keep the number, the hash and the signer's signature
  have hinfo' := (@CheckpointV1.runCalls_info precompile checkpoint calls).trans hinfo
  have hnumber : (checkpoint.runCalls precompile calls).number = number := congrArg Prod.fst hinfo'
  have hhash : (checkpoint.runCalls precompile calls).hash = hash :=
    congrArg (fun i => i.2.1) hinfo'
  refine ⟨_, _, onCheckpoint_of_signed (hsigned.runCalls calls) hlen, by rw [hnumber], hhash, ?_⟩
  refine CheckpointManager.checkCppSignature_cons hasher ecrecover [] ?_ (by rw [hcpp, haddr])
  rw [hnumber, hhash, hashToSign_eq_signatureBase hasher _ number hash hnum, modify_v_eq_set hv]
  exact hpub

end RangeCore.Governance
