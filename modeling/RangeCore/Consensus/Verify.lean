import RangeCore.Consensus.PoS
import RangeCore.Consensus.Engine
import RangeCore.Lib.ExceptBind

/-!
# Header verification

`Range.VerifyHeader` and `Range.VerifySeal` of `range/consensus/engine.go`, with the two helpers
they call outside the engine, `misc.VerifyForkHashes` and `crypto.ValidateSignatureValues`.
`VerifyHeader` checks the extra data and the migration block, finds the parent through the chain
reader, and checks the header's time, stake modifier, difficulty, gas and number against it; with
`checkSeal` (the Go argument `seal`) it also checks the signature (`VerifySeal`) and the PoS hash
(`verifyPoSHash`). Its `checkDoS` step returns nil in this version and is left out.

The verifier's clock `e.now()` is the argument `now`, read once by `calcTimeTarget`, and the loop
of the stake lookup runs on `fuel`.

## Main definitions

* `RangeCore.Consensus.ChainConfig`, `RangeCore.Consensus.verifyForkHashes`.
* `RangeCore.Consensus.validateSignatureValues`.
* `RangeCore.Consensus.Range.verifySeal`, `RangeCore.Consensus.Range.verifyHeader`.

## Main results

* `RangeCore.Consensus.Range.verifyHeader_ok`: what a header accepted against its parent
  satisfies.
-/

namespace RangeCore.Consensus

/-- `params.MaximumExtraDataSize`. -/
def maximumExtraDataSize : UInt64 := 32

/-- `params.GasLimitBoundDivisor`. -/
def gasLimitBoundDivisor : UInt64 := 1024

/-- `params.MinGasLimit`. -/
def minGasLimit : UInt64 := 40000000

/-- `sealLen`: a signature is 65 bytes, `r`, `s` and `v`. -/
def sealLen : ℕ := 65

/-- `secp256k1N`, the order of the curve. -/
def secp256k1N : ℕ := 0xfffffffffffffffffffffffffffffffebaaedce6af48a03bbfd25e8cd0364141

/-- `secp256k1halfN`. -/
def secp256k1halfN : ℕ := secp256k1N / 2

/-- `crypto.ValidateSignatureValues`. -/
def validateSignatureValues (v : UInt8) (r s : ℕ) (homestead : Bool) : Bool :=
  if r < 1 ∨ s < 1 then false
  else if homestead ∧ s > secp256k1halfN then false
  else r < secp256k1N ∧ s < secp256k1N ∧ (v = 0 ∨ v = 1)

/-- The fields of `params.ChainConfig` that header verification reads: the EIP-150 fork block and
the hash it must have. -/
structure ChainConfig where
  eip150Block : Option ℕ
  eip150Hash : Hash

/-- `misc.VerifyForkHashes`. -/
def verifyForkHashes (hasher : Hasher) (config : ChainConfig) (header : Header) (uncle : Bool) :
    Except Error Unit :=
  if uncle then .ok ()
  else if config.eip150Block = some header.number ∧ config.eip150Hash ≠ 0 ∧
      config.eip150Hash ≠ hasher.headerHash header then
    .error (.homesteadRepriceFork (hasher.headerHash header) config.eip150Hash)
  else .ok ()

namespace Range

variable (e : Range) (hasher : Hasher) (ecrecover : Ecrecover) (evm : Evm)

/-- `VerifySeal`: on the parent's state, the coinbase must not be blacklisted and the signature
must recover to the coinbase or, for a coinbase contract, to the address its `signerAddress()`
returns (POS-5, delegated PoS). That call is made with the engine's `callGas`, in the context of
the parent header, and its state changes are reverted. -/
def verifySeal (chain : ChainReader) (header : Header) : Except Error Unit := do
  let parentNumber := UInt64.ofNat header.number - 1
  let some blockst := chain.calculateBlockState header.parentHash parentNumber
    | .error .errMissingState
  if isBlacklisted blockst header.coinbase then throw .errBlacklistedCoinbase
  if header.signature.length ≠ sealLen then throw .errMissingSig
  let sighash := hasher.signatureHash header
  let r := ofBytesBE (header.signature.take 32)
  let s := ofBytesBE ((header.signature.drop 32).take 32)
  let v := header.signature.getD 64 0
  if !validateSignatureValues v r s true then throw .errInvalidTxSig
  let pubkey ← ecrecover sighash.bytes header.signature
  let addr := pubkeyToAddress hasher pubkey
  if addr = header.coinbase then pure ()
  else
    let some parent := chain.getHeader header.parentHash parentNumber
      | .error .errUnknownAncestor
    if blockst.codeSize header.coinbase > 0 then
      let msg : Message :=
        { sender := e.systemFaucet, recipient := header.coinbase, nonce := 0, amount := 0,
          gasLimit := e.callGas, gasPrice := 0, data := methodId hasher "signerAddress()",
          checkNonce := false }
      let (output, _) ← applyMessage evm (e.createEVM msg parent) msg e.callGas blockst
      let signer ← unpackAddress output
      if signer = addr then pure () else throw .errInvalidSig
    else throw .errInvalidSig

/-- `VerifyHeader` with the clock reading `now` and the stake lookup's `fuel`. A header whose
parent is missing is accepted only at number zero. -/
def verifyHeader (config : ChainConfig) (chain : ChainReader) (fuel : ℕ) (now : UInt64)
    (header : Header) (checkSeal : Bool) : Except Error Unit := do
  let isMigration := header.isGen2Migration
  if UInt64.ofNat header.extra.length > maximumExtraDataSize ∧ !isMigration then
    throw (.extraDataTooLong header.extra.length)
  if isMigration ∧ header.coinbase ≠ rangeMigrationContract then throw .invalidMigration
  match chain.parentOf header with
  | none => if header.number ≠ 0 then throw .errUnknownAncestor else pure ()
  | some parent =>
    let tt := calcTimeTarget chain now parent
    checkTime header tt
    let modifier ← calcPoSModifier hasher chain header.time parent
    if header.mixDigest ≠ modifier then throw (.invalidModifier header.mixDigest modifier)
    let difficulty := e.diffFn chain header.time parent tt
    if header.difficulty ≠ difficulty then
      throw (.invalidDifficulty header.difficulty difficulty)
    let cap : UInt64 := 0x7fffffffffffffff
    if header.gasLimit > cap then throw (.invalidGasLimitCap header.gasLimit)
    if header.gasUsed > header.gasLimit ∧ !isMigration then
      throw (.invalidGasUsed header.gasUsed header.gasLimit)
    let diff := parent.gasLimit.toInt64 - header.gasLimit.toInt64
    let diff := if diff < 0 then diff * -1 else diff
    let limit := parent.gasLimit / gasLimitBoundDivisor
    if diff.toUInt64 ≥ limit ∧ !isMigration ∧ !parent.isGen2Migration then
      throw (.invalidGasLimitBound header.gasLimit parent.gasLimit limit)
    if header.gasLimit < minGasLimit then throw (.invalidGasLimitMin header.gasLimit)
    if (header.number : ℤ) - parent.number ≠ 1 then throw .errInvalidNumber
    if checkSeal then
      e.verifySeal hasher ecrecover evm chain header
      verifyPoSHash hasher chain fuel header
    verifyForkHashes hasher config header false

/-- What a header accepted against a parent the chain reader finds satisfies: its time is in the
window of `calcTimeTarget`, its mix digest is the stake modifier, its difficulty is the engine's,
its number follows the parent's, and with `checkSeal` its seal and PoS hash were checked. -/
theorem verifyHeader_ok {config : ChainConfig} {chain : ChainReader} {fuel : ℕ} {now : UInt64}
    {header parent : Header} {checkSeal : Bool} (hp : chain.parentOf header = some parent)
    (h : e.verifyHeader hasher ecrecover evm config chain fuel now header checkSeal = .ok ()) :
    checkTime header (calcTimeTarget chain now parent) = .ok () ∧
      calcPoSModifier hasher chain header.time parent = .ok header.mixDigest ∧
      header.difficulty = e.diffFn chain header.time parent (calcTimeTarget chain now parent) ∧
      header.number = parent.number + 1 ∧
      (checkSeal = true → e.verifySeal hasher ecrecover evm chain header = .ok () ∧
        verifyPoSHash hasher chain fuel header = .ok ()) := by
  unfold verifyHeader at h
  obtain ⟨-, h⟩ := Except.ite_throw_bind_eq_ok_iff.1 h
  obtain ⟨-, h⟩ := Except.ite_throw_bind_eq_ok_iff.1 h
  rw [hp] at h
  obtain ⟨⟨⟩, htime, h⟩ := Except.bind_eq_ok_iff.1 h
  obtain ⟨modifier, hmod, h⟩ := Except.bind_eq_ok_iff.1 h
  obtain ⟨hmix, h⟩ := Except.ite_throw_bind_eq_ok_iff.1 h
  obtain ⟨hdiff, h⟩ := Except.ite_throw_bind_eq_ok_iff.1 h
  obtain ⟨-, h⟩ := Except.ite_throw_bind_eq_ok_iff.1 h
  obtain ⟨-, h⟩ := Except.ite_throw_bind_eq_ok_iff.1 h
  obtain ⟨-, h⟩ := Except.ite_throw_bind_eq_ok_iff.1 h
  obtain ⟨-, h⟩ := Except.ite_throw_bind_eq_ok_iff.1 h
  obtain ⟨hnum, h⟩ := Except.ite_throw_bind_eq_ok_iff.1 h
  have hmix : header.mixDigest = modifier := not_not.1 hmix
  have hnum : (header.number : ℤ) - parent.number = 1 := not_not.1 hnum
  refine ⟨htime, hmix ▸ hmod, not_not.1 hdiff, by omega, fun hs => ?_⟩
  simp only [hs, ↓reduceIte] at h
  obtain ⟨⟨⟩, hseal, h⟩ := Except.bind_eq_ok_iff.1 h
  obtain ⟨⟨⟩, hpos, -⟩ := Except.bind_eq_ok_iff.1 h
  exact ⟨hseal, hpos⟩

end Range

end RangeCore.Consensus
