import RangeCore.Consensus.Verify
import RangeCore.Consensus.Finalize

/-!
# The engine's history and block validity

The Range engine keeps `callGas` and `xferGas` between blocks. `New` starts them at `30000` and
`0`; `processConsensusGasLimits`, the first step of every `Finalize`, replaces them by the values
the spork registry returns for the block being finalized (`15000000` and `30000000` in
`SporkRegistryV1`). Every other consensus call reads them, among them the `signerAddress()` call
of `VerifySeal` for a delegated-PoS coinbase. Two nodes that agree on the chain, one freshly
started and one that has finalized a block, can therefore disagree on a seal.

## Main results

* `RangeCore.Consensus.Range.processConsensusGasLimits_ok`: the gas-limit step changes nothing of
  the engine but its two gas fields.
* `RangeCore.Consensus.verifySeal_engine_history`: a header whose seal a fresh engine rejects and
  the same engine accepts once it has finalized a block.
-/

namespace RangeCore.Consensus

/-- The gas-limit step of `Finalize` changes nothing of the engine but `callGas` and `xferGas`,
which it reads from the first two words the spork registry returns. -/
theorem Range.processConsensusGasLimits_ok {e e' : Range} {hasher : Hasher} {evm : Evm}
    {header : Header} {db : StateDB}
    (h : e.processConsensusGasLimits hasher evm header db = .ok e') :
    ∃ ws : List ℕ, e' =
      { e with callGas := UInt64.ofNat (ws.getD 0 0), xferGas := UInt64.ofNat (ws.getD 1 0) } := by
  obtain ⟨⟨output, _⟩, -, h⟩ := Except.bind_eq_ok_iff.1 h
  obtain ⟨ws, -, h⟩ := Except.bind_eq_ok_iff.1 h
  exact ⟨ws, (Except.ok.inj h).symm⟩

/-! ### A delegated-PoS seal -/

/-- A stand-in for Keccak that hashes everything to zero. `VerifySeal` compares hash outputs only
with one another and with what the coinbase contract returns, so the run below does not depend on
the hash function; with this one every recovered signer has address zero. -/
def zeroHasher : Hasher := ⟨fun _ => 0, fun _ => 0, fun _ => 0, fun _ => 0⟩

/-- The coinbase: a delegated-PoS contract. -/
def delegatedCoinbase : Address := 0x1234#160

/-- The parent's state: the coinbase has code, nothing is blacklisted. -/
def delegatedState : StateDB where
  balance _ := 0
  nonce _ := 0
  storage _ _ := 0
  codeSize a := if a = delegatedCoinbase then 100 else 0

/-- The parent header, at number 1. -/
def delegatedParent : Header where
  parentHash := 0
  uncleHash := 0
  coinbase := 0
  root := 0
  difficulty := 1
  number := 1
  gasLimit := 40000000
  gasUsed := 0
  time := 0
  extra := []
  mixDigest := 0
  nonce := 0
  signature := []

/-- The header at number 2, minted by the delegated coinbase and signed with `r = s = 1`,
`v = 0`. -/
def delegatedHeader : Header where
  parentHash := 7
  uncleHash := 0
  coinbase := delegatedCoinbase
  root := 0
  difficulty := 1
  number := 2
  gasLimit := 40000000
  gasUsed := 0
  time := 60
  extra := []
  mixDigest := 0
  nonce := 1
  signature := bytesBE 32 1 ++ bytesBE 32 1 ++ [0]

/-- A reader that holds the parent, under the hash 7, and its state. -/
def delegatedChain : ChainReader where
  getHeader hash num := if hash = 7 ∧ num = 1 then some delegatedParent else none
  calculateBlockState hash num := if hash = 7 ∧ num = 1 then some delegatedState else none

/-- Signature recovery returns the signer's key; its address is zero under `zeroHasher`. -/
def delegatedEcrecover : Ecrecover := fun _ _ => .ok (List.replicate 65 4)

/-- The interpreter on two contracts: the spork registry returns the limits of
`SporkRegistryV1.consensusGasLimits()`, and the coinbase's `signerAddress()` needs 20000 gas to
return the signer, zero, and runs out of gas with less. -/
def delegatedEvm : Evm where
  call _ _ addr _ gas _ db :=
    if addr = rangeSporkRegistry then
      ⟨bytesBE 32 15000000 ++ bytesBE 32 30000000, gas - 300, 0, none, db⟩
    else if 20000 ≤ gas then ⟨bytesBE 32 0, gas - 20000, 0, none, db⟩
    else ⟨[], 0, 0, some .outOfGas, db⟩

/-- The seal of a delegated-PoS block depends on the engine's history. On the same chain and
header, a freshly started engine calls `signerAddress()` with `callGas = 30000`, of which the
intrinsic gas leaves under 9000; the call runs out of gas, its empty output does not unpack, and
the seal is rejected. After finalizing any block with `SporkRegistryV1`, the engine calls it with
`15000000` and accepts the seal. -/
theorem verifySeal_engine_history :
    Range.new.processConsensusGasLimits zeroHasher delegatedEvm delegatedHeader delegatedState =
        .ok { Range.new with callGas := 15000000, xferGas := 30000000 } ∧
      Range.new.verifySeal zeroHasher delegatedEcrecover delegatedEvm delegatedChain
        delegatedHeader = .error .abiUnpack ∧
      ({ Range.new with callGas := 15000000, xferGas := 30000000 } : Range).verifySeal zeroHasher
        delegatedEcrecover delegatedEvm delegatedChain delegatedHeader = .ok () :=
  ⟨rfl, rfl, rfl⟩

end RangeCore.Consensus
