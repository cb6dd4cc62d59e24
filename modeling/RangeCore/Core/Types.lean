import Mathlib.Data.BitVec

/-!
# Headers, transactions and errors

The data that the consensus engine of `range/consensus` and the block processing of `core` read
and write: block headers (`core/types/block.go`), transactions with the consensus-sender encoding
of `core/types/transaction.go`, and the error values these packages return.

Addresses and hashes are the fixed-width words `common.Address` and `common.Hash`. Big integers of
the source (`Header.Number`, `Header.Difficulty`, balances) are natural numbers; `uint64` fields
are `UInt64`, so their additions wrap as in Go. A `BlockNonce` is kept as the `uint64` that
`EncodeNonce` stores in it and `Uint64` reads back. Hashing of headers and transactions is not
modelled here: it enters every definition that needs it as a function parameter.

## Main definitions

* `RangeCore.Header`, `RangeCore.Header.isGen2Migration`.
* `RangeCore.Transaction`, `RangeCore.Transaction.isConsensus`,
  `RangeCore.Transaction.consensusSender`, `RangeCore.Transaction.withConsensusSender`.
* `RangeCore.Receipt`, `RangeCore.Error`.

## Main results

* `RangeCore.Transaction.isConsensus_withConsensusSender`: a transaction given a non-zero
  consensus sender is consensus-shaped, and its sender reads back.
-/

namespace RangeCore

/-- A 20-byte account address, `common.Address`. -/
abbrev Address := BitVec 160

/-- A 32-byte hash, `common.Hash`. -/
abbrev Hash := BitVec 256

/-- `common.Address.Hash`: the address left-padded to 32 bytes. -/
def Address.toHash (a : Address) : Hash := a.setWidth 256

/-- `common.BigToAddress`: the low 20 bytes of the magnitude of a big integer. -/
def bigToAddress (b : Int) : Address := BitVec.ofNat 160 b.natAbs

/-- The fields of `types.Header` that the modelled code reads or writes. -/
structure Header where
  parentHash : Hash
  uncleHash : Hash
  coinbase : Address
  root : Hash
  difficulty : ℕ
  number : ℕ
  gasLimit : UInt64
  gasUsed : UInt64
  time : UInt64
  extra : List UInt8
  mixDigest : Hash
  nonce : UInt64
  signature : List UInt8
  deriving DecidableEq, Repr

/-- `Header.IsGen2Migration`: block number one is the migration block. -/
def Header.isGen2Migration (h : Header) : Bool :=
  UInt64.ofNat h.number == 1

/-- The fields of `types.txdata`. -/
structure Transaction where
  accountNonce : UInt64
  price : ℕ
  gasLimit : UInt64
  recipient : Option Address
  amount : ℕ
  payload : List UInt8
  v : ℤ
  r : ℤ
  s : ℤ
  deriving DecidableEq, Repr

namespace Transaction

/-- `Transaction.IsConsensus`: a non-zero `V` and zero `R` and `S`. -/
def isConsensus (tx : Transaction) : Bool :=
  tx.v.sign != 0 && tx.r.sign == 0 && tx.s.sign == 0

/-- `Transaction.ConsensusSender`: the sender a consensus transaction names in its `V`. -/
def consensusSender (tx : Transaction) : Address := bigToAddress tx.v

/-- `Transaction.WithConsensusSender`: the copy with `V` set to the sender and `R = S = 0`. -/
def withConsensusSender (tx : Transaction) (sender : Address) : Transaction :=
  { tx with v := sender.toNat, r := 0, s := 0 }

theorem isConsensus_iff (tx : Transaction) :
    tx.isConsensus ↔ tx.v ≠ 0 ∧ tx.r = 0 ∧ tx.s = 0 := by
  simp [isConsensus, Int.sign_eq_zero_iff_zero, and_assoc]

/-- Every transaction the engine signs with a non-zero consensus sender is consensus-shaped, and
`ConsensusSigner` reads that sender back from it. -/
theorem isConsensus_withConsensusSender (tx : Transaction) {sender : Address}
    (hs : sender ≠ 0) :
    (tx.withConsensusSender sender).isConsensus ∧
      (tx.withConsensusSender sender).consensusSender = sender := by
  refine ⟨?_, ?_⟩
  · rw [isConsensus_iff]
    refine ⟨?_, rfl, rfl⟩
    simp only [withConsensusSender, ne_eq, Nat.cast_eq_zero]
    exact fun h => hs (BitVec.eq_of_toNat_eq h)
  · simp [consensusSender, withConsensusSender, bigToAddress]

end Transaction

/-- The fields of `types.Receipt` that the modelled code sets. -/
structure Receipt where
  txHash : Hash
  failed : Bool
  gasUsed : UInt64
  deriving DecidableEq, Repr

/-- The error values returned by the modelled functions, named after the Go variables; errors
built by `fmt.Errorf` carry the values they print. Three constructors stand for what Go does not
return: `nilDereference` and `divisionByZero` are panics, and `loopBound` marks a loop whose
iteration bound in the model ran out before the Go loop ended. -/
inductive Error where
  | errUnknownAncestor
  | errPrunedAncestor
  | errFutureBlock
  | errInvalidNumber
  | errMissingState
  | errInvalidConsensusTx
  | errBlockMinTime
  | errInvalidPoSHash
  | errInvalidPoSNonce
  | errMissingSig
  | errInvalidSig
  | errBlacklistedCoinbase
  | errInvalidTxSig
  | errOutOfGas
  | errNonceTooHigh
  | errNonceTooLow
  | errInsufficientBalanceForGas
  | errGasLimitReached
  | errCheckpointMismatch
  | missingCheckpointSignatures
  | invalidCppSignature
  | extraDataTooLong (actual : ℕ)
  | invalidMigration
  | invalidModifier (actual expected : Hash)
  | invalidDifficulty (actual expected : ℕ)
  | invalidGasLimitCap (actual : UInt64)
  | invalidGasUsed (actual limit : UInt64)
  | invalidGasLimitBound (actual parent limit : UInt64)
  | invalidGasLimitMin (actual : UInt64)
  | homesteadRepriceFork (actual expected : Hash)
  | abiUnpack
  | invalidOldChain
  | invalidNewChain
  | notConsensusTx
  | evm (msg : String)
  | nilDereference
  | divisionByZero
  | loopBound
  deriving DecidableEq, Repr

end RangeCore
