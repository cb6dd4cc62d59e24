import RangeCore.Core.Types

/-!
# State, chain readers and hashing

What the consensus engine reads from its environment. `StateDB` keeps the parts of a
`state.StateDB` the modelled code touches: balances, nonces, contract storage and code sizes. A
`ChainReader` is the `consensus.ChainReader` interface restricted to the two lookups the engine
makes: a header by hash and number, and the post-state of a block (`CalculateBlockState`, which
re-executes blocks when the state was pruned). `Hasher` bundles the Keccak hashes, which this
development does not compute.

The system contract addresses of `range/params/accounts.go` and the blacklist and whitelist
readers of `core/range_zerofee.go` are here as well, since both the engine and block import use
them.

## Main definitions

* `RangeCore.StateDB`, `RangeCore.ChainReader`, `RangeCore.ChainReader.parentOf`,
  `RangeCore.Hasher`.
* `RangeCore.bytesBE`: big-endian fixed-width encodings of `common.Hash.Bytes` and friends.
* `RangeCore.pubkeyToAddress`, `RangeCore.Ecrecover`.
* `RangeCore.isBlacklisted`, `RangeCore.isWhitelisted`.
-/

namespace RangeCore

/-- The part of `state.StateDB` read or written by the modelled code. -/
structure StateDB where
  balance : Address → ℕ
  nonce : Address → UInt64
  storage : Address → Hash → Hash
  codeSize : Address → ℕ

namespace StateDB

/-- `StateDB.SetBalance`. -/
def setBalance (db : StateDB) (a : Address) (v : ℕ) : StateDB :=
  { db with balance := Function.update db.balance a v }

/-- `StateDB.SetNonce`. -/
def setNonce (db : StateDB) (a : Address) (n : UInt64) : StateDB :=
  { db with nonce := Function.update db.nonce a n }

end StateDB

/-- `consensus.ChainReader`: header lookup by hash and number, and the post-state of a block. -/
structure ChainReader where
  getHeader : Hash → UInt64 → Option Header
  calculateBlockState : Hash → UInt64 → Option StateDB

/-- The parent lookup made by every backward walk of the engine:
`chain.GetHeader(h.ParentHash, h.Number.Uint64() - 1)`, whose number wraps below zero. -/
def ChainReader.parentOf (chain : ChainReader) (h : Header) : Option Header :=
  chain.getHeader h.parentHash (UInt64.ofNat h.number - 1)

/-- The hash functions the modelled code calls: `Header.Hash`, `Transaction.Hash`,
`crypto.Keccak256Hash`, and `Range.SignatureHash`, the hash of a header's fields but its
signature. -/
structure Hasher where
  headerHash : Header → Hash
  txHash : Transaction → Hash
  keccak256 : List UInt8 → Hash
  signatureHash : Header → Hash

/-- The `n`-byte big-endian encoding of `x`, truncated to its low `n` bytes: `Hash.Bytes` for
`n = 32`, `Address.Bytes` for `n = 20`, `binary.BigEndian.PutUint64` for `n = 8`. -/
def bytesBE : ℕ → ℕ → List UInt8
  | 0, _ => []
  | n + 1, x => bytesBE n (x / 256) ++ [UInt8.ofNat (x % 256)]

@[simp] theorem length_bytesBE (n x : ℕ) : (bytesBE n x).length = n := by
  induction n generalizing x with
  | zero => rfl
  | succ n ih => simp [bytesBE, ih]

/-- `common.Hash.Bytes`. -/
def Hash.bytes (h : Hash) : List UInt8 := bytesBE 32 h.toNat

/-- `common.Address.Bytes`. -/
def Address.bytes (a : Address) : List UInt8 := bytesBE 20 a.toNat

/-- `crypto.PubkeyToAddress` of an uncompressed public key: `Keccak256(pubkey[1:])[12:]`. -/
def pubkeyToAddress (hasher : Hasher) (pubkey : List UInt8) : Address :=
  (hasher.keccak256 (pubkey.drop 1)).setWidth 160

/-- `crypto.Ecrecover`: the public key that signed a hash. -/
abbrev Ecrecover := List UInt8 → List UInt8 → Except Error (List UInt8)

/-- `energi_params.Range_BlockReward`. -/
def rangeBlockReward : Address := 0x300#160

/-- `energi_params.Range_SporkRegistry`. -/
def rangeSporkRegistry : Address := 0x305#160

/-- `energi_params.Range_BlacklistRegistry`. -/
def rangeBlacklistRegistry : Address := 0x307#160

/-- `energi_params.Range_MigrationContract`. -/
def rangeMigrationContract : Address := 0x308#160

/-- `energi_params.Range_Blacklist`: the storage of consensus-maintained blacklist flags. -/
def rangeBlacklist : Address := 0x30A#160

/-- `energi_params.Range_Whitelist`. -/
def rangeWhitelist : Address := 0x30B#160

/-- `energi_params.Range_SystemFaucet`. -/
def rangeSystemFaucet : Address := 0x320#160

/-- `core.IsBlacklisted`: a non-zero flag under the address in the `Range_Blacklist` storage. -/
def isBlacklisted (db : StateDB) (addr : Address) : Bool :=
  db.storage rangeBlacklist addr.toHash != 0

/-- `core.IsWhitelisted`. -/
def isWhitelisted (db : StateDB) (addr : Address) : Bool :=
  db.storage rangeWhitelist addr.toHash != 0

end RangeCore
