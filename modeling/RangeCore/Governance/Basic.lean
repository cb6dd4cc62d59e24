import RangeCore.Core.State

/-!
# Solidity contracts of the governance system

The governance contracts of `range/contracts/src` are Solidity 0.5 code. Their storage is a record
of fields and mappings, a mapping being a total function to the type's zero value; `uint` is a
256-bit word whose arithmetic wraps, 0.5 having no overflow checks; a call either returns its new
storage or reverts, leaving the storage as it was. A revert is a failed `require` with its message
or an assertion failure, which is also what an array index out of range, the `pop` of an empty
array and a division by zero end in.

## Main definitions

* `RangeCore.Governance.Uint`, `RangeCore.Governance.Revert`, `RangeCore.Governance.require`.
* `RangeCore.Governance.EcrecoverPrecompile`.
* `RangeCore.Governance.CallEnv`: what a call reads of its transaction and block.
-/

namespace RangeCore.Governance

/-- Solidity `uint`: a 256-bit word with wrapping arithmetic. -/
abbrev Uint := BitVec 256

/-- How a call reverts. -/
inductive Revert where
  | require (reason : String)
  | assert
  deriving DecidableEq, Repr

/-- `require(c, reason)`. -/
def require (c : Prop) [Decidable c] (reason : String) : Except Revert Unit :=
  if c then .ok () else .error (.require reason)

@[simp] theorem require_eq_ok {c : Prop} [Decidable c] {reason : String} :
    require c reason = .ok () ↔ c := by
  unfold require
  split_ifs with hc
  · exact iff_of_true rfl hc
  · exact iff_of_false (fun h => nomatch h) hc

/-- The `ecrecover` precompile: the address whose key signed a hash with the signature
`(v, r, s)`, if the signature recovers a key. -/
abbrev EcrecoverPrecompile := Hash → UInt8 → Hash → Hash → Option Address

/-- What a call reads of its transaction and block: `_callerAddress()` (the transaction origin
through the governed proxy, the sender otherwise), `block.number` and `block.timestamp`. -/
structure CallEnv where
  caller : Address
  blockNumber : Uint
  timestamp : Uint

end RangeCore.Governance
