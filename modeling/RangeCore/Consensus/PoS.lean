import RangeCore.Core.State
import RangeCore.Lib.PartialIterate

/-!
# Proof-of-stake rules of the Range engine

The block time, stake modifier, difficulty, PoS hash and stake weight rules of
`range/consensus/pos.go`, with the constants of `range/params/consensus.go`. Each function keeps
its Go structure; `uint64` arithmetic wraps. Two Go behaviours that are not return values are
made explicit: a nil dereference or a big-integer division by zero is the error `panic`, and the
unbounded loop of `lookupStakeWeight` runs on `fuel`, reporting `loopBound` when the fuel runs out
before the Go loop would have ended.

## Main definitions

* `RangeCore.Consensus.calcTimeTarget`, `enforceTime`, `checkTime` (POS-11, POS-12).
* `RangeCore.Consensus.calcPoSModifier` (POS-14).
* `RangeCore.Consensus.calcPoSDifficultyV1` (POS-13) and its tables.
* `RangeCore.Consensus.calcPoSHash` (POS-18, POS-22).
* `RangeCore.Consensus.lookupStakeWeight` (POS-3, POS-4, POS-22).
* `RangeCore.Consensus.verifyPoSHash`.
-/

namespace RangeCore.Consensus

/-- `MaturityPeriod`: one hour. -/
def maturityPeriod : UInt64 := 60 * 60

/-- `AverageTimeBlocks`. -/
def averageTimeBlocks : UInt64 := 60

/-- `TargetBlockGap`. -/
def targetBlockGap : UInt64 := 60

/-- `MinBlockGap`. -/
def minBlockGap : UInt64 := 30

/-- `MaxFutureGap`. -/
def maxFutureGap : UInt64 := 3

/-- `TargetPeriodGap`. -/
def targetPeriodGap : UInt64 := averageTimeBlocks * targetBlockGap

/-- `minStake`: one coin of `10^18` wei, the unit of stake weight. -/
def minStake : ℕ := 10 ^ 18

/-- `diff1Target = 2^256`. -/
def diff1Target : ℕ := 2 ^ 256

/-! ### Block time -/

/-- `timeTarget`. -/
structure TimeTarget where
  minTime : UInt64
  maxTime : UInt64
  blockTarget : UInt64
  periodTarget : UInt64
  deriving DecidableEq, Repr

/-- `calcTimeTarget`: the window `[min_time, max_time]` for a child of `parent`, read at the local
clock `now`. From block `AverageTimeBlocks` on, the walk of `AverageTimeBlocks - 1` parent links
finds the header `AverageTimeBlocks` blocks before the child; when a link is missing the period
rule is dropped. -/
def calcTimeTarget (chain : ChainReader) (now : UInt64) (parent : Header) : TimeTarget :=
  let base : TimeTarget :=
    { minTime := parent.time + minBlockGap
      maxTime := now + maxFutureGap
      blockTarget := parent.time + targetBlockGap
      periodTarget := parent.time + targetBlockGap }
  if averageTimeBlocks ≤ UInt64.ofNat parent.number + 1 then
    match PartialFun.iterate chain.parentOf (averageTimeBlocks - 1).toNat parent with
    | none => base
    | some past =>
      let periodMinTime := past.time + targetPeriodGap - minBlockGap
      { base with
        periodTarget := past.time + targetPeriodGap
        minTime := if periodMinTime > base.minTime then periodMinTime else base.minTime }
  else base

/-- `checkTime`. -/
def checkTime (header : Header) (tt : TimeTarget) : Except Error Unit :=
  if header.time < tt.minTime then .error .errBlockMinTime
  else if header.time > tt.maxTime then .error .errFutureBlock
  else .ok ()

/-- Before block `AverageTimeBlocks` the window is the gap rule from the parent alone. -/
theorem calcTimeTarget_of_lt {chain : ChainReader} {now : UInt64} {parent : Header}
    (hb : UInt64.ofNat parent.number + 1 < averageTimeBlocks) :
    calcTimeTarget chain now parent =
      { minTime := parent.time + minBlockGap, maxTime := now + maxFutureGap,
        blockTarget := parent.time + targetBlockGap,
        periodTarget := parent.time + targetBlockGap } := by
  simp only [calcTimeTarget, if_neg (UInt64.not_le.2 hb)]

/-- The window's lower end is at least `MinBlockGap` after the parent, in `uint64` arithmetic. -/
theorem le_calcTimeTarget_minTime (chain : ChainReader) (now : UInt64) (parent : Header) :
    parent.time + minBlockGap ≤ (calcTimeTarget chain now parent).minTime := by
  unfold calcTimeTarget
  split_ifs
  · split
    · exact UInt64.le_refl _
    · dsimp only
      split_ifs with hp
      · exact UInt64.le_of_lt hp
      · exact UInt64.le_refl _
  · exact UInt64.le_refl _

/-- When the walk reaches the header `AverageTimeBlocks` blocks back, the window's lower end is at
least `TargetPeriodGap - MinBlockGap` after it, in `uint64` arithmetic. -/
theorem calcTimeTarget_minTime_period {chain : ChainReader} {now : UInt64} {parent past : Header}
    (hb : averageTimeBlocks ≤ UInt64.ofNat parent.number + 1)
    (hw : PartialFun.iterate chain.parentOf (averageTimeBlocks - 1).toNat parent = some past) :
    past.time + targetPeriodGap - minBlockGap ≤ (calcTimeTarget chain now parent).minTime := by
  simp only [calcTimeTarget, if_pos hb, hw]
  split_ifs with hp
  · exact UInt64.le_refl _
  · exact UInt64.not_lt.1 hp

theorem checkTime_ok {header : Header} {tt : TimeTarget} (h : checkTime header tt = .ok ()) :
    tt.minTime ≤ header.time ∧ header.time ≤ tt.maxTime := by
  unfold checkTime at h
  split_ifs at h with hmin hmax
  exact ⟨UInt64.not_lt.1 hmin, UInt64.not_lt.1 hmax⟩

/-! ### Stake modifier -/

/-- The loop of `calcPoSModifier`, from the state `(header, num, oldest)`: while
`header.Time > border` and `num > 0` it moves `oldest` to `header` and `header` to its parent at
`num - 1`. A missing header is dereferenced by the loop condition. -/
def modifierWalk (chain : ChainReader) (border : UInt64) :
    ℕ → Option Header → Header → Except Error Header
  | _, none, _ => .error .nilDereference
  | 0, some _, oldest => .ok oldest
  | num + 1, some h, oldest =>
    if h.time > border then
      modifierWalk chain border num (chain.getHeader h.parentHash (UInt64.ofNat num)) h
    else .ok oldest

/-- `calcPoSModifier`: the hash of the parent's coinbase and the state root of the oldest block
inside the maturity period. -/
def calcPoSModifier (hasher : Hasher) (chain : ChainReader) (time : UInt64) (parent : Header) :
    Except Error Hash :=
  let border := if time < maturityPeriod then 0 else time - maturityPeriod
  (modifierWalk chain border (UInt64.ofNat parent.number).toNat (some parent) parent).map
    fun oldest => hasher.keccak256 (parent.coinbase.bytes ++ oldest.root.bytes)

/-! ### Difficulty -/

/-- `diffV1_BMax`. -/
def diffV1BMax : UInt64 := 30

/-- `diffV1_AMax`. -/
def diffV1AMax : UInt64 := 120

/-- `diffV1_DivPlain`. -/
def diffV1DivPlain : ℕ := 100

/-- `diffV1_BTable = initDiffTable(30, 1.1)`, the values the float64 computation of `init`
stores. -/
def diffV1BTable : List ℕ :=
  [1, 110, 121, 133, 146, 161, 177, 194, 214, 235, 259, 285, 313, 345, 379, 417, 459, 505, 555,
    611, 672, 740, 814, 895, 984, 1083, 1191, 1310, 1442, 1586, 1744]

/-- `diffV1_ATable = initDiffTable(120, 1.05)`, as stored by `init`. -/
def diffV1ATable : List ℕ :=
  [1, 105, 110, 115, 121, 127, 134, 140, 147, 155, 162, 171, 179, 188, 197, 207, 218, 229, 240,
    252, 265, 278, 292, 307, 322, 338, 355, 373, 392, 411, 432, 453, 476, 500, 525, 551, 579, 608,
    638, 670, 703, 739, 776, 814, 855, 898, 943, 990, 1040, 1092, 1146, 1204, 1264, 1327, 1393,
    1463, 1536, 1613, 1694, 1778, 1867, 1961, 2059, 2162, 2270, 2383, 2503, 2628, 2759, 2897, 3042,
    3194, 3354, 3522, 3698, 3883, 4077, 4281, 4495, 4720, 4956, 5203, 5464, 5737, 6024, 6325, 6641,
    6973, 7322, 7688, 8073, 8476, 8900, 9345, 9812, 10303, 10818, 11359, 11927, 12523, 13150, 13807,
    14498, 15222, 15984, 16783, 17622, 18503, 19428, 20400, 21420, 22491, 23615, 24796, 26036,
    27338, 28705, 30140, 31647, 33229, 34891]

/-- `calcPoSDifficultyV1`: the parent difficulty scaled up for blocks before the target time and
down for blocks after it, never below one; unchanged at the target. -/
def calcPoSDifficultyV1 (_chain : ChainReader) (time : UInt64) (parent : Header)
    (tt : TimeTarget) : ℕ :=
  let target := (tt.blockTarget + tt.periodTarget) / 2
  let target := if target < tt.minTime then tt.minTime else target
  if time < target then
    let s := target - time
    let s := if s > diffV1BMax then diffV1BMax else s
    let d := parent.difficulty * diffV1BTable.getD s.toNat 0 / diffV1DivPlain
    if d < 1 then 1 else d
  else if time > target then
    let s := time - target
    let s := if s > diffV1AMax then diffV1AMax else s
    let d := parent.difficulty * diffV1DivPlain / diffV1ATable.getD s.toNat 0
    if d < 1 then 1 else d
  else parent.difficulty

/-! ### PoS hash and stake weight -/

/-- `calcPoSHash`: the PoS hash of the header and the weight it uses against `target`, the
rounded-up quotient read through `Uint64`; `none` when the weight does not cover it. -/
def calcPoSHash (hasher : Hasher) (header : Header) (target : ℕ) (weight : UInt64) :
    Except Error (Option (ℕ × UInt64)) := do
  let poshash := (hasher.keccak256 (bytesBE 8 header.time.toNat ++ header.mixDigest.bytes ++
    header.coinbase.bytes)).toNat
  let usedWeight ← if poshash > target then
      if target = 0 then Except.error Error.divisionByZero
      else
        let count := UInt64.ofNat (poshash / target)
        pure (if poshash % target > 0 then count + 1 else count)
    else pure 1
  pure (if weight < usedWeight then none else some (poshash, usedWeight))

/-- The loop of `lookupStakeWeight` from the state `(till, blockst, weight, total_staked,
first_run)`, for at most `fuel` iterations. It returns the final `weight` and `total_staked`. -/
def stakeWalk (chain : ChainReader) (since : UInt64) (addr : Address) :
    ℕ → Header → Option StateDB → UInt64 → UInt64 → Bool → Except Error (UInt64 × UInt64)
  | 0, _, _, _, _, _ => .error .loopBound
  | fuel + 1, till, blockst, weight, total, firstRun =>
    if till.time > since || firstRun then
      match blockst with
      | none => .error .errMissingState
      | some st =>
        let weightAt := UInt64.ofNat (st.balance addr / minStake)
        let weight := if firstRun then weightAt else weight
        let weight := if weight > weightAt then weightAt else weight
        if weight < 1 then .ok (weight, total)
        else
          let total := if till.coinbase = addr then total + till.nonce else total
          let parentNumber := UInt64.ofNat till.number - 1
          match chain.getHeader till.parentHash parentNumber with
          | none => if till.number = 0 then .ok (weight, total) else .error .errUnknownAncestor
          | some next =>
            stakeWalk chain since addr fuel next
              (chain.calculateBlockState till.parentHash parentNumber) weight total false
    else .ok (weight, total)

/-- `lookupStakeWeight`: the least stake of `addr`, in coins, over the blocks from `till` back to
the start of the maturity period before `now`, less what `addr` staked in those blocks. -/
def lookupStakeWeight (hasher : Hasher) (chain : ChainReader) (fuel : ℕ) (now : UInt64)
    (till : Header) (addr : Address) : Except Error UInt64 := do
  let since := if now > maturityPeriod then now - maturityPeriod else 0
  let (weight, total) ← stakeWalk chain since addr fuel till
    (chain.calculateBlockState (hasher.headerHash till) (UInt64.ofNat till.number)) 0 0 true
  pure (if weight < total then 0 else weight - total)

/-- `verifyPoSHash`: the header's PoS hash meets the target of its difficulty with the stake
weight of its coinbase, and its nonce is the weight used. -/
def verifyPoSHash (hasher : Hasher) (chain : ChainReader) (fuel : ℕ) (header : Header) :
    Except Error Unit := do
  let some parent := chain.parentOf header | .error .errUnknownAncestor
  let weight ← lookupStakeWeight hasher chain fuel header.time parent header.coinbase
  if header.difficulty = 0 then .error .divisionByZero
  let target := diff1Target / header.difficulty
  let some (_, usedWeight) ← calcPoSHash hasher header target weight
    | .error .errInvalidPoSHash
  if usedWeight ≠ header.nonce then .error .errInvalidPoSNonce
  pure ()

end RangeCore.Consensus
