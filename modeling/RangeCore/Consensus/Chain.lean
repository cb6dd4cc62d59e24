import RangeCore.Consensus.Verify

/-!
# Verified chains and block time spacing

A chain of headers `h 0, ..., h n` from a genesis in which every header after the genesis passed
`VerifyHeader` against its parent. Each verification has its own chain reader, clock reading and
seal flag, as the chain grows between them; every ancestor of the header being verified is
available to its reader.

The time rules of `calcTimeTarget` (POS-11, POS-12) give every such chain a minimum gap between
consecutive blocks and a minimum length for every window of `AverageTimeBlocks` blocks, as long
as the `uint64` additions of `calcTimeTarget` do not wrap. They do wrap for a parent within
`MinBlockGap` of `2^64`, and then a child with a smaller time is accepted.

## Main definitions

* `RangeCore.Consensus.VerifiedChain`.

## Main results

* `RangeCore.Consensus.VerifiedChain.number_eq`: the headers are numbered from zero.
* `RangeCore.Consensus.VerifiedChain.iterate_parentOf`: the walk of `calcTimeTarget` finds the
  header the given number of blocks back.
* `RangeCore.Consensus.verifiedChain_time_spacing`: the gap and window bounds without wrapping.
* `RangeCore.Consensus.time_spacing_wraps`: a verified migration block before its genesis.
* `RangeCore.Consensus.paceChain_verified`: a chain whose blocks come `TargetBlockGap` apart is
  verified at every length, with its difficulty unchanged.
-/

namespace RangeCore.Consensus

/-- Headers `h 0, ..., h n` from a genesis at number zero, each `h (i + 1)` accepted by
`VerifyHeader` with the reader `rd (i + 1)`, the clock reading `now (i + 1)` and the seal flag
`checkSeal (i + 1)`, where that reader finds every header of the chain up to `h (i + 1)` as the
parent of the next. -/
structure VerifiedChain (e : Range) (hasher : Hasher) (ecrecover : Ecrecover) (evm : Evm)
    (config : ChainConfig) (fuel : ℕ) (rd : ℕ → ChainReader) (now : ℕ → UInt64)
    (checkSeal : ℕ → Bool) (h : ℕ → Header) (n : ℕ) : Prop where
  genesis : (h 0).number = 0
  linked : ∀ i < n, ∀ j ≤ i, (rd (i + 1)).parentOf (h (j + 1)) = some (h j)
  verified : ∀ i < n, e.verifyHeader hasher ecrecover evm config (rd (i + 1)) fuel (now (i + 1))
    (h (i + 1)) (checkSeal (i + 1)) = .ok ()

namespace VerifiedChain

variable {e : Range} {hasher : Hasher} {ecrecover : Ecrecover} {evm : Evm} {config : ChainConfig}
  {fuel : ℕ} {rd : ℕ → ChainReader} {now : ℕ → UInt64} {checkSeal : ℕ → Bool} {h : ℕ → Header}
  {n : ℕ}

/-- One verification of the chain: `h (i + 1)` against `h i`. -/
theorem step (hc : VerifiedChain e hasher ecrecover evm config fuel rd now checkSeal h n) {i : ℕ}
    (hi : i < n) :
    checkTime (h (i + 1)) (calcTimeTarget (rd (i + 1)) (now (i + 1)) (h i)) = .ok () ∧
      (h (i + 1)).number = (h i).number + 1 :=
  have hok := Range.verifyHeader_ok e hasher ecrecover evm (hc.linked i hi i le_rfl)
    (hc.verified i hi)
  ⟨hok.1, hok.2.2.2.1⟩

/-- The headers of a verified chain are numbered from zero. -/
theorem number_eq (hc : VerifiedChain e hasher ecrecover evm config fuel rd now checkSeal h n) :
    ∀ i ≤ n, (h i).number = i
  | 0, _ => hc.genesis
  | i + 1, hi => by
    rw [(hc.step hi).2, hc.number_eq i (Nat.le_of_succ_le hi)]

/-- From `h m`, `k ≤ m` parent links of the reader that verified `h (m + 1)` lead to
`h (m - k)`. -/
theorem iterate_parentOf
    (hc : VerifiedChain e hasher ecrecover evm config fuel rd now checkSeal h n) {m k : ℕ}
    (hm : m < n) (hk : k ≤ m) :
    PartialFun.iterate (rd (m + 1)).parentOf k (h m) = some (h (m - k)) := by
  have hlinks : ∀ j < k, (rd (m + 1)).parentOf (h (m - j)) = some (h (m - (j + 1))) := by
    intro j hj
    have hsucc : m - j = m - (j + 1) + 1 := by omega
    rw [hsucc]
    exact hc.linked m hm (m - (j + 1)) (by omega)
  simpa using PartialFun.iterate_of_links _ (g := fun j => h (m - j)) hlinks

end VerifiedChain

section

variable {e : Range} {hasher : Hasher} {ecrecover : Ecrecover} {evm : Evm} {config : ChainConfig}
  {fuel : ℕ} {rd : ℕ → ChainReader} {now : ℕ → UInt64} {checkSeal : ℕ → Bool} {h : ℕ → Header}
  {n : ℕ}

/-- The gap rule: a verified child is at least `MinBlockGap` after its parent when that sum does
not wrap. -/
theorem VerifiedChain.time_gap
    (hc : VerifiedChain e hasher ecrecover evm config fuel rd now checkSeal h n) {i : ℕ}
    (hi : i < n) (hlt : (h i).time.toNat + minBlockGap.toNat < 2 ^ 64) :
    (h i).time.toNat + minBlockGap.toNat ≤ (h (i + 1)).time.toNat := by
  have hle := UInt64.le_trans (le_calcTimeTarget_minTime (rd (i + 1)) (now (i + 1)) (h i))
    (checkTime_ok (hc.step hi).1).1
  rwa [UInt64.le_iff_toNat_le, UInt64.toNat_add, Nat.mod_eq_of_lt hlt] at hle

/-- The period rule: a verified block is at least `TargetPeriodGap - MinBlockGap` after the block
`AverageTimeBlocks` before it when the sum does not wrap and the numbers fit in `uint64`. -/
theorem VerifiedChain.time_period
    (hc : VerifiedChain e hasher ecrecover evm config fuel rd now checkSeal h n) (hn : n < 2 ^ 64)
    {i : ℕ} (hi : i + averageTimeBlocks.toNat ≤ n)
    (hlt : (h i).time.toNat + targetPeriodGap.toNat < 2 ^ 64) :
    (h i).time.toNat + targetPeriodGap.toNat - minBlockGap.toNat ≤
      (h (i + averageTimeBlocks.toNat)).time.toNat := by
  have h60 : averageTimeBlocks.toNat = 59 + 1 := rfl
  rw [h60, ← Nat.add_assoc] at hi ⊢
  have hparent : i + 59 < n := hi
  -- the child is block `i + 60`, so the walk starts from its parent at number `i + 59`
  have hb : averageTimeBlocks ≤ UInt64.ofNat (h (i + 59)).number + 1 := by
    have h1 : (1 : UInt64).toNat = 1 := rfl
    rw [hc.number_eq (i + 59) (Nat.le_of_lt hparent), UInt64.le_iff_toNat_le, UInt64.toNat_add,
      UInt64.toNat_ofNat_of_lt' (show i + 59 < 2 ^ 64 by omega), h1,
      Nat.mod_eq_of_lt (show i + 59 + 1 < 2 ^ 64 by omega), h60]
    omega
  have hw : PartialFun.iterate (rd (i + 59 + 1)).parentOf (averageTimeBlocks - 1).toNat
      (h (i + 59)) = some (h i) := by
    have h59 : (averageTimeBlocks - 1).toNat = 59 := rfl
    have hwalk := hc.iterate_parentOf hparent (k := 59) (by omega)
    rw [h59, hwalk, Nat.add_sub_cancel]
  have hle := UInt64.le_trans (calcTimeTarget_minTime_period hb hw)
    (checkTime_ok (hc.step hparent).1).1
  have hsum : ((h i).time + targetPeriodGap).toNat = (h i).time.toNat + targetPeriodGap.toNat := by
    rw [UInt64.toNat_add, Nat.mod_eq_of_lt hlt]
  rwa [UInt64.le_iff_toNat_le, UInt64.toNat_sub_of_le _ _ (by
    rw [UInt64.le_iff_toNat_le, hsum]; simp [minBlockGap, targetPeriodGap, averageTimeBlocks,
      targetBlockGap]), hsum] at hle

/-- Block time spacing along a verified chain whose numbers fit in `uint64`: every block is at
least `MinBlockGap` after its parent, and at least `TargetPeriodGap - MinBlockGap` after the block
`AverageTimeBlocks` before it, whenever the `uint64` sum that `calcTimeTarget` forms for the bound
does not wrap. -/
theorem verifiedChain_time_spacing
    (hc : VerifiedChain e hasher ecrecover evm config fuel rd now checkSeal h n)
    (hn : n < 2 ^ 64) :
    (∀ i < n, (h i).time.toNat + minBlockGap.toNat < 2 ^ 64 →
      (h i).time.toNat + minBlockGap.toNat ≤ (h (i + 1)).time.toNat) ∧
    (∀ i, i + averageTimeBlocks.toNat ≤ n →
      (h i).time.toNat + targetPeriodGap.toNat < 2 ^ 64 →
      (h i).time.toNat + targetPeriodGap.toNat - minBlockGap.toNat ≤
        (h (i + averageTimeBlocks.toNat)).time.toNat) :=
  ⟨fun _ hi hlt => hc.time_gap hi hlt, fun _ hi hlt => hc.time_period hn hi hlt⟩

end

/-! ### A migration block on its genesis -/

/-- A genesis at time `t₀`, with difficulty 100 and the minimum gas limit. -/
@[simps]
def migrationGenesis (t₀ : UInt64) : Header where
  parentHash := 0
  uncleHash := 0
  coinbase := 0
  root := 0
  difficulty := 100
  number := 0
  gasLimit := minGasLimit
  gasUsed := 0
  time := t₀
  extra := []
  mixDigest := 0
  nonce := 0
  signature := []

/-- A reader that holds `migrationGenesis t₀`, under the hash 1, and no state. -/
@[simps]
def migrationReader (t₀ : UInt64) : ChainReader where
  getHeader hash num := if hash = 1 ∧ num = 0 then some (migrationGenesis t₀) else none
  calculateBlockState _ _ := none

/-- The migration block at time `t₁` on `migrationGenesis t₀`, with the stake modifier and the
difficulty that `VerifyHeader` computes with the clock reading `now`. -/
@[simps]
def migrationBlock (hasher : Hasher) (t₀ t₁ now : UInt64) : Header where
  parentHash := 1
  uncleHash := 0
  coinbase := rangeMigrationContract
  root := 0
  difficulty := calcPoSDifficultyV1 (migrationReader t₀) t₁ (migrationGenesis t₀)
    (calcTimeTarget (migrationReader t₀) now (migrationGenesis t₀))
  number := 1
  gasLimit := minGasLimit
  gasUsed := 0
  time := t₁
  extra := []
  mixDigest := hasher.keccak256 ((0 : Address).bytes ++ (0 : Hash).bytes)
  nonce := 0
  signature := []

/-- The genesis followed by the migration block. -/
def migrationChain (hasher : Hasher) (t₀ t₁ now : UInt64) : ℕ → Header
  | 0 => migrationGenesis t₀
  | _ + 1 => migrationBlock hasher t₀ t₁ now

theorem parentOf_migrationBlock (hasher : Hasher) (t₀ t₁ now : UInt64) :
    (migrationReader t₀).parentOf (migrationBlock hasher t₀ t₁ now) = some (migrationGenesis t₀) := by
  simp [ChainReader.parentOf]

/-- The migration block is accepted, without seal checks, whenever its time is in the window of
its genesis, wrapped or not. -/
theorem verifyHeader_migrationBlock (hasher : Hasher) (ecrecover : Ecrecover) (evm : Evm)
    (fuel : ℕ) {t₀ t₁ now : UInt64} (hlo : t₀ + minBlockGap ≤ t₁)
    (hhi : t₁ ≤ now + maxFutureGap) :
    Range.new.verifyHeader hasher ecrecover evm ⟨none, 0⟩ (migrationReader t₀) fuel now
      (migrationBlock hasher t₀ t₁ now) false = .ok () := by
  have htt := @calcTimeTarget_of_lt (migrationReader t₀) now (migrationGenesis t₀)
    (by rw [migrationGenesis_number]; decide)
  have hmod : calcPoSModifier hasher (migrationReader t₀) t₁ (migrationGenesis t₀) =
      .ok (hasher.keccak256 ((0 : Address).bytes ++ (0 : Hash).bytes)) := rfl
  simp +decide [Range.verifyHeader, parentOf_migrationBlock, htt, hmod, checkTime, UInt64.not_lt.2 hlo,
    UInt64.not_lt.2 hhi, verifyForkHashes, Range.new, Header.isGen2Migration, minGasLimit,
    gasLimitBoundDivisor]

/-- The genesis and the migration block form a verified chain whenever the block's time is in the
window of the genesis. -/
theorem migrationChain_verified (hasher : Hasher) (ecrecover : Ecrecover) (evm : Evm) (fuel : ℕ)
    {t₀ t₁ now : UInt64} (hlo : t₀ + minBlockGap ≤ t₁) (hhi : t₁ ≤ now + maxFutureGap) :
    VerifiedChain Range.new hasher ecrecover evm ⟨none, 0⟩ fuel (fun _ => migrationReader t₀)
      (fun _ => now) (fun _ => false) (migrationChain hasher t₀ t₁ now) 1 := by
  refine ⟨rfl, fun i hi j hj => ?_, fun i hi => ?_⟩
  · obtain rfl : j = 0 := by omega
    exact parentOf_migrationBlock hasher t₀ t₁ now
  · obtain rfl : i = 0 := by omega
    exact verifyHeader_migrationBlock hasher ecrecover evm fuel hlo hhi

/-- The gap rule fails. After a genesis one second before `2^64`, the sum `parent.Time +
MinBlockGap` of `calcTimeTarget` wraps to 29, and a migration block at time 29, before its
genesis, is verified against it; any hash function, signature recovery and interpreter do, since
the seal is not checked. -/
theorem time_spacing_wraps :
    ¬ ∀ (hasher : Hasher) (ecrecover : Ecrecover) (evm : Evm) (config : ChainConfig) (fuel : ℕ)
        (rd : ℕ → ChainReader) (now : ℕ → UInt64) (checkSeal : ℕ → Bool) (h : ℕ → Header)
        (n : ℕ),
        VerifiedChain Range.new hasher ecrecover evm config fuel rd now checkSeal h n →
        ∀ i < n, (h i).time.toNat + minBlockGap.toNat ≤ (h (i + 1)).time.toNat := by
  intro hall
  have hgap := hall _ _ _ _ _ _ _ _ _ 1
    (@migrationChain_verified ⟨fun _ => 0, fun _ => 0, fun _ => 0, fun _ => 0⟩ (fun _ _ => .ok [])
      ⟨fun _ _ _ _ gas _ db => ⟨[], gas, 0, none, db⟩⟩ 0 18446744073709551615 29 100 (by decide)
      (by decide)) 0 Nat.one_pos
  exact absurd hgap (by decide)

/-! ### A chain at the target pace -/

/-- The hashes of the paced chain: a header hashes to its number plus one, anything else to
zero. -/
def paceHasher : Hasher where
  headerHash h := BitVec.ofNat 256 (h.number + 1)
  txHash _ := 0
  keccak256 _ := 0
  signatureHash _ := 0

/-- Header `i` of a chain at the target pace: `TargetBlockGap` seconds after its parent, with
difficulty 100 and the stake modifier of `paceHasher`. The genesis is `migrationGenesis 0` and
block 1, the migration block, is minted by the migration contract. -/
def paceChain : ℕ → Header
  | 0 => migrationGenesis 0
  | i + 1 =>
    { parentHash := BitVec.ofNat 256 (i + 1)
      uncleHash := 0
      coinbase := if i = 0 then rangeMigrationContract else 0
      root := 0
      difficulty := 100
      number := i + 1
      gasLimit := minGasLimit
      gasUsed := 0
      time := UInt64.ofNat (60 * (i + 1))
      extra := []
      mixDigest := 0
      nonce := 0
      signature := [] }

/-- A reader that holds every header of `paceChain` under its hash, and no state. -/
def paceReader : ChainReader where
  getHeader hash num :=
    if hash = BitVec.ofNat 256 (num.toNat + 1) then some (paceChain num.toNat) else none
  calculateBlockState _ _ := none

@[simp] theorem paceChain_number (i : ℕ) : (paceChain i).number = i := by
  cases i <;> rfl

theorem paceChain_time (i : ℕ) : (paceChain i).time = UInt64.ofNat (60 * i) := by
  cases i <;> rfl

@[simp] theorem paceChain_difficulty (i : ℕ) : (paceChain i).difficulty = 100 := by
  cases i <;> rfl

@[simp] theorem paceChain_gasLimit (i : ℕ) : (paceChain i).gasLimit = minGasLimit := by
  cases i <;> rfl

theorem paceReader_getHeader {m : ℕ} (hm : m < 2 ^ 64) :
    paceReader.getHeader (BitVec.ofNat 256 (m + 1)) (UInt64.ofNat m) = some (paceChain m) := by
  simp only [paceReader, UInt64.toNat_ofNat_of_lt' (show m < UInt64.size from hm), if_true]

theorem paceReader_parentOf {i : ℕ} (hi : i + 1 < 2 ^ 64) :
    paceReader.parentOf (paceChain (i + 1)) = some (paceChain i) := by
  have hnum : UInt64.ofNat (i + 1) - 1 = UInt64.ofNat i := by
    rw [show (1 : UInt64) = UInt64.ofNat 1 from rfl, ← UInt64.ofNat_sub (by omega),
      Nat.add_sub_cancel]
  show paceReader.getHeader (BitVec.ofNat 256 (i + 1)) (UInt64.ofNat (i + 1) - 1) = _
  rw [hnum, paceReader_getHeader (by omega)]

/-- The walk of `calcTimeTarget` finds the header `k` blocks back. -/
theorem iterate_parentOf_paceChain {m k : ℕ} (hm : m < 2 ^ 64) (hk : k ≤ m) :
    PartialFun.iterate paceReader.parentOf k (paceChain m) = some (paceChain (m - k)) := by
  have hlinks : ∀ j < k, paceReader.parentOf (paceChain (m - j)) = some (paceChain (m - (j + 1))) := by
    intro j hj
    have hsucc : m - j = m - (j + 1) + 1 := by omega
    rw [hsucc]
    exact paceReader_parentOf (by omega)
  simpa using PartialFun.iterate_of_links _ (g := fun j => paceChain (m - j)) hlinks

/-- The time window of a child of `paceChain i`: it opens `MinBlockGap` after the parent, and
both targets are `TargetBlockGap` after it. From block `AverageTimeBlocks` on, the period rule
gives the same bounds, since the header `AverageTimeBlocks` back is `TargetPeriodGap` earlier. -/
theorem calcTimeTarget_paceChain (now : UInt64) {i : ℕ} (hi : i < 2 ^ 32) :
    calcTimeTarget paceReader now (paceChain i) =
      { minTime := UInt64.ofNat (60 * i + 30), maxTime := now + maxFutureGap,
        blockTarget := UInt64.ofNat (60 * (i + 1)),
        periodTarget := UInt64.ofNat (60 * (i + 1)) } := by
  have hmin : (paceChain i).time + minBlockGap = UInt64.ofNat (60 * i + 30) := by
    rw [paceChain_time, UInt64.ofNat_add]
    rfl
  have hblock : (paceChain i).time + targetBlockGap = UInt64.ofNat (60 * (i + 1)) := by
    rw [paceChain_time, show 60 * (i + 1) = 60 * i + 60 by omega, UInt64.ofNat_add]
    rfl
  unfold calcTimeTarget
  split_ifs with hb
  · -- the walk of `AverageTimeBlocks - 1` links reaches block `i - 59`
    have hnum : (UInt64.ofNat i + 1).toNat = i + 1 := by
      rw [show (1 : UInt64) = UInt64.ofNat 1 from rfl, ← UInt64.ofNat_add,
        UInt64.toNat_ofNat_of_lt' (by change _ < 2 ^ 64; omega)]
    have h59 : 59 ≤ i := by
      rw [paceChain_number] at hb
      have := UInt64.le_iff_toNat_le.1 hb
      rw [hnum] at this
      exact Nat.le_of_succ_le_succ this
    have hperiod : (paceChain (i - 59)).time + targetPeriodGap = UInt64.ofNat (60 * (i + 1)) := by
      rw [paceChain_time, show targetPeriodGap = UInt64.ofNat 3600 from rfl, ← UInt64.ofNat_add]
      congr 1
      omega
    have hperiodMin : UInt64.ofNat (60 * (i + 1)) - minBlockGap = UInt64.ofNat (60 * i + 30) := by
      rw [show minBlockGap = UInt64.ofNat 30 from rfl, ← UInt64.ofNat_sub (by omega)]
      congr 1
    rw [show (averageTimeBlocks - 1).toNat = 59 from rfl,
      iterate_parentOf_paceChain (by omega) h59]
    simp only [hmin, hblock, hperiod, hperiodMin, ite_self]
  · simp only [hmin, hblock]

/-- The modifier walk over `paceChain` finds every header it asks for, so it ends without an
error. -/
theorem modifierWalk_paceChain (border : UInt64) {m : ℕ} (hm : m < 2 ^ 64) (oldest : Header) :
    ∃ o, modifierWalk paceReader border m (some (paceChain m)) oldest = .ok o := by
  induction m generalizing oldest with
  | zero => exact ⟨oldest, rfl⟩
  | succ m ih =>
    simp only [modifierWalk]
    split_ifs
    · have hparent : (paceChain (m + 1)).parentHash = BitVec.ofNat 256 (m + 1) := rfl
      rw [hparent, paceReader_getHeader (by omega)]
      exact ih (by omega) _
    · exact ⟨oldest, rfl⟩

/-- The stake modifier on `paceChain` is the hash `paceHasher` gives everything. -/
theorem calcPoSModifier_paceChain (time : UInt64) {i : ℕ} (hi : i < 2 ^ 64) :
    calcPoSModifier paceHasher paceReader time (paceChain i) = .ok 0 := by
  obtain ⟨o, ho⟩ := modifierWalk_paceChain
    (if time < maturityPeriod then 0 else time - maturityPeriod) hi (paceChain i)
  dsimp only [calcPoSModifier]
  rw [paceChain_number, UInt64.toNat_ofNat_of_lt' (show i < UInt64.size from hi), ho]
  rfl

/-- A child of `paceChain i` at the target time is not before its time window opens. -/
theorem paceChain_target_not_lt_minTime {i : ℕ} (hi : i < 2 ^ 32) :
    ¬ UInt64.ofNat (60 * (i + 1)) < UInt64.ofNat (60 * i + 30) := by
  rw [UInt64.lt_iff_toNat_lt, UInt64.toNat_ofNat_of_lt' (by change _ < 2 ^ 64; omega),
    UInt64.toNat_ofNat_of_lt' (by change _ < 2 ^ 64; omega)]
  omega

/-- A child of `paceChain i` at the target time keeps the difficulty 100. -/
theorem calcPoSDifficultyV1_paceChain (now : UInt64) {i : ℕ} (hi : i < 2 ^ 32) :
    calcPoSDifficultyV1 paceReader (UInt64.ofNat (60 * (i + 1))) (paceChain i)
      (calcTimeTarget paceReader now (paceChain i)) = 100 := by
  have htarget : (UInt64.ofNat (60 * (i + 1)) + UInt64.ofNat (60 * (i + 1))) / 2 =
      UInt64.ofNat (60 * (i + 1)) := by
    apply UInt64.toNat_inj.1
    rw [UInt64.toNat_div, UInt64.toNat_add,
      UInt64.toNat_ofNat_of_lt' (show 60 * (i + 1) < UInt64.size by change _ < 2 ^ 64; omega)]
    change (60 * (i + 1) + 60 * (i + 1)) % 2 ^ 64 / 2 = 60 * (i + 1)
    omega
  rw [calcTimeTarget_paceChain now hi]
  simp only [calcPoSDifficultyV1, htarget, if_neg (paceChain_target_not_lt_minTime hi), UInt64.lt_irrefl, gt_iff_lt, if_false,
    paceChain_difficulty]

/-- Only block 1 of `paceChain` is a migration block, and the migration contract mints it. -/
theorem paceChain_coinbase_of_isGen2Migration {i : ℕ} (hi : i < 2 ^ 32)
    (hm : (paceChain (i + 1)).isGen2Migration = true) :
    (paceChain (i + 1)).coinbase = rangeMigrationContract := by
  have hone : i + 1 = 1 := by
    have := congrArg UInt64.toNat (beq_iff_eq.1 hm)
    rwa [paceChain_number, UInt64.toNat_ofNat_of_lt' (by change _ < 2 ^ 64; omega)] at this
  obtain rfl : i = 0 := by omega
  rfl

/-- Every header of `paceChain` is accepted against its parent, without seal checks, at a clock
reading of its own time. -/
theorem verifyHeader_paceChain (ecrecover : Ecrecover) (evm : Evm) (fuel : ℕ) {i : ℕ}
    (hi : i < 2 ^ 32) :
    Range.new.verifyHeader paceHasher ecrecover evm ⟨none, 0⟩ paceReader fuel
      (paceChain (i + 1)).time (paceChain (i + 1)) false = .ok () := by
  have htime : checkTime (paceChain (i + 1))
      (calcTimeTarget paceReader (paceChain (i + 1)).time (paceChain i)) = .ok () := by
    have hlt : 60 * (i + 1) < 2 ^ 64 := by omega
    have hmax : ¬ UInt64.ofNat (60 * (i + 1)) > UInt64.ofNat (60 * (i + 1)) + maxFutureGap := by
      rw [gt_iff_lt, UInt64.lt_iff_toNat_lt, UInt64.toNat_add, UInt64.toNat_ofNat_of_lt' hlt]
      change ¬ (_ + 3) % 2 ^ 64 < _
      omega
    rw [calcTimeTarget_paceChain _ (by omega), checkTime, paceChain_time]
    simp only [paceChain_target_not_lt_minTime hi, hmax, if_false]
  have hdiff := calcPoSDifficultyV1_paceChain (paceChain (i + 1)).time (by omega)
  rw [← paceChain_time] at hdiff
  have hmig : ¬ ((paceChain (i + 1)).isGen2Migration = true ∧
      (paceChain (i + 1)).coinbase ≠ rangeMigrationContract) :=
    fun ⟨hm, hne⟩ => hne (paceChain_coinbase_of_isGen2Migration hi hm)
  have hext : (paceChain (i + 1)).extra = [] := rfl
  have hmix : (paceChain (i + 1)).mixDigest = 0 := rfl
  have hused : (paceChain (i + 1)).gasUsed = 0 := rfl
  simp +decide [Range.verifyHeader, paceReader_parentOf (show i + 1 < 2 ^ 64 by omega), htime,
    calcPoSModifier_paceChain _ (show i < 2 ^ 64 by omega), hdiff, Range.new, hmig, hext, hmix,
    hused, verifyForkHashes, minGasLimit, gasLimitBoundDivisor]

/-- `paceChain` is a verified chain of every length that keeps its times and numbers in
`uint64`. -/
theorem paceChain_verified (ecrecover : Ecrecover) (evm : Evm) (fuel : ℕ) {n : ℕ}
    (hn : n < 2 ^ 32) :
    VerifiedChain Range.new paceHasher ecrecover evm ⟨none, 0⟩ fuel (fun _ => paceReader)
      (fun i => (paceChain i).time) (fun _ => false) paceChain n :=
  ⟨rfl, fun _ hi _ hj => paceReader_parentOf (by omega),
    fun _ hi => verifyHeader_paceChain ecrecover evm fuel (by omega)⟩

/-- Both bounds on the first 62 headers of `paceChain`, where the period rule covers blocks 60
and 61. -/
theorem verifiedChain_time_spacing_paced :
    (∀ i < 61, (paceChain i).time.toNat + minBlockGap.toNat < 2 ^ 64 →
      (paceChain i).time.toNat + minBlockGap.toNat ≤ (paceChain (i + 1)).time.toNat) ∧
    (∀ i, i + averageTimeBlocks.toNat ≤ 61 →
      (paceChain i).time.toNat + targetPeriodGap.toNat < 2 ^ 64 →
      (paceChain i).time.toNat + targetPeriodGap.toNat - minBlockGap.toNat ≤
        (paceChain (i + averageTimeBlocks.toNat)).time.toNat) :=
  verifiedChain_time_spacing
    (paceChain_verified (fun _ _ => .ok []) ⟨fun _ _ _ _ gas _ db => ⟨[], gas, 0, none, db⟩⟩ 0
      (by decide))
    (by decide)

end RangeCore.Consensus
