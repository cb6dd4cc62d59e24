import RangeCore.Consensus.Chain
import Mathlib

/-!
# What the PoS hash, the difficulty and the stake modifier compute

Three computations of `range/consensus/pos.go` that header verification calls, each against a
statement of its own purpose.

`calcPoSHash` should use the weight `max 1 ⌈poshash / target⌉` (`exactUsedWeight`). It computes
that weight modulo `2^64`: `count.Uint64()` keeps the low 64 bits of the quotient and the `+ 1`
wraps (`calcPoSHash_eq`). Below `2^64` the weight is exact; above it, a header whose difficulty
exceeds `2^64` can pass with a small weight (`calcPoSHash_truncates_quotient`).

`calcPoSDifficultyV1` is, in `ℕ`, the rule `diffRule`: the parent difficulty scaled by the
tables before and after the target time `difficultyTarget`, which is computed, as in the source,
in `uint64`. The rule is antitone in the block time, at least one, at least the parent's difficulty
up to the target and at most it from there, and within the scaling of the tables' last entries.
Every header of a verified chain from a genesis of difficulty at least one therefore has
difficulty at least one.

`calcPoSModifier` walks from the parent to the oldest block inside the maturity period. When
every ancestor is available it finds the lowest block above number zero from which every block up
to the parent is inside the period (`calcPoSModifier_of_ancestry`). The loop condition reads the
time of the header that `GetHeader` returned without a nil check, so a missing ancestor inside the
period is a nil dereference, and the verification of a header on such a side chain panics
(`verifyHeader_missing_ancestor_panics`).

## Main definitions

* `RangeCore.Consensus.posHash`, `RangeCore.Consensus.exactUsedWeight`.
* `RangeCore.Consensus.difficultyTarget`, `RangeCore.Consensus.diffRule`.
* `RangeCore.Consensus.Ancestry`.

## Main results

* `RangeCore.Consensus.calcPoSHash_eq`: the used weight is the exact one modulo `2^64`.
* `RangeCore.Consensus.calcPoSDifficultyV1_eq`: the difficulty is `diffRule`.
* `RangeCore.Consensus.calcPoSModifier_of_ancestry`: the oldest block the walk finds.
-/

namespace RangeCore.Consensus

/-! ### The PoS hash -/

/-- The PoS hash of a header, `Keccak256(time, MixDigest, Coinbase)` as a number. -/
def posHash (hasher : Hasher) (header : Header) : ℕ :=
  (hasher.keccak256 (bytesBE 8 header.time.toNat ++ header.mixDigest.bytes ++
    header.coinbase.bytes)).toNat

/-- The weight a PoS hash should use against a target: the rounded-up quotient, at least one. -/
def exactUsedWeight (poshash target : ℕ) : ℕ := max 1 (poshash ⌈/⌉ target)

/-- The rounded-up quotient is the quotient, plus one when the division leaves a remainder. -/
theorem ceilDiv_eq_div_add {p t : ℕ} (ht : 0 < t) :
    p ⌈/⌉ t = p / t + if p % t = 0 then 0 else 1 := by
  rw [Nat.ceilDiv_eq_add_pred_div]
  have hsplit : p + t - 1 = t * (p / t) + (p % t + t - 1) := by
    have := Nat.div_add_mod p t
    omega
  rw [hsplit, Nat.mul_add_div ht]
  congr 1
  split_ifs with hr
  · rw [hr, Nat.zero_add]
    exact Nat.div_eq_of_lt (by omega)
  · have hlt : p % t < t := Nat.mod_lt p ht
    rw [show p % t + t - 1 = (p % t - 1) + t * 1 by omega, Nat.add_mul_div_left _ _ ht,
      Nat.div_eq_of_lt (by omega)]

/-- Above the target, the weight is the rounded-up quotient. -/
theorem exactUsedWeight_of_lt {p t : ℕ} (ht : 0 < t) (hp : t < p) :
    exactUsedWeight p t = p / t + if p % t = 0 then 0 else 1 := by
  have hq : 1 ≤ p / t := (Nat.one_le_div_iff ht).2 hp.le
  rw [exactUsedWeight, ceilDiv_eq_div_add ht]
  exact max_eq_right (by omega)

/-- Up to the target, the weight is one. -/
theorem exactUsedWeight_of_le {p t : ℕ} (ht : 0 < t) (hp : p ≤ t) : exactUsedWeight p t = 1 := by
  have hle : p ⌈/⌉ t ≤ 1 := (ceilDiv_le_iff_le_smul ht).2 (by simpa using hp)
  exact max_eq_left hle

/-- `count.Uint64()`, then `+ 1` for a remainder: the rounded-up quotient modulo `2^64`. -/
theorem usedWeight_eq_ofNat {p t : ℕ} (ht : 0 < t) (hp : t < p) :
    (if p % t > 0 then UInt64.ofNat (p / t) + 1 else UInt64.ofNat (p / t)) =
      UInt64.ofNat (exactUsedWeight p t) := by
  rw [exactUsedWeight_of_lt ht hp]
  split_ifs with hpos hzero hzero
  · omega
  · rw [UInt64.ofNat_add]
    rfl
  · rw [Nat.add_zero]
  · omega

/-- `calcPoSHash` for a positive target: the weight it uses is the exact one modulo `2^64`, and
it returns the PoS hash when the weight covers that. -/
theorem calcPoSHash_eq (hasher : Hasher) (header : Header) {target : ℕ} (ht : 0 < target)
    (weight : UInt64) :
    calcPoSHash hasher header target weight =
      .ok (if weight < UInt64.ofNat (exactUsedWeight (posHash hasher header) target) then none
        else some (posHash hasher header,
          UInt64.ofNat (exactUsedWeight (posHash hasher header) target))) := by
  have hne : target ≠ 0 := Nat.pos_iff_ne_zero.1 ht
  unfold calcPoSHash
  rw [← posHash]
  by_cases hp : posHash hasher header > target
  · simp only [hp, hne, ↓reduceIte]
    rw [usedWeight_eq_ofNat ht hp]
    rfl
  · rw [if_neg hp, exactUsedWeight_of_le ht (Nat.le_of_not_lt hp)]
    rfl

/-- Where the exact weight fits in 64 bits, `calcPoSHash` accepts exactly the weights that cover
it, and uses it. -/
theorem calcPoSHash_exact (hasher : Hasher) (header : Header) {target : ℕ} (ht : 0 < target)
    (weight : UInt64) (hfit : exactUsedWeight (posHash hasher header) target < 2 ^ 64)
    {poshash : ℕ} {used : UInt64} :
    calcPoSHash hasher header target weight = .ok (some (poshash, used)) ↔
      exactUsedWeight (posHash hasher header) target ≤ weight.toNat ∧
        poshash = posHash hasher header ∧
          used.toNat = exactUsedWeight (posHash hasher header) target := by
  have hcut : (UInt64.ofNat (exactUsedWeight (posHash hasher header) target)).toNat =
      exactUsedWeight (posHash hasher header) target :=
    UInt64.toNat_ofNat_of_lt' hfit
  rw [calcPoSHash_eq hasher header ht]
  by_cases hw : weight < UInt64.ofNat (exactUsedWeight (posHash hasher header) target)
  · have hlt := UInt64.lt_iff_toNat_lt.1 hw
    rw [hcut] at hlt
    simp only [hw, ↓reduceIte, Except.ok.injEq, reduceCtorEq, false_iff, not_and]
    omega
  · have hle := UInt64.le_iff_toNat_le.1 (UInt64.not_lt.1 hw)
    rw [hcut] at hle
    simp only [hw, ↓reduceIte, Except.ok.injEq, Option.some.injEq, Prod.mk.injEq]
    constructor
    · rintro ⟨rfl, rfl⟩
      exact ⟨hle, rfl, hcut⟩
    · rintro ⟨-, rfl, hused⟩
      exact ⟨rfl, UInt64.toNat_inj.1 (hcut.trans hused.symm)⟩

/-- A PoS hash of 5 against the target 2 needs the weight 3, which a weight of 3 covers. -/
theorem calcPoSHash_exact_five :
    let hasher : Hasher := ⟨fun _ => 0, fun _ => 0, fun _ => 5, fun _ => 0⟩
    let header : Header := ⟨0, 0, 0, 0, 1, 5, 0, 0, 0, [], 0, 0, []⟩
    0 < 2 ∧ exactUsedWeight (posHash hasher header) 2 < 2 ^ 64 ∧
      (calcPoSHash hasher header 2 3 = .ok (some (5, 3)) ↔
        exactUsedWeight (posHash hasher header) 2 ≤ (3 : UInt64).toNat ∧
          5 = posHash hasher header ∧
            (3 : UInt64).toNat = exactUsedWeight (posHash hasher header) 2) := by
  intro hasher header
  have hpos : posHash hasher header = 5 := rfl
  exact ⟨by decide, by rw [hpos]; decide, calcPoSHash_exact hasher header (by decide) 3
    (by rw [hpos]; decide)⟩

/-- A header of difficulty `2^193`, so of target `2^63`, whose PoS hash is `2^127`: the weight it
should use is `2^64`, but `count.Uint64()` keeps none of the quotient, and `calcPoSHash` accepts
the weight 0, using 0. -/
theorem calcPoSHash_truncates_quotient :
    calcPoSHash ⟨fun _ => 0, fun _ => 0, fun _ => BitVec.ofNat 256 (2 ^ 127), fun _ => 0⟩
        ⟨0, 0, 0, 0, 2 ^ 193, 5, 0, 0, 0, [], 0, 0, []⟩ (diff1Target / 2 ^ 193) 0 =
        .ok (some (2 ^ 127, 0)) ∧
      exactUsedWeight (2 ^ 127) (diff1Target / 2 ^ 193) = 2 ^ 64 := by
  constructor
  · rfl
  · decide

/-! ### The difficulty -/

/-- The target time of `calcPoSDifficultyV1`: the mean of the block and period targets, computed
in `uint64` as in the source, raised to `min_time`. -/
def difficultyTarget (tt : TimeTarget) : UInt64 :=
  let target := (tt.blockTarget + tt.periodTarget) / 2
  if target < tt.minTime then tt.minTime else target

/-- The multiplier of a block `s` seconds before the target, in hundredths. -/
def bScale (s : ℕ) : ℕ := diffV1BTable.getD (min s 30) 0

/-- The divisor of a block `s` seconds after the target, in hundredths. -/
def aScale (s : ℕ) : ℕ := diffV1ATable.getD (min s 120) 0

/-- The difficulty rule in `ℕ`: the parent difficulty `D` scaled by `bScale` before the target
and by the inverse of `aScale` after it, never below one, and unchanged at the target. -/
def diffRule (D target time : ℕ) : ℕ :=
  if time < target then max 1 (D * bScale (target - time) / 100)
  else if target < time then max 1 (D * 100 / aScale (time - target))
  else D

theorem bScale_succ : ∀ n < 30, diffV1BTable.getD n 0 ≤ diffV1BTable.getD (n + 1) 0 := by
  decide

theorem aScale_succ : ∀ n < 120, diffV1ATable.getD n 0 ≤ diffV1ATable.getD (n + 1) 0 := by
  decide

theorem monotone_bScale : Monotone bScale := by
  refine monotone_nat_of_le_succ fun n => ?_
  by_cases hn : n < 30
  · simpa [bScale, Nat.min_eq_left hn.le, Nat.min_eq_left (Nat.succ_le_of_lt hn)] using
      bScale_succ n hn
  · simp [bScale, Nat.min_eq_right (Nat.le_of_not_lt hn), Nat.min_eq_right (by omega : 30 ≤ n + 1)]

theorem monotone_aScale : Monotone aScale := by
  refine monotone_nat_of_le_succ fun n => ?_
  by_cases hn : n < 120
  · simpa [aScale, Nat.min_eq_left hn.le, Nat.min_eq_left (Nat.succ_le_of_lt hn)] using
      aScale_succ n hn
  · simp [aScale, Nat.min_eq_right (Nat.le_of_not_lt hn),
      Nat.min_eq_right (by omega : 120 ≤ n + 1)]

/-- A block before the target raises the difficulty by at least a tenth. -/
theorem le_bScale {s : ℕ} (hs : 1 ≤ s) : 110 ≤ bScale s := monotone_bScale hs

/-- A block after the target lowers it by at least a twentieth. -/
theorem le_aScale {s : ℕ} (hs : 1 ≤ s) : 105 ≤ aScale s := monotone_aScale hs

theorem bScale_le (s : ℕ) : bScale s ≤ diffV1BTable.getD 30 0 := by
  have h := monotone_bScale (le_max_left s 30)
  rwa [bScale, bScale, Nat.min_eq_right (le_max_right s 30)] at h

theorem aScale_le (s : ℕ) : aScale s ≤ diffV1ATable.getD 120 0 := by
  have h := monotone_aScale (le_max_left s 120)
  rwa [aScale, aScale, Nat.min_eq_right (le_max_right s 120)] at h

section DiffRule

variable {D target : ℕ}

/-- Up to the target, the difficulty is at least the parent's. -/
theorem le_diffRule {time : ℕ} (ht : time ≤ target) : D ≤ diffRule D target time := by
  unfold diffRule
  split_ifs with hlt hgt
  · have hscale := le_bScale (show 1 ≤ target - time by omega)
    have hle : D ≤ D * bScale (target - time) / 100 :=
      (Nat.le_div_iff_mul_le (by decide)).2 (Nat.mul_le_mul_left D (by omega))
    exact hle.trans (le_max_right _ _)
  · omega
  · exact le_rfl

/-- From the target on, the difficulty is at most the parent's. -/
theorem diffRule_le (hD : 1 ≤ D) {time : ℕ} (ht : target ≤ time) : diffRule D target time ≤ D := by
  unfold diffRule
  split_ifs with hlt hgt
  · omega
  · have hscale := le_aScale (show 1 ≤ time - target by omega)
    have hle : D * 100 / aScale (time - target) ≤ D :=
      Nat.div_le_of_le_mul ((Nat.mul_comm D 100).trans_le (Nat.mul_le_mul_right D (by omega)))
    exact max_le hD hle
  · exact le_rfl

theorem one_le_diffRule (hD : 1 ≤ D) (time : ℕ) : 1 ≤ diffRule D target time := by
  unfold diffRule
  split_ifs
  · exact le_max_left _ _
  · exact le_max_left _ _
  · exact hD

/-- A later block never has a higher difficulty. -/
theorem diffRule_antitone (hD : 1 ≤ D) {t₁ t₂ : ℕ} (ht : t₁ ≤ t₂) :
    diffRule D target t₂ ≤ diffRule D target t₁ := by
  -- both before the target, one on each side, or both after it
  by_cases h₂ : t₂ < target
  · have hscale : bScale (target - t₂) ≤ bScale (target - t₁) := monotone_bScale (by omega)
    simp only [diffRule, h₂, show t₁ < target by omega, ↓reduceIte]
    exact max_le_max le_rfl (Nat.div_le_div_right (Nat.mul_le_mul_left D hscale))
  by_cases h₁ : t₁ ≤ target
  · exact (diffRule_le hD (Nat.le_of_not_lt h₂)).trans (le_diffRule h₁)
  · have hscale : aScale (t₁ - target) ≤ aScale (t₂ - target) := monotone_aScale (by omega)
    have hpos : 0 < aScale (t₁ - target) := by
      have := le_aScale (show 1 ≤ t₁ - target by omega)
      omega
    simp only [diffRule, show ¬t₁ < target by omega, show ¬t₂ < target by omega,
      show target < t₁ by omega, show target < t₂ by omega, ↓reduceIte]
    exact max_le_max le_rfl (Nat.div_le_div_left hscale hpos)

/-- The difficulty is at most the parent's scaled by the last entry of the table before the
target. -/
theorem diffRule_le_bTable (hD : 1 ≤ D) (time : ℕ) :
    diffRule D target time ≤ D * diffV1BTable.getD 30 0 / 100 := by
  have hupper : D ≤ D * diffV1BTable.getD 30 0 / 100 :=
    (Nat.le_div_iff_mul_le (by decide)).2
      (Nat.mul_le_mul_left D (by decide : 100 ≤ diffV1BTable.getD 30 0))
  by_cases ht : time < target
  · simp only [diffRule, ht, ↓reduceIte]
    exact max_le (hD.trans hupper)
      (Nat.div_le_div_right (Nat.mul_le_mul_left D (bScale_le _)))
  · exact (diffRule_le hD (Nat.le_of_not_lt ht)).trans hupper

/-- The difficulty is at least the parent's scaled by the last entry of the table after the
target, and at least one. -/
theorem aTable_le_diffRule (hD : 1 ≤ D) (time : ℕ) :
    max 1 (D * 100 / diffV1ATable.getD 120 0) ≤ diffRule D target time := by
  have hlower : max 1 (D * 100 / diffV1ATable.getD 120 0) ≤ D :=
    max_le hD (Nat.div_le_of_le_mul ((Nat.mul_comm D 100).trans_le
      (Nat.mul_le_mul_right D (by decide : 100 ≤ diffV1ATable.getD 120 0))))
  by_cases ht : target < time ∧ ¬time < target
  · have hpos : 0 < aScale (time - target) := by
      have := le_aScale (show 1 ≤ time - target by omega)
      omega
    simp only [diffRule, ht.2, ht.1, ↓reduceIte]
    exact max_le_max le_rfl (Nat.div_le_div_left (aScale_le _) hpos)
  · exact hlower.trans (le_diffRule (by omega))

end DiffRule

/-- The clamp `if S > max { S = max }` of `calcPoSDifficultyV1`, read in `ℕ`. -/
theorem clamp_toNat (s m : UInt64) : (if s > m then m else s).toNat = min s.toNat m.toNat := by
  split_ifs with h
  · exact (Nat.min_eq_right (UInt64.lt_iff_toNat_lt.1 h).le).symm
  · exact (Nat.min_eq_left (UInt64.le_iff_toNat_le.1 (UInt64.not_lt.1 h))).symm

/-- `calcPoSDifficultyV1` is the difficulty rule at its target, in `ℕ`. -/
theorem calcPoSDifficultyV1_eq (chain : ChainReader) (time : UInt64) (parent : Header)
    (tt : TimeTarget) :
    calcPoSDifficultyV1 chain time parent tt =
      diffRule parent.difficulty (difficultyTarget tt).toNat time.toNat := by
  have hmax (d : ℕ) : (if d < 1 then 1 else d) = max 1 d := by
    split_ifs <;> omega
  set T := difficultyTarget tt with hT
  simp only [difficultyTarget] at hT
  simp only [calcPoSDifficultyV1, ← hT, diffRule]
  by_cases hlt : time < T
  · simp only [hlt, UInt64.lt_iff_toNat_lt.1 hlt, ↓reduceIte, clamp_toNat,
      UInt64.toNat_sub_of_le _ _ (UInt64.le_of_lt hlt), hmax]
    rfl
  by_cases hgt : time > T
  · simp only [hlt, hgt, UInt64.lt_iff_toNat_lt.1 hgt, ↓reduceIte, clamp_toNat,
      UInt64.toNat_sub_of_le _ _ (UInt64.le_of_lt hgt), hmax, show ¬time.toNat < T.toNat from
        fun h => hlt (UInt64.lt_iff_toNat_lt.2 h)]
    rfl
  · have heq : time.toNat = T.toNat := by
      have h₁ := UInt64.le_iff_toNat_le.1 (UInt64.not_lt.1 hlt)
      have h₂ := UInt64.le_iff_toNat_le.1 (UInt64.not_lt.1 hgt)
      omega
    simp only [hlt, hgt, heq, lt_irrefl, ↓reduceIte]

/-- Every header of a chain verified by the engine of `New` from a genesis of difficulty at least
one has difficulty at least one: each difficulty is the rule applied to the one before. -/
theorem VerifiedChain.one_le_difficulty {hasher : Hasher} {ecrecover : Ecrecover} {evm : Evm}
    {config : ChainConfig} {fuel : ℕ} {rd : ℕ → ChainReader} {now : ℕ → UInt64}
    {checkSeal : ℕ → Bool} {h : ℕ → Header} {n : ℕ}
    (hc : VerifiedChain Range.new hasher ecrecover evm config fuel rd now checkSeal h n)
    (h0 : 1 ≤ (h 0).difficulty) : ∀ i ≤ n, 1 ≤ (h i).difficulty
  | 0, _ => h0
  | i + 1, hi => by
    have hok := Range.verifyHeader_ok Range.new hasher ecrecover evm (hc.linked i hi i le_rfl)
      (hc.verified i hi)
    rw [hok.2.2.1]
    change 1 ≤ calcPoSDifficultyV1 (rd (i + 1)) (h (i + 1)).time (h i) _
    rw [calcPoSDifficultyV1_eq]
    exact one_le_diffRule (hc.one_le_difficulty h0 i (Nat.le_of_succ_le hi)) _

/-- `calcPoSDifficultyV1` for a parent of difficulty `D ≥ 1`, at any time target: it is antitone
in the block time and at least one; at least `D` up to the target time and at most `D` from it,
the target being computed in `uint64` as the source does; and within
`[max 1 (D * 100 / ATable[120]), D * BTable[30] / 100]`. So every header of a verified chain from a
genesis of difficulty at least one has difficulty at least one, and the divisions of
`diff1Target` by it are by a positive number. -/
theorem calcPoSDifficultyV1_bounded_antitone (chain : ChainReader) (parent : Header)
    (tt : TimeTarget) (hD : 1 ≤ parent.difficulty) :
    (∀ t₁ t₂ : UInt64, t₁ ≤ t₂ →
      1 ≤ calcPoSDifficultyV1 chain t₂ parent tt ∧
        calcPoSDifficultyV1 chain t₂ parent tt ≤ calcPoSDifficultyV1 chain t₁ parent tt) ∧
    (∀ t : UInt64,
      (t ≤ difficultyTarget tt → parent.difficulty ≤ calcPoSDifficultyV1 chain t parent tt) ∧
      (difficultyTarget tt ≤ t → calcPoSDifficultyV1 chain t parent tt ≤ parent.difficulty) ∧
      max 1 (parent.difficulty * 100 / diffV1ATable.getD 120 0) ≤
        calcPoSDifficultyV1 chain t parent tt ∧
      calcPoSDifficultyV1 chain t parent tt ≤ parent.difficulty * diffV1BTable.getD 30 0 / 100) ∧
    (∀ (hasher : Hasher) (ecrecover : Ecrecover) (evm : Evm) (config : ChainConfig) (fuel : ℕ)
      (rd : ℕ → ChainReader) (now : ℕ → UInt64) (checkSeal : ℕ → Bool) (h : ℕ → Header) (n : ℕ),
      VerifiedChain Range.new hasher ecrecover evm config fuel rd now checkSeal h n →
      1 ≤ (h 0).difficulty → ∀ i ≤ n, 1 ≤ (h i).difficulty) := by
  simp only [calcPoSDifficultyV1_eq]
  refine ⟨fun t₁ t₂ ht => ⟨one_le_diffRule hD _, diffRule_antitone hD ?_⟩,
    fun t => ⟨fun ht => le_diffRule ?_, fun ht => diffRule_le hD ?_, aTable_le_diffRule hD _,
      diffRule_le_bTable hD _⟩,
    fun _ _ _ _ _ _ _ _ _ _ hc h0 => hc.one_le_difficulty h0⟩
  · exact UInt64.le_iff_toNat_le.1 ht
  · exact UInt64.le_iff_toNat_le.1 ht
  · exact UInt64.le_iff_toNat_le.1 ht

/-- The bounds for a parent of difficulty one, with block and period targets 100, in a chain with
no other header. -/
theorem calcPoSDifficultyV1_bounded_parent_one :
    let chain : ChainReader := ⟨fun _ _ => none, fun _ _ => none⟩
    let parent : Header := ⟨0, 0, 0, 0, 1, 0, 0, 0, 10, [], 0, 0, []⟩
    let tt : TimeTarget := ⟨40, 13, 100, 100⟩
    1 ≤ parent.difficulty ∧
    (∀ t₁ t₂ : UInt64, t₁ ≤ t₂ →
      1 ≤ calcPoSDifficultyV1 chain t₂ parent tt ∧
        calcPoSDifficultyV1 chain t₂ parent tt ≤ calcPoSDifficultyV1 chain t₁ parent tt) ∧
    (∀ t : UInt64,
      (t ≤ difficultyTarget tt → parent.difficulty ≤ calcPoSDifficultyV1 chain t parent tt) ∧
      (difficultyTarget tt ≤ t → calcPoSDifficultyV1 chain t parent tt ≤ parent.difficulty) ∧
      max 1 (parent.difficulty * 100 / diffV1ATable.getD 120 0) ≤
        calcPoSDifficultyV1 chain t parent tt ∧
      calcPoSDifficultyV1 chain t parent tt ≤ parent.difficulty * diffV1BTable.getD 30 0 / 100) ∧
    (∀ (hasher : Hasher) (ecrecover : Ecrecover) (evm : Evm) (config : ChainConfig) (fuel : ℕ)
      (rd : ℕ → ChainReader) (now : ℕ → UInt64) (checkSeal : ℕ → Bool) (h : ℕ → Header) (n : ℕ),
      VerifiedChain Range.new hasher ecrecover evm config fuel rd now checkSeal h n →
      1 ≤ (h 0).difficulty → ∀ i ≤ n, 1 ≤ (h i).difficulty) :=
  ⟨le_rfl, calcPoSDifficultyV1_bounded_antitone _ _ _ le_rfl⟩

/-! ### The stake modifier -/

/-- `a 0, ..., a n` is available to the walk of `calcPoSModifier`: the reader finds each `a k`
under the parent hash of `a (k + 1)` at number `k`. -/
def Ancestry (chain : ChainReader) (a : ℕ → Header) (n : ℕ) : Prop :=
  ∀ k < n, chain.getHeader (a (k + 1)).parentHash (UInt64.ofNat k) = some (a k)

theorem modifierWalk_succ (chain : ChainReader) (border : UInt64) (num : ℕ) (h oldest : Header) :
    modifierWalk chain border (num + 1) (some h) oldest =
      if h.time > border then
        modifierWalk chain border num (chain.getHeader h.parentHash (UInt64.ofNat num)) h
      else .ok oldest := rfl

/-- From `a k` inside the period, the walk over an available ancestry ends at the lowest `a m`
above number zero from which every block up to `a k` is inside the period. -/
theorem modifierWalk_ancestry {chain : ChainReader} {border : UInt64} {a : ℕ → Header} {n : ℕ}
    (ha : Ancestry chain a n) :
    ∀ k ≤ n, ∀ oldest, 0 < k → border < (a k).time →
      ∃ m, 1 ≤ m ∧ m ≤ k ∧ (∀ j, m ≤ j → j ≤ k → border < (a j).time) ∧
        (m = 1 ∨ (a (m - 1)).time ≤ border) ∧
        modifierWalk chain border k (some (a k)) oldest = .ok (a m)
  | 0, _, _, hk, _ => absurd hk (Nat.lt_irrefl 0)
  | k + 1, hk, oldest, _, hin => by
    have hstep : modifierWalk chain border (k + 1) (some (a (k + 1))) oldest =
        modifierWalk chain border k (some (a k)) (a (k + 1)) := by
      rw [modifierWalk_succ, if_pos hin, ha k hk]
    rw [hstep]
    -- the walk stops at `a (k + 1)` at the genesis or below the border, and goes on otherwise
    rcases Nat.eq_zero_or_pos k with rfl | hpos
    · exact ⟨1, le_rfl, le_rfl, fun j hj hj' => by rwa [Nat.le_antisymm hj' hj], Or.inl rfl, rfl⟩
    by_cases hk' : border < (a k).time
    · obtain ⟨m, hm1, hmk, hinside, hlow, hwalk⟩ :=
        modifierWalk_ancestry ha k (Nat.le_of_succ_le hk) (a (k + 1)) hpos hk'
      refine ⟨m, hm1, Nat.le_succ_of_le hmk, fun j hj hj' => ?_, hlow, hwalk⟩
      rcases Nat.lt_or_ge j (k + 1) with hlt | hge
      · exact hinside j hj (Nat.le_of_lt_succ hlt)
      · rwa [Nat.le_antisymm hj' hge]
    · obtain ⟨k', rfl⟩ : ∃ k', k = k' + 1 := ⟨k - 1, by omega⟩
      refine ⟨k' + 2, by omega, le_rfl, fun j hj hj' => ?_, Or.inr (Nat.le_of_not_lt hk'), ?_⟩
      · rwa [Nat.le_antisymm hj' hj]
      · rw [modifierWalk_succ, if_neg hk']

/-- The walk stops, keeping `oldest`, at a header at or below the border or at number zero. -/
theorem modifierWalk_stop {chain : ChainReader} {border : UInt64} {num : ℕ} {h oldest : Header}
    (hstop : h.time ≤ border ∨ num = 0) :
    modifierWalk chain border num (some h) oldest = .ok oldest := by
  cases num with
  | zero => rfl
  | succ k =>
    have hle : h.time ≤ border := hstop.resolve_right (Nat.succ_ne_zero k)
    rw [modifierWalk_succ, if_neg (UInt64.not_lt.2 hle)]

/-- `calcPoSModifier` over an available ancestry of the parent: the modifier hashes the parent's
coinbase with the root of the parent, when it is at or below the maturity border or is the
genesis, and otherwise of the lowest block above number zero from which every block up to the
parent is after the border. -/
theorem calcPoSModifier_of_ancestry (hasher : Hasher) (chain : ChainReader) (time : UInt64)
    (parent : Header) {a : ℕ → Header} (ha : Ancestry chain a parent.number)
    (hparent : a parent.number = parent) (hn : parent.number < 2 ^ 64) :
    let border := if time < maturityPeriod then 0 else time - maturityPeriod
    ∃ m ≤ parent.number, calcPoSModifier hasher chain time parent =
        .ok (hasher.keccak256 (parent.coinbase.bytes ++ (a m).root.bytes)) ∧
      ((m = parent.number ∧ ((a m).time ≤ border ∨ m = 0)) ∨
        (1 ≤ m ∧ (∀ j, m ≤ j → j ≤ parent.number → border < (a j).time) ∧
          (m = 1 ∨ (a (m - 1)).time ≤ border))) := by
  have hnum : (UInt64.ofNat parent.number).toNat = parent.number := UInt64.toNat_ofNat_of_lt' hn
  unfold calcPoSModifier
  dsimp only
  set border := if time < maturityPeriod then 0 else time - maturityPeriod
  rw [hnum]
  by_cases hstop : (a parent.number).time ≤ border ∨ parent.number = 0
  · -- the loop does not run: the parent is the oldest block
    refine ⟨parent.number, le_rfl, ?_, Or.inl ⟨rfl, hstop⟩⟩
    rw [hparent] at hstop ⊢
    rw [modifierWalk_stop hstop]
    rfl
  · obtain ⟨hin, hpos⟩ : border < (a parent.number).time ∧ 0 < parent.number := by
      rw [not_or, UInt64.not_le] at hstop
      exact ⟨hstop.1, Nat.pos_of_ne_zero hstop.2⟩
    obtain ⟨m, hm1, hmn, hinside, hlow, hwalk⟩ :=
      modifierWalk_ancestry ha parent.number le_rfl parent hpos hin
    refine ⟨m, hmn, ?_, Or.inr ⟨hm1, hinside, hlow⟩⟩
    rw [hparent] at hwalk
    rw [hwalk]
    rfl

/-- Block 2 of a side chain, at time 100. -/
def sideParent : Header := ⟨0, 0, 0, 0, 1, 2, 8000000, 0, 100, [], 0, 0, []⟩

/-- A reader of the side chain that finds block 2 and not block 1. -/
def sideReader : ChainReader :=
  ⟨fun _ num => if num = 2 then some sideParent else none, fun _ _ => none⟩

/-- A child of block 2 at time 130, `MinBlockGap` after it. -/
def sideChild : Header := ⟨7, 0, 0, 0, 1, 3, 8000000, 0, 130, [], 0, 0, []⟩

/-- On the side chain whose block 1 is missing, the child's time passes `checkTime` at the clock
reading 200; the walk of `calcPoSModifier` then steps from block 2, inside the maturity period, to
the missing block 1 and reads its time. The verification of the child panics, whatever the hasher,
the signature recovery, the EVM, the configuration, the stake fuel and the seal flag. -/
theorem verifyHeader_missing_ancestor_panics (hasher : Hasher) (ecrecover : Ecrecover) (evm : Evm)
    (config : ChainConfig) (fuel : ℕ) (checkSeal : Bool) :
    sideReader.parentOf sideChild = some sideParent ∧
      checkTime sideChild (calcTimeTarget sideReader 200 sideParent) = .ok () ∧
      calcPoSModifier hasher sideReader sideChild.time sideParent = .error .nilDereference ∧
      Range.new.verifyHeader hasher ecrecover evm config sideReader fuel 200 sideChild checkSeal =
        .error .nilDereference :=
  ⟨rfl, rfl, rfl, rfl⟩

end RangeCore.Consensus
