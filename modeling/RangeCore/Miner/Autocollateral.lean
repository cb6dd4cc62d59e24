import RangeCore.Governance.TokenLedger

/-!
# Auto-collateral deposits of the miner

`worker.canAutocollateralize` of `miner/range_autocollateral.go` decides how much of an account's
balance the miner deposits as masternode collateral: nothing unless the balance reaches the
registry's minimum and the account already holds collateral below the maximum; otherwise the
balance rounded down to a multiple of the minimum, or, when that would pass the maximum, what is
left up to it. `MasternodeTokenV2.depositCollateral` accepts a deposit only if the new balance is
a multiple of `MN_COLLATERAL_V2_MIN` and at most `MN_COLLATERAL_MAX` (`_validateBalance`).

The rounded deposit is a multiple of the minimum by construction; the capped one, `max - b`, only
because the token keeps `b` a multiple of the minimum and the maximum is one too. Each branch
then gives a deposit the token accepts (`autocollateral_deposit_valid`).

The Go code computes with `big.Int`; every value here is a balance or a `uint256` the contracts
return, so a natural number. `Mod` by a zero minimum panics (`none`).

## Main definitions

* `RangeCore.Governance.MasternodeRegistryV2.collateralLimits`.
* `RangeCore.Miner.canAutocollateralize`.

## Main results

* `RangeCore.Miner.canAutocollateralize_eq_ok`: what a deposit is.
* `RangeCore.Miner.autocollateral_deposit_valid`.
-/

namespace RangeCore

namespace Governance.MasternodeRegistryV2

/-- `collateralLimits()`: `MN_COLLATERAL_V2_MIN` and `MN_COLLATERAL_MAX`. -/
def collateralLimits : Uint × Uint := (mnCollateralV2Min, mnCollateralMax)

end Governance.MasternodeRegistryV2

namespace Miner

/-- `canAutocollateralize(account, amount, api)`, on what `collateralLimits()` and
`api.BalanceOf(account)` returned: the amount to deposit, an error, or `none` for the panic of
`Mod` by a zero minimum. -/
def canAutocollateralize (limits : Except String (ℕ × ℕ)) (amount : ℕ)
    (balanceOf : Except String ℕ) : Option (Except String ℕ) :=
  match limits with
  | .error e => some (.error e)
  | .ok (minLimit, maxLimit) =>
    if amount < minLimit then some (.error "Amount found is less than the minimum required")
    else
      match balanceOf with
      | .error e => some (.error e)
      | .ok tokenBalance =>
        if tokenBalance = 0 then some (.error "No collateral exists")
        else if maxLimit ≤ tokenBalance then
          some (.error "Maximum collateral supported already achieved")
        else if minLimit = 0 then none
        else
          let amountToDeposit := amount - amount % minLimit
          -- the whole rounded amount would pass the maximum: only what is left up to it
          if maxLimit < tokenBalance + amountToDeposit then some (.ok (maxLimit - tokenBalance))
          else some (.ok amountToDeposit)

/-- A deposit is decided only past the checks, and is the rounded amount or the rest up to the
maximum. -/
theorem canAutocollateralize_eq_ok {minLimit maxLimit amount tokenBalance d : ℕ}
    (h : canAutocollateralize (.ok (minLimit, maxLimit)) amount (.ok tokenBalance) =
      some (.ok d)) :
    minLimit ≤ amount ∧ 0 < tokenBalance ∧ tokenBalance < maxLimit ∧ 0 < minLimit ∧
      (tokenBalance + (amount - amount % minLimit) ≤ maxLimit ∧ d = amount - amount % minLimit ∨
        maxLimit < tokenBalance + (amount - amount % minLimit) ∧ d = maxLimit - tokenBalance) := by
  unfold canAutocollateralize at h
  dsimp only at h
  split_ifs at h with hmin hzero hmax hmod hcap <;> cases h
  · exact ⟨by omega, by omega, by omega, by omega, .inr ⟨hcap, rfl⟩⟩
  · exact ⟨by omega, by omega, by omega, by omega, .inl ⟨by omega, rfl⟩⟩

/-- Past the limits, only a zero minimum panics. -/
theorem canAutocollateralize_ne_none {minLimit maxLimit amount : ℕ} {balanceOf : Except String ℕ}
    (hmin : 0 < minLimit) :
    canAutocollateralize (.ok (minLimit, maxLimit)) amount balanceOf ≠ none := by
  unfold canAutocollateralize
  cases balanceOf with
  | error e =>
    dsimp only
    split_ifs <;> exact Option.some_ne_none _
  | ok tokenBalance =>
    dsimp only
    -- the one `none` is behind `minLimit = 0`
    split_ifs <;> first | exact Option.some_ne_none _ | omega

/-- The arithmetic of both branches, for a maximum that is a multiple of the minimum and a
collateral that is one. -/
theorem deposit_bounds {M X amount b d : ℕ} (hM : 0 < M) (hX : X % M = 0) (hb : b % M = 0)
    (h : canAutocollateralize (.ok (M, X)) amount (.ok b) = some (.ok d)) :
    0 < d ∧ d ≤ amount ∧ d % M = 0 ∧ b + d ≤ X := by
  obtain ⟨hmin, hpos, hlt, -, hd⟩ := canAutocollateralize_eq_ok h
  -- the rounded amount is `M · ⌊amount / M⌋`, at least `M`
  have hround : amount - amount % M = M * (amount / M) := by
    have := Nat.div_add_mod amount M
    omega
  have hq : 0 < amount / M := Nat.div_pos hmin hM
  rcases hd with ⟨hle, rfl⟩ | ⟨hgt, rfl⟩
  · refine ⟨?_, Nat.sub_le _ _, ?_, hle⟩
    · rw [hround]
      exact Nat.mul_pos hM hq
    · rw [hround]
      exact Nat.mul_mod_right M _
  · -- the rest up to the maximum is a multiple of the minimum, as both ends are
    refine ⟨by omega, ?_, Nat.sub_mod_eq_zero_of_mod_eq (hX.trans hb.symm), by omega⟩
    have := Nat.sub_le amount (amount % M)
    omega

/-- Every deposit the miner decides for an account holding collateral that the token accepts is
one the token accepts again: positive, within the balance, a multiple of the minimum, and
keeping the collateral within the maximum, so that `depositCollateral` passes
`_validateBalance`. No panic occurs. -/
theorem autocollateral_deposit_valid (amount b : ℕ)
    (hb : b % Governance.mnCollateralV2Min.toNat = 0) (hpos : 0 < b)
    (hlt : b < Governance.mnCollateralMax.toNat) :
    let limits := Governance.MasternodeRegistryV2.collateralLimits
    ∃ r, canAutocollateralize (.ok (limits.1.toNat, limits.2.toNat)) amount (.ok b) = some r ∧
      ∀ d, r = .ok d →
        0 < d ∧ d ≤ amount ∧ d % limits.1.toNat = 0 ∧ b + d ≤ limits.2.toNat ∧
          Governance.validateBalance (BitVec.ofNat 256 b + BitVec.ofNat 256 d) = .ok () := by
  intro limits
  have hM : 0 < limits.1.toNat := by decide
  have hX : limits.2.toNat % limits.1.toNat = 0 := by decide
  have hX256 : limits.2.toNat < 2 ^ 256 := limits.2.isLt
  have hb' : b % limits.1.toNat = 0 := hb
  cases hr : canAutocollateralize (.ok (limits.1.toNat, limits.2.toNat)) amount (.ok b) with
  | none => exact absurd hr (canAutocollateralize_ne_none hM)
  | some r =>
    refine ⟨r, rfl, ?_⟩
    rintro d rfl
    obtain ⟨hd, hdle, hdmod, hsum⟩ := deposit_bounds hM hX hb' hr
    -- in 256 bits the new balance does not wrap
    have hbd : (BitVec.ofNat 256 b + BitVec.ofNat 256 d).toNat = b + d := by
      rw [BitVec.toNat_add, BitVec.toNat_ofNat, BitVec.toNat_ofNat, Nat.mod_eq_of_lt (by omega),
        Nat.mod_eq_of_lt (by omega), Nat.mod_eq_of_lt (by omega)]
    refine ⟨hd, hdle, hdmod, hsum, Governance.validateBalance_eq_ok.2 ⟨?_, ?_⟩⟩
    · rw [BitVec.le_def, hbd]
      exact hsum
    · apply BitVec.eq_of_toNat_eq
      rw [BitVec.toNat_umod, hbd]
      show (b + d) % limits.1.toNat = 0
      rw [Nat.add_mod, hb', hdmod, Nat.add_zero, Nat.zero_mod]

/-- An account holding the minimum with 5500 coins to deposit: the miner deposits 5000. -/
theorem autocollateral_deposit_valid_thousand :
    (1000 * 10 ^ 18) % Governance.mnCollateralV2Min.toNat = 0 ∧ 0 < 1000 * 10 ^ 18 ∧
      1000 * 10 ^ 18 < Governance.mnCollateralMax.toNat ∧
      canAutocollateralize (.ok (Governance.MasternodeRegistryV2.collateralLimits.1.toNat,
          Governance.MasternodeRegistryV2.collateralLimits.2.toNat)) (5500 * 10 ^ 18)
          (.ok (1000 * 10 ^ 18)) = some (.ok (5000 * 10 ^ 18)) ∧
      let limits := Governance.MasternodeRegistryV2.collateralLimits
      ∃ r, canAutocollateralize (.ok (limits.1.toNat, limits.2.toNat)) (5500 * 10 ^ 18)
          (.ok (1000 * 10 ^ 18)) = some r ∧
        ∀ d, r = .ok d →
          0 < d ∧ d ≤ 5500 * 10 ^ 18 ∧ d % limits.1.toNat = 0 ∧
            1000 * 10 ^ 18 + d ≤ limits.2.toNat ∧
            Governance.validateBalance (BitVec.ofNat 256 (1000 * 10 ^ 18) + BitVec.ofNat 256 d) =
              .ok () :=
  ⟨by decide, by decide, by decide, by decide,
    autocollateral_deposit_valid (5500 * 10 ^ 18) (1000 * 10 ^ 18) (by decide) (by decide)
      (by decide)⟩

end Miner

end RangeCore
