import RangeCore.Governance.ValidatorList
import Mathlib

/-!
# Validation targets

In each validation epoch a masternode may invalidate one other, its `validationTarget`: the
validator at its own position in `validator_list` plus the epoch's offset, around the list. Over a
list that keeps the positions its statuses record (`MasternodeRegistry.ValidatorInv`), the targets
of the list, in order, are the list rotated by the offset (`validationTarget_getElem`). So they are
a permutation of the list, and one without a fixed point exactly when the offset is not a multiple
of the list's length (`validationTarget_perm`).

`_processValidationEpoch` draws the offset in `[1, T - 1]` for the length `T` the list has at the
epoch's start, so the targets are a fixed-point-free permutation then
(`processValidationEpoch_targetOffset`). But the list changes within an epoch, and
`validationTarget` only patches an offset equal to the new length. After announcements and
denouncements the offset can be another multiple of it, and every masternode is then its own
target (`validation_target_self`). The epoch's `% (total - 1)` also divides by zero for one
validator when `validation_periods` is one, which the constructor accepts.

## Main definitions

* `RangeCore.Governance.MasternodeRegistryV2.targetOffset`.

## Main results

* `RangeCore.Governance.MasternodeRegistryV2.validationTarget_getElem`: the targets are the list
  rotated by the offset.
* `RangeCore.Governance.MasternodeRegistryV2.validationTarget_perm`.
* `RangeCore.Governance.MasternodeRegistryV2.processValidationEpoch_targetOffset`.
* `RangeCore.Governance.MasternodeRegistryV2.validation_target_self`.
-/

namespace RangeCore.Governance

/-- A shift around `n` positions fixes a position exactly when it is by a multiple of `n`. -/
theorem add_mod_eq_self_iff {i k n : ℕ} (hi : i < n) : (i + k) % n = i ↔ k % n = 0 := by
  constructor
  · intro h
    have hmod : i + k ≡ i + 0 [MOD n] := by
      simpa [Nat.ModEq, Nat.mod_eq_of_lt hi] using h
    simpa [Nat.ModEq] using Nat.ModEq.add_left_cancel' i hmod
  · intro h
    rw [Nat.add_mod, h, Nat.add_zero, Nat.mod_mod, Nat.mod_eq_of_lt hi]

namespace MasternodeRegistryV2

variable {r : MasternodeRegistryV2}

/-- The offset `validationTarget` adds to a position: the epoch's offset, plus one when it is the
list's length. -/
def targetOffset (r : MasternodeRegistryV2) : Uint :=
  if r.currValidationOffset = BitVec.ofNat 256 r.validatorList.length then
    r.currValidationOffset + 1
  else r.currValidationOffset

/-- `validationTarget` over a list that is not empty: the entry at the masternode's index plus the
offset, modulo the list's length. -/
theorem validationTarget_eq (hne : BitVec.ofNat 256 r.validatorList.length ≠ 0) (m : Address) :
    r.validationTarget m =
      (r.validatorList[(((r.mnStatus m).validatorIndex + r.targetOffset) %
        BitVec.ofNat 256 r.validatorList.length).toNat]?).elim (.error .assert) .ok := by
  unfold validationTarget targetOffset
  simp only [hne, if_false, bind, Except.bind, pure, Except.pure]
  split
  · next target heq =>
    rw [heq]
    rfl
  · next heq =>
    rw [heq]
    rfl

/-- The target of the validator at position `i` is the one at `i` plus the offset, around the
list, when that sum does not wrap. -/
theorem validationTarget_getElem (h : r.ValidatorInv) {i : ℕ} (hi : i < r.validatorList.length)
    (hwrap : r.targetOffset.toNat + r.validatorList.length ≤ 2 ^ 256) :
    r.validationTarget r.validatorList[i] =
      .ok ((r.validatorList.rotate r.targetOffset.toNat).get ⟨i, by simpa using hi⟩) := by
  have htotal := h.toNat_length
  have hne : BitVec.ofNat 256 r.validatorList.length ≠ 0 := by
    intro h0
    rw [h0] at htotal
    simp at htotal
    omega
  have hindex : (((r.mnStatus r.validatorList[i]).validatorIndex + r.targetOffset) %
      BitVec.ofNat 256 r.validatorList.length).toNat =
      (i + r.targetOffset.toNat) % r.validatorList.length := by
    rw [BitVec.toNat_umod, htotal, BitVec.toNat_add, h.validatorIndex_getElem i hi,
      BitVec.toNat_ofNat, Nat.mod_eq_of_lt (by omega : i < 2 ^ 256),
      Nat.mod_eq_of_lt (by omega : i + r.targetOffset.toNat < 2 ^ 256)]
  rw [validationTarget_eq hne, hindex, List.getElem?_eq_getElem (Nat.mod_lt _ (by omega)),
    Option.elim_some, List.get_eq_getElem, List.getElem_rotate]

/-- Over a nonempty list whose offset does not wrap, the targets of the validators are a
permutation of them: each has a target among them, no two the same, and each is one's target. It
has no fixed point exactly when the offset is not a multiple of the list's length. -/
theorem validationTarget_perm (h : r.ValidatorInv)
    (hwrap : r.targetOffset.toNat + r.validatorList.length ≤ 2 ^ 256)
    (hT : 0 < r.validatorList.length) :
    (∀ m ∈ r.validatorList, ∃ t ∈ r.validatorList, r.validationTarget m = .ok t) ∧
    (∀ m₁ ∈ r.validatorList, ∀ m₂ ∈ r.validatorList,
      r.validationTarget m₁ = r.validationTarget m₂ → m₁ = m₂) ∧
    (∀ t ∈ r.validatorList, ∃ m ∈ r.validatorList, r.validationTarget m = .ok t) ∧
    ((∀ m ∈ r.validatorList, r.validationTarget m ≠ .ok m) ↔
      r.targetOffset.toNat % r.validatorList.length ≠ 0) := by
  have hnodup := h.indexed.nodup
  -- the target of the validator at `i` is the one at `i` plus the offset, around the list
  have htarget : ∀ i (hi : i < r.validatorList.length), r.validationTarget r.validatorList[i] =
      .ok (r.validatorList.get
        ⟨(i + r.targetOffset.toNat) % r.validatorList.length, Nat.mod_lt _ hT⟩) := by
    intro i hi
    rw [validationTarget_getElem h hi hwrap, List.get_eq_getElem, List.getElem_rotate]
    rfl
  refine ⟨?_, ?_, ?_, ?_⟩
  · intro m hm
    obtain ⟨i, hi, rfl⟩ := List.mem_iff_getElem.1 hm
    exact ⟨_, List.getElem_mem _, htarget i hi⟩
  · intro m₁ hm₁ m₂ hm₂ heq
    obtain ⟨i, hi, rfl⟩ := List.mem_iff_getElem.1 hm₁
    obtain ⟨j, hj, rfl⟩ := List.mem_iff_getElem.1 hm₂
    rw [htarget i hi, htarget j hj, Except.ok.injEq, hnodup.get_inj_iff, Fin.mk.injEq] at heq
    have hij : i ≡ j [MOD r.validatorList.length] := Nat.ModEq.add_right_cancel' _ heq
    obtain rfl := Nat.ModEq.eq_of_lt_of_lt hij hi hj
    rfl
  · intro t ht
    obtain ⟨i, hi, hget⟩ := List.mem_iff_getElem.1
      (List.mem_rotate.2 ht : t ∈ r.validatorList.rotate r.targetOffset.toNat)
    rw [List.length_rotate] at hi
    refine ⟨_, List.getElem_mem hi, ?_⟩
    rw [validationTarget_getElem h hi hwrap, List.get_eq_getElem, hget]
  · constructor
    · intro hfree hzero
      apply hfree _ (List.getElem_mem hT)
      rw [htarget 0 hT]
      simp only [(add_mod_eq_self_iff hT).2 hzero]
      rfl
    · intro hne m hm hself
      obtain ⟨i, hi, rfl⟩ := List.mem_iff_getElem.1 hm
      rw [htarget i hi, Except.ok.injEq, List.get_eq_getElem, hnodup.getElem_inj_iff] at hself
      exact hne ((add_mod_eq_self_iff hi).1 hself)

/-- The offset `_processValidationEpoch` draws from a block hash `b` for `t` validators:
`b % (t - 1) + 1`, in `[1, t - 1]`. -/
theorem toNat_drawnOffset (b t : Uint) (ht : 2 ≤ t.toNat) :
    (b % (t - 1) + 1).toNat = b.toNat % (t.toNat - 1) + 1 := by
  have h1 : (1 : Uint) ≤ t := by
    rw [BitVec.le_def]
    simp
    omega
  have hsub : (t - 1).toNat = t.toNat - 1 := by
    rw [BitVec.toNat_sub_of_le h1]
    simp
  have hlt : b.toNat % (t.toNat - 1) < t.toNat - 1 := Nat.mod_lt _ (by omega)
  have ht' := t.isLt
  rw [BitVec.toNat_add, BitVec.toNat_umod, hsub]
  simp
  omega

/-- `_processValidationEpoch` leaves the registry as it is, or starts an epoch over two or more
validators with an offset in `[1, T - 1]` for their number `T`. -/
theorem processValidationEpoch_cases {env : RegistryEnv} {r' : MasternodeRegistryV2}
    (hlen : r.validatorList.length < 2 ^ 256) (h : r.processValidationEpoch env = .ok r') :
    r' = r ∨ (r'.toMasternodeRegistry = r.toMasternodeRegistry ∧ 2 ≤ r.validatorList.length ∧
      1 ≤ r'.currValidationOffset.toNat ∧
      r'.currValidationOffset.toNat < r.validatorList.length) := by
  have htotal : (BitVec.ofNat 256 r.validatorList.length).toNat = r.validatorList.length :=
    Nat.mod_eq_of_lt hlen
  unfold processValidationEpoch at h
  dsimp only at h
  by_cases hends : env.blockNumber ≥ r.currValidationEnds
  swap
  · rw [if_neg hends] at h
    exact Or.inl (Except.ok.inj h).symm
  rw [if_pos hends] at h
  by_cases hlt : BitVec.ofNat 256 r.validatorList.length < r.validationPeriods
  · rw [if_pos hlt] at h
    exact Or.inl (Except.ok.inj h).symm
  rw [if_neg hlt] at h
  by_cases hzero : r.validationPeriods = 0
  · rw [if_pos hzero] at h
    cases h
  rw [if_neg hzero] at h
  by_cases hone : BitVec.ofNat 256 r.validatorList.length - 1 = 0
  · rw [if_pos hone] at h
    cases h
  rw [if_neg hone] at h
  cases h
  -- a new epoch: `validation_periods ≥ 1` validators, and not exactly one
  have htwo : 2 ≤ r.validatorList.length := by
    have hge := BitVec.le_def.1 (BitVec.not_lt.1 hlt)
    have hpos : r.validationPeriods.toNat ≠ 0 := fun h0 => hzero (BitVec.eq_of_toNat_eq h0)
    have hne : r.validatorList.length ≠ 1 := fun h1 => hone (by rw [h1]; rfl)
    rw [htotal] at hge
    omega
  refine Or.inr ⟨rfl, htwo, ?_⟩
  rw [toNat_drawnOffset _ _ (by rw [htotal]; exact htwo), htotal]
  have := Nat.mod_lt (env.blockhash (env.blockNumber - 1)).toNat
    (show 0 < r.validatorList.length - 1 by omega)
  omega

/-- A list of distinct addresses has at most `2^160` entries. -/
theorem length_le_of_nodup {l : List Address} (h : l.Nodup) : l.length ≤ 2 ^ 160 := by
  have := h.length_le_card
  rwa [← FinEnum.card_eq_fintypeCard, FinEnum.card_bitVec] at this

/-- When `_processValidationEpoch` starts an epoch, the targets of the validators are a
permutation of them without a fixed point: no masternode is its own target. -/
theorem processValidationEpoch_targetOffset {env : RegistryEnv} {r' : MasternodeRegistryV2}
    (h : r.ValidatorInv) (hp : r.processValidationEpoch env = .ok r') (hnew : r' ≠ r) :
    (∀ m₁ ∈ r'.validatorList, ∀ m₂ ∈ r'.validatorList,
      r'.validationTarget m₁ = r'.validationTarget m₂ → m₁ = m₂) ∧
    (∀ m ∈ r'.validatorList, ∃ t ∈ r'.validatorList, r'.validationTarget m = .ok t ∧ t ≠ m) := by
  have hlen := MasternodeRegistry.length_lt_of_nodup h.indexed.nodup
  have hsmall := length_le_of_nodup h.indexed.nodup
  obtain ⟨hpart, htwo, hpos, hlt⟩ :=
    (processValidationEpoch_cases hlen hp).resolve_left hnew
  have h' : r'.ValidatorInv := by
    rw [hpart]
    exact h
  have hlist : r'.validatorList = r.validatorList := congrArg (·.validatorList) hpart
  -- the drawn offset is not the length, so `validationTarget` adds it as it is
  have hoffset : r'.targetOffset = r'.currValidationOffset := by
    have hne : r'.currValidationOffset ≠ BitVec.ofNat 256 r'.validatorList.length := by
      intro heq
      have := congrArg BitVec.toNat heq
      rw [h'.toNat_length, hlist] at this
      omega
    simp [targetOffset, hne]
  obtain ⟨-, hinj, -, hfree⟩ := validationTarget_perm h' (by rw [hoffset, hlist]; omega)
    (by rw [hlist]; omega)
  have hfree' : ∀ m ∈ r'.validatorList, r'.validationTarget m ≠ .ok m :=
    hfree.2 (by rw [hoffset, hlist, Nat.mod_eq_of_lt hlt]; omega)
  refine ⟨hinj, fun m hm => ?_⟩
  obtain ⟨t, ht, htarget⟩ := (validationTarget_perm h' (by rw [hoffset, hlist]; omega)
    (by rw [hlist]; omega)).1 m hm
  exact ⟨t, ht, htarget, fun heq => hfree' m hm (heq ▸ htarget)⟩

/-- Two runs from the constructor with `validation_periods = 1`, which it accepts, every owner
holding `MN_COLLATERAL_V2_MIN`. Five masternodes `0x1, ..., 0x5` are announced, and `reward()` at
block 10, where the previous block hash is 3, starts an epoch with offset `3 % 4 + 1 = 4` for five
validators; then `0x3`, `0x4` and `0x5` are denounced. The two validators left are each their own
validation target, as the offset is twice their number. In the second run one masternode is
announced, and `reward()` at block 10 reverts: the epoch's `% (total - 1)` divides by zero. -/
theorem validation_target_self :
    let env : Address → Uint → Uint → RegistryEnv := fun caller blockNumber msgValue =>
      { caller, blockNumber, timestamp := 1000, msgValue
        balanceInfo := fun _ => (mnCollateralV2Min, 0), blockhash := fun _ => 3, gas := 1
        accepts := fun _ => true, treasuryReward := fun _ => .ok () }
    let announce : Address → RegistryEnv × RegistryCall := fun m =>
      (env (m + 0x100) 5 0, .announce m 0x01020304 (0, 0))
    let calls : List (RegistryEnv × RegistryCall) :=
      [announce 0x1, announce 0x2, announce 0x3, announce 0x4, announce 0x5,
        (env 0xC 10 rewardMasternodeV1, .reward),
        (env 0x103 11 0, .denounce 0x3), (env 0x104 11 0, .denounce 0x4),
        (env 0x105 11 0, .denounce 0x5)]
    ∃ r₀, new ⟨5, 1, 86400, mnCollateralV2Min, 1⟩ (env 0xC 1 0) = .ok r₀ ∧
      (r₀.runCalls calls).validatorList = [0x1, 0x2] ∧
      (r₀.runCalls calls).currValidationOffset = 4 ∧
      (r₀.runCalls calls).validationTarget 0x1 = .ok 0x1 ∧
      (r₀.runCalls calls).validationTarget 0x2 = .ok 0x2 ∧
      (r₀.runCalls [announce 0x1]).exec (env 0xC 10 rewardMasternodeV1) .reward =
        .error .assert :=
  ⟨_, rfl, rfl, rfl, rfl, rfl, rfl⟩

end MasternodeRegistryV2

end RangeCore.Governance
