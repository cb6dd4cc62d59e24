import RangeCore.Governance.RegistryV2
import RangeCore.Lib.IndexedList
import RangeCore.Lib.ExceptBind
import Mathlib.Data.FinEnum

/-!
# The validator list of the masternode registry

`MasternodeRegistryV2` keeps its active masternodes in `validator_list`, with each one's position
in `mn_status[m].validator_index`, their number in `mn_active` and their collateral in
`mn_active_collateral`. A masternode is added by `_announce` and removed by `_deactive_common`
through swap-and-pop (`RangeCore.Lib.IndexedList`), called from `_denounce` and from the
deactivation branch of `_reward`.

`ValidatorInv` says that the list has no duplicates and holds exactly the masternodes with
sequential payouts left, each announced, at the position its status records, and that the two
counters match the list. Every call keeps it, from the constructor on, as long as no call comes
from the zero address, which no transaction can.

## Main definitions

* `RangeCore.Governance.MasternodeRegistry.ListInv`: positions and counters.
* `RangeCore.Governance.MasternodeRegistry.ValidatorInv`: with membership.

## Main results

* `RangeCore.Governance.MasternodeRegistry.ValidatorInv.denounceInternal`,
  `RangeCore.Governance.MasternodeRegistry.ValidatorInv.announceInternal`: the two list changes.
* `RangeCore.Governance.MasternodeRegistry.ValidatorInv.exec`: every call keeps the invariant.
* `RangeCore.Governance.MasternodeRegistryV2.validator_list_invariant`: along every sequence of
  calls from the constructor, with what follows for `enumerateActive`, `_deactive_common` and
  `validationTarget`.
-/

namespace RangeCore.Governance

/-! ### The storage contract -/

namespace MnStorage

@[simp] theorem setMasternodePos_owner (st : MnStorage) (m : Address) (setPrev : Bool)
    (prev : Address) (setNext : Bool) (next x : Address) :
    ((st.setMasternodePos m setPrev prev setNext next).masternodes x).owner =
      (st.masternodes x).owner := by
  unfold setMasternodePos
  by_cases hx : x = m
  · subst hx
    simp only [Function.update_self]
    split_ifs <;> rfl
  · simp [Function.update_of_ne hx]

@[simp] theorem setMasternodePos_collateral (st : MnStorage) (m : Address) (setPrev : Bool)
    (prev : Address) (setNext : Bool) (next x : Address) :
    ((st.setMasternodePos m setPrev prev setNext next).masternodes x).collateral =
      (st.masternodes x).collateral := by
  unfold setMasternodePos
  by_cases hx : x = m
  · subst hx
    simp only [Function.update_self]
    split_ifs <;> rfl
  · simp [Function.update_of_ne hx]

@[simp] theorem setMasternodePos_ownerMasternodes (st : MnStorage) (m : Address) (setPrev : Bool)
    (prev : Address) (setNext : Bool) (next : Address) :
    (st.setMasternodePos m setPrev prev setNext next).ownerMasternodes = st.ownerMasternodes :=
  rfl

/-- A successful `setMasternode` writes the slot, and records the masternode under its owner or
leaves the owners as they were. -/
theorem setMasternode_ok {st st' : MnStorage} {masternode owner : Address} {ipv4address : UInt32}
    {enode : Hash × Hash} {collateral announcedBlock : Uint} {prev next : Address}
    (h : st.setMasternode masternode owner ipv4address enode collateral announcedBlock prev next =
      .ok st') :
    st'.masternodes = Function.update st.masternodes masternode
        ⟨announcedBlock, collateral, enode.1, enode.2, owner, prev, next, ipv4address⟩ ∧
      (st'.ownerMasternodes = st.ownerMasternodes ∨
        st'.ownerMasternodes = Function.update st.ownerMasternodes owner masternode) := by
  unfold setMasternode at h
  simp only [bind, Except.bind, pure, Except.pure] at h
  split at h
  · split at h
    · cases h
      exact ⟨rfl, Or.inr rfl⟩
    · cases h
  · cases h
    exact ⟨rfl, Or.inl rfl⟩

end MnStorage

namespace MasternodeRegistry

/-- The position `validator_index` records for a masternode. -/
def validatorPos (r : MasternodeRegistry) (m : Address) : ℕ := (r.mnStatus m).validatorIndex.toNat

/-- The collateral stored for a masternode. -/
def collateralOf (r : MasternodeRegistry) (m : Address) : Uint :=
  (r.v1storage.masternodes m).collateral

/-- The list part of the invariant: positions as recorded, `mn_active` its length and
`mn_active_collateral` the sum of its collateral. -/
structure ListInv (r : MasternodeRegistry) : Prop where
  indexed : IndexedList.Valid r.validatorList r.validatorPos
  active : r.mnActive = BitVec.ofNat 256 r.validatorList.length
  activeCollateral : r.mnActiveCollateral = (r.validatorList.map r.collateralOf).sum

/-- The validator-list invariant: the list part, and the list holds exactly the masternodes with
sequential payouts left, each of them announced; no owner is recorded for the zero address. -/
structure ValidatorInv (r : MasternodeRegistry) : Prop extends r.ListInv where
  mem_iff : ∀ m, m ∈ r.validatorList ↔ (r.mnStatus m).seqPayouts ≠ 0
  announced : ∀ m, (r.mnStatus m).seqPayouts ≠ 0 → (r.v1storage.masternodes m).owner ≠ 0
  ownerZero : r.v1storage.ownerMasternodes 0 = 0

/-- Two registries agree on everything the invariant reads. -/
structure SameValidators (r r' : MasternodeRegistry) : Prop where
  list : r'.validatorList = r.validatorList
  seq : ∀ m, (r'.mnStatus m).seqPayouts = (r.mnStatus m).seqPayouts
  index : ∀ m, (r'.mnStatus m).validatorIndex = (r.mnStatus m).validatorIndex
  owner : ∀ m, (r'.v1storage.masternodes m).owner = (r.v1storage.masternodes m).owner
  collateral : ∀ m, r'.collateralOf m = r.collateralOf m
  ownerZero : r'.v1storage.ownerMasternodes 0 = r.v1storage.ownerMasternodes 0
  active : r'.mnActive = r.mnActive
  activeCollateral : r'.mnActiveCollateral = r.mnActiveCollateral

namespace SameValidators

variable {r r' r'' : MasternodeRegistry}

theorem refl (r : MasternodeRegistry) : SameValidators r r :=
  ⟨rfl, fun _ => rfl, fun _ => rfl, fun _ => rfl, fun _ => rfl, rfl, rfl, rfl⟩

theorem trans (h : SameValidators r r') (h' : SameValidators r' r'') : SameValidators r r'' :=
  ⟨h'.list.trans h.list, fun m => (h'.seq m).trans (h.seq m),
    fun m => (h'.index m).trans (h.index m), fun m => (h'.owner m).trans (h.owner m),
    fun m => (h'.collateral m).trans (h.collateral m), h'.ownerZero.trans h.ownerZero,
    h'.active.trans h.active, h'.activeCollateral.trans h.activeCollateral⟩

/-- Two registries agree on what the invariant reads when the fields it reads are equal. -/
theorem of_fields
    (hlist : r'.validatorList = r.validatorList) (hstatus : r'.mnStatus = r.mnStatus)
    (hstorage : r'.v1storage = r.v1storage) (hactive : r'.mnActive = r.mnActive)
    (hcoll : r'.mnActiveCollateral = r.mnActiveCollateral) : SameValidators r r' :=
  ⟨hlist, fun m => by rw [hstatus], fun m => by rw [hstatus], fun m => by rw [hstorage],
    fun m => by simp only [collateralOf, hstorage], by rw [hstorage], hactive, hcoll⟩

/-- A status written at one masternode with its payouts and position kept. -/
theorem update_status (r : MasternodeRegistry) (m : Address) (s : MnStatus)
    (hseq : s.seqPayouts = (r.mnStatus m).seqPayouts)
    (hindex : s.validatorIndex = (r.mnStatus m).validatorIndex) :
    SameValidators r { r with mnStatus := Function.update r.mnStatus m s } := by
  refine ⟨rfl, fun x => ?_, fun x => ?_, fun _ => rfl, fun _ => rfl, rfl, rfl, rfl⟩
  · by_cases hx : x = m
    · subst hx
      simpa using hseq
    · simp [Function.update_of_ne hx]
  · by_cases hx : x = m
    · subst hx
      simpa using hindex
    · simp [Function.update_of_ne hx]

/-- Relinking the ring moves `prev` and `next` only. -/
theorem setMasternodePos (r : MasternodeRegistry) (m : Address) (setPrev : Bool) (prev : Address)
    (setNext : Bool) (next : Address) :
    SameValidators r
      { r with v1storage := r.v1storage.setMasternodePos m setPrev prev setNext next } :=
  ⟨rfl, fun _ => rfl, fun _ => rfl, fun x => MnStorage.setMasternodePos_owner _ _ _ _ _ _ x,
    fun x => MnStorage.setMasternodePos_collateral _ _ _ _ _ _ x, rfl, rfl, rfl⟩

end SameValidators

theorem ValidatorInv.of_same {r r' : MasternodeRegistry} (h : r.ValidatorInv)
    (hs : SameValidators r r') : r'.ValidatorInv where
  indexed := by
    rw [hs.list]
    exact h.indexed.congr fun m _ => by simp only [validatorPos, hs.index]
  active := by rw [hs.active, hs.list, h.active]
  activeCollateral := by
    rw [hs.activeCollateral, hs.list, h.activeCollateral]
    exact congrArg List.sum (List.map_congr_left fun m _ => (hs.collateral m).symm)
  mem_iff m := by rw [hs.list, hs.seq, h.mem_iff]
  announced m hm := by
    rw [hs.owner]
    exact h.announced m (by rwa [← hs.seq])
  ownerZero := hs.ownerZero.trans h.ownerZero

/-! ### Removing a validator -/

/-- A list of addresses without duplicates is shorter than `2 ^ 256`. -/
theorem length_lt_of_nodup {l : List Address} (h : l.Nodup) : l.length < 2 ^ 256 := by
  have := h.length_le_card
  rw [← FinEnum.card_eq_fintypeCard, FinEnum.card_bitVec] at this
  omega

/-- `_deactive_common` of a validator, written out: the last validator takes its position. -/
theorem deactiveCommon_eq {r : MasternodeRegistry} {m x : Address} (c : Uint)
    (hv : IndexedList.Valid r.validatorList r.validatorPos) (hm : m ∈ r.validatorList)
    (hlast : r.validatorList.getLast? = some x) :
    r.deactiveCommon m c =
      .ok
        { r with
          mnStatus := Function.update r.mnStatus x
            { r.mnStatus x with validatorIndex := (r.mnStatus m).validatorIndex }
          validatorList := (r.validatorList.set (r.validatorPos m) x).dropLast
          mnActive := r.mnActive - 1
          mnActiveCollateral := r.mnActiveCollateral - c } := by
  obtain ⟨hlt, -⟩ := hv.getElem_idx hm
  have hle : ¬r.validatorList.length ≤ (r.mnStatus m).validatorIndex.toNat := Nat.not_le.2 hlt
  simp only [deactiveCommon, hlast, bind, Except.bind, pure, Except.pure, if_neg hle]
  rfl

/-- `_deactive_common` of a validator with its own collateral: it succeeds, keeps the list part,
removes exactly that validator, and changes no payouts and no storage slot. -/
theorem ListInv.deactiveCommon {r : MasternodeRegistry} (h : r.ListInv) {m : Address}
    (hm : m ∈ r.validatorList) :
    ∃ r', r.deactiveCommon m (r.collateralOf m) = .ok r' ∧ r'.ListInv ∧
      (∀ y, y ∈ r'.validatorList ↔ y ∈ r.validatorList ∧ y ≠ m) ∧
      (∀ y, (r'.mnStatus y).seqPayouts = (r.mnStatus y).seqPayouts) ∧
      r'.v1storage = r.v1storage := by
  obtain ⟨x, hlast⟩ : ∃ x, r.validatorList.getLast? = some x :=
    Option.isSome_iff_exists.1 (List.getLast?_isSome.2 (List.ne_nil_of_mem hm))
  have hremove := h.indexed.swapPop hm hlast
  have hlen : r.validatorList.length ≠ 0 := List.length_pos_iff_ne_nil.2 (List.ne_nil_of_mem hm)
    |>.ne'
  refine ⟨_, deactiveCommon_eq _ h.indexed hm hlast, ⟨?_, ?_, ?_⟩, fun y => ?_, fun y => ?_, rfl⟩
  · -- the moved validator takes the removed one's position
    refine hremove.1.congr fun y _ => ?_
    by_cases hy : y = x
    · subst hy
      simp [validatorPos]
    · simp [validatorPos, Function.update_of_ne hy]
  · -- one fewer validator
    dsimp only
    obtain ⟨k, hk⟩ : ∃ k, r.validatorList.length = k + 1 :=
      ⟨_, (Nat.succ_pred_eq_of_ne_zero hlen).symm⟩
    rw [hremove.2.length_eq, List.length_erase_of_mem hm, h.active, hk, Nat.add_sub_cancel,
      BitVec.ofNat_add]
    exact BitVec.add_sub_cancel _ _
  · -- one collateral fewer
    dsimp only
    rw [h.activeCollateral]
    exact (IndexedList.sum_map_swapPop r.collateralOf h.indexed hm hlast).symm
  · exact IndexedList.mem_swapPop h.indexed hm hlast
  · by_cases hy : y = x
    · subst hy
      simp
    · simp [Function.update_of_ne hy]

/-- The list part survives clearing the status and the slot of a masternode off the list. -/
theorem ListInv.delete {r : MasternodeRegistry} (h : r.ListInv) {m : Address}
    (hm : m ∉ r.validatorList) (announced : Uint) :
    ListInv { r with
      mnStatus := Function.update r.mnStatus m MnStatus.zero
      v1storage := r.v1storage.deleteMasternode m
      mnAnnounced := announced } := by
  have hne : ∀ y ∈ r.validatorList, y ≠ m := fun y hy hym => hm (hym ▸ hy)
  refine ⟨?_, h.active, ?_⟩
  · exact h.indexed.congr fun y hy => by
      simp [validatorPos, Function.update_of_ne (hne y hy)]
  · rw [h.activeCollateral]
    refine congrArg List.sum (List.map_congr_left fun y hy => ?_)
    simp [collateralOf, MnStorage.deleteMasternode, Function.update_of_ne (hne y hy)]

/-! ### Denouncing -/

/-- The unlinking of `_denounce`: the neighbours are relinked and the current masternode moved
on, none of which the invariant reads. -/
theorem SameValidators.unlink (r : MasternodeRegistry) (m : Address) (mninfo : MnInfo) :
    SameValidators r
      (if mninfo.next = m then { r with currentMasternode := 0 }
      else
        let r :=
          if r.currentMasternode = m then
            { r with currentMasternode := mninfo.next, currentPayouts := 0 }
          else r
        let st := r.v1storage.setMasternodePos mninfo.prev false 0 true mninfo.next
        { r with v1storage := st.setMasternodePos mninfo.next true mninfo.prev false 0 }) := by
  split
  · exact of_fields rfl rfl rfl rfl rfl
  · refine SameValidators.trans ?_
      ((setMasternodePos _ _ _ _ _ _).trans (setMasternodePos _ _ _ _ _ _))
    split <;> exact of_fields rfl rfl rfl rfl rfl

/-- What a successful `_denounce` does: nothing for a free slot; otherwise the owner matched,
the ring is relinked without touching what the invariant reads, the masternode leaves the list
through `_deactive_common` if it had payouts left, and its status and slot are cleared. -/
theorem denounceInternal_ok {r r' : MasternodeRegistry} {m o : Address}
    (hd : r.denounceInternal m o = .ok r') :
    (r.v1storage.masternodes m).owner = 0 ∧ r' = r ∨
      (r.v1storage.masternodes m).owner ≠ 0 ∧ o = (r.v1storage.masternodes m).owner ∧
        ∃ r₁ r₂, SameValidators r r₁ ∧
          ((r₁.mnStatus m).seqPayouts > 0 → r₁.deactiveCommon m (r.collateralOf m) = .ok r₂) ∧
          (¬(r₁.mnStatus m).seqPayouts > 0 → r₂ = r₁) ∧
          r' = { r₂ with
            mnStatus := Function.update r₂.mnStatus m MnStatus.zero
            v1storage := r₂.v1storage.deleteMasternode m
            mnAnnounced := r₂.mnAnnounced - 1 } := by
  unfold denounceInternal at hd
  by_cases h0 : (r.v1storage.masternodes m).owner = 0
  · simp only [h0, if_true] at hd
    cases hd
    exact .inl ⟨h0, rfl⟩
  simp only [h0, if_false] at hd
  obtain ⟨⟨⟩, howner, hd⟩ := Except.bind_eq_ok_iff.1 hd
  refine .inr ⟨h0, require_eq_ok.1 howner, ?_⟩
  rcases ite_eq_iff.1 hd with ⟨hpos, hd⟩ | ⟨hpos, hd⟩
  · obtain ⟨r₂, hstep, hd⟩ := Except.bind_eq_ok_iff.1 hd
    cases hd
    refine ⟨_, r₂, ?_, fun _ => hstep, fun h => absurd hpos h, rfl⟩
    exact (SameValidators.unlink r m _).trans (.of_fields rfl rfl rfl rfl rfl)
  · cases hd
    refine ⟨_, _, ?_, ?_, fun _ => rfl, rfl⟩
    · exact (SameValidators.unlink r m _).trans (.of_fields rfl rfl rfl rfl rfl)
    · exact fun h => absurd h hpos

/-- Clearing the status and the slot of a masternode that is off the list keeps the invariant,
given the membership facts for the other masternodes. -/
theorem ListInv.clear {r : MasternodeRegistry} (h : r.ListInv) {m : Address}
    (hm : m ∉ r.validatorList)
    (hmem : ∀ y, y ≠ m → (y ∈ r.validatorList ↔ (r.mnStatus y).seqPayouts ≠ 0))
    (hann : ∀ y, y ≠ m → (r.mnStatus y).seqPayouts ≠ 0 → (r.v1storage.masternodes y).owner ≠ 0)
    (hzero : r.v1storage.ownerMasternodes 0 = 0) (announced : Uint) :
    ValidatorInv { r with
      mnStatus := Function.update r.mnStatus m MnStatus.zero
      v1storage := r.v1storage.deleteMasternode m
      mnAnnounced := announced } where
  toListInv := h.delete hm announced
  mem_iff y := by
    by_cases hy : y = m
    · subst hy
      simp [MnStatus.zero, hm]
    · simpa [Function.update_of_ne hy] using hmem y hy
  announced y hy := by
    by_cases hym : y = m
    · subst hym
      simp [MnStatus.zero] at hy
    · simp only [Function.update_of_ne hym] at hy
      simpa [MnStorage.deleteMasternode, Function.update_of_ne hym] using hann y hym hy
  ownerZero := by
    simp only [MnStorage.deleteMasternode, Function.update_apply]
    split_ifs
    · rfl
    · exact hzero

/-- `_denounce` keeps the invariant: a masternode with payouts left leaves the list through
`_deactive_common`, and one without was not on it. -/
theorem ValidatorInv.denounceInternal {r r' : MasternodeRegistry} (h : r.ValidatorInv)
    {m o : Address} (hd : r.denounceInternal m o = .ok r') : r'.ValidatorInv := by
  rcases denounceInternal_ok hd with ⟨-, rfl⟩ | ⟨-, -, r₁, r₂, hs, hdeact, hkeep, rfl⟩
  · exact h
  have h₁ := h.of_same hs
  by_cases hpos : (r₁.mnStatus m).seqPayouts > 0
  · -- on the list: removed by swap-and-pop, which changes no payouts and no slot
    have hm : m ∈ r₁.validatorList := (h₁.mem_iff m).2 ((BitVec.pos_iff_ne_zero _).1 hpos)
    obtain ⟨r₃, hdc, hl, hmem, hseq, hst⟩ := h₁.toListInv.deactiveCommon hm
    rw [← hs.collateral m, hdc] at hdeact
    cases hdeact hpos
    refine hl.clear (fun hm' => ((hmem m).1 hm').2 rfl) (fun y hy => ?_) (fun y _ hy => ?_)
      (by rw [hst]; exact h₁.ownerZero) _
    · rw [hmem y, hseq y, ← h₁.mem_iff y]
      exact and_iff_left hy
    · rw [hst]
      exact h₁.announced y (by rwa [← hseq y])
  · -- off the list already
    cases hkeep hpos
    have hm : m ∉ r₁.validatorList := fun hm =>
      hpos ((BitVec.pos_iff_ne_zero _).2 ((h₁.mem_iff m).1 hm))
    exact h₁.toListInv.clear hm (fun y _ => h₁.mem_iff y) (fun y _ => h₁.announced y)
      h₁.ownerZero _

/-! ### Announcing -/

/-- What a successful `_announce` does: after denouncing the owner's old masternode, if any, the
slot is free and the address public, and the masternode is inserted, stored and appended. -/
theorem announceInternal_ok {r r' : MasternodeRegistry} {env : CallEnv}
    {masternode owner : Address} {balance : Uint} {ipv4address : UInt32} {enode : Hash × Hash}
    (hd : r.announceInternal env masternode owner balance ipv4address enode = .ok r') :
    ∃ r₁ st, (r₁ = r ∨ r.denounceInternal (r.v1storage.ownerMasternodes owner) owner = .ok r₁) ∧
      (r₁.v1storage.masternodes masternode).owner = 0 ∧ announceCheckIpv4 ipv4address = .ok () ∧
      let r₂ := (r₁.announceInsert masternode).1
      r₂.v1storage.setMasternode masternode owner ipv4address enode balance env.blockNumber
          (r₁.announceInsert masternode).2.2 (r₁.announceInsert masternode).2.1 = .ok st ∧
        r' =
          { r₂ with
            v1storage := st
            mnStatus := Function.update r₂.mnStatus masternode
              { r₂.mnStatus masternode with
                nextHeartbeat := env.timestamp
                seqPayouts := balance / mnCollateralV2Min
                validatorIndex := BitVec.ofNat 256 r₂.validatorList.length }
            mnActive := r₂.mnActive + 1
            mnAnnounced := r₂.mnAnnounced + 1
            mnActiveCollateral := r₂.mnActiveCollateral + balance
            mnAnnouncedCollateral := r₂.mnAnnouncedCollateral + balance
            mnEverCollateral :=
              if r₂.mnAnnouncedCollateral + balance > r₂.mnEverCollateral then
                r₂.mnAnnouncedCollateral + balance
              else r₂.mnEverCollateral
            validatorList := r₂.validatorList ++ [masternode] } := by
  unfold announceInternal at hd
  dsimp only at hd
  obtain ⟨r₁, hden, hd⟩ : ∃ r₁, (r₁ = r ∨
      r.denounceInternal (r.v1storage.ownerMasternodes owner) owner = .ok r₁) ∧ _ := by
    rcases ite_eq_iff.1 hd with ⟨-, hd⟩ | ⟨-, hd⟩
    · obtain ⟨r₁, h₁, hd⟩ := Except.bind_eq_ok_iff.1 hd
      exact ⟨r₁, .inr h₁, hd⟩
    · obtain ⟨r₁, h₁, hd⟩ := Except.bind_eq_ok_iff.1 hd
      cases h₁
      exact ⟨r, .inl rfl, hd⟩
  obtain ⟨⟨⟩, hfree, hd⟩ := Except.bind_eq_ok_iff.1 hd
  obtain ⟨⟨⟩, hip, hd⟩ := Except.bind_eq_ok_iff.1 hd
  obtain ⟨st, hst, hd⟩ := Except.bind_eq_ok_iff.1 hd
  cases hd
  exact ⟨r₁, st, hden, require_eq_ok.1 hfree, hip, hst, rfl⟩

/-- `_announce_insert` moves ring pointers and the current masternode only. -/
theorem SameValidators.announceInsert (r : MasternodeRegistry) (m : Address) :
    SameValidators r (r.announceInsert m).1 := by
  unfold MasternodeRegistry.announceInsert
  dsimp only
  split
  · exact (setMasternodePos _ _ _ _ _ _).trans (setMasternodePos _ _ _ _ _ _)
  · exact of_fields rfl rfl rfl rfl rfl

/-- One sequential payout per minimum collateral: at least one from the minimum on. -/
theorem seqPayouts_ne_zero {balance : Uint} (h : mnCollateralV2Min ≤ balance) :
    balance / mnCollateralV2Min ≠ 0 := by
  intro h0
  have hpos : 0 < mnCollateralV2Min.toNat := by simp [mnCollateralV2Min]
  have hdiv := congrArg BitVec.toNat h0
  rw [BitVec.toNat_udiv] at hdiv
  exact (Nat.div_pos (BitVec.le_def.1 h) hpos).ne' hdiv

/-- `_announce` keeps the invariant for an owner other than the zero address with at least the
minimum collateral: the masternode, whose slot was free, is appended at the last position. -/
theorem ValidatorInv.announceInternal {r r' : MasternodeRegistry} (h : r.ValidatorInv)
    {env : CallEnv} {masternode owner : Address} {balance : Uint} {ipv4address : UInt32}
    {enode : Hash × Hash} (howner : owner ≠ 0) (hbalance : mnCollateralV2Min ≤ balance)
    (hd : r.announceInternal env masternode owner balance ipv4address enode = .ok r') :
    r'.ValidatorInv := by
  obtain ⟨r₁, st, hden, hfree, -, hst, rfl⟩ := announceInternal_ok hd
  have h₁ : r₁.ValidatorInv := by
    rcases hden with rfl | hden
    · exact h
    · exact h.denounceInternal hden
  have hs := SameValidators.announceInsert r₁ masternode
  have h₂ := h₁.of_same hs
  -- a free slot has no payouts, so the masternode is not on the list
  have hnot : masternode ∉ (r₁.announceInsert masternode).1.validatorList := fun hm =>
    h₂.announced masternode ((h₂.mem_iff masternode).1 hm) (by rw [hs.owner]; exact hfree)
  obtain ⟨hslots, howners⟩ := MnStorage.setMasternode_ok hst
  have hlen := length_lt_of_nodup h₂.indexed.nodup
  refine ⟨⟨?_, ?_, ?_⟩, fun y => ?_, fun y hy => ?_, ?_⟩
  · refine (h₂.indexed.push hnot).congr fun y _ => ?_
    by_cases hy : y = masternode
    · subst hy
      simpa [validatorPos] using hlen
    · simp [validatorPos, Function.update_of_ne hy]
  · simp [h₂.active, BitVec.ofNat_add]
  · -- the new collateral is added; the others' slots are untouched
    rw [h₂.activeCollateral, List.map_append, List.sum_append]
    refine congrArg₂ (· + ·) (congrArg List.sum (List.map_congr_left fun y hy => ?_)) ?_
    · simp [collateralOf, hslots, Function.update_of_ne (ne_of_mem_of_not_mem hy hnot)]
    · simp [collateralOf, hslots]
  · by_cases hy : y = masternode
    · subst hy
      simpa using seqPayouts_ne_zero hbalance
    · simp [h₂.mem_iff y, hy]
  · by_cases hym : y = masternode
    · subst hym
      simpa [hslots] using howner
    · simp only [Function.update_of_ne hym] at hy
      simpa [hslots, Function.update_of_ne hym] using h₂.announced y hy
  · -- the owner recorded is not the zero address
    rcases howners with howners | howners
    · exact howners ▸ h₂.ownerZero
    · rw [howners, Function.update_of_ne howner.symm]
      exact h₂.ownerZero

/-! ### Deactivating -/

/-- A status written with its position kept leaves the list part. -/
theorem ListInv.update_status {r : MasternodeRegistry} (h : r.ListInv) (m : Address) (s : MnStatus)
    (hindex : s.validatorIndex = (r.mnStatus m).validatorIndex) :
    ListInv { r with mnStatus := Function.update r.mnStatus m s } := by
  refine ⟨h.indexed.congr fun y _ => ?_, h.active, h.activeCollateral⟩
  by_cases hy : y = m
  · subst hy
    simp [validatorPos, hindex]
  · simp [validatorPos, Function.update_of_ne hy]

/-- The deactivation of `_reward`: the payouts of a validator are cleared, and
`_deactive_common` takes it off the list. -/
theorem ValidatorInv.deactivate {r r' : MasternodeRegistry} (h : r.ValidatorInv) {m : Address}
    (hpos : (r.mnStatus m).seqPayouts > 0) (inactiveSince : Uint)
    (hd : ({ r with
        mnStatus := Function.update r.mnStatus m
          { r.mnStatus m with seqPayouts := 0, inactiveSince } } : MasternodeRegistry).deactiveCommon
        m (r.collateralOf m) = .ok r') :
    r'.ValidatorInv := by
  have hl := h.toListInv.update_status m { r.mnStatus m with seqPayouts := 0, inactiveSince } rfl
  have hm : m ∈ r.validatorList := (h.mem_iff m).2 ((BitVec.pos_iff_ne_zero _).1 hpos)
  obtain ⟨r₂, hdc, hl₂, hmem, hseq, hst⟩ := hl.deactiveCommon hm
  obtain rfl : r₂ = r' := Except.ok.inj (hdc.symm.trans hd)
  refine ⟨hl₂, fun y => ?_, fun y hy => ?_, by rw [hst]; exact h.ownerZero⟩
  · rw [hmem y, hseq y]
    by_cases hy : y = m
    · subst hy
      simp
    · simp [h.mem_iff y, hy]
  · -- the deactivated validator has no payouts left, so `y` is another one
    have hym : y ≠ m := by
      rintro rfl
      simp [hseq] at hy
    rw [hst]
    exact h.announced y (by simpa [hseq y, Function.update_of_ne hym] using hy)

theorem validatorInv_init (initialEverCollateral : Uint) :
    (init initialEverCollateral).ValidatorInv where
  indexed := IndexedList.valid_nil _
  active := rfl
  activeCollateral := rfl
  mem_iff m := by simp [init, MnStatus.zero]
  announced m hm := by simp [init, MnStatus.zero] at hm
  ownerZero := rfl

end MasternodeRegistry

/-! ### The calls of the whole registry -/

namespace MasternodeRegistry

variable {r r' : MasternodeRegistryV2} {env : RegistryEnv}

/-- The first part of `_reward` moves the turn and resets invalidations only. -/
theorem SameValidators.rewardAdvance (r : MasternodeRegistryV2) :
    SameValidators r.toMasternodeRegistry r.rewardAdvance.toMasternodeRegistry := by
  unfold MasternodeRegistryV2.rewardAdvance
  dsimp only
  split
  · exact .of_fields rfl rfl rfl rfl rfl
  · exact (update_status r.toMasternodeRegistry r.currentMasternode
      { r.mnStatus r.currentMasternode with invalidations := 0 } rfl rfl).trans
      (.of_fields rfl rfl rfl rfl rfl)

theorem ValidatorInv.heartbeat (h : r.ValidatorInv) {blockNumber : Uint} {blockHash : Hash}
    {swFeatures : Uint} (hd : r.heartbeat env blockNumber blockHash swFeatures = .ok r') :
    r'.ValidatorInv := by
  unfold MasternodeRegistryV2.heartbeat at hd
  obtain ⟨⟨⟩, -, hd⟩ := Except.bind_eq_ok_iff.1 hd
  obtain ⟨⟨⟩, -, hd⟩ := Except.bind_eq_ok_iff.1 hd
  obtain ⟨⟨⟩, -, hd⟩ := Except.bind_eq_ok_iff.1 hd
  obtain ⟨⟨⟩, -, hd⟩ := Except.bind_eq_ok_iff.1 hd
  cases hd
  exact h.of_same (SameValidators.update_status _ _ _ rfl rfl)

theorem ValidatorInv.invalidate (h : r.ValidatorInv) {masternode : Address}
    (hd : r.invalidate env masternode = .ok r') : r'.ValidatorInv := by
  unfold MasternodeRegistryV2.invalidate at hd
  obtain ⟨⟨⟩, hself, hd⟩ := Except.bind_eq_ok_iff.1 hd
  obtain ⟨⟨⟩, -, hd⟩ := Except.bind_eq_ok_iff.1 hd
  obtain ⟨⟨⟩, -, hd⟩ := Except.bind_eq_ok_iff.1 hd
  obtain ⟨target, -, hd⟩ := Except.bind_eq_ok_iff.1 hd
  obtain ⟨⟨⟩, -, hd⟩ := Except.bind_eq_ok_iff.1 hd
  obtain ⟨⟨⟩, -, hd⟩ := Except.bind_eq_ok_iff.1 hd
  cases hd
  -- the caller's vote epoch, then the target's invalidations
  have hne : masternode ≠ env.caller := Ne.symm (require_eq_ok.1 hself)
  refine h.of_same ((SameValidators.update_status _ _ _ ?_ ?_).trans
    (SameValidators.update_status _ _ _ ?_ ?_))
  · rfl
  · rfl
  · simp [Function.update_of_ne hne]
  · simp [Function.update_of_ne hne]

theorem ValidatorInv.onCollateralUpdate (h : r.ValidatorInv) {owner : Address}
    (hd : r.onCollateralUpdate env owner = .ok r') : r'.ValidatorInv := by
  unfold MasternodeRegistryV2.onCollateralUpdate at hd
  obtain ⟨balance, lastBlock⟩ := env.balanceInfo owner
  dsimp only at hd
  split_ifs at hd with h0 hissue hmin
  · cases hd
    exact h
  · -- re-announced by its owner, who is not the zero address as it has a masternode
    obtain ⟨a, ha, rfl⟩ := MasternodeRegistryV2.onPart_eq_ok.1 hd
    have howner : owner ≠ 0 := by
      rintro rfl
      exact h0 h.ownerZero
    exact h.announceInternal howner hmin ha
  · obtain ⟨a, ha, rfl⟩ := MasternodeRegistryV2.onPart_eq_ok.1 hd
    exact h.denounceInternal ha
  · cases hd
    exact h

theorem ValidatorInv.rewardPenalty (h : r.ValidatorInv) {masternode : Address}
    {status : ValidationStatus}
    (hd : r.rewardPenalty env masternode (r.v1storage.masternodes masternode) status = .ok r') :
    r'.ValidatorInv := by
  unfold MasternodeRegistryV2.rewardPenalty at hd
  dsimp only at hd
  split_ifs at hd with hissue hpos hclean
  · obtain ⟨a, ha, rfl⟩ := MasternodeRegistryV2.onPart_eq_ok.1 hd
    exact h.denounceInternal ha
  · -- deactivated, and the turn passes on
    obtain ⟨r₁, hr₁, hd⟩ := Except.bind_eq_ok_iff.1 hd
    obtain ⟨a, ha, rfl⟩ := MasternodeRegistryV2.onPart_eq_ok.1 hr₁
    cases hd
    exact (h.deactivate hpos env.timestamp ha).of_same (.of_fields rfl rfl rfl rfl rfl)
  · obtain ⟨a, ha, rfl⟩ := MasternodeRegistryV2.onPart_eq_ok.1 hd
    exact h.denounceInternal ha
  · cases hd
    exact h

theorem ValidatorInv.rewardLogic (h : r.ValidatorInv) {masternode : Address}
    {invalidations rewardPart : Uint} {paid : Bool}
    (hd : r.rewardLogic env masternode (r.v1storage.masternodes masternode) invalidations
      rewardPart = .ok (paid, r')) : r'.ValidatorInv := by
  unfold MasternodeRegistryV2.rewardLogic at hd
  dsimp only at hd
  split_ifs at hd
  · cases hd
    exact h
  · -- paid: only the balance changes
    cases hd
    exact h
  · obtain ⟨r₁, hr₁, hd⟩ := Except.bind_eq_ok_iff.1 hd
    cases hd
    exact h.rewardPenalty hr₁
  · obtain ⟨r₁, hr₁, hd⟩ := Except.bind_eq_ok_iff.1 hd
    cases hd
    exact h.rewardPenalty hr₁

theorem ValidatorInv.rewardStep (h : r.ValidatorInv) {rewardPart : Uint} {paid : Bool}
    (hd : r.rewardStep env rewardPart = .ok (paid, r')) : r'.ValidatorInv := by
  unfold MasternodeRegistryV2.rewardStep at hd
  dsimp only at hd
  split_ifs at hd
  · cases hd
    exact h
  · -- the `Info` read before the first part is the one after it
    rw [← r.rewardAdvance_v1storage] at hd
    exact (h.of_same (SameValidators.rewardAdvance r)).rewardLogic hd

theorem ValidatorInv.reward (h : r.ValidatorInv) (hd : r.reward env = .ok r') :
    r'.ValidatorInv :=
  MasternodeRegistryV2.reward_invariant (fun h₁ hs => ValidatorInv.rewardStep h₁ hs) h hd

/-- Every call from a sender other than the zero address keeps the invariant. -/
theorem ValidatorInv.exec (h : r.ValidatorInv) (hcaller : env.caller ≠ 0) {call : RegistryCall}
    (hd : r.exec env call = .ok r') : r'.ValidatorInv := by
  cases call with
  | reward => exact h.reward hd
  | announce masternode ipv4address enode =>
    obtain ⟨⟨⟩, -, hd⟩ := Except.bind_eq_ok_iff.1 hd
    obtain ⟨a, ha, rfl⟩ := MasternodeRegistryV2.onPart_eq_ok.1 hd
    obtain ⟨⟨⟩, hbalance, ha⟩ := Except.bind_eq_ok_iff.1 ha
    exact h.announceInternal hcaller (require_eq_ok.1 hbalance) ha
  | denounce masternode =>
    obtain ⟨⟨⟩, -, hd⟩ := Except.bind_eq_ok_iff.1 hd
    obtain ⟨a, ha, rfl⟩ := MasternodeRegistryV2.onPart_eq_ok.1 hd
    exact h.denounceInternal ha
  | heartbeat blockNumber blockHash swFeatures =>
    obtain ⟨⟨⟩, -, hd⟩ := Except.bind_eq_ok_iff.1 hd
    exact h.heartbeat hd
  | invalidate masternode =>
    obtain ⟨⟨⟩, -, hd⟩ := Except.bind_eq_ok_iff.1 hd
    exact h.invalidate hd
  | onCollateralUpdate owner =>
    obtain ⟨⟨⟩, -, hd⟩ := Except.bind_eq_ok_iff.1 hd
    exact h.onCollateralUpdate hd

theorem ValidatorInv.commit (h : r.ValidatorInv) (hcaller : env.caller ≠ 0)
    (call : RegistryCall) : (r.commit env call).ValidatorInv := by
  unfold MasternodeRegistryV2.commit
  split
  · exact h.exec hcaller ‹_›
  · exact h

theorem validatorInv_new {config : RegistryConfig} (hnew : MasternodeRegistryV2.new config env = .ok r) :
    r.ValidatorInv := by
  unfold MasternodeRegistryV2.new at hnew
  obtain ⟨⟨⟩, -, hnew⟩ := Except.bind_eq_ok_iff.1 hnew
  obtain ⟨⟨⟩, -, hnew⟩ := Except.bind_eq_ok_iff.1 hnew
  rw [MasternodeRegistryV2.processValidationEpoch_ok _ _ hnew]
  exact validatorInv_init _

end MasternodeRegistry

/-! ### What the invariant gives -/

namespace MasternodeRegistry.ValidatorInv

variable {r : MasternodeRegistry} (h : r.ValidatorInv)
include h

theorem toNat_length : (BitVec.ofNat 256 r.validatorList.length).toNat = r.validatorList.length :=
  Nat.mod_eq_of_lt (length_lt_of_nodup h.indexed.nodup)

/-- The list holds exactly the announced masternodes with sequential payouts left. -/
theorem mem_iff_announced (m : Address) :
    m ∈ r.validatorList ↔ (r.v1storage.masternodes m).owner ≠ 0 ∧ (r.mnStatus m).seqPayouts > 0 := by
  rw [h.mem_iff]
  constructor
  · intro hm
    exact ⟨h.announced m hm, (BitVec.pos_iff_ne_zero _).2 hm⟩
  · rintro ⟨-, hpos⟩
    exact (BitVec.pos_iff_ne_zero _).1 hpos

/-- Each validator records its position. -/
theorem validatorIndex_getElem (i : ℕ) (hi : i < r.validatorList.length) :
    (r.mnStatus r.validatorList[i]).validatorIndex = BitVec.ofNat 256 i := by
  apply BitVec.eq_of_toNat_eq
  rw [BitVec.toNat_ofNat, Nat.mod_eq_of_lt (hi.trans (length_lt_of_nodup h.indexed.nodup))]
  exact h.indexed.index i hi

/-- `_deactive_common` of a masternode with payouts left finds a last validator and its own
position in range, whatever collateral it is given. -/
theorem deactiveCommon_ok {m : Address} (hpos : (r.mnStatus m).seqPayouts > 0) :
    r.validatorList ≠ [] ∧ ∀ c, ∃ r', r.deactiveCommon m c = .ok r' := by
  have hm : m ∈ r.validatorList := (h.mem_iff m).2 ((BitVec.pos_iff_ne_zero _).1 hpos)
  obtain ⟨x, hlast⟩ : ∃ x, r.validatorList.getLast? = some x :=
    Option.isSome_iff_exists.1 (List.getLast?_isSome.2 (List.ne_nil_of_mem hm))
  exact ⟨List.ne_nil_of_mem hm, fun c => ⟨_, deactiveCommon_eq c h.indexed hm hlast⟩⟩

end MasternodeRegistry.ValidatorInv

namespace MasternodeRegistryV2

variable {r : MasternodeRegistryV2}

/-- `enumerateActive` returns the whole list. -/
theorem enumerateActive_eq (h : r.ValidatorInv) : r.enumerateActive = .ok r.validatorList := by
  unfold enumerateActive
  rw [h.active, h.toNat_length, if_neg (Nat.lt_irrefl _), List.take_length]

/-- `validationTarget` of any masternode, with validators around, is one of them. -/
theorem validationTarget_mem (h : r.ValidatorInv) (m : Address) (hlen : 0 < r.validatorList.length) :
    ∃ t, r.validationTarget m = .ok t ∧ t ∈ r.validatorList := by
  have htotal := h.toNat_length
  have hne : BitVec.ofNat 256 r.validatorList.length ≠ 0 := by
    intro h0
    rw [h0] at htotal
    simp at htotal
    omega
  unfold validationTarget
  simp only [hne, if_false, bind, Except.bind, pure, Except.pure]
  -- the index is taken modulo the length
  have hidx : ∀ x : Uint, (x % BitVec.ofNat 256 r.validatorList.length).toNat <
      r.validatorList.length := fun x => by
    rw [BitVec.toNat_umod, htotal]
    exact Nat.mod_lt _ hlen
  rw [List.getElem?_eq_getElem (hidx _)]
  exact ⟨_, rfl, List.getElem_mem _⟩

/-- Every run of calls from senders other than the zero address keeps the invariant. -/
theorem validatorInv_runCalls (h : r.ValidatorInv) (calls : List (RegistryEnv × RegistryCall))
    (hcallers : ∀ c ∈ calls, c.1.caller ≠ 0) : (r.runCalls calls).ValidatorInv :=
  StateMachine.run_invariant_of_mem _ (fun r : MasternodeRegistryV2 => r.ValidatorInv) h
    fun _ c hc hr => hr.commit (hcallers c hc) c.2

/-- The validator list of `MasternodeRegistryV2` after the constructor and any sequence of calls
by senders other than the zero address: it has no duplicates, holds exactly the announced
masternodes with sequential payouts left, each at the position its status records, `mn_active`
is its length and `mn_active_collateral` the sum of the stored collateral over it. So
`enumerateActive` returns it, `_deactive_common` of a masternode with payouts left (as
`_denounce` and `_reward` call it) has a last validator to move and reads its position in range,
and `validationTarget` of an active masternode among two or more validators is a validator. -/
theorem validator_list_invariant {config : RegistryConfig} {env₀ : RegistryEnv}
    {r₀ : MasternodeRegistryV2} (hnew : new config env₀ = .ok r₀)
    (calls : List (RegistryEnv × RegistryCall)) (hcallers : ∀ c ∈ calls, c.1.caller ≠ 0) :
    let r := r₀.runCalls calls
    r.validatorList.Nodup ∧
      (∀ m, m ∈ r.validatorList ↔
        (r.v1storage.masternodes m).owner ≠ 0 ∧ (r.mnStatus m).seqPayouts > 0) ∧
      (∀ i (hi : i < r.validatorList.length),
        (r.mnStatus r.validatorList[i]).validatorIndex = BitVec.ofNat 256 i) ∧
      r.mnActive = BitVec.ofNat 256 r.validatorList.length ∧
      r.mnActiveCollateral =
        (r.validatorList.map fun m => (r.v1storage.masternodes m).collateral).sum ∧
      r.enumerateActive = .ok r.validatorList ∧
      (∀ m, (r.mnStatus m).seqPayouts > 0 →
        r.validatorList ≠ [] ∧ ∀ c, ∃ r', r.deactiveCommon m c = .ok r') ∧
      (∀ (env : RegistryEnv) m, r.isActive env m = true → 2 ≤ r.validatorList.length →
        ∃ t, r.validationTarget m = .ok t ∧ t ∈ r.validatorList) := by
  intro r
  have h : r.ValidatorInv := validatorInv_runCalls (MasternodeRegistry.validatorInv_new hnew)
    calls hcallers
  exact ⟨h.indexed.nodup, h.mem_iff_announced, h.validatorIndex_getElem, h.active,
    h.activeCollateral, enumerateActive_eq h, fun m hpos => h.deactiveCommon_ok hpos,
    fun _ m _ hlen => validationTarget_mem h m (by omega)⟩

/-- A registry deployed with three validation periods, after one announcement: its active
masternodes are the list. -/
theorem validator_list_invariant_announced :
    let env : RegistryEnv :=
      { caller := 0xA11CE#160, blockNumber := 100, timestamp := 1000, msgValue := 0
        balanceInfo := fun _ => (mnCollateralV2Min, 0), blockhash := fun _ => 0, gas := 0
        accepts := fun _ => true, treasuryReward := fun _ => .ok () }
    ∃ r₀, new ⟨5, 3, 86400, mnCollateralV2Min, 1⟩ env = .ok r₀ ∧
      let r := r₀.runCalls [(env, .announce 0xBEEF#160 0x01020304 (0, 0))]
      r.enumerateActive = .ok r.validatorList := by
  intro env
  obtain ⟨-, -, -, -, -, henum, -⟩ :=
    @validator_list_invariant ⟨5, 3, 86400, mnCollateralV2Min, 1⟩ env _ rfl
      [(env, .announce 0xBEEF#160 0x01020304 (0, 0))] (by simp [env])
  exact ⟨_, rfl, henum⟩

end MasternodeRegistryV2

end RangeCore.Governance
