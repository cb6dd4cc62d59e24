import RangeCore.Governance.ValidatorList
import RangeCore.Lib.LinkedRing

/-!
# The ring of masternodes and the payout turn

`_reward` pays the masternodes around the ring of `StorageMasternodeRegistryV1`, following the
`next` links from `current_masternode`, each one `seq_payouts` times in a row counted in
`current_payouts`. `PayoutInv r L` is what makes that walk the intended one: the links make a ring
(`LinkedRing.IsRing`) whose list `L` holds exactly the announced masternodes and starts at the
current masternode, the zero address standing for none and never announced itself; the current
masternode has had fewer payouts in its turn than its sequential payouts, unless none is counted;
and an announced masternode with payouts left has one per `MN_COLLATERAL_V2_MIN` of its
collateral.

`_announce_insert` puts a masternode after the last one of the list, `_denounce` unlinks one and
moves the turn on if it was the current one, and the first part of `_reward` passes the turn to
the successor. Every call keeps the invariant, from the constructor on, as long as no call comes
from the zero address and none announces the zero address as a masternode, which `announce` does
not reject (`MasternodeRegistry.announce_zero_masternode`).

## Main definitions

* `RangeCore.Governance.MasternodeRegistry.nextOf`, `prevOf`: the links of the storage.
* `RangeCore.Governance.MasternodeRegistry.PayoutInv`.

## Main results

* `RangeCore.Governance.MasternodeRegistry.PayoutInv.denounceInternal`: `_denounce` takes the
  masternode off the list.
* `RangeCore.Governance.MasternodeRegistry.PayoutInv.announceInternal`: `_announce` appends it.
* `RangeCore.Governance.MasternodeRegistry.PayoutInv.rewardAdvance`: the turn passes on along the
  ring.
* `RangeCore.Governance.MasternodeRegistry.PayoutInv.exec`,
  `RangeCore.Governance.MasternodeRegistryV2.payoutInv_runCalls`: every call keeps it.
-/

namespace RangeCore.Governance

namespace MnStorage

@[simp] theorem setMasternodePos_next (st : MnStorage) (m : Address) (setPrev : Bool)
    (prev : Address) (setNext : Bool) (next x : Address) :
    ((st.setMasternodePos m setPrev prev setNext next).masternodes x).next =
      if x = m ∧ setNext = true then next else (st.masternodes x).next := by
  unfold setMasternodePos
  by_cases hx : x = m
  · subst hx
    cases setPrev <;> cases setNext <;> simp
  · simp [hx]

@[simp] theorem setMasternodePos_prev (st : MnStorage) (m : Address) (setPrev : Bool)
    (prev : Address) (setNext : Bool) (next x : Address) :
    ((st.setMasternodePos m setPrev prev setNext next).masternodes x).prev =
      if x = m ∧ setPrev = true then prev else (st.masternodes x).prev := by
  unfold setMasternodePos
  by_cases hx : x = m
  · subst hx
    cases setPrev <;> cases setNext <;> simp
  · simp [hx]

@[simp] theorem deleteMasternode_masternodes (st : MnStorage) (m : Address) :
    (st.deleteMasternode m).masternodes = Function.update st.masternodes m MnInfo.zero := rfl

end MnStorage

namespace MasternodeRegistry

/-- The successor link of a slot of the storage. -/
def nextOf (r : MasternodeRegistry) (m : Address) : Address := (r.v1storage.masternodes m).next

/-- The predecessor link of a slot of the storage. -/
def prevOf (r : MasternodeRegistry) (m : Address) : Address := (r.v1storage.masternodes m).prev

/-- The invariant of the payout walk, with `L` the ring listed from the current masternode. -/
structure PayoutInv (r : MasternodeRegistry) (L : List Address) : Prop where
  ring : LinkedRing.IsRing r.nextOf r.prevOf L
  mem_iff : ∀ m, m ∈ L ↔ (r.v1storage.masternodes m).owner ≠ 0
  current : r.currentMasternode = L.headD 0
  zeroFree : (r.v1storage.masternodes 0).owner = 0
  payouts : r.currentMasternode ≠ 0 →
    r.currentPayouts = 0 ∨ r.currentPayouts < (r.mnStatus r.currentMasternode).seqPayouts
  seqPayouts : ∀ m ∈ L, (r.mnStatus m).seqPayouts = 0 ∨
    (r.mnStatus m).seqPayouts = (r.v1storage.masternodes m).collateral / mnCollateralV2Min

/-- `_deactive_common` changes the validator list and the active counters only. -/
theorem deactiveCommon_frame {r r' : MasternodeRegistry} {m : Address} {c : Uint}
    (hd : r.deactiveCommon m c = .ok r') :
    r'.v1storage = r.v1storage ∧ r'.currentMasternode = r.currentMasternode ∧
      r'.currentPayouts = r.currentPayouts ∧
      ∀ y, (r'.mnStatus y).seqPayouts = (r.mnStatus y).seqPayouts := by
  unfold deactiveCommon at hd
  cases hlast : r.validatorList.getLast? with
  | none => simp [hlast] at hd
  | some x =>
    simp only [hlast] at hd
    obtain ⟨-, hd⟩ := Except.ite_throw_bind_eq_ok_iff.1 hd
    cases hd
    refine ⟨rfl, rfl, rfl, fun y => ?_⟩
    by_cases hy : y = x
    · subst hy
      simp
    · simp [Function.update_of_ne hy]

/-- The end of `_denounce`, after the unlinking: the announced collateral, the deactivation if
payouts are left, and the clearing of the status and the slot. -/
theorem denounce_tail {r₁ r' : MasternodeRegistry} {m : Address} {c : Uint}
    (hd : (do
      let r : MasternodeRegistry :=
        { r₁ with mnAnnouncedCollateral := r₁.mnAnnouncedCollateral - c }
      let r : MasternodeRegistry ←
        if (r.mnStatus m).seqPayouts > 0 then r.deactiveCommon m c else pure r
      pure
        { r with
          mnStatus := Function.update r.mnStatus m MnStatus.zero
          v1storage := r.v1storage.deleteMasternode m
          mnAnnounced := r.mnAnnounced - 1 } : Except Revert MasternodeRegistry) = .ok r') :
    r'.v1storage.masternodes = Function.update r₁.v1storage.masternodes m MnInfo.zero ∧
      r'.currentMasternode = r₁.currentMasternode ∧ r'.currentPayouts = r₁.currentPayouts ∧
      ∀ x, x ≠ m → (r'.mnStatus x).seqPayouts = (r₁.mnStatus x).seqPayouts := by
  dsimp only at hd
  obtain ⟨r₂, h₂, hd⟩ := Except.ite_bind_eq_ok_iff.1 hd
  obtain ⟨hst, hcur, hpay, hseq⟩ : r₂.v1storage = r₁.v1storage ∧
      r₂.currentMasternode = r₁.currentMasternode ∧ r₂.currentPayouts = r₁.currentPayouts ∧
      ∀ y, (r₂.mnStatus y).seqPayouts = (r₁.mnStatus y).seqPayouts := by
    split at h₂
    · have hframe := deactiveCommon_frame h₂
      exact hframe
    · cases h₂
      exact ⟨rfl, rfl, rfl, fun _ => rfl⟩
  cases hd
  refine ⟨by simp [hst], hcur, hpay, fun x hx => ?_⟩
  simp [Function.update_of_ne hx, hseq]

/-- What a successful `_denounce` of an announced masternode does to what the invariant reads:
its slot is cleared, its neighbours are linked to each other unless it was alone, the turn moves
to its successor if it was the current one (to none if it was alone), and the others keep their
sequential payouts. -/
theorem denounceInternal_links {r r' : MasternodeRegistry} {m o : Address}
    (hm : (r.v1storage.masternodes m).owner ≠ 0) (hd : r.denounceInternal m o = .ok r') :
    (∀ x, x ≠ m →
      (r'.v1storage.masternodes x).owner = (r.v1storage.masternodes x).owner ∧
      (r'.v1storage.masternodes x).collateral = (r.v1storage.masternodes x).collateral ∧
      r'.nextOf x = (if r.nextOf m ≠ m ∧ x = r.prevOf m then r.nextOf m else r.nextOf x) ∧
      r'.prevOf x = (if r.nextOf m ≠ m ∧ x = r.nextOf m then r.prevOf m else r.prevOf x)) ∧
    r'.v1storage.masternodes m = MnInfo.zero ∧
    r'.currentMasternode =
      (if r.nextOf m = m then 0
      else if r.currentMasternode = m then r.nextOf m else r.currentMasternode) ∧
    r'.currentPayouts =
      (if r.nextOf m ≠ m ∧ r.currentMasternode = m then 0 else r.currentPayouts) ∧
    ∀ x, x ≠ m → (r'.mnStatus x).seqPayouts = (r.mnStatus x).seqPayouts := by
  unfold denounceInternal at hd
  simp only [hm, if_false] at hd
  obtain ⟨⟨⟩, -, hd⟩ := Except.bind_eq_ok_iff.1 hd
  obtain ⟨hst, hcur, hpay, hseq⟩ := denounce_tail hd
  simp only [nextOf, prevOf]
  refine ⟨fun x hx => ?_, by simp [hst], ?_, ?_, fun x hx => ?_⟩
  · rw [hst, Function.update_of_ne hx]
    by_cases hn : (r.v1storage.masternodes m).next = m
    · simp [hn]
    · by_cases hc : r.currentMasternode = m <;> simp [hn, hc]
  · rw [hcur]
    by_cases hn : (r.v1storage.masternodes m).next = m
    · simp [hn]
    · by_cases hc : r.currentMasternode = m <;> simp [hn, hc]
  · rw [hpay]
    by_cases hn : (r.v1storage.masternodes m).next = m
    · simp [hn]
    · by_cases hc : r.currentMasternode = m <;> simp [hn, hc]
  · rw [hseq x hx]
    by_cases hn : (r.v1storage.masternodes m).next = m
    · simp [hn]
    · by_cases hc : r.currentMasternode = m <;> simp [hn, hc]

/-- `_announce_insert` with no current masternode: the new one is the current one, its own
neighbour. -/
theorem announceInsert_of_eq_zero {r : MasternodeRegistry} {m : Address}
    (h : r.currentMasternode = 0) :
    r.announceInsert m = ({ r with currentMasternode := m, currentPayouts := 0 }, m, m) := by
  unfold announceInsert
  dsimp only
  rw [if_neg (not_not.2 h)]

/-- `_announce_insert` with a current masternode: the new one goes between its predecessor and
it. -/
theorem announceInsert_of_ne_zero {r : MasternodeRegistry} {m : Address}
    (h : r.currentMasternode ≠ 0) :
    r.announceInsert m =
      ({ r with
          v1storage :=
            (r.v1storage.setMasternodePos (r.prevOf r.currentMasternode) false 0 true m).setMasternodePos
              r.currentMasternode true m false 0 },
        r.currentMasternode, r.prevOf r.currentMasternode) := by
  unfold announceInsert
  dsimp only
  rw [if_pos h]
  rfl

variable {r r' : MasternodeRegistry} {L : List Address}

namespace PayoutInv

theorem zero_notMem (h : r.PayoutInv L) : (0 : Address) ∉ L := fun h0 =>
  (h.mem_iff 0).1 h0 h.zeroFree

/-- There is no current masternode exactly when the ring is empty. -/
theorem current_eq_zero_iff (h : r.PayoutInv L) : r.currentMasternode = 0 ↔ L = [] := by
  rw [h.current]
  cases L with
  | nil => simp
  | cons a t =>
    simp only [List.headD_cons, reduceCtorEq, iff_false]
    rintro rfl
    exact h.zero_notMem List.mem_cons_self

/-- The invariant after a change that keeps the storage and the sequential payouts of the
ring, with the current masternode still the first of it and a count of payouts that fits. -/
theorem of_storage (h : r.PayoutInv L) (hst : r'.v1storage = r.v1storage)
    (hseq : ∀ m ∈ L, (r'.mnStatus m).seqPayouts = (r.mnStatus m).seqPayouts)
    (hcur : r'.currentMasternode = L.headD 0)
    (hpay : r'.currentMasternode ≠ 0 →
      r'.currentPayouts = 0 ∨ r'.currentPayouts < (r'.mnStatus r'.currentMasternode).seqPayouts) :
    r'.PayoutInv L where
  ring := by
    have hnext : r'.nextOf = r.nextOf := funext fun m => by simp only [nextOf, hst]
    have hprev : r'.prevOf = r.prevOf := funext fun m => by simp only [prevOf, hst]
    rw [hnext, hprev]
    exact h.ring
  mem_iff m := by rw [hst]; exact h.mem_iff m
  current := hcur
  zeroFree := by rw [hst]; exact h.zeroFree
  payouts := hpay
  seqPayouts m hm := by
    rw [hseq m hm, hst]
    exact h.seqPayouts m hm

/-- The invariant reads the storage, the turn and the sequential payouts only. -/
theorem of_eq (h : r.PayoutInv L) (hst : r'.v1storage = r.v1storage)
    (hcur : r'.currentMasternode = r.currentMasternode)
    (hpay : r'.currentPayouts = r.currentPayouts)
    (hseq : ∀ m, (r'.mnStatus m).seqPayouts = (r.mnStatus m).seqPayouts) : r'.PayoutInv L :=
  h.of_storage hst (fun m _ => hseq m) (hcur.trans h.current) fun hc => by
    rw [hcur] at hc ⊢
    rw [hpay, hseq]
    exact h.payouts hc

/-- The turn passes from the current masternode `m` to its successor, with no payouts of the new
turn counted: the ring now starts at the successor. The payouts of `m` may be cleared. -/
theorem pass {m : Address} {t : List Address} (h : r.PayoutInv (m :: t))
    (hst : r'.v1storage = r.v1storage) (hcur : r'.currentMasternode = r.nextOf m)
    (hpay : r'.currentPayouts = 0)
    (hseq : ∀ x ∈ t, (r'.mnStatus x).seqPayouts = (r.mnStatus x).seqPayouts)
    (hm : (r'.mnStatus m).seqPayouts = 0 ∨ (r'.mnStatus m).seqPayouts = (r.mnStatus m).seqPayouts) :
    r'.PayoutInv (t ++ [m]) where
  ring := by
    have hnext : r'.nextOf = r.nextOf := funext fun m => by simp only [nextOf, hst]
    have hprev : r'.prevOf = r.prevOf := funext fun m => by simp only [prevOf, hst]
    rw [hnext, hprev]
    exact h.ring.rotate_one
  mem_iff x := by
    rw [hst, ← h.mem_iff]
    simp [or_comm]
  current := by
    rw [hcur, h.ring.next_head]
    cases t <;> rfl
  zeroFree := by rw [hst]; exact h.zeroFree
  payouts _ := .inl hpay
  seqPayouts x hx := by
    rw [hst]
    rcases List.mem_append.1 hx with hx | hx
    · rw [hseq x hx]
      exact h.seqPayouts x (List.mem_cons_of_mem m hx)
    · rw [List.mem_singleton.1 hx]
      rcases hm with hm | hm
      · exact .inl hm
      · rw [hm]
        exact h.seqPayouts m List.mem_cons_self

/-- The neighbours of a masternode on a ring with others are other masternodes of it. -/
theorem neighbours_mem {m : Address} {t : List Address}
    (hring : LinkedRing.IsRing r.nextOf r.prevOf (m :: t)) (ht : t ≠ []) :
    r.nextOf m ∈ t ∧ r.prevOf m ∈ t := by
  obtain ⟨b, u, rfl⟩ := List.exists_cons_of_ne_nil ht
  refine ⟨by simp [hring.next_head], ?_⟩
  rw [hring.linked_getLast.2, List.getLast_cons (List.cons_ne_nil b u)]
  exact List.getLast_mem _

/-- `_denounce` takes the masternode off the ring. -/
theorem denounceInternal (h : r.PayoutInv L) {m o : Address}
    (hd : r.denounceInternal m o = .ok r') : r'.PayoutInv (L.erase m) := by
  by_cases hm : (r.v1storage.masternodes m).owner = 0
  · -- a free slot: nothing changes
    have hr : r' = r := by
      unfold MasternodeRegistry.denounceInternal at hd
      simp only [hm, if_true] at hd
      exact (Except.ok.inj hd).symm
    subst hr
    rw [List.erase_of_not_mem fun hmL => (h.mem_iff m).1 hmL hm]
    exact h
  obtain ⟨hslot, hzero, hcur, hpay, hseq⟩ := denounceInternal_links hm hd
  obtain ⟨p, s, rfl⟩ := List.append_of_mem ((h.mem_iff m).2 hm)
  have hnd := List.nodup_middle.1 h.ring.nodup
  have hmps : m ∉ p ++ s := (List.nodup_cons.1 hnd).1
  have hne : ∀ x ∈ p ++ s, x ≠ m := fun x hx hxm => hmps (hxm ▸ hx)
  have hm0 : m ≠ 0 := fun hm0 => h.zero_notMem (hm0 ▸ List.mem_append_right p List.mem_cons_self)
  rw [List.erase_append_right _ fun hmp => hmps (List.mem_append_left s hmp), List.erase_cons_head]
  have hrot : LinkedRing.IsRing r.nextOf r.prevOf (m :: (s ++ p)) :=
    (show LinkedRing.IsRing r.nextOf r.prevOf (p ++ m :: s) from h.ring).append_comm
  have hmem : ∀ x, x ∈ p ++ s ↔ x ∈ p ++ m :: s ∧ x ≠ m := fun x => by
    constructor
    · intro hx
      exact ⟨by simp only [List.mem_append, List.mem_cons] at hx ⊢; tauto, hne x hx⟩
    · rintro ⟨hx, hxm⟩
      simp only [List.mem_append, List.mem_cons] at hx ⊢
      tauto
  -- the owners: the masternode's slot is cleared, the others are kept
  have howner : ∀ x, x ∈ p ++ s ↔ (r'.v1storage.masternodes x).owner ≠ 0 := fun x => by
    by_cases hxm : x = m
    · subst hxm
      simp [hzero, MnInfo.zero, hmps]
    · rw [(hslot x hxm).1, ← h.mem_iff, hmem]
      exact and_iff_left hxm
  have hzero' : (r'.v1storage.masternodes 0).owner = 0 := by
    rw [(hslot 0 (Ne.symm hm0)).1]
    exact h.zeroFree
  by_cases hn : r.nextOf m = m
  · -- alone on the ring: no masternode is left
    obtain ⟨rfl, rfl⟩ := List.append_eq_nil_iff.1 (hrot.eq_singleton_of_next_eq hn)
    refine ⟨LinkedRing.isRing_nil, howner, by simp [hcur, hn], hzero', ?_, by simp⟩
    intro hc
    simp [hcur, hn] at hc
  have hsp : s ++ p ≠ [] := fun hsp => hn (LinkedRing.isRing_singleton.1 (hsp ▸ hrot)).1
  obtain ⟨hnext, hprev⟩ := neighbours_mem hrot hsp
  have hnm : r.nextOf m ≠ m := hn
  have hpm : r.prevOf m ≠ m := fun hpm => hmps (by simpa [hpm, or_comm] using hprev)
  refine ⟨?ring, howner, ?current, hzero', ?payouts, ?seq⟩
  case ring =>
    have hps : p ++ s ≠ [] := fun hps => hsp (by
      obtain ⟨hp, hs⟩ := List.append_eq_nil_iff.1 hps
      simp [hp, hs])
    refine h.ring.erase hps (fun x hx hxp => ?_) (fun x hx hxn => ?_) ⟨?_, ?_⟩
    · simp [(hslot x (hne x hx)).2.2.1, hxp]
    · simp [(hslot x (hne x hx)).2.2.2, hxn]
    · simp [(hslot _ hpm).2.2.1, hn]
    · simp [(hslot _ hnm).2.2.2, hn]
  case current =>
    rw [hcur, if_neg hn]
    split_ifs with hc
    · -- the current masternode leaves: the turn goes to its successor, the first of the rest
      obtain rfl : p = [] := by
        cases p with
        | nil => rfl
        | cons a p =>
          have : a = m := by simpa [hc] using h.current.symm
          exact absurd (this ▸ List.mem_append_left s List.mem_cons_self) hmps
      obtain ⟨b, u, rfl⟩ := List.exists_cons_of_ne_nil (by simpa using hsp)
      simpa using hrot.next_head
    · rw [h.current]
      cases p with
      | nil => exact absurd (by simpa using h.current) hc
      | cons a p => rfl
  case payouts =>
    intro hc'
    rw [hpay]
    by_cases hc : r.currentMasternode = m
    · exact .inl (if_pos ⟨hn, hc⟩)
    · rw [if_neg fun h' => hc h'.2, hcur, if_neg hn, if_neg hc, hseq _ hc]
      exact h.payouts (by simpa [hcur, hn, hc] using hc')
  case seq =>
    intro x hx
    rw [hseq x (hne x hx), (hslot x (hne x hx)).2.1]
    exact h.seqPayouts x ((hmem x).1 hx).1

/-- `_announce` of a masternode other than the zero address by an owner other than it: after the
owner's old masternode is denounced, the new one is appended to the ring, with no payouts of its
turn counted if it becomes the current one. -/
theorem announceInternal (h : r.PayoutInv L) {env : CallEnv} {masternode owner : Address}
    {balance : Uint} {ipv4address : UInt32} {enode : Hash × Hash} (hm0 : masternode ≠ 0)
    (howner : owner ≠ 0)
    (hd : r.announceInternal env masternode owner balance ipv4address enode = .ok r') :
    ∃ L', r'.PayoutInv L' := by
  obtain ⟨r₁, st, hden, hfree, -, hst, rfl⟩ := announceInternal_ok hd
  obtain ⟨L₁, h₁⟩ : ∃ L₁, r₁.PayoutInv L₁ := by
    rcases hden with rfl | hden
    · exact ⟨L, h⟩
    · exact ⟨_, h.denounceInternal hden⟩
  have hmL : masternode ∉ L₁ := fun hm => (h₁.mem_iff _).1 hm hfree
  have hsame := SameValidators.announceInsert r₁ masternode
  obtain ⟨hslots, -⟩ := MnStorage.setMasternode_ok hst
  refine ⟨L₁ ++ [masternode], ?_⟩
  -- the slot, the owner, the collateral and the payouts of the new masternode are written
  have hfield : ∀ x, x ≠ masternode → st.masternodes x =
      (r₁.announceInsert masternode).1.v1storage.masternodes x := fun x hx => by
    rw [hslots, Function.update_of_ne hx]
  have hmem : ∀ x, x ∈ L₁ ++ [masternode] ↔ (st.masternodes x).owner ≠ 0 := fun x => by
    by_cases hx : x = masternode
    · subst hx
      simpa [hslots] using howner
    · rw [hfield x hx, hsame.owner, ← h₁.mem_iff]
      simp [hx]
  have hzero : (st.masternodes 0).owner = 0 := by
    rw [hfield 0 (Ne.symm hm0), hsame.owner]
    exact h₁.zeroFree
  have hseq : ∀ x ∈ L₁ ++ [masternode],
      (Function.update (r₁.announceInsert masternode).1.mnStatus masternode
        { (r₁.announceInsert masternode).1.mnStatus masternode with
          nextHeartbeat := env.timestamp, seqPayouts := balance / mnCollateralV2Min,
          validatorIndex :=
            BitVec.ofNat 256 (r₁.announceInsert masternode).1.validatorList.length } x).seqPayouts = 0 ∨
      (Function.update (r₁.announceInsert masternode).1.mnStatus masternode
        { (r₁.announceInsert masternode).1.mnStatus masternode with
          nextHeartbeat := env.timestamp, seqPayouts := balance / mnCollateralV2Min,
          validatorIndex :=
            BitVec.ofNat 256 (r₁.announceInsert masternode).1.validatorList.length } x).seqPayouts =
        (st.masternodes x).collateral / mnCollateralV2Min := fun x hx => by
    by_cases hxm : x = masternode
    · subst hxm
      simp [hslots]
    · have hxL : x ∈ L₁ := by simpa [hxm] using hx
      rw [Function.update_of_ne hxm, hsame.seq, hfield x hxm]
      have hcoll := hsame.collateral x
      simp only [collateralOf] at hcoll
      rw [hcoll]
      exact h₁.seqPayouts x hxL
  cases L₁ with
  | nil =>
    -- the ring was empty: the masternode is the current one and its own neighbour
    have hins := @announceInsert_of_eq_zero r₁ masternode (by simpa using h₁.current)
    refine ⟨?_, hmem, ?_, hzero, ?_, hseq⟩
    · rw [List.nil_append, LinkedRing.isRing_singleton]
      simp [nextOf, prevOf, hslots, hins]
    · show (r₁.announceInsert masternode).1.currentMasternode = _
      rw [hins]
      rfl
    · intro _
      show (r₁.announceInsert masternode).1.currentPayouts = 0 ∨ _
      rw [hins]
      exact .inl rfl
  | cons c t =>
    -- the masternode goes between the last one and the current one `c`
    have hc : r₁.currentMasternode = c := by simpa using h₁.current
    have hc0 : c ≠ 0 := fun hc0 => h₁.zero_notMem (hc0 ▸ List.mem_cons_self)
    have hins := @announceInsert_of_ne_zero r₁ masternode (hc ▸ hc0)
    rw [hc] at hins
    have hlast := h₁.ring.linked_getLast
    have hcm : c ≠ masternode := fun h' => hmL (h' ▸ List.mem_cons_self)
    have hlm : (c :: t).getLast (List.cons_ne_nil c t) ≠ masternode := fun h' =>
      hmL (h' ▸ List.getLast_mem _)
    refine ⟨?_, hmem, ?_, hzero, ?_, hseq⟩
    · refine h₁.ring.insert hmL (fun x hx hxl => ?_) (fun x hx hxc => ?_) ⟨?_, ?_⟩ ⟨?_, ?_⟩
      · have hxm : x ≠ masternode := fun h' => hmL (h' ▸ hx)
        have hxp : x ≠ r₁.prevOf c := hlast.2 ▸ hxl
        simp [nextOf, hslots, hins, Function.update_of_ne hxm, hxp]
      · have hxm : x ≠ masternode := fun h' => hmL (h' ▸ hx)
        simp [prevOf, hslots, hins, Function.update_of_ne hxm, hxc]
      · rw [← hlast.2]
        simp [nextOf, hslots, hins, Function.update_of_ne (hlast.2 ▸ hlm)]
      · simp [prevOf, hslots, hins, ← hlast.2]
      · simp [nextOf, hslots, hins]
      · simp [prevOf, hslots, hins, Function.update_of_ne hcm]
    · show (r₁.announceInsert masternode).1.currentMasternode = _
      rw [hins]
      rfl
    · intro _
      dsimp only
      rw [hins]
      dsimp only
      rw [Function.update_of_ne hcm, ← hc]
      exact h₁.payouts (hc ▸ hc0)

theorem payoutInv_init (initialEverCollateral : Uint) :
    (init initialEverCollateral).PayoutInv [] where
  ring := LinkedRing.isRing_nil
  mem_iff m := by simp [init, MnStorage.empty, MnInfo.zero]
  current := rfl
  zeroFree := rfl
  payouts hc := absurd rfl hc
  seqPayouts m hm := absurd hm List.not_mem_nil

end PayoutInv

/-! ### The calls of the whole registry -/

section Calls

variable {r r' : MasternodeRegistryV2} {env : RegistryEnv} {L : List Address}

@[simp] theorem rewardAdvance_seqPayouts (r : MasternodeRegistryV2) (x : Address) :
    (r.rewardAdvance.mnStatus x).seqPayouts = (r.mnStatus x).seqPayouts := by
  unfold MasternodeRegistryV2.rewardAdvance
  dsimp only
  split
  · rfl
  · by_cases hx : x = r.currentMasternode
    · subst hx
      simp
    · simp [Function.update_of_ne hx]

/-- The first part of `_reward`: one more payout in the current masternode's turn, or, after its
last one, the turn passes to its successor and the ring starts there. -/
theorem PayoutInv.rewardAdvance {m : Address} {t : List Address} (h : r.PayoutInv (m :: t)) :
    r.rewardAdvance.PayoutInv
      (if r.currentPayouts + 1 < (r.mnStatus m).seqPayouts then m :: t else t ++ [m]) := by
  have hc : r.currentMasternode = m := h.current
  unfold MasternodeRegistryV2.rewardAdvance
  dsimp only
  rw [hc]
  split_ifs with hlt
  · exact h.of_storage rfl (fun _ _ => rfl) rfl fun _ => .inr hlt
  · refine h.pass rfl rfl rfl (fun x hx => ?_) (.inr (by simp))
    have hxm : x ≠ m := fun hxm => (List.nodup_cons.1 h.ring.nodup).1 (hxm ▸ hx)
    simp [Function.update_of_ne hxm]

/-- "When not valid" in `_reward`, after the first part, for the masternode `m` it visited: a
denouncement takes it off the ring, and a deactivation passes the turn to its successor. -/
theorem PayoutInv.rewardPenalty {m : Address} {t : List Address} (h : r.PayoutInv (m :: t))
    {status : ValidationStatus}
    (hd : r.rewardAdvance.rewardPenalty env m (r.v1storage.masternodes m) status = .ok r') :
    ∃ L', r'.PayoutInv L' := by
  have hadv := h.rewardAdvance
  unfold MasternodeRegistryV2.rewardPenalty at hd
  dsimp only at hd
  split_ifs at hd with hissue hpos hclean
  · obtain ⟨a, ha, rfl⟩ := MasternodeRegistryV2.onPart_eq_ok.1 hd
    exact ⟨_, hadv.denounceInternal ha⟩
  · obtain ⟨r₁, hr₁, hd⟩ := Except.bind_eq_ok_iff.1 hd
    obtain ⟨a, ha, rfl⟩ := MasternodeRegistryV2.onPart_eq_ok.1 hr₁
    cases hd
    obtain ⟨hst, -, -, hseq⟩ := deactiveCommon_frame ha
    refine ⟨t ++ [m], h.pass (by simpa using hst) rfl rfl (fun x hx => ?_) (.inl (by simp [hseq]))⟩
    have hxm : x ≠ m := fun hxm => (List.nodup_cons.1 h.ring.nodup).1 (hxm ▸ hx)
    simp [hseq, Function.update_of_ne hxm]
  · obtain ⟨a, ha, rfl⟩ := MasternodeRegistryV2.onPart_eq_ok.1 hd
    exact ⟨_, hadv.denounceInternal ha⟩
  · cases hd
    exact ⟨_, hadv⟩

theorem PayoutInv.rewardLogic {m : Address} {t : List Address} (h : r.PayoutInv (m :: t))
    {invalidations rewardPart : Uint} {paid : Bool}
    (hd : r.rewardAdvance.rewardLogic env m (r.v1storage.masternodes m) invalidations rewardPart =
      .ok (paid, r')) : ∃ L', r'.PayoutInv L' := by
  have hadv := h.rewardAdvance
  unfold MasternodeRegistryV2.rewardLogic at hd
  dsimp only at hd
  split_ifs at hd
  · cases hd
    exact ⟨_, hadv⟩
  · -- paid: only the balance changes
    cases hd
    exact ⟨_, hadv⟩
  · obtain ⟨r₁, hr₁, hd⟩ := Except.bind_eq_ok_iff.1 hd
    cases hd
    exact h.rewardPenalty hr₁
  · obtain ⟨r₁, hr₁, hd⟩ := Except.bind_eq_ok_iff.1 hd
    cases hd
    exact h.rewardPenalty hr₁

theorem PayoutInv.rewardStep (h : r.PayoutInv L) {rewardPart : Uint} {paid : Bool}
    (hd : r.rewardStep env rewardPart = .ok (paid, r')) : ∃ L', r'.PayoutInv L' := by
  unfold MasternodeRegistryV2.rewardStep at hd
  dsimp only at hd
  split_ifs at hd with hc
  · cases hd
    exact ⟨L, h⟩
  · cases L with
    | nil => exact absurd (h.current_eq_zero_iff.2 rfl) hc
    | cons m t =>
      rw [show r.currentMasternode = m from h.current] at hd
      exact h.rewardLogic hd

theorem PayoutInv.reward (h : r.PayoutInv L) (hd : r.reward env = .ok r') :
    ∃ L', r'.PayoutInv L' :=
  @MasternodeRegistryV2.reward_invariant env (fun a => ∃ L, a.PayoutInv L)
    (fun ⟨_, h₁⟩ hs => h₁.rewardStep hs) r r' ⟨L, h⟩ hd

theorem PayoutInv.heartbeat (h : r.PayoutInv L) {blockNumber : Uint} {blockHash : Hash}
    {swFeatures : Uint} (hd : r.heartbeat env blockNumber blockHash swFeatures = .ok r') :
    r'.PayoutInv L := by
  unfold MasternodeRegistryV2.heartbeat at hd
  obtain ⟨⟨⟩, -, hd⟩ := Except.bind_eq_ok_iff.1 hd
  obtain ⟨⟨⟩, -, hd⟩ := Except.bind_eq_ok_iff.1 hd
  obtain ⟨⟨⟩, -, hd⟩ := Except.bind_eq_ok_iff.1 hd
  obtain ⟨⟨⟩, -, hd⟩ := Except.bind_eq_ok_iff.1 hd
  cases hd
  refine h.of_eq rfl rfl rfl fun x => ?_
  by_cases hx : x = env.caller
  · subst hx
    simp
  · simp [Function.update_of_ne hx]

theorem PayoutInv.invalidate (h : r.PayoutInv L) {masternode : Address}
    (hd : r.invalidate env masternode = .ok r') : r'.PayoutInv L := by
  unfold MasternodeRegistryV2.invalidate at hd
  obtain ⟨⟨⟩, -, hd⟩ := Except.bind_eq_ok_iff.1 hd
  obtain ⟨⟨⟩, -, hd⟩ := Except.bind_eq_ok_iff.1 hd
  obtain ⟨⟨⟩, -, hd⟩ := Except.bind_eq_ok_iff.1 hd
  obtain ⟨target, -, hd⟩ := Except.bind_eq_ok_iff.1 hd
  obtain ⟨⟨⟩, -, hd⟩ := Except.bind_eq_ok_iff.1 hd
  obtain ⟨⟨⟩, -, hd⟩ := Except.bind_eq_ok_iff.1 hd
  cases hd
  -- a vote epoch and an invalidation are written
  refine h.of_eq rfl rfl rfl fun x => ?_
  simp only [Function.update_apply]
  split_ifs <;> simp_all

theorem PayoutInv.onCollateralUpdate (h : r.PayoutInv L) (hv : r.ValidatorInv) {owner : Address}
    (hd : r.onCollateralUpdate env owner = .ok r') : ∃ L', r'.PayoutInv L' := by
  unfold MasternodeRegistryV2.onCollateralUpdate at hd
  obtain ⟨balance, lastBlock⟩ := env.balanceInfo owner
  dsimp only at hd
  split_ifs at hd with h0 hissue hmin
  · cases hd
    exact ⟨L, h⟩
  · -- re-announced by its owner, who is not the zero address as it has a masternode
    obtain ⟨a, ha, rfl⟩ := MasternodeRegistryV2.onPart_eq_ok.1 hd
    have howner : owner ≠ 0 := by
      rintro rfl
      exact h0 hv.ownerZero
    exact h.announceInternal h0 howner ha
  · obtain ⟨a, ha, rfl⟩ := MasternodeRegistryV2.onPart_eq_ok.1 hd
    exact ⟨_, h.denounceInternal ha⟩
  · cases hd
    exact ⟨L, h⟩

/-- Every call from a sender other than the zero address that does not announce the zero address
keeps the invariant. -/
theorem PayoutInv.exec (h : r.PayoutInv L) (hv : r.ValidatorInv) (hcaller : env.caller ≠ 0)
    {call : RegistryCall} (hcall : ∀ ipv4address enode, call ≠ .announce 0 ipv4address enode)
    (hd : r.exec env call = .ok r') : ∃ L', r'.PayoutInv L' := by
  cases call with
  | reward => exact h.reward hd
  | announce masternode ipv4address enode =>
    obtain ⟨⟨⟩, -, hd⟩ := Except.bind_eq_ok_iff.1 hd
    obtain ⟨a, ha, rfl⟩ := MasternodeRegistryV2.onPart_eq_ok.1 hd
    obtain ⟨⟨⟩, -, ha⟩ := Except.bind_eq_ok_iff.1 ha
    have hm0 : masternode ≠ 0 := by
      rintro rfl
      exact hcall ipv4address enode rfl
    exact h.announceInternal hm0 hcaller ha
  | denounce masternode =>
    obtain ⟨⟨⟩, -, hd⟩ := Except.bind_eq_ok_iff.1 hd
    obtain ⟨a, ha, rfl⟩ := MasternodeRegistryV2.onPart_eq_ok.1 hd
    exact ⟨_, h.denounceInternal ha⟩
  | heartbeat blockNumber blockHash swFeatures =>
    obtain ⟨⟨⟩, -, hd⟩ := Except.bind_eq_ok_iff.1 hd
    exact ⟨L, h.heartbeat hd⟩
  | invalidate masternode =>
    obtain ⟨⟨⟩, -, hd⟩ := Except.bind_eq_ok_iff.1 hd
    exact ⟨L, h.invalidate hd⟩
  | onCollateralUpdate owner =>
    obtain ⟨⟨⟩, -, hd⟩ := Except.bind_eq_ok_iff.1 hd
    exact h.onCollateralUpdate hv hd

theorem PayoutInv.commit (h : r.PayoutInv L) (hv : r.ValidatorInv) (hcaller : env.caller ≠ 0)
    {call : RegistryCall} (hcall : ∀ ipv4address enode, call ≠ .announce 0 ipv4address enode) :
    ∃ L', (r.commit env call).PayoutInv L' := by
  unfold MasternodeRegistryV2.commit
  split
  · exact h.exec hv hcaller hcall ‹_›
  · exact ⟨L, h⟩

theorem payoutInv_new {config : RegistryConfig}
    (hnew : MasternodeRegistryV2.new config env = .ok r) : r.PayoutInv [] := by
  unfold MasternodeRegistryV2.new at hnew
  obtain ⟨⟨⟩, -, hnew⟩ := Except.bind_eq_ok_iff.1 hnew
  obtain ⟨⟨⟩, -, hnew⟩ := Except.bind_eq_ok_iff.1 hnew
  rw [MasternodeRegistryV2.processValidationEpoch_ok _ _ hnew]
  exact PayoutInv.payoutInv_init _

end Calls

end MasternodeRegistry

namespace MasternodeRegistryV2

/-- A run of calls whose senders are not the zero address and that announce no zero address keeps
both invariants. -/
theorem payoutInv_runCalls {r : MasternodeRegistryV2} {L : List Address}
    (h : r.PayoutInv L) (hv : r.ValidatorInv) (calls : List (RegistryEnv × RegistryCall))
    (hcallers : ∀ c ∈ calls, c.1.caller ≠ 0)
    (hcalls : ∀ c ∈ calls, ∀ ipv4address enode, c.2 ≠ .announce 0 ipv4address enode) :
    (r.runCalls calls).ValidatorInv ∧ ∃ L', (r.runCalls calls).PayoutInv L' :=
  StateMachine.run_invariant_of_mem _
    (fun r : MasternodeRegistryV2 => r.ValidatorInv ∧ ∃ L, r.PayoutInv L) ⟨hv, L, h⟩
    fun _ c hc ⟨hv, _, h⟩ =>
      ⟨hv.commit (hcallers c hc) c.2, h.commit hv (hcallers c hc) (hcalls c hc)⟩

end MasternodeRegistryV2

end RangeCore.Governance
