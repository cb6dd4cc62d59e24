import RangeCore.Governance.Treasury
import Mathlib.Algebra.Order.Group.Nat

/-!
# Treasury payouts

The budget proposals of a reachable treasury satisfy `TreasuryInv`. Every proposal has been paid
at most its proposed amount, and the ones in slots have the treasury as parent and an amount
within `BUDGET_AMOUNT_MAX`. No two slots hold the same proposal. Every proposal created is still
in its slot or was destroyed or collected, and then exactly once. No uuid was taken twice.

From it `reward` never reverts. `_reward_status` lists the accepted proposals still owed something
(`StatusInv`), with an unpaid total that does not wrap. `_reward_distribute` then sends each of
them its per-mille share, which the balance covers (`Prorate.sum_shares_le`); the asserts of
`distributePayout` and `budgetStatus` hold, and when the balance covers the unpaid total every
accepted proposal is paid in full.

## Main definitions

* `RangeCore.Governance.TreasuryInv`: the invariant of a reachable treasury.
* `RangeCore.Governance.AcceptedAt`, `Settled`, `StatusInv`: what `_reward_status` has listed
  and settled, slot by slot.

## Main results

* `RangeCore.Governance.Treasury.treasuryInv_runCalls`: every reachable treasury satisfies the
  invariant.
* `RangeCore.Governance.Treasury.rewardStatus_ok`, `RangeCore.Governance.rewardDistribute_ok`:
  the two loops of `reward` succeed, and what they do.
* `RangeCore.Governance.Treasury.reward_pays_within_balance`.
-/

namespace RangeCore.Governance

/-- The invariant of a reachable treasury. -/
structure TreasuryInv (t : Treasury) : Prop where
  nextProposal_pos : 0 < t.nextProposal
  paid_le : ∀ id b, t.proposals id = some b → b.paidAmount ≤ b.proposedAmount
  slot_lt : ∀ i, t.activeProposals i < t.nextProposal
  slot_proposal : ∀ i, t.activeProposals i ≠ 0 →
    ∃ b, t.proposals (t.activeProposals i) = some b ∧ b.parent = t.address ∧
      b.proposedAmount ≤ budgetAmountMax
  slot_injective : ∀ i j, t.activeProposals i = t.activeProposals j →
    t.activeProposals i ≠ 0 → i = j
  uuids_nodup : t.proposedUuids.Nodup
  uuid_used : ∀ u ∈ t.proposedUuids, t.uuidProposal u ≠ 0
  removals_nodup : t.removals.Nodup
  removed_pos : ∀ id ∈ t.removals, 0 < id
  removed_lt : ∀ id ∈ t.removals, id < t.nextProposal
  removed_not_slot : ∀ id ∈ t.removals, ∀ i, t.activeProposals i ≠ id
  slot_or_removed : ∀ id, 0 < id → id < t.nextProposal →
    (∃ i, t.activeProposals i = id) ∨ id ∈ t.removals

/-- `t'` is `t` with only proposals and the balance changed, and nothing logged that the
invariant reads. -/
structure SameSlots (t t' : Treasury) : Prop where
  address : t'.address = t.address
  nextProposal : t'.nextProposal = t.nextProposal
  activeProposals : t'.activeProposals = t.activeProposals
  uuidProposal : t'.uuidProposal = t.uuidProposal
  proposedUuids : t'.proposedUuids = t.proposedUuids
  removals : t'.removals = t.removals

/-- `t'` is `t` with slot `i` cleared and its proposal taken out, with the call logged: the
proposal has no code any more, or is left paid within its amount. -/
structure RemovesSlot (t t' : Treasury) (i : Fin budgetProposalMax) : Prop where
  address : t'.address = t.address
  nextProposal : t'.nextProposal = t.nextProposal
  uuidProposal : t'.uuidProposal = t.uuidProposal
  activeProposals : t'.activeProposals = Function.update t.activeProposals i 0
  proposals : ∀ id, id ≠ t.activeProposals i → t'.proposals id = t.proposals id
  paid_le : ∀ b, t'.proposals (t.activeProposals i) = some b →
    b.paidAmount ≤ b.proposedAmount
  proposedUuids : t'.proposedUuids = t.proposedUuids
  removals : t'.removals = t.removals ++ [t.activeProposals i]

theorem SameSlots.setBalance (t : Treasury) (x : Uint) :
    SameSlots t { t with balance := x } :=
  ⟨rfl, rfl, rfl, rfl, rfl, rfl⟩

/-- Writing `v` into slot `i` keeps the slots of nonzero proposals distinct, when `v` is zero or in
no other slot. -/
theorem slot_injective_update {s : Fin budgetProposalMax → ℕ}
    (hinj : ∀ i j, s i = s j → s i ≠ 0 → i = j) {i : Fin budgetProposalMax} {v : ℕ}
    (hv : v ≠ 0 → ∀ j, j ≠ i → s j ≠ v) (j k : Fin budgetProposalMax)
    (hjk : Function.update s i v j = Function.update s i v k)
    (hj : Function.update s i v j ≠ 0) : j = k := by
  by_cases hji : j = i <;> by_cases hki : k = i
  · exact hji.trans hki.symm
  · subst hji
    rw [Function.update_self, Function.update_of_ne hki] at hjk
    rw [Function.update_self] at hj
    exact absurd hjk.symm (hv hj k hki)
  · subst hki
    rw [Function.update_self, Function.update_of_ne hji] at hjk
    rw [Function.update_of_ne hji, hjk] at hj
    exact absurd hjk (hv hj j hji)
  · rw [Function.update_of_ne hji, Function.update_of_ne hki] at hjk
    rw [Function.update_of_ne hji] at hj
    exact hinj j k hjk hj

namespace TreasuryInv

variable {t t' : Treasury}

/-- An update of proposals that keeps each one's parent and amount, and what was paid within
the amount. -/
theorem of_proposals (h : TreasuryInv t) (hs : SameSlots t t')
    (hsome : ∀ id b, t.proposals id = some b →
      ∃ b', t'.proposals id = some b' ∧ b'.parent = b.parent ∧
        b'.proposedAmount = b.proposedAmount)
    (hpaid : ∀ id b', t'.proposals id = some b' → b'.paidAmount ≤ b'.proposedAmount) :
    TreasuryInv t' where
  nextProposal_pos := hs.nextProposal ▸ h.nextProposal_pos
  paid_le := hpaid
  slot_lt i := by
    rw [hs.activeProposals, hs.nextProposal]
    exact h.slot_lt i
  slot_proposal i hi := by
    rw [hs.activeProposals] at hi ⊢
    obtain ⟨b, hb, hparent, hmax⟩ := h.slot_proposal i hi
    obtain ⟨b', hb', hparent', hamount⟩ := hsome _ b hb
    exact ⟨b', hb', hparent'.trans (hparent.trans hs.address.symm), hamount ▸ hmax⟩
  slot_injective := by
    rw [hs.activeProposals]
    exact h.slot_injective
  uuids_nodup := hs.proposedUuids ▸ h.uuids_nodup
  uuid_used := by
    rw [hs.proposedUuids, hs.uuidProposal]
    exact h.uuid_used
  removals_nodup := hs.removals ▸ h.removals_nodup
  removed_pos := hs.removals ▸ h.removed_pos
  removed_lt := by
    rw [hs.removals, hs.nextProposal]
    exact h.removed_lt
  removed_not_slot := by
    rw [hs.removals, hs.activeProposals]
    exact h.removed_not_slot
  slot_or_removed := by
    rw [hs.removals, hs.activeProposals, hs.nextProposal]
    exact h.slot_or_removed

/-- One proposal replaced by one with the same parent and amount, paid within it. -/
theorem updateProposal (h : TreasuryInv t) (hs : SameSlots t t') {id : ℕ}
    {b b' : BudgetProposal} (hprops : t'.proposals = Function.update t.proposals id (some b'))
    (hb : t.proposals id = some b) (hparent : b'.parent = b.parent)
    (hamount : b'.proposedAmount = b.proposedAmount)
    (hpaid : b'.paidAmount ≤ b'.proposedAmount) : TreasuryInv t' := by
  refine h.of_proposals hs (fun id' c hc => ?_) (fun id' c hc => ?_)
  · rw [hprops]
    by_cases hid : id' = id
    · subst hid
      rw [hb] at hc
      cases hc
      exact ⟨b', by simp, hparent, hamount⟩
    · exact ⟨c, by simpa [hid] using hc, rfl, rfl⟩
  · rw [hprops] at hc
    by_cases hid : id' = id
    · subst hid
      simp only [Function.update_self, Option.some.injEq] at hc
      exact hc ▸ hpaid
    · exact h.paid_le id' c (by simpa [hid] using hc)

theorem setBalance (h : TreasuryInv t) (x : Uint) : TreasuryInv { t with balance := x } :=
  h.of_proposals (SameSlots.setBalance t x) (fun _ b hb => ⟨b, hb, rfl, rfl⟩) h.paid_le

/-- `destroy` or `collect` on the proposal of a slot, and the slot cleared. -/
theorem removeSlot (h : TreasuryInv t) {i : Fin budgetProposalMax}
    (hi : t.activeProposals i ≠ 0) (hr : RemovesSlot t t' i) : TreasuryInv t' := by
  -- no other slot holds the proposal of slot `i`
  have hother : ∀ j, j ≠ i → t.activeProposals j ≠ t.activeProposals i :=
    fun j hj hji => hj (h.slot_injective j i hji (hji ▸ hi))
  have hmem : ∀ id, id ∈ t'.removals ↔ id ∈ t.removals ∨ id = t.activeProposals i := by
    simp [hr.removals]
  refine
    { nextProposal_pos := hr.nextProposal ▸ h.nextProposal_pos
      paid_le := fun id b hb => ?paid_le
      slot_lt := fun j => ?slot_lt
      slot_proposal := fun j hj => ?slot_proposal
      slot_injective := fun j k hjk hj => ?slot_injective
      uuids_nodup := hr.proposedUuids ▸ h.uuids_nodup
      uuid_used := by
        rw [hr.proposedUuids, hr.uuidProposal]
        exact h.uuid_used
      removals_nodup := ?removals_nodup
      removed_pos := fun id hid => ?removed_pos
      removed_lt := fun id hid => ?removed_lt
      removed_not_slot := fun id hid j => ?removed_not_slot
      slot_or_removed := fun id hpos hlt => ?slot_or_removed }
  case paid_le =>
    by_cases hid : id = t.activeProposals i
    · exact hr.paid_le b (hid ▸ hb)
    · exact h.paid_le id b (hr.proposals id hid ▸ hb)
  case slot_lt =>
    rw [hr.activeProposals, hr.nextProposal, Function.update_apply]
    split_ifs
    · exact h.nextProposal_pos
    · exact h.slot_lt j
  case slot_proposal =>
    rw [hr.activeProposals] at hj ⊢
    have hji : j ≠ i := by
      rintro rfl
      simp at hj
    rw [Function.update_of_ne hji] at hj ⊢
    obtain ⟨b, hb, hparent, hmax⟩ := h.slot_proposal j hj
    exact ⟨b, (hr.proposals _ (hother j hji)).trans hb, hparent.trans hr.address.symm, hmax⟩
  case slot_injective =>
    rw [hr.activeProposals] at hjk hj
    -- the cleared slot holds zero, which the invariant does not count
    exact slot_injective_update h.slot_injective (fun h0 => absurd rfl h0) j k hjk hj
  case removals_nodup =>
    rw [hr.removals, List.nodup_append]
    refine ⟨h.removals_nodup, List.nodup_singleton _, fun a ha b hb hab => ?_⟩
    rw [List.mem_singleton] at hb
    exact h.removed_not_slot a ha i (hab.trans hb).symm
  case removed_pos =>
    rcases (hmem id).1 hid with hid | rfl
    · exact h.removed_pos id hid
    · exact Nat.pos_of_ne_zero hi
  case removed_lt =>
    rw [hr.nextProposal]
    rcases (hmem id).1 hid with hid | rfl
    · exact h.removed_lt id hid
    · exact h.slot_lt i
  case removed_not_slot =>
    rw [hr.activeProposals, Function.update_apply]
    split_ifs with hji
    · rcases (hmem id).1 hid with hid | rfl
      · exact (h.removed_pos id hid).ne
      · exact hi.symm
    · rcases (hmem id).1 hid with hid | rfl
      · exact h.removed_not_slot id hid j
      · exact hother j hji
  case slot_or_removed =>
    rw [hr.nextProposal] at hlt
    rw [hmem, hr.activeProposals]
    rcases h.slot_or_removed id hpos hlt with ⟨j, rfl⟩ | hid
    · by_cases hji : j = i
      · exact .inr (.inr (hji ▸ rfl))
      · exact .inl ⟨j, Function.update_of_ne hji _ _⟩
    · exact .inr (.inl hid)

/-- `propose`: the new proposal, at the next address, fills a free slot and takes a uuid no
proposal took before. -/
theorem propose (h : TreasuryInv t) {registry : MasternodeRegistryV2} {env : CallEnv}
    {value amount refUuid period : Uint}
    (hd : t.propose registry env value amount refUuid period = .ok t') : TreasuryInv t' := by
  obtain ⟨hmax, hfree, i, b, deadline, hi, hparent, hpaid, hamount, ht'⟩ := Treasury.propose_ok hd
  have hslots : t'.activeProposals = Function.update t.activeProposals i t.nextProposal := by
    rw [ht']
  have hprops : t'.proposals = Function.update t.proposals t.nextProposal (some b) := by rw [ht']
  have hnext : t'.nextProposal = t.nextProposal + 1 := by rw [ht']
  have haddr : t'.address = t.address := by rw [ht']
  have huuid : t'.uuidProposal = Function.update t.uuidProposal refUuid t.nextProposal := by
    rw [ht']
  have huuids : t'.proposedUuids = t.proposedUuids ++ [refUuid] := by
    simp [ht', Treasury.proposedUuids]
  have hrem : t'.removals = t.removals := by simp [ht', Treasury.removals]
  -- the new address is above every slot and every removal, and the uuid is new
  have hslot : ∀ j, t.activeProposals j ≠ t.nextProposal := fun j => (h.slot_lt j).ne
  have hnew : refUuid ∉ t.proposedUuids := fun hu => h.uuid_used refUuid hu hfree
  refine
    { nextProposal_pos := hnext ▸ Nat.succ_pos _
      paid_le := fun id c hc => ?paid_le
      slot_lt := fun j => ?slot_lt
      slot_proposal := fun j hj => ?slot_proposal
      slot_injective := fun j k hjk hj => ?slot_injective
      uuids_nodup := ?uuids_nodup
      uuid_used := fun u hu => ?uuid_used
      removals_nodup := hrem ▸ h.removals_nodup
      removed_pos := fun id hid => h.removed_pos id (hrem ▸ hid)
      removed_lt := fun id hid => hnext ▸ Nat.lt_succ_of_lt (h.removed_lt id (hrem ▸ hid))
      removed_not_slot := fun id hid j => ?removed_not_slot
      slot_or_removed := fun id hpos hlt => ?slot_or_removed }
  case paid_le =>
    rw [hprops, Function.update_apply] at hc
    split_ifs at hc
    · cases hc
      rw [hpaid]
      bv_omega
    · exact h.paid_le id c hc
  case slot_lt =>
    rw [hslots, hnext, Function.update_apply]
    split_ifs
    · exact Nat.lt_succ_self _
    · exact Nat.lt_succ_of_lt (h.slot_lt j)
  case slot_proposal =>
    rw [hslots] at hj
    rw [hslots, hprops, haddr]
    by_cases hji : j = i
    · subst hji
      simp only [Function.update_self]
      exact ⟨b, rfl, hparent, hamount ▸ hmax⟩
    · rw [Function.update_of_ne hji] at hj ⊢
      rw [Function.update_of_ne (hslot j)]
      exact h.slot_proposal j hj
  case slot_injective =>
    rw [hslots] at hjk hj
    exact slot_injective_update h.slot_injective (fun _ j _ => hslot j) j k hjk hj
  case uuids_nodup =>
    rw [huuids]
    exact h.uuids_nodup.append (List.nodup_singleton _) (by simpa using hnew)
  case uuid_used =>
    rw [huuid, Function.update_apply]
    rw [huuids, List.mem_append, List.mem_singleton] at hu
    split_ifs with hu'
    · exact h.nextProposal_pos.ne'
    · exact h.uuid_used u (hu.resolve_right hu')
  case removed_not_slot =>
    rw [hrem] at hid
    rw [hslots, Function.update_apply]
    split_ifs
    · exact (h.removed_lt id hid).ne'
    · exact h.removed_not_slot id hid j
  case slot_or_removed =>
    rw [hrem, hslots]
    rw [hnext] at hlt
    rcases Nat.lt_succ_iff_lt_or_eq.1 hlt with hlt | rfl
    · rcases h.slot_or_removed id hpos hlt with ⟨j, rfl⟩ | hid
      · -- slot `i` was free, so the slot of `id` is another one
        have hji : j ≠ i := fun hji => hpos.ne' (hji ▸ hi)
        exact .inl ⟨j, Function.update_of_ne hji _ _⟩
      · exact .inr hid
    · exact .inl ⟨i, Function.update_self _ _ _⟩

/-- A call to a proposal that keeps its parent and amount, and what was paid within it. -/
theorem onProposal (h : TreasuryInv t) {id : ℕ} {f : BudgetProposal → Except Revert BudgetProposal}
    (hf : ∀ b b', f b = .ok b' → b'.parent = b.parent ∧ b'.proposedAmount = b.proposedAmount ∧
      (b.paidAmount ≤ b.proposedAmount → b'.paidAmount ≤ b'.proposedAmount))
    (hd : t.onProposal id f = .ok t') : TreasuryInv t' := by
  unfold Treasury.onProposal at hd
  split at hd
  · cases hd
    exact h
  · rename_i b hb
    obtain ⟨b', hb', hd⟩ := Except.bind_eq_ok_iff.1 hd
    cases hd
    obtain ⟨hparent, hamount, hpaid⟩ := hf b b' hb'
    exact h.updateProposal ⟨rfl, rfl, rfl, rfl, rfl, rfl⟩ rfl hb hparent hamount
      (hpaid (h.paid_le id b hb))

/-- A call of the generic proposal that keeps the parent: a vote or `withdraw`. -/
theorem onGeneric (h : TreasuryInv t) {id : ℕ} {g : GenericProposal → Except Revert GenericProposal}
    (hg : ∀ p p', g p = .ok p' → p'.parent = p.parent)
    (hd : t.onProposal id (fun b => do
      let p ← g b.toGenericProposal
      pure { b with toGenericProposal := p }) = .ok t') : TreasuryInv t' := by
  refine h.onProposal (fun b b' hb => ?_) hd
  obtain ⟨p, hp, hb⟩ := Except.bind_eq_ok_iff.1 hb
  cases hb
  exact ⟨hg _ p hp, rfl, fun hpaid => hpaid⟩

/-- One payout of `_reward_distribute`: `distributePayout` keeps what was paid within the
amount. -/
theorem rewardDistributeOne (h : TreasuryInv t) {permille : Uint} {a : AcceptedProposal}
    (hd : rewardDistributeOne permille t a = .ok t') : TreasuryInv t' := by
  obtain ⟨-, b, b', hb, hpay, rfl⟩ := rewardDistributeOne_ok hd
  obtain ⟨hle, rfl⟩ := BudgetProposal.distributePayout_ok hpay
  refine h.updateProposal ⟨rfl, rfl, rfl, rfl, ?_, ?_⟩ rfl hb rfl rfl hle
  · simp [Treasury.proposedUuids]
  · simp [Treasury.removals]

theorem rewardDistribute (h : TreasuryInv t) {permille : Uint} {accepted : List AcceptedProposal}
    (hd : t.rewardDistribute permille accepted = .ok t') : TreasuryInv t' := by
  induction accepted generalizing t with
  | nil =>
    cases hd
    exact h
  | cons a accepted ih =>
    rw [Treasury.rewardDistribute, List.foldlM_cons] at hd
    obtain ⟨t₁, h₁, hd⟩ := Except.bind_eq_ok_iff.1 hd
    exact ih (h.rewardDistributeOne h₁) hd

end TreasuryInv

end RangeCore.Governance

namespace RangeCore.Governance

/-! ### The loop of `_reward_status` -/

/-- An entry of `accepted` as `_reward_status` lists it: an accepted proposal with an amount
within `BUDGET_AMOUNT_MAX` and not paid in full, and what is unpaid of it. -/
def AcceptedAt (timestamp : Uint) (t : Treasury) (a : AcceptedProposal) : Prop :=
  ∃ b, t.proposals a.proposal = some b ∧ b.isAccepted timestamp = true ∧
    b.paidAmount < b.proposedAmount ∧ b.proposedAmount ≤ budgetAmountMax ∧
    a.refUuid = b.refUuid ∧ a.unpaid = b.proposedAmount - b.paidAmount

/-- A slot `_reward_status` has passed: it is empty, or its proposal is accepted and listed, or
the vote on it is still open. -/
def Settled (timestamp : Uint) (t : Treasury) (accepted : List AcceptedProposal)
    (i : Fin budgetProposalMax) : Prop :=
  t.activeProposals i = 0 ∨
    ∃ b, t.proposals (t.activeProposals i) = some b ∧
      ((b.isAccepted timestamp = true ∧ ∃ a ∈ accepted, a.proposal = t.activeProposals i) ∨
        (b.isAccepted timestamp = false ∧ b.isFinished timestamp = false))

/-- What holds of `_reward_status` with the slots `is` still to visit: the treasury invariant;
the entries listed so far are accepted, at other addresses than the slots to visit, and at
distinct ones; the unpaid total is their sum, without wrapping; there are at most as many as
the slots visited; and every slot visited is settled. -/
structure StatusInv (timestamp : Uint) (is : List (Fin budgetProposalMax))
    (st : Treasury × List AcceptedProposal × Uint) : Prop where
  inv : TreasuryInv st.1
  accepted : ∀ a ∈ st.2.1, AcceptedAt timestamp st.1 a
  pending : ∀ a ∈ st.2.1, ∀ j ∈ is, st.1.activeProposals j ≠ a.proposal
  nodup : (st.2.1.map (·.proposal)).Nodup
  total : st.2.2.toNat = (st.2.1.map (·.unpaid.toNat)).sum
  length : st.2.1.length + is.length ≤ budgetProposalMax
  settled : ∀ i, i ∉ is → Settled timestamp st.1 st.2.1 i

variable {timestamp : Uint} {t t' : Treasury} {accepted : List AcceptedProposal}
  {a : AcceptedProposal}

theorem budgetAmountMax_toNat : budgetAmountMax.toNat = 184000 * 10 ^ 18 := rfl

theorem AcceptedAt.congr (ha : AcceptedAt timestamp t a)
    (h : t'.proposals a.proposal = t.proposals a.proposal) : AcceptedAt timestamp t' a := by
  unfold AcceptedAt
  rw [h]
  exact ha

theorem AcceptedAt.unpaid_le (ha : AcceptedAt timestamp t a) :
    a.unpaid.toNat ≤ budgetAmountMax.toNat := by
  obtain ⟨b, -, -, hlt, hmax, -, hu⟩ := ha
  rw [hu, BitVec.toNat_sub_of_le (BitVec.le_of_lt hlt)]
  have := BitVec.le_def.1 hmax
  omega

theorem sum_unpaid_le (h : ∀ a ∈ accepted, AcceptedAt timestamp t a) :
    (accepted.map (·.unpaid.toNat)).sum ≤ accepted.length * budgetAmountMax.toNat := by
  have := List.sum_le_card_nsmul (accepted.map (·.unpaid.toNat)) budgetAmountMax.toNat
    (by simpa using fun a ha => (h a ha).unpaid_le)
  simpa using this

theorem Settled.congr {i : Fin budgetProposalMax} (hs : Settled timestamp t accepted i)
    (hslot : t'.activeProposals i = t.activeProposals i)
    (hprop : t.activeProposals i ≠ 0 →
      t'.proposals (t.activeProposals i) = t.proposals (t.activeProposals i)) :
    Settled timestamp t' accepted i := by
  unfold Settled at hs ⊢
  rw [hslot]
  by_cases h0 : t.activeProposals i = 0
  · exact .inl h0
  · rw [hprop h0]
    exact .inr (hs.resolve_left h0)

theorem Settled.mono {accepted' : List AcceptedProposal} {i : Fin budgetProposalMax}
    (hs : Settled timestamp t accepted i) (hsub : ∀ a ∈ accepted, a ∈ accepted') :
    Settled timestamp t accepted' i := by
  rcases hs with h0 | ⟨b, hb, ⟨hacc, a, ha, hid⟩ | hopen⟩
  · exact .inl h0
  · exact .inr ⟨b, hb, .inl ⟨hacc, a, hsub a ha, hid⟩⟩
  · exact .inr ⟨b, hb, .inr hopen⟩

/-- `destroy` on the proposal of slot `i`, and the slot cleared. -/
theorem removesSlot_destroy (i : Fin budgetProposalMax) :
    RemovesSlot t
      (({ t with
        proposals := Function.update t.proposals (t.activeProposals i) none
        log := t.log ++ [.destroyed (t.activeProposals i)] } : Treasury).clearSlot i) i where
  address := rfl
  nextProposal := rfl
  uuidProposal := rfl
  activeProposals := rfl
  proposals _ hid := Function.update_of_ne hid _ _
  paid_le b hb := by simp [Treasury.clearSlot] at hb
  proposedUuids := by simp [Treasury.proposedUuids, Treasury.clearSlot]
  removals := by simp [Treasury.removals, Treasury.clearSlot]

/-- `collect` on the proposal of slot `i`, and the slot cleared. -/
theorem removesSlot_collect (i : Fin budgetProposalMax) {b : BudgetProposal}
    (hpaid : b.paidAmount ≤ b.proposedAmount) :
    RemovesSlot t
      (({ t with
        proposals := Function.update t.proposals (t.activeProposals i)
          (some { b with balance := 0 })
        balance := t.balance + b.balance
        log := t.log ++ [.collected (t.activeProposals i)] } : Treasury).clearSlot i) i where
  address := rfl
  nextProposal := rfl
  uuidProposal := rfl
  activeProposals := rfl
  proposals _ hid := Function.update_of_ne hid _ _
  paid_le c hc := by
    simp only [Treasury.clearSlot, Function.update_self, Option.some.injEq] at hc
    exact hc ▸ hpaid
  proposedUuids := by simp [Treasury.proposedUuids, Treasury.clearSlot]
  removals := by simp [Treasury.removals, Treasury.clearSlot]

namespace StatusInv

variable {i : Fin budgetProposalMax} {is : List (Fin budgetProposalMax)} {tot : Uint}

/-- A slot left as it is: empty, or with the vote open. -/
theorem skip (hst : StatusInv timestamp (i :: is) (t, accepted, tot))
    (hset : Settled timestamp t accepted i) : StatusInv timestamp is (t, accepted, tot) where
  inv := hst.inv
  accepted := hst.accepted
  pending a ha j hj := hst.pending a ha j (List.mem_cons_of_mem i hj)
  nodup := hst.nodup
  total := hst.total
  length := by
    have := hst.length
    simp only [List.length_cons] at this ⊢
    omega
  settled j hj := by
    by_cases hji : j = i
    · exact hji ▸ hset
    · exact hst.settled j (by simp [hji, hj])

/-- A slot whose proposal is accepted and owed something: it is listed. -/
theorem accept (hst : StatusInv timestamp (i :: is) (t, accepted, tot)) (hi : i ∉ is)
    (h0 : t.activeProposals i ≠ 0) {b : BudgetProposal}
    (hb : t.proposals (t.activeProposals i) = some b) (hacc : b.isAccepted timestamp = true)
    (hlt : b.paidAmount < b.proposedAmount) :
    StatusInv timestamp is
      (t, accepted ++ [⟨t.activeProposals i, b.refUuid, b.proposedAmount - b.paidAmount⟩],
        tot + (b.proposedAmount - b.paidAmount)) := by
  set a : AcceptedProposal := ⟨t.activeProposals i, b.refUuid, b.proposedAmount - b.paidAmount⟩
  have ha : AcceptedAt timestamp t a := by
    obtain ⟨b', hb', -, hmax⟩ := hst.inv.slot_proposal i h0
    rw [hb] at hb'
    cases hb'
    exact ⟨b, hb, hacc, hlt, hmax, rfl, rfl⟩
  -- the slots to visit hold other proposals than slot `i`
  have hother : ∀ j ∈ is, t.activeProposals j ≠ a.proposal := by
    intro j hj hji
    have hji' : j = i := hst.inv.slot_injective j i hji (hji ▸ h0)
    exact hi (hji' ▸ hj)
  have hmem : ∀ c, c ∈ accepted ++ [a] ↔ c ∈ accepted ∨ c = a := by simp
  refine
    { inv := hst.inv
      accepted := fun c hc => ?_
      pending := fun c hc j hj => ?_
      nodup := ?_
      total := ?_
      length := ?_
      settled := fun j hj => ?_ }
  · rcases (hmem c).1 hc with hc | rfl
    · exact hst.accepted c hc
    · exact ha
  · rcases (hmem c).1 hc with hc | rfl
    · exact hst.pending c hc j (List.mem_cons_of_mem i hj)
    · exact hother j hj
  · rw [List.map_append, List.nodup_append]
    refine ⟨hst.nodup, List.nodup_singleton _, fun x hx y hy hxy => ?_⟩
    obtain ⟨c, hc, rfl⟩ := List.mem_map.1 hx
    rw [List.map_singleton, List.mem_singleton] at hy
    exact hst.pending c hc i List.mem_cons_self (hxy.trans hy).symm
  · -- the unpaid total stays below `2 ^ 256`: at most `BUDGET_PROPOSAL_MAX` amounts, each
    -- within `BUDGET_AMOUNT_MAX`
    have hsum := sum_unpaid_le hst.accepted
    have hu : (b.proposedAmount - b.paidAmount).toNat ≤ budgetAmountMax.toNat := ha.unpaid_le
    have hlen : accepted.length + (is.length + 1) ≤ budgetProposalMax := hst.length
    have htot : tot.toNat = (accepted.map (·.unpaid.toNat)).sum := hst.total
    simp only [budgetProposalMax, budgetAmountMax_toNat] at hsum hu hlen
    rw [BitVec.toNat_add_of_lt (by omega), htot, List.map_append, List.sum_append,
      List.map_singleton, List.sum_singleton]
  · have : accepted.length + (is.length + 1) ≤ budgetProposalMax := hst.length
    simp only [List.length_append, List.length_singleton]
    omega
  · by_cases hji : j = i
    · subst hji
      exact .inr ⟨b, hb, .inl ⟨hacc, a, by simp, rfl⟩⟩
    · exact (hst.settled j (by simp [hji, hj])).mono fun c hc => (hmem c).2 (.inl hc)

/-- A slot whose proposal is taken out by `destroy` or `collect`. -/
theorem remove (hst : StatusInv timestamp (i :: is) (t, accepted, tot)) (hi : i ∉ is)
    (h0 : t.activeProposals i ≠ 0) (hr : RemovesSlot t t' i) :
    StatusInv timestamp is (t', accepted, tot) where
  inv := hst.inv.removeSlot h0 hr
  accepted a ha :=
    (hst.accepted a ha).congr (hr.proposals _ (hst.pending a ha i List.mem_cons_self).symm)
  pending a ha j hj := by
    have hji : j ≠ i := fun hji => hi (hji ▸ hj)
    rw [hr.activeProposals, Function.update_of_ne hji]
    exact hst.pending a ha j (List.mem_cons_of_mem i hj)
  nodup := hst.nodup
  total := hst.total
  length := by
    have := hst.length
    simp only [List.length_cons] at this ⊢
    omega
  settled j hj := by
    by_cases hji : j = i
    · subst hji
      exact .inl (by simp [hr.activeProposals])
    · refine (hst.settled j (by simp [hji, hj])).congr
        (by rw [hr.activeProposals, Function.update_of_ne hji]) fun hj0 => hr.proposals _ ?_
      exact fun hjk => hji (hst.inv.slot_injective j i hjk hj0)

/-- One turn of the loop: the slot is skipped, its proposal listed, or taken out. -/
theorem step (hst : StatusInv timestamp (i :: is) (t, accepted, tot)) (hi : i ∉ is) :
    ∃ st, rewardStatusSlot timestamp (t, accepted, tot) i = .ok st ∧
      StatusInv timestamp is st := by
  by_cases h0 : t.activeProposals i = 0
  · exact ⟨_, by simp [rewardStatusSlot, h0], hst.skip (.inl h0)⟩
  have hinv : TreasuryInv t := hst.inv
  -- the slot's proposal exists, has the treasury as parent, and passes the assert of
  -- `budgetStatus`
  obtain ⟨b, hb, hparent, -⟩ := hinv.slot_proposal i h0
  have hpaid := hinv.paid_le _ b hb
  simp only [rewardStatusSlot, h0, ↓reduceIte, hb, BudgetProposal.budgetStatus_eq hpaid,
    Except.ok_bind]
  cases hacc : b.isAccepted timestamp
  · cases hfin : b.isFinished timestamp
    · -- the vote is open
      simp only [Bool.false_eq_true, ↓reduceIte]
      exact ⟨_, rfl, hst.skip (.inr ⟨b, hb, .inr ⟨hacc, hfin⟩⟩)⟩
    · -- rejected: `collect`
      simp only [Bool.false_eq_true, ↓reduceIte, Treasury.collectProposal_eq hparent hfin hacc,
        Except.ok_bind]
      exact ⟨_, rfl, hst.remove hi h0 (removesSlot_collect i hpaid)⟩
  · by_cases hpos : b.proposedAmount - b.paidAmount > 0
    · -- accepted and owed something: listed
      simp only [↓reduceIte, hpos]
      exact ⟨_, rfl, hst.accept hi h0 hb hacc (by bv_omega)⟩
    · -- fulfilled: `destroy`
      simp only [↓reduceIte, hpos, Treasury.destroyProposal_eq hparent, Except.ok_bind]
      exact ⟨_, rfl, hst.remove hi h0 (removesSlot_destroy i)⟩

/-- The loop over distinct slots succeeds, and leaves every slot visited settled. -/
theorem run (hnd : is.Nodup) {st : Treasury × List AcceptedProposal × Uint}
    (hst : StatusInv timestamp is st) :
    ∃ st', is.foldlM (rewardStatusSlot timestamp) st = .ok st' ∧ StatusInv timestamp [] st' := by
  induction is generalizing st with
  | nil => exact ⟨st, rfl, hst⟩
  | cons i is ih =>
    obtain ⟨hi, hnd⟩ := List.nodup_cons.1 hnd
    obtain ⟨st₁, h₁, hst₁⟩ := step hst hi
    obtain ⟨st', h', hst'⟩ := ih hnd hst₁
    exact ⟨st', by rw [List.foldlM_cons, h₁]; exact h', hst'⟩

end StatusInv

namespace Treasury

/-- `_reward_status` succeeds on a treasury with the invariant: it lists the accepted proposals
still owed something, and settles every slot. -/
theorem rewardStatus_ok (h : TreasuryInv t) (timestamp : Uint) :
    ∃ t₁ accepted unpaidTotal,
      t.rewardStatus timestamp = .ok (t₁, accepted, unpaidTotal) ∧
        StatusInv timestamp [] (t₁, accepted, unpaidTotal) := by
  have hst : StatusInv timestamp (List.finRange budgetProposalMax) (t, [], 0) :=
    { inv := h
      accepted := by simp
      pending := by simp
      nodup := List.nodup_nil
      total := rfl
      length := by simp
      settled := fun i hi => absurd (List.mem_finRange i) hi }
  obtain ⟨⟨t₁, accepted, unpaidTotal⟩, hrun, hst'⟩ := StatusInv.run (List.nodup_finRange _) hst
  exact ⟨t₁, accepted, unpaidTotal, hrun, hst'⟩

end Treasury

namespace TreasuryInv

/-- `reward` keeps the invariant. -/
theorem reward (h : TreasuryInv t) {env : CallEnv} {value : Uint}
    (hd : t.reward env value = .ok t') : TreasuryInv t' := by
  unfold Treasury.reward at hd
  obtain ⟨⟨t₁, accepted, unpaidTotal⟩, hs, hd⟩ := Except.bind_eq_ok_iff.1 hd
  obtain ⟨t₂, accepted₂, unpaidTotal₂, hs₂, hst⟩ :=
    Treasury.rewardStatus_ok (h.setBalance (t.balance + value)) env.timestamp
  rw [hs₂] at hs
  cases hs
  have hinv : TreasuryInv t₁ := hst.inv
  dsimp only at hd
  split_ifs at hd
  · exact hinv.rewardDistribute hd
  · cases hd
    exact hinv

/-- Every call keeps the invariant. -/
theorem exec (h : TreasuryInv t) {env : CallEnv} {call : TreasuryCall}
    (hd : t.exec env call = .ok t') : TreasuryInv t' := by
  cases call with
  | propose registry value amount refUuid period => exact h.propose hd
  | reward value => exact h.reward hd
  | contribute value =>
    cases hd
    exact h.setBalance _
  | voteAccept proposal registry =>
    exact h.onGeneric (fun _ _ hp => GenericProposal.parent_voteAccept hp) hd
  | voteReject proposal registry =>
    exact h.onGeneric (fun _ _ hp => GenericProposal.parent_voteReject hp) hd
  | withdraw proposal => exact h.onGeneric (fun _ _ hp => GenericProposal.parent_withdraw hp) hd
  | distributePayout proposal value =>
    refine h.onProposal (fun b b' hb => ?_) hd
    obtain ⟨hle, rfl⟩ := BudgetProposal.distributePayout_ok hb
    exact ⟨rfl, rfl, fun _ => hle⟩

theorem commit (h : TreasuryInv t) (env : CallEnv) (call : TreasuryCall) :
    TreasuryInv (t.commit env call) := by
  unfold Treasury.commit
  split
  · exact h.exec ‹_›
  · exact h

end TreasuryInv

namespace Treasury

theorem treasuryInv_new {address : Address} {superblockCycle : Uint}
    (h : Treasury.new address superblockCycle = .ok t) : TreasuryInv t := by
  unfold Treasury.new at h
  obtain ⟨-, h⟩ := Except.ite_throw_bind_eq_ok_iff.1 h
  cases h
  exact
    { nextProposal_pos := Nat.one_pos
      paid_le := by simp
      slot_lt := fun _ => Nat.one_pos
      slot_proposal := by simp
      slot_injective := by simp
      uuids_nodup := List.nodup_nil
      uuid_used := by simp [proposedUuids]
      removals_nodup := List.nodup_nil
      removed_pos := by simp [removals]
      removed_lt := by simp [removals]
      removed_not_slot := by simp [removals]
      slot_or_removed := fun id hpos hlt => absurd hlt (by simp only; omega) }

/-- Every treasury reached by calls from one with the invariant has it. -/
theorem treasuryInv_runCalls (h : TreasuryInv t) (calls : List (CallEnv × TreasuryCall)) :
    TreasuryInv (t.runCalls calls) :=
  StateMachine.run_invariant _ TreasuryInv h (fun _ c ht => ht.commit c.1 c.2) calls

end Treasury

end RangeCore.Governance

namespace RangeCore.Governance

/-! ### The payouts -/

variable {timestamp : Uint} {t t' : Treasury} {accepted : List AcceptedProposal}
  {a : AcceptedProposal} {permille : Uint}

/-- The rate `reward` computes is `Prorate.scale` out of 1000. -/
theorem rewardPermille_toNat {currBalance unpaidTotal : Uint}
    (h : unpaidTotal.toNat ≤ budgetProposalMax * budgetAmountMax.toNat) :
    (rewardPermille currBalance unpaidTotal).toNat =
      Prorate.scale 1000 currBalance.toNat unpaidTotal.toNat := by
  unfold rewardPermille Prorate.scale
  by_cases hlt : currBalance < unpaidTotal
  · -- the balance is below the total, so `curr_balance * 1000` does not wrap
    have hlt' := BitVec.lt_def.1 hlt
    have h1000 : (1000 : Uint).toNat = 1000 := rfl
    rw [if_pos hlt, if_pos hlt', BitVec.toNat_udiv, BitVec.toNat_mul_of_lt, h1000]
    rw [h1000]
    rw [budgetAmountMax_toNat, budgetProposalMax] at h
    omega
  · rw [if_neg hlt, if_neg (by rwa [BitVec.lt_def] at hlt)]
    rfl

theorem payoutAmount_toNat (hu : a.unpaid.toNat ≤ budgetAmountMax.toNat)
    (hp : permille.toNat ≤ 1000) :
    (payoutAmount permille a).toNat = a.unpaid.toNat * permille.toNat / 1000 := by
  have hbound : a.unpaid.toNat * permille.toNat < 2 ^ 256 :=
    calc a.unpaid.toNat * permille.toNat
        ≤ budgetAmountMax.toNat * 1000 := Nat.mul_le_mul hu hp
      _ < 2 ^ 256 := by rw [budgetAmountMax_toNat]; omega
  unfold payoutAmount
  rw [BitVec.toNat_udiv, BitVec.toNat_mul_of_lt hbound]
  rfl

theorem payoutAmount_le (hu : a.unpaid.toNat ≤ budgetAmountMax.toNat)
    (hp : permille.toNat ≤ 1000) : payoutAmount permille a ≤ a.unpaid := by
  rw [BitVec.le_def, payoutAmount_toNat hu hp]
  exact Prorate.mul_div_le hp

/-- The payouts at the rate `reward` computes from the balance and the unpaid total: each within
what is unpaid, all together within the balance, and each everything unpaid when the balance
covers the total. -/
theorem payouts_le {unpaidTotal : Uint} (hacc : ∀ a ∈ accepted, AcceptedAt timestamp t a)
    (htot : unpaidTotal.toNat = (accepted.map (·.unpaid.toNat)).sum)
    (hlen : accepted.length ≤ budgetProposalMax) (currBalance : Uint) :
    let permille := rewardPermille currBalance unpaidTotal
    permille.toNat ≤ 1000 ∧
      (accepted.map fun a => (payoutAmount permille a).toNat).sum ≤ currBalance.toNat ∧
      (unpaidTotal ≤ currBalance → ∀ a ∈ accepted, payoutAmount permille a = a.unpaid) := by
  intro permille
  have hU : unpaidTotal.toNat ≤ budgetProposalMax * budgetAmountMax.toNat :=
    htot ▸ (sum_unpaid_le hacc).trans (Nat.mul_le_mul_right _ hlen)
  have hp : permille.toNat = Prorate.scale 1000 currBalance.toNat unpaidTotal.toNat :=
    rewardPermille_toNat hU
  have hp1000 : permille.toNat ≤ 1000 := hp ▸ Prorate.scale_le
  -- each payout is the share `Prorate` computes of what is unpaid
  have hshare : ∀ a ∈ accepted, (payoutAmount permille a).toNat =
      a.unpaid.toNat * Prorate.scale 1000 currBalance.toNat unpaidTotal.toNat / 1000 :=
    fun a ha => hp ▸ payoutAmount_toNat (hacc a ha).unpaid_le hp1000
  refine ⟨hp1000, ?_, fun hcover a ha => ?_⟩
  · have hmap : (accepted.map fun a => (payoutAmount permille a).toNat) =
        (accepted.map (·.unpaid.toNat)).map
          (· * Prorate.scale 1000 currBalance.toNat unpaidTotal.toNat / 1000) := by
      rw [List.map_map]
      exact List.map_congr_left hshare
    rw [hmap, htot]
    exact Prorate.sum_shares_le _ (by omega)
  · apply BitVec.eq_of_toNat_eq
    rw [hshare a ha]
    exact Prorate.share_of_le _ (by omega) (BitVec.le_def.1 hcover)

/-- `_reward_distribute` over distinct accepted proposals whose payouts the balance covers
succeeds: it sends each payout, `distributePayout` adding it to what was paid. -/
theorem rewardDistribute_ok (hp : permille.toNat ≤ 1000) :
    (accepted.map (·.proposal)).Nodup → (∀ a ∈ accepted, AcceptedAt timestamp t a) →
      (accepted.map fun a => (payoutAmount permille a).toNat).sum ≤ t.balance.toNat →
      ∃ t', t.rewardDistribute permille accepted = .ok t' ∧
        t'.balance.toNat =
          t.balance.toNat - (accepted.map fun a => (payoutAmount permille a).toNat).sum ∧
        (∀ id, id ∉ accepted.map (·.proposal) → t'.proposals id = t.proposals id) ∧
        ∀ a ∈ accepted, ∃ b b', t.proposals a.proposal = some b ∧
          t'.proposals a.proposal = some b' ∧
          b'.paidAmount = b.paidAmount + payoutAmount permille a ∧
          b'.proposedAmount = b.proposedAmount := by
  induction accepted generalizing t with
  | nil => exact fun _ _ _ => ⟨t, rfl, by simp, fun _ _ => rfl, by simp⟩
  | cons a accepted ih =>
    intro hnd hacc hsum
    simp only [List.map_cons, List.nodup_cons, List.sum_cons] at hnd hsum
    obtain ⟨b, hb, -, hlt, -, -, hu⟩ := hacc a List.mem_cons_self
    have hunpaid := (hacc a List.mem_cons_self).unpaid_le
    set amount := payoutAmount permille a
    -- the payout is within what is unpaid, so what is paid stays within the amount, and the
    -- balance covers it
    have hle : amount.toNat ≤ a.unpaid.toNat := BitVec.le_def.1 (payoutAmount_le hunpaid hp)
    have hunpaid' : a.unpaid.toNat = b.proposedAmount.toNat - b.paidAmount.toNat := by
      rw [hu, BitVec.toNat_sub_of_le (BitVec.le_of_lt hlt)]
    have hlt' := BitVec.lt_def.1 hlt
    have hpaid : b.paidAmount + amount ≤ b.proposedAmount := by
      rw [BitVec.le_def, BitVec.toNat_add_of_lt (by omega)]
      omega
    have hbal : amount ≤ t.balance := BitVec.le_def.2 (by omega)
    have h₁ := rewardDistributeOne_eq (payoutAmount_le hunpaid hp) hbal hb hpaid
    set t₁ := { t with
      proposals := Function.update t.proposals a.proposal
        (some { b with paidAmount := b.paidAmount + amount, balance := b.balance + amount })
      balance := t.balance - amount
      log := t.log ++ [TreasuryEvent.payout a.refUuid a.proposal amount] }
    -- the other proposals are as they were
    have hframe : ∀ id, id ≠ a.proposal → t₁.proposals id = t.proposals id :=
      fun id hid => Function.update_of_ne hid _ _
    have hbal₁ : t₁.balance.toNat = t.balance.toNat - amount.toNat := BitVec.toNat_sub_of_le hbal
    obtain ⟨t', hd, hbal', hframe', hpay⟩ := ih hnd.2
      (fun c hc => (hacc c (List.mem_cons_of_mem a hc)).congr
        (hframe _ fun he => hnd.1 (he ▸ List.mem_map_of_mem hc)))
      (by omega)
    refine ⟨t', by rw [Treasury.rewardDistribute, List.foldlM_cons, h₁, Except.ok_bind]; exact hd,
      by rw [hbal', hbal₁, List.map_cons, List.sum_cons, Nat.sub_sub], fun id hid => ?_,
      fun c hc => ?_⟩
    · simp only [List.map_cons, List.mem_cons, not_or] at hid
      rw [hframe' id hid.2, hframe id hid.1]
    · rcases List.mem_cons.1 hc with rfl | hc
      · refine ⟨b, { b with paidAmount := b.paidAmount + amount, balance := b.balance + amount },
          hb, ?_, rfl, rfl⟩
        rw [hframe' _ hnd.1]
        exact Function.update_self _ _ _
      · obtain ⟨b₁, b', hb₁, hb', hpaid', hamount'⟩ := hpay c hc
        have hne : c.proposal ≠ a.proposal := fun he => hnd.1 (he ▸ List.mem_map_of_mem hc)
        exact ⟨b₁, b', (hframe _ hne).symm.trans hb₁, hb', hpaid', hamount'⟩

namespace Treasury

/-- `reward` succeeds on a treasury with the invariant. `_reward_status` lists the accepted
proposals, and each is sent its payout at the rate `reward` computes, the balance going down by
their sum. -/
theorem reward_ok (h : TreasuryInv t) (env : CallEnv) (value : Uint) :
    ∃ t₁ accepted unpaidTotal t',
      ({ t with balance := t.balance + value } : Treasury).rewardStatus env.timestamp =
        .ok (t₁, accepted, unpaidTotal) ∧
      StatusInv env.timestamp [] (t₁, accepted, unpaidTotal) ∧
      t.reward env value = .ok t' ∧
      t'.balance.toNat = t₁.balance.toNat - (accepted.map fun a =>
        (payoutAmount (rewardPermille t₁.balance unpaidTotal) a).toNat).sum ∧
      ∀ a ∈ accepted, ∃ b b', t₁.proposals a.proposal = some b ∧
        t'.proposals a.proposal = some b' ∧
        b'.paidAmount = b.paidAmount + payoutAmount (rewardPermille t₁.balance unpaidTotal) a ∧
        b'.proposedAmount = b.proposedAmount := by
  obtain ⟨t₁, accepted, unpaidTotal, hs, hst⟩ :=
    rewardStatus_ok (h.setBalance (t.balance + value)) env.timestamp
  have hacc : ∀ a ∈ accepted, AcceptedAt env.timestamp t₁ a := hst.accepted
  have htot : unpaidTotal.toNat = (accepted.map (·.unpaid.toNat)).sum := hst.total
  have hlen : accepted.length + 0 ≤ budgetProposalMax := hst.length
  obtain ⟨hp, hsum, -⟩ := payouts_le hacc htot hlen t₁.balance
  have hreward : t.reward env value =
      if t₁.balance > 0 ∧ unpaidTotal > 0 then
        t₁.rewardDistribute (rewardPermille t₁.balance unpaidTotal) accepted
      else .ok t₁ := by
    unfold reward
    dsimp only
    rw [hs, Except.ok_bind]
    rfl
  by_cases hdist : t₁.balance > 0 ∧ unpaidTotal > 0
  · obtain ⟨t', hd, hbal, -, hpay⟩ := rewardDistribute_ok hp hst.nodup hacc hsum
    exact ⟨t₁, accepted, unpaidTotal, t', hs, hst, by rw [hreward, if_pos hdist, hd], hbal, hpay⟩
  · -- nothing is sent: either nothing is owed, or the balance is empty and the rate is zero
    have hzero : ∀ a ∈ accepted, payoutAmount (rewardPermille t₁.balance unpaidTotal) a = 0 := by
      intro a ha
      have hpos : 0 < a.unpaid.toNat := by
        obtain ⟨b, -, -, hlt, -, -, hu⟩ := hacc a ha
        rw [hu, BitVec.toNat_sub_of_le (BitVec.le_of_lt hlt)]
        have := BitVec.lt_def.1 hlt
        omega
      have hU : 0 < unpaidTotal.toNat :=
        htot ▸ lt_of_lt_of_le hpos (List.le_sum_of_mem (List.mem_map_of_mem ha))
      have hB : t₁.balance = 0 := by
        by_contra hB
        exact hdist ⟨(BitVec.pos_iff_ne_zero _).2 hB, BitVec.lt_def.2 hU⟩
      have hperm : rewardPermille t₁.balance unpaidTotal = 0 := by
        rw [rewardPermille, hB, if_pos (BitVec.lt_def.2 (by simpa using hU))]
        simp
      rw [payoutAmount, hperm]
      simp
    refine ⟨t₁, accepted, unpaidTotal, t₁, hs, hst, by rw [hreward, if_neg hdist], ?_,
      fun a ha => ?_⟩
    · rw [List.map_congr_left fun a ha => by rw [hzero a ha]]
      simp
    · obtain ⟨b, hb, -⟩ := hacc a ha
      exact ⟨b, b, hb, hb, by rw [hzero a ha, add_zero], rfl⟩

end Treasury

namespace TreasuryInv

/-- A proposal the treasury created is still in its slot and was never taken out, or it is in
no slot and was taken out once. -/
theorem inSlot_or_removedOnce (h : TreasuryInv t) {id : ℕ} (hpos : 0 < id)
    (hlt : id < t.nextProposal) :
    (∃ i, t.activeProposals i = id) ∧ t.removals.count id = 0 ∨
      (∀ i, t.activeProposals i ≠ id) ∧ t.removals.count id = 1 := by
  by_cases hrem : id ∈ t.removals
  · exact .inr ⟨h.removed_not_slot id hrem, List.count_eq_one_of_mem h.removals_nodup hrem⟩
  · exact .inl ⟨(h.slot_or_removed id hpos hlt).resolve_right hrem,
      List.count_eq_zero_of_not_mem hrem⟩

end TreasuryInv

namespace Treasury

/-- Treasury payouts never overspend and never break a budget proposal. On every treasury reached
by calls from the constructor, no uuid was taken twice, and every proposal created is still in
its slot and was never taken out, or is in none and was destroyed or collected once. A `reward`,
whatever it brings and however the votes went, does not revert. `_reward_status` leaves every
slot empty, with an accepted proposal it listed, or with one whose vote is open, and sums what is
unpaid without wrapping. Each listed proposal is sent at most what is unpaid of it, all of them
together at most the balance, which goes down by that sum. What each has been paid stays within
its amount, and when the balance covers the unpaid total, each is paid in full. -/
theorem reward_pays_within_balance {address : Address} {superblockCycle : Uint} {t₀ : Treasury}
    (hnew : Treasury.new address superblockCycle = .ok t₀)
    (calls : List (CallEnv × TreasuryCall)) (env : CallEnv) (value : Uint) :
    let t := t₀.runCalls calls
    t.proposedUuids.Nodup ∧
      (∀ id, 0 < id → id < t.nextProposal →
        (∃ i, t.activeProposals i = id) ∧ t.removals.count id = 0 ∨
          (∀ i, t.activeProposals i ≠ id) ∧ t.removals.count id = 1) ∧
      ∃ t₁ accepted unpaidTotal t',
        ({ t with balance := t.balance + value } : Treasury).rewardStatus env.timestamp =
          .ok (t₁, accepted, unpaidTotal) ∧
        t.reward env value = .ok t' ∧
        (∀ i, Settled env.timestamp t₁ accepted i) ∧
        unpaidTotal.toNat = (accepted.map (·.unpaid.toNat)).sum ∧
        let permille := rewardPermille t₁.balance unpaidTotal
        (accepted.map fun a => (payoutAmount permille a).toNat).sum ≤ t₁.balance.toNat ∧
        t'.balance.toNat =
          t₁.balance.toNat - (accepted.map fun a => (payoutAmount permille a).toNat).sum ∧
        ∀ a ∈ accepted, AcceptedAt env.timestamp t₁ a ∧ payoutAmount permille a ≤ a.unpaid ∧
          ∃ b b', t₁.proposals a.proposal = some b ∧ t'.proposals a.proposal = some b' ∧
            b'.paidAmount = b.paidAmount + payoutAmount permille a ∧
            b'.paidAmount ≤ b'.proposedAmount ∧
            (unpaidTotal ≤ t₁.balance → b'.paidAmount = b'.proposedAmount) := by
  intro t
  have h : TreasuryInv t := treasuryInv_runCalls (treasuryInv_new hnew) calls
  obtain ⟨t₁, accepted, unpaidTotal, t', hs, hst, hr, hbal, hpay⟩ := reward_ok h env value
  have hacc : ∀ a ∈ accepted, AcceptedAt env.timestamp t₁ a := hst.accepted
  have htot : unpaidTotal.toNat = (accepted.map (·.unpaid.toNat)).sum := hst.total
  have hlen : accepted.length + 0 ≤ budgetProposalMax := hst.length
  obtain ⟨hp, hsum, hfull⟩ := payouts_le hacc htot hlen t₁.balance
  have h' : TreasuryInv t' := h.reward hr
  refine ⟨h.uuids_nodup, fun id hpos hlt => h.inSlot_or_removedOnce hpos hlt, t₁, accepted,
    unpaidTotal, t', hs, hr, fun i => hst.settled i List.not_mem_nil, htot, hsum, hbal,
    fun a ha => ⟨hacc a ha, payoutAmount_le (hacc a ha).unpaid_le hp, ?_⟩⟩
  obtain ⟨b, b', hb, hb', hpaid, hamount⟩ := hpay a ha
  refine ⟨b, b', hb, hb', hpaid, h'.paid_le _ b' hb', fun hcover => ?_⟩
  -- covered: the payout is everything unpaid, `proposed - paid`
  obtain ⟨b₀, hb₀, -, -, -, -, hu⟩ := hacc a ha
  rw [hb] at hb₀
  cases hb₀
  rw [hpaid, hfull hcover a ha, hu, hamount, add_sub_cancel]

/-- A treasury that was only given a contribution is rewarded without reverting. -/
theorem reward_pays_within_balance_contribution :
    ∃ t₀ t', Treasury.new 0x7EA5#160 10 = .ok t₀ ∧
      (t₀.runCalls [(⟨0xA#160, 1, 1000⟩, .contribute 5)]).reward ⟨0, 2, 2000⟩ 0 = .ok t' := by
  obtain ⟨-, -, -, -, -, t', -, hr, -⟩ :=
    @reward_pays_within_balance 0x7EA5#160 10 _ rfl [(⟨0xA#160, 1, 1000⟩, .contribute 5)]
      ⟨0, 2, 2000⟩ 0
  exact ⟨_, t', rfl, hr⟩

end Treasury

end RangeCore.Governance
