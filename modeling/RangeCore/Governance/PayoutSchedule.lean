import RangeCore.Governance.PayoutRing
import RangeCore.Governance.RegistryUpgrade
import RangeCore.Lib.RoundRobin

/-!
# The payout schedule of the masternode registry

`reward()` splits `REWARD_MASTERNODE_V1` into `payments_per_block` parts, and each part goes to the
masternode of the current turn through `_reward`. When every announced masternode is active, may
be rewarded and accepts the payment, a `_reward` step pays its part to the current masternode and
moves the turn as a weighted round robin (`RoundRobin.step`) over the ring's `next` links, with the
sequential payouts as weights (`rewardStep_pays`, `turn_payCurrent`). So consecutive steps pay
the masternodes in ring order, each `seq_payouts` times in a row (`rewardSteps_served`), and under
`PayoutInv` the current masternode's count stays below its sequential payouts. Whatever the
masternodes' state, one `reward()` gives away at most `payments_per_block` parts, so no more than
its payment (`reward_pays_parts`).

The schedule rests on two facts the registry keeps only along runs from its own constructor that
never announce the zero address. An upgrade from `MasternodeRegistryV1` copies V1's sequential
payouts, one per `MN_COLLATERAL_MIN` of collateral and not per `MN_COLLATERAL_V2_MIN`; and the zero
address, which `announce` accepts, reads as "no current masternode" once the turn reaches it, after
which nobody is paid (`payout_schedule_breaks`).

## Main definitions

* `RangeCore.Governance.MasternodeRegistryV2.turn`, `seqWeight`: the state and the weights of the
  round robin.
* `RangeCore.Governance.MasternodeRegistryV2.AllPayable`, `payCurrent`.

## Main results

* `RangeCore.Governance.MasternodeRegistryV2.rewardStep_pays`, `turn_payCurrent`: one step.
* `RangeCore.Governance.MasternodeRegistryV2.rewardSteps_served`: consecutive steps.
* `RangeCore.Governance.MasternodeRegistryV2.reward_pays_parts`: the payments of one `reward()`.
* `RangeCore.Governance.MasternodeRegistryV2.payout_schedule_reachable`: along runs from the
  constructor.
* `RangeCore.Governance.MasternodeRegistryV2.payout_schedule_breaks`.
-/

namespace RangeCore.Governance

namespace MasternodeRegistryV2

/-- The state of the round robin: the current masternode with its payouts in this turn. -/
def turn (r : MasternodeRegistryV2) : Address × ℕ := (r.currentMasternode, r.currentPayouts.toNat)

/-- The weights of the round robin: each masternode's sequential payouts. -/
def seqWeight (r : MasternodeRegistryV2) (m : Address) : ℕ := (r.mnStatus m).seqPayouts.toNat

/-- Every announced masternode is active, may be rewarded with its invalidations, and accepts a
payment: what the schedule asks of the registry and the environment of its steps. -/
def AllPayable (env : RegistryEnv) (r : MasternodeRegistryV2) : Prop :=
  ∀ m, (r.v1storage.masternodes m).owner ≠ 0 →
    r.isActive env m = true ∧ r.canReward (r.mnStatus m).invalidations = true ∧
      env.accepts (r.v1storage.masternodes m).owner = true

/-- The registry after a `_reward` step that pays its part to the current masternode. -/
def payCurrent (rewardPart : Uint) (r : MasternodeRegistryV2) : MasternodeRegistryV2 :=
  { r.rewardAdvance with balance := r.balance - rewardPart }

variable {r r' : MasternodeRegistryV2} {env : RegistryEnv} {L : List Address}

/-! ### One step -/

@[simp] theorem rewardAdvance_balance (r : MasternodeRegistryV2) :
    r.rewardAdvance.balance = r.balance := by
  unfold rewardAdvance
  dsimp only
  split <;> rfl

@[simp] theorem rewardAdvance_canReward (r : MasternodeRegistryV2) :
    r.rewardAdvance.canReward = r.canReward := by
  unfold rewardAdvance
  dsimp only
  split <;> rfl

/-- The first part of `_reward` keeps what `_checkStatus` reads. -/
@[simp] theorem checkStatusOf_rewardAdvance (r : MasternodeRegistryV2) (m : Address)
    (mninfo : MnInfo) :
    checkStatusOf env (r.rewardAdvance.mnStatus m) mninfo = checkStatusOf env (r.mnStatus m) mninfo := by
  unfold rewardAdvance
  dsimp only
  split
  · rfl
  · by_cases hm : m = r.currentMasternode
    · subst hm
      simp only [Function.update_self]
      rfl
    · simp only [Function.update_of_ne hm]

/-- A count below the sequential payouts, or none, goes up by one without wrapping around. -/
theorem toNat_payouts_succ {p s : Uint} (h : p = 0 ∨ p < s) : (p + 1).toNat = p.toNat + 1 := by
  have hlt : p.toNat + 1 < 2 ^ 256 := by
    rcases h with rfl | h
    · simp
    · have := s.isLt
      have := BitVec.lt_def.1 h
      omega
  rw [BitVec.toNat_add, show (1 : Uint).toNat = 1 from rfl, Nat.mod_eq_of_lt hlt]

/-- A `_reward` step when every announced masternode is payable and the balance covers the part:
the current masternode is paid the part and the turn moves on. -/
theorem rewardStep_pays (h : r.PayoutInv L) (hL : L ≠ []) (hp : AllPayable env r)
    {rewardPart : Uint} (hbal : rewardPart ≤ r.balance) :
    r.rewardStep env rewardPart = .ok (true, r.payCurrent rewardPart) := by
  obtain ⟨m, t, rfl⟩ := List.exists_cons_of_ne_nil hL
  have hc : r.currentMasternode = m := h.current
  have hm0 : m ≠ 0 := fun hm0 => h.zero_notMem (hm0 ▸ List.mem_cons_self)
  obtain ⟨hact, hcan, hacc⟩ := hp m ((h.mem_iff m).1 List.mem_cons_self)
  have hstatus : checkStatusOf env (r.mnStatus m) (r.v1storage.masternodes m) = .mnActive := by
    simpa [isActive] using hact
  unfold rewardStep
  dsimp only
  rw [hc, if_neg hm0]
  unfold rewardLogic
  simp [hstatus, hcan, hacc, hbal, payCurrent, Except.pure_eq_ok]

/-- After a paying step the turn is the round robin's next position over the ring's links, with
the sequential payouts as weights. -/
theorem turn_payCurrent (h : r.PayoutInv L) (hL : L ≠ []) (rewardPart : Uint) :
    (r.payCurrent rewardPart).turn = RoundRobin.step r.nextOf r.seqWeight r.turn := by
  obtain ⟨m, t, rfl⟩ := List.exists_cons_of_ne_nil hL
  have hc : r.currentMasternode = m := h.current
  have hm0 : m ≠ 0 := fun hm0 => h.zero_notMem (hm0 ▸ List.mem_cons_self)
  have hpay := h.payouts (hc ▸ hm0)
  rw [hc] at hpay
  -- the comparison of `_reward` in words is the round robin's in numbers
  have hsucc := toNat_payouts_succ hpay
  have hiff : r.currentPayouts + 1 < (r.mnStatus m).seqPayouts ↔
      r.currentPayouts.toNat + 1 < r.seqWeight m := by
    rw [BitVec.lt_def, hsucc]
    rfl
  unfold payCurrent turn rewardAdvance RoundRobin.step
  dsimp only
  rw [hc]
  by_cases hlt : r.currentPayouts + 1 < (r.mnStatus m).seqPayouts
  · rw [if_pos hlt, if_pos (hiff.1 hlt), hsucc]
  · rw [if_neg hlt, if_neg (mt hiff.2 hlt)]
    rfl

/-- A masternode that may be rewarded with some invalidations may be with none. -/
theorem canReward_zero {inv : Uint} (h : r.canReward inv = true) : r.canReward 0 = true := by
  unfold canReward at h ⊢
  split
  · rfl
  · rw [if_neg ‹_›, decide_eq_true_eq, BitVec.lt_def] at h
    rw [decide_eq_true_eq, BitVec.lt_def, show (0 : Uint).toNat = 0 from rfl]
    exact Nat.lt_of_le_of_lt (Nat.zero_le _) h

theorem rewardAdvance_invalidations (r : MasternodeRegistryV2) (x : Address) :
    (r.rewardAdvance.mnStatus x).invalidations = (r.mnStatus x).invalidations ∨
      (r.rewardAdvance.mnStatus x).invalidations = 0 := by
  unfold rewardAdvance
  dsimp only
  split
  · exact .inl rfl
  · by_cases hx : x = r.currentMasternode
    · subst hx
      simp
    · simp [Function.update_of_ne hx]

/-- A paying step keeps every announced masternode payable: their statuses are kept but for the
invalidations of one whose turn ended, which are cleared. -/
theorem AllPayable.payCurrent (hp : AllPayable env r) (rewardPart : Uint) :
    AllPayable env (r.payCurrent rewardPart) := by
  intro m hm
  have hm' : (r.v1storage.masternodes m).owner ≠ 0 := by simpa [MasternodeRegistryV2.payCurrent] using hm
  obtain ⟨hact, hcan, hacc⟩ := hp m hm'
  have hcan' : r.rewardAdvance.canReward (r.rewardAdvance.mnStatus m).invalidations = true := by
    rw [rewardAdvance_canReward]
    rcases rewardAdvance_invalidations r m with hinv | hinv
    · rwa [hinv]
    · rw [hinv]
      exact canReward_zero hcan
  refine ⟨?_, hcan', by simpa [MasternodeRegistryV2.payCurrent] using hacc⟩
  simpa [MasternodeRegistryV2.payCurrent, isActive] using hact

/-- What a paying step keeps: the invariant on a ring that is not empty, payability, the links
and the weights. -/
theorem payCurrent_facts (h : r.PayoutInv L) (hL : L ≠ []) (hp : AllPayable env r)
    (rewardPart : Uint) :
    (∃ L', L' ≠ [] ∧ (r.payCurrent rewardPart).PayoutInv L') ∧
      AllPayable env (r.payCurrent rewardPart) ∧
      (r.payCurrent rewardPart).nextOf = r.nextOf ∧
      (r.payCurrent rewardPart).seqWeight = r.seqWeight := by
  obtain ⟨m, t, rfl⟩ := List.exists_cons_of_ne_nil hL
  refine ⟨⟨_, ?_, h.rewardAdvance⟩, hp.payCurrent rewardPart, ?_, ?_⟩
  · split <;> simp
  · funext x
    simp [payCurrent, MasternodeRegistry.nextOf]
  · funext x
    simp [payCurrent, seqWeight]

theorem iterate_payCurrent (h : r.PayoutInv L) (hL : L ≠ []) (hp : AllPayable env r)
    (rewardPart : Uint) (k : ℕ) :
    (∃ L', L' ≠ [] ∧ ((payCurrent rewardPart)^[k] r).PayoutInv L') ∧
      AllPayable env ((payCurrent rewardPart)^[k] r) ∧
      ((payCurrent rewardPart)^[k] r).nextOf = r.nextOf ∧
      ((payCurrent rewardPart)^[k] r).seqWeight = r.seqWeight ∧
      ((payCurrent rewardPart)^[k] r).turn = (RoundRobin.step r.nextOf r.seqWeight)^[k] r.turn := by
  induction k with
  | zero => exact ⟨⟨L, hL, h⟩, hp, rfl, rfl, rfl⟩
  | succ k ih =>
    obtain ⟨⟨Lk, hLk, hk⟩, hpk, hnext, hseq, hturn⟩ := ih
    obtain ⟨hinv, hpay, hnext', hseq'⟩ := payCurrent_facts hk hLk hpk rewardPart
    rw [Function.iterate_succ_apply']
    refine ⟨hinv, hpay, hnext'.trans hnext, hseq'.trans hseq, ?_⟩
    rw [turn_payCurrent hk hLk, Function.iterate_succ_apply', hnext, hseq, hturn]

/-- Paying steps take their parts out of the balance, as long as it covers them. -/
theorem balance_iterate_payCurrent (rewardPart : Uint) {k : ℕ}
    (hk : k * rewardPart.toNat ≤ r.balance.toNat) :
    ((payCurrent rewardPart)^[k] r).balance.toNat = r.balance.toNat - k * rewardPart.toNat := by
  induction k with
  | zero => simp
  | succ k ih =>
    have hk' : k * rewardPart.toNat ≤ r.balance.toNat := by
      rw [Nat.succ_mul] at hk
      omega
    rw [Function.iterate_succ_apply']
    have hbk := ih hk'
    have hle : rewardPart ≤ ((payCurrent rewardPart)^[k] r).balance := by
      rw [BitVec.le_def, hbk]
      rw [Nat.succ_mul] at hk
      omega
    show (((payCurrent rewardPart)^[k] r).balance - rewardPart).toNat = _
    rw [BitVec.toNat_sub_of_le hle, hbk, Nat.succ_mul]
    omega

/-- A payable masternode has sequential payouts left: an active one is not inactive. -/
theorem AllPayable.seqPayouts_ne_zero (hp : AllPayable env r) {m : Address}
    (hm : (r.v1storage.masternodes m).owner ≠ 0) : (r.mnStatus m).seqPayouts ≠ 0 := by
  intro h0
  have := (hp m hm).1
  simp [isActive, checkStatusOf, checkStatus, h0] at this

/-- The count of payouts of the current masternode is below its sequential payouts when it is
payable. -/
theorem currentPayouts_lt (h : r.PayoutInv L) (hL : L ≠ []) (hp : AllPayable env r) :
    r.currentPayouts < (r.mnStatus r.currentMasternode).seqPayouts := by
  have hc0 : r.currentMasternode ≠ 0 := fun hc0 => hL (h.current_eq_zero_iff.1 hc0)
  have hann : (r.v1storage.masternodes r.currentMasternode).owner ≠ 0 := by
    obtain ⟨m, t, rfl⟩ := List.exists_cons_of_ne_nil hL
    rw [show r.currentMasternode = m from h.current]
    exact (h.mem_iff m).1 List.mem_cons_self
  have hseq := hp.seqPayouts_ne_zero hann
  rcases h.payouts hc0 with h0 | hlt
  · rw [h0, BitVec.lt_def, show (0 : Uint).toNat = 0 from rfl]
    exact Nat.pos_of_ne_zero (BitVec.toNat_ne_iff_ne.2 hseq)
  · exact hlt

/-! ### Consecutive steps -/

/-- Consecutive `_reward` steps while every announced masternode is payable and the balance
covers their parts: the `k`-th of `n` steps pays its part to the masternode that the weighted
round robin over the ring serves `k`-th, whose count of payouts is below its sequential payouts,
and after the `n` steps the turn is the round robin's. -/
theorem rewardSteps_served (h : r.PayoutInv L) (hL : L ≠ []) (hp : AllPayable env r)
    {rewardPart : Uint} {n : ℕ} (hbal : n * rewardPart.toNat ≤ r.balance.toNat) :
    (∀ k < n,
      ((payCurrent rewardPart)^[k] r).rewardStep env rewardPart =
          .ok (true, (payCurrent rewardPart)^[k + 1] r) ∧
        (RoundRobin.served r.nextOf r.seqWeight n r.turn)[k]? =
          some ((payCurrent rewardPart)^[k] r).currentMasternode ∧
        ((payCurrent rewardPart)^[k] r).currentPayouts <
          (((payCurrent rewardPart)^[k] r).mnStatus
            ((payCurrent rewardPart)^[k] r).currentMasternode).seqPayouts ∧
        ((payCurrent rewardPart)^[k + 1] r).balance.toNat + rewardPart.toNat =
          ((payCurrent rewardPart)^[k] r).balance.toNat) ∧
      ((payCurrent rewardPart)^[n] r).turn = (RoundRobin.step r.nextOf r.seqWeight)^[n] r.turn := by
  refine ⟨fun k hk => ?_, (iterate_payCurrent h hL hp rewardPart n).2.2.2.2⟩
  obtain ⟨⟨Lk, hLk, hinv⟩, hpk, -, -, hturn⟩ := iterate_payCurrent h hL hp rewardPart k
  -- the balance left after `k` steps still covers the next part
  have hcover : (k + 1) * rewardPart.toNat ≤ r.balance.toNat :=
    le_trans (Nat.mul_le_mul_right _ hk) hbal
  have hbk := balance_iterate_payCurrent rewardPart (le_trans (Nat.mul_le_mul_right _
    (Nat.le_succ k)) hcover)
  have hbk' := balance_iterate_payCurrent rewardPart hcover
  have hle : rewardPart ≤ ((payCurrent rewardPart)^[k] r).balance := by
    rw [BitVec.le_def, hbk]
    rw [Nat.succ_mul] at hcover
    omega
  refine ⟨?_, ?_, currentPayouts_lt hinv hLk hpk, ?_⟩
  · rw [rewardStep_pays hinv hLk hpk hle, Function.iterate_succ_apply']
  · rw [RoundRobin.getElem?_served _ hk, ← hturn]
    rfl
  · rw [hbk', hbk, Nat.succ_mul]
    rw [Nat.succ_mul] at hcover
    omega

/-- From any turn of a ring of payable masternodes listed from the current one: the current
masternode is paid for the rest of its turn, then each masternode of the ring from its successor
on as often as its sequential payouts, in the order of the `next` links, and the turn is then back
at the successor with no payout. -/
theorem served_ring {m : Address} {t : List Address} (h : r.PayoutInv (m :: t))
    (hp : AllPayable env r) :
    RoundRobin.served r.nextOf r.seqWeight
        (r.seqWeight m - r.currentPayouts.toNat + ((t ++ [m]).map r.seqWeight).sum) r.turn =
      List.replicate (r.seqWeight m - r.currentPayouts.toNat) m ++
        (t ++ [m]).flatMap (fun x => List.replicate (r.seqWeight x) x) ∧
    (RoundRobin.step r.nextOf r.seqWeight)^[r.seqWeight m - r.currentPayouts.toNat +
        ((t ++ [m]).map r.seqWeight).sum] r.turn = (r.nextOf m, 0) := by
  have hc : r.currentMasternode = m := h.current
  have hturn : r.turn = (m, r.currentPayouts.toNat) := by
    rw [turn, hc]
  have hlt : r.currentPayouts.toNat < r.seqWeight m := by
    have := currentPayouts_lt h (List.cons_ne_nil m t) hp
    rwa [hc, BitVec.lt_def] at this
  -- every masternode of the ring has a turn of at least one payout
  have hw : ∀ x ∈ t ++ [m], 0 < r.seqWeight x := fun x hx => by
    have hx' : x ∈ m :: t := (List.perm_append_singleton m t).subset hx
    exact Nat.pos_of_ne_zero (BitVec.toNat_ne_iff_ne.2
      (hp.seqPayouts_ne_zero ((h.mem_iff x).1 hx')))
  -- the ring from the successor on is a chain of `next` links
  obtain ⟨a, l, hal⟩ := List.exists_cons_of_ne_nil (List.append_ne_nil_of_right_ne_nil t
    (List.cons_ne_nil m []))
  have ha : r.nextOf m = a := by
    rw [h.ring.next_head]
    cases t <;> exact (List.cons_eq_cons.1 hal).1
  have hchain : (a :: l).IsChain fun x y => r.nextOf x = y := by
    have := (hal ▸ h.ring.rotate_one).chain
    exact (List.IsChain.left_of_append this).imp fun _ _ hxy => hxy.1
  obtain ⟨hserved, hnext⟩ := RoundRobin.served_round hchain (hal ▸ hw)
  have hlast : (a :: l).getLast (List.cons_ne_nil a l) = m := by
    simp only [← hal, List.getLast_append_singleton]
  refine ⟨?_, ?_⟩
  · rw [RoundRobin.served_add, hturn, RoundRobin.served_turn hlt, RoundRobin.iterate_step_turn hlt,
      ha, hal, hserved]
  · rw [Nat.add_comm, Function.iterate_add_apply, hturn, RoundRobin.iterate_step_turn hlt, ha, hal,
      hnext, hlast, ha]

/-! ### The payments of one `reward()` -/

theorem rewardPenalty_balance {masternode : Address} {mninfo : MnInfo}
    {status : ValidationStatus} (hd : r.rewardPenalty env masternode mninfo status = .ok r') :
    r'.balance = r.balance := by
  unfold rewardPenalty at hd
  dsimp only at hd
  split_ifs at hd
  · obtain ⟨a, -, rfl⟩ := onPart_eq_ok.1 hd
    rfl
  · obtain ⟨r₁, h₁, hd⟩ := Except.bind_eq_ok_iff.1 hd
    obtain ⟨a, -, rfl⟩ := onPart_eq_ok.1 h₁
    cases hd
    rfl
  · obtain ⟨a, -, rfl⟩ := onPart_eq_ok.1 hd
    rfl
  · cases hd
    rfl

/-- The reward logic either leaves the balance as it is or pays one part that the balance
covers. -/
theorem rewardLogic_balance {masternode : Address} {mninfo : MnInfo}
    {invalidations rewardPart : Uint} {paid : Bool}
    (hd : r.rewardLogic env masternode mninfo invalidations rewardPart = .ok (paid, r')) :
    r'.balance = r.balance ∨
      paid = true ∧ rewardPart ≤ r.balance ∧ r'.balance = r.balance - rewardPart := by
  have hpen : ∀ status, (do
      let r ← r.rewardPenalty env masternode mninfo status
      return (false, r)) = Except.ok (paid, r') → r'.balance = r.balance := fun status hd => by
    obtain ⟨r₁, h₁, hd⟩ := Except.bind_eq_ok_iff.1 hd
    cases hd
    exact rewardPenalty_balance h₁
  unfold rewardLogic at hd
  dsimp only at hd
  split_ifs at hd with hact hcan hpay
  · cases hd
    exact .inl rfl
  · cases hd
    simp only [Bool.and_eq_true, decide_eq_true_eq] at hpay
    exact .inr ⟨rfl, hpay.2, rfl⟩
  · exact .inl (hpen _ hd)
  · exact .inl (hpen _ hd)

/-- A `_reward` step either leaves the balance as it is or pays one part that the balance
covers. -/
theorem rewardStep_balance {rewardPart : Uint} {paid : Bool}
    (hd : r.rewardStep env rewardPart = .ok (paid, r')) :
    r'.balance = r.balance ∨
      paid = true ∧ rewardPart ≤ r.balance ∧ r'.balance = r.balance - rewardPart := by
  unfold rewardStep at hd
  dsimp only at hd
  split_ifs at hd
  · cases hd
    exact .inl rfl
  · simpa using rewardLogic_balance hd

/-- A loop of `_reward` steps pays at most one part: it stops at the first step that gives one
away. -/
theorem rewardWhile_balance {rewardPart : Uint} (gas : ℕ) {gas' : ℕ}
    (hd : rewardWhile env rewardPart gas r = .ok (gas', r')) :
    r'.balance = r.balance ∨ rewardPart ≤ r.balance ∧ r'.balance = r.balance - rewardPart := by
  induction gas generalizing r with
  | zero =>
    cases hd
    exact .inl rfl
  | succ gas ih =>
    obtain ⟨⟨paid, r₁⟩, h₁, hd⟩ := Except.bind_eq_ok_iff.1 hd
    dsimp only at hd
    split_ifs at hd with hpaid
    · cases hd
      exact (rewardStep_balance h₁).imp_right fun h => h.2
    · -- a step that gives nothing away leaves the balance as it is
      have hb : r₁.balance = r.balance := by
        rcases rewardStep_balance h₁ with hb | ⟨hp, -⟩
        · exact hb
        · exact absurd hp hpaid
      rw [← hb]
      exact ih hd

/-- The loops of `reward` pay at most one part per fraction. -/
theorem rewardFractions_balance {rewardPart : Uint} (fractions gas : ℕ)
    (hd : rewardFractions env rewardPart fractions gas r = .ok r') :
    ∃ k ≤ fractions, r'.balance.toNat + k * rewardPart.toNat = r.balance.toNat := by
  induction fractions generalizing gas r with
  | zero =>
    cases hd
    exact ⟨0, le_rfl, by simp⟩
  | succ fractions ih =>
    cases gas with
    | zero => cases hd
    | succ gas =>
      obtain ⟨⟨gas', r₁⟩, h₁, hd⟩ := Except.bind_eq_ok_iff.1 hd
      obtain ⟨k, hk, hb⟩ := ih gas' hd
      rcases rewardWhile_balance gas h₁ with h₁b | ⟨hle, h₁b⟩
      · exact ⟨k, by omega, by rw [hb, h₁b]⟩
      · refine ⟨k + 1, by omega, ?_⟩
        rw [h₁b, BitVec.toNat_sub_of_le hle] at hb
        rw [BitVec.le_def] at hle
        rw [Nat.succ_mul]
        omega

/-- Moving the remaining balance changes the balance only. -/
theorem moveRemaining_eq (h : r.moveRemaining env = .ok r') : r' = { r with balance := r'.balance } := by
  unfold moveRemaining at h
  dsimp only at h
  split_ifs at h
  · obtain ⟨⟨⟩, -, h⟩ := Except.bind_eq_ok_iff.1 h
    cases h
    rfl
  · cases h
    rfl

/-- The validation epoch changes the epoch's end and offset only. -/
theorem processValidationEpoch_eq (h : r.processValidationEpoch env = .ok r') :
    r' = { r with
      currValidationEnds := r'.currValidationEnds
      currValidationOffset := r'.currValidationOffset } := by
  unfold processValidationEpoch at h
  dsimp only at h
  split_ifs at h <;> cases h <;> rfl

/-- What `reward()` does before its loops, for its payment `REWARD_MASTERNODE_V1`: the loops start
from the announcement part and the configuration as they were, with the payment alone in the
balance. -/
theorem reward_eq_rewardFractions (hv : env.msgValue = rewardMasternodeV1)
    (hd : r.reward env = .ok r') :
    ∃ r₂ : MasternodeRegistryV2, r₂.toMasternodeRegistry = r.toMasternodeRegistry ∧
      r₂.requireValidation = r.requireValidation ∧ r₂.validationPeriods = r.validationPeriods ∧
      r₂.balance = rewardMasternodeV1 ∧
      rewardFractions env (rewardMasternodeV1 / r.paymentsPerBlock) r.paymentsPerBlock.toNat
        env.gas r₂ = .ok r' := by
  unfold reward at hd
  obtain ⟨r₁, h₁, hd⟩ := Except.bind_eq_ok_iff.1 hd
  rw [if_pos hv] at hd
  unfold payRewards at hd
  obtain ⟨⟨⟩, -, hd⟩ := Except.bind_eq_ok_iff.1 hd
  obtain ⟨r₂, h₂, hd⟩ := Except.bind_eq_ok_iff.1 hd
  dsimp only at hd
  obtain ⟨hbal, hd⟩ := Except.ite_throw_bind_eq_ok_iff.1 hd
  obtain ⟨-, hd⟩ := Except.ite_throw_bind_eq_ok_iff.1 hd
  -- `r₂` is `r` with the balance, the last block and the epoch moved
  have hr₂ := processValidationEpoch_eq h₂
  have hr₁ := moveRemaining_eq h₁
  rw [hr₂, hr₁] at hd
  refine ⟨r₂, ?_, ?_, ?_, (not_not.1 hbal).symm.trans hv, ?_⟩
  · rw [hr₂, hr₁]
  · rw [hr₂, hr₁]
  · rw [hr₂, hr₁]
  · rw [hr₂, hr₁]
    exact hd

/-- One `reward()` with its payment `REWARD_MASTERNODE_V1` gives away at most
`payments_per_block` parts of `REWARD_MASTERNODE_V1 / payments_per_block`, and the balance keeps
the rest of the payment. -/
theorem reward_pays_parts (hv : env.msgValue = rewardMasternodeV1) (hd : r.reward env = .ok r') :
    ∃ k ≤ r.paymentsPerBlock.toNat,
      r'.balance.toNat + k * (rewardMasternodeV1 / r.paymentsPerBlock).toNat =
        rewardMasternodeV1.toNat := by
  obtain ⟨r₂, -, -, -, hbal, hd⟩ := reward_eq_rewardFractions hv hd
  obtain ⟨k, hk, hb⟩ := rewardFractions_balance _ _ hd
  exact ⟨k, hk, hbal ▸ hb⟩

/-! ### The paying steps of one `reward()` -/

/-- Payability reads the announcement part and the validation configuration only. -/
theorem AllPayable.of_eq (hp : AllPayable env r)
    (hmr : r'.toMasternodeRegistry = r.toMasternodeRegistry)
    (hreq : r'.requireValidation = r.requireValidation)
    (hper : r'.validationPeriods = r.validationPeriods) : AllPayable env r' := by
  have hcan : r'.canReward = r.canReward := by
    funext inv
    unfold canReward
    rw [hreq, hper, show r'.mnActive = r.mnActive from congrArg (·.mnActive) hmr]
  have hst : r'.mnStatus = r.mnStatus := congrArg (·.mnStatus) hmr
  have hsto : r'.v1storage = r.v1storage := congrArg (·.v1storage) hmr
  intro m hm
  rw [hsto] at hm
  unfold isActive
  rw [hcan, hst, hsto]
  exact hp m hm

/-- A loop of `_reward` steps with gas for its check pays at its first step when every announced
masternode is payable. -/
theorem rewardWhile_pays (h : r.PayoutInv L) (hL : L ≠ []) (hp : AllPayable env r)
    {rewardPart : Uint} (hbal : rewardPart ≤ r.balance) (gas : ℕ) :
    rewardWhile env rewardPart (gas + 1) r = .ok (gas, r.payCurrent rewardPart) := by
  rw [rewardWhile, rewardStep_pays h hL hp hbal]
  rfl

/-- While every announced masternode is payable and the balance covers the parts, each fraction
of the loops of `reward` makes one paying step, but for a last one whose gas runs out. -/
theorem rewardFractions_iterate (h : r.PayoutInv L) (hL : L ≠ []) (hp : AllPayable env r)
    {rewardPart : Uint} (fractions gas : ℕ)
    (hbal : fractions * rewardPart.toNat ≤ r.balance.toNat)
    (hd : rewardFractions env rewardPart fractions gas r = .ok r') :
    ∃ k ≤ fractions, r' = (payCurrent rewardPart)^[k] r := by
  induction fractions generalizing gas r L with
  | zero =>
    cases hd
    exact ⟨0, le_rfl, rfl⟩
  | succ fractions ih =>
    have hbal' : fractions * rewardPart.toNat ≤ r.balance.toNat :=
      le_trans (Nat.mul_le_mul_right _ (Nat.le_succ _)) hbal
    cases gas with
    | zero => cases hd
    | succ gas =>
      obtain ⟨⟨gas', r₁⟩, h₁, hd⟩ := Except.bind_eq_ok_iff.1 hd
      cases gas with
      | zero =>
        -- the loop's own check fails: no step in this fraction
        cases h₁
        obtain ⟨k, hk, rfl⟩ := ih h hL hp 0 hbal' hd
        exact ⟨k, by omega, rfl⟩
      | succ gas =>
        rw [Nat.succ_mul] at hbal
        have hle : rewardPart ≤ r.balance := by
          rw [BitVec.le_def]
          omega
        rw [rewardWhile_pays h hL hp hle] at h₁
        cases h₁
        obtain ⟨⟨L', hL', h'⟩, hp', -, -⟩ := payCurrent_facts h hL hp rewardPart
        have hb' : fractions * rewardPart.toNat ≤ (r.payCurrent rewardPart).balance.toNat := by
          show _ ≤ (r.balance - rewardPart).toNat
          rw [BitVec.toNat_sub_of_le hle]
          omega
        obtain ⟨k, hk, rfl⟩ := ih h' hL' hp' _ hb' hd
        exact ⟨k + 1, by omega, (Function.iterate_succ_apply _ _ _).symm⟩

/-- What a `reward()` from `r` to `r'` does when it follows the schedule: from `r` with the
payment alone in the balance, `k` steps for some `k` up to `payments_per_block`, the `i`-th paying
`REWARD_MASTERNODE_V1 / payments_per_block` to the masternode that the round robin over the ring
serves `i`-th, whose count of payouts is below its sequential payouts. -/
def PaysServed (env : RegistryEnv) (r r' : MasternodeRegistryV2) : Prop :=
  let part := rewardMasternodeV1 / r.paymentsPerBlock
  ∃ k ≤ r.paymentsPerBlock.toNat, ∃ r₂ : MasternodeRegistryV2,
    r₂.toMasternodeRegistry = r.toMasternodeRegistry ∧ r₂.balance = rewardMasternodeV1 ∧
    r' = (payCurrent part)^[k] r₂ ∧
    ∀ i < k,
      ((payCurrent part)^[i] r₂).rewardStep env part = .ok (true, (payCurrent part)^[i + 1] r₂) ∧
      (RoundRobin.served r.nextOf r.seqWeight k r.turn)[i]? =
        some ((payCurrent part)^[i] r₂).currentMasternode ∧
      ((payCurrent part)^[i] r₂).currentPayouts <
        (((payCurrent part)^[i] r₂).mnStatus ((payCurrent part)^[i] r₂).currentMasternode).seqPayouts

/-- A `reward()` with its payment follows the schedule while every announced masternode is
payable. -/
theorem reward_served (h : r.PayoutInv L) (hL : L ≠ []) (hp : AllPayable env r)
    (hv : env.msgValue = rewardMasternodeV1) (hd : r.reward env = .ok r') :
    PaysServed env r r' := by
  obtain ⟨r₂, hmr, hreq, hper, hbal, hd⟩ := reward_eq_rewardFractions hv hd
  have h₂ : r₂.PayoutInv L := hmr ▸ h
  have hp₂ : AllPayable env r₂ := hp.of_eq hmr hreq hper
  -- the payment covers all `payments_per_block` parts
  have hcover : ∀ k ≤ r.paymentsPerBlock.toNat,
      k * (rewardMasternodeV1 / r.paymentsPerBlock).toNat ≤ r₂.balance.toNat := fun k hk => by
    rw [hbal, BitVec.toNat_udiv]
    calc k * (rewardMasternodeV1.toNat / r.paymentsPerBlock.toNat)
        ≤ r.paymentsPerBlock.toNat * (rewardMasternodeV1.toNat / r.paymentsPerBlock.toNat) :=
          Nat.mul_le_mul_right _ hk
      _ ≤ rewardMasternodeV1.toNat := Nat.mul_div_le _ _
  obtain ⟨k, hk, rfl⟩ := rewardFractions_iterate h₂ hL hp₂ _ _ (hcover _ le_rfl) hd
  -- the round robin of `r₂` is the one of `r`
  have hnext : r₂.nextOf = r.nextOf := congrArg MasternodeRegistry.nextOf hmr
  have hseq : r₂.seqWeight = r.seqWeight := funext fun x =>
    congrArg (fun a : MasternodeRegistry => (a.mnStatus x).seqPayouts.toNat) hmr
  have hturn : r₂.turn = r.turn :=
    congrArg (fun a : MasternodeRegistry => (a.currentMasternode, a.currentPayouts.toNat)) hmr
  obtain ⟨hsteps, -⟩ := rewardSteps_served h₂ hL hp₂ (hcover k hk)
  refine ⟨k, hk, r₂, hmr, hbal, rfl, fun i hi => ?_⟩
  obtain ⟨hstep, hcur, hlt, -⟩ := hsteps i hi
  refine ⟨hstep, ?_, hlt⟩
  rwa [hnext, hseq, hturn] at hcur

/-! ### Runs from the constructor -/

/-- The payout schedule along any run from the constructor with senders other than the zero
address that never announces the zero address. The announced masternodes form a ring of `next`
links listed from the current masternode, and each has `collateral / MN_COLLATERAL_V2_MIN`
sequential payouts until it is deactivated. While every announced masternode is payable, the
current one is paid for the rest of its turn and then each masternode from its successor on as
often as its sequential payouts, in ring order, and each `reward()` with its payment makes steps
of this round robin with the count of payouts below the current masternode's sequential payouts;
whatever the masternodes' state, one `reward()` gives away at most `payments_per_block` parts of
`REWARD_MASTERNODE_V1 / payments_per_block`, so no more than its payment. -/
theorem payout_schedule_reachable {config : RegistryConfig} {env₀ : RegistryEnv}
    {r₀ : MasternodeRegistryV2} (hnew : new config env₀ = .ok r₀)
    (calls : List (RegistryEnv × RegistryCall)) (hcallers : ∀ c ∈ calls, c.1.caller ≠ 0)
    (hcalls : ∀ c ∈ calls, ∀ ipv4address enode, c.2 ≠ .announce 0 ipv4address enode) :
    let r := r₀.runCalls calls
    ∃ L, r.PayoutInv L ∧
      (∀ env, AllPayable env r →
        (∀ m ∈ L, r.seqWeight m =
          ((r.v1storage.masternodes m).collateral / mnCollateralV2Min).toNat ∧ 0 < r.seqWeight m) ∧
        (∀ m t, L = m :: t →
          RoundRobin.served r.nextOf r.seqWeight
              (r.seqWeight m - r.currentPayouts.toNat + ((t ++ [m]).map r.seqWeight).sum) r.turn =
            List.replicate (r.seqWeight m - r.currentPayouts.toNat) m ++
              (t ++ [m]).flatMap (fun x => List.replicate (r.seqWeight x) x) ∧
          (RoundRobin.step r.nextOf r.seqWeight)^[r.seqWeight m - r.currentPayouts.toNat +
              ((t ++ [m]).map r.seqWeight).sum] r.turn = (r.nextOf m, 0)) ∧
        (∀ r', L ≠ [] → env.msgValue = rewardMasternodeV1 → r.reward env = .ok r' →
          PaysServed env r r')) ∧
      (∀ env r', env.msgValue = rewardMasternodeV1 → r.reward env = .ok r' →
        ∃ k ≤ r.paymentsPerBlock.toNat,
          r'.balance.toNat + k * (rewardMasternodeV1 / r.paymentsPerBlock).toNat =
            rewardMasternodeV1.toNat) := by
  intro r
  obtain ⟨-, L, h⟩ := payoutInv_runCalls (MasternodeRegistry.payoutInv_new hnew)
    (MasternodeRegistry.validatorInv_new hnew) calls hcallers hcalls
  refine ⟨L, h, fun env hp => ⟨fun m hm => ?_, fun m t hL => ?_,
    fun r' hL hv hd => reward_served h hL hp hv hd⟩, fun env r' hv hd => reward_pays_parts hv hd⟩
  · -- a payable masternode has its sequential payouts from its collateral
    have hseq := hp.seqPayouts_ne_zero ((h.mem_iff m).1 hm)
    have hcoll := (h.seqPayouts m hm).resolve_left hseq
    exact ⟨congrArg BitVec.toNat hcoll, Nat.pos_of_ne_zero (BitVec.toNat_ne_iff_ne.2 hseq)⟩
  · subst hL
    exact served_ring h hp

/-- A registry deployed with one payment per block, after one announcement: its payout walk is a
ring. -/
theorem payout_schedule_reachable_announced :
    let env : RegistryEnv :=
      { caller := 0xA11CE#160, blockNumber := 100, timestamp := 1000, msgValue := 0
        balanceInfo := fun _ => (mnCollateralV2Min, 0), blockhash := fun _ => 0, gas := 0
        accepts := fun _ => true, treasuryReward := fun _ => .ok () }
    ∃ r₀, new ⟨5, 3, 86400, mnCollateralV2Min, 1⟩ env = .ok r₀ ∧
      ∃ L, (r₀.runCalls [(env, .announce 0xBEEF#160 0x01020304 (0, 0))]).PayoutInv L := by
  intro env
  obtain ⟨L, h, -, -⟩ := @payout_schedule_reachable ⟨5, 3, 86400, mnCollateralV2Min, 1⟩ env _ rfl
    [(env, .announce 0xBEEF#160 0x01020304 (0, 0))] (by simp [env]) (by simp)
  exact ⟨_, rfl, L, h⟩

/-- Two runs whose schedule is not proportional to the collateral, every announced masternode
being active all along.

After an upgrade from V1, where `0xA` was announced with `MN_COLLATERAL_MIN`, and the announcement
of `0xB` with the same collateral in V2: `0xA` keeps V1's one sequential payout where its
collateral makes ten in V2, and `0xB` has ten; a `reward()` pays `0xA` once and passes the turn to
`0xB`.

From the V2 constructor, after `0x1` and the zero address are announced: a `reward()` pays `0x1`
and passes the turn to the zero address, which `_reward` reads as no masternode at all, so the
next `reward()` pays nobody and the turn stays there. -/
theorem payout_schedule_breaks :
    let env : Uint → Address → Uint → Uint → RegistryEnv :=
      fun collateral caller blockNumber msgValue =>
        { caller, blockNumber, timestamp := 1000, msgValue
          balanceInfo := fun _ => (collateral, 0), blockhash := fun _ => 3, gas := 2
          accepts := fun _ => true, treasuryReward := fun _ => .ok () }
    (∃ v1 r₀ r₁, MasternodeRegistryV1.new ⟨5, 3, 86400, mnCollateralMin⟩ = .ok v1 ∧
      new ⟨5, 3, 86400, mnCollateralV2Min, 1⟩ (env mnCollateralMin 0xC 6 0) = .ok r₀ ∧
      r₀.migrate (env mnCollateralMin 0xC 6 0)
        (v1.runCalls [(env mnCollateralMin 0x10A 5 0, .announce 0xA 0x01020304 (0, 0))]) =
          .ok r₁ ∧
      let r := r₁.runCalls [(env mnCollateralMin 0x10B 7 0, .announce 0xB 0x01020305 (0, 0))]
      let envR := env mnCollateralMin 0xC 10 rewardMasternodeV1
      r.currentMasternode = 0xA ∧ r.nextOf 0xA = 0xB ∧
        r.isActive envR 0xA = true ∧ r.isActive envR 0xB = true ∧
        (r.mnStatus 0xA).seqPayouts = 1 ∧
        (r.v1storage.masternodes 0xA).collateral / mnCollateralV2Min = 10 ∧
        (r.mnStatus 0xB).seqPayouts = 10 ∧
        let r' := r.runCalls [(envR, .reward)]
        r'.currentMasternode = 0xB ∧ r'.currentPayouts = 0 ∧ r'.balance = 0) ∧
    (∃ r₀, new ⟨5, 1, 86400, mnCollateralV2Min, 1⟩ (env mnCollateralV2Min 0xC 1 0) = .ok r₀ ∧
      let r := r₀.runCalls
        [(env mnCollateralV2Min 0x101 5 0, .announce 0x1 0x01020304 (0, 0)),
          (env mnCollateralV2Min 0x102 6 0, .announce 0x0 0x01020305 (0, 0))]
      let envR := env mnCollateralV2Min 0xC 10 rewardMasternodeV1
      r.currentMasternode = 0x1 ∧ r.nextOf 0x1 = 0 ∧ r.nextOf 0 = 0x1 ∧
        (r.v1storage.masternodes 0).owner = 0x102 ∧
        r.isActive envR 0 = true ∧ r.isActive envR 0x1 = true ∧
        let r' := r.runCalls [(envR, .reward)]
        r'.currentMasternode = 0 ∧ r'.balance = 0 ∧
        let r'' := r'.runCalls [(env mnCollateralV2Min 0xC 11 rewardMasternodeV1, .reward)]
        r''.currentMasternode = 0 ∧ r''.balance = rewardMasternodeV1 ∧
          r''.isActive (env mnCollateralV2Min 0xC 11 rewardMasternodeV1) 0x1 = true) :=
  ⟨⟨_, _, _, rfl, rfl, rfl, rfl, rfl, rfl, rfl, rfl, rfl, rfl, rfl, rfl, rfl⟩,
    ⟨_, rfl, rfl, rfl, rfl, rfl, rfl, rfl, rfl, rfl, rfl, rfl, rfl⟩⟩

end MasternodeRegistryV2

end RangeCore.Governance
