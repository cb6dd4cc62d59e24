import RangeCore.Consensus.Engine
import RangeCore.Lib.ExceptBind

/-!
# Who pays for gas

`StateTransition.TransitionDb` of `core/state_transition.go`, as `RangeCore.Consensus.applyMessage`
models it, charges the sender the whole gas limit at the gas price before the interpreter runs
(`buyGas`), refunds what is left, and pays what was used to the coinbase. The blacklist is read
only by the interpreter's `CanTransfer`, for a transfer of value, and by `SELFDESTRUCT`.

So a transition whose checks pass takes from the sender the gas it used at the message's price,
whatever the sender's blacklist flag (`applyMessage_charges_sender`), and a blacklisted account
pays for the gas of a zero-value transaction (`blacklisted_sender_pays_gas`).

## Main definitions

* `RangeCore.Consensus.chargedState`: the state the interpreter starts from.

## Main results

* `RangeCore.Consensus.applyMessage_eq`: a transition whose checks pass.
* `RangeCore.Consensus.applyMessage_charges_sender`.
* `RangeCore.Consensus.blacklisted_sender_pays_gas`.
-/

namespace RangeCore.Consensus

variable {evm : Evm} {ctx : BlockContext} {msg : Message} {gp : UInt64} {db : StateDB}

/-- The state `TransitionDb` hands the interpreter: the sender charged for all its gas by `buyGas`
and its nonce advanced. -/
def chargedState (msg : Message) (db : StateDB) : StateDB :=
  let db := db.setBalance msg.sender (db.balance msg.sender - msg.gasLimit.toNat * msg.gasPrice)
  db.setNonce msg.sender (db.nonce msg.sender + 1)

/-- `ApplyMessage` of a call whose checks pass: what it returns, read off its definition. -/
theorem applyMessage_eq {ig : UInt64}
    (hnonce : msg.checkNonce = true → db.nonce msg.sender = msg.nonce)
    (hfunds : msg.gasLimit.toNat * msg.gasPrice ≤ db.balance msg.sender)
    (hpool : msg.gasLimit ≤ gp) (hig : intrinsicGas msg.data = .ok ig) (higl : ig ≤ msg.gasLimit)
    (hins : (evm.call ctx msg.sender msg.recipient msg.data (msg.gasLimit - ig) msg.amount
      (chargedState msg db)).vmerr ≠ some .insufficientBalance) :
    let r := evm.call ctx msg.sender msg.recipient msg.data (msg.gasLimit - ig) msg.amount
      (chargedState msg db)
    let used := msg.gasLimit - r.gasLeft
    let gasLeft := r.gasLeft + if used / 2 > r.refund then r.refund else used / 2
    let db' := r.state.setBalance msg.sender (r.state.balance msg.sender + gasLeft.toNat * msg.gasPrice)
    applyMessage evm ctx msg gp db = .ok (r.ret, msg.gasLimit - gasLeft, r.vmerr.isSome,
      db'.setBalance ctx.coinbase (db'.balance ctx.coinbase + (msg.gasLimit - gasLeft).toNat * msg.gasPrice),
      gp - msg.gasLimit + gasLeft) := by
  intro r used gasLeft db'
  have h1 : ¬ db.balance msg.sender < msg.gasLimit.toNat * msg.gasPrice := Nat.not_lt.2 hfunds
  have h2 : ¬ gp < msg.gasLimit := UInt64.not_lt.2 hpool
  have h3 : ¬ msg.gasLimit < ig := UInt64.not_lt.2 higl
  unfold chargedState at hins
  unfold applyMessage
  cases hc : msg.checkNonce
  · simp only [Bool.false_eq_true, if_false, h1, h2, h3, hig, Except.ok_bind]
    rw [if_neg hins]
    rfl
  · simp only [if_true, hnonce hc, UInt64.lt_irrefl, gt_iff_lt, if_false, h1, h2, h3, hig,
      Except.ok_bind]
    rw [if_neg hins]
    rfl

/-- With the refund, at most half of the gas used, the gas left is still at most the limit, when
the interpreter returned at most the limit. -/
theorem gasLeft_refund_le {gasLimit left refund : UInt64} (h : left ≤ gasLimit) :
    left + (if (gasLimit - left) / 2 > refund then refund else (gasLimit - left) / 2) ≤ gasLimit := by
  rw [UInt64.le_iff_toNat_le] at h ⊢
  have hsub : (gasLimit - left).toNat = gasLimit.toNat - left.toNat :=
    UInt64.toNat_sub_of_le _ _ (UInt64.le_iff_toNat_le.2 h)
  have h2 : (2 : UInt64).toNat = 2 := rfl
  -- the refund is at most half of the gas used
  have hr : (if (gasLimit - left) / 2 > refund then refund else (gasLimit - left) / 2).toNat ≤
      (gasLimit.toNat - left.toNat) / 2 := by
    split_ifs with hc
    · rw [gt_iff_lt, UInt64.lt_iff_toNat_lt, UInt64.toNat_div, hsub, h2] at hc
      exact hc.le
    · rw [UInt64.toNat_div, hsub, h2]
  have hlt := UInt64.toNat_lt gasLimit
  rw [UInt64.toNat_add, Nat.mod_eq_of_lt (by omega)]
  omega

/-- A state transition whose checks pass succeeds and takes from the sender the gas it used at the
message's price, when the interpreter returns at most the gas it was given and leaves the sender's
balance alone: nothing in it reads the sender's blacklist flag. -/
theorem applyMessage_charges_sender {ig : UInt64}
    (hnonce : msg.checkNonce = true → db.nonce msg.sender = msg.nonce)
    (hfunds : msg.gasLimit.toNat * msg.gasPrice ≤ db.balance msg.sender)
    (hpool : msg.gasLimit ≤ gp) (hig : intrinsicGas msg.data = .ok ig) (higl : ig ≤ msg.gasLimit)
    (hgas : ∀ g s, (evm.call ctx msg.sender msg.recipient msg.data g msg.amount s).gasLeft ≤ g)
    (hframe : ∀ g s, (evm.call ctx msg.sender msg.recipient msg.data g msg.amount s).state.balance
      msg.sender = s.balance msg.sender)
    (hins : ∀ g s, (evm.call ctx msg.sender msg.recipient msg.data g msg.amount s).vmerr ≠
      some .insufficientBalance)
    (hcb : ctx.coinbase ≠ msg.sender) :
    ∃ ret used failed db' gp', applyMessage evm ctx msg gp db = .ok (ret, used, failed, db', gp') ∧
      db'.balance msg.sender + used.toNat * msg.gasPrice = db.balance msg.sender := by
  refine ⟨_, _, _, _, _, applyMessage_eq hnonce hfunds hpool hig higl (hins _ _), ?_⟩
  set r := evm.call ctx msg.sender msg.recipient msg.data (msg.gasLimit - ig) msg.amount
    (chargedState msg db) with hr
  set gasLeft := r.gasLeft + if (msg.gasLimit - r.gasLeft) / 2 > r.refund then r.refund
    else (msg.gasLimit - r.gasLeft) / 2
  -- the gas left after the refund is within the limit
  have hleft : gasLeft ≤ msg.gasLimit := by
    refine gasLeft_refund_le (UInt64.le_trans (hgas _ _) ?_)
    rw [UInt64.le_iff_toNat_le, UInt64.toNat_sub_of_le _ _ higl]
    exact Nat.sub_le _ _
  have hused : (msg.gasLimit - gasLeft).toNat * msg.gasPrice =
      msg.gasLimit.toNat * msg.gasPrice - gasLeft.toNat * msg.gasPrice := by
    rw [UInt64.toNat_sub_of_le _ _ hleft, Nat.sub_mul]
  have hmono : gasLeft.toNat * msg.gasPrice ≤ msg.gasLimit.toNat * msg.gasPrice :=
    Nat.mul_le_mul_right _ (UInt64.le_iff_toNat_le.1 hleft)
  -- the interpreter starts from the sender charged for all its gas and leaves its balance
  have hcharged : r.state.balance msg.sender =
      db.balance msg.sender - msg.gasLimit.toNat * msg.gasPrice := by
    rw [hr, hframe]
    simp [chargedState, StateDB.setNonce, StateDB.setBalance]
  simp only [StateDB.setBalance, Function.update_of_ne hcb.symm, Function.update_self]
  rw [hcharged, hused]
  omega

/-- The blacklisted account of the run below. -/
def blacklistedSender : Address := 0xBAD#160

/-- A state in which `blacklistedSender` holds one coin and is flagged in the `Range_Blacklist`
slot. -/
def blacklistedState : StateDB where
  balance := fun x => if x = blacklistedSender then 10 ^ 18 else 0
  nonce := fun _ => 0
  storage := fun c k => if c = rangeBlacklist ∧ k = blacklistedSender.toHash then 1 else 0
  codeSize := fun _ => 0

/-- A zero-value transfer from `blacklistedSender` at a gas price of one gwei. -/
def zeroValueTransfer : Message where
  sender := blacklistedSender
  recipient := 0xD#160
  nonce := 0
  amount := 0
  gasLimit := 21000
  gasPrice := 10 ^ 9
  data := []
  checkNonce := true

/-- A block mined by `0xC0FFEE`. -/
def transferContext : BlockContext where
  origin := blacklistedSender
  coinbase := 0xC0FFEE#160
  blockNumber := 2
  time := 0
  difficulty := 1
  gasLimit := 8000000
  gasPrice := 10 ^ 9

/-- The interpreter's call of a zero-value transfer to an account without code: nothing moves
and no gas is used. -/
def transferInterpreter : Evm := ⟨fun _ _ _ _ gas _ s => ⟨[], gas, 0, none, s⟩⟩

/-- A zero-value transfer from a blacklisted account to an account without code: the transition
succeeds, the account pays for `21000` gas, and the coinbase receives it. -/
theorem blacklisted_sender_pays_gas :
    isBlacklisted blacklistedState blacklistedSender = true ∧
      ∃ db' gp', applyMessage transferInterpreter transferContext zeroValueTransfer 8000000
          blacklistedState = .ok ([], 21000, false, db', gp') ∧
        db'.balance blacklistedSender = 10 ^ 18 - 21000 * 10 ^ 9 ∧
        db'.balance transferContext.coinbase = 21000 * 10 ^ 9 :=
  ⟨rfl, _, _, rfl, rfl, rfl⟩

end RangeCore.Consensus
