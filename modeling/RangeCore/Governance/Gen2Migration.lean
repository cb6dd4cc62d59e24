import RangeCore.Governance.Basic
import RangeCore.Lib.ExceptBind
import RangeCore.Lib.Run
import Mathlib.Algebra.BigOperators.Group.List.Basic

/-!
# The Gen 2 migration contract

`Gen2Migration` of `range/contracts/src/Gen2Migration.sol` holds the unspent Gen 2 coins of the
snapshot, one item per output with its Gen 2 owner (a P2PKH key hash) and amount, and pays each
item out once: to a destination signed for by the owner (`claim`), or to the compensation fund
when the blacklist registry drains the owner (`blacklistClaim`). The consensus sets the contract's
balance to `totalAmount()` in the migration block (`Range.finalizeMigration` of
`range/consensus/migration.go`).

`setSnapshot` adds the amounts into a 256-bit word, so a snapshot whose amounts add up to `2^256`
or more gives a `totalAmount`, and so a balance, below what the items hold
(`setSnapshot_total_wraps`). When the amounts do not wrap, the balance is what the unpaid items
hold after every run of claims, and each item is paid once, its snapshot amount, through a
signature that recovers its owner or through the blacklist registry (`migration_conserves`).
`ecrecover` returns address 0 for a signature that recovers no key, so the signature an item of
owner 0 needs is any such signature.

## Main definitions

* `RangeCore.Governance.Gen2Migration`: `setSnapshot`, `finalizeMigration`, `hashToSign`,
  `verifyClaim`, `claim`, `blacklistClaim`, and the calls of a run.

## Main results

* `RangeCore.Governance.Gen2Migration.claim_ok`, `blacklistClaim_ok`: what a successful call
  pays.
* `RangeCore.Governance.Gen2Migration.Conserves`: the invariant of the runs after a snapshot.
* `RangeCore.Governance.Gen2Migration.migration_conserves`.
-/

namespace RangeCore.Governance

/-- `Gen2Migration.UnspentCoins`: a Gen 2 output, its owner's `bytes20` key hash and its
amount. -/
structure UnspentCoins where
  owner : Address
  amount : Uint
  deriving DecidableEq

/-- A transfer of `amount` out of a contract's `balance`, by `address.transfer` or by a call with
value: it fails, and so does the call that makes it, when the balance is short or the receiver
rejects it. -/
def transferOut (balance amount : Uint) (accepted : Bool) : Except Revert Uint :=
  if amount ≤ balance ∧ accepted = true then .ok (balance - amount) else .error (.require "")

/-- `Gen2Migration`, with its balance. -/
structure Gen2Migration where
  chainId : Uint
  signerAddress : Address
  totalAmount : Uint
  coins : List UnspentCoins
  hardBlacklist : Address → Bool
  balance : Uint

/-- What a call to the migration contract sees of the world. -/
structure MigrationEnv where
  /-- `msg.sender`. -/
  sender : Address
  /-- The blacklist registry that `blacklist_proxy.impl()` names. -/
  blacklist : Address
  /-- That registry's `isBlacklisted`. -/
  isBlacklisted : Address → Except Revert Bool
  /-- Whether a transfer to the address succeeds. -/
  accepts : Address → Bool

namespace Gen2Migration

/-- The constructor. -/
def new (chainId : Uint) (signer : Address) : Gen2Migration :=
  { chainId, signerAddress := signer, totalAmount := 0, coins := []
    hardBlacklist := fun _ => false, balance := 0 }

variable (m : Gen2Migration)

/-- `setSnapshot`, by the consensus's signer, once. The loop walks the items from the last,
adding the amounts into `total` with wrap-around. -/
def setSnapshot (sender : Address) (owners : List Address) (amounts : List Uint)
    (blacklist : List Address) : Except Revert Gen2Migration := do
  require (m.coins.length = 0) "Already set"
  require (sender = m.signerAddress) "Invalid sender"
  require (owners.length = amounts.length) "match length"
  require (owners.length > 0) "has data"
  let total := amounts.foldr (fun amount total => total + amount) 0
  pure { m with
    coins := List.zipWith UnspentCoins.mk owners amounts
    totalAmount := total
    hardBlacklist := fun a => m.hardBlacklist a || decide (a ∈ blacklist) }

/-- `Range.finalizeMigration`: the consensus sets the contract's balance to `totalAmount()`. -/
def finalizeMigration : Gen2Migration := { m with balance := m.totalAmount }

/-- The text that `hashToSign` puts between the destination and the chain id. -/
def claimTag : List UInt8 := "||Range Gen 2 migration claim||".toUTF8.toList

/-- `hashToSign`: the hash of `abi.encodePacked(destination, tag, chain_id)`. -/
def hashToSign (hasher : Hasher) (destination : Address) : Hash :=
  hasher.keccak256 (destination.bytes ++ claimTag ++ bytesBE 32 m.chainId.toNat)

/-- `verifyClaim`: the item's amount, when the signature recovers its owner and the owner is
not blacklisted. -/
def verifyClaim (hasher : Hasher) (ecrecover : EcrecoverPrecompile) (env : MigrationEnv)
    (itemId : ℕ) (destination : Address) (v : UInt8) (r s : Hash) : Except Revert Uint := do
  if h : itemId < m.coins.length then
    let hash := m.hashToSign hasher destination
    let owner := (ecrecover hash v r s).getD 0
    require (m.coins[itemId].owner = owner) "Invalid signature"
    let blacklisted ← env.isBlacklisted owner
    require (!blacklisted = true) "Owner is blacklisted"
    require (!m.hardBlacklist owner = true) "Owner is hard blacklisted"
    pure m.coins[itemId].amount
  else throw (.require "Invalid ID")

/-- The item spent: its amount set to zero. -/
def spendItem (itemId : ℕ) : List UnspentCoins :=
  m.coins.modify itemId fun c => { c with amount := 0 }

/-- `claim`: the item's amount is paid to the destination. -/
def claim (hasher : Hasher) (ecrecover : EcrecoverPrecompile) (env : MigrationEnv)
    (itemId : ℕ) (destination : Address) (v : UInt8) (r s : Hash) :
    Except Revert Gen2Migration := do
  let amount ← m.verifyClaim hasher ecrecover env itemId destination v r s
  require (amount > 0) "Already spent"
  let balance ← transferOut m.balance amount (env.accepts destination)
  pure { m with coins := m.spendItem itemId, balance }

/-- `blacklistClaim`: by the blacklist registry only, the item's amount is paid to the
compensation fund, whose `contribute` takes any value. -/
def blacklistClaim (env : MigrationEnv) (itemId : ℕ) (owner : Address) :
    Except Revert Gen2Migration := do
  if h : itemId < m.coins.length then
    let amount := m.coins[itemId].amount
    require (amount > 0) "Already spent"
    require (m.coins[itemId].owner = owner) "Invalid Owner"
    require (env.sender = env.blacklist) "Not blacklist registry"
    let balance ← transferOut m.balance amount true
    pure { m with coins := m.spendItem itemId, balance }
  else throw (.require "Invalid ID")

end Gen2Migration

/-- The calls of a run after the snapshot. -/
inductive MigrationCall where
  | claim (itemId : ℕ) (destination : Address) (v : UInt8) (r s : Hash)
  | blacklistClaim (itemId : ℕ) (owner : Address)

namespace Gen2Migration

variable (m : Gen2Migration) (hasher : Hasher) (ecrecover : EcrecoverPrecompile)

/-- A call. -/
def exec (env : MigrationEnv) : MigrationCall → Except Revert Gen2Migration
  | .claim itemId destination v r s => m.claim hasher ecrecover env itemId destination v r s
  | .blacklistClaim itemId owner => m.blacklistClaim env itemId owner

/-- The state after a call: its result, or the old state if it reverted. -/
def commit (env : MigrationEnv) (call : MigrationCall) : Gen2Migration :=
  match m.exec hasher ecrecover env call with
  | .ok m' => m'
  | .error _ => m

/-- The state after the calls, in order, each with its environment. -/
def runCalls (calls : List (MigrationEnv × MigrationCall)) : Gen2Migration :=
  StateMachine.run (fun m c => m.commit hasher ecrecover c.1 c.2) m calls

end Gen2Migration

namespace Gen2Migration

variable {m m' m₀ : Gen2Migration} {hasher : Hasher} {ecrecover : EcrecoverPrecompile}
  {env : MigrationEnv} {itemId : ℕ} {destination owner : Address} {v : UInt8} {r s : Hash}

/-! ### What a successful call pays -/

theorem transferOut_ok {balance amount balance' : Uint} {accepted : Bool}
    (h : transferOut balance amount accepted = .ok balance') :
    amount ≤ balance ∧ accepted = true ∧ balance' = balance - amount := by
  unfold transferOut at h
  split_ifs at h with hc
  cases h
  exact ⟨hc.1, hc.2, rfl⟩

/-- A call that paid out the item `i`: the item held a nonzero amount within the balance, and the
call set it to zero and took it from the balance. -/
structure Pays (m m' : Gen2Migration) (i : ℕ) : Prop where
  lt : i < m.coins.length
  pos : 0 < m.coins[i].amount
  le_balance : m.coins[i].amount ≤ m.balance
  eq : m' = { m with coins := m.spendItem i, balance := m.balance - m.coins[i].amount }

theorem verifyClaim_ok {amount : Uint}
    (h : m.verifyClaim hasher ecrecover env itemId destination v r s = .ok amount) :
    ∃ hi : itemId < m.coins.length,
      (ecrecover (m.hashToSign hasher destination) v r s).getD 0 = m.coins[itemId].owner ∧
      env.isBlacklisted m.coins[itemId].owner = .ok false ∧
      m.hardBlacklist m.coins[itemId].owner = false ∧ amount = m.coins[itemId].amount := by
  unfold verifyClaim at h
  split at h
  · rename_i hi
    obtain ⟨⟨⟩, hown, h⟩ := Except.bind_eq_ok_iff.1 h
    obtain ⟨b, hb, h⟩ := Except.bind_eq_ok_iff.1 h
    obtain ⟨⟨⟩, hbl, h⟩ := Except.bind_eq_ok_iff.1 h
    obtain ⟨⟨⟩, hhard, h⟩ := Except.bind_eq_ok_iff.1 h
    cases h
    rw [require_eq_ok] at hown hbl hhard
    rw [← hown] at hb hhard ⊢
    refine ⟨hi, rfl, ?_, by simpa using hhard, rfl⟩
    rw [hb]
    simpa using hbl
  · exact nomatch h

theorem claim_ok (h : m.claim hasher ecrecover env itemId destination v r s = .ok m') :
    ∃ hi : itemId < m.coins.length,
      (ecrecover (m.hashToSign hasher destination) v r s).getD 0 = m.coins[itemId].owner ∧
      env.isBlacklisted m.coins[itemId].owner = .ok false ∧
      m.hardBlacklist m.coins[itemId].owner = false ∧ env.accepts destination = true ∧
      m.Pays m' itemId := by
  unfold claim at h
  obtain ⟨amount, hv, h⟩ := Except.bind_eq_ok_iff.1 h
  obtain ⟨hi, hrec, hbl, hhard, rfl⟩ := verifyClaim_ok hv
  obtain ⟨⟨⟩, hpos, h⟩ := Except.bind_eq_ok_iff.1 h
  obtain ⟨balance, ht, h⟩ := Except.bind_eq_ok_iff.1 h
  obtain ⟨hle, hacc, rfl⟩ := transferOut_ok ht
  cases h
  exact ⟨hi, hrec, hbl, hhard, hacc, hi, require_eq_ok.1 hpos, hle, rfl⟩

theorem blacklistClaim_ok (h : m.blacklistClaim env itemId owner = .ok m') :
    ∃ hi : itemId < m.coins.length, m.coins[itemId].owner = owner ∧
      env.sender = env.blacklist ∧ m.Pays m' itemId := by
  unfold blacklistClaim at h
  split at h
  · rename_i hi
    obtain ⟨⟨⟩, hpos, h⟩ := Except.bind_eq_ok_iff.1 h
    obtain ⟨⟨⟩, hown, h⟩ := Except.bind_eq_ok_iff.1 h
    obtain ⟨⟨⟩, hsender, h⟩ := Except.bind_eq_ok_iff.1 h
    obtain ⟨balance, ht, h⟩ := Except.bind_eq_ok_iff.1 h
    obtain ⟨hle, -, rfl⟩ := transferOut_ok ht
    cases h
    exact ⟨hi, require_eq_ok.1 hown, require_eq_ok.1 hsender, hi, require_eq_ok.1 hpos, hle, rfl⟩
  · exact nomatch h

/-! ### Conservation -/

/-- Changing one element of a list changes the sum of an image of it by the difference. -/
theorem sum_map_modify_add {α : Type*} (g : α → ℕ) (f : α → α) :
    ∀ (l : List α) (i : ℕ) (hi : i < l.length),
      ((l.modify i f).map g).sum + g l[i] = (l.map g).sum + g (f l[i])
  | a :: l, 0, _ => by
    simp only [List.modify_zero_cons, List.map_cons, List.sum_cons, List.getElem_cons_zero]
    omega
  | a :: l, i + 1, hi => by
    have ih := sum_map_modify_add g f l i (Nat.lt_of_succ_lt_succ hi)
    simp only [List.modify_succ_cons, List.map_cons, List.sum_cons, List.getElem_cons_succ]
    omega

/-- The migration `m` reached from `m₀` by payouts: each item keeps its owner and either its
amount at `m₀`, unpaid, or nothing, paid; the balance is what the items hold; and the rest of the
state is as at `m₀`. -/
structure Conserves (m₀ m : Gen2Migration) : Prop where
  length : m.coins.length = m₀.coins.length
  coin : ∀ (i : ℕ) (c : UnspentCoins), m.coins[i]? = some c →
    ∃ c₀ : UnspentCoins, m₀.coins[i]? = some c₀ ∧ c.owner = c₀.owner ∧
      (c.amount = c₀.amount ∨ c.amount = 0)
  balance : m.balance.toNat = (m.coins.map (·.amount.toNat)).sum
  chainId : m.chainId = m₀.chainId
  totalAmount : m.totalAmount = m₀.totalAmount
  hardBlacklist : m.hardBlacklist = m₀.hardBlacklist

theorem getElem?_spendItem {i j : ℕ} :
    (m.spendItem i)[j]? = m.coins[j]?.map fun c => if i = j then { c with amount := 0 } else c := by
  simp [spendItem, List.getElem?_modify]

/-- A payout keeps the invariant: the item paid keeps its owner and holds nothing, and the balance
loses what the item held. -/
theorem Conserves.pays {i : ℕ} (h : m₀.Conserves m) (hp : m.Pays m' i) : m₀.Conserves m' := by
  obtain ⟨hi, -, hle, rfl⟩ := hp
  refine ⟨?length, ?coin, ?balance, h.chainId, h.totalAmount, h.hardBlacklist⟩
  case length => simpa [spendItem] using h.length
  case coin =>
    intro j c hc
    rw [getElem?_spendItem, Option.map_eq_some_iff] at hc
    obtain ⟨c', hc', rfl⟩ := hc
    obtain ⟨c₀, hc₀, howner, hamount⟩ := h.coin j c' hc'
    refine ⟨c₀, hc₀, ?_, ?_⟩ <;> split_ifs
    · exact howner
    · exact howner
    · exact .inr rfl
    · exact hamount
  case balance =>
    -- the item's amount leaves both the balance and the sum of the items
    have hsum := sum_map_modify_add (·.amount.toNat) (fun c => { c with amount := 0 }) m.coins i hi
    have h0 : (0 : Uint).toNat = 0 := rfl
    dsimp only at hsum
    change (m.balance - m.coins[i].amount).toNat = ((m.spendItem i).map (·.amount.toNat)).sum
    rw [BitVec.toNat_sub_of_le hle, h.balance, spendItem]
    omega

theorem Conserves.exec (h : m₀.Conserves m) (env : MigrationEnv) (call : MigrationCall)
    (hd : m.exec hasher ecrecover env call = .ok m') : m₀.Conserves m' := by
  cases call with
  | claim itemId destination v r s =>
    obtain ⟨-, -, -, -, -, hp⟩ := claim_ok hd
    exact h.pays hp
  | blacklistClaim itemId owner =>
    obtain ⟨-, -, -, hp⟩ := blacklistClaim_ok hd
    exact h.pays hp

theorem Conserves.commit (h : m₀.Conserves m) (env : MigrationEnv) (call : MigrationCall) :
    m₀.Conserves (m.commit hasher ecrecover env call) := by
  unfold Gen2Migration.commit
  split
  · exact h.exec env call ‹_›
  · exact h

theorem Conserves.runCalls (h : m₀.Conserves m) (calls : List (MigrationEnv × MigrationCall)) :
    m₀.Conserves (m.runCalls hasher ecrecover calls) :=
  StateMachine.run_invariant _ m₀.Conserves h (fun _ c hc => hc.commit c.1 c.2) calls

/-- What a payout from a state of the invariant pays: an unpaid item, its amount at `m₀`. -/
theorem Conserves.pays_unpaid {i : ℕ} (h : m₀.Conserves m) (hp : m.Pays m' i) :
    ∃ c, m.coins[i]? = some c ∧ m₀.coins[i]? = some c ∧ 0 < c.amount ∧
      m'.coins = m.spendItem i ∧ m'.balance.toNat = m.balance.toNat - c.amount.toNat := by
  obtain ⟨hi, hpos, hle, rfl⟩ := hp
  have hc : m.coins[i]? = some m.coins[i] := List.getElem?_eq_getElem hi
  obtain ⟨c₀, hc₀, howner, hamount⟩ := h.coin i _ hc
  -- an item holding something is unpaid, so it is the item of `m₀`
  have hamount : m.coins[i].amount = c₀.amount :=
    hamount.resolve_right (BitVec.pos_iff_ne_zero _ |>.1 hpos)
  have heq : m.coins[i] = c₀ := by
    cases h : m.coins[i]
    cases c₀
    simp_all
  refine ⟨m.coins[i], hc, heq ▸ hc₀, hpos, rfl, BitVec.toNat_sub_of_le hle⟩

/-! ### The snapshot -/

theorem setSnapshot_ok {sender : Address} {owners : List Address} {amounts : List Uint}
    {blacklist : List Address} (h : m.setSnapshot sender owners amounts blacklist = .ok m') :
    m.coins.length = 0 ∧ sender = m.signerAddress ∧ owners.length = amounts.length ∧
      0 < owners.length ∧
      m' = { m with
        coins := List.zipWith UnspentCoins.mk owners amounts
        totalAmount := amounts.foldr (fun amount total => total + amount) 0
        hardBlacklist := fun a => m.hardBlacklist a || decide (a ∈ blacklist) } := by
  unfold setSnapshot at h
  obtain ⟨⟨⟩, h0, h⟩ := Except.bind_eq_ok_iff.1 h
  obtain ⟨⟨⟩, hsender, h⟩ := Except.bind_eq_ok_iff.1 h
  obtain ⟨⟨⟩, hlen, h⟩ := Except.bind_eq_ok_iff.1 h
  obtain ⟨⟨⟩, hpos, h⟩ := Except.bind_eq_ok_iff.1 h
  cases h
  exact ⟨require_eq_ok.1 h0, require_eq_ok.1 hsender, require_eq_ok.1 hlen, require_eq_ok.1 hpos,
    rfl⟩

/-- The wrapping sum of `setSnapshot` is the sum of the amounts when that is below `2^256`. -/
theorem foldr_add_toNat (amounts : List Uint) (h : (amounts.map (·.toNat)).sum < 2 ^ 256) :
    (amounts.foldr (fun amount total => total + amount) 0).toNat = (amounts.map (·.toNat)).sum := by
  induction amounts with
  | nil => rfl
  | cons a as ih =>
    simp only [List.map_cons, List.sum_cons] at h ⊢
    have ih' := ih (by omega)
    rw [List.foldr_cons, BitVec.toNat_add_of_lt (by omega), ih']
    omega

theorem map_amount_zipWith (owners : List Address) (amounts : List Uint)
    (h : owners.length = amounts.length) :
    (List.zipWith UnspentCoins.mk owners amounts).map (·.amount) = amounts := by
  induction owners generalizing amounts with
  | nil => cases amounts <;> simp_all
  | cons o os ih =>
    cases amounts with
    | nil => simp at h
    | cons a as => simp [ih as (by simpa using h)]

theorem getElem?_zipWith_mk {owners : List Address} {amounts : List Uint} {i : ℕ}
    {c : UnspentCoins} :
    (List.zipWith UnspentCoins.mk owners amounts)[i]? = some c ↔
      owners[i]? = some c.owner ∧ amounts[i]? = some c.amount := by
  rw [List.getElem?_zipWith]
  cases owners[i]? <;> cases amounts[i]? <;> cases c <;> simp

/-- After a snapshot whose amounts do not wrap and the consensus's setting of the balance, the
balance is what the items hold. -/
theorem conserves_finalizeMigration {chainId : Uint} {signer sender : Address}
    {owners : List Address} {amounts : List Uint} {blacklist : List Address}
    (hset : (new chainId signer).setSnapshot sender owners amounts blacklist = .ok m₀)
    (hsum : (amounts.map (·.toNat)).sum < 2 ^ 256) :
    m₀.Conserves m₀.finalizeMigration := by
  obtain ⟨-, -, hlen, -, rfl⟩ := setSnapshot_ok hset
  refine ⟨rfl, fun i c hc => ⟨c, hc, rfl, .inl rfl⟩, ?_, rfl, rfl, rfl⟩
  have htotal : ((List.zipWith UnspentCoins.mk owners amounts).map (·.amount.toNat)).sum =
      (amounts.map (·.toNat)).sum := by
    conv_rhs => rw [← map_amount_zipWith owners amounts hlen, List.map_map]
    rfl
  change (amounts.foldr (fun amount total => total + amount) 0).toNat = _
  rw [foldr_add_toNat amounts hsum]
  exact htotal.symm

/-! ### The runs after the snapshot -/

/-- After a snapshot whose amounts add up to less than `2^256` and the consensus's setting of the
balance, every state a run of claims reaches is for the same chain, its `totalAmount` is the
sum of the amounts, its balance is what the items hold, and each item keeps its owner and holds
its amount or nothing. A successful call pays one unpaid item its snapshot amount: `claim` with a
signature that recovers the item's owner, or that recovers no key for an item of owner 0, while
the owner is not blacklisted by the registry or the snapshot, and `blacklistClaim` from the
blacklist registry only. -/
theorem migration_conserves {chainId : Uint} {signer sender : Address} {owners : List Address}
    {amounts : List Uint} {blacklist : List Address} {m₀ : Gen2Migration}
    (hset : (new chainId signer).setSnapshot sender owners amounts blacklist = .ok m₀)
    (hsum : (amounts.map (·.toNat)).sum < 2 ^ 256) (hasher : Hasher)
    (ecrecover : EcrecoverPrecompile) (calls : List (MigrationEnv × MigrationCall)) :
    let m := m₀.finalizeMigration.runCalls hasher ecrecover calls
    m.chainId = chainId ∧
      m.totalAmount.toNat = (amounts.map (·.toNat)).sum ∧
      m.balance.toNat = (m.coins.map (·.amount.toNat)).sum ∧
      m.coins.length = owners.length ∧
      (∀ (i : ℕ) (c : UnspentCoins), m.coins[i]? = some c →
        owners[i]? = some c.owner ∧ (amounts[i]? = some c.amount ∨ c.amount = 0)) ∧
      (∀ env itemId destination v r s m',
        m.claim hasher ecrecover env itemId destination v r s = .ok m' →
        ∃ c, m.coins[itemId]? = some c ∧ owners[itemId]? = some c.owner ∧
          amounts[itemId]? = some c.amount ∧ 0 < c.amount ∧ m'.coins = m.spendItem itemId ∧
          m'.balance.toNat = m.balance.toNat - c.amount.toNat ∧
          (ecrecover (m.hashToSign hasher destination) v r s = some c.owner ∨
            ecrecover (m.hashToSign hasher destination) v r s = none ∧ c.owner = 0) ∧
          env.isBlacklisted c.owner = .ok false ∧ c.owner ∉ blacklist) ∧
      ∀ env itemId owner m', m.blacklistClaim env itemId owner = .ok m' →
        ∃ c, m.coins[itemId]? = some c ∧ owners[itemId]? = some owner ∧
          amounts[itemId]? = some c.amount ∧ 0 < c.amount ∧ m'.coins = m.spendItem itemId ∧
          m'.balance.toNat = m.balance.toNat - c.amount.toNat ∧ env.sender = env.blacklist := by
  intro m
  obtain ⟨-, -, hlen, -, hm₀⟩ := setSnapshot_ok hset
  have hc : m₀.Conserves m := (conserves_finalizeMigration hset hsum).runCalls calls
  -- the items of `m₀` are the snapshot's, and its hard blacklist the snapshot's list
  have hitem : ∀ (i : ℕ) (c : UnspentCoins), m₀.coins[i]? = some c →
      owners[i]? = some c.owner ∧ amounts[i]? = some c.amount := by
    intro i c h
    rw [hm₀] at h
    exact getElem?_zipWith_mk.1 h
  have hhard : ∀ a, m.hardBlacklist a = decide (a ∈ blacklist) := by
    intro a
    rw [hc.hardBlacklist, hm₀]
    simp [new]
  -- an item that a call pays is an unpaid item of the snapshot
  have hpaid : ∀ {itemId : ℕ} {m' : Gen2Migration} (hi : itemId < m.coins.length),
      m.Pays m' itemId → ∃ c, m.coins[itemId] = c ∧ m.coins[itemId]? = some c ∧
        owners[itemId]? = some c.owner ∧ amounts[itemId]? = some c.amount ∧ 0 < c.amount ∧
        m'.coins = m.spendItem itemId ∧ m'.balance.toNat = m.balance.toNat - c.amount.toNat := by
    intro itemId m' hi hp
    obtain ⟨c, hcm, hc₀, hpos, hcoins, hbal⟩ := hc.pays_unpaid hp
    obtain ⟨ho, ha⟩ := hitem itemId c hc₀
    have hci : m.coins[itemId] = c :=
      Option.some_injective _ ((List.getElem?_eq_getElem hi).symm.trans hcm)
    exact ⟨c, hci, hcm, ho, ha, hpos, hcoins, hbal⟩
  refine ⟨?chain, ?total, hc.balance, ?length, ?coin, ?claim, ?blacklistClaim⟩
  case chain => rw [hc.chainId, hm₀]; rfl
  case total =>
    rw [hc.totalAmount, hm₀]
    exact foldr_add_toNat amounts hsum
  case length =>
    rw [hc.length, hm₀, List.length_zipWith, hlen, Nat.min_self]
  case coin =>
    intro i c hci
    obtain ⟨c₀, hc₀, howner, hamount⟩ := hc.coin i c hci
    obtain ⟨ho, ha⟩ := hitem i c₀ hc₀
    refine ⟨howner ▸ ho, hamount.imp (fun h => ?_) id⟩
    rw [h]
    exact ha
  case claim =>
    intro env itemId destination v r s m' hd
    obtain ⟨hi, hrec, hbl, hhard', -, hp⟩ := claim_ok hd
    obtain ⟨c, hci, hcm, ho, ha, hpos, hcoins, hbal⟩ := hpaid hi hp
    rw [hci] at hrec hbl hhard'
    refine ⟨c, hcm, ho, ha, hpos, hcoins, hbal, ?_, hbl, ?_⟩
    · rcases Option.getD_eq_iff.1 hrec with h | ⟨h, h0⟩
      · exact .inl h
      · exact .inr ⟨h, h0.symm⟩
    · rw [hhard] at hhard'
      simpa using hhard'
  case blacklistClaim =>
    intro env itemId owner m' hd
    obtain ⟨hi, howner, hsender, hp⟩ := blacklistClaim_ok hd
    obtain ⟨c, hci, hcm, ho, ha, hpos, hcoins, hbal⟩ := hpaid hi hp
    rw [hci] at howner
    exact ⟨c, hcm, howner ▸ ho, ha, hpos, hcoins, hbal, hsender⟩

/-- A snapshot of two items, one of whose owners is hard blacklisted, and a claim of the other:
the total is the sum of the two. -/
theorem migration_conserves_two_items :
    ∃ m₀, (new 1 0x5167#160).setSnapshot 0x5167#160 [0xA#160, 0xB#160] [5, 7] [0xB#160] = .ok m₀ ∧
      (m₀.finalizeMigration.runCalls ⟨fun _ => 0, fun _ => 0, fun _ => 0, fun _ => 0⟩
        (fun _ _ _ _ => some 0xA#160)
        [(⟨0xA#160, 0xB1AC#160, fun _ => .ok false, fun _ => true⟩, .claim 0 0xD#160 27 0 0)]
        ).totalAmount.toNat = 12 := by
  obtain ⟨m₀, hm₀⟩ : ∃ m₀, (new 1 0x5167#160).setSnapshot 0x5167#160 [0xA#160, 0xB#160] [5, 7]
      [0xB#160] = .ok m₀ := ⟨_, rfl⟩
  exact ⟨m₀, hm₀, (migration_conserves hm₀ (by decide) _ _ _).2.1⟩

/-- A snapshot of two items of `2^255` each: `totalAmount`, and so the balance, is 0 while the
items hold `2^256`, and a claim of an item with its owner's signature fails the transfer. -/
theorem setSnapshot_total_wraps :
    let half : Uint := BitVec.ofNat 256 (2 ^ 255)
    let hasher : Hasher := ⟨fun _ => 0, fun _ => 0, fun _ => 0, fun _ => 0⟩
    let env : MigrationEnv := ⟨0xA#160, 0xB1AC#160, fun _ => .ok false, fun _ => true⟩
    ∃ m₀, (new 1 0x5167#160).setSnapshot 0x5167#160 [0xA#160, 0xB#160] [half, half] [] = .ok m₀ ∧
      ([half, half].map (·.toNat)).sum = 2 ^ 256 ∧
      m₀.totalAmount = 0 ∧ m₀.finalizeMigration.balance = 0 ∧
      (m₀.finalizeMigration.coins.map (·.amount.toNat)).sum = 2 ^ 256 ∧
      m₀.finalizeMigration.claim hasher (fun _ _ _ _ => some 0xA#160) env 0 0xD#160 27 0 0 =
        .error (.require "") :=
  ⟨_, rfl, rfl, rfl, rfl, rfl, rfl⟩

end Gen2Migration

end RangeCore.Governance
