import RangeCore.Core.Precompile
import RangeCore.Lib.Base58
import RangeCore.Lib.GoRuntime
import RangeCore.Lib.Uuid
import RangeCore.Governance.Treasury

/-!
# Proposal listings of the governance API

`GovernanceAPI` of `range/api/governance.go` lists the open proposals of the governed contracts
for the node's RPC, and lists them again on every new head. `proposalInfo` reads a proposal's
getters and its balance, and gives nil for the zero address. `upgradeProposalInfo` lists the
upgrade proposals of a governed proxy and `treasuryInfo` the budget proposals of the treasury, in
two loops of one shape: each proposal whose information was read is appended to `ret`, and what
more is read of it is then written to `ret[i]`, at the proposal's index in the list the contract
returned. Once a proposal has been skipped, `i` is past the end of `ret` and the write panics
(`GoSlice.appendFill`). The listing panics exactly when a proposal whose information could not be
read comes before one whose further reads succeed (`upgradeProposalInfo_eq_none_iff`); where every
proposal's information is read, each proposal is listed at its own index, with what was read of
it (`treasuryInfo_of_listed`).

A budget proposal keeps the UUID its proposer gave `BudgetPropose`, which `treasuryPropose` parses
and sends to the treasury as the number of its 16 bytes, `ref_uuid`. `treasuryInfo` prints the
number's bytes, padded to 16, as a UUID: the text of the UUID the proposal was made with, which
parses back to it (`budgetPropose_refUUID`).

A contract call is given by its result: an error, or the value read. The binding constructors,
which only parse the contracts' constant ABIs, do not fail and are left out.

## Main definitions

* `RangeCore.bigIntBytes`.
* `RangeCore.Api.ProposalInfo`, `RangeCore.Api.ProposalCaller`, `RangeCore.Api.proposalInfo`.
* `RangeCore.Api.upgradeProposalInfo`.
* `RangeCore.Api.refUUIDText`, `RangeCore.Api.treasuryInfo`, `RangeCore.Api.treasuryPropose`.

## Main results

* `RangeCore.Api.upgradeProposalInfo_eq_none_iff`: when listing the upgrade proposals panics.
* `RangeCore.Api.treasuryInfo_of_listed`: what the budget listing holds.
* `RangeCore.Api.budgetPropose_refUUID`: the UUID a budget proposal is listed with.
-/

namespace RangeCore

/-- `x.Bytes()` of a `big.Int`: the big-endian bytes of the number, without leading zeros. -/
def bigIntBytes (n : ℕ) : List UInt8 := ((Nat.digits 256 n).map UInt8.ofNat).reverse

theorem bytesToNat_bigIntBytes (n : ℕ) : bytesToNat (bigIntBytes n) = n := by
  have hdig : (Nat.digits 256 n).map (fun d => (UInt8.ofNat d).toNat) = Nat.digits 256 n := by
    rw [List.map_congr_left (g := id) ?_, List.map_id]
    intro d hd
    have hlt : d < 256 := Nat.digits_lt_base (by norm_num) hd
    exact UInt8.toNat_ofNat_of_lt' hlt
  rw [bytesToNat, ← List.foldl_map (g := fun n d => 256 * n + d), Base58.foldl_eq_ofDigits,
    bigIntBytes, List.map_reverse, List.reverse_reverse, List.map_map]
  simp only [Function.comp_def, hdig, Nat.ofDigits_digits, zero_mul, zero_add]

theorem bytesToNat_replicate_zero (m : ℕ) : bytesToNat (List.replicate m 0) = 0 := by
  induction m with
  | zero => rfl
  | succ m ih => simp [List.replicate_succ', ih]

theorem length_bigIntBytes_le {n k : ℕ} (h : n < 256 ^ k) : (bigIntBytes n).length ≤ k := by
  rw [bigIntBytes, List.length_reverse, List.length_map]
  exact (Nat.digits_length_le_iff (by norm_num) n).2 h

/-- Below `256^k`, the bytes of a number padded to `k` are its `k`-byte encoding. -/
theorem leftPadBytes_bigIntBytes {n k : ℕ} (h : n < 256 ^ k) :
    leftPadBytes (bigIntBytes n) k = bytesBE k n := by
  have hlen : (leftPadBytes (bigIntBytes n) k).length = k := by
    have := length_bigIntBytes_le h
    unfold leftPadBytes
    split_ifs
    · omega
    · simp only [List.length_append, List.length_replicate]
      omega
  have hval : bytesToNat (leftPadBytes (bigIntBytes n) k) = n := by
    unfold leftPadBytes
    split_ifs
    · exact bytesToNat_bigIntBytes n
    · rw [bytesToNat_append, bytesToNat_bigIntBytes, bytesToNat_replicate_zero, zero_mul,
        zero_add]
  rw [← bytesBE_bytesToNat (leftPadBytes (bigIntBytes n) k), hlen, hval]

namespace Api

/-- `ProposalInfo`. The weights and the balance are `*hexutil.Big`s the calls return. -/
structure ProposalInfo where
  proposal : Address
  proposer : Address
  createdBlock : UInt64
  deadline : UInt64
  quorumWeight : ℕ
  totalWeight : ℕ
  rejectWeight : ℕ
  acceptWeight : ℕ
  finished : Bool
  accepted : Bool
  balance : ℕ
  deriving DecidableEq, Repr

/-- The calls `proposalInfo` makes, by proposal address: the getters of `IProposal`, and the
balance `getBalance` reads in the state of the current block. -/
structure ProposalCaller where
  feePayer : Address → Except String Address
  createdBlock : Address → Except String ℕ
  deadline : Address → Except String ℕ
  quorumWeight : Address → Except String ℕ
  totalWeight : Address → Except String ℕ
  rejectedWeight : Address → Except String ℕ
  acceptedWeight : Address → Except String ℕ
  isFinished : Address → Except String Bool
  isAccepted : Address → Except String Bool
  getBalance : Address → Except String ℕ

/-- `proposalInfo(backend, address)`: nil for the zero address, the first failing call's error,
or the proposal's information. `block.Uint64()` keeps the low 64 bits. -/
def proposalInfo (c : ProposalCaller) (address : Address) : Except String (Option ProposalInfo) :=
  if address = 0 then pure none
  else do
    let proposer ← c.feePayer address
    let block ← c.createdBlock address
    let deadline ← c.deadline address
    let quorumW ← c.quorumWeight address
    let totalW ← c.totalWeight address
    let rejectedW ← c.rejectedWeight address
    let acceptedW ← c.acceptedWeight address
    let finished ← c.isFinished address
    let accepted ← c.isAccepted address
    let balance ← c.getBalance address
    pure (some
      { proposal := address, proposer, createdBlock := UInt64.ofNat block
        deadline := UInt64.ofNat deadline, quorumWeight := quorumW, totalWeight := totalW
        rejectWeight := rejectedW, acceptWeight := acceptedW, finished, accepted, balance })

/-- `proposalInfo` gives nil only for the zero address. -/
theorem proposalInfo_eq_ok_none_iff {c : ProposalCaller} {address : Address} :
    proposalInfo c address = .ok none ↔ address = 0 := by
  unfold proposalInfo
  split_ifs with h0
  · exact ⟨fun _ => h0, fun _ => rfl⟩
  · refine ⟨fun h => ?_, fun h => absurd h h0⟩
    -- past the ten calls the result is some information
    repeat obtain ⟨_, -, h⟩ := Except.bind_eq_ok_iff.1 h
    cases h

/-- The entry of a listing for a proposal: `none` for the dereference of the nil `pInfo` that
`proposalInfo` gives for the zero address, `some none` where it failed and the loop continues. -/
def listEntry {α : Type} (mk : ProposalInfo → α) (c : ProposalCaller) (p : Address) :
    Option (Option α) :=
  match proposalInfo c p with
  | .error _ => some none
  | .ok none => none
  | .ok (some info) => some (some (mk info))

section ListEntry

variable {α : Type} {mk : ProposalInfo → α} {c : ProposalCaller} {p : Address}

theorem listEntry_eq_none_iff : listEntry mk c p = none ↔ p = 0 := by
  rw [← proposalInfo_eq_ok_none_iff (c := c)]
  unfold listEntry
  split <;> simp_all

theorem listEntry_eq_some_none_iff :
    listEntry mk c p = some none ↔ ∃ e, proposalInfo c p = .error e := by
  unfold listEntry
  split <;> simp_all

theorem listEntry_eq_some_some_iff {x : α} :
    listEntry mk c p = some (some x) ↔
      ∃ info, proposalInfo c p = .ok (some info) ∧ mk info = x := by
  unfold listEntry
  split <;> simp_all

/-- A proposal is filled where its information and the further reads were read. -/
theorem fills_listEntry {β : Type} {fill : Address → Option (β → β)} {mk : ProposalInfo → β} :
    GoSlice.Fills (listEntry mk c) fill p ↔
      (∃ info, proposalInfo c p = .ok (some info)) ∧ ∃ f, fill p = some f := by
  simp only [GoSlice.Fills, listEntry_eq_some_some_iff]
  constructor
  · rintro ⟨-, f, ⟨info, hinfo, -⟩, hf⟩
    exact ⟨⟨info, hinfo⟩, f, hf⟩
  · rintro ⟨⟨info, hinfo⟩, f, hf⟩
    exact ⟨mk info, f, ⟨info, hinfo, rfl⟩, hf⟩

end ListEntry

/-- `UpgradeProposalInfo`. -/
structure UpgradeProposalInfo extends ProposalInfo where
  impl : Address
  proxy : Address
  deriving DecidableEq, Repr

/-- The second half of the loop of `upgradeProposalInfo`: the implementation and the proxy
written to `ret[i]`, where `UpgradeProposalImpl` succeeds. -/
def upgradeFill (proxy : Address) (upgradeProposalImpl : Address → Except String Address)
    (p : Address) : Option (UpgradeProposalInfo → UpgradeProposalInfo) :=
  match upgradeProposalImpl p with
  | .error _ => none
  | .ok impl => some fun u => { u with impl, proxy }

theorem exists_upgradeFill_eq_some {proxy p : Address}
    {upgradeProposalImpl : Address → Except String Address} :
    (∃ f, upgradeFill proxy upgradeProposalImpl p = some f) ↔
      ∃ impl, upgradeProposalImpl p = .ok impl := by
  unfold upgradeFill
  split <;> simp_all

/-- `upgradeProposalInfo(num, proxy)`, on what `ListUpgradeProposals` and `UpgradeProposalImpl`
return: the error of the listing, or the loop over the proposals, `none` where it panics. Each
proposal whose information was read is appended, and its implementation and proxy written to
`ret[i]` where `UpgradeProposalImpl` succeeds. -/
def upgradeProposalInfo (c : ProposalCaller) (proxy : Address)
    (listUpgradeProposals : Except String (List Address))
    (upgradeProposalImpl : Address → Except String Address) :
    Option (Except String (List UpgradeProposalInfo)) :=
  match listUpgradeProposals with
  | .error e => some (.error e)
  | .ok proposals =>
    (GoSlice.appendFill (listEntry (fun info => { info with impl := 0, proxy := 0 }) c)
      (upgradeFill proxy upgradeProposalImpl) 0 proposals []).map .ok

/-- Listing the upgrade proposals of a proxy panics exactly when a proposal whose information
could not be read comes before one whose information and implementation were read: the write to
`ret[i]` is then past the end of `ret`. The proxy lists no zero address. -/
theorem upgradeProposalInfo_eq_none_iff {c : ProposalCaller} {proxy : Address}
    {proposals : List Address} {upgradeProposalImpl : Address → Except String Address}
    (h0 : (0 : Address) ∉ proposals) :
    upgradeProposalInfo c proxy (.ok proposals) upgradeProposalImpl = none ↔
      ∃ p q, List.Sublist [p, q] proposals ∧ (∃ e, proposalInfo c p = .error e) ∧
        (∃ info, proposalInfo c q = .ok (some info)) ∧
        ∃ impl, upgradeProposalImpl q = .ok impl := by
  have hentry : ∀ p ∈ proposals,
      listEntry (fun info => { info with impl := 0, proxy := 0 : UpgradeProposalInfo }) c p ≠
        none := fun p hp h => h0 (listEntry_eq_none_iff.1 h ▸ hp)
  have hlen : ([] : List UpgradeProposalInfo).length ≤ 0 := le_rfl
  rw [upgradeProposalInfo, Option.map_eq_none_iff, GoSlice.appendFill_eq_none_iff hentry hlen]
  simp only [List.length_nil, lt_self_iff_false, false_and, false_or, listEntry_eq_some_none_iff,
    fills_listEntry, exists_upgradeFill_eq_some]

/-- A proxy that lists a proposal without code, `1`, before a readable one, `2`. -/
def sampleCaller : ProposalCaller where
  feePayer p := if p = 1 then .error "no contract code at given address" else .ok 0
  createdBlock _ := .ok 0
  deadline _ := .ok 0
  quorumWeight _ := .ok 0
  totalWeight _ := .ok 0
  rejectedWeight _ := .ok 0
  acceptedWeight _ := .ok 0
  isFinished _ := .ok false
  isAccepted _ := .ok false
  getBalance _ := .ok 0

theorem upgradeProposalInfo_eq_none_iff_sample :
    (0 : Address) ∉ [1, 2] ∧
      (upgradeProposalInfo sampleCaller 0x300 (.ok [1, 2]) (fun _ => .ok 0x400) = none ↔
        ∃ p q, List.Sublist [p, q] [1, 2] ∧ (∃ e, proposalInfo sampleCaller p = .error e) ∧
          (∃ info, proposalInfo sampleCaller q = .ok (some info)) ∧
          ∃ impl, (fun _ => (.ok 0x400 : Except String Address)) q = .ok impl) :=
  ⟨by decide, upgradeProposalInfo_eq_none_iff (by decide)⟩

/-- `BudgetProposalInfo`. The amounts are nil and the UUID empty where they were not read. -/
structure BudgetProposalInfo extends ProposalInfo where
  proposedAmount : Option ℕ
  paidAmount : Option ℕ
  refUUID : List UInt8
  deriving DecidableEq, Repr

/-- `BudgetInfo`: the balance is nil where `getBalance` failed. -/
structure BudgetInfo where
  balance : Option ℕ
  proposals : List BudgetProposalInfo
  deriving DecidableEq, Repr

/-- The getters of `IBudgetProposal` that `treasuryInfo` calls, by proposal address. -/
structure BudgetCaller where
  proposedAmount : Address → Except String ℕ
  paidAmount : Address → Except String ℕ
  refUuid : Address → Except String ℕ

/-- `uuid.UUID(common.LeftPadBytes(ref_uuid.Bytes(), 16)).String()`. -/
def refUUIDText (refUuid : ℕ) : List UInt8 := Uuid.toString (leftPadBytes (bigIntBytes refUuid) 16)

/-- The second half of the loop of `treasuryInfo`: the amounts and the UUID written to `ret[i]`,
where all three getters succeed. -/
def budgetFill (b : BudgetCaller) (p : Address) :
    Option (BudgetProposalInfo → BudgetProposalInfo) :=
  match b.proposedAmount p, b.paidAmount p, b.refUuid p with
  | .ok proposed, .ok paid, .ok refUuid =>
    some fun x =>
      { x with proposedAmount := some proposed, paidAmount := some paid
               refUUID := refUUIDText refUuid }
  | _, _, _ => none

/-- `treasuryInfo(addr, backend)`, on what `ListProposals` and the proxy's `Impl` return: the
error of the listing, or the loop over the proposals, `none` where it panics, and the balance of
the implementation, or of `addr` where `Impl` failed. -/
def treasuryInfo (c : ProposalCaller) (b : BudgetCaller) (addr : Address)
    (listProposals : Except String (List Address)) (impl : Except String Address) :
    Option (Except String BudgetInfo) :=
  match listProposals with
  | .error e => some (.error e)
  | .ok proposals =>
    let impl := match impl with
      | .ok impl => impl
      | .error _ => addr
    (GoSlice.appendFill
      (listEntry (fun info => { info with proposedAmount := none, paidAmount := none
                                          refUUID := [] }) c)
      (budgetFill b) 0 proposals []).map fun ret =>
        .ok { balance := (c.getBalance impl).toOption, proposals := ret }

/-- Where the information of every proposal the treasury lists is read, the listing does not
panic, and lists each proposal at its own index, with its amounts and UUID where all three were
read. -/
theorem treasuryInfo_of_listed {c : ProposalCaller} {b : BudgetCaller} {addr : Address}
    {proposals : List Address} {impl : Except String Address} {g : Address → ProposalInfo}
    (hg : ∀ p ∈ proposals, proposalInfo c p = .ok (some (g p))) :
    treasuryInfo c b addr (.ok proposals) impl =
      some (.ok
        { balance := (c.getBalance (match impl with | .ok impl => impl | .error _ => addr)).toOption
          proposals := proposals.map fun p =>
            match b.proposedAmount p, b.paidAmount p, b.refUuid p with
            | .ok proposed, .ok paid, .ok refUuid =>
              { g p with proposedAmount := some proposed, paidAmount := some paid
                         refUUID := refUUIDText refUuid }
            | _, _, _ =>
              { g p with proposedAmount := none, paidAmount := none, refUUID := [] } }) := by
  have hentry : ∀ p ∈ proposals,
      listEntry (fun info => { info with proposedAmount := none, paidAmount := none
                                         refUUID := [] : BudgetProposalInfo }) c p =
        some (some { g p with proposedAmount := none, paidAmount := none, refUUID := [] }) :=
    fun p hp => listEntry_eq_some_some_iff.2 ⟨g p, hg p hp, rfl⟩
  have hlen : ([] : List BudgetProposalInfo).length = 0 := rfl
  unfold treasuryInfo
  dsimp only
  rw [← hlen, GoSlice.appendFill_of_entries hentry, List.nil_append, Option.map_some]
  simp only [Option.some.injEq, Except.ok.injEq, BudgetInfo.mk.injEq, true_and]
  -- each entry is filled exactly where the three getters succeeded
  refine List.map_congr_left fun p _ => ?_
  unfold budgetFill
  split <;> rfl

/-- What `proposalInfo` reads of a proposal of `sampleCaller`. -/
def sampleInfo (p : Address) : ProposalInfo :=
  ⟨p, 0, 0, 0, 0, 0, 0, 0, false, false, 0⟩

/-- Budget proposals whose getters succeed, but for the UUID of `3`. -/
def sampleBudget : BudgetCaller where
  proposedAmount _ := .ok 5
  paidAmount _ := .ok 1
  refUuid p := if p = 2 then .ok 42 else .error "execution reverted"

theorem treasuryInfo_of_listed_two :
    (∀ p ∈ [2, 3], proposalInfo sampleCaller p = .ok (some (sampleInfo p))) ∧
      treasuryInfo sampleCaller sampleBudget 0x301 (.ok [2, 3]) (.ok 0x302) =
        some (.ok { balance := some 0
                    proposals := [⟨sampleInfo 2, some 5, some 1, refUUIDText 42⟩,
                      ⟨sampleInfo 3, none, none, []⟩] }) := by
  have hg : ∀ p ∈ [(2 : Address), 3], proposalInfo sampleCaller p = .ok (some (sampleInfo p)) := by
    intro p hp
    rcases List.mem_pair.1 hp with rfl | rfl <;> rfl
  exact ⟨hg, (treasuryInfo_of_listed hg).trans rfl⟩

/-- `treasuryPropose(backend, addr, amount, ref_uuid, period, fee, payer, password)`, up to the
transaction it sends: the treasury's `propose`, with the fee as its value and the UUID's 16 bytes
as one number, each packed into a `uint256`; or the error of a UUID that does not parse.
`registry` is the registry the call will read. -/
def treasuryPropose (registry : Governance.MasternodeRegistryV2) (amount : ℕ)
    (refUuid : List UInt8) (period : UInt64) (fee : ℕ) : Except String Governance.TreasuryCall :=
  match Uuid.parse refUuid with
  | none => .error "Failed to parse UUID"
  | some refUuidB =>
    .ok (.propose registry (BitVec.ofNat 256 fee) (BitVec.ofNat 256 amount)
      (BitVec.ofNat 256 (bytesToNat refUuidB)) (BitVec.ofNat 256 period.toNat))

/-- The UUID of 16 bytes, sent as a number and printed back, is its text. -/
theorem refUUIDText_bytesToNat {u : List UInt8} (hu : u.length = 16) :
    refUUIDText (bytesToNat u) = Uuid.toString u := by
  have hlt : bytesToNat u < 256 ^ 16 := hu ▸ bytesToNat_lt u
  rw [refUUIDText, leftPadBytes_bigIntBytes hlt, ← hu, bytesBE_bytesToNat]

/-- A budget proposal made through `BudgetPropose` is created by the treasury with the UUID its
proposer gave, and `treasuryInfo` lists it with that UUID's text, which parses back to it. -/
theorem budgetPropose_refUUID {registry : Governance.MasternodeRegistryV2} {amount fee : ℕ}
    {refUuid : List UInt8} {period : UInt64} {call : Governance.TreasuryCall}
    {t t' : Governance.Treasury} {env : Governance.CallEnv}
    (hcall : treasuryPropose registry amount refUuid period fee = .ok call)
    (hexec : t.exec env call = .ok t') :
    ∃ u b, Uuid.parse refUuid = some u ∧ t'.proposals t.nextProposal = some b ∧
      refUUIDText b.refUuid.toNat = Uuid.toString u ∧
      Uuid.parse (refUUIDText b.refUuid.toNat) = some u := by
  unfold treasuryPropose at hcall
  split at hcall
  · cases hcall
  · rename_i u hu
    cases hcall
    obtain ⟨b, hb, hrefUuid⟩ := Governance.Treasury.propose_refUuid hexec
    have hlen : u.length = 16 := Uuid.length_of_parse hu
    -- the 16 bytes fit in 256 bits
    have hfit : bytesToNat u < 2 ^ 256 :=
      calc bytesToNat u < 256 ^ u.length := bytesToNat_lt u
        _ = 2 ^ 128 := by rw [hlen]; norm_num
        _ < 2 ^ 256 := by norm_num
    have htext : refUUIDText b.refUuid.toNat = Uuid.toString u := by
      rw [hrefUuid, BitVec.toNat_ofNat, Nat.mod_eq_of_lt hfit, refUUIDText_bytesToNat hlen]
    exact ⟨u, b, hu, hb, htext, htext ▸ Uuid.parse_toString hlen⟩

/-- `00000000-0000-0000-0000-00000000002a`. -/
def sampleUuidText : List UInt8 :=
  [48, 48, 48, 48, 48, 48, 48, 48, 45, 48, 48, 48, 48, 45, 48, 48, 48, 48, 45, 48, 48, 48, 48, 45,
    48, 48, 48, 48, 48, 48, 48, 48, 48, 48, 50, 97]

/-- The registry's environment of a call: every owner holds the minimum collateral. -/
def sampleRegistryEnv (caller : Address) (blockNumber timestamp msgValue : Governance.Uint) :
    Governance.RegistryEnv :=
  { caller, blockNumber, timestamp, msgValue
    balanceInfo := fun _ => (Governance.mnCollateralV2Min, 5), blockhash := fun _ => 0, gas := 10
    accepts := fun _ => true, treasuryReward := fun _ => .ok () }

/-- A registry with one announced masternode, and a proposal with the smallest fee, amount and
period. -/
theorem budgetPropose_refUUID_sample :
    ∃ r₀ t call t',
      Governance.MasternodeRegistryV2.new ⟨5, 3, 86400, Governance.mnCollateralV2Min, 1⟩
        (sampleRegistryEnv 0xA11CE#160 1 0 0) = .ok r₀ ∧
      Governance.Treasury.new 0x301#160 10 = .ok t ∧
      treasuryPropose
        (r₀.runCalls
          [(sampleRegistryEnv 0xA11CE#160 10 1000 0, .announce 0xA#160 0x01020304 (0, 0))])
        (100 * 10 ^ 18) sampleUuidText 1209600 (100 * 10 ^ 18) = .ok call ∧
      t.exec ⟨0xA11CE#160, 11, 1000⟩ call = .ok t' ∧
      ∃ u b, Uuid.parse sampleUuidText = some u ∧ t'.proposals t.nextProposal = some b ∧
        refUUIDText b.refUuid.toNat = Uuid.toString u ∧
        Uuid.parse (refUUIDText b.refUuid.toNat) = some u := by
  -- the run succeeds, and the theorem applies to the states it gives
  obtain ⟨r₀, t, call, t', hr₀, ht, hcall, hexec⟩ : ∃ r₀ t call t',
      Governance.MasternodeRegistryV2.new ⟨5, 3, 86400, Governance.mnCollateralV2Min, 1⟩
        (sampleRegistryEnv 0xA11CE#160 1 0 0) = .ok r₀ ∧
      Governance.Treasury.new 0x301#160 10 = .ok t ∧
      treasuryPropose
        (r₀.runCalls
          [(sampleRegistryEnv 0xA11CE#160 10 1000 0, .announce 0xA#160 0x01020304 (0, 0))])
        (100 * 10 ^ 18) sampleUuidText 1209600 (100 * 10 ^ 18) = .ok call ∧
      t.exec ⟨0xA11CE#160, 11, 1000⟩ call = .ok t' :=
    ⟨_, _, _, _, rfl, rfl, rfl, rfl⟩
  exact ⟨r₀, t, call, t', hr₀, ht, hcall, hexec, budgetPropose_refUUID hcall hexec⟩

end Api

end RangeCore
