import RangeCore.Core.Precompile
import RangeCore.Lib.Base58
import RangeCore.Lib.GoRuntime

/-!
# The Gen 2 snapshot of the migration block

The migration block carries one `setSnapshot(owners, amounts, blacklist)` call, whose arguments
`createSnapshotParams` of `consensus/migration.go` builds from a snapshot file: each owner and
each blacklisted address is a Base58 Gen 2 address, of which the call takes the 20 bytes between
the version byte and the 4-byte checksum, `owner[1:len(owner)-4]`, and each amount is scaled from
Gen 2's 8 decimals to Gen 3's 18. `ValidateMigration` rebuilds the call from the file and compares
it with the block's first transaction.

Nothing checks the file's contents before that. A string that decodes to fewer than 5 bytes
(the empty string decodes to none) makes the slice panic, and an item whose `amount` the JSON
leaves out has a nil `*big.Int`, on which `Mul` panics. Either crashes the node in
`ValidateMigration` (`createSnapshotParams_panics`). A string that is not Base58 is the one error
the code handles.

A panic is `none`; the `(nil, nil, nil)` of a decoding failure is an `Except.error` carrying the
log message.

## Main definitions

* `RangeCore.Consensus.SnapshotItem`, `RangeCore.Consensus.Snapshot`.
* `RangeCore.Consensus.ownerPayload`, `RangeCore.Consensus.createSnapshotParams`.
* `RangeCore.Consensus.validateMigration`.

## Main results

* `RangeCore.Consensus.ownerPayload_eq_none_iff`: the slice panics exactly below 5 bytes.
* `RangeCore.Consensus.createSnapshotParams_panics`.
* `RangeCore.Consensus.createSnapshotParams_eq_ok_iff`: when the call's arguments are built, and
  what they are.
-/

namespace RangeCore

namespace Consensus

/-- `snapshotItem`: a Gen 2 output. `amount` is `none` where the JSON has no `amount`, which
leaves the `*big.Int` nil. -/
structure SnapshotItem where
  owner : String
  amount : Option ℤ
  atype : String
  deriving DecidableEq, Repr

/-- `snapshot`, as `parseSnapshot` decodes it. -/
structure Snapshot where
  txouts : List SnapshotItem
  blacklist : List String
  hash : String
  deriving DecidableEq, Repr

/-- The Gen 2 amounts have 8 decimals, the Gen 3 ones 18. -/
def snapshotMultiplier : ℤ := 10 ^ 10

/-- `owner[1 : len(owner)-4]`: the address without its version byte and checksum. In Go the
upper bound is negative below 4 bytes; its truncation to `0` here panics as well, as the lower
bound `1` is past it. -/
def ownerPayload (owner : List UInt8) : Option (List UInt8) :=
  GoSlice.slice owner 1 (owner.length - 4)

theorem ownerPayload_eq_none_iff {owner : List UInt8} :
    ownerPayload owner = none ↔ owner.length < 5 := by
  rw [ownerPayload, GoSlice.slice_eq_none_iff]
  omega

/-- One iteration of a loop of `createSnapshotParams`: `base58.Decode` then the slice. -/
def decodeOwner (owner : String) : Option (Except String Address) :=
  match Base58.decode Base58.bitcoinAlphabet owner with
  | none => some (.error "Failed to decode address")
  | some bytes => (ownerPayload bytes).map fun o => .ok (bytesToAddress o)

/-- An owner panics exactly when it is Base58 for fewer than 5 bytes. -/
theorem decodeOwner_eq_none_iff {owner : String} :
    decodeOwner owner = none ↔
      ∃ bytes, Base58.decode Base58.bitcoinAlphabet owner = some bytes ∧ bytes.length < 5 := by
  unfold decodeOwner
  split
  · rename_i h
    simp [h]
  · rename_i bytes h
    simp [h, ownerPayload_eq_none_iff]

/-- The loop over `ss.Txouts`: the owner, then `new(big.Int).Mul(info.Amount, multiplier)`, in
the order of the source, so that the first item that fails decides. -/
def txoutParams : List SnapshotItem → Option (Except String (List Address × List ℤ))
  | [] => some (.ok ([], []))
  | info :: rest => do
    match ← decodeOwner info.owner with
    | .error e => pure (.error e)
    | .ok owner =>
      let amount ← info.amount
      let r ← txoutParams rest
      pure (r.map fun p => (owner :: p.1, amount * snapshotMultiplier :: p.2))

/-- The loop panics at an item whose owner panics, whatever follows it. -/
theorem txoutParams_cons_of_decodeOwner {info : SnapshotItem} {rest : List SnapshotItem}
    (h : decodeOwner info.owner = none) : txoutParams (info :: rest) = none := by
  rw [txoutParams, h]
  rfl

/-- The loop panics at an item with a valid owner and no amount, whatever follows it. -/
theorem txoutParams_cons_of_amount {info : SnapshotItem} {rest : List SnapshotItem}
    {owner : Address} (h : decodeOwner info.owner = some (.ok owner)) (ha : info.amount = none) :
    txoutParams (info :: rest) = none := by
  rw [txoutParams, h]
  simp [ha]

/-- One item through the loop: its owner and its amount, and the rest of the loop. -/
theorem txoutParams_cons_eq_ok {info : SnapshotItem} {rest : List SnapshotItem}
    {owners : List Address} {amounts : List ℤ} :
    txoutParams (info :: rest) = some (.ok (owners, amounts)) ↔
      ∃ owner x os as, decodeOwner info.owner = some (.ok owner) ∧ info.amount = some x ∧
        txoutParams rest = some (.ok (os, as)) ∧ owners = owner :: os ∧
          amounts = x * snapshotMultiplier :: as := by
  rw [txoutParams]
  -- the three places the item can stop the loop, then the rest of the loop
  rcases decodeOwner info.owner with _ | _ | owner
  · simp
  · simp
  rcases info.amount with _ | x
  · simp
  rcases txoutParams rest with _ | _ | ⟨os, as⟩
  · simp
  · simp [Except.map]
  · simp [Except.map, eq_comm]

/-- The loop succeeds exactly when every item has an owner that decodes and an amount, and then
returns them in the order of the items, the amounts scaled to 18 decimals. -/
theorem txoutParams_eq_ok_iff {infos : List SnapshotItem} {owners : List Address}
    {amounts : List ℤ} :
    txoutParams infos = some (.ok (owners, amounts)) ↔
      List.Forall₂ (fun info owner => decodeOwner info.owner = some (.ok owner)) infos owners ∧
        List.Forall₂ (fun info amount => ∃ x, info.amount = some x ∧
          amount = x * snapshotMultiplier) infos amounts := by
  induction infos generalizing owners amounts with
  | nil => cases owners <;> cases amounts <;> simp [txoutParams]
  | cons info rest ih =>
    rw [txoutParams_cons_eq_ok]
    constructor
    · rintro ⟨owner, x, os, as, hd, ha, hr, rfl, rfl⟩
      obtain ⟨hos, has⟩ := ih.1 hr
      exact ⟨.cons hd hos, .cons ⟨x, ha, rfl⟩ has⟩
    · rintro ⟨hos, has⟩
      obtain ⟨owner, os, hd, hos', rfl⟩ := List.forall₂_cons_left_iff.1 hos
      obtain ⟨a, as, ⟨x, ha, rfl⟩, has', rfl⟩ := List.forall₂_cons_left_iff.1 has
      exact ⟨owner, x, os, as, hd, ha, ih.2 ⟨hos', has'⟩, rfl, rfl⟩

/-- The loop over `ss.Blacklist`. -/
def blacklistParams : List String → Option (Except String (List Address))
  | [] => some (.ok [])
  | blo :: rest => do
    match ← decodeOwner blo with
    | .error e => pure (.error e)
    | .ok owner =>
      let r ← blacklistParams rest
      pure (r.map (owner :: ·))

/-- The blacklist loop succeeds exactly when every address decodes, and then returns them in
order. -/
theorem blacklistParams_eq_ok_iff {blos : List String} {owners : List Address} :
    blacklistParams blos = some (.ok owners) ↔
      List.Forall₂ (fun blo owner => decodeOwner blo = some (.ok owner)) blos owners := by
  induction blos generalizing owners with
  | nil => cases owners <;> simp [blacklistParams]
  | cons blo rest ih =>
    have hcons : blacklistParams (blo :: rest) = some (.ok owners) ↔
        ∃ owner os, decodeOwner blo = some (.ok owner) ∧ blacklistParams rest = some (.ok os) ∧
          owners = owner :: os := by
      rw [blacklistParams]
      rcases decodeOwner blo with _ | _ | owner
      · simp
      · simp
      rcases blacklistParams rest with _ | _ | os
      · simp
      · simp [Except.map]
      · simp [Except.map, eq_comm]
    rw [hcons, List.forall₂_cons_left_iff]
    constructor
    · rintro ⟨owner, os, hd, hr, rfl⟩
      exact ⟨owner, os, hd, ih.1 hr, rfl⟩
    · rintro ⟨owner, os, hd, hos, rfl⟩
      exact ⟨owner, os, hd, ih.2 hos, rfl⟩

/-- `createSnapshotParams(ss)`: the owners, amounts and blacklist of `setSnapshot`, the
`(nil, nil, nil)` of a decoding failure as an error, or `none` for a panic. -/
def createSnapshotParams (ss : Snapshot) :
    Option (Except String (List Address × List ℤ × List Address)) := do
  match ← txoutParams ss.txouts with
  | .error e => pure (.error e)
  | .ok (owners, amounts) =>
    match ← blacklistParams ss.blacklist with
    | .error e => pure (.error e)
    | .ok blacklist => pure (.ok (owners, amounts, blacklist))

theorem createSnapshotParams_of_txoutParams {ss : Snapshot} (h : txoutParams ss.txouts = none) :
    createSnapshotParams ss = none := by
  rw [createSnapshotParams, h]
  rfl

/-- An address that decodes: Base58 of at least 5 bytes, read between the version byte and the
checksum. -/
theorem decodeOwner_eq_ok_iff {s : String} {owner : Address} :
    decodeOwner s = some (.ok owner) ↔
      ∃ bytes, Base58.decode Base58.bitcoinAlphabet s = some bytes ∧ 5 ≤ bytes.length ∧
        owner = bytesToAddress ((bytes.drop 1).take (bytes.length - 5)) := by
  unfold decodeOwner
  split
  · simp_all
  · rename_i bytes hdec
    simp only [hdec, Option.some.injEq, exists_eq_left']
    unfold ownerPayload GoSlice.slice
    split_ifs with hlen
    · simp only [Option.map_some, Option.some.injEq, Except.ok.injEq]
      constructor
      · rintro rfl
        exact ⟨by omega, by rw [show bytes.length - 4 - 1 = bytes.length - 5 by omega]⟩
      · rintro ⟨-, rfl⟩
        rw [show bytes.length - 4 - 1 = bytes.length - 5 by omega]
    · simp only [Option.map_none, reduceCtorEq, false_iff, not_and]
      omega

/-- `createSnapshotParams` returns arrays exactly when every owner and every blacklisted address
decodes and every item has an amount; they then hold, in the order of the file, the owners'
payloads, the amounts scaled from 8 to 18 decimals and the blacklisted payloads. -/
theorem createSnapshotParams_eq_ok_iff {ss : Snapshot} {owners : List Address}
    {amounts : List ℤ} {blacklist : List Address} :
    createSnapshotParams ss = some (.ok (owners, amounts, blacklist)) ↔
      List.Forall₂ (fun info owner => decodeOwner info.owner = some (.ok owner)) ss.txouts
          owners ∧
        List.Forall₂ (fun info amount => ∃ x, info.amount = some x ∧
          amount = x * snapshotMultiplier) ss.txouts amounts ∧
        List.Forall₂ (fun blo owner => decodeOwner blo = some (.ok owner)) ss.blacklist
          blacklist := by
  rw [← and_assoc, ← txoutParams_eq_ok_iff, ← blacklistParams_eq_ok_iff, createSnapshotParams]
  rcases txoutParams ss.txouts with _ | _ | ⟨os, as⟩
  · simp
  · simp
  rcases blacklistParams ss.blacklist with _ | _ | bl
  · simp
  · simp
  · simp [eq_comm, and_assoc]

/-- `ValidateMigration(block, migration_file)`, on what `parseSnapshot` returned for the file and
the data of the block's transactions; `pack` is `migration_abi.Pack("setSnapshot", ...)`, whose
failure panics. `none` is a panic. -/
def validateMigration (pack : List Address → List ℤ → List Address → Except String (List UInt8))
    (parsed : Except String Snapshot) (txs : List (List UInt8)) : Option Bool :=
  match parsed with
  | .error _ => some false
  | .ok ss => do
    match ← createSnapshotParams ss with
    | .error _ => pure false
    | .ok (owners, amounts, blacklist) =>
      match pack owners amounts blacklist with
      | .error _ => none
      | .ok callData => pure (txs.length = 2 && txs.headD [] == callData)

/-- A panic of `createSnapshotParams` crashes `ValidateMigration`, whatever the block holds. -/
theorem validateMigration_of_createSnapshotParams {pack} {ss : Snapshot} {txs}
    (h : createSnapshotParams ss = none) : validateMigration pack (.ok ss) txs = none := by
  rw [validateMigration, h]
  rfl

/-- A snapshot file whose first item has the empty string as owner, which Base58 decodes to no
bytes, or the 5-byte owner `"11111"` and no amount, crashes `ValidateMigration` whatever else the
file and the block hold. -/
theorem createSnapshotParams_panics :
    Base58.decode Base58.bitcoinAlphabet "" = some [] ∧
    (∀ (amount : Option ℤ) atype rest blacklist hash pack txs,
      validateMigration pack (.ok ⟨⟨"", amount, atype⟩ :: rest, blacklist, hash⟩) txs = none) ∧
    (∀ atype rest blacklist hash pack txs,
      validateMigration pack (.ok ⟨⟨"11111", none, atype⟩ :: rest, blacklist, hash⟩) txs =
        none) := by
  have hempty : Base58.decode Base58.bitcoinAlphabet "" = some [] := by decide
  refine ⟨hempty, ?_, ?_⟩
  · intro amount atype rest blacklist hash pack txs
    apply validateMigration_of_createSnapshotParams
    apply createSnapshotParams_of_txoutParams
    exact txoutParams_cons_of_decodeOwner (decodeOwner_eq_none_iff.2 ⟨[], hempty, by decide⟩)
  · intro atype rest blacklist hash pack txs
    apply validateMigration_of_createSnapshotParams
    apply createSnapshotParams_of_txoutParams
    -- five zero digits are five zero bytes: an empty payload, the zero address
    have howner : decodeOwner "11111" = some (.ok 0) := by decide
    exact txoutParams_cons_of_amount howner rfl

end Consensus

end RangeCore
