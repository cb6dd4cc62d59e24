import RangeCore.Core.Precompile
import RangeCore.Lib.Base58
import RangeCore.Lib.GoRuntime
import RangeCore.Governance.Gen2Migration
import RangeCore.Governance.CheckpointRegistry

/-!
# Claiming Gen 2 coins through the migration API

`MigrationAPI` of `range/api/migration.go` claims Gen 2 coins for their owners. A Gen 2 private
key is a base58 string of 52 characters: a prefix byte, the 32 bytes of the key and a checksum.
`parseGen2Key` decodes it and names its owner as Gen 2 does, by `RIPEMD160(SHA256(compressed
key))`. `claimGen2Coins` signs the migration contract's `hashToSign(dst)` with the key and passes
the signature's `v`, `r` and `s` to `verifyClaim` and `claim`, where Solidity's `ecrecover` calls
the precompile of `core/vm/contracts.go`.

The signature `crypto.Sign` makes has a recovery id `v` of 0 or 1, which is Bitcoin mode for the
precompile, so the contract recovers the same owner the API computed from the key
(`ecrecoverBuiltin_claimSignature`), and the precompile's gas rule charges the hashing that mode
does (`ecrecover_modes_agree`).

`listGen2Coins` shows each coin's owner as its Gen 2 address text, the Base58 of the version
byte, the owner and a checksum; `SearchGen2Coins` reads an owner back off such a text. The
round trip of Base58 makes the two agree: every listed coin is found by the text it shows
(`searchGen2CoinsByText_listed`). The claims of a key dump, `ClaimGen2CoinsCombined` and
`ClaimGen2CoinsImport`, append the hash of each claim to a slice that `make` filled with as many
zero hashes as there are coins (`claimDumpCoins_of_search`, `claimGen2Coins_zero_prefix`).

## Main definitions

* `RangeCore.Api.Gen2Key`, `RangeCore.Api.toECDSA`, `RangeCore.Api.parseGen2Key`.
* `RangeCore.Api.claimSignature`: the `v`, `r`, `s` of `claimGen2Coins`.
* `RangeCore.Api.listGen2CoinsUncached`, `RangeCore.Api.searchGen2CoinsByText`,
  `RangeCore.Api.searchRawGen2Coins`.
* `RangeCore.Api.claimGen2Coins`, `RangeCore.Api.claimGen2CoinsCombined`,
  `RangeCore.Api.claimGen2CoinsImport`.
* `RangeCore.Governance.ecrecoverBuiltin`: Solidity's `ecrecover` over the precompile.

## Main results

* `RangeCore.Api.parseGen2Key_ok`: what a parsed key holds.
* `RangeCore.Api.ecrecoverBuiltin_claimSignature`: the contract recovers the key's owner.
* `RangeCore.Api.ecrecover_modes_agree`.
* `RangeCore.Api.searchGen2CoinsByText_listed`: a listed coin is found by its own text.
* `RangeCore.Api.claimGen2Coins_zero_prefix`.
-/

namespace RangeCore

/-- `crypto.FromECDSAPub`: the 65-byte uncompressed encoding `0x04 ‖ X ‖ Y`. -/
def PublicKey.marshal (p : PublicKey) : List UInt8 := 4 :: bytesBE 32 p.x ++ bytesBE 32 p.y

namespace Governance

/-- Solidity's `ecrecover(hash, v, r, s)`: the precompile on the words `hash ‖ v ‖ r ‖ s`, whose
output word is read as an address; no output is no address, which Solidity returns as 0. -/
def ecrecoverBuiltin (c : Crypto) (hasher : Hasher) : EcrecoverPrecompile := fun hash v r s =>
  let out := Vm.Ecrecover.run c hasher (hash.bytes ++ bytesBE 32 v.toNat ++ r.bytes ++ s.bytes)
  if out = [] then none else some (bytesToAddress (out.take 32))

end Governance

namespace Api

/-- `base54PrivateKeyLen`. -/
def base54PrivateKeyLen : ℕ := 52

/-- `privateKeyLen`. -/
def privateKeyLen : ℕ := 32

/-- `Gen2Key`: a key with its Gen 2 owner; the key is its scalar `D`. -/
structure Gen2Key where
  rawOwner : Address
  key : ℕ
  deriving DecidableEq

/-- `crypto.ToECDSA`: a 32-byte scalar in `[1, N)`. The public key `ScalarBaseMult` computes
for such a scalar is never the point at infinity, so its check never fails. -/
def toECDSA (d : List UInt8) : Except String ℕ :=
  if 8 * d.length ≠ 256 then .error "invalid length, need 256 bits"
  else if secp256k1N ≤ bytesToNat d then .error "invalid private key, >=N"
  else if bytesToNat d = 0 then .error "invalid private key, zero or negative"
  else .ok (bytesToNat d)

theorem toECDSA_ok {d : List UInt8} {key : ℕ} (h : toECDSA d = .ok key) :
    0 < key ∧ key < secp256k1N := by
  unfold toECDSA at h
  split_ifs at h with hlen hn hz
  cases h
  omega

section Key

variable (c : Crypto)

/-- `parseGen2Key`: the key of a 52-byte base58 string, after its prefix byte; `none` is the
panic of `rkey[1:33]` on a decoding shorter than 33 bytes. -/
def parseGen2Key (tkey : String) : Option (Except String Gen2Key) :=
  if tkey.utf8ByteSize ≠ base54PrivateKeyLen then some (.error "Invalid private key length")
  else
    match Base58.decode Base58.bitcoinAlphabet tkey with
    | none => some (.error "invalid base58 string")
    | some rkey =>
      (GoSlice.slice rkey 1 (1 + privateKeyLen)).map fun d => do
        let key ← toECDSA d
        pure ⟨bytesToAddress (c.btcOwner (c.scalarBaseMult key)), key⟩

/-- A parsed key is a scalar in `[1, N)`, and its owner is the Gen 2 owner of its public key. -/
theorem parseGen2Key_ok {tkey : String} {key : Gen2Key}
    (h : parseGen2Key c tkey = some (.ok key)) :
    (0 < key.key ∧ key.key < secp256k1N) ∧
      key.rawOwner = bytesToAddress (c.btcOwner (c.scalarBaseMult key.key)) := by
  unfold parseGen2Key at h
  split_ifs at h
  · cases h
  split at h
  · cases h
  · obtain ⟨d, -, hd⟩ := Option.map_eq_some_iff.1 h
    obtain ⟨k, hk, hkey⟩ := Except.bind_eq_ok_iff.1 hd
    cases hkey
    exact ⟨toECDSA_ok hk, rfl⟩

/-- The signature `claimGen2Coins` makes: `crypto.Sign` of the hash by the key, `[R || S || V]`
cut into `v`, `r` and `s`. -/
def claimSignature (hts : Hash) (key : Gen2Key) : Except String (UInt8 × Hash × Hash) :=
  match c.sign hts.bytes key.key with
  | none => .error "sign failed"
  | some sig =>
    if sig.length ≠ 65 then .error "Wrong signature size"
    else
      let r : Hash := BitVec.ofNat 256 (bytesToNat (sig.take 32))
      let s : Hash := BitVec.ofNat 256 (bytesToNat ((sig.drop 32).take 32))
      .ok (sig.getD 64 0, r, s)

end Key

/-- `Gen2Coin`: an item of the migration contract; `owner` is its Gen 2 address as text. -/
structure Gen2Coin where
  itemID : UInt64
  rawOwner : Address
  owner : String
  amount : ℕ
  deriving DecidableEq

/-- `ownerSafetyLimit`. -/
def ownerSafetyLimit : ℕ := 10000

/-- `searchGen2Coins(owners, all_coins, include_empty)`: the coins of the list of all coins that
one of the owners owns, the empty ones only if asked for. -/
def searchGen2Coins (owners : List Address) (allCoins : Except String (List Gen2Coin))
    (includeEmpty : Bool) : Except String (List Gen2Coin) := do
  let list ← allCoins
  pure (list.filter fun c => owners.contains c.rawOwner && (includeEmpty || decide (0 < c.amount)))

/-- `SearchRawGen2Coins(rawOwners, include_empty)`, on the coin list `listGen2Coins` returns. -/
def searchRawGen2Coins (isPublicService : Bool) (rawOwners : List Address)
    (allCoins : Except String (List Gen2Coin)) (includeEmpty : Bool) :
    Except String (List Gen2Coin) :=
  if isPublicService ∧ ownerSafetyLimit < rawOwners.length then .error "Too many owners requests."
  else searchGen2Coins rawOwners allCoins includeEmpty

/-- `Gen2Migration.coins(i)`: the owner's key hash and the amount of item `i`. -/
structure MigrationItem where
  owner : Address
  amount : ℕ
  deriving DecidableEq

/-- The version byte of Gen 2 addresses: `33`, or `127` on the chain with id 49797. -/
def gen2AddressPrefix (chainId : ℕ) : UInt8 := if chainId = 49797 then 127 else 33

/-- The Gen 2 address text of an owner, as `listGen2CoinsUncached` writes it: the version byte,
the owner and the first four bytes of the double SHA-256 of those 21 bytes, in Base58.
`Sum256` has 32 bytes; the zeros only make the copy total for any hash. -/
def gen2OwnerText (c : Crypto) (pfx : UInt8) (owner : Address) : String :=
  let owner21 := pfx :: owner.bytes
  let ownerhash := c.sha256 (c.sha256 owner21)
  Base58.encode Base58.bitcoinAlphabet (owner21 ++ (ownerhash ++ List.replicate 4 0).take 4)

/-- `listGen2CoinsUncached`, on the items the contract returned for `0, …, itemCount - 1`: each
becomes a coin with its index as id, its raw owner and its Gen 2 address text. -/
def listGen2CoinsUncached (c : Crypto) (chainId : ℕ) (items : Except String (List MigrationItem)) :
    Except String (List Gen2Coin) :=
  items.map fun items => items.mapIdx fun i item =>
    ⟨UInt64.ofNat i, bytesToAddress item.owner.bytes,
      gen2OwnerText c (gen2AddressPrefix chainId) item.owner, item.amount⟩

/-- The raw owner `SearchGen2Coins` reads off a Gen 2 address text: the bytes between the version
byte and the checksum, `ro[1 : len(ro)-4]`, or the zero address that `make` left in place when
the text is not Base58 of at least 20 bytes. -/
def rawOwnerOfText (o : String) : Address :=
  match Base58.decode Base58.bitcoinAlphabet o with
  | some ro => if ro.length < 20 then 0 else bytesToAddress ((ro.drop 1).take (ro.length - 5))
  | none => 0

/-- `SearchGen2Coins(owners, include_empty)`: the coins of the Gen 2 addresses given as text. -/
def searchGen2CoinsByText (isPublicService : Bool) (owners : List String)
    (allCoins : Except String (List Gen2Coin)) (includeEmpty : Bool) :
    Except String (List Gen2Coin) :=
  if isPublicService ∧ ownerSafetyLimit < owners.length then .error "Too many owners requests."
  else searchGen2Coins (owners.map rawOwnerOfText) allCoins includeEmpty

/-- An address read back from its 20 bytes. -/
theorem bytesToAddress_bytes (a : Address) : bytesToAddress a.bytes = a := by
  have hlt : a.toNat < 256 ^ 20 := a.isLt
  rw [bytesToAddress, Address.bytes, bytesToNat_bytesBE, Nat.mod_eq_of_lt hlt, BitVec.ofNat_toNat,
    BitVec.setWidth_eq]

/-- A Gen 2 address text reads back the owner it was written for. -/
theorem rawOwnerOfText_gen2OwnerText (c : Crypto) (pfx : UInt8) (owner : Address) :
    rawOwnerOfText (gen2OwnerText c pfx owner) = owner := by
  set checksum := (c.sha256 (c.sha256 (pfx :: owner.bytes)) ++ List.replicate 4 0).take 4
    with hchecksum
  have hlen : owner.bytes.length = 20 := length_bytesBE _ _
  have hcheck : checksum.length = 4 := by simp [hchecksum]
  rw [rawOwnerOfText, gen2OwnerText, ← hchecksum, Base58.decode_encode]
  dsimp only
  -- 25 bytes: the version byte, the owner and the checksum
  have hslice : ((pfx :: owner.bytes ++ checksum).drop 1).take
      ((pfx :: owner.bytes ++ checksum).length - 5) = owner.bytes := by
    rw [List.cons_append, List.drop_one, List.tail_cons, List.length_cons, List.length_append,
      hlen, hcheck]
    exact List.take_left' hlen
  rw [if_neg (by simp [hlen, hcheck]), hslice, bytesToAddress_bytes]

/-- The coins `listGen2CoinsUncached` builds show their raw owner's own address text. -/
theorem rawOwnerOfText_of_mem_list {c : Crypto} {chainId : ℕ} {items : List MigrationItem}
    {coins : List Gen2Coin} (hcoins : listGen2CoinsUncached c chainId (.ok items) = .ok coins)
    {coin : Gen2Coin} (hc : coin ∈ coins) : rawOwnerOfText coin.owner = coin.rawOwner := by
  cases hcoins
  obtain ⟨i, hi, rfl⟩ := List.mem_mapIdx.1 hc
  rw [rawOwnerOfText_gen2OwnerText, bytesToAddress_bytes]

/-- A search by one address text that reads back a coin's raw owner returns the coin unless it is
empty and empty coins are not asked for. -/
theorem mem_searchGen2CoinsByText {isPublicService includeEmpty : Bool} {coins : List Gen2Coin}
    {coin : Gen2Coin} (hc : coin ∈ coins) (howner : rawOwnerOfText coin.owner = coin.rawOwner) :
    ∃ found, searchGen2CoinsByText isPublicService [coin.owner] (.ok coins) includeEmpty =
      .ok found ∧ (coin ∈ found ↔ includeEmpty = true ∨ 0 < coin.amount) := by
  refine ⟨_, if_neg (by simp [ownerSafetyLimit]), ?_⟩
  simp [hc, howner]

/-- Every coin that `listGen2Coins` lists is found again by the Gen 2 address text it shows:
`SearchGen2Coins` of its `Owner` decodes back to its raw owner, and returns the coin unless it
is empty and empty coins are not asked for. -/
theorem searchGen2CoinsByText_listed (c : Crypto) (chainId : ℕ) (items : List MigrationItem)
    (isPublicService includeEmpty : Bool) {coins : List Gen2Coin}
    (hcoins : listGen2CoinsUncached c chainId (.ok items) = .ok coins) {coin : Gen2Coin}
    (hc : coin ∈ coins) :
    ∃ found, searchGen2CoinsByText isPublicService [coin.owner] (.ok coins) includeEmpty =
      .ok found ∧ (coin ∈ found ↔ includeEmpty = true ∨ 0 < coin.amount) :=
  mem_searchGen2CoinsByText hc (rawOwnerOfText_of_mem_list hcoins hc)

/-- The calls `claimGen2Coins` makes through its `Gen2MigrationSession`. `claim` gives the hash of
the transaction sent: a transaction comes back exactly when there is no error. -/
structure MigrationSession where
  hashToSign : Address → Except String Hash
  verifyClaim : ℕ → Address → UInt8 → Hash → Hash → Except String ℕ
  claim : ℕ → Address → UInt8 → Hash → Hash → Except String Hash

section Claims

variable (c : Crypto) (session : MigrationSession)

/-- `claimGen2Coins(password, dst, coin, key)`: sign `hashToSign(dst)`, ask `verifyClaim` what the
claim would pay, and send `claim` unless that is nothing. -/
def claimGen2Coins (dst : Address) (coin : Gen2Coin) (key : Gen2Key) : Except String Hash := do
  let hts ← session.hashToSign dst
  let (v, r, s) ← claimSignature c hts key
  let amt ← session.verifyClaim coin.itemID.toNat dst v r s
  -- "Already claimed": the zero hash and no error
  if amt = 0 then pure 0
  else session.claim coin.itemID.toNat dst v r s

/-- `owner2key[owner]`: the map is filled in the order of the keys, so it holds an owner's last
key. -/
def owner2key (keys : List Gen2Key) (owner : Address) : Option Gen2Key :=
  keys.reverse.find? (·.rawOwner == owner)

/-- The claim loop of `ClaimGen2CoinsCombined` and `ClaimGen2CoinsImport`: each coin claimed with
its owner's key, to the destination `dstOf` names for the key, and its hash appended to
`txhashes`. `none` is the panic of a coin whose owner has no key. -/
def claimLoop (dstOf : Gen2Key → Address) (keys : List Gen2Key) :
    List Hash → List Gen2Coin → Option (Except String (List Hash))
  | txhashes, [] => some (.ok txhashes)
  | txhashes, coin :: rest =>
    match owner2key keys coin.rawOwner with
    | none => none
    | some key =>
      match claimGen2Coins c session (dstOf key) coin key with
      | .error e => some (.error e)
      | .ok txhash => claimLoop dstOf keys (txhashes ++ [txhash]) rest

/-- The body both claims of a key dump share, on what `loadGen2Dump` returned: the keys' owners
searched, then `txhashes := make([]common.Hash, len(coins))` and the claim loop. -/
def claimDumpCoins (isPublicService : Bool) (allCoins : Except String (List Gen2Coin))
    (dstOf : Gen2Key → Address) (keys : Except String (List Gen2Key)) :
    Option (Except String (List Hash)) :=
  match keys with
  | .error e => some (.error e)
  | .ok keys =>
    match searchRawGen2Coins isPublicService (keys.map (·.rawOwner)) allCoins false with
    | .error e => some (.error e)
    | .ok coins => claimLoop c session dstOf keys (List.replicate coins.length 0) coins

/-- `ClaimGen2CoinsCombined(password, dst, file)`: every coin of the dump's keys claimed to
`dst`. -/
def claimGen2CoinsCombined (isPublicService : Bool) (allCoins : Except String (List Gen2Coin))
    (dst : Address) (keys : Except String (List Gen2Key)) : Option (Except String (List Hash)) :=
  claimDumpCoins c session isPublicService allCoins (fun _ => dst) keys

/-- `ClaimGen2CoinsImport(password, file)`: every coin of the dump's keys claimed to the Gen 3
address of its own key, after the key is imported into the keystore. -/
def claimGen2CoinsImport (hasher : Hasher) (isPublicService : Bool)
    (allCoins : Except String (List Gen2Coin)) (keys : Except String (List Gen2Key)) :
    Option (Except String (List Hash)) :=
  claimDumpCoins c session isPublicService allCoins
    (fun key => pubkeyToAddress hasher (c.scalarBaseMult key.key).marshal) keys

/-- The loop appends to what it is given: its answer is that list followed by the hashes of the
claims it makes. -/
theorem claimLoop_append (dstOf : Gen2Key → Address) (keys : List Gen2Key) (acc : List Hash)
    (coins : List Gen2Coin) :
    claimLoop c session dstOf keys acc coins =
      (claimLoop c session dstOf keys [] coins).map ((acc ++ ·) <$> ·) := by
  induction coins generalizing acc with
  | nil => simp [claimLoop, Functor.map, Except.map]
  | cons coin rest ih =>
    simp only [claimLoop]
    split
    · rfl
    · split
      · rfl
      · rename_i txhash _
        rw [List.nil_append, ih, ih [txhash], Option.map_map]
        congr 1
        funext r
        simp [List.append_assoc]

/-- A claim of a dump answers with a zero hash for each coin found, put there by `make`, before
the hashes of the claims. -/
theorem claimDumpCoins_of_search {isPublicService : Bool} {allCoins : Except String (List Gen2Coin)}
    {dstOf : Gen2Key → Address} {keys : List Gen2Key} {coins : List Gen2Coin}
    (h : searchRawGen2Coins isPublicService (keys.map (·.rawOwner)) allCoins false = .ok coins) :
    claimDumpCoins c session isPublicService allCoins dstOf (.ok keys) =
      (claimLoop c session dstOf keys [] coins).map
        ((List.replicate coins.length 0 ++ ·) <$> ·) := by
  rw [claimDumpCoins, h]
  exact claimLoop_append c session dstOf keys _ coins

end Claims

@[simp] theorem length_hash_bytes (h : Hash) : h.bytes.length = 32 := length_bytesBE _ _

/-- The word of a byte: 31 zero bytes and the byte. -/
theorem bytesBE_toNat_uint8 (v : UInt8) : bytesBE 32 v.toNat = List.replicate 31 0 ++ [v] := by
  have hv : v.toNat < 256 := v.toNat_lt
  have hzero : ∀ n, bytesBE n 0 = List.replicate n 0 := by
    intro n
    induction n with
    | zero => rfl
    | succ n ih => rw [bytesBE, Nat.zero_div, ih, List.replicate_succ']; rfl
  have hlow : UInt8.ofNat (v.toNat % 256) = v := by
    rw [Nat.mod_eq_of_lt hv]
    exact UInt8.ofNat_toNat
  rw [bytesBE, Nat.div_eq_of_lt hv, hzero, hlow]

/-- 32 bytes read as a hash are its bytes again. -/
theorem bytes_ofNat_bytesToNat {l : List UInt8} (hl : l.length = 32) :
    Hash.bytes (BitVec.ofNat 256 (bytesToNat l)) = l := by
  have hlt : bytesToNat l < 2 ^ 256 := by
    have := bytesToNat_lt l
    rw [hl] at this
    simpa using this
  rw [Hash.bytes, BitVec.toNat_ofNat, Nat.mod_eq_of_lt hlt, ← hl, bytesBE_bytesToNat]

/-- A 65-byte signature is its `R`, its `S` and its `V`. -/
theorem signature_split {sig : List UInt8} (h : sig.length = 65) :
    sig.take 32 ++ (sig.drop 32).take 32 ++ [sig.getD 64 0] = sig := by
  have htake : sig.take 64 = sig.take 32 ++ (sig.drop 32).take 32 :=
    List.take_add (l := sig) (i := 32) (j := 32)
  have hdrop : sig.drop 64 = [sig.getD 64 0] := by
    rw [List.drop_eq_getElem_cons (by omega), List.drop_eq_nil_of_le (by omega)]
    simp [List.getD_eq_getElem?_getD, List.getElem?_eq_getElem (by omega : 64 < sig.length)]
  rw [← htake, ← hdrop, List.take_append_drop]

/-- Leading zero bytes do not change a big-endian number. -/
theorem bytesToNat_replicate_append (k : ℕ) (l : List UInt8) :
    bytesToNat (List.replicate k 0 ++ l) = bytesToNat l := by
  rw [bytesToNat_append]
  have : bytesToNat (List.replicate k 0) = 0 := by
    induction k with
    | zero => rfl
    | succ k ih => rw [List.replicate_succ', bytesToNat_append, ih]; simp
  rw [this, Nat.zero_mul, Nat.zero_add]

/-- The last `n` bytes of a big-endian number are those of the number itself. -/
theorem bytesBE_add (m n x : ℕ) : bytesBE (m + n) x = bytesBE m (x / 256 ^ n) ++ bytesBE n x := by
  induction n generalizing x with
  | zero => simp [bytesBE]
  | succ n ih =>
    rw [← Nat.add_assoc, bytesBE, ih, bytesBE, List.append_assoc, Nat.div_div_eq_div_mul,
      ← pow_succ']

/-- `common.BytesToAddress` of the last 20 bytes of a hash, left-padded to a word: the hash cut
to 160 bits, as `crypto.PubkeyToAddress` cuts it. -/
theorem bytesToAddress_leftPadBytes_drop (h : Hash) :
    bytesToAddress ((leftPadBytes (h.bytes.drop 12) 32).take 32) = h.setWidth 160 := by
  have hlow : h.bytes.drop 12 = bytesBE 20 h.toNat := by
    rw [Hash.bytes, show 32 = 12 + 20 from rfl, bytesBE_add]
    exact List.drop_left' (length_bytesBE _ _)
  have hpad : leftPadBytes (bytesBE 20 h.toNat) 32 = List.replicate 12 0 ++ bytesBE 20 h.toNat := by
    rw [leftPadBytes, if_neg (by simp), length_bytesBE]
  rw [hlow, hpad, List.take_of_length_le (by simp), bytesToAddress, bytesToNat_replicate_append,
    bytesToNat_bytesBE]
  apply BitVec.eq_of_toNat_eq
  simp [Nat.mod_mod_of_dvd]

/-- `abi.decode` reads a word as `common.BytesToHash` does. -/
theorem wordOfBytes_eq (bs : List UInt8) :
    Governance.wordOfBytes bs = BitVec.ofNat 256 (bytesToNat bs) := by
  simp only [Governance.wordOfBytes, bytesToNat, Nat.mul_comm]

/-- A 65-byte signature with another recovery id in place of its `v`. -/
theorem set_sixtyFour {sig : List UInt8} (h : sig.length = 65) (x : UInt8) :
    sig.set 64 x = sig.take 32 ++ (sig.drop 32).take 32 ++ [x] := by
  conv_lhs => rw [← signature_split h]
  rw [List.set_append_right _ _ (by simp [h]), List.length_append]
  simp [h]

/-- The precompile's input for Solidity's `ecrecover` of the `v`, `R` and `S` of a 65-byte
signature: `hash ‖ 0^31 ‖ v ‖ R ‖ S`. -/
def sigInput (hash : Hash) (sig : List UInt8) : List UInt8 :=
  hash.bytes ++ (List.replicate 31 0 ++ [sig.getD 64 0]) ++ sig.take 32 ++ (sig.drop 32).take 32

/-- What `Run` reads of `sigInput`: it is a whole input, with the hash, the zero bytes, `v`, and
`R ‖ S` where `Run` looks for them. -/
theorem sigInput_parts {sig : List UInt8} (hlen : sig.length = 65) (hash : Hash) :
    rightPadBytes (sigInput hash sig) Vm.ecRecoverInputLength = sigInput hash sig ∧
      (sigInput hash sig).take 32 = hash.bytes ∧
      ((sigInput hash sig).drop 32).take 31 = List.replicate 31 0 ∧
      (sigInput hash sig).getD 63 0 = sig.getD 64 0 ∧
      ((sigInput hash sig).drop 64).take 64 = sig.take 32 ++ (sig.drop 32).take 32 ∧
      ((sigInput hash sig).drop 64).take 32 = sig.take 32 ∧
      ((sigInput hash sig).drop 96).take 32 = (sig.drop 32).take 32 := by
  have hRlen : (sig.take 32).length = 32 := by simp [hlen]
  have hSlen : ((sig.drop 32).take 32).length = 32 := by simp [hlen]
  have hdrop64 : (sigInput hash sig).drop 64 = sig.take 32 ++ (sig.drop 32).take 32 := by
    rw [sigInput, List.append_assoc _ (sig.take 32)]
    exact List.drop_left' (by simp)
  have hdrop96 : (sigInput hash sig).drop 96 = (sig.drop 32).take 32 :=
    List.drop_left' (by simp [hRlen])
  refine ⟨rightPadBytes_of_le (by simp [sigInput, hlen, Vm.ecRecoverInputLength]),
    by simp [sigInput], by simp [sigInput], ?_, ?_, ?_, ?_⟩
  · rw [sigInput, List.append_assoc, List.append_assoc,
      List.getD_append_right _ _ _ _ (by simp), length_hash_bytes]
    simp
  · rw [hdrop64]
    exact List.take_of_length_le (by simp [hRlen, hSlen])
  · rw [hdrop64]
    exact List.take_left' hRlen
  · rw [hdrop96]
    exact List.take_of_length_le hSlen.le

section Builtin

variable (c : Crypto) (hasher : Hasher)

/-- Solidity's `ecrecover` of the `v`, `R` and `S` of a 65-byte signature runs the precompile on
`sigInput`. -/
theorem ecrecoverBuiltin_sig {sig : List UInt8} (hlen : sig.length = 65) (hash : Hash) :
    Governance.ecrecoverBuiltin c hasher hash (sig.getD 64 0)
        (BitVec.ofNat 256 (bytesToNat (sig.take 32)))
        (BitVec.ofNat 256 (bytesToNat ((sig.drop 32).take 32))) =
      if Vm.Ecrecover.run c hasher (sigInput hash sig) = [] then none
      else some (bytesToAddress ((Vm.Ecrecover.run c hasher (sigInput hash sig)).take 32)) := by
  dsimp only [Governance.ecrecoverBuiltin]
  rw [bytes_ofNat_bytesToNat (by simp [hlen]), bytes_ofNat_bytesToNat (by simp [hlen]),
    bytesBE_toNat_uint8]
  rfl

/-- With `v` selecting a mode and a recovery id, and `R` and `S` in `[1, N)`, the precompile
names in that mode the key recovered from the signature with the recovery id in place of `v`. -/
theorem run_sigInput {sig : List UInt8} (hlen : sig.length = 65) (hash : Hash)
    {mode : Vm.Ecrecover.Mode} {recid : UInt8}
    (hmode : Vm.Ecrecover.Mode.ofV (sig.getD 64 0) = some (mode, recid))
    (hr : 1 ≤ sigR sig ∧ sigR sig < secp256k1N) (hs : 1 ≤ sigS sig ∧ sigS sig < secp256k1N) :
    Vm.Ecrecover.run c hasher (sigInput hash sig) =
      match c.ecrecover hash.bytes (sig.set 64 recid) with
      | .error _ => []
      | .ok pubKey => Vm.Ecrecover.modeAddress c hasher mode pubKey := by
  obtain ⟨hpad, hhash, hword, hbyte, hrs, hrr, hss⟩ := sigInput_parts hlen hash
  have hrun := @Vm.Ecrecover.run_of_mode c hasher (sigInput hash sig) _ _
    (by rw [hpad, hbyte]; exact hmode)
    (by dsimp only; rw [hpad, hword, hrr, hss]; exact ⟨by decide, hr, hs⟩)
  rw [hpad, hhash, hrs, ← set_sixtyFour hlen] at hrun
  exact hrun

/-- The precompile answers on `sigInput` only for `R` and `S` in `[1, N)`. -/
theorem sigValid_of_run {sig : List UInt8} (hlen : sig.length = 65) (hash : Hash)
    (h : Vm.Ecrecover.run c hasher (sigInput hash sig) ≠ []) :
    (1 ≤ sigR sig ∧ sigR sig < secp256k1N) ∧ (1 ≤ sigS sig ∧ sigS sig < secp256k1N) := by
  obtain ⟨hpad, -, -, -, -, hrr, hss⟩ := sigInput_parts hlen hash
  have hok := Vm.Ecrecover.run_ne_nil c hasher h
  dsimp only at hok
  rw [hpad, hrr, hss] at hok
  exact ⟨hok.2.2.1, hok.2.2.2⟩

/-- Solidity's `ecrecover` over the model's precompile agrees with `crypto.Ecrecover` as the
checkpoint service calls it: a 65-byte signature with `v` of 27 or 28 that `ecrecover` recovers
to `a` is one that `crypto.Ecrecover`, given `v - 27` in place of `v`, recovers to a key of
address `a`. -/
theorem ecrecoverBuiltin_agree :
    Governance.EcrecoverAgree hasher (Governance.ecrecoverBuiltin c hasher) c.ecrecover := by
  intro digest signature v a hlen hv hv27 hrec
  have hvD : signature.getD 64 0 = v := by simp [List.getD_eq_getElem?_getD, hv]
  have heth : Vm.Ecrecover.Mode.ofV (signature.getD 64 0) = some (.eth, v - 27) := by
    rw [hvD]
    exact Vm.Ecrecover.Mode.ofV_eth (by rcases hv27 with rfl | rfl <;> decide) hv27
  dsimp only [Governance.decodeRS] at hrec
  rw [wordOfBytes_eq, wordOfBytes_eq, ← hvD, ecrecoverBuiltin_sig c hasher hlen] at hrec
  split at hrec
  · cases hrec
  · rename_i hout
    obtain ⟨hr, hs⟩ := sigValid_of_run c hasher hlen digest hout
    rw [run_sigInput c hasher hlen digest heth hr hs] at hout hrec
    cases hpub : c.ecrecover digest.bytes (signature.set 64 (v - 27)) with
    | error e =>
      rw [hpub] at hout
      exact absurd rfl hout
    | ok pubKey =>
      rw [hpub] at hrec
      -- Ethereum mode names the low 20 bytes of the key's Keccak hash, left-padded to a word
      refine ⟨pubKey, rfl, ?_⟩
      rw [pubkeyToAddress, ← bytesToAddress_leftPadBytes_drop]
      exact Option.some_inj.1 hrec

end Builtin

section Claim

variable {c : Crypto} (hasher : Hasher)

/-- Signing for a claim succeeds on every parsed key, and the contract's `ecrecover` of the
signature, in Bitcoin mode, is the key's Gen 2 owner. -/
theorem ecrecoverBuiltin_claimSignature (hc : c.Sound) {tkey : String} {key : Gen2Key}
    (hkey : parseGen2Key c tkey = some (.ok key)) (hts : Hash) :
    ∃ v r s, claimSignature c hts key = .ok (v, r, s) ∧
      Governance.ecrecoverBuiltin c hasher hts v r s = some key.rawOwner := by
  obtain ⟨⟨hpos, hlt⟩, howner⟩ := parseGen2Key_ok c hkey
  obtain ⟨sig, hsign, hlen, hv, hr, hs, pub, hrec, hpub⟩ :=
    hc.sign_ok hts.bytes key.key (length_bytesBE _ _) hpos hlt
  refine ⟨sig.getD 64 0, BitVec.ofNat 256 (bytesToNat (sig.take 32)),
    BitVec.ofNat 256 (bytesToNat ((sig.drop 32).take 32)), by simp [claimSignature, hsign, hlen],
    ?_⟩
  -- Bitcoin mode: `v` is its own recovery id, and the signature goes in as it is
  have hrun := run_sigInput c hasher hlen hts (Vm.Ecrecover.Mode.ofV_btc hv) hr hs
  rw [set_sixtyFour hlen, signature_split hlen, hrec] at hrun
  -- the output is the owner left-padded to a word
  have hout : Vm.Ecrecover.run c hasher (sigInput hts sig) =
      List.replicate 12 0 ++ c.btcOwner (c.scalarBaseMult key.key) := by
    rw [hrun]
    simp only [Vm.Ecrecover.modeAddress, hpub, leftPadBytes, Crypto.btcOwner,
      hc.length_ripemd160]
    rfl
  rw [ecrecoverBuiltin_sig c hasher hlen, hout, if_neg (by simp), howner,
    List.take_of_length_le (by simp [Crypto.btcOwner, hc.length_ripemd160]), bytesToAddress,
    bytesToAddress, bytesToNat_replicate_append]

end Claim

/-- The precompile's two modes agree with its gas rule and with the migration. `Run` gives an
output only past its checks; with them passed, a `v` of 0 or 1 names in Bitcoin mode the key
recovered with id `v`, and a `v` of 27 or 28 names in Ethereum mode the key recovered with id
`v - 27`; `RequiredGas` charges the hashing exactly to the inputs whose padded `v` is 0 or 1; and
for every parsed Gen 2 key and destination, the `v`, `r`, `s` that `claimGen2Coins` signs make the
contract's `ecrecover`, which `verifyClaim` reads through `getD 0`, recover the key's owner. -/
theorem ecrecover_modes_agree (c : Crypto) (hasher : Hasher) :
    (∀ input, let p := rightPadBytes input Vm.ecRecoverInputLength
      Vm.Ecrecover.run c hasher input ≠ [] →
        allZero ((p.drop 32).take 31) = true ∧
        (p.getD 63 0 = 0 ∨ p.getD 63 0 = 1 ∨ p.getD 63 0 = 27 ∨ p.getD 63 0 = 28) ∧
        (1 ≤ bytesToNat ((p.drop 64).take 32) ∧ bytesToNat ((p.drop 64).take 32) < secp256k1N) ∧
        (1 ≤ bytesToNat ((p.drop 96).take 32) ∧ bytesToNat ((p.drop 96).take 32) < secp256k1N)) ∧
    (∀ input, let p := rightPadBytes input Vm.ecRecoverInputLength
      allZero ((p.drop 32).take 31) = true →
      (1 ≤ bytesToNat ((p.drop 64).take 32) ∧ bytesToNat ((p.drop 64).take 32) < secp256k1N) →
      (1 ≤ bytesToNat ((p.drop 96).take 32) ∧ bytesToNat ((p.drop 96).take 32) < secp256k1N) →
      ((p.getD 63 0 = 0 ∨ p.getD 63 0 = 1) →
        Vm.Ecrecover.run c hasher input =
          match c.ecrecover (p.take 32) ((p.drop 64).take 64 ++ [p.getD 63 0]) with
          | .error _ => []
          | .ok pubKey => match c.unmarshalPubkey pubKey with
            | none => []
            | some pub => leftPadBytes (c.btcOwner pub) 32) ∧
      ((p.getD 63 0 = 27 ∨ p.getD 63 0 = 28) →
        Vm.Ecrecover.run c hasher input =
          match c.ecrecover (p.take 32) ((p.drop 64).take 64 ++ [p.getD 63 0 - 27]) with
          | .error _ => []
          | .ok pubKey => leftPadBytes ((hasher.keccak256 (pubKey.drop 1)).bytes.drop 12) 32)) ∧
    (∀ input, Vm.Ecrecover.requiredGas input =
      if (rightPadBytes input Vm.ecRecoverInputLength).getD 63 0 ≤ 1 then
        Vm.ecrecoverGas + Vm.btcSurcharge
      else Vm.ecrecoverGas) ∧
    (c.Sound → ∀ tkey key, parseGen2Key c tkey = some (.ok key) →
      ∀ (m : Governance.Gen2Migration) dst, ∃ v r s,
        claimSignature c (m.hashToSign hasher dst) key = .ok (v, r, s) ∧
        (Governance.ecrecoverBuiltin c hasher (m.hashToSign hasher dst) v r s).getD 0 =
          key.rawOwner) := by
  refine ⟨fun input => Vm.Ecrecover.run_ne_nil c hasher, ?_, ?_, ?_⟩
  · intro input
    dsimp only
    intro hzero hr hs
    constructor
    · -- Bitcoin mode: `v` is its own recovery id
      intro hv
      have hbtc : (rightPadBytes input Vm.ecRecoverInputLength).getD 63 0 ≤ 1 := by
        rcases hv with h | h <;> rw [h] <;> decide
      rw [Vm.Ecrecover.run_of_mode c hasher (Vm.Ecrecover.Mode.ofV_btc hbtc) ⟨hzero, hr, hs⟩]
      rfl
    · -- Ethereum mode: `v - 27` is the recovery id
      intro hv
      have hbtc : ¬(rightPadBytes input Vm.ecRecoverInputLength).getD 63 0 ≤ 1 := by
        rcases hv with h | h <;> rw [h] <;> decide
      rw [Vm.Ecrecover.run_of_mode c hasher (Vm.Ecrecover.Mode.ofV_eth hbtc hv) ⟨hzero, hr, hs⟩]
      rfl
  · intro input
    rw [Vm.Ecrecover.requiredGas_eq]
    exact if_congr (Vm.Ecrecover.mode_eq_btc_iff input) rfl rfl
  · intro hc tkey key hkey m dst
    obtain ⟨v, r, s, hsig, hrec⟩ :=
      ecrecoverBuiltin_claimSignature hasher hc hkey (m.hashToSign hasher dst)
    exact ⟨v, r, s, hsig, by rw [hrec, Option.getD_some]⟩

/-- A placeholder curve library for the loops of the API, which only pass keys and owners on:
the public key of `D` is `(D, 0)`, the signature of any hash by `D` is `D ‖ 1 ‖ 0`, and the key
recovered from it is its `R`. -/
def sampleCrypto : Crypto where
  ecrecover := fun _ sig => .ok (sig.take 32)
  unmarshalPubkey := fun pub => some ⟨bytesToNat pub, 0⟩
  compressPubkey := fun pub => bytesBE 33 pub.x
  sign := fun _ d => some (bytesBE 32 d ++ bytesBE 32 1 ++ [0])
  scalarBaseMult := fun d => ⟨d, 0⟩
  sha256 := id
  ripemd160 := fun b => bytesBE 20 (bytesToNat b)

/-! ### The key `1` as `crypto` computes on it

A curve library and a Keccak-256 that give, on the key `1` and on the hashes it signs below, what
`crypto` and `crypto.Keccak256` give, and elsewhere keep the contract of `Crypto.Sound` with
placeholder values. The tables hold the generator's coordinates, the SHA-256 and RIPEMD-160
digests of its compressed form, the Keccak-256 hashes of a migration claim, of a checkpoint and of
the uncompressed key, and the signatures of the two hashes as RFC 6979 makes them. -/

/-- The generator of secp256k1: the public key of the scalar 1. -/
def secp256k1G : PublicKey :=
  ⟨0x79BE667EF9DCBBAC55A06295CE870B07029BFCDB2DCE28D959F2815B16F81798,
    0x483ADA7726A3C4655DA4FBFC0E1108A8FD17B448A68554199C47D08FFB10D4B8⟩

/-- The public key of a scalar: the generator for 1, and a placeholder `(D, 0)` for another. -/
def keyOnePoint (d : ℕ) : PublicKey := if d = 1 then secp256k1G else ⟨d, 0⟩

/-- `abi.encodePacked(address(0), tag, 1)`: what the migration contract of chain 1 hashes for
`hashToSign(0)`. -/
def claimDataOne : List UInt8 :=
  (0 : Address).bytes ++ Governance.Gen2Migration.claimTag ++ bytesBE 32 1

/-- Keccak-256 of `claimDataOne`. -/
def claimHashOne : Hash := 0xd3beefec6af20d05e921b57ed1df5ffb21ab2a29ec63759eb8817b9e0ba02158#256

/-- Keccak-256 of `signatureBaseData 5 0`, the checkpoint 5 with hash 0. -/
def checkpointHashOne : Hash :=
  0x3d25266788e51e817f98583ed18ec8e6807b0cea52d19834c9f92a6b0260797a#256

/-- The address of the key 1: the low 20 bytes of the Keccak-256 hash of its coordinates. -/
def keyOneAddress : Address := 0x7e5f4552091a69125d5dfcb7b8c2659029395bdf#160

/-- The Keccak-256 hashes of the tables. -/
def keccakTable : List (List UInt8 × Hash) :=
  [(claimDataOne, claimHashOne), (Governance.signatureBaseData 5 0, checkpointHashOne),
    (secp256k1G.marshal.drop 1,
      0xc0a6c424ac7157ae408398df7e5f4552091a69125d5dfcb7b8c2659029395bdf#256)]

/-- A hasher whose Keccak-256 gives the hashes of the table, and 0 elsewhere. -/
def keccakOne : Hasher :=
  ⟨fun _ => 0, fun _ => 0, fun b => ((keccakTable.find? (·.1 == b)).map Prod.snd).getD 0,
    fun _ => 0⟩

/-- The signature `crypto.Sign` makes of `claimHashOne` by the key 1: `R ‖ S ‖ V` with the nonce
of RFC 6979, the low `S` and the recovery id 0. -/
def claimSigOne : List UInt8 :=
  bytesBE 32 0x56a3426704f78a85931e9c27e82ecf994043237d13d17e48e6258d39613b75ab ++
    bytesBE 32 0x1f14aa4085acd4d018f153cb2631a25d4599f783a9ed18c63b5636de3ea4ab8 ++ [0]

/-- The checkpoint signer's signature of `checkpointHashOne` by the key 1, as the registry takes
it: the recovery id 1 as `v = 28`. -/
def checkpointSigOne : List UInt8 :=
  bytesBE 32 0xbbcb6bd0949873b75345c449dde8068ec41222bd122738a32186f3ecda819c81 ++
    bytesBE 32 0x1cd5313712a546f166bf25e9bf6edd2bedd96a13cc7e411695a081fa1a809e26 ++ [28]

/-- The hashes the key 1 signs, with the signatures `crypto.Sign` makes of them. -/
def keyOneSigs : List (List UInt8 × List UInt8) :=
  [(claimHashOne.bytes, claimSigOne), (checkpointHashOne.bytes, checkpointSigOne.set 64 1)]

/-- `D ‖ 1 ‖ 0`: the placeholder signature by `D`. -/
def placeholderSig (d : ℕ) : List UInt8 := bytesBE 32 d ++ bytesBE 32 1 ++ [0]

/-- `Sign` in the tabled library: the tabled signature of a tabled hash by the key 1, and the
placeholder otherwise. -/
def keyOneSign (hash : List UInt8) (d : ℕ) : List UInt8 :=
  if d = 1 then ((keyOneSigs.find? (·.1 == hash)).map Prod.snd).getD (placeholderSig 1)
  else placeholderSig d

/-- The compressed generator, `0x02 ‖ X`, as `crypto.CompressPubkey` makes it. -/
def compressedKeyOne : List UInt8 := UInt8.ofNat (2 + secp256k1G.y % 2) :: bytesBE 32 secp256k1G.x

/-- `sha256.Sum256(compressedKeyOne)`. -/
def shaKeyOne : List UInt8 :=
  bytesBE 32 0x0f715baf5d4c2ed329785cef29e562f73488c8a2bb9dbc5700b361d54b9b0554

/-- A curve library that computes as `crypto` does on the key 1 and its tables: its public key is
the generator, `CompressPubkey` is the real one, `Sign` of a tabled hash is the real signature
and `Ecrecover` of it the real key, and SHA-256 and RIPEMD-160 give the real digests of the
compressed key. -/
def keyOneCrypto : Crypto where
  ecrecover := fun hash sig =>
    if keyOneSigs.contains (hash, sig) then .ok secp256k1G.marshal else .ok (sig.take 32)
  unmarshalPubkey := fun pub =>
    if pub = secp256k1G.marshal then some secp256k1G else some (keyOnePoint (bytesToNat pub))
  compressPubkey := fun pub => UInt8.ofNat (2 + pub.y % 2) :: bytesBE 32 pub.x
  sign := fun hash d => some (keyOneSign hash d)
  scalarBaseMult := keyOnePoint
  sha256 := fun b => if b = compressedKeyOne then shaKeyOne else b
  ripemd160 := fun b =>
    if b = shaKeyOne then bytesBE 20 0x751e76e8199196d454941c45d1b3a323f1433bd6
    else bytesBE 20 (bytesToNat b)

theorem keyOneCrypto_ecrecover (hash sig : List UInt8) :
    keyOneCrypto.ecrecover hash sig =
      if keyOneSigs.contains (hash, sig) then .ok secp256k1G.marshal else .ok (sig.take 32) :=
  rfl

theorem keyOneCrypto_unmarshalPubkey (pub : List UInt8) :
    keyOneCrypto.unmarshalPubkey pub =
      if pub = secp256k1G.marshal then some secp256k1G else some (keyOnePoint (bytesToNat pub)) :=
  rfl

/-- `Sign` gives a tabled signature of the key 1, or the placeholder. -/
theorem keyOneSign_cases (hash : List UInt8) (d : ℕ) :
    (∃ e ∈ keyOneSigs, e.1 = hash ∧ d = 1 ∧ keyOneSign hash d = e.2) ∨
      keyOneSign hash d = placeholderSig d := by
  unfold keyOneSign
  split
  · rename_i hd
    cases hfind : keyOneSigs.find? (·.1 == hash) with
    | none => exact .inr (by rw [hd]; rfl)
    | some e =>
      have hkey : e.1 = hash := by simpa using List.find?_some hfind
      exact .inl ⟨e, List.mem_of_find?_eq_some hfind, hkey, hd, rfl⟩
  · exact .inr rfl

/-- The tabled signatures are ones `Sign` may give: 65 bytes, a recovery id of 0 or 1, `R` and
`S` in `[1, N)`; and none has the placeholder's `S`. -/
theorem keyOneSigs_valid : ∀ e ∈ keyOneSigs, e.2.length = 65 ∧ e.2.getD 64 0 ≤ 1 ∧
    (1 ≤ sigR e.2 ∧ sigR e.2 < secp256k1N) ∧ (1 ≤ sigS e.2 ∧ sigS e.2 < secp256k1N) ∧
    (e.2.drop 32).take 32 ≠ bytesBE 32 1 := by
  decide

theorem keyOneCrypto_sound : keyOneCrypto.Sound where
  sign_ok := by
    intro hash d _ hpos hlt
    rcases keyOneSign_cases hash d with ⟨e, he, rfl, rfl, hsig⟩ | hsig
    · -- a tabled signature recovers the generator
      obtain ⟨hl, hv, hr, hs, -⟩ := keyOneSigs_valid e he
      refine ⟨e.2, congrArg some hsig, hl, hv, hr, hs, secp256k1G.marshal, ?_, ?_⟩
      · rw [keyOneCrypto_ecrecover, if_pos (List.contains_iff_mem.2 he)]
      · rw [keyOneCrypto_unmarshalPubkey, if_pos rfl]
        rfl
    · -- the placeholder recovers its `R`, which is the scalar
      have hd : bytesToNat (bytesBE 32 d) = d := by
        rw [bytesToNat_bytesBE, Nat.mod_eq_of_lt (lt_trans hlt (by decide))]
      have hR : (placeholderSig d).take 32 = bytesBE 32 d := by
        rw [placeholderSig, List.append_assoc]
        exact List.take_left' (length_bytesBE _ _)
      have hS : ((placeholderSig d).drop 32).take 32 = bytesBE 32 1 := by
        rw [placeholderSig, List.append_assoc, List.drop_left' (length_bytesBE _ _)]
        exact List.take_left' (length_bytesBE _ _)
      have hV : (placeholderSig d).getD 64 0 = 0 := by
        rw [placeholderSig, List.getD_append_right _ _ _ _ (by simp)]
        simp
      have hnot : keyOneSigs.contains (hash, placeholderSig d) = false := by
        rw [Bool.eq_false_iff]
        intro hmem
        exact (keyOneSigs_valid _ (List.contains_iff_mem.1 hmem)).2.2.2.2 hS
      have hmarshal : bytesBE 32 d ≠ secp256k1G.marshal := fun h => by
        simpa [PublicKey.marshal] using congrArg List.length h
      refine ⟨_, congrArg some hsig, by simp [placeholderSig], by rw [hV]; decide, ?_, ?_,
        bytesBE 32 d, ?_, ?_⟩
      · rw [sigR, hR, hd]
        exact ⟨hpos, hlt⟩
      · rw [sigS, hS, bytesToNat_bytesBE]
        decide
      · rw [keyOneCrypto_ecrecover, hnot, if_neg Bool.false_ne_true, hR]
      · rw [keyOneCrypto_unmarshalPubkey, if_neg hmarshal, hd]
        rfl
  length_ripemd160 b := by
    show (if b = shaKeyOne then bytesBE 20 0x751e76e8199196d454941c45d1b3a323f1433bd6
      else bytesBE 20 (bytesToNat b)).length = 20
    split <;> exact length_bytesBE _ _

/-- The WIF string of the key `1`, which base58 decodes to the prefix `0x80`, the 32 bytes of
`1`, the compression flag and a 4-byte checksum. -/
theorem decode_wif_one :
    Base58.decode Base58.bitcoinAlphabet "KwDiBf89QgGbjEhKnhXJuH7LrciVrZi3qYjgd9M7rFU73sVHnoWn" =
      some ([128] ++ bytesBE 32 1 ++ [1, 70, 113, 252, 63]) := by
  decide

/-- `parseGen2Key` of the WIF string of the key `1`, with any curve library. -/
theorem parseGen2Key_wif_one (c : Crypto) :
    parseGen2Key c "KwDiBf89QgGbjEhKnhXJuH7LrciVrZi3qYjgd9M7rFU73sVHnoWn" =
      some (.ok ⟨bytesToAddress (c.btcOwner (c.scalarBaseMult 1)), 1⟩) := by
  have hslice : GoSlice.slice ([128] ++ bytesBE 32 1 ++ [1, 70, 113, 252, 63]) 1
      (1 + privateKeyLen) = some (bytesBE 32 1) := by
    rw [GoSlice.slice, if_pos (by simp [privateKeyLen]), List.append_assoc,
      List.singleton_append, List.drop_one, List.tail_cons]
    exact congrArg some (List.take_left' (length_bytesBE _ _))
  have hkey : toECDSA (bytesBE 32 1) = .ok 1 := by
    rw [toECDSA, bytesToNat_bytesBE, if_neg (by simp), if_neg (by decide), if_neg (by decide)]
    rfl
  rw [parseGen2Key, if_neg (by decide), decode_wif_one]
  dsimp only
  rw [hslice, Option.map_some, hkey]
  rfl

/-- The key `1` under the library that computes as `crypto` does on it: its Gen 2 owner is
`RIPEMD160(SHA256(compressed G))`, the hash the contract asks to be signed is the Keccak-256 of
`hashToSign(0)`'s bytes, and the contract recovers the owner from the signature the API makes. -/
theorem ecrecover_modes_agree_key_one :
    keyOneCrypto.Sound ∧
      parseGen2Key keyOneCrypto "KwDiBf89QgGbjEhKnhXJuH7LrciVrZi3qYjgd9M7rFU73sVHnoWn" =
        some (.ok ⟨0x751e76e8199196d454941c45d1b3a323f1433bd6#160, 1⟩) ∧
      (Governance.Gen2Migration.new 1 0).hashToSign keccakOne 0 = claimHashOne ∧
      claimSignature keyOneCrypto claimHashOne ⟨0x751e76e8199196d454941c45d1b3a323f1433bd6#160, 1⟩ =
        .ok (0, 0x56a3426704f78a85931e9c27e82ecf994043237d13d17e48e6258d39613b75ab#256,
          0x1f14aa4085acd4d018f153cb2631a25d4599f783a9ed18c63b5636de3ea4ab8#256) ∧
      ∃ v r s, claimSignature keyOneCrypto
          ((Governance.Gen2Migration.new 1 0).hashToSign keccakOne 0)
          ⟨0x751e76e8199196d454941c45d1b3a323f1433bd6#160, 1⟩ = .ok (v, r, s) ∧
        (Governance.ecrecoverBuiltin keyOneCrypto keccakOne
          ((Governance.Gen2Migration.new 1 0).hashToSign keccakOne 0) v r s).getD 0 =
          0x751e76e8199196d454941c45d1b3a323f1433bd6#160 := by
  have howner : bytesToAddress (keyOneCrypto.btcOwner (keyOneCrypto.scalarBaseMult 1)) =
      0x751e76e8199196d454941c45d1b3a323f1433bd6#160 := by
    -- the tabled digests of the compressed generator
    have hbtc : keyOneCrypto.btcOwner (keyOneCrypto.scalarBaseMult 1) =
        bytesBE 20 0x751e76e8199196d454941c45d1b3a323f1433bd6 := by
      decide
    rw [bytesToAddress, hbtc, bytesToNat_bytesBE]
    decide
  have hkey := parseGen2Key_wif_one keyOneCrypto
  rw [howner] at hkey
  have hhash : (Governance.Gen2Migration.new 1 0).hashToSign keccakOne 0 = claimHashOne := by
    decide +kernel
  refine ⟨keyOneCrypto_sound, hkey, hhash, ?_,
    (ecrecover_modes_agree keyOneCrypto keccakOne).2.2.2 keyOneCrypto_sound _ _ hkey _ 0⟩
  decide +kernel

/-- The checkpoint registry with the model's precompile over the key-1 library, whose signer is
the key 1: the checkpoint 5 with hash 0, signed by the key with `v = 28`, is accepted by
`propose`, and the node accepts what the service reads back after any `sign` calls. -/
theorem checkpoint_signature_agree_key_one :
    Governance.EcrecoverAgree keccakOne (Governance.ecrecoverBuiltin keyOneCrypto keccakOne)
        keyOneCrypto.ecrecover ∧
      ∃ reg' checkpoint,
        Governance.CheckpointRegistryV2.propose keccakOne
          (Governance.ecrecoverBuiltin keyOneCrypto keccakOne) ⟨[], keyOneAddress⟩ ⟨0, 1, 0⟩ 5 0
          checkpointSigOne = .ok (reg', checkpoint) ∧
        ∀ calls, ∃ cp sigs,
          Governance.onCheckpoint keyOneAddress (checkpoint.runCalls
            (Governance.ecrecoverBuiltin keyOneCrypto keccakOne) calls) = some (cp, sigs) ∧
          cp.number = 5 ∧ cp.hash = 0 ∧
          CheckpointManager.checkCppSignature keccakOne keyOneCrypto.ecrecover
            ⟨0, some keyOneAddress, fun _ => (.ok (), ⟨0, 0, 0, 0, 1, 0, 0, 0, 0, [], 0, 0, []⟩)⟩
            cp sigs = .ok () := by
  have hagree := ecrecoverBuiltin_agree keyOneCrypto keccakOne
  -- the precompile recovers the key's address from the registry's signature
  have hrec : Governance.ecrecoverBuiltin keyOneCrypto keccakOne
      (Governance.signatureBase keccakOne 5 0) 28 (Governance.decodeRS checkpointSigOne).1
      (Governance.decodeRS checkpointSigOne).2 = some keyOneAddress := by
    decide +kernel
  exact ⟨hagree, (Governance.CheckpointRegistryV2.checkpoint_signature_agree _ _ _ hagree
    ⟨[], keyOneAddress⟩ ⟨0, 1, 0⟩ _ rfl 5 0 (by decide) checkpointSigOne 28 rfl rfl (Or.inr rfl)
    hrec).2⟩

/-- The one coin of an item of owner `0xA`, on a chain other than 49797. -/
theorem searchGen2CoinsByText_listed_one :
    let coin : Gen2Coin :=
      ⟨0, bytesToAddress (0xA : Address).bytes, gen2OwnerText sampleCrypto 33 0xA, 5⟩
    listGen2CoinsUncached sampleCrypto 0 (.ok [⟨0xA, 5⟩]) = .ok [coin] ∧ coin ∈ [coin] ∧
      ∃ found, searchGen2CoinsByText false [coin.owner] (.ok [coin]) false = .ok found ∧
        (coin ∈ found ↔ false = true ∨ 0 < coin.amount) := by
  intro coin
  have hcoins : listGen2CoinsUncached sampleCrypto 0 (.ok [⟨0xA, 5⟩]) = .ok [coin] := rfl
  exact ⟨hcoins, List.mem_singleton_self coin,
    searchGen2CoinsByText_listed sampleCrypto 0 _ false false hcoins (List.mem_singleton_self coin)⟩

/-- One key whose owner has one coin, of which the contract would pay 5: the search finds the
one coin, and both claims of the dump answer with two hashes, the zero placeholder of `make`
before the hash of the one claim sent. -/
theorem claimGen2Coins_zero_prefix :
    ∀ (h : Hash) (dst : Address) (hasher : Hasher),
      let key : Gen2Key := ⟨0xA, 1⟩
      let coin : Gen2Coin := ⟨0, 0xA, "", 5⟩
      let session : MigrationSession :=
        ⟨fun _ => .ok 0, fun _ _ _ _ _ => .ok 5, fun _ _ _ _ _ => .ok h⟩
      searchRawGen2Coins false [key.rawOwner] (.ok [coin]) false = .ok [coin] ∧
        claimGen2CoinsCombined sampleCrypto session false (.ok [coin]) dst (.ok [key]) =
          some (.ok [0, h]) ∧
        claimGen2CoinsImport sampleCrypto session hasher false (.ok [coin]) (.ok [key]) =
          some (.ok [0, h]) := by
  intro h dst hasher key coin session
  have hsearch : searchRawGen2Coins false [key.rawOwner] (.ok [coin]) false = .ok [coin] := rfl
  have hsig : claimSignature sampleCrypto 0 key = .ok (0, 1, 1) := by decide
  -- the claim is signed and sent: `verifyClaim` pays 5
  have hclaim : ∀ dst, claimGen2Coins sampleCrypto session dst coin key = .ok h := by
    intro dst
    rw [claimGen2Coins]
    simp only [session, bind, Except.bind, hsig]
    rfl
  have hloop : ∀ dstOf, claimLoop sampleCrypto session dstOf [key] [] [coin] = some (.ok [h]) := by
    intro dstOf
    have howner : owner2key [key] coin.rawOwner = some key := rfl
    simp only [claimLoop, howner, hclaim, List.nil_append]
  refine ⟨hsearch, ?_, ?_⟩
  · rw [claimGen2CoinsCombined, claimDumpCoins_of_search sampleCrypto session hsearch, hloop]
    rfl
  · rw [claimGen2CoinsImport, claimDumpCoins_of_search sampleCrypto session hsearch, hloop]
    rfl

end Api

end RangeCore
