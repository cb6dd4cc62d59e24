import Mathlib
import RangeCore.Core.State

/-!
# The `ecrecover` precompile in two modes

Range's `ecrecover` precompile of `core/vm/contracts.go` recovers the signer of a hash in one of
two modes, chosen by the byte `v` of the input `hash ‖ v ‖ r ‖ s`. A `v` of 0 or 1 is Bitcoin
mode: the recovery id is `v`, and the signer is named by `RIPEMD160(SHA256(compressed key))`, the
owner of a Gen 2 coin. A `v` of 27 or 28 is Ethereum mode: the recovery id is `v - 27`, and the
signer is named by its Keccak address. `Run` pads the input to 128 bytes, rewrites `v` in place
for Ethereum mode and then checks it with the signature values; `RequiredGas` looks at the raw
input and charges the SHA256 and RIPEMD160 surcharge to inputs shorter than 64 bytes and to a
`v` of at most 1.

`Ecrecover.spec` says what the precompile is for, the mode and the recovery id computed once
from the padded input, and `Ecrecover.run_eq_spec` shows that `Run` computes it. The gas rule
charges the surcharge exactly in Bitcoin mode (`Ecrecover.requiredGas_eq`): a short input is
padded with zeros, so its `v` is 0.

The elliptic curve and the hash functions are the parameter `Crypto`, with what the node relies
on of them as `Crypto.Sound`: `crypto.Sign` of a valid key gives `[R || S || V]` with `V` 0 or
1 and `R`, `S` in range, as its documentation states, and `crypto.Ecrecover` of that signature
gives back the signer's key.

## Main definitions

* `RangeCore.bytesToNat`, `RangeCore.rightPadBytes`, `RangeCore.leftPadBytes`,
  `RangeCore.bytesToAddress`.
* `RangeCore.Crypto`, `RangeCore.Crypto.Sound`, `RangeCore.validateSignatureValues`.
* `RangeCore.Vm.Ecrecover.requiredGas`, `RangeCore.Vm.Ecrecover.run`,
  `RangeCore.Vm.Ecrecover.spec`.

## Main results

* `RangeCore.bytesToNat_bytesBE`, `RangeCore.bytesBE_bytesToNat`: the two byte encodings.
* `RangeCore.Vm.Ecrecover.run_eq_spec`, and from it `run_ne_nil` and `run_of_mode`.
* `RangeCore.Vm.Ecrecover.requiredGas_eq`.
-/

namespace RangeCore

/-- `new(big.Int).SetBytes(b)`: the big-endian number of a byte string. -/
def bytesToNat (b : List UInt8) : ℕ := b.foldl (fun n x => 256 * n + x.toNat) 0

theorem foldl_bytesToNat (b : List UInt8) (n : ℕ) :
    b.foldl (fun n x => 256 * n + x.toNat) n = n * 256 ^ b.length + bytesToNat b := by
  induction b generalizing n with
  | nil => simp [bytesToNat]
  | cons x b ih =>
    have hcons : bytesToNat (x :: b) = x.toNat * 256 ^ b.length + bytesToNat b := by
      show List.foldl _ 0 (x :: b) = _
      rw [List.foldl_cons, ih]
      simp
    rw [List.foldl_cons, ih, hcons, List.length_cons, pow_succ]
    ring

@[simp] theorem bytesToNat_append (a b : List UInt8) :
    bytesToNat (a ++ b) = bytesToNat a * 256 ^ b.length + bytesToNat b := by
  rw [bytesToNat, List.foldl_append, foldl_bytesToNat]
  rfl

@[simp] theorem bytesToNat_nil : bytesToNat [] = 0 := rfl

@[simp] theorem bytesToNat_singleton (x : UInt8) : bytesToNat [x] = x.toNat := by
  simp [bytesToNat]

/-- `bytesBE n` keeps the low `n` bytes of a number. -/
theorem bytesToNat_bytesBE (n x : ℕ) : bytesToNat (bytesBE n x) = x % 256 ^ n := by
  induction n generalizing x with
  | zero => simp [bytesBE, Nat.mod_one]
  | succ n ih =>
    have hlow : (UInt8.ofNat (x % 256)).toNat = x % 256 := by simp
    rw [bytesBE, bytesToNat_append, ih, bytesToNat_singleton, hlow, List.length_singleton,
      pow_one, pow_succ', Nat.mod_mul]
    ring

/-- A byte string is the `bytesBE` encoding of its number at its own length. -/
theorem bytesBE_bytesToNat (b : List UInt8) : bytesBE b.length (bytesToNat b) = b := by
  induction b using List.reverseRecOn with
  | nil => rfl
  | append_singleton b x ih =>
    have hx : x.toNat < 256 := x.toNat_lt
    rw [List.length_append, List.length_singleton, bytesBE, bytesToNat_append,
      bytesToNat_singleton, List.length_singleton, pow_one]
    have hdiv : (bytesToNat b * 256 + x.toNat) / 256 = bytesToNat b := by omega
    have hmod : UInt8.ofNat ((bytesToNat b * 256 + x.toNat) % 256) = x := by
      apply UInt8.toNat_inj.1
      simp only [UInt8.toNat_ofNat']
      omega
    rw [hdiv, hmod, ih]

theorem bytesToNat_lt (b : List UInt8) : bytesToNat b < 256 ^ b.length := by
  have h := bytesToNat_bytesBE b.length (bytesToNat b)
  rw [bytesBE_bytesToNat] at h
  rw [h]
  exact Nat.mod_lt _ (by positivity)

/-- `common.RightPadBytes(slice, l)`: zeros after the bytes up to length `l`. -/
def rightPadBytes (slice : List UInt8) (l : ℕ) : List UInt8 :=
  if l ≤ slice.length then slice else slice ++ List.replicate (l - slice.length) 0

/-- `common.LeftPadBytes(slice, l)`: zeros before the bytes up to length `l`. -/
def leftPadBytes (slice : List UInt8) (l : ℕ) : List UInt8 :=
  if l ≤ slice.length then slice else List.replicate (l - slice.length) 0 ++ slice

/-- `common.BytesToAddress(b)`: the last 20 bytes, with zeros before when there are fewer. -/
def bytesToAddress (b : List UInt8) : Address := BitVec.ofNat 160 (bytesToNat b)

theorem rightPadBytes_of_le {slice : List UInt8} {l : ℕ} (h : l ≤ slice.length) :
    rightPadBytes slice l = slice := if_pos h

theorem length_rightPadBytes (slice : List UInt8) (l : ℕ) :
    (rightPadBytes slice l).length = max slice.length l := by
  unfold rightPadBytes
  split_ifs with h
  · omega
  · simp only [List.length_append, List.length_replicate]
    omega

/-- Padding keeps the bytes there were, and puts zeros after them. -/
theorem getD_rightPadBytes (slice : List UInt8) (l i : ℕ) :
    (rightPadBytes slice l).getD i 0 = slice.getD i 0 := by
  unfold rightPadBytes
  split_ifs with h
  · rfl
  · rcases Nat.lt_or_ge i slice.length with hi | hi
    · simp [List.getD_eq_getElem?_getD, List.getElem?_append_left hi]
    · simp only [List.getD_eq_getElem?_getD, List.getElem?_append_right hi,
        List.getElem?_replicate, List.getElem?_eq_none hi]
      split_ifs <;> rfl

/-- `allZero(b)`. -/
def allZero (b : List UInt8) : Bool := b.all (· == 0)

/-- The order of the secp256k1 group. -/
def secp256k1N : ℕ := 0xfffffffffffffffffffffffffffffffebaaedce6af48a03bbfd25e8cd0364141

/-- `crypto.ValidateSignatureValues`: `r` and `s` in `[1, N)`, `s` in the lower half under
Homestead's rule for transactions, and a recovery id of 0 or 1. -/
def validateSignatureValues (v : UInt8) (r s : ℕ) (homestead : Bool) : Bool :=
  if r < 1 ∨ s < 1 then false
  else if homestead ∧ s > secp256k1N / 2 then false
  else decide (r < secp256k1N ∧ s < secp256k1N ∧ (v = 0 ∨ v = 1))

theorem validateSignatureValues_false_iff {v : UInt8} {r s : ℕ} :
    validateSignatureValues v r s false = true ↔
      (1 ≤ r ∧ r < secp256k1N) ∧ (1 ≤ s ∧ s < secp256k1N) ∧ (v = 0 ∨ v = 1) := by
  unfold validateSignatureValues
  by_cases h : r < 1 ∨ s < 1
  · rw [if_pos h]
    simp only [Bool.false_eq_true, false_iff]
    omega
  · have hr : 1 ≤ r := by omega
    have hs : 1 ≤ s := by omega
    rw [if_neg h, if_neg (by simp), decide_eq_true_iff]
    simp only [hr, hs, true_and]

/-- With a recovery id of 0 or 1, only the ranges of `r` and `s` are checked. -/
theorem validateSignatureValues_of_recid {v : UInt8} (hv : v = 0 ∨ v = 1) (r s : ℕ) :
    validateSignatureValues v r s false =
      decide ((1 ≤ r ∧ r < secp256k1N) ∧ (1 ≤ s ∧ s < secp256k1N)) := by
  rw [Bool.eq_iff_iff, validateSignatureValues_false_iff, decide_eq_true_iff]
  simp only [hv, and_true]

theorem validateSignatureValues_of_not_recid {v : UInt8} (hv : ¬(v = 0 ∨ v = 1)) (r s : ℕ) :
    validateSignatureValues v r s false = false := by
  rw [Bool.eq_false_iff, ne_eq, validateSignatureValues_false_iff]
  tauto

/-- A byte of at most 1 is 0 or 1. -/
theorem UInt8.eq_zero_or_eq_one_of_le_one {v : UInt8} (h : v ≤ 1) : v = 0 ∨ v = 1 := by
  have hv := UInt8.le_iff_toNat_le.1 h
  simp only [UInt8.toNat_one] at hv
  rcases Nat.le_one_iff_eq_zero_or_eq_one.1 hv with h0 | h1
  · exact .inl (UInt8.toNat_inj.1 (by simpa using h0))
  · exact .inr (UInt8.toNat_inj.1 (by simpa using h1))

/-- A point of secp256k1, a public key. -/
structure PublicKey where
  x : ℕ
  y : ℕ
  deriving DecidableEq

/-- The curve arithmetic and the hash functions of `crypto`, which this development does not
compute. A private key is its scalar `D`. -/
structure Crypto where
  /-- `crypto.Ecrecover`: the 65-byte uncompressed key that signed a 32-byte hash with a 65-byte
  signature `[R || S || V]`. -/
  ecrecover : Ecrecover
  /-- `crypto.UnmarshalPubkey`, none for bytes that are no point of the curve. -/
  unmarshalPubkey : List UInt8 → Option PublicKey
  /-- `crypto.CompressPubkey`. -/
  compressPubkey : PublicKey → List UInt8
  /-- `crypto.Sign` of a hash by the key with scalar `D`. -/
  sign : List UInt8 → ℕ → Option (List UInt8)
  /-- `ScalarBaseMult`: the public key of a scalar. -/
  scalarBaseMult : ℕ → PublicKey
  /-- `sha256.Sum256`. -/
  sha256 : List UInt8 → List UInt8
  /-- `ripemd160`'s `Sum(nil)`. -/
  ripemd160 : List UInt8 → List UInt8

/-- The `R` of a signature `[R || S || V]`. -/
def sigR (sig : List UInt8) : ℕ := bytesToNat (sig.take 32)

/-- The `S` of a signature `[R || S || V]`. -/
def sigS (sig : List UInt8) : ℕ := bytesToNat ((sig.drop 32).take 32)

namespace Crypto

variable (c : Crypto)

/-- The Gen 2 (Bitcoin) owner of a key: `RIPEMD160(SHA256(compressed key))`. -/
def btcOwner (pub : PublicKey) : List UInt8 := c.ripemd160 (c.sha256 (c.compressPubkey pub))

/-- What the node relies on of the curve library: `Sign` of a valid key gives a 65-byte
`[R || S || V]` with `R` and `S` in `[1, N)` and `V` 0 or 1, from which `Ecrecover` gives back a
key that unmarshals to the signer's; `RIPEMD160` gives 20 bytes. -/
structure Sound : Prop where
  sign_ok : ∀ hash d, hash.length = 32 → 0 < d → d < secp256k1N →
    ∃ sig, c.sign hash d = some sig ∧ sig.length = 65 ∧ sig.getD 64 0 ≤ 1 ∧
      (1 ≤ sigR sig ∧ sigR sig < secp256k1N) ∧ (1 ≤ sigS sig ∧ sigS sig < secp256k1N) ∧
      ∃ pub, c.ecrecover hash sig = .ok pub ∧ c.unmarshalPubkey pub = some (c.scalarBaseMult d)
  length_ripemd160 : ∀ b, (c.ripemd160 b).length = 20

end Crypto

namespace Vm

/-- `params.EcrecoverGas`. -/
def ecrecoverGas : UInt64 := 3000

/-- `Sha256BaseGas + Sha256PerWordGas + Ripemd160BaseGas + Ripemd160PerWordGas`: the hashing of
Bitcoin mode, one word each. -/
def btcSurcharge : UInt64 := 60 + 12 + 600 + 120

/-- `ecRecoverInputLength`. -/
def ecRecoverInputLength : ℕ := 128

namespace Ecrecover

/-- `ecrecover.RequiredGas`: a short input is padded into Bitcoin mode. -/
def requiredGas (input : List UInt8) : UInt64 :=
  if input.length < 64 ∨ input.getD 63 0 ≤ 1 then ecrecoverGas + btcSurcharge else ecrecoverGas

variable (c : Crypto) (hasher : Hasher)

/-- `ecrecover.Run`: no output stands for its `nil`. -/
def run (input : List UInt8) : List UInt8 :=
  let input := rightPadBytes input ecRecoverInputLength
  let r := bytesToNat ((input.drop 64).take 32)
  let s := bytesToNat ((input.drop 96).take 32)
  let v := input.getD 63 0
  let isBtc := decide (v ≤ 1)
  let isEth := decide (v = 27 ∨ v = 28)
  let v := if isEth then v - 27 else v
  if !allZero ((input.drop 32).take 31) || !validateSignatureValues v r s false then [] else
  match c.ecrecover (input.take 32) ((input.drop 64).take 64 ++ [v]) with
  | .error _ => []
  | .ok pubKey =>
    if isBtc then
      match c.unmarshalPubkey pubKey with
      | none => []
      | some pubKeyObj => leftPadBytes (c.btcOwner pubKeyObj) 32
    else leftPadBytes ((hasher.keccak256 (pubKey.drop 1)).bytes.drop 12) 32

/-- The two modes of the precompile. -/
inductive Mode
  | btc
  | eth
  deriving DecidableEq

/-- The mode a byte `v` selects, with its recovery id. -/
def Mode.ofV (v : UInt8) : Option (Mode × UInt8) :=
  if v ≤ 1 then some (.btc, v) else if v = 27 ∨ v = 28 then some (.eth, v - 27) else none

/-- The mode an input selects: by its byte 63, zero when it is shorter. -/
def mode (input : List UInt8) : Option Mode :=
  (Mode.ofV ((rightPadBytes input ecRecoverInputLength).getD 63 0)).map Prod.fst

/-- The signer's name in a mode: its Gen 2 owner, or its Keccak address, left-padded to a word. -/
def modeAddress : Mode → List UInt8 → List UInt8
  | .btc, pubKey => match c.unmarshalPubkey pubKey with
    | none => []
    | some pub => leftPadBytes (c.btcOwner pub) 32
  | .eth, pubKey => leftPadBytes ((hasher.keccak256 (pubKey.drop 1)).bytes.drop 12) 32

/-- What the precompile is for. The padded input is `hash ‖ v ‖ r ‖ s`; `v` selects the mode and
the recovery id; the bytes of the word of `v` before it must be zero and `r`, `s` in `[1, N)`,
and then the key that signed `hash` with `(r, s)` and that recovery id is named in that mode. -/
def spec (input : List UInt8) : List UInt8 :=
  let p := rightPadBytes input ecRecoverInputLength
  let r := bytesToNat ((p.drop 64).take 32)
  let s := bytesToNat ((p.drop 96).take 32)
  match Mode.ofV (p.getD 63 0) with
  | none => []
  | some (mode, recid) =>
    if allZero ((p.drop 32).take 31) ∧ (1 ≤ r ∧ r < secp256k1N) ∧ (1 ≤ s ∧ s < secp256k1N) then
      match c.ecrecover (p.take 32) ((p.drop 64).take 64 ++ [recid]) with
      | .error _ => []
      | .ok pubKey => modeAddress c hasher mode pubKey
    else []

theorem Mode.ofV_btc {v : UInt8} (h : v ≤ 1) : Mode.ofV v = some (.btc, v) := if_pos h

theorem Mode.ofV_eth {v : UInt8} (h : ¬v ≤ 1) (h' : v = 27 ∨ v = 28) :
    Mode.ofV v = some (.eth, v - 27) := by
  rw [Mode.ofV, if_neg h, if_pos h']

theorem Mode.ofV_none {v : UInt8} (h : ¬v ≤ 1) (h' : ¬(v = 27 ∨ v = 28)) : Mode.ofV v = none := by
  rw [Mode.ofV, if_neg h, if_neg h']

/-- The guard of `Run`, a disjunction of negated checks, as the conjunction of the checks. -/
theorem guard_eq {α : Type} (a : Bool) (P : Prop) [Decidable P] (x : List α) :
    (if (!a || !decide P) = true then [] else x) = if a = true ∧ P then x else [] := by
  cases a <;> by_cases hP : P <;> simp [hP]

/-- `Run` computes the precompile's purpose: the in-place rewrite of `v` and the one check of
the signature values pick the mode and the recovery id of `Mode.ofV`. -/
theorem run_eq_spec (input : List UInt8) : run c hasher input = spec c hasher input := by
  simp only [run, spec]
  generalize rightPadBytes input ecRecoverInputLength = p
  by_cases hbtc : p.getD 63 0 ≤ 1
  · -- Bitcoin mode: `v` is its own recovery id
    have heth : ¬(p.getD 63 0 = 27 ∨ p.getD 63 0 = 28) := by
      rintro (h | h) <;> rw [h] at hbtc <;> exact absurd hbtc (by decide)
    simp only [Mode.ofV_btc hbtc, hbtc, heth, decide_true, decide_false, Bool.false_eq_true,
      if_true, if_false, validateSignatureValues_of_recid
        (UInt8.eq_zero_or_eq_one_of_le_one hbtc), guard_eq]
    rfl
  · by_cases heth : p.getD 63 0 = 27 ∨ p.getD 63 0 = 28
    · -- Ethereum mode: `v - 27` is the recovery id
      have hid : p.getD 63 0 - 27 = 0 ∨ p.getD 63 0 - 27 = 1 := by
        rcases heth with h | h <;> rw [h] <;> decide
      simp only [Mode.ofV_eth hbtc heth, hbtc, heth, decide_true, decide_false,
        Bool.false_eq_true, if_true, if_false, validateSignatureValues_of_recid hid, guard_eq]
      rfl
    · -- no mode: the recovery id check fails
      have hid : ¬(p.getD 63 0 = 0 ∨ p.getD 63 0 = 1) := by
        rintro (h | h) <;> rw [h] at hbtc <;> exact hbtc (by decide)
      simp only [Mode.ofV_none hbtc heth, heth, decide_false, Bool.false_eq_true, if_false,
        validateSignatureValues_of_not_recid hid, Bool.not_false, Bool.or_true, if_true]

theorem Mode.ofV_isSome_iff (v : UInt8) :
    (Mode.ofV v).isSome ↔ v = 0 ∨ v = 1 ∨ v = 27 ∨ v = 28 := by
  by_cases hbtc : v ≤ 1
  · simp only [Mode.ofV_btc hbtc, Option.isSome_some, true_iff]
    rcases UInt8.eq_zero_or_eq_one_of_le_one hbtc with h | h <;> simp [h]
  · have hid : ¬(v = 0 ∨ v = 1) := by
      rintro (h | h) <;> rw [h] at hbtc <;> exact hbtc (by decide)
    by_cases heth : v = 27 ∨ v = 28
    · simp only [Mode.ofV_eth hbtc heth, Option.isSome_some, true_iff]
      tauto
    · simp only [Mode.ofV_none hbtc heth, Option.isSome_none, Bool.false_eq_true, false_iff]
      tauto

/-- `Run` gives an output only when the word of `v` is zero before it, `v` is 0, 1, 27 or 28, and
`r` and `s` are in `[1, N)`. -/
theorem run_ne_nil {input : List UInt8} (h : run c hasher input ≠ []) :
    let p := rightPadBytes input ecRecoverInputLength
    allZero ((p.drop 32).take 31) = true ∧
      (p.getD 63 0 = 0 ∨ p.getD 63 0 = 1 ∨ p.getD 63 0 = 27 ∨ p.getD 63 0 = 28) ∧
      (1 ≤ bytesToNat ((p.drop 64).take 32) ∧ bytesToNat ((p.drop 64).take 32) < secp256k1N) ∧
      (1 ≤ bytesToNat ((p.drop 96).take 32) ∧ bytesToNat ((p.drop 96).take 32) < secp256k1N) := by
  rw [run_eq_spec] at h
  unfold spec at h
  dsimp only at h ⊢
  generalize rightPadBytes input ecRecoverInputLength = p at h ⊢
  rw [← Mode.ofV_isSome_iff]
  cases hmode : Mode.ofV (p.getD 63 0) with
  | none => rw [hmode] at h; exact absurd rfl h
  | some mr =>
    obtain ⟨mode, recid⟩ := mr
    rw [hmode] at h
    split_ifs at h with hok
    · exact ⟨hok.1, rfl, hok.2⟩
    · exact absurd rfl h

/-- In a mode, with the checks passed, `Run` names in that mode the key recovered with the
mode's recovery id. -/
theorem run_of_mode {input : List UInt8} {mode : Mode} {recid : UInt8}
    (hmode : Mode.ofV ((rightPadBytes input ecRecoverInputLength).getD 63 0) = some (mode, recid))
    (hok : let p := rightPadBytes input ecRecoverInputLength
      allZero ((p.drop 32).take 31) = true ∧
        (1 ≤ bytesToNat ((p.drop 64).take 32) ∧ bytesToNat ((p.drop 64).take 32) < secp256k1N) ∧
        (1 ≤ bytesToNat ((p.drop 96).take 32) ∧ bytesToNat ((p.drop 96).take 32) < secp256k1N)) :
    run c hasher input =
      match c.ecrecover ((rightPadBytes input ecRecoverInputLength).take 32)
          (((rightPadBytes input ecRecoverInputLength).drop 64).take 64 ++ [recid]) with
      | .error _ => []
      | .ok pubKey => modeAddress c hasher mode pubKey := by
  rw [run_eq_spec]
  simp only [spec, hmode]
  rw [if_pos hok]

/-- An input is in Bitcoin mode exactly when `Run` takes it so: its padded byte 63 is 0 or 1. -/
theorem mode_eq_btc_iff (input : List UInt8) :
    mode input = some .btc ↔ (rightPadBytes input ecRecoverInputLength).getD 63 0 ≤ 1 := by
  unfold mode Mode.ofV
  split_ifs <;> simp_all

/-- `RequiredGas` charges the Bitcoin surcharge exactly to the inputs in Bitcoin mode, short
inputs included. -/
theorem requiredGas_eq (input : List UInt8) :
    requiredGas input = if mode input = some .btc then ecrecoverGas + btcSurcharge
      else ecrecoverGas := by
  have hv : (rightPadBytes input ecRecoverInputLength).getD 63 0 =
      if input.length < 64 then 0 else input.getD 63 0 := by
    rw [getD_rightPadBytes]
    split_ifs with h
    · exact List.getD_eq_default _ _ (by omega)
    · rfl
  have hmode := mode_eq_btc_iff input
  unfold requiredGas
  rw [hv] at hmode
  by_cases hshort : input.length < 64
  · rw [if_pos (Or.inl hshort), if_pos (hmode.2 (by simp [hshort]))]
  · by_cases hb : input.getD 63 0 ≤ 1
    · rw [if_pos (Or.inr hb), if_pos (hmode.2 (by simpa [hshort] using hb))]
    · rw [if_neg (by tauto), if_neg (fun h => hb (by simpa [hshort] using hmode.1 h))]

end Ecrecover

end Vm

end RangeCore
