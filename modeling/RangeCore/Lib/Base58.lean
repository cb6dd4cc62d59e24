import Mathlib

/-!
# Base58 decoding

`Decode` of the Go package `github.com/shengdoushi/base58`, which the node vendors. Each leading
character that is the alphabet's zero digit becomes a zero byte; the characters after them are
read as a number in base 58, one digit at a time, into an array of bytes that holds the number
big-endian. A digit goes in by multiplying every byte written so far by 58, from the least
significant, with the carry running on past them while it is not zero (`mulAdd`).

The array has room for `n·733/1000 + 1` bytes for an input of `n` characters, which is always
enough, as `log 58 / log 256 < 0.733`, so it is modelled as a list that grows. The bytes written
so far are kept least significant first.

What `Decode` computes is then a fact about numbers: the bytes after the zeros are the base-256
digits of the base-58 number, with no leading zero byte (`decode_eq`). In particular the empty
string decodes to no bytes.

`Encode` runs the same loop the other way, multiplying base-58 digits by 256 (`mulAddIn`), so
that a byte string encodes to its zero bytes as zero digits and then the base-58 digits of the
number of the rest (`encode_eq`). The first of those digits is not zero, and the first of the
rest's bytes is not zero, so decoding gives back every byte string (`decode_encode`).

## Main definitions

* `Base58.Alphabet`, `Base58.bitcoinAlphabet`, `Base58.Alphabet.digit`.
* `Base58.mulAdd`, `Base58.decode`.
* `Base58.mulAddIn`, `Base58.encode`.

## Main results

* `Base58.mulAdd_digits`: one digit into the number.
* `Base58.decode_eq`: a decoded string is its zeros followed by the bytes of its number.
* `Base58.encode_eq`, `Base58.decode_encode`: the encoding and the round trip.
-/

namespace Base58

/-- An alphabet of 58 distinct characters, the digits in order, as `NewAlphabet` builds it from
its `encodeTable`. -/
structure Alphabet where
  encodeTable : List Char
  length_encodeTable : encodeTable.length = 58
  nodup : encodeTable.Nodup

/-- `BitcoinAlphabet`. -/
def bitcoinAlphabet : Alphabet where
  encodeTable := "123456789ABCDEFGHJKLMNPQRSTUVWXYZabcdefghijkmnopqrstuvwxyz".toList
  length_encodeTable := by decide
  nodup := by decide

namespace Alphabet

variable (alphabet : Alphabet)

/-- The zero digit, `encodeTable[0]`. -/
def zero : Char := alphabet.encodeTable.headD ' '

/-- The digit of a character: its place in the alphabet, which `decodeTable` (for a character
below 256) or `unicodeDecodeTable` holds, or none. -/
def digit (c : Char) : Option ℕ :=
  if c ∈ alphabet.encodeTable then some (alphabet.encodeTable.idxOf c) else none

theorem digit_lt {c : Char} {d : ℕ} (h : alphabet.digit c = some d) : d < 58 := by
  unfold digit at h
  split_ifs at h with hc
  cases h
  rw [← alphabet.length_encodeTable]
  exact List.idxOf_lt_length_of_mem hc

end Alphabet

/-- The bytes of a carry, least significant first, written while it is not zero. The carry
shrinks with every byte, so a fuel of `carry` bytes is always enough (`carryBytes_eq`). -/
def carryBytes : ℕ → ℕ → List UInt8
  | 0, _ => []
  | fuel + 1, carry => if carry = 0 then [] else UInt8.ofNat carry :: carryBytes fuel (carry / 256)

/-- With enough fuel, the bytes of a carry are its base-256 digits. -/
theorem carryBytes_eq {fuel carry : ℕ} (h : carry ≤ fuel) :
    carryBytes fuel carry = (Nat.digits 256 carry).map UInt8.ofNat := by
  induction fuel generalizing carry with
  | zero => simp [carryBytes, Nat.le_zero.1 h]
  | succ fuel ih =>
    rcases Nat.eq_zero_or_pos carry with rfl | hpos
    · simp [carryBytes]
    · rw [carryBytes, if_neg hpos.ne', Nat.digits_def' (by norm_num) hpos, List.map_cons,
        ih (by omega)]
      congr 1
      apply UInt8.toNat_inj.1
      simp only [UInt8.toNat_ofNat']
      omega

/-- The inner loop of `Decode`: the carry, which starts as the digit, goes into the bytes written
so far, least significant first, each becoming `carry + 58 · byte` modulo 256; past them the
carry's own bytes are written while it is not zero. -/
def mulAdd (carry : ℕ) : List UInt8 → List UInt8
  | [] => carryBytes carry carry
  | b :: bs =>
    let carry := carry + 58 * b.toNat
    UInt8.ofNat carry :: mulAdd (carry / 256) bs

/-- `Decode(input, alphabet)`: the leading zero digits as zero bytes, then the number the other
characters spell, big-endian; a character outside the alphabet is `ErrorInvalidBase58String`. -/
def decode (alphabet : Alphabet) (input : String) : Option (List UInt8) := do
  let cs := input.toList
  let prefixZeroes := (cs.takeWhile (· = alphabet.zero)).length
  let output ← (cs.drop prefixZeroes).foldlM
    (fun output target => (alphabet.digit target).map fun carry => mulAdd carry output) []
  pure (List.replicate prefixZeroes 0 ++ output.reverse)

/-- A digit into a number held as its base-256 digits gives the digits of `carry + 58 · n`. -/
theorem mulAdd_digits (carry n : ℕ) :
    mulAdd carry ((Nat.digits 256 n).map UInt8.ofNat) =
      (Nat.digits 256 (carry + 58 * n)).map UInt8.ofNat := by
  induction n using Nat.strong_induction_on generalizing carry with
  | _ n ih =>
    rcases Nat.eq_zero_or_pos n with rfl | hn
    · simp [mulAdd, carryBytes_eq le_rfl]
    · -- the lowest byte of `n` takes the carry; the rest of `n` is `n / 256`
      have hlow : (UInt8.ofNat (n % 256)).toNat = n % 256 := by simp
      have hsplit : 58 * n = 58 * (n % 256) + 256 * (58 * (n / 256)) := by
        have := Nat.mod_add_div n 256
        omega
      rw [Nat.digits_def' (by norm_num) hn, List.map_cons, mulAdd, hlow,
        ih (n / 256) (Nat.div_lt_self hn (by norm_num)),
        Nat.digits_def' (by norm_num) (by omega : 0 < carry + 58 * n), List.map_cons]
      congr 1
      · apply UInt8.toNat_inj.1
        simp only [UInt8.toNat_ofNat']
        omega
      · rw [hsplit, ← add_assoc, Nat.add_mul_div_left _ _ (by norm_num)]

/-- The digit loop of `Decode`, from the bytes of `n`: the bytes of the number the digits extend
`n` to. -/
theorem foldlM_mulAdd (alphabet : Alphabet) (cs : List Char) (n : ℕ) :
    cs.foldlM (fun output target => (alphabet.digit target).map fun carry => mulAdd carry output)
        ((Nat.digits 256 n).map UInt8.ofNat) =
      (cs.mapM alphabet.digit).map fun ds =>
        (Nat.digits 256 (ds.foldl (fun n d => 58 * n + d) n)).map UInt8.ofNat := by
  induction cs generalizing n with
  | nil => rfl
  | cons c cs ih =>
    rw [List.foldlM_cons, List.mapM_cons]
    cases hc : alphabet.digit c with
    | none => rfl
    | some d =>
      simp only [Option.map_some, Option.bind_eq_bind, Option.bind_some, mulAdd_digits, ih]
      cases cs.mapM alphabet.digit <;> simp [Nat.add_comm]

/-- A string decodes to its leading zero digits as zero bytes, followed big-endian by the bytes
of the number its other characters spell in base 58, when they are all digits. -/
theorem decode_eq (alphabet : Alphabet) (input : String) :
    decode alphabet input =
      let zeros := (input.toList.takeWhile (· = alphabet.zero)).length
      ((input.toList.drop zeros).mapM alphabet.digit).map fun ds =>
        List.replicate zeros 0 ++
          ((Nat.digits 256 (ds.foldl (fun n d => 58 * n + d) 0)).map UInt8.ofNat).reverse := by
  have h := foldlM_mulAdd alphabet (input.toList.drop (input.toList.takeWhile
    (· = alphabet.zero)).length) 0
  simp only [Nat.digits_zero, List.map_nil] at h
  simp only [decode, h]
  cases (input.toList.drop _).mapM alphabet.digit <;> rfl

example : decode bitcoinAlphabet "" = some [] := by decide

/-! ### Encoding -/

/-- The digits of a carry in base `base`, least significant first, written while it is not zero.
The carry shrinks with every digit, so a fuel of `carry` digits is always enough. -/
def carryDigits (base : ℕ) : ℕ → ℕ → List UInt8
  | 0, _ => []
  | fuel + 1, carry =>
    if carry = 0 then [] else UInt8.ofNat (carry % base) :: carryDigits base fuel (carry / base)

/-- The inner loop of both `Encode` and `Decode`, for digits in base `base` that grow by a factor
`mult`: the carry goes into the digits written so far, least significant first, each becoming
`carry + mult · digit` modulo `base`; past them the carry's own digits are written while it is
not zero. `Encode` runs it in base 58 with factor 256. -/
def mulAddIn (base mult carry : ℕ) : List UInt8 → List UInt8
  | [] => carryDigits base carry carry
  | d :: ds =>
    let carry := carry + mult * d.toNat
    UInt8.ofNat (carry % base) :: mulAddIn base mult (carry / base) ds

/-- The character of a digit, `encodeTable[n]`. -/
def Alphabet.encodeDigit (alphabet : Alphabet) (d : ℕ) : Char :=
  alphabet.encodeTable.getD d alphabet.zero

/-- `Encode(input, alphabet)`: each leading zero byte as the zero digit, then the number the other
bytes spell, in base 58, most significant digit first. The output array has room for
`n·138/100 + 1` digits for `n` bytes, always enough as `log 256 / log 58 < 1.38`, so it is
modelled as a list that grows. -/
def encode (alphabet : Alphabet) (input : List UInt8) : String :=
  let prefixZeroes := (input.takeWhile (· = 0)).length
  let output := (input.drop prefixZeroes).foldl (fun output b => mulAddIn 58 256 b.toNat output) []
  String.ofList (List.replicate prefixZeroes alphabet.zero ++
    output.reverse.map fun d => alphabet.encodeDigit d.toNat)

section Digits

variable {base : ℕ} (hbase : 1 < base)
include hbase

/-- With enough fuel, the digits of a carry are its digits in the base. -/
theorem carryDigits_eq {fuel carry : ℕ} (h : carry ≤ fuel) :
    carryDigits base fuel carry = (Nat.digits base carry).map UInt8.ofNat := by
  induction fuel generalizing carry with
  | zero => simp [carryDigits, Nat.le_zero.1 h]
  | succ fuel ih =>
    rcases Nat.eq_zero_or_pos carry with rfl | hpos
    · simp [carryDigits]
    · have hdiv : carry / base < carry := Nat.div_lt_self hpos hbase
      rw [carryDigits, if_neg hpos.ne', Nat.digits_def' hbase hpos, List.map_cons, ih (by omega)]

/-- A carry into a number held as its digits, each kept in a byte, gives the digits of
`carry + mult · n`. -/
theorem mulAddIn_digits (hbyte : base ≤ 256) {mult : ℕ} (hmult : 0 < mult) (carry n : ℕ) :
    mulAddIn base mult carry ((Nat.digits base n).map UInt8.ofNat) =
      (Nat.digits base (carry + mult * n)).map UInt8.ofNat := by
  induction n using Nat.strong_induction_on generalizing carry with
  | _ n ih =>
    rcases Nat.eq_zero_or_pos n with rfl | hn
    · simp [mulAddIn, carryDigits_eq hbase le_rfl]
    · -- the lowest digit of `n` takes the carry; the rest of `n` is `n / base`
      have hlow : (UInt8.ofNat (n % base)).toNat = n % base :=
        UInt8.toNat_ofNat_of_lt' (by
          have := Nat.mod_lt n (by omega : 0 < base)
          show n % base < 256
          omega)
      have hsplit : mult * n = mult * (n % base) + base * (mult * (n / base)) := by
        calc mult * n = mult * (n % base + base * (n / base)) := by rw [Nat.mod_add_div]
          _ = mult * (n % base) + base * (mult * (n / base)) := by ring
      have hpos : 0 < carry + mult * n := by positivity
      rw [Nat.digits_def' hbase hn, List.map_cons, mulAddIn, hlow,
        ih (n / base) (Nat.div_lt_self hn hbase), Nat.digits_def' hbase hpos, List.map_cons]
      congr 2
      · rw [hsplit, ← add_assoc, Nat.add_mul_mod_self_left]
      · rw [hsplit, ← add_assoc, Nat.add_mul_div_left _ _ (by omega)]

end Digits

/-- A number folded from digits most significant first is the number of their reverse. -/
theorem foldl_eq_ofDigits (b acc : ℕ) (l : List ℕ) :
    l.foldl (fun n d => b * n + d) acc = acc * b ^ l.length + Nat.ofDigits b l.reverse := by
  induction l generalizing acc with
  | nil => simp
  | cons d l ih =>
    rw [List.foldl_cons, ih, List.reverse_cons, Nat.ofDigits_append, Nat.ofDigits_singleton,
      List.length_cons, List.length_reverse, pow_succ]
    ring

/-- The byte loop of `Encode`, from the digits of `n`: the digits of the number the bytes extend
`n` to. -/
theorem foldl_mulAddIn (bs : List UInt8) (n : ℕ) :
    bs.foldl (fun output b => mulAddIn 58 256 b.toNat output) ((Nat.digits 58 n).map UInt8.ofNat) =
      (Nat.digits 58 (bs.foldl (fun n b => 256 * n + b.toNat) n)).map UInt8.ofNat := by
  induction bs generalizing n with
  | nil => rfl
  | cons b bs ih =>
    rw [List.foldl_cons, mulAddIn_digits (by norm_num) (by norm_num) (by norm_num), List.foldl_cons,
      Nat.add_comm]
    exact ih _

namespace Alphabet

variable (alphabet : Alphabet)

theorem encodeDigit_eq {d : ℕ} (hd : d < alphabet.encodeTable.length) :
    alphabet.encodeDigit d = alphabet.encodeTable[d] :=
  List.getD_eq_getElem _ _ _

theorem lt_length_encodeTable {d : ℕ} (hd : d < 58) : d < alphabet.encodeTable.length := by
  rw [alphabet.length_encodeTable]
  exact hd

theorem digit_encodeDigit {d : ℕ} (hd : d < 58) : alphabet.digit (alphabet.encodeDigit d) = some d := by
  rw [encodeDigit_eq alphabet (alphabet.lt_length_encodeTable hd), digit, if_pos (List.getElem_mem _),
    alphabet.nodup.idxOf_getElem]

/-- Only the digit zero is written as the zero digit. -/
theorem encodeDigit_ne_zero {d : ℕ} (hd : d < 58) (h0 : d ≠ 0) :
    alphabet.encodeDigit d ≠ alphabet.zero := by
  have hlen : 0 < alphabet.encodeTable.length := by rw [alphabet.length_encodeTable]; norm_num
  have hzero : alphabet.zero = alphabet.encodeTable[0] := by
    rw [zero, List.headD_eq_head?_getD, List.head?_eq_getElem? , List.getElem?_eq_getElem hlen]
    rfl
  rw [encodeDigit_eq alphabet (alphabet.lt_length_encodeTable hd), hzero]
  intro heq
  exact h0 ((alphabet.nodup.getElem_inj_iff).1 heq)

/-- The digits read back from their characters. -/
theorem mapM_digit_encodeDigit {ds : List ℕ} (h : ∀ d ∈ ds, d < 58) :
    (ds.map alphabet.encodeDigit).mapM alphabet.digit = some ds := by
  induction ds with
  | nil => rfl
  | cons d ds ih =>
    rw [List.map_cons, List.mapM_cons, alphabet.digit_encodeDigit (h d List.mem_cons_self),
      ih fun d' hd' => h d' (List.mem_cons_of_mem d hd')]
    rfl

end Alphabet

/-- A byte string encodes to its leading zero bytes as zero digits, followed by the base-58
digits of the number its other bytes spell, most significant first. -/
theorem encode_eq (alphabet : Alphabet) (input : List UInt8) :
    (encode alphabet input).toList =
      List.replicate (input.takeWhile (· = 0)).length alphabet.zero ++
        (Nat.digits 58 ((input.drop (input.takeWhile (· = 0)).length).foldl
          (fun n b => 256 * n + b.toNat) 0)).reverse.map alphabet.encodeDigit := by
  have h := foldl_mulAddIn (input.drop (input.takeWhile (· = 0)).length) 0
  simp only [Nat.digits_zero, List.map_nil] at h
  simp only [encode, h, String.toList_ofList, List.map_reverse, List.map_map]
  congr 2
  apply List.map_congr_left
  intro d hd
  have hlt : d < 58 := Nat.digits_lt_base (by norm_num) hd
  simp only [Function.comp_apply]
  rw [UInt8.toNat_ofNat_of_lt' (by show d < 256; omega)]

/-- The bytes of a byte string with no leading zero byte are the base-256 digits of its number,
most significant first. -/
theorem digits_foldl_of_head_ne_zero {rest : List UInt8} (hhead : ∀ h : rest ≠ [], rest.head h ≠ 0) :
    ((Nat.digits 256 (rest.foldl (fun n b => 256 * n + b.toNat) 0)).map UInt8.ofNat).reverse =
      rest := by
  have hfold : rest.foldl (fun n b => 256 * n + b.toNat) 0 =
      Nat.ofDigits 256 (rest.map UInt8.toNat).reverse := by
    rw [← List.foldl_map (g := fun n d => 256 * n + d), foldl_eq_ofDigits]
    simp
  have hdigits : Nat.digits 256 (Nat.ofDigits 256 (rest.map UInt8.toNat).reverse) =
      (rest.map UInt8.toNat).reverse := by
    apply Nat.digits_ofDigits _ (by norm_num)
    · intro l hl
      obtain ⟨b, -, rfl⟩ := List.mem_map.1 (List.mem_reverse.1 hl)
      exact b.toNat_lt
    · intro hne
      cases rest with
      | nil => simp at hne
      | cons b bs =>
        have hb : b.toNat ≠ 0 := fun h =>
          hhead (List.cons_ne_nil b bs) (UInt8.toNat_inj.1 (by simpa using h))
        simpa [List.getLast_reverse] using hb
  rw [hfold, hdigits, ← List.map_reverse, List.reverse_reverse, List.map_map]
  exact (List.map_congr_left fun b _ => UInt8.ofNat_toNat).trans (List.map_id rest)

/-- Decoding undoes encoding: every byte string comes back from its Base58 text. -/
theorem decode_encode (alphabet : Alphabet) (input : List UInt8) :
    decode alphabet (encode alphabet input) = some input := by
  set zeros := (input.takeWhile (· = 0)).length with hzeros
  set rest := input.drop zeros with hrest
  set N := rest.foldl (fun n b => 256 * n + b.toNat) 0 with hN
  set ds := (Nat.digits 58 N).reverse with hds
  have hdlt : ∀ d ∈ ds, d < 58 := fun d hd => Nat.digits_lt_base (by norm_num) (List.mem_reverse.1 hd)
  have henc : (encode alphabet input).toList =
      List.replicate zeros alphabet.zero ++ ds.map alphabet.encodeDigit := encode_eq alphabet input
  -- the text's leading zero digits are the input's zero bytes: its first other digit is not zero
  have htake : ((encode alphabet input).toList.takeWhile (· = alphabet.zero)).length = zeros := by
    rw [henc, List.takeWhile_append_of_pos (by simp)]
    have hfirst : (ds.map alphabet.encodeDigit).takeWhile (· = alphabet.zero) = [] := by
      cases hcons : ds with
      | nil => rfl
      | cons d ds' =>
        have hd0 : d ≠ 0 := by
          have hN0 : N ≠ 0 := by
            intro h0
            rw [hds, h0] at hcons
            simp at hcons
          have hdig : Nat.digits 58 N = ds'.reverse ++ [d] := by
            rw [← List.reverse_reverse (Nat.digits 58 N), ← hds, hcons, List.reverse_cons]
          have hlast := Nat.getLast_digit_ne_zero 58 hN0
          simpa [hdig] using hlast
        simp [alphabet.encodeDigit_ne_zero (hdlt d (hcons ▸ List.mem_cons_self)) hd0]
    rw [hfirst, List.append_nil, List.length_replicate]
  have hdrop : (encode alphabet input).toList.drop zeros = ds.map alphabet.encodeDigit := by
    rw [henc, List.drop_left' (List.length_replicate)]
  have hmapM : (ds.map alphabet.encodeDigit).mapM alphabet.digit = some ds :=
    alphabet.mapM_digit_encodeDigit hdlt
  have hfold : ds.foldl (fun n d => 58 * n + d) 0 = N := by
    rw [foldl_eq_ofDigits, hds, List.reverse_reverse, Nat.ofDigits_digits]
    simp
  -- the input is its zero bytes and a rest with no leading zero byte
  have htw : input.takeWhile (· = 0) ++ input.dropWhile (· = 0) = input :=
    List.takeWhile_append_dropWhile
  have hdw : rest = input.dropWhile (· = 0) := by
    conv_lhs => rw [hrest, ← htw]
    exact List.drop_left' hzeros.symm
  have hzero : input.takeWhile (· = 0) = List.replicate zeros 0 :=
    List.eq_replicate_iff.2 ⟨rfl, fun b hb => by simpa using List.mem_takeWhile_imp hb⟩
  have hsplit : input = List.replicate zeros 0 ++ rest := by
    rw [hdw, ← hzero, htw]
  have hhead : ∀ h : rest ≠ [], rest.head h ≠ 0 := by
    intro h
    have hne : input.dropWhile (· = 0) ≠ [] := hdw ▸ h
    have := List.head_dropWhile_not (· = (0 : UInt8)) hne
    simpa [hdw] using this
  rw [decode_eq]
  simp only [htake, hdrop, hmapM, Option.map_some, hfold]
  rw [hN, digits_foldl_of_head_ne_zero hhead, ← hsplit]

end Base58
