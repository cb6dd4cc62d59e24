import Mathlib

/-!
# UUIDs and their text

The text form of a UUID as the package `uuid` writes and reads it: the 16 bytes as 32
hexadecimal digits, in groups of 8, 4, 4, 4 and 12 separated by `-`. `UUID.String` writes that
form in lower case, and nothing for a slice that is not 16 bytes long. `Parse` reads it in either
case, also behind the prefix `urn:uuid:`, and gives nil for any other text, dropping the error of
the parser it calls.

Text is a Go string, so a list of bytes. `hex.Encode` writes each byte as two digits of
`hextable`; `xtob` reads two digits back through the table `xvalues`, which holds 255 for a byte
that is not a digit. `strings.ToLower` only meets the 9 bytes of a prefix compared with
`urn:uuid:`; a byte outside ASCII either stays outside it or, for the runes whose lower case is
`i` or `k`, shortens the text, so it fails the comparison as it does here, where lower case is
taken byte by byte.

## Main definitions

* `Uuid.hexEncode`, `Uuid.encodeHex`, `Uuid.toString`.
* `Uuid.xvalue`, `Uuid.xtob`, `Uuid.parse`.

## Main results

* `Uuid.parse_toString`: the text of 16 bytes reads back as them.
* `Uuid.length_of_parse`: what `Parse` accepts is 16 bytes.
-/

namespace Uuid

/-- `hextable` of `encoding/hex`: the digits `0123456789abcdef`. -/
def hextable : List UInt8 :=
  [0x30, 0x31, 0x32, 0x33, 0x34, 0x35, 0x36, 0x37, 0x38, 0x39, 0x61, 0x62, 0x63, 0x64, 0x65, 0x66]

/-- `hex.Encode(dst, src)`: each byte as its high and its low digit. -/
def hexEncode (src : List UInt8) : List UInt8 :=
  src.flatMap fun (v : UInt8) =>
    [hextable.getD (v >>> 4).toNat 0, hextable.getD (v &&& 0x0f).toNat 0]

/-- `'-'`. -/
def dash : UInt8 := 0x2d

/-- `encodeHex(dst, uuid)`: the groups of 4, 2, 2, 2 and 6 bytes, a dash between two. -/
def encodeHex (uuid : List UInt8) : List UInt8 :=
  hexEncode (uuid.take 4) ++ dash :: hexEncode ((uuid.drop 4).take 2) ++ dash ::
    hexEncode ((uuid.drop 6).take 2) ++ dash :: hexEncode ((uuid.drop 8).take 2) ++ dash ::
    hexEncode (uuid.drop 10)

/-- `UUID.String()`: the 36-byte form, or the empty string when the slice is not 16 bytes. -/
def toString (uuid : List UInt8) : List UInt8 :=
  if uuid.length = 16 then encodeHex uuid else []

/-- `xvalues[c]`: the value of a hexadecimal digit of either case, 255 for any other byte. -/
def xvalue (c : UInt8) : UInt8 :=
  if 0x30 ≤ c ∧ c ≤ 0x39 then c - 0x30
  else if 0x41 ≤ c ∧ c ≤ 0x46 then c - 0x41 + 10
  else if 0x61 ≤ c ∧ c ≤ 0x66 then c - 0x61 + 10
  else 255

/-- `xtob(x1, x2)`: the byte of two digits, and whether both are digits. -/
def xtob (x1 x2 : UInt8) : UInt8 × Bool :=
  let b1 := xvalue x1
  let b2 := xvalue x2
  ((b1 <<< 4) ||| b2, b1 != 255 && b2 != 255)

/-- The lower case of an ASCII byte. -/
def toLowerAscii (c : UInt8) : UInt8 := if 0x41 ≤ c ∧ c ≤ 0x5a then c + 0x20 else c

/-- `urn:uuid:`. -/
def urnPrefix : List UInt8 := [0x75, 0x72, 0x6e, 0x3a, 0x75, 0x75, 0x69, 0x64, 0x3a]

/-- The offsets of the 16 digit pairs in the 36-byte form. -/
def digitOffsets : List ℕ := [0, 2, 4, 6, 9, 11, 14, 16, 19, 21, 24, 26, 28, 30, 32, 34]

/-- The loop of `Parse` over the 16 digit pairs of the 36-byte form. -/
def readBytes (s : List UInt8) : Option (List UInt8) :=
  digitOffsets.mapM fun x =>
    let (v, ok) := xtob (s.getD x 0) (s.getD (x + 1) 0)
    if ok then some v else none

/-- `uuid.Parse(s)`, through the parser it calls: the 16 bytes of the 36-byte form, or of that
form behind `urn:uuid:` in either case; `none` (nil) for any other text. -/
def parse (s : List UInt8) : Option (List UInt8) := do
  let s ← if s.length = 36 then pure s
    else if s.length ≠ 36 + 9 then none
    else if (s.take 9).map toLowerAscii ≠ urnPrefix then none
    else pure (s.drop 9)
  if s.getD 8 0 ≠ dash ∨ s.getD 13 0 ≠ dash ∨ s.getD 18 0 ≠ dash ∨ s.getD 23 0 ≠ dash then none
  readBytes s

/-- The two digits of a byte read back as the byte. -/
theorem xtob_hex (v : UInt8) :
    xtob (hextable.getD (v >>> 4).toNat 0) (hextable.getD (v &&& 0x0f).toNat 0) = (v, true) := by
  revert v
  decide +kernel

/-- The text of 16 bytes reads back as them. -/
theorem parse_toString {u : List UInt8} (hu : u.length = 16) : parse (toString u) = some u := by
  -- the digit pairs in the form simp leaves them in
  have hpair (v : UInt8) :
      xtob (hextable[v.toNat >>> 4]?.getD 0) (hextable[v.toNat &&& 15]?.getD 0) = (v, true) := by
    simpa using xtob_hex v
  match u, hu with
  | [b0, b1, b2, b3, b4, b5, b6, b7, b8, b9, b10, b11, b12, b13, b14, b15], _ =>
    simp [toString, encodeHex, hexEncode, parse, readBytes, digitOffsets, hpair, dash]

theorem length_of_mapM_eq_some {α β : Type*} {f : α → Option β} :
    ∀ {l : List α} {l' : List β}, l.mapM f = some l' → l'.length = l.length
  | [], l', h => by
    simp only [List.mapM_nil] at h
    cases h
    rfl
  | a :: l, l', h => by
    simp only [List.mapM_cons, Option.bind_eq_bind, Option.bind_eq_some_iff] at h
    obtain ⟨b, -, bs, hbs, h⟩ := h
    cases h
    rw [List.length_cons, List.length_cons, length_of_mapM_eq_some hbs]

/-- What `Parse` accepts: the 36-byte form, whole or behind the prefix, with its dashes, whose
digit pairs read as the bytes. -/
theorem parse_eq_some {s u : List UInt8} (h : parse s = some u) :
    ∃ t, (t = s ∨ t = s.drop 9) ∧ t.length = 36 ∧
      t.getD 8 0 = dash ∧ t.getD 13 0 = dash ∧ t.getD 18 0 = dash ∧ t.getD 23 0 = dash ∧
      readBytes t = some u := by
  -- the dashes are checked before the digits are read
  have hread : ∀ t : List UInt8,
      (if t.getD 8 0 ≠ dash ∨ t.getD 13 0 ≠ dash ∨ t.getD 18 0 ≠ dash ∨ t.getD 23 0 ≠ dash then
        (none : Option PUnit).bind fun _ => readBytes t else readBytes t) = some u →
      t.getD 8 0 = dash ∧ t.getD 13 0 = dash ∧ t.getD 18 0 = dash ∧ t.getD 23 0 = dash ∧
        readBytes t = some u := by
    intro t ht
    split_ifs at ht with hd
    · simp at ht
    · simp only [ne_eq, not_or, not_not] at hd
      exact ⟨hd.1, hd.2.1, hd.2.2.1, hd.2.2.2, ht⟩
  unfold parse at h
  simp only [Option.pure_def, Option.bind_eq_bind] at h
  split_ifs at h with h36 h45
  · rw [Option.bind_some] at h
    exact ⟨s, .inl rfl, h36, hread s h⟩
  · simp at h
  · simp at h
  · rw [Option.bind_some] at h
    refine ⟨s.drop 9, .inr rfl, ?_, hread _ h⟩
    rw [List.length_drop]
    omega

/-- What `Parse` accepts is 16 bytes. -/
theorem length_of_parse {s u : List UInt8} (h : parse s = some u) : u.length = 16 := by
  obtain ⟨t, -, -, -, -, -, -, ht⟩ := parse_eq_some h
  exact length_of_mapM_eq_some ht

end Uuid
