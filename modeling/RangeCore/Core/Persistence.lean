import RangeCore.Core.Types
import RangeCore.Lib.ExceptBind
import RangeCore.Lib.GoRuntime

/-!
# Persisting the pool's protection maps

`persistenceWriter` of `core/range_preblacklist.go` saves the five maps of times by which the
pool protects itself: the pre-blacklist's proposals, and the zero-fee protector's last
heartbeats, invalidations, checkpoint signatures and coin claims. Each map becomes a record of
its keys and, at the same positions, its times as `String` prints them; the five records are
written RLP-encoded. `persistenceReader` reads them back, and each key gets the time its value
parses to with `timeformat`, the layout `String` uses, the parse error discarded.

A time taken from `time.Now`, as every time the pool records is, carries a monotonic clock
reading, which `String` prints after the layout and `Parse` rejects: it comes back as the zero
time (`persistence_roundtrip`), and every throttle it held is reset by a restart. The decoder
also reads the values at the positions of the keys without a length check, so a record with
fewer values than keys panics (`persistenceReader_eq_none_iff`); a panic is `none`.

The file is modelled by the records the RLP codec carries: the reader takes what
`rlp.DecodeBytes` returned for the file, or the error it returns itself when reading or decoding
fails. A Go map is the list of its entries, in the order `range` visits them, each key once.

## Main definitions

* `RangeCore.PersistContent`, `RangeCore.encodeAddrMap`, `RangeCore.encodeIDMap`,
  `RangeCore.decodeAddrMap`, `RangeCore.decodeIDMap`.
* `RangeCore.ProtectionEntries`, `RangeCore.persistenceWriter`, `RangeCore.persistenceReader`.

## Main results

* `RangeCore.decodeEntries_eq_none_iff`, `RangeCore.decodeEntries_encodeEntries`.
* `RangeCore.persistence_roundtrip`, `RangeCore.persistenceReader_eq_none_iff`.
* `RangeCore.persistence_loses_times`.
-/

namespace RangeCore

/-- `persistContent`: the keys of a map of addresses or of item ids, and the printed times. -/
structure PersistContent where
  addrKeys : List Address
  idKeys : List UInt32
  values : List String

/-- The maps that `persistenceWriter` saves, each as its entries with distinct keys. -/
structure ProtectionEntries where
  proposed : List (Address × GoTime.Time)
  mnHeartbeats : List (Address × GoTime.Time)
  mnInvalidations : List (Address × GoTime.Time)
  mnCheckpoints : List (Address × GoTime.Time)
  coinClaims : List (UInt32 × GoTime.Time)
  nodup_proposed : (proposed.map Prod.fst).Nodup
  nodup_mnHeartbeats : (mnHeartbeats.map Prod.fst).Nodup
  nodup_mnInvalidations : (mnInvalidations.map Prod.fst).Nodup
  nodup_mnCheckpoints : (mnCheckpoints.map Prod.fst).Nodup
  nodup_coinClaims : (coinClaims.map Prod.fst).Nodup

/-- The maps that `persistenceReader` restores. -/
structure ProtectionMaps where
  proposed : Address → Option GoTime.Time
  mnHeartbeats : Address → Option GoTime.Time
  mnInvalidations : Address → Option GoTime.Time
  mnCheckpoints : Address → Option GoTime.Time
  coinClaims : UInt32 → Option GoTime.Time

section Codec

variable (f : GoTime.Format) {κ : Type} [DecidableEq κ]

/-- The loop of `encodeAddrMap` and `encodeIDMap`: the keys, and at the same positions the times
as `String` prints them. -/
def encodeEntries (data : List (κ × GoTime.Time)) : List κ × List String :=
  (data.map Prod.fst, data.map fun kv => f.toString kv.2)

/-- `encodeAddrMap`. -/
def encodeAddrMap (data : List (Address × GoTime.Time)) : PersistContent :=
  ⟨(encodeEntries f data).1, [], (encodeEntries f data).2⟩

/-- `encodeIDMap`. -/
def encodeIDMap (data : List (UInt32 × GoTime.Time)) : PersistContent :=
  ⟨[], (encodeEntries f data).1, (encodeEntries f data).2⟩

/-- The loop of `decodeAddrMap` and `decodeIDMap`: the `i`-th key is given the time its `i`-th
value parses to, or the zero time; a key past the end of the values is the index panic of
`data.Values[i]`. A later key overwrites an earlier one. -/
def decodeEntries : List κ → List String → (κ → Option GoTime.Time) →
    Option (κ → Option GoTime.Time)
  | [], _, m => some m
  | _ :: _, [], _ => none
  | k :: ks, v :: vs, m => decodeEntries ks vs (Function.update m k (some (f.parseOrZero v)))

/-- `decodeAddrMap`. -/
def decodeAddrMap (data : PersistContent) : Option (Address → Option GoTime.Time) :=
  decodeEntries f data.addrKeys data.values fun _ => none

/-- `decodeIDMap`. -/
def decodeIDMap (data : PersistContent) : Option (UInt32 → Option GoTime.Time) :=
  decodeEntries f data.idKeys data.values fun _ => none

/-- The decoder panics exactly when there are fewer values than keys. -/
theorem decodeEntries_eq_none_iff (ks : List κ) (vs : List String) (m : κ → Option GoTime.Time) :
    decodeEntries f ks vs m = none ↔ vs.length < ks.length := by
  induction ks generalizing vs m with
  | nil => simp [decodeEntries]
  | cons k ks ih =>
    cases vs with
    | nil => simp [decodeEntries]
    | cons v vs =>
      rw [decodeEntries, ih]
      simp

/-- Decoding an encoded map gives each of its keys the time its printed time parses back to, and
leaves every other key as it was. -/
theorem decodeEntries_encodeEntries (data : List (κ × GoTime.Time))
    (hnodup : (data.map Prod.fst).Nodup) (m : κ → Option GoTime.Time) :
    decodeEntries f (encodeEntries f data).1 (encodeEntries f data).2 m =
      some fun k => ((data.lookup k).map fun t => f.parseOrZero (f.toString t)).or (m k) := by
  induction data generalizing m with
  | nil => simp [encodeEntries, decodeEntries]
  | cons e data ih =>
    obtain ⟨k', t⟩ := e
    rw [List.map_cons, List.nodup_cons] at hnodup
    simp only [encodeEntries, List.map_cons] at ih ⊢
    rw [decodeEntries, ih hnodup.2]
    congr 1
    funext k
    by_cases hk : k = k'
    · -- the key is not among the later entries, whose update it keeps
      subst hk
      have hlater : data.lookup k = none := List.lookup_eq_none_iff.2 fun p hp => by
        simpa using fun h => hnodup.1 (List.mem_map.2 ⟨p, hp, h.symm⟩)
      simp [hlater]
    · have hne : (k == k') = false := beq_false_of_ne hk
      simp [hk, hne, List.lookup_cons]

end Codec

section Persistence

variable (f : GoTime.Format)

/-- `persistenceWriter`: the five records, in order, that it RLP-encodes into the file. -/
def persistenceWriter (e : ProtectionEntries) : List PersistContent :=
  [encodeAddrMap f e.proposed, encodeAddrMap f e.mnHeartbeats, encodeAddrMap f e.mnInvalidations,
    encodeAddrMap f e.mnCheckpoints, encodeIDMap f e.coinClaims]

/-- `persistenceReader`, on what `rlp.DecodeBytes` read from the file or the error it returns
for a failed read: the five maps, an error, or `none` for a panic in a decoder. -/
def persistenceReader (decoded : Except String (List PersistContent)) :
    Option (Except String ProtectionMaps) :=
  match decoded with
  | .error e => some (.error e)
  | .ok [d₀, d₁, d₂, d₃, d₄] => do
    let proposed ← decodeAddrMap f d₀
    let mnHeartbeats ← decodeAddrMap f d₁
    let mnInvalidations ← decodeAddrMap f d₂
    let mnCheckpoints ← decodeAddrMap f d₃
    let coinClaims ← decodeIDMap f d₄
    pure (.ok ⟨proposed, mnHeartbeats, mnInvalidations, mnCheckpoints, coinClaims⟩)
  | .ok _ => some (.error "missing some persisted data")

/-- What a restart restores of a time: its wall clock, or the zero time if it carries a
monotonic reading. -/
def restoredTime (t : GoTime.Time) : GoTime.Time :=
  ⟨if t.mono = none then t.wall else GoTime.zeroWall, none⟩

/-- A map of entries read back: each key with its restored time. -/
theorem decodeEntries_restored {κ : Type} [DecidableEq κ] (data : List (κ × GoTime.Time))
    (hnodup : (data.map Prod.fst).Nodup) :
    decodeEntries f (encodeEntries f data).1 (encodeEntries f data).2 (fun _ => none) =
      some fun k => (data.lookup k).map restoredTime := by
  rw [decodeEntries_encodeEntries f data hnodup]
  congr 1
  funext k
  simp only [Option.or_none, GoTime.Format.parseOrZero_toString]
  rfl

/-- The round trip through the file: every key of the five maps comes back, and no other, with
its wall clock if its time has no monotonic reading, and with the zero time if it has one. -/
theorem persistence_roundtrip (e : ProtectionEntries) :
    persistenceReader f (.ok (persistenceWriter f e)) =
      some (.ok ⟨fun a => (e.proposed.lookup a).map restoredTime,
        fun a => (e.mnHeartbeats.lookup a).map restoredTime,
        fun a => (e.mnInvalidations.lookup a).map restoredTime,
        fun a => (e.mnCheckpoints.lookup a).map restoredTime,
        fun i => (e.coinClaims.lookup i).map restoredTime⟩) := by
  simp only [persistenceReader, persistenceWriter, decodeAddrMap, decodeIDMap, encodeAddrMap,
    encodeIDMap, decodeEntries_restored f _ e.nodup_proposed,
    decodeEntries_restored f _ e.nodup_mnHeartbeats,
    decodeEntries_restored f _ e.nodup_mnInvalidations,
    decodeEntries_restored f _ e.nodup_mnCheckpoints,
    decodeEntries_restored f _ e.nodup_coinClaims]
  rfl

/-- A pre-blacklist proposal stamped by `time.Unix`, with no monotonic reading, and a heartbeat
stamped by `time.Now`, with one. -/
def sampleEntries : ProtectionEntries :=
  ⟨[(0xA#160, ⟨1700000000 * 10 ^ 9, none⟩)], [(0xB#160, ⟨1700000000 * 10 ^ 9, some 5⟩)], [], [], [],
    by simp, by simp, by simp, by simp, by simp⟩

theorem persistence_roundtrip_decimal :
    ∃ m, persistenceReader .decimal (.ok (persistenceWriter .decimal sampleEntries)) =
        some (.ok m) ∧
      m.proposed 0xA#160 = some ⟨1700000000 * 10 ^ 9, none⟩ ∧
      m.mnHeartbeats 0xB#160 = some ⟨GoTime.zeroWall, none⟩ ∧ m.mnCheckpoints 0xA#160 = none :=
  ⟨_, persistence_roundtrip .decimal sampleEntries, by decide, by decide, by decide⟩

/-- The reader panics exactly on five records of which one has fewer values than keys. -/
theorem persistenceReader_eq_none_iff (decoded : Except String (List PersistContent)) :
    persistenceReader f decoded = none ↔
      ∃ d₀ d₁ d₂ d₃ d₄, decoded = .ok [d₀, d₁, d₂, d₃, d₄] ∧
        (d₀.values.length < d₀.addrKeys.length ∨ d₁.values.length < d₁.addrKeys.length ∨
          d₂.values.length < d₂.addrKeys.length ∨ d₃.values.length < d₃.addrKeys.length ∨
          d₄.values.length < d₄.idKeys.length) := by
  rcases decoded with e | data
  · simp [persistenceReader]
  · by_cases h5 : ∃ d₀ d₁ d₂ d₃ d₄, data = [d₀, d₁, d₂, d₃, d₄]
    · obtain ⟨d₀, d₁, d₂, d₃, d₄, rfl⟩ := h5
      -- the five decoders run one after the other, each failing on its own record
      simp only [persistenceReader, decodeAddrMap, decodeIDMap, Option.bind_eq_bind,
        Option.pure_def]
      rw [Option.bind_eq_none_iff_of_forall fun _ => Option.bind_eq_none_iff_of_forall fun _ =>
        Option.bind_eq_none_iff_of_forall fun _ => Option.bind_eq_none_iff_of_forall fun _ =>
        Option.bind_eq_none_iff_of_forall fun _ => iff_false_intro (Option.some_ne_none _)]
      simp only [decodeEntries_eq_none_iff, or_false, Except.ok.injEq, List.cons.injEq, and_true]
      constructor
      · intro h
        exact ⟨_, _, _, _, _, ⟨rfl, rfl, rfl, rfl, rfl⟩, h⟩
      · rintro ⟨_, _, _, _, _, ⟨rfl, rfl, rfl, rfl, rfl⟩, h⟩
        exact h
    · have hne : persistenceReader f (.ok data) = some (.error "missing some persisted data") := by
        unfold persistenceReader
        split
        · rename_i heq
          cases heq
        · rename_i d₀ d₁ d₂ d₃ d₄ heq
          exact absurd ⟨d₀, d₁, d₂, d₃, d₄, Except.ok.inj heq⟩ h5
        · rfl
      rw [hne]
      simp only [reduceCtorEq, false_iff, not_exists, not_and]
      intro d₀ d₁ d₂ d₃ d₄ heq
      exact absurd ⟨d₀, d₁, d₂, d₃, d₄, Except.ok.inj heq⟩ h5

theorem persistenceReader_short_record :
    persistenceReader .decimal (.ok [⟨[0xA#160], [], []⟩, ⟨[], [], []⟩, ⟨[], [], []⟩,
      ⟨[], [], ["1"]⟩, ⟨[], [], []⟩]) = none :=
  (persistenceReader_eq_none_iff .decimal _).2 ⟨_, _, _, _, _, rfl, .inl (by decide)⟩

/-- A restart loses what the pool recorded. A proposal recorded at a time `time.Now` gave, with a
monotonic reading, comes back recorded at the zero time; and a file whose first record names a
key but holds no value makes the reader panic. -/
theorem persistence_loses_times (f : GoTime.Format) :
    let now : GoTime.Time := ⟨1700000000 * 10 ^ 9, some 1⟩
    let e : ProtectionEntries :=
      ⟨[(0xA#160, now)], [], [], [], [], by simp, by simp, by simp, by simp, by simp⟩
    (∃ m, persistenceReader f (.ok (persistenceWriter f e)) = some (.ok m) ∧
        m.proposed 0xA#160 = some ⟨GoTime.zeroWall, none⟩) ∧ now.wall ≠ GoTime.zeroWall ∧
      persistenceReader f (.ok [⟨[0xA#160], [], []⟩, ⟨[], [], []⟩, ⟨[], [], []⟩, ⟨[], [], []⟩,
        ⟨[], [], []⟩]) = none := by
  intro now e
  refine ⟨⟨_, rfl, ?_⟩, by decide, rfl⟩
  simp [f.parseOrZero_toString, now]

theorem persistence_loses_times_decimal :
    let now : GoTime.Time := ⟨1700000000 * 10 ^ 9, some 1⟩
    let e : ProtectionEntries :=
      ⟨[(0xA#160, now)], [], [], [], [], by simp, by simp, by simp, by simp, by simp⟩
    (∃ m, persistenceReader .decimal (.ok (persistenceWriter .decimal e)) = some (.ok m) ∧
        m.proposed 0xA#160 = some ⟨GoTime.zeroWall, none⟩) ∧ now.wall ≠ GoTime.zeroWall ∧
      persistenceReader .decimal (.ok [⟨[0xA#160], [], []⟩, ⟨[], [], []⟩, ⟨[], [], []⟩,
        ⟨[], [], []⟩, ⟨[], [], []⟩]) = none :=
  persistence_loses_times .decimal

end Persistence

end RangeCore
