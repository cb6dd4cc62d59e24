import Mathlib

/-!
# Go's clock, its tables of times, and slice bounds

What Go code relies on of its runtime when it keeps times in maps and cuts byte slices.

A `time.Time` is a point on a clock counted in nanoseconds, and a `time.Duration` a signed 64-bit
count of nanoseconds. `t.Sub(u)` is their difference saturated to the range of a `Duration`, and
`t.After(u)` compares the two points. For a positive duration `d` that is a `Duration`, comparing
`t.Sub(u)` with `d` is comparing `t - u` with it (`GoTime.sub_lt_iff`, `GoTime.lt_sub_iff`).

A map of times is expired by a `range` loop that deletes every entry older than a timeout; Go
allows deleting the visited key in the loop, so what is left is the map filtered to the entries
that were not older (`GoTime.expire`, `GoTime.expire_eq_some_iff`).

A slice expression `b[lo:hi]` panics unless `lo ≤ hi ≤ cap(b)`; on a slice whose capacity is its
length it is the elements from `lo` up to `hi` (`GoSlice.slice`).

A loop that appends an entry for each element it does not skip, and then writes more into
`ret[i]` at the element's own index `i`, writes past the end of `ret`, and panics, once an
element has been skipped; it panics exactly when a skipped element comes before one whose write
is reached (`GoSlice.appendFill_eq_none_iff`). Where nothing is skipped, the entries stand at
their elements' indices (`GoSlice.appendFill_of_entries`).

A `time.Time` printed by `String` and read back by `time.Parse` with the layout `String` uses
comes back with its wall clock, unless it carries a monotonic clock reading, which `String`
appends as ` m=±<value>` and which `Parse` rejects as trailing text; a caller that discards the
error then holds the zero time (`GoTime.Format.parseOrZero_toString`).

## Main definitions

* `GoTime.sub`, `GoTime.after`, `GoTime.expire`.
* `GoSlice.slice`, `GoSlice.appendFill`.
* `GoTime.Time`, `GoTime.Format` with `toString` and `parseOrZero`; `GoTime.Format.decimal`, a
  format that meets what `GoTime.Format` asks.

## Main results

* `GoTime.sub_lt_iff`, `GoTime.lt_sub_iff`: comparisons below the saturation bound.
* `GoTime.expire_eq_some_iff`, `GoTime.expire_eq_none_iff`: what an expiry keeps and removes.
* `GoSlice.slice_eq_none_iff`: when a slice expression panics.
* `GoSlice.appendFill_of_entries`, `GoSlice.appendFill_eq_none_iff`: what the loop lists, and
  when it panics.
* `GoTime.Format.parseOrZero_toString`: what a printed time parses back to.
-/

namespace GoTime

/-- `maxDuration`, `1<<63 - 1` nanoseconds. -/
def maxDuration : ℤ := 9223372036854775807

/-- `minDuration`, `-1 << 63` nanoseconds. -/
def minDuration : ℤ := -9223372036854775808

/-- `t.Sub(u)`: the duration from `u` to `t`, saturated to the range of a `Duration`. -/
def sub (t u : ℤ) : ℤ := max minDuration (min maxDuration (t - u))

/-- `t.After(u)`: whether `t` is later than `u`. -/
def after (t u : ℤ) : Bool := decide (u < t)

variable {t u d : ℤ}

/-- Below the saturation bound, a duration reached by `t.Sub(u)` is reached by `t - u`. -/
theorem sub_lt_iff (h0 : 0 < d) (hd : d ≤ maxDuration) : sub t u < d ↔ t - u < d := by
  unfold sub
  unfold maxDuration minDuration at *
  constructor <;> intro h <;> omega

theorem lt_sub_iff (h0 : 0 ≤ d) (hd : d < maxDuration) : d < sub t u ↔ d < t - u := by
  unfold sub
  unfold maxDuration minDuration at *
  constructor <;> intro h <;> omega

@[simp] theorem after_eq_true_iff : after t u = true ↔ u < t := decide_eq_true_iff

/-- The `range` loop that deletes from a map of times every entry older than `timeout` at
`now`: `if now.Sub(v) > timeout { delete(m, k) }`. -/
def expire {α : Type*} (m : α → Option ℤ) (now timeout : ℤ) : α → Option ℤ :=
  fun k => (m k).filter fun v => !decide (timeout < sub now v)

variable {α : Type*} {m : α → Option ℤ} {now timeout v : ℤ} {k : α}

theorem expire_eq_some_iff :
    expire m now timeout k = some v ↔ m k = some v ∧ ¬timeout < sub now v := by
  simp [expire, Option.filter_eq_some_iff]

theorem expire_eq_none_iff :
    expire m now timeout k = none ↔ ∀ v, m k = some v → timeout < sub now v := by
  simp [expire, Option.filter_eq_none_iff]

end GoTime

namespace GoSlice

/-- `b[lo:hi]` of a slice whose capacity is its length: the elements from `lo` up to `hi`, or
`none` for the panic when `hi` passes the length or `lo` passes `hi`. -/
def slice {α : Type*} (b : List α) (lo hi : ℕ) : Option (List α) :=
  if lo ≤ hi ∧ hi ≤ b.length then some ((b.drop lo).take (hi - lo)) else none

theorem slice_eq_none_iff {α : Type*} {b : List α} {lo hi : ℕ} :
    slice b lo hi = none ↔ ¬(lo ≤ hi ∧ hi ≤ b.length) := by
  unfold slice
  split <;> simp_all

end GoSlice

namespace GoTime

/-- A `time.Time` as `String` prints it: its wall clock in nanoseconds since the Unix epoch, and
the monotonic clock reading that `time.Now` gives it. -/
structure Time where
  wall : ℤ
  mono : Option ℤ
  deriving DecidableEq

/-- The wall clock of `Time{}`, January 1 of year 1, UTC. -/
def zeroWall : ℤ := -62135596800 * 10 ^ 9

/-- What a program relies on of `t.String()` and of `time.Parse` with the layout it prints:
`layout` prints a wall clock, `String` appends `monoSuffix`, ` m=±<value>`, for a monotonic
reading, and `Parse` reads a printed wall clock back and rejects text after it. -/
structure Format where
  layout : ℤ → String
  monoSuffix : ℤ → String
  parse : String → Option ℤ
  parse_layout : ∀ w, parse (layout w) = some w
  parse_layout_append : ∀ w m, parse (layout w ++ monoSuffix m) = none

namespace Format

variable (f : Format)

/-- `t.String()`. -/
def toString (t : Time) : String :=
  match t.mono with
  | none => f.layout t.wall
  | some m => f.layout t.wall ++ f.monoSuffix m

/-- `timestamp, _ := time.Parse(layout, s)`: the parsed time, with no monotonic reading, or the
zero time on an error. -/
def parseOrZero (s : String) : Time := ⟨(f.parse s).getD zeroWall, none⟩

/-- A printed time parses back to its wall clock, or, with a monotonic reading, to the zero
time. -/
theorem parseOrZero_toString (t : Time) :
    f.parseOrZero (f.toString t) = ⟨if t.mono = none then t.wall else zeroWall, none⟩ := by
  cases hm : t.mono with
  | none => simp [parseOrZero, toString, hm, f.parse_layout]
  | some m => simp [parseOrZero, toString, hm, f.parse_layout_append]

theorem toInt?_intRepr (w : ℤ) : (Int.repr w).toInt? = some w := by
  cases w with
  | ofNat n => simp [Int.repr]
  | negSucc n => simp [Int.repr, Int.negSucc_eq]

/-- A text with a blank in it is no decimal number. -/
theorem isNat_of_mem_blank {s : String} (hs : ' ' ∈ s.toList) : s.isNat = false := by
  rw [← Bool.not_eq_true, String.isNat_iff]
  rintro ⟨-, hdigit, -⟩
  rcases hdigit ' ' hs with h | h <;> simp_all [Char.isDigit]

theorem toInt?_of_mem_blank {s : String} (hs : ' ' ∈ s.toList) : s.toInt? = none := by
  rw [String.toInt?_eq_none_iff, ← Bool.not_eq_true, String.isInt_iff]
  rintro (h | ⟨t, rfl, ht⟩)
  · simp [isNat_of_mem_blank hs] at h
  · have ht' : ' ' ∈ t.toList := by simpa using hs
    simp [isNat_of_mem_blank ht'] at ht

/-- The wall clock printed as its decimal count of nanoseconds, with Go's ` m=` suffix for a
monotonic reading, and read back by `String.toInt?`. -/
def decimal : Format where
  layout := Int.repr
  monoSuffix m := " m=" ++ Int.repr m
  parse := String.toInt?
  parse_layout := toInt?_intRepr
  parse_layout_append w m := toInt?_of_mem_blank (by simp)

end Format

end GoTime

namespace GoSlice

variable {α β : Type*}

/-- The loop

```
for i, x := range xs {
	e, err := entry(x)
	if err != nil { continue }
	ret = append(ret, e)
	f, err := fill(x)
	if err != nil { continue }
	ret[i] = f(ret[i])
}
```

from index `i`, with `ret` built so far. `entry x` is `none` where computing the entry panics
and `some none` where it fails; `fill x` is `none` where reading the fill fails. The write at
`ret[i]` panics (`none`) when `i` is past the end of `ret`. -/
def appendFill (entry : α → Option (Option β)) (fill : α → Option (β → β)) :
    ℕ → List α → List β → Option (List β)
  | _, [], ret => some ret
  | i, x :: xs, ret =>
    match entry x with
    | none => none
    | some none => appendFill entry fill (i + 1) xs ret
    | some (some e) =>
      match fill x with
      | none => appendFill entry fill (i + 1) xs (ret ++ [e])
      | some f =>
        if i < ret.length + 1 then appendFill entry fill (i + 1) xs ((ret ++ [e]).modify i f)
        else none

variable {entry : α → Option (Option β)} {fill : α → Option (β → β)}

theorem modify_append_length (ret : List β) (e : β) (f : β → β) :
    (ret ++ [e]).modify ret.length f = ret ++ [f e] := by
  induction ret with
  | nil => simp
  | cons a ret ih => simp [ih]

/-- Where no entry fails, the loop lists every element in order, each filled where its fill was
read. -/
theorem appendFill_of_entries {g : α → β} {xs : List α} {ret : List β}
    (hg : ∀ x ∈ xs, entry x = some (some (g x))) :
    appendFill entry fill ret.length xs ret =
      some (ret ++ xs.map fun x => (fill x).getD id (g x)) := by
  induction xs generalizing ret with
  | nil => simp [appendFill]
  | cons x xs ih =>
    have hx := hg x List.mem_cons_self
    have hxs : ∀ y ∈ xs, entry y = some (some (g y)) := fun y hy =>
      hg y (List.mem_cons_of_mem x hy)
    rcases hfill : fill x with _ | f
    · have := @ih (ret ++ [g x]) hxs
      simp only [List.length_append, List.length_singleton] at this
      simp [appendFill, hx, hfill, this]
    · have := @ih (ret ++ [f (g x)]) hxs
      simp only [List.length_append, List.length_singleton] at this
      simp [appendFill, hx, hfill, modify_append_length, this]

theorem pair_sublist_cons {y z x : α} {xs : List α} :
    List.Sublist [y, z] (x :: xs) ↔ List.Sublist [y, z] xs ∨ y = x ∧ z ∈ xs := by
  rw [List.sublist_cons_iff]
  simp

/-- An element that is not skipped starts no pair of a skipped and a filled element. -/
theorem pairs_cons_of_ne {P Q : α → Prop} {x : α} {xs : List α} (hx : ¬P x) :
    (∃ y z, List.Sublist [y, z] (x :: xs) ∧ P y ∧ Q z) ↔
      ∃ y z, List.Sublist [y, z] xs ∧ P y ∧ Q z := by
  constructor
  · rintro ⟨y, z, hyz, hy, hz⟩
    rcases pair_sublist_cons.1 hyz with h | ⟨rfl, -⟩
    · exact ⟨y, z, h, hy, hz⟩
    · exact absurd hy hx
  · rintro ⟨y, z, hyz, hy, hz⟩
    exact ⟨y, z, pair_sublist_cons.2 (.inl hyz), hy, hz⟩

/-- After an element that is skipped, every later filled element completes a pair. -/
theorem pairs_cons_of_pos {P Q : α → Prop} {x : α} {xs : List α} (hx : P x) :
    (∃ y z, List.Sublist [y, z] (x :: xs) ∧ P y ∧ Q z) ↔ ∃ z ∈ xs, Q z := by
  constructor
  · rintro ⟨y, z, hyz, -, hz⟩
    rcases pair_sublist_cons.1 hyz with h | ⟨-, h⟩
    · exact ⟨z, h.subset (by simp), hz⟩
    · exact ⟨z, h, hz⟩
  · rintro ⟨z, hz, hq⟩
    exact ⟨x, z, pair_sublist_cons.2 (.inr ⟨rfl, hz⟩), hx, hq⟩

/-- An element whose entry is appended and whose fill is read: the loop writes at its index. -/
def Fills (entry : α → Option (Option β)) (fill : α → Option (β → β)) (x : α) : Prop :=
  ∃ e f, entry x = some (some e) ∧ fill x = some f

/-- Where no entry panics, the loop panics exactly when a filled element follows a skipped one,
or, with the index already past the end, when any element is filled. -/
theorem appendFill_eq_none_iff {xs : List α} {i : ℕ} {ret : List β}
    (hentry : ∀ x ∈ xs, entry x ≠ none) (hi : ret.length ≤ i) :
    appendFill entry fill i xs ret = none ↔
      (ret.length < i ∧ ∃ z ∈ xs, Fills entry fill z) ∨
        ∃ y z, List.Sublist [y, z] xs ∧ entry y = some none ∧ Fills entry fill z := by
  induction xs generalizing i ret with
  | nil => simp [appendFill]
  | cons x xs ih =>
    have hxs : ∀ y ∈ xs, entry y ≠ none := fun y hy => hentry y (List.mem_cons_of_mem x hy)
    rcases hx : entry x with _ | _ | e
    · exact absurd hx (hentry x List.mem_cons_self)
    · -- x is skipped: from here on the write of every filled element panics
      have hnx : ¬Fills entry fill x := by simp [Fills, hx]
      rw [appendFill, hx]
      dsimp only
      rw [ih hxs (by omega), pairs_cons_of_pos (P := fun y => entry y = some none) hx]
      constructor
      · rintro (⟨-, hz⟩ | ⟨_, z, hyz, -, hfz⟩)
        · exact .inr hz
        · exact .inr ⟨z, hyz.subset (by simp), hfz⟩
      · rintro (⟨-, z, hz, hfz⟩ | hz)
        · rcases List.mem_cons.1 hz with rfl | hz
          · exact absurd hfz hnx
          · exact .inl ⟨by omega, z, hz, hfz⟩
        · exact .inl ⟨by omega, hz⟩
    · have hskip : entry x ≠ some none := by simp [hx]
      rw [appendFill, hx]
      dsimp only
      rcases hf : fill x with _ | f
      · -- appended but not filled: the index and the length both grow by one
        have hnx : ¬Fills entry fill x := by simp [Fills, hf]
        dsimp only
        rw [ih hxs (by simp; omega), pairs_cons_of_ne (P := fun y => entry y = some none) hskip,
          List.length_append, List.length_singleton]
        simp [hnx]
      · dsimp only
        split_ifs with hlt
        · -- nothing was skipped yet: the write lands on the element just appended
          rw [ih hxs (by simp; omega), pairs_cons_of_ne (P := fun y => entry y = some none) hskip,
            List.length_modify, List.length_append, List.length_singleton]
          simp only [add_lt_add_iff_right, show ¬ret.length < i by omega, false_and, false_or]
        · -- a skipped element came before: the index is past the end
          simp only [true_iff]
          exact .inl ⟨by omega, x, List.mem_cons_self, e, f, hx, hf⟩

end GoSlice
