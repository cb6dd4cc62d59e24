import RangeCore.Core.Types
import RangeCore.Lib.Run
import Mathlib.Data.List.Basic

/-!
# The cache of the RPC services

`CacheStorage` of `range/common/cache.go` keeps the last result of a query, such as the
governance API's `upgradeInfo` or `budgetInfo`, with the hash of the block it was queried at.
`Get` is called concurrently. It reads the current block, then the cached state by an atomic
load. An empty cache is filled under the mutex by `do_update`, which queries again unless another
goroutine has stored an entry for the same block meanwhile. A cache that holds an entry for the
current block, or any entry on a public service node, answers at once, and starts a refresh
goroutine unless one runs (`updating`); the refresh queries under the mutex whatever is stored,
and on a panic its deferred `recover` empties the cache. On a node that is not a public service,
a cache for another block is refilled under the mutex before `Get` answers.

The model is the shared storage with every goroutine's program counter, one atomic action a step,
over any interleaving (`Cache.exec`): a goroutine's step, a new head of the chain, or a new call
of `Get`. What a query returns, or its panic, is part of the step that makes it. A ghost list
records each entry a query gave, with the hash of the block the query was made for.

Over every run, the mutex is held by the one goroutine between its `Lock` and `Unlock`, if any,
so queries never overlap, and `updating` is set exactly while one refresh goroutine runs
(`Cache.cacheInv_run`). On a node that is not a public service, every entry `Get` returns was
given by a query made for the block that `Get` read (`Cache.get_fresh`), although a refresh that
started at an older block may store its entry over a newer one. A public service node may answer
with the entry of another block, as the example after `Cache.get_fresh` shows.

## Main definitions

* `RangeCore.Cache.CacheState`, `RangeCore.Cache.Pc`, `RangeCore.Cache.Goroutine`,
  `RangeCore.Cache.Sys`.
* `RangeCore.Cache.advance`, `RangeCore.Cache.exec`: one step of an interleaving.
* `RangeCore.Cache.CacheInv`: the mutex and the refresh flag against the goroutines.
* `RangeCore.Cache.Fresh`: what a node that is not a public service stores and carries.

## Main results

* `RangeCore.Cache.cacheInv_run`: the mutex and the refresh flag over every run.
* `RangeCore.Cache.get_fresh`: a node that is not a public service answers for the block it read.
-/

namespace RangeCore.Cache

/-- `ErrInvalidData`. -/
def errInvalidData : String := "Invalid data returned by the CacheQuery func"

/-- `cacheState`: the hash of the block an entry was queried at, and the entry, `none` for nil. -/
structure CacheState (α : Type) where
  blockHash : Hash
  entry : Option α
  deriving DecidableEq

/-- `&cacheState{}`. -/
def CacheState.empty {α : Type} : CacheState α := ⟨0, none⟩

/-- A block as `Get` reads it: `block.Hash()` and `block.Number()`. -/
structure Block where
  hash : Hash
  number : ℕ
  deriving DecidableEq

/-- Where a goroutine is in `Get`, in `do_update`, or in the deferred calls of the refresh
goroutine. -/
inductive Pc (α : Type) where
  /-- `Get`, before `chain.CurrentBlock()`. -/
  | start
  /-- `Get`, before the atomic load of `c.state`. -/
  | loaded (b : Block)
  /-- `Get`, with the state it loaded, at its branches. -/
  | check (b : Block) (s : CacheState α)
  /-- `do_update(force)`, waiting for `c.mtx`. -/
  | lock (force : Bool) (b : Block)
  /-- Holding `c.mtx`, before loading `c.state` again. -/
  | load (force : Bool) (b : Block)
  /-- Holding `c.mtx`, calling `source(block.Number())`. -/
  | query (force : Bool) (b : Block)
  /-- Holding `c.mtx`, returning `r` through the deferred `Unlock`. -/
  | unlock (b : Block) (r : Except String α)
  /-- The refresh goroutine after a panic: its deferred `recover` stores `&cacheState{}`. -/
  | recover
  /-- The refresh goroutine before its deferred `atomic.StoreInt32(&c.updating, 0)`. -/
  | clear
  /-- `Get` returned `r` for the block `b` it read. -/
  | returned (b : Block) (r : Except String α)
  /-- `Get` panicked with the query. -/
  | panicked
  /-- The refresh goroutine ended. -/
  | exited
  deriving DecidableEq

variable {α : Type}

/-- Whether a goroutine is between `c.mtx.Lock()` and the `Unlock()` it defers. -/
def Pc.holdsLock : Pc α → Bool
  | .load .. | .query .. | .unlock .. => true
  | _ => false

/-- Whether a refresh goroutine has ended. -/
def Pc.isExited : Pc α → Bool
  | .exited => true
  | _ => false

/-- A goroutine: a caller of `Get`, or a refresh goroutine `Get` started. -/
structure Goroutine (α : Type) where
  refresh : Bool
  pc : Pc α
  deriving DecidableEq

/-- A refresh goroutine that has not ended. -/
def Goroutine.refreshing (g : Goroutine α) : Bool := g.refresh && !g.pc.isExited

/-- The storage, the chain it reads, and the goroutines that use it. -/
structure Sys (α : Type) where
  /-- `chain.CurrentBlock()`. -/
  head : Block
  state : CacheState α
  updating : Bool
  /-- Whether `c.mtx` is held. -/
  locked : Bool
  goroutines : List (Goroutine α)
  /-- Ghost: the entries queries gave, each with the hash of the block it was made for. -/
  queried : List (Hash × α)

/-- `NewCacheStorage()`, before any call. -/
def Sys.init (head : Block) : Sys α := ⟨head, .empty, false, false, [], []⟩

/-- A step of an interleaving: the chain's head moves, a caller enters `Get`, or goroutine `i`
takes its next atomic step, where `res` is what `source` returns if that step is the query,
`none` for a panic. -/
inductive Action (α : Type) where
  | newHead (b : Block)
  | get
  | step (i : ℕ) (res : Option (Except String (Option α)))

/-- Goroutine `i`, which is `g`, at `pc`. -/
def Sys.setPc (sys : Sys α) (i : ℕ) (g : Goroutine α) (pc : Pc α) : Sys α :=
  { sys with goroutines := sys.goroutines.set i { g with pc } }

/-- What `do_update` returns for an entry: `ErrInvalidData` for nil. -/
def result : Option α → Except String α
  | some e => .ok e
  | none => .error errInvalidData

@[simp] theorem result_eq_ok {o : Option α} {e : α} : result o = .ok e ↔ o = some e := by
  cases o <;> simp [result]

variable (isPublicService : Bool)

/-- Goroutine `i`, which is `g`, takes its next atomic step. -/
def advance (sys : Sys α) (i : ℕ) (g : Goroutine α) (res : Option (Except String (Option α))) :
    Sys α :=
  match g.pc with
  | .start => sys.setPc i g (.loaded sys.head)
  | .loaded b => sys.setPc i g (.check b sys.state)
  | .check b s =>
    match s.entry with
    | none => sys.setPc i g (.lock false b)
    | some e =>
      if isPublicService || s.blockHash == b.hash then
        let sys' := sys.setPc i g (.returned b (.ok e))
        -- the compare-and-swap of `updating` starts the refresh goroutine
        if sys.updating then sys'
        else { sys' with updating := true, goroutines := sys'.goroutines ++ [⟨true, .lock true b⟩] }
      else sys.setPc i g (.lock false b)
  | .lock force b =>
    if sys.locked then sys else { sys.setPc i g (.load force b) with locked := true }
  | .load force b =>
    if force || sys.state.entry.isNone || sys.state.blockHash != b.hash then
      sys.setPc i g (.query force b)
    else sys.setPc i g (.unlock b (result sys.state.entry))
  | .query _ b =>
    match res with
    | none =>
      -- the deferred `Unlock` runs; the refresh goroutine recovers, a caller's `Get` panics
      { sys.setPc i g (if g.refresh then .recover else .panicked) with locked := false }
    | some (.error e) => sys.setPc i g (.unlock b (.error e))
    | some (.ok entry) =>
      { sys.setPc i g (.unlock b (result entry)) with
        state := ⟨b.hash, entry⟩
        queried := sys.queried ++ (entry.map fun e => (b.hash, e)).toList }
  | .unlock b r =>
    { sys.setPc i g (if g.refresh then .clear else .returned b r) with locked := false }
  | .recover => { sys.setPc i g .clear with state := .empty }
  | .clear => { sys.setPc i g .exited with updating := false }
  | .returned .. | .panicked | .exited => sys

/-- One step of an interleaving. -/
def exec (sys : Sys α) : Action α → Sys α
  | .newHead b => { sys with head := b }
  | .get => { sys with goroutines := sys.goroutines ++ [⟨false, .start⟩] }
  | .step i res =>
    match sys.goroutines[i]? with
    | none => sys
    | some g => advance isPublicService sys i g res

namespace Sys

variable {sys : Sys α} {i : ℕ} {g : Goroutine α}

@[simp] theorem setPc_state (pc : Pc α) : (sys.setPc i g pc).state = sys.state := rfl

@[simp] theorem setPc_locked (pc : Pc α) : (sys.setPc i g pc).locked = sys.locked := rfl

@[simp] theorem setPc_updating (pc : Pc α) : (sys.setPc i g pc).updating = sys.updating := rfl

@[simp] theorem setPc_queried (pc : Pc α) : (sys.setPc i g pc).queried = sys.queried := rfl

/-- Counting goroutines after goroutine `i` moves: it leaves its count and enters the new one. -/
theorem countP_setPc {p : Goroutine α → Bool} (hg : sys.goroutines[i]? = some g) (pc : Pc α) :
    (sys.setPc i g pc).goroutines.countP p + (if p g then 1 else 0) =
      sys.goroutines.countP p + (if p { g with pc } then 1 else 0) := by
  obtain ⟨hi, hgi⟩ := List.getElem?_eq_some_iff.1 hg
  have hle : (if p g then 1 else 0) ≤ sys.goroutines.countP p := by
    rw [← hgi]
    exact List.boole_getElem_le_countP hi
  rw [setPc, List.countP_set hi, hgi]
  omega

theorem mem_setPc {g' : Goroutine α} {pc : Pc α} (h : g' ∈ (sys.setPc i g pc).goroutines) :
    g' ∈ sys.goroutines ∨ g' = { g with pc } :=
  List.mem_or_eq_of_mem_set h

/-- A goroutine counted by a flag's count shows the flag set. -/
theorem flag_of_count {p : Goroutine α → Bool} {f : Bool}
    (hcount : sys.goroutines.countP p = if f then 1 else 0) (hg : sys.goroutines[i]? = some g)
    (hp : p g = true) : f = true := by
  have hpos : 0 < sys.goroutines.countP p :=
    List.countP_pos_iff.2 ⟨g, List.mem_of_getElem? hg, hp⟩
  cases f
  · simp [hcount] at hpos
  · rfl

end Sys

/-! ### The mutex and the refresh flag -/

/-- The invariant of the storage over every interleaving. -/
structure CacheInv (sys : Sys α) : Prop where
  /-- `c.mtx` is held by the one goroutine between its `Lock` and `Unlock`, if any. -/
  lock_count : sys.goroutines.countP (·.pc.holdsLock) = if sys.locked then 1 else 0
  /-- `updating` is set exactly while one refresh goroutine runs. -/
  refresh_count : sys.goroutines.countP (·.refreshing) = if sys.updating then 1 else 0
  /-- Only a refresh goroutine runs the deferred calls of the refresh goroutine. -/
  refresh_of_defer : ∀ g ∈ sys.goroutines, (g.pc = .recover ∨ g.pc = .clear) → g.refresh = true

theorem cacheInv_init (head : Block) : CacheInv (Sys.init head : Sys α) :=
  ⟨rfl, rfl, fun _ h => absurd h List.not_mem_nil⟩

namespace CacheInv

variable {sys : Sys α} {i : ℕ} {g : Goroutine α}

/-- Goroutine `i` moves to `pc` and the step sets the mutex to `l` and `updating` to `u`: the
invariant is kept when each flag changes with the number of goroutines it counts. -/
theorem move (h : CacheInv sys) (hg : sys.goroutines[i]? = some g) (pc : Pc α) (l u : Bool)
    (hlock : (if pc.holdsLock then 1 else 0) + (if sys.locked then 1 else 0) =
      (if g.pc.holdsLock then 1 else 0) + (if l then 1 else 0))
    (hrefresh : (if ({ g with pc } : Goroutine α).refreshing then 1 else 0) +
      (if sys.updating then 1 else 0) = (if g.refreshing then 1 else 0) + (if u then 1 else 0))
    (hdefer : (pc = .recover ∨ pc = .clear) → g.refresh = true) :
    CacheInv { sys.setPc i g pc with locked := l, updating := u } where
  lock_count := by
    have hcount := Sys.countP_setPc (p := (·.pc.holdsLock)) hg pc
    have hinv := h.lock_count
    dsimp only at hcount ⊢
    omega
  refresh_count := by
    have hcount := Sys.countP_setPc (p := (·.refreshing)) hg pc
    have hinv := h.refresh_count
    dsimp only at hcount ⊢
    omega
  refresh_of_defer g' hg' hpc := by
    rcases Sys.mem_setPc hg' with hg' | rfl
    · exact h.refresh_of_defer g' hg' hpc
    · exact hdefer hpc

/-- A step that moves one goroutine and touches neither flag keeps the invariant when the
goroutine keeps whether it holds the mutex and whether it has ended. -/
theorem setPc (h : CacheInv sys) (hg : sys.goroutines[i]? = some g) (pc : Pc α)
    (hlock : pc.holdsLock = g.pc.holdsLock) (hexit : pc.isExited = g.pc.isExited)
    (hdefer : (pc = .recover ∨ pc = .clear) → g.refresh = true) :
    CacheInv (sys.setPc i g pc) := by
  have hrefresh : ({ g with pc } : Goroutine α).refreshing = g.refreshing := by
    simp only [Goroutine.refreshing, hexit]
  exact h.move hg pc sys.locked sys.updating (by rw [hlock]) (by rw [hrefresh]) hdefer

/-- A new goroutine that holds no mutex keeps the invariant when `updating` is set to count it. -/
theorem append (h : CacheInv sys) (g' : Goroutine α) (u : Bool) (hlock : g'.pc.holdsLock = false)
    (hrefresh : (if g'.refreshing then 1 else 0) + (if sys.updating then 1 else 0) =
      if u then 1 else 0)
    (hdefer : (g'.pc = .recover ∨ g'.pc = .clear) → g'.refresh = true) :
    CacheInv { sys with updating := u, goroutines := sys.goroutines ++ [g'] } where
  lock_count := by
    rw [List.countP_append, h.lock_count]
    simp [hlock]
  refresh_count := by
    rw [List.countP_append, h.refresh_count, ← hrefresh]
    simp only [List.countP_singleton]
    omega
  refresh_of_defer g'' hg'' hpc := by
    rcases List.mem_append.1 hg'' with hg'' | hg''
    · exact h.refresh_of_defer g'' hg'' hpc
    · rw [List.mem_singleton.1 hg''] at hpc ⊢
      exact hdefer hpc

/-- The invariant reads neither the stored state nor the ghost record. -/
theorem setState (h : CacheInv sys) (s : CacheState α) (q : List (Hash × α)) :
    CacheInv { sys with state := s, queried := q } :=
  ⟨h.lock_count, h.refresh_count, h.refresh_of_defer⟩

theorem holdsLock_count (h : CacheInv sys) (hg : sys.goroutines[i]? = some g)
    (hholds : g.pc.holdsLock = true) : sys.locked = true :=
  Sys.flag_of_count h.lock_count hg hholds

theorem refreshing_count (h : CacheInv sys) (hg : sys.goroutines[i]? = some g)
    (hrefreshing : g.refreshing = true) : sys.updating = true :=
  Sys.flag_of_count h.refresh_count hg hrefreshing

/-- The deferred `Unlock`: goroutine `i`, which holds the mutex, moves to `pc` and releases it. -/
theorem release (h : CacheInv sys) (hg : sys.goroutines[i]? = some g)
    (hholds : g.pc.holdsLock = true) (pc : Pc α) (hlock : pc.holdsLock = false)
    (hexit : pc.isExited = false) (hdefer : (pc = .recover ∨ pc = .clear) → g.refresh = true) :
    CacheInv { sys.setPc i g pc with locked := false } := by
  have hl : sys.locked = true := h.holdsLock_count hg hholds
  -- a goroutine that holds the mutex has not ended
  have hrun : g.pc.isExited = false := by
    cases hpc : g.pc <;> simp_all [Pc.holdsLock, Pc.isExited]
  have hrefresh : ({ g with pc } : Goroutine α).refreshing = g.refreshing := by
    simp only [Goroutine.refreshing, hexit, hrun]
  exact h.move hg pc false sys.updating (by rw [hholds, hlock, hl]; rfl) (by rw [hrefresh]) hdefer

/-- One step of a goroutine keeps the invariant. -/
theorem advance (h : CacheInv sys) (hg : sys.goroutines[i]? = some g) (isPublicService : Bool)
    (res : Option (Except String (Option α))) :
    CacheInv (advance isPublicService sys i g res) := by
  have hmem : g ∈ sys.goroutines := List.mem_of_getElem? hg
  unfold Cache.advance
  cases hpc : g.pc with
  | start => exact h.setPc hg _ (by simp [hpc, Pc.holdsLock]) (by simp [hpc, Pc.isExited]) (by simp)
  | loaded b => exact h.setPc hg _ (by simp [hpc, Pc.holdsLock]) (by simp [hpc, Pc.isExited]) (by simp)
  | check b s =>
    dsimp only
    cases hentry : s.entry with
    | none => exact h.setPc hg _ (by simp [hpc, Pc.holdsLock]) (by simp [hpc, Pc.isExited]) (by simp)
    | some e =>
      dsimp only
      by_cases hanswer : (isPublicService || s.blockHash == b.hash) = true
      · have h' := h.setPc hg (.returned b (.ok e)) (by simp [hpc, Pc.holdsLock]) (by simp [hpc, Pc.isExited]) (by simp)
        rw [if_pos hanswer]
        by_cases hu : sys.updating = true
        · rw [if_pos hu]
          exact h'
        · rw [if_neg hu]
          -- the refresh goroutine starts as `updating` is set
          exact h'.append ⟨true, .lock true b⟩ true rfl (by simp [Goroutine.refreshing,
            Pc.isExited, hu]) (by simp)
      · rw [if_neg hanswer]
        exact h.setPc hg _ (by simp [hpc, Pc.holdsLock]) (by simp [hpc, Pc.isExited]) (by simp)
  | lock force b =>
    dsimp only
    by_cases hl : sys.locked = true
    · rw [if_pos hl]
      exact h
    · rw [if_neg hl]
      exact h.move hg _ true sys.updating (by simp [hpc, hl, Pc.holdsLock])
        (by simp [Goroutine.refreshing, hpc, Pc.isExited])
        (by simp)
  | load force b =>
    dsimp only
    split
    · exact h.setPc hg _ (by simp [hpc, Pc.holdsLock]) (by simp [hpc, Pc.isExited]) (by simp)
    · exact h.setPc hg _ (by simp [hpc, Pc.holdsLock]) (by simp [hpc, Pc.isExited]) (by simp)
  | query force b =>
    dsimp only
    cases res with
    | none =>
      exact h.release hg (by simp [hpc, Pc.holdsLock]) _ (by cases g.refresh <;> rfl) (by cases g.refresh <;> rfl)
        (by cases g.refresh <;> simp)
    | some r =>
      cases r with
      | error e => exact h.setPc hg _ (by simp [hpc, Pc.holdsLock]) (by simp [hpc, Pc.isExited]) (by simp)
      | ok entry => exact (h.setPc hg _ (by simp [hpc, Pc.holdsLock]) (by simp [hpc, Pc.isExited]) (by simp)).setState _ _
  | unlock b r =>
    exact h.release hg (by simp [hpc, Pc.holdsLock]) _ (by cases g.refresh <;> rfl) (by cases g.refresh <;> rfl)
      (by cases g.refresh <;> simp)
  | recover =>
    have hr : g.refresh = true := h.refresh_of_defer g hmem (.inl hpc)
    exact (h.setPc hg .clear (by simp [hpc, Pc.holdsLock]) (by simp [hpc, Pc.isExited]) fun _ => hr).setState _ _
  | clear =>
    have hr : g.refresh = true := h.refresh_of_defer g hmem (.inr hpc)
    have hu : sys.updating = true :=
      h.refreshing_count hg (by simp [Goroutine.refreshing, hpc, hr, Pc.isExited])
    exact h.move hg .exited sys.locked false (by simp [hpc, Pc.holdsLock])
      (by simp [Goroutine.refreshing, hpc, hr, hu, Pc.isExited]) (by simp)
  | returned b r => exact h
  | panicked => exact h
  | exited => exact h

/-- Every step of an interleaving keeps the invariant. -/
theorem exec (h : CacheInv sys) (isPublicService : Bool) (a : Action α) :
    CacheInv (exec isPublicService sys a) := by
  cases a with
  | newHead b => exact ⟨h.lock_count, h.refresh_count, h.refresh_of_defer⟩
  | get =>
    -- a new caller of `Get` holds nothing and is no refresh goroutine
    exact h.append ⟨false, .start⟩ sys.updating rfl (by simp [Goroutine.refreshing]) (by simp)
  | step i res =>
    dsimp only [Cache.exec]
    cases hg : sys.goroutines[i]? with
    | none => exact h
    | some g => exact h.advance hg isPublicService res

end CacheInv

/-- Over every interleaving of the calls of `Get`, the refresh goroutines they start and the
moves of the chain's head, the goroutines between `c.mtx.Lock()` and its deferred `Unlock()` are
one while the mutex is held and none otherwise, `updating` is set exactly while one refresh
goroutine runs, and only a refresh goroutine reaches its deferred calls. -/
theorem cacheInv_run (isPublicService : Bool) (head : Block) (as : List (Action α)) :
    CacheInv (StateMachine.run (exec isPublicService) (Sys.init head) as) :=
  StateMachine.run_invariant _ CacheInv (cacheInv_init head)
    (fun _ a h => h.exec isPublicService a) as

/-! ### What `Get` answers on a node that is not a public service -/

/-- What a goroutine's program counter says of the entry it carries: a query in `q` gave it for
the block it is carried for. -/
def Pc.Fresh (q : List (Hash × α)) : Pc α → Prop
  | .check _ s => ∀ e, s.entry = some e → (s.blockHash, e) ∈ q
  | .unlock b r | .returned b r => ∀ e, r = .ok e → (b.hash, e) ∈ q
  | _ => True

theorem Pc.Fresh.mono {q q' : List (Hash × α)} (hq : q ⊆ q') {pc : Pc α} (h : pc.Fresh q) :
    pc.Fresh q' := by
  cases pc with
  | check b s => exact fun e he => hq (h e he)
  | unlock b r => exact fun e he => hq (h e he)
  | returned b r => exact fun e he => hq (h e he)
  | _ => trivial

/-- The invariant of a node that is not a public service: a query gave the stored entry, and
every entry a goroutine carries, for the block it is kept for. -/
structure Fresh (sys : Sys α) : Prop where
  state_fresh : ∀ e, sys.state.entry = some e → (sys.state.blockHash, e) ∈ sys.queried
  pc_fresh : ∀ g ∈ sys.goroutines, g.pc.Fresh sys.queried

theorem fresh_init (head : Block) : Fresh (Sys.init head : Sys α) :=
  ⟨fun _ he => absurd he (by simp [Sys.init, CacheState.empty]), fun _ h => absurd h List.not_mem_nil⟩

namespace Fresh

variable {sys : Sys α} {i : ℕ} {g : Goroutine α}

/-- The invariant reads neither flag. -/
theorem setFlags (h : Fresh sys) (l u : Bool) : Fresh { sys with locked := l, updating := u } :=
  ⟨h.state_fresh, h.pc_fresh⟩

theorem setPc (h : Fresh sys) {pc : Pc α} (hpc : pc.Fresh sys.queried) :
    Fresh (sys.setPc i g pc) where
  state_fresh := h.state_fresh
  pc_fresh g' hg' := by
    rcases Sys.mem_setPc hg' with hg' | rfl
    · exact h.pc_fresh g' hg'
    · exact hpc

theorem append (h : Fresh sys) {g' : Goroutine α} (hg' : g'.pc.Fresh sys.queried) (u : Bool) :
    Fresh { sys with updating := u, goroutines := sys.goroutines ++ [g'] } where
  state_fresh := h.state_fresh
  pc_fresh g'' hg'' := by
    rcases List.mem_append.1 hg'' with hg'' | hg''
    · exact h.pc_fresh g'' hg''
    · rw [List.mem_singleton.1 hg'']
      exact hg'

/-- The deferred `recover` empties the cache. -/
theorem empty (h : Fresh sys) : Fresh { sys with state := .empty } :=
  ⟨fun _ he => absurd he (by simp [CacheState.empty]), h.pc_fresh⟩

/-- A query that gives `entry` for block `b` stores it, and the goroutine carries it for `b`. -/
theorem store (h : Fresh sys) (b : Block) (entry : Option α) :
    Fresh
      { sys.setPc i g (.unlock b (result entry)) with
        state := ⟨b.hash, entry⟩
        queried := sys.queried ++ (entry.map fun e => (b.hash, e)).toList } where
  state_fresh e he := by
    dsimp only at he ⊢
    simp [he]
  pc_fresh g' hg' := by
    have hq : sys.queried ⊆ sys.queried ++ (entry.map fun e => (b.hash, e)).toList :=
      List.subset_append_left _ _
    rcases Sys.mem_setPc hg' with hg' | rfl
    · exact (h.pc_fresh g' hg').mono hq
    · intro e he
      rw [result_eq_ok] at he
      simp [he]

/-- One step of a goroutine on a node that is not a public service keeps the invariant. -/
theorem advance (h : Fresh sys) (hg : sys.goroutines[i]? = some g)
    (res : Option (Except String (Option α))) : Fresh (advance false sys i g res) := by
  have hcarried : g.pc.Fresh sys.queried := h.pc_fresh g (List.mem_of_getElem? hg)
  unfold Cache.advance
  cases hpc : g.pc with
  | start => exact h.setPc (by trivial)
  | loaded b => exact h.setPc h.state_fresh
  | check b s =>
    rw [hpc] at hcarried
    dsimp only
    cases hentry : s.entry with
    | none => exact h.setPc (by trivial)
    | some e =>
      dsimp only
      by_cases hhash : s.blockHash = b.hash
      · -- the loaded entry was queried for the block `Get` read
        have hret : (Pc.returned b (.ok e) : Pc α).Fresh sys.queried := by
          rintro e' ⟨⟩
          exact hhash ▸ hcarried e hentry
        rw [if_pos (by simp [hhash])]
        split
        · exact h.setPc hret
        · exact (h.setPc hret).append (by trivial) true
      · rw [if_neg (by simpa using hhash)]
        exact h.setPc (by trivial)
  | lock force b =>
    dsimp only
    split
    · exact h
    · exact (h.setPc (by trivial)).setFlags true _
  | load force b =>
    dsimp only
    split
    · exact h.setPc (by trivial)
    · -- the stored entry is for `b`: `do_update` answers with it
      rename_i hcond
      obtain ⟨-, hhash⟩ : _ ∧ sys.state.blockHash = b.hash := by simpa using hcond
      refine h.setPc fun e he => ?_
      rw [← hhash]
      exact h.state_fresh e (result_eq_ok.1 he)
  | query force b =>
    dsimp only
    cases res with
    | none => exact (h.setPc (by cases g.refresh <;> trivial)).setFlags false _
    | some r =>
      cases r with
      | error e => exact h.setPc (by rintro _ ⟨⟩)
      | ok entry =>
        dsimp only
        exact h.store b entry
  | unlock b r =>
    rw [hpc] at hcarried
    dsimp only
    -- the caller returns what it carried through `Unlock`
    have hnext : (if g.refresh then Pc.clear else .returned b r : Pc α).Fresh sys.queried := by
      cases g.refresh
      · exact hcarried
      · trivial
    exact (h.setPc hnext).setFlags false _
  | recover => exact (h.setPc (by trivial)).empty
  | clear => exact (h.setPc (by trivial)).setFlags _ false
  | returned b r => exact h
  | panicked => exact h
  | exited => exact h

/-- Every step of an interleaving on a node that is not a public service keeps the invariant. -/
theorem exec (h : Fresh sys) (a : Action α) : Fresh (exec false sys a) := by
  cases a with
  | newHead b => exact ⟨h.state_fresh, h.pc_fresh⟩
  | get => exact h.append (by trivial) _
  | step i res =>
    dsimp only [Cache.exec]
    cases hg : sys.goroutines[i]? with
    | none => exact h
    | some g => exact h.advance hg res

end Fresh

theorem fresh_run (head : Block) (as : List (Action α)) :
    Fresh (StateMachine.run (exec false) (Sys.init head) as) :=
  StateMachine.run_invariant _ Fresh (fresh_init head) (fun _ a h => h.exec a) as

/-- On a node that is not a public service, over every interleaving, an entry that `Get` returns
was given by a query made for the block that this call of `Get` read at its start. -/
theorem get_fresh (head : Block) (as : List (Action α)) {g : Goroutine α} {b : Block} {e : α}
    (hg : g ∈ (StateMachine.run (exec false) (Sys.init head) as).goroutines)
    (hret : g.pc = .returned b (.ok e)) :
    (b.hash, e) ∈ (StateMachine.run (exec false) (Sys.init head) as).queried := by
  have hcarried := (fresh_run head as).pc_fresh g hg
  rw [hret] at hcarried
  exact hcarried e rfl

/-- One call of `Get` on an empty cache: it reads the block, queries under the mutex, and
returns the entry. -/
def firstCall : List (Action ℕ) :=
  [.get, .step 0 none, .step 0 none, .step 0 none, .step 0 none, .step 0 none,
    .step 0 (some (.ok (some 7))), .step 0 none]

theorem get_fresh_firstCall :
    ⟨false, .returned ⟨1, 1⟩ (.ok 7)⟩ ∈
        (StateMachine.run (exec false) (Sys.init ⟨1, 1⟩) firstCall).goroutines ∧
      ((1 : Hash), 7) ∈ (StateMachine.run (exec false) (Sys.init ⟨1, 1⟩) firstCall).queried := by
  have hmem : (⟨false, .returned ⟨1, 1⟩ (.ok 7)⟩ : Goroutine ℕ) ∈
      (StateMachine.run (exec false) (Sys.init ⟨1, 1⟩) firstCall).goroutines := by
    decide
  exact ⟨hmem, get_fresh ⟨1, 1⟩ firstCall hmem rfl⟩

/- On a public service node the same entry is answered after the head moves to another block. -/
example :
    (StateMachine.run (exec true) (Sys.init ⟨1, 1⟩)
        (firstCall ++ [.newHead ⟨2, 2⟩, .get, .step 1 none, .step 1 none, .step 1 none])).goroutines[1]?
      = some ⟨false, .returned ⟨2, 2⟩ (.ok 7)⟩ ∧
    ((2 : Hash), 7) ∉ (StateMachine.run (exec true) (Sys.init ⟨1, 1⟩)
        (firstCall ++ [.newHead ⟨2, 2⟩, .get, .step 1 none, .step 1 none, .step 1 none])).queried := by
  decide

end RangeCore.Cache
