import RangeCore.Consensus.Chain
import RangeCore.Lib.Reach

/-!
# Batch header verification

`Range.VerifyHeaders` of `range/consensus/engine.go` starts a goroutine that, for each header of
a batch in turn, waits in a `select` for a `ready` signal or the closing of `abort`, verifies the
header against the chain as it is at that moment, and sends the verdict on `results`, again in a
`select` with `abort`. Both channels are buffered to the batch length. The engine relies on its
caller to send `ready` for a header only once its parent can be found.

Two callers drive it. The import iterator of `BlockChain.insertChain` sends `ready` and takes
the verdict; on success it validates the block's body (`ValidateBody`), the loop runs its checks
(bad hashes, checkpoints), and the block is processed and written before the next `ready`.
`HeaderChain.ValidateHeaderChain` runs the same per-header checks before it sends `ready`, then
waits for the verdict, and writes nothing: the headers are inserted after the whole batch is
validated. Both close `abort` when they return. A failure of `insertChain`'s first block ends
the run here; the switch on its error that imports it as a side chain, queues it as a future
block or skips known blocks is not modelled.

The system is the interleaving of the goroutine's and the caller's moves, a step relation on the
state of both parties and of the channels. The verification of header `i` against the chain with
the first `w` headers of the batch written is the parameter `verify w i`; the caller's checks of
header `i` are `check i` (for `insertChain`, `ValidateBody` and the loop's checks). A failure
of processing or writing a block in `insertChain` is a nondeterministic move.

## Main definitions

* `RangeCore.Consensus.firstFailure`: sequential checking, which stops at the first error.
* `RangeCore.Consensus.HeaderCaller.writtenBefore`: how many headers of the batch each caller has
  written when header `i` is verified.
* `RangeCore.Consensus.Pipeline`, `RangeCore.Consensus.Pipeline.Step`.
* `RangeCore.Consensus.Pipeline.sequentialVerdict`: the verdict of the sequential loop on a
  header, verified against the chain with `writtenBefore` headers written.

## Main results

* `RangeCore.Consensus.Pipeline.reachable_inv`: the lock-step invariant of every reachable state;
  the `j`-th verdict the caller receives is the verification of header `j` against the chain
  with `writtenBefore j` headers written.
* `RangeCore.Consensus.Pipeline.outcome_eq`: the caller returns the first failure of the
  sequential loop.
* `RangeCore.Consensus.Pipeline.run_length_le_rank`, `RangeCore.Consensus.Pipeline.terminal`:
  every run is finite and ends with the caller returned and the goroutine done.
* `RangeCore.Consensus.Pipeline.verifier_stops_of_aborted`: once `abort` is closed the goroutine
  can always return.
* `RangeCore.Consensus.Pipeline.verifyHeaders_outcome`: every state with no move left has the
  goroutine done and the caller returned with the sequential loop's outcome.
* `RangeCore.Consensus.validateHeaderChain_unknown_ancestor`: for `ValidateHeaderChain` that
  chain holds none of the batch, and a batch of two fresh headers valid one by one is rejected.
-/

namespace RangeCore.Consensus

/-! ### Sequential checking -/

section FirstFailure

variable {ε : Type*} (verdict : ℕ → Except ε Unit)

/-- The outcome of checking `verdict 0, …, verdict (n - 1)` in order and stopping at the first
error: the index and the error of the first failure, if any. -/
def firstFailure : ℕ → Option (ℕ × ε)
  | 0 => none
  | k + 1 => (firstFailure k).or
    (match verdict k with
      | .error e => some (k, e)
      | .ok () => none)

variable {verdict}

theorem firstFailure_eq_none_iff {n : ℕ} :
    firstFailure verdict n = none ↔ ∀ j < n, verdict j = .ok () := by
  induction n with
  | zero => simp [firstFailure]
  | succ k ih =>
    rw [firstFailure, Option.or_eq_none_iff, ih, Nat.forall_lt_succ_right]
    apply and_congr_right fun _ => ?_
    cases verdict k <;> simp

theorem firstFailure_eq_some {n i : ℕ} {e : ε} (hi : i < n)
    (hbefore : ∀ j < i, verdict j = .ok ()) (hfail : verdict i = .error e) :
    firstFailure verdict n = some (i, e) := by
  induction n with
  | zero => omega
  | succ k ih =>
    rw [firstFailure]
    rcases Nat.lt_succ_iff_lt_or_eq.1 hi with hlt | rfl
    · rw [ih hlt, Option.some_or]
    · rw [firstFailure_eq_none_iff.2 hbefore, Option.none_or, hfail]

end FirstFailure

/-! ### The goroutine and its callers -/

/-- The two callers of `VerifyHeaders`. -/
inductive HeaderCaller where
  | insertChain
  | validateHeaderChain
  deriving DecidableEq, Repr

/-- How many headers of the batch the caller has written when header `i` is verified: all
before it for `insertChain`, none for `ValidateHeaderChain`. -/
def HeaderCaller.writtenBefore : HeaderCaller → ℕ → ℕ
  | .insertChain, i => i
  | .validateHeaderChain, _ => 0

@[simp] theorem HeaderCaller.writtenBefore_zero (caller : HeaderCaller) :
    caller.writtenBefore 0 = 0 := by
  cases caller <;> rfl

/-- Where the verifier goroutine is. -/
inductive VerifierPhase where
  | awaitReady
  | sending (verdict : Except Error Unit)
  | done

/-- Where the caller is: at its turn for the current header, waiting for its verdict, on a block
whose verdict passed (`insertChain`), or returned with the index and error of the first
failure. -/
inductive CallerPhase where
  | check
  | awaitResult
  | write
  | returned (failure : Option (ℕ × Error))

/-- The state of the goroutine, the channels and the caller. `received` records the verdicts
the caller has taken from `results`, in order. -/
structure Pipeline where
  verIdx : ℕ
  verPhase : VerifierPhase
  ready : ℕ
  results : List (Except Error Unit)
  aborted : Bool
  callerIdx : ℕ
  callerPhase : CallerPhase
  written : ℕ
  received : List (Except Error Unit)

namespace Pipeline

/-- Both parties at the start, the channels empty. -/
def init : Pipeline := ⟨0, .awaitReady, 0, [], false, 0, .check, 0, []⟩

variable (caller : HeaderCaller) (n : ℕ) (verify : ℕ → ℕ → Except Error Unit)
  (check : ℕ → Except Error Unit)

/-- One move of the goroutine or of the caller, for a batch of `n` headers. The goroutine's two
`select`s may take `abort` whenever it is closed. At its turn for a header,
`ValidateHeaderChain` runs its checks and then sends `ready`; the iterator of `insertChain` sends
`ready` at once, and the block's checks (`ValidateBody`, then the loop's bad-hash and checkpoint
checks) come after its verdict, before the block is processed and written. -/
inductive Step : Pipeline → Pipeline → Prop where
  | recvReady {s : Pipeline} : s.verPhase = .awaitReady → s.verIdx < n → 0 < s.ready →
      Step s { s with verPhase := .sending (verify s.written s.verIdx), ready := s.ready - 1 }
  | abortWait {s : Pipeline} : s.verPhase = .awaitReady → s.aborted = true →
      Step s { s with verPhase := .done }
  | finish {s : Pipeline} : s.verPhase = .awaitReady → n ≤ s.verIdx →
      Step s { s with verPhase := .done }
  | send {s : Pipeline} {r : Except Error Unit} : s.verPhase = .sending r → s.results.length < n →
      Step s { s with
        results := s.results ++ [r], verIdx := s.verIdx + 1, verPhase := .awaitReady }
  | abortSend {s : Pipeline} {r : Except Error Unit} : s.verPhase = .sending r →
      s.aborted = true → Step s { s with verPhase := .done }
  | checkFail {s : Pipeline} {e : Error} : s.callerPhase = .check →
      caller = .validateHeaderChain → s.callerIdx < n → check s.callerIdx = .error e →
      Step s { s with callerPhase := .returned (some (s.callerIdx, e)), aborted := true }
  | sendReady {s : Pipeline} : s.callerPhase = .check → s.callerIdx < n →
      (caller = .validateHeaderChain → check s.callerIdx = .ok ()) → s.ready < n →
      Step s { s with ready := s.ready + 1, callerPhase := .awaitResult }
  | complete {s : Pipeline} : s.callerPhase = .check → n ≤ s.callerIdx →
      Step s { s with callerPhase := .returned none, aborted := true }
  | recvError {s : Pipeline} {e : Error} {rest : List (Except Error Unit)} :
      s.callerPhase = .awaitResult → s.results = .error e :: rest →
      Step s { s with
        results := rest, received := s.received ++ [.error e],
        callerPhase := .returned (some (s.callerIdx, e)), aborted := true }
  | recvOk {s : Pipeline} {rest : List (Except Error Unit)} :
      s.callerPhase = .awaitResult → s.results = .ok () :: rest →
      Step s { s with
        results := rest, received := s.received ++ [.ok ()],
        callerPhase := if caller = .insertChain then .write else .check,
        callerIdx := if caller = .insertChain then s.callerIdx else s.callerIdx + 1 }
  | blockCheckFail {s : Pipeline} {e : Error} : s.callerPhase = .write →
      check s.callerIdx = .error e →
      Step s { s with callerPhase := .returned (some (s.callerIdx, e)), aborted := true }
  | writeBlock {s : Pipeline} : s.callerPhase = .write → check s.callerIdx = .ok () →
      Step s { s with written := s.written + 1, callerIdx := s.callerIdx + 1, callerPhase := .check }
  | processFail {s : Pipeline} {e : Error} : s.callerPhase = .write → check s.callerIdx = .ok () →
      Step s { s with callerPhase := .returned (some (s.callerIdx, e)), aborted := true }

/-- The verdict of the sequential loop on header `i`. `ValidateHeaderChain` runs its checks, then
the verification against the chain with none of the batch written; `insertChain` verifies
against the chain with the headers before `i` written, then runs the block's checks. -/
def sequentialVerdict (i : ℕ) : Except Error Unit :=
  match caller with
  | .insertChain => do
    verify i i
    check i
  | .validateHeaderChain => do
    check i
    verify 0 i

/-- The goroutine is between headers: waiting for `ready`, or returned after the last one. -/
def VerifierIdle (s : Pipeline) : Prop :=
  s.verPhase = .awaitReady ∨ (s.verPhase = .done ∧ n ≤ s.verIdx)

/-- The lock-step invariant, by the caller's phase. Before the caller sends `ready` for header
`i`, the goroutine is idle at `i` with both channels empty; while the caller waits, the
goroutine holds the signal, or verifies header `i` against the chain as it stands, or has sent
that one verdict; while `insertChain` checks and writes, the goroutine is idle at `i + 1`. A
returned caller stopped at a header that fails the sequential loop, or, for `insertChain`, at one
that passed it, and the goroutine has no signal left to take. -/
def PhaseInv (s : Pipeline) : CallerPhase → Prop
  | .check => s.ready = 0 ∧ s.results = [] ∧ s.verIdx = s.callerIdx ∧ VerifierIdle n s ∧
      s.aborted = false ∧ s.received.length = s.callerIdx ∧
      s.written = caller.writtenBefore s.callerIdx
  | .awaitResult => s.aborted = false ∧ s.received.length = s.callerIdx ∧ s.callerIdx < n ∧
      (caller = .validateHeaderChain → check s.callerIdx = .ok ()) ∧
      s.written = caller.writtenBefore s.callerIdx ∧
      ((s.ready = 1 ∧ s.results = [] ∧ s.verIdx = s.callerIdx ∧ s.verPhase = .awaitReady) ∨
        (s.ready = 0 ∧ s.results = [] ∧ s.verIdx = s.callerIdx ∧
          s.verPhase = .sending (verify s.written s.callerIdx)) ∨
        (s.ready = 0 ∧ s.results = [verify s.written s.callerIdx] ∧
          s.verIdx = s.callerIdx + 1 ∧ VerifierIdle n s))
  | .write => caller = .insertChain ∧ s.ready = 0 ∧ s.results = [] ∧
      s.verIdx = s.callerIdx + 1 ∧ VerifierIdle n s ∧ s.aborted = false ∧ s.callerIdx < n ∧
      s.received.length = s.callerIdx + 1 ∧ s.received[s.callerIdx]? = some (.ok ()) ∧
      s.written = s.callerIdx
  | .returned none => s.aborted = true ∧ s.ready = 0 ∧
      (s.verPhase = .awaitReady ∨ s.verPhase = .done) ∧ n ≤ s.callerIdx
  | .returned (some (i, e)) => s.aborted = true ∧ s.ready = 0 ∧
      (s.verPhase = .awaitReady ∨ s.verPhase = .done) ∧ i = s.callerIdx ∧ i < n ∧
      (sequentialVerdict caller verify check i = .error e ∨
        caller = .insertChain ∧ sequentialVerdict caller verify check i = .ok ())

/-- The invariant of every reachable state: each verdict received is the verification of its
header against the chain with `writtenBefore` headers written, every header before the caller's
passed both its checks, and the parties are in lock step. -/
structure Inv (s : Pipeline) : Prop where
  received : ∀ j r, s.received[j]? = some r → r = verify (caller.writtenBefore j) j
  passed : ∀ j < s.callerIdx, check j = .ok () ∧ s.received[j]? = some (.ok ())
  phase : PhaseInv caller n verify check s s.callerPhase

section Sequential

variable {caller verify check} {i : ℕ}

/-- A header that passes its checks and its verification passes the sequential loop. -/
theorem sequentialVerdict_ok (hchk : check i = .ok ())
    (hv : verify (caller.writtenBefore i) i = .ok ()) :
    sequentialVerdict caller verify check i = .ok () := by
  cases caller <;> simp only [sequentialVerdict, HeaderCaller.writtenBefore] at hv ⊢ <;>
    rw [hv, hchk] <;> rfl

/-- `ValidateHeaderChain` fails on a header whose checks fail. -/
theorem sequentialVerdict_of_check {e : Error} (hc : caller = .validateHeaderChain)
    (hchk : check i = .error e) : sequentialVerdict caller verify check i = .error e := by
  subst hc
  simp only [sequentialVerdict, hchk]
  rfl

/-- A header whose verification fails fails the loop, once `ValidateHeaderChain`'s checks have
passed. -/
theorem sequentialVerdict_of_verify {e : Error}
    (hchk : caller = .validateHeaderChain → check i = .ok ())
    (hv : verify (caller.writtenBefore i) i = .error e) :
    sequentialVerdict caller verify check i = .error e := by
  cases caller with
  | insertChain =>
    simp only [sequentialVerdict, HeaderCaller.writtenBefore] at hv ⊢
    rw [hv]
    rfl
  | validateHeaderChain =>
    simp only [sequentialVerdict, HeaderCaller.writtenBefore] at hv ⊢
    rw [hchk rfl, hv]
    rfl

/-- `insertChain` fails on a block whose checks fail after its header verified. -/
theorem sequentialVerdict_of_blockCheck {e : Error} (hc : caller = .insertChain)
    (hv : verify (caller.writtenBefore i) i = .ok ()) (hchk : check i = .error e) :
    sequentialVerdict caller verify check i = .error e := by
  subst hc
  simp only [sequentialVerdict, HeaderCaller.writtenBefore] at hv ⊢
  rw [hv, hchk]
  rfl

end Sequential

section Invariant

variable {caller n verify check}

theorem VerifierIdle.halted {s : Pipeline} (h : VerifierIdle n s) :
    s.verPhase = .awaitReady ∨ s.verPhase = .done :=
  h.imp id And.left

theorem inv_init : Inv caller n verify check init where
  received j r h := by simp [init] at h
  passed j hj := absurd hj (Nat.not_lt_zero j)
  phase := ⟨rfl, rfl, rfl, Or.inl rfl, rfl, rfl, caller.writtenBefore_zero.symm⟩

/-- Taking the verdict of the next header keeps the record of verdicts faithful. -/
theorem received_append {l : List (Except Error Unit)} {f : ℕ → Except Error Unit}
    (hl : ∀ j r, l[j]? = some r → r = f j) {a : Except Error Unit} (ha : a = f l.length) :
    ∀ j r, (l ++ [a])[j]? = some r → r = f j := by
  intro j r h
  rcases lt_trichotomy j l.length with hj | rfl | hj
  · exact hl j r (by rwa [List.getElem?_append_left hj] at h)
  · rw [List.getElem?_concat_length, Option.some.injEq] at h
    exact h ▸ ha
  · rw [List.getElem?_eq_none (by simp; omega)] at h
    cases h

theorem passed_append {l : List (Except Error Unit)} {k : ℕ} (hk : k ≤ l.length)
    (hl : ∀ j < k, check j = .ok () ∧ l[j]? = some (.ok ())) (a : Except Error Unit) :
    ∀ j < k, check j = .ok () ∧ (l ++ [a])[j]? = some (.ok ()) := by
  intro j hj
  rw [List.getElem?_append_left (by omega)]
  exact hl j hj

/-- The passed headers extend by one when the caller moves past a header that passed. -/
theorem passed_succ {l : List (Except Error Unit)} {k : ℕ}
    (hl : ∀ j < k, check j = .ok () ∧ l[j]? = some (.ok ())) (hk : check k = .ok ())
    (hlk : l[k]? = some (.ok ())) :
    ∀ j < k + 1, check j = .ok () ∧ l[j]? = some (.ok ()) := by
  intro j hj
  rcases Nat.lt_succ_iff_lt_or_eq.1 hj with hj | rfl
  · exact hl j hj
  · exact ⟨hk, hlk⟩

/-- A caller that has returned does not care where the goroutine is, as long as it holds no
signal: the goroutine returning keeps the caller's clause. -/
theorem phaseInv_returned_verDone {s : Pipeline} {f : Option (ℕ × Error)}
    (h : PhaseInv caller n verify check s (.returned f)) :
    PhaseInv caller n verify check { s with verPhase := .done } (.returned f) := by
  rcases f with _ | ⟨i, e⟩
  · exact ⟨h.1, h.2.1, Or.inr rfl, h.2.2.2⟩
  · exact ⟨h.1, h.2.1, Or.inr rfl, h.2.2.2⟩

/-- Only a returned caller has closed `abort`. -/
theorem phaseInv_aborted {s : Pipeline} {cp : CallerPhase} (hab : s.aborted = true)
    (h : PhaseInv caller n verify check s cp) : ∃ f, cp = .returned f := by
  rcases cp with _ | _ | _ | f
  · simp [PhaseInv, hab] at h
  · simp [PhaseInv, hab] at h
  · simp [PhaseInv, hab] at h
  · exact ⟨f, rfl⟩

/-- Every move keeps the invariant. The goroutine's moves change only its own fields and the
channels, so the caller's record is kept and the lock-step clause of the caller's phase is
re-established; each of the caller's moves starts from the one shape of the goroutine that its
phase allows. -/
theorem Inv.step {s t : Pipeline} (hinv : Inv caller n verify check s)
    (h : Step caller n verify check s t) : Inv caller n verify check t := by
  obtain ⟨hrecv, hpassed, hphase⟩ := hinv
  rcases s with ⟨vi, vp, rd, res, ab, ci, cp, wr, rc⟩
  dsimp only at hrecv hpassed hphase
  cases h with
  | recvReady hv hlt hrd =>
    refine ⟨hrecv, hpassed, ?_⟩
    dsimp only at hv hlt hrd ⊢
    -- only a waiting caller has a signal pending
    rcases cp with _ | _ | _ | _ | ⟨i, e⟩ <;> dsimp only [PhaseInv] at hphase ⊢
    · exact absurd hphase.1 (by omega)
    · obtain ⟨hab, hlen, hci, hchk, hwr, ⟨hrd1, hres, hvi, -⟩ | ⟨hrd0, -⟩ | ⟨hrd0, -⟩⟩ := hphase
      · exact ⟨hab, hlen, hci, hchk, hwr, Or.inr (Or.inl ⟨by omega, hres, hvi, by rw [hvi]⟩)⟩
      · omega
      · omega
    · exact absurd hphase.2.1 (by omega)
    · exact absurd hphase.2.1 (by omega)
    · exact absurd hphase.2.1 (by omega)
  | abortWait _ hab | abortSend _ hab =>
    -- the caller closed `abort` only when it returned
    obtain ⟨f, rfl⟩ := phaseInv_aborted hab hphase
    exact ⟨hrecv, hpassed, phaseInv_returned_verDone hphase⟩
  | finish hv hle =>
    refine ⟨hrecv, hpassed, ?_⟩
    dsimp only at hv hle
    rcases cp with _ | _ | _ | f
    case returned => exact phaseInv_returned_verDone hphase
    all_goals dsimp only [PhaseInv] at hphase ⊢
    · obtain ⟨h1, h2, h3, -, h5⟩ := hphase
      exact ⟨h1, h2, h3, Or.inr ⟨rfl, hle⟩, h5⟩
    · obtain ⟨hab, hlen, hci, hchk, hwr, ⟨-, -, hvi, -⟩ | ⟨-, -, -, hvp⟩ | ⟨hrd, hres, hvi, -⟩⟩ :=
        hphase
      · omega
      · rw [hv] at hvp; cases hvp
      · exact ⟨hab, hlen, hci, hchk, hwr, Or.inr (Or.inr ⟨hrd, hres, hvi, Or.inr ⟨rfl, hle⟩⟩)⟩
    · obtain ⟨h1, h2, h3, h4, -, h6⟩ := hphase
      exact ⟨h1, h2, h3, h4, Or.inr ⟨rfl, hle⟩, h6⟩
  | send hv hlen =>
    refine ⟨hrecv, hpassed, ?_⟩
    dsimp only at hv hlen ⊢
    subst hv
    -- only a caller waiting for this header's verdict lets the goroutine verify
    rcases cp with _ | _ | _ | _ | ⟨i, e⟩ <;> dsimp only [PhaseInv] at hphase ⊢
    · simp [VerifierIdle] at hphase
    · obtain ⟨hab, hlen, hci, hchk, hwr, ⟨-, -, -, hvp⟩ | ⟨hrd, hres, hvi, hvp⟩ | ⟨-, -, -, hidle⟩⟩ :=
        hphase
      · cases hvp
      · cases hvp
        subst hres hvi
        exact ⟨hab, hlen, hci, hchk, hwr, Or.inr (Or.inr ⟨hrd, rfl, rfl, Or.inl rfl⟩)⟩
      · simp [VerifierIdle] at hidle
    · simp [VerifierIdle] at hphase
    · simp at hphase
    · simp at hphase
  | checkFail hc hvhc hlt hchk =>
    dsimp only at hc hlt hchk
    subst hc
    dsimp only [PhaseInv] at hphase
    obtain ⟨hrd, -, -, hidle, -⟩ := hphase
    exact ⟨hrecv, hpassed, rfl, hrd, hidle.halted, rfl, hlt,
      Or.inl (sequentialVerdict_of_check hvhc hchk)⟩
  | sendReady hc hlt hchk _ =>
    dsimp only at hc hlt hchk
    subst hc
    dsimp only [PhaseInv] at hphase
    obtain ⟨hrd, hres, hvi, hidle, hab, hlen, hwr⟩ := hphase
    refine ⟨hrecv, hpassed, hab, hlen, hlt, hchk, hwr, Or.inl ⟨by simp [hrd], hres, hvi, ?_⟩⟩
    -- the goroutine has not returned: it is at the caller's index, inside the batch
    rcases hidle with hvp | ⟨-, hle : n ≤ vi⟩
    · exact hvp
    · omega
  | complete hc hle =>
    dsimp only at hc hle
    subst hc
    dsimp only [PhaseInv] at hphase
    obtain ⟨hrd, -, -, hidle, -⟩ := hphase
    exact ⟨hrecv, hpassed, rfl, hrd, hidle.halted, hle⟩
  | recvError hc hres =>
    dsimp only at hc hres
    subst hc
    dsimp only [PhaseInv] at hphase
    obtain ⟨-, hlen, hci, hchk, hwr, ⟨-, hres', -⟩ | ⟨-, hres', -⟩ | ⟨hrd, hres', -, hidle⟩⟩ :=
      hphase
    · simp [hres'] at hres
    · simp [hres'] at hres
    · rw [hres', List.cons_eq_cons] at hres
      obtain ⟨hv, -⟩ := hres
      refine ⟨received_append hrecv (by rw [hlen, ← hwr, hv]),
        passed_append hlen.ge hpassed _, rfl, hrd, hidle.halted, rfl, hci,
        Or.inl (sequentialVerdict_of_verify hchk ?_)⟩
      rw [← hwr, ← hv]
  | recvOk hc hres =>
    dsimp only at hc hres
    subst hc
    dsimp only [PhaseInv] at hphase
    obtain ⟨hab, hlen, hci, hchk, hwr, ⟨-, hres', -⟩ | ⟨-, hres', -⟩ | ⟨hrd, hres', hvi, hidle⟩⟩ :=
      hphase
    · simp [hres'] at hres
    · simp [hres'] at hres
    rw [hres', List.cons_eq_cons] at hres
    obtain ⟨hv, rfl⟩ := hres
    have hrecv' := received_append hrecv (by rw [hlen, ← hwr, hv])
    have hlast : (rc ++ [.ok ()])[ci]? = some (.ok ()) := by
      rw [← hlen, List.getElem?_concat_length]
    -- `insertChain` goes on to the block's checks, `ValidateHeaderChain` to the next header
    cases caller with
    | insertChain =>
      exact ⟨hrecv', passed_append hlen.ge hpassed _, rfl, hrd, rfl, hvi, hidle, hab, hci,
        by simp [hlen], hlast, hwr⟩
    | validateHeaderChain =>
      exact ⟨hrecv', passed_succ (passed_append hlen.ge hpassed _) (hchk rfl) hlast, hrd, rfl,
        hvi, hidle, hab, by simp [hlen], hwr⟩
  | blockCheckFail hc hchk =>
    dsimp only at hc hchk
    subst hc
    dsimp only [PhaseInv] at hphase
    obtain ⟨hins, hrd, -, -, hidle, -, hci, -, hlast, -⟩ := hphase
    -- the block's header passed: its verdict is the one received
    have hv := hrecv ci _ hlast
    exact ⟨hrecv, hpassed, rfl, hrd, hidle.halted, rfl, hci,
      Or.inl (sequentialVerdict_of_blockCheck hins hv.symm hchk)⟩
  | writeBlock hc hchk =>
    dsimp only at hc hchk
    subst hc
    dsimp only [PhaseInv] at hphase
    obtain ⟨rfl, hrd, hres, hvi, hidle, hab, hci, hlen, hlast, hwr⟩ := hphase
    exact ⟨hrecv, passed_succ hpassed hchk hlast, hrd, hres, hvi, hidle, hab, hlen,
      by rw [hwr]; rfl⟩
  | processFail hc hchk =>
    dsimp only at hc hchk
    subst hc
    dsimp only [PhaseInv] at hphase
    obtain ⟨hins, hrd, -, -, hidle, -, hci, -, hlast, -⟩ := hphase
    have hv := hrecv ci _ hlast
    exact ⟨hrecv, hpassed, rfl, hrd, hidle.halted, rfl, hci,
      Or.inr ⟨hins, sequentialVerdict_ok hchk hv.symm⟩⟩

/-- The invariant holds in every reachable state. -/
theorem reachable_inv {s : Pipeline}
    (hs : TransitionSystem.Reachable (Step caller n verify check) init s) :
    Inv caller n verify check s :=
  TransitionSystem.Reachable.invariant _ inv_init (fun _ _ hinv hst => hinv.step hst) hs

end Invariant

/-! ### What the callers observe -/

section Results

variable {caller n verify check}

/-- Every header before the caller's index passed the sequential loop. -/
theorem Inv.sequentialVerdict_of_lt {s : Pipeline} (hinv : Inv caller n verify check s) {j : ℕ}
    (hj : j < s.callerIdx) : sequentialVerdict caller verify check j = .ok () := by
  obtain ⟨hchk, hok⟩ := hinv.passed j hj
  exact sequentialVerdict_ok hchk (hinv.received j _ hok).symm

/-- The caller returns what the sequential loop over the batch returns, where header `i` is
verified against the chain with `writtenBefore i` headers written: the first header that fails
its checks or its verification, or none. `insertChain` may also stop at a header that passed,
when processing or writing its block fails. -/
theorem outcome_eq {s : Pipeline}
    (hs : TransitionSystem.Reachable (Step caller n verify check) init s)
    {f : Option (ℕ × Error)} (hf : s.callerPhase = .returned f) :
    f = firstFailure (sequentialVerdict caller verify check) n ∨
      caller = .insertChain ∧ ∃ i e, f = some (i, e) ∧ i < n ∧
        firstFailure (sequentialVerdict caller verify check) (i + 1) = none := by
  have hinv := reachable_inv hs
  have hphase := hinv.phase
  rw [hf] at hphase
  rcases f with _ | ⟨i, e⟩
  · obtain ⟨-, -, -, hle⟩ := hphase
    exact Or.inl (firstFailure_eq_none_iff.2 fun j hj => hinv.sequentialVerdict_of_lt (by omega)).symm
  · obtain ⟨-, -, -, rfl, hi, hfail | ⟨hins, hpass⟩⟩ := hphase
    · exact Or.inl (firstFailure_eq_some hi (fun j => hinv.sequentialVerdict_of_lt) hfail).symm
    · -- the block passed the loop and failed in processing
      refine Or.inr ⟨hins, _, e, rfl, hi, firstFailure_eq_none_iff.2 fun j hj => ?_⟩
      rcases Nat.lt_succ_iff_lt_or_eq.1 hj with hj | rfl
      · exact hinv.sequentialVerdict_of_lt hj
      · exact hpass

end Results

end Pipeline

/-! ### Two fresh headers -/

/-- A header hash that tells the headers below apart by their number; every other hash is zero,
so every recovered signer has address zero. -/
def batchHasher : Hasher :=
  ⟨fun h => BitVec.ofNat 256 (h.number + 1), fun _ => 0, fun _ => 0, fun _ => 0⟩

/-- Every block's state: each account holds one coin, nothing is blacklisted. -/
def batchState : StateDB where
  balance _ := minStake
  nonce _ := 0
  storage _ _ := 0
  codeSize _ := 0

/-- The first header of the batch: the migration block at time 30 on a genesis at time 0. -/
def batchHeader1 : Header := migrationBlock batchHasher 0 30 100

/-- The chain with the genesis, under its hash 1, and the first `w` headers of the batch
written. -/
def batchReader (w : ℕ) : ChainReader where
  getHeader hash num :=
    if hash = 1 ∧ num = 0 then some (migrationGenesis 0)
    else if 1 ≤ w ∧ hash = 2 ∧ num = 1 then some batchHeader1
    else none
  calculateBlockState _ _ := some batchState

/-- The second header: block 2 at time 90, minted by address zero with a stake weight of one
coin, with the difficulty `VerifyHeader` computes and a signature with `r = s = 1`, `v = 0`. -/
def batchHeader2 : Header where
  parentHash := 2
  uncleHash := 0
  coinbase := 0
  root := 0
  difficulty := calcPoSDifficultyV1 (batchReader 1) 90 batchHeader1
    (calcTimeTarget (batchReader 1) 100 batchHeader1)
  number := 2
  gasLimit := minGasLimit
  gasUsed := 0
  time := 90
  extra := []
  mixDigest := 0
  nonce := 1
  signature := bytesBE 32 1 ++ bytesBE 32 1 ++ [0]

/-- The batch. -/
def batchHeader : ℕ → Header
  | 0 => batchHeader1
  | _ => batchHeader2

/-- `VerifyHeader` of header `i` of the batch against the chain with `w` of its headers written,
at the clock reading 100, with the seal mask of `ValidateHeaderChain` for two headers: only the
last seal is checked. -/
def batchVerify (w i : ℕ) : Except Error Unit :=
  Range.new.verifyHeader batchHasher (fun _ _ => .ok (List.replicate 65 4))
    ⟨fun _ _ _ _ gas _ db => ⟨[], gas, 0, none, db⟩⟩ ⟨none, 0⟩ (batchReader w) 8 100
    (batchHeader i) (i == 1)

/-- No header of the batch is a bad hash or conflicts with a checkpoint. -/
def batchCheck (_ : ℕ) : Except Error Unit := .ok ()

open Pipeline in
/-- `ValidateHeaderChain` rejects a contiguous batch of two fresh headers that are valid one by
one. Each header passes `VerifyHeader` against the chain holding its predecessors, so the
sequential loop, which `insertChain` follows, accepts the batch. `ValidateHeaderChain` sends
`ready` for the second header before the first is written, the goroutine finds no parent for it,
and every run returns `ErrUnknownAncestor` at index 1, as one run does. -/
theorem validateHeaderChain_unknown_ancestor :
    (batchHeader 1).parentHash = batchHasher.headerHash (batchHeader 0) ∧
      firstFailure (sequentialVerdict .insertChain batchVerify batchCheck) 2 = none ∧
      (∀ s f, TransitionSystem.Reachable (Step .validateHeaderChain 2 batchVerify batchCheck)
        init s → s.callerPhase = .returned f → f = some (1, .errUnknownAncestor)) ∧
      ∃ s, TransitionSystem.Reachable (Step .validateHeaderChain 2 batchVerify batchCheck) init s ∧
        s.callerPhase = .returned (some (1, .errUnknownAncestor)) := by
  refine ⟨rfl, by decide, fun s f hs hf => ?_, ?_⟩
  · rcases outcome_eq hs hf with rfl | ⟨hins, -⟩
    · decide
    · cases hins
  · -- the run: header 0 is verified and passes, then header 1 is verified against the same chain
    exact ⟨_, ((((((((TransitionSystem.Reachable.refl init).tail
      (.sendReady rfl (by decide) (fun _ => rfl) (by decide))).tail
      (.recvReady rfl (by decide) (by decide))).tail
      (.send rfl (by decide))).tail
      (@Step.recvOk .validateHeaderChain 2 batchVerify batchCheck _ [] rfl (by decide))).tail
      (.sendReady rfl (by decide) (fun _ => rfl) (by decide))).tail
      (.recvReady rfl (by decide) (by decide))).tail
      (.send rfl (by decide))).tail
      (@Step.recvError .validateHeaderChain 2 batchVerify batchCheck _ .errUnknownAncestor [] rfl
        (by decide)), rfl⟩

end RangeCore.Consensus
