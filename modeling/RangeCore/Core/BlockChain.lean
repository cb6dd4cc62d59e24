import RangeCore.Core.Checkpoints

/-!
# The canonical chain, fork choice and checkpoint enforcement

`BlockChain` of `core/blockchain.go` as the checkpoints see it: the blocks and total difficulties
in the database, the canonical number index, the current block, and the checkpoint manager.
`WriteBlockWithState` stores a block and its total difficulty and makes it the head when its
total difficulty is higher than the head's, reorganising the canonical index onto its chain with
`reorg`. `insertChain` imports a batch, checking each block against the checkpoints with
`checkpointManager.validate` before it is processed and written. `AddCheckpoint` stores a
checkpoint in the manager and `EnforceCheckpoint` reorganises the chain onto the checkpointed
block when the canonical block at its number differs, or rewinds the chain below it when the
block is unknown.

The verdict of the header verification of a block and the result of processing it are the
parameters `verifyHeader` and `process`, functions of the chain as it stands; the coin
`mrand.Float64() < 0.5` of the tie-break between blocks of equal number and total difficulty is
the parameter `draw`.

## Main definitions

* `RangeCore.BlockChain`, `RangeCore.BlockChain.getHeaderByNumber`.
* `RangeCore.BlockChain.reorg`, `RangeCore.BlockChain.writeBlockWithState`,
  `RangeCore.BlockChain.insertChain`.
* `RangeCore.BlockChain.setHead`, `RangeCore.BlockChain.enforceCheckpoint`,
  `RangeCore.BlockChain.addCheckpoint`.
* `RangeCore.ChainCall`, `RangeCore.BlockChain.exec`, `RangeCore.BlockChain.CheckpointsPinned`.

## Main results

* `RangeCore.BlockChain.addCheckpoint_checkpoints`: the chain's `AddCheckpoint` runs the manager's
  `addCheckpoint` on the chain it reads.
* `RangeCore.BlockChain.reorg_ok`: a reorganisation makes the new block the head, canonical at its
  number.
* `RangeCore.BlockChain.writeBlockWithState_ok`: a written block is stored with its total
  difficulty, and is the head exactly when the fork choice prefers it.
* `RangeCore.BlockChain.Keyed.runCalls`: every call keeps each stored block under its own hash.
* `RangeCore.BlockChain.enforceCheckpoint_pins`: enforcing a checkpoint whose block is known puts
  it on the canonical chain.
* `RangeCore.BlockChain.checkpoint_undone_by_import`: a later import takes it off again.
-/

namespace RangeCore

/-- `WriteStatus` of a block written without error. -/
inductive WriteStatus where
  | canonStatTy
  | sideStatTy
  deriving DecidableEq, Repr

/-- The block chain: the blocks and total difficulties stored in the database by hash, the
canonical hash of each number, the current block, the genesis block, the `shouldPreserve`
predicate of a mining node, and the checkpoint manager. -/
structure BlockChain where
  blocks : Hash → Option Header
  td : Hash → Option ℕ
  canonical : ℕ → Option Hash
  currentBlock : Header
  genesisBlock : Header
  shouldPreserve : Header → Bool
  checkpoints : CheckpointManager

namespace BlockChain

variable (hasher : Hasher)

/-- `GetBlock`: the stored block with this hash, at this number. -/
def getBlock (bc : BlockChain) (hash : Hash) (number : ℕ) : Option Header :=
  (bc.blocks hash).filter fun b => b.number == number

/-- `GetHeaderByNumber`: the canonical block at a number. -/
def getHeaderByNumber (bc : BlockChain) (number : ℕ) : Option Header :=
  (bc.canonical number).bind fun hash => bc.getBlock hash number

/-- `insert`: the block becomes canonical at its number and the current block. -/
def insert (bc : BlockChain) (block : Header) : BlockChain :=
  { bc with
    canonical := Function.update bc.canonical block.number (some (hasher.headerHash block))
    currentBlock := block }

/-! ### Reorganisation -/

/-- The first loop of `reorg`: `block` steps to its parent until it is at `number`, and the blocks
it leaves are stashed, oldest first. A missing parent ends the loop with `none`. -/
def reduceChain (bc : BlockChain) (number : ℕ) :
    ℕ → Header → List Header → Except Error (Option (Header × List Header))
  | 0, _, _ => .error .loopBound
  | fuel + 1, block, stash =>
    if block.number = number then .ok (some (block, stash))
    else
      match bc.getBlock block.parentHash (block.number - 1) with
      | some parent => reduceChain bc number fuel parent (block :: stash)
      | none => .ok none

/-- The second loop of `reorg`: both sides at the same number step back together until they meet
at the common ancestor; the new side's blocks are stashed, oldest first. -/
def commonAncestor (bc : BlockChain) :
    ℕ → Header → Header → List Header → Except Error (List Header)
  | 0, _, _, _ => .error .loopBound
  | fuel + 1, oldBlock, newBlock, newChain =>
    if hasher.headerHash oldBlock = hasher.headerHash newBlock then .ok newChain
    else
      match bc.getBlock oldBlock.parentHash (oldBlock.number - 1) with
      | none => .error .invalidOldChain
      | some oldParent =>
        match bc.getBlock newBlock.parentHash (newBlock.number - 1) with
        | none => .error .invalidNewChain
        | some newParent => commonAncestor bc fuel oldParent newParent (newBlock :: newChain)

/-- The two loops of `reorg`: the longer side walks down to the other's number, then both walk
down to the common ancestor; the new chain's blocks above it, oldest first. -/
def reorgChain (bc : BlockChain) (oldBlock newBlock : Header) : Except Error (List Header) :=
  let fuel := oldBlock.number + newBlock.number + 1
  if oldBlock.number > newBlock.number then
    match reduceChain bc newBlock.number fuel oldBlock [] with
    | .ok (some (oldBlock, _)) => commonAncestor hasher bc fuel oldBlock newBlock []
    | .ok none => .error .invalidOldChain
    | .error e => .error e
  else
    match reduceChain bc oldBlock.number fuel newBlock [] with
    | .ok (some (newBlock, newChain)) => commonAncestor hasher bc fuel oldBlock newBlock newChain
    | .ok none => .error .invalidNewChain
    | .error e => .error e

/-- `reorg`: the canonical index is rewritten along the new chain from above the common ancestor
up to `newBlock`, which becomes the current block. Canonical hashes above `newBlock` are left as
they are. -/
def reorg (bc : BlockChain) (oldBlock newBlock : Header) : Except Error BlockChain := do
  let newChain ← reorgChain hasher bc oldBlock newBlock
  -- `newChain` is oldest first: the Go loop inserts its slice from the end
  pure (newChain.foldl (insert hasher) bc)

/-! ### Writing and importing blocks -/

variable (draw : Header → Bool)

/-- Whether `WriteBlockWithState` makes a block of total difficulty `externTd` canonical over the
current block of total difficulty `localTd`: a higher total difficulty wins; on a tie, a lower
number wins, and at the same number a preserved block or the coin. -/
def preferBlock (bc : BlockChain) (block : Header) (externTd localTd : ℕ) : Bool :=
  externTd > localTd ||
    (externTd == localTd &&
      (block.number < bc.currentBlock.number ||
        (block.number == bc.currentBlock.number &&
          (!bc.shouldPreserve bc.currentBlock && (bc.shouldPreserve block || draw block)))))

/-- `WriteBlockWithState`: the block and its total difficulty are stored whatever the outcome;
when the fork choice prefers it, the chain is reorganised onto it unless it extends the current
block, and it is inserted as the head. -/
def writeBlockWithState (bc : BlockChain) (block : Header) :
    BlockChain × Except Error WriteStatus :=
  match bc.td block.parentHash with
  | none => (bc, .error .errUnknownAncestor)
  | some ptd =>
    match bc.td (hasher.headerHash bc.currentBlock) with
    | none => (bc, .error .nilDereference)
    | some localTd =>
      let externTd := block.difficulty + ptd
      let bc' := { bc with
        td := Function.update bc.td (hasher.headerHash block) (some externTd)
        blocks := Function.update bc.blocks (hasher.headerHash block) (some block) }
      if preferBlock draw bc block externTd localTd then
        let reorged := if block.parentHash ≠ hasher.headerHash bc.currentBlock then
            reorg hasher bc' bc.currentBlock block
          else .ok bc'
        match reorged with
        | .error e => (bc', .error e)
        | .ok bc'' => (insert hasher bc'' block, .ok .canonStatTy)
      else (bc', .ok .sideStatTy)

/-- The chain as `checkpointManager.validate` reads it: canonical blocks by number and the current
header. -/
def validateChain (bc : BlockChain) : CheckpointValidateChain where
  getHeaderByNumber n := bc.getHeaderByNumber n.toNat
  currentHeader := bc.currentBlock

variable (verifyHeader process : BlockChain → Header → Except Error Unit)

/-- The import loop of `insertChain` over a batch: each block's header verdict, its check against
the checkpoints, its processing and its write, stopping at the first error. -/
def insertChain (bc : BlockChain) : List Header → BlockChain × Except Error Unit
  | [] => (bc, .ok ())
  | block :: blocks =>
    match verifyHeader bc block with
    | .error e => (bc, .error e)
    | .ok () =>
      let (cm, r) := bc.checkpoints.validate hasher bc.validateChain (UInt64.ofNat block.number)
        (hasher.headerHash block)
      let bc := { bc with checkpoints := cm }
      match r with
      | .error e => (bc, .error e)
      | .ok () =>
        match process bc block with
        | .error e => (bc, .error e)
        | .ok () =>
          match writeBlockWithState hasher draw bc block with
          | (bc, .error e) => (bc, .error e)
          | (bc, .ok _) => insertChain bc blocks

/-! ### Checkpoint enforcement -/

/-- The loop of `HeaderChain.SetHead`: the head header above `head` is deleted with its body and
total difficulty and the head moves to its parent; a missing parent ends the walk with `none`. -/
def rewind (bc : BlockChain) (head : ℕ) : ℕ → Header → BlockChain × Option Header
  | 0, hdr => (bc, some hdr)
  | fuel + 1, hdr =>
    if hdr.number > head then
      let bc' := { bc with
        blocks := Function.update bc.blocks (hasher.headerHash hdr) none
        td := Function.update bc.td (hasher.headerHash hdr) none }
      match bc.getBlock hdr.parentHash (hdr.number - 1) with
      | some parent => rewind bc' head fuel parent
      | none => (bc', none)
    else (bc, some hdr)

/-- `SetHead`: the head walks back to `head`, the canonical numbers above `head` up to the old head
are deleted, and the current block is the block of the new head header, or the genesis block when
the walk lost its way. -/
def setHead (bc : BlockChain) (head : ℕ) : BlockChain :=
  let height := bc.currentBlock.number
  let (bc, hdr) := rewind hasher bc head height bc.currentBlock
  let hdr := hdr.getD bc.genesisBlock
  { bc with
    canonical := fun i => if head < i ∧ i ≤ height then none else bc.canonical i
    currentBlock := if hdr.number < height then
        (bc.getBlock (hasher.headerHash hdr) hdr.number).getD bc.genesisBlock
      else bc.currentBlock }

/-- `EnforceCheckpoint`: when the canonical block at the checkpoint's number has another hash, the
chain is reorganised onto the checkpointed block if it is known, and rewound below the checkpoint
otherwise. -/
def enforceCheckpoint (bc : BlockChain) (cp : Checkpoint) : BlockChain × Except Error Unit :=
  match bc.getHeaderByNumber cp.number.toNat with
  | some header =>
    if hasher.headerHash header ≠ cp.hash then
      match bc.getBlock cp.hash cp.number.toNat with
      | some cpBlock =>
        match reorg hasher bc header cpBlock with
        | .ok bc' => (bc', .ok ())
        | .error e => (bc, .error e)
      | none => (setHead hasher bc (cp.number - 1).toNat, .ok ())
    else (bc, .ok ())
  | none => (bc, .ok ())

variable (ecrecover : Ecrecover) (cppSigner : Option Address)

/-- The chain as `addCheckpoint` reads it: the genesis hash, the configured checkpoint signer, and
`EnforceCheckpoint` with the current block it leaves. -/
def checkpointChain (bc : BlockChain) : CheckpointChain where
  genesisHash := hasher.headerHash bc.genesisBlock
  cppSigner := cppSigner
  enforceCheckpoint cp :=
    let (bc', err) := enforceCheckpoint hasher bc cp
    (err, bc'.currentBlock)

/-- `BlockChain.AddCheckpoint`: `checkpointManager.addCheckpoint` on this chain. The chain itself
changes only when the manager stores the checkpoint, by its enforcement. -/
def addCheckpoint (bc : BlockChain) (cp : Checkpoint) (sigs : List CheckpointSignature)
    (isLocal : Bool) : BlockChain × Except Error Unit :=
  let cm := bc.checkpoints
  if cm.isStale cp then (bc, .ok ())
  else if !isLocal ∧
      cp.number ≤ maxHardcodedCheckpoint
        ((rangeCheckpoints (hasher.headerHash bc.genesisBlock)).map Prod.fst) then
    (bc, .ok ())
  else
    match (if isLocal then .ok ()
        else CheckpointManager.checkCppSignature hasher ecrecover (checkpointChain hasher cppSigner bc)
          cp sigs) with
    | .error err => (bc, .error err)
    | .ok () =>
      let (bc', err) := enforceCheckpoint hasher bc cp
      ({ bc' with checkpoints := (cm.store cp sigs).updateLatest bc'.currentBlock cp }, err)

/-! ### What the operations do -/

/-- Every stored block is stored under its own hash. -/
def Keyed (bc : BlockChain) : Prop :=
  ∀ h b, bc.blocks h = some b → hasher.headerHash b = h

section Lemmas

variable {hasher}

theorem getBlock_eq_some {bc : BlockChain} {hash : Hash} {number : ℕ} {b : Header} :
    bc.getBlock hash number = some b ↔ bc.blocks hash = some b ∧ b.number = number := by
  simp [getBlock, Option.filter_eq_some_iff]

/-- On a keyed chain, the canonical block at a number is canonical under its own hash. -/
theorem Keyed.canonical_of_getHeaderByNumber {bc : BlockChain} (hk : Keyed hasher bc)
    {number : ℕ} {header : Header} (h : bc.getHeaderByNumber number = some header) :
    bc.canonical number = some (hasher.headerHash header) ∧ header.number = number := by
  obtain ⟨hash, hc, hb⟩ := Option.bind_eq_some_iff.1 h
  obtain ⟨hb, hnum⟩ := getBlock_eq_some.1 hb
  rw [hc, hk hash header hb]
  exact ⟨rfl, hnum⟩

/-- Inserting blocks changes only the canonical index and the current block. -/
theorem foldl_insert_frame (l : List Header) (bc : BlockChain) :
    ∃ canonical currentBlock, l.foldl (insert hasher) bc =
      { bc with canonical := canonical, currentBlock := currentBlock } := by
  induction l generalizing bc with
  | nil => exact ⟨bc.canonical, bc.currentBlock, rfl⟩
  | cons b l ih =>
    obtain ⟨canonical, currentBlock, h⟩ := ih (insert hasher bc b)
    exact ⟨canonical, currentBlock, h⟩

/-- After inserting blocks, the last one is the current block, canonical at its number. -/
theorem foldl_insert_head {l : List Header} {b : Header} (hl : l.getLast? = some b)
    (bc : BlockChain) :
    (l.foldl (insert hasher) bc).currentBlock = b ∧
      (l.foldl (insert hasher) bc).canonical b.number = some (hasher.headerHash b) := by
  obtain ⟨ys, rfl⟩ := List.getLast?_eq_some_iff.1 hl
  rw [List.foldl_append]
  simp [insert]

/-- The new side of `reorg` so far: nothing stashed while the walk is still at `newBlock`, or
stashed blocks ending in `newBlock`. -/
def Stashed (newBlock block : Header) (stash : List Header) : Prop :=
  (stash = [] ∧ block = newBlock) ∨ stash.getLast? = some newBlock

theorem Stashed.cons {newBlock block : Header} {stash : List Header}
    (h : Stashed newBlock block stash) (b : Header) : Stashed newBlock b (block :: stash) := by
  right
  rcases h with ⟨rfl, rfl⟩ | h
  · rfl
  · rw [List.getLast?_cons_of_ne_nil (by rintro rfl; simp at h)]
    exact h

/-- The first loop of `reorg` ends at the number it walks to, with the new side stashed. -/
theorem reduceChain_ok {bc : BlockChain} {number : ℕ} {newBlock : Header} {fuel : ℕ} :
    ∀ {block stash b l}, Stashed newBlock block stash →
      reduceChain bc number fuel block stash = .ok (some (b, l)) →
      b.number = number ∧ Stashed newBlock b l := by
  induction fuel with
  | zero => intro _ _ _ _ _ h; cases h
  | succ fuel ih =>
    intro block stash b l hs h
    unfold reduceChain at h
    split_ifs at h with hnum
    · cases h
      exact ⟨hnum, hs⟩
    · split at h
      · exact ih (hs.cons _) h
      · cases h

/-- Once blocks ending in `newBlock` are stashed, the second loop of `reorg` keeps them last. -/
theorem commonAncestor_getLast {bc : BlockChain} {newBlock : Header} {fuel : ℕ} :
    ∀ {oldBlock block chain l}, chain.getLast? = some newBlock →
      commonAncestor hasher bc fuel oldBlock block chain = .ok l → l.getLast? = some newBlock := by
  induction fuel with
  | zero => intro _ _ _ _ _ h; cases h
  | succ fuel ih =>
    intro oldBlock block chain l hl h
    unfold commonAncestor at h
    split_ifs at h
    · cases h
      exact hl
    · -- both sides step back, the new side's block stashed in front
      split at h
      · cases h
      · split at h
        · cases h
        · refine ih ?_ h
          rw [List.getLast?_cons_of_ne_nil (by rintro rfl; simp at hl)]
          exact hl

/-- The second loop of `reorg` returns nothing only when both sides already met. -/
theorem commonAncestor_ok {bc : BlockChain} {fuel : ℕ} {oldBlock newBlock block : Header}
    {chain l : List Header} (hs : Stashed newBlock block chain)
    (h : commonAncestor hasher bc fuel oldBlock block chain = .ok l) :
    (l = [] ∧ chain = [] ∧ hasher.headerHash oldBlock = hasher.headerHash block) ∨
      l.getLast? = some newBlock := by
  rcases hs with ⟨rfl, rfl⟩ | hs
  · cases fuel with
    | zero => cases h
    | succ fuel =>
      unfold commonAncestor at h
      split_ifs at h with heq
      · cases h
        exact Or.inl ⟨rfl, rfl, heq⟩
      · split at h
        · cases h
        · split at h
          · cases h
          · exact Or.inr (commonAncestor_getLast rfl h)
  · exact Or.inr (commonAncestor_getLast hs h)

/-- `reorg` inserts a chain of blocks, oldest first, that ends in `newBlock` unless it is empty;
it is not empty when the new side is not shorter and the two blocks differ. -/
theorem reorg_ok {bc bc' : BlockChain} {oldBlock newBlock : Header}
    (h : reorg hasher bc oldBlock newBlock = .ok bc') :
    ∃ newChain : List Header, bc' = newChain.foldl (insert hasher) bc ∧
      (newChain = [] ∨ newChain.getLast? = some newBlock) ∧
      (oldBlock.number ≤ newBlock.number →
        hasher.headerHash oldBlock ≠ hasher.headerHash newBlock → newChain ≠ []) := by
  obtain ⟨newChain, hchain, h⟩ := Except.bind_eq_ok_iff.1 h
  refine ⟨newChain, (Except.ok.inj h).symm, ?_⟩
  have hne : newChain.getLast? = some newBlock → newChain ≠ [] := by
    rintro hl rfl
    cases hl
  unfold reorgChain at hchain
  dsimp only at hchain
  split_ifs at hchain with hlt
  · -- the old side is longer and walks down to the new block's number
    split at hchain
    · rcases commonAncestor_ok (Or.inl ⟨rfl, rfl⟩) hchain with ⟨rfl, -⟩ | hl
      · exact ⟨Or.inl rfl, fun hle => absurd hle (by omega)⟩
      · exact ⟨Or.inr hl, fun _ _ => hne hl⟩
    · cases hchain
    · cases hchain
  · -- the new side walks down to the old block's number, stashing what it leaves
    split at hchain
    · rename_i hr
      have hs := (reduceChain_ok (Or.inl ⟨rfl, rfl⟩) hr).2
      rcases commonAncestor_ok hs hchain with ⟨rfl, rfl, heq⟩ | hl
      · refine ⟨Or.inl rfl, fun _ hdiff => ?_⟩
        rcases hs with ⟨-, rfl⟩ | hs
        · exact absurd heq hdiff
        · cases hs
      · exact ⟨Or.inr hl, fun _ _ => hne hl⟩
    · cases hchain
    · cases hchain

/-- `reorg` changes only the canonical index and the current block. -/
theorem reorg_frame {bc bc' : BlockChain} {oldBlock newBlock : Header}
    (h : reorg hasher bc oldBlock newBlock = .ok bc') :
    ∃ canonical currentBlock, bc' = { bc with canonical := canonical, currentBlock := currentBlock } := by
  obtain ⟨newChain, rfl, -⟩ := reorg_ok h
  exact foldl_insert_frame newChain bc

/-- What a successful `WriteBlockWithState` did: the block is stored with the total difficulty
of its parent plus its own; it is the head, canonical at its number, exactly when the fork choice
prefers it, and otherwise the canonical index and the head are unchanged. -/
theorem writeBlockWithState_ok {bc bc' : BlockChain} {block : Header} {status : WriteStatus}
    (h : writeBlockWithState hasher draw bc block = (bc', .ok status)) :
    ∃ ptd localTd, bc.td block.parentHash = some ptd ∧
      bc.td (hasher.headerHash bc.currentBlock) = some localTd ∧
      bc'.td = Function.update bc.td (hasher.headerHash block) (some (block.difficulty + ptd)) ∧
      bc'.blocks = Function.update bc.blocks (hasher.headerHash block) (some block) ∧
      bc'.checkpoints = bc.checkpoints ∧
      (status = .canonStatTy ↔ preferBlock draw bc block (block.difficulty + ptd) localTd) ∧
      (status = .canonStatTy → bc'.currentBlock = block ∧
        bc'.canonical block.number = some (hasher.headerHash block)) ∧
      (status = .sideStatTy → bc'.currentBlock = bc.currentBlock ∧ bc'.canonical = bc.canonical) := by
  unfold writeBlockWithState at h
  rcases hp : bc.td block.parentHash with _ | ptd <;> rw [hp] at h
  · cases h
  rcases hl : bc.td (hasher.headerHash bc.currentBlock) with _ | localTd <;> rw [hl] at h
  · cases h
  refine ⟨ptd, localTd, rfl, rfl, ?_⟩
  dsimp only at h
  by_cases hpref : preferBlock draw bc block (block.difficulty + ptd) localTd = true
  · rw [if_pos hpref] at h
    split at h
    · cases h
    · rename_i bc'' hre
      -- the reorganisation, if any, changes only the canonical index and the head
      obtain ⟨canonical, currentBlock, rfl⟩ : ∃ canonical currentBlock, bc'' =
          { bc with
            td := Function.update bc.td (hasher.headerHash block) (some (block.difficulty + ptd))
            blocks := Function.update bc.blocks (hasher.headerHash block) (some block)
            canonical := canonical, currentBlock := currentBlock } := by
        split_ifs at hre
        · exact reorg_frame hre
        · cases hre
          exact ⟨_, _, rfl⟩
      cases h
      simp [insert, hpref]
  · rw [if_neg hpref] at h
    cases h
    simp [hpref]

/-! ### Stored blocks stay keyed -/

theorem Keyed.frame {bc bc' : BlockChain} (hk : Keyed hasher bc) (hb : bc'.blocks = bc.blocks) :
    Keyed hasher bc' := by
  intro h b hhb
  rw [hb] at hhb
  exact hk h b hhb

/-- An update of one hash keeps the store keyed when what it writes is that hash's block. -/
theorem Keyed.update {bc bc' : BlockChain} (hk : Keyed hasher bc) {hash : Hash}
    {v : Option Header} (hv : ∀ b, v = some b → hasher.headerHash b = hash)
    (hb : bc'.blocks = Function.update bc.blocks hash v) : Keyed hasher bc' := by
  intro h b hhb
  rw [hb] at hhb
  by_cases hh : h = hash
  · subst hh
    rw [Function.update_self] at hhb
    exact hv b hhb
  · rw [Function.update_of_ne hh] at hhb
    exact hk h b hhb

theorem Keyed.write {bc bc' : BlockChain} (hk : Keyed hasher bc) {block : Header}
    (hb : bc'.blocks = Function.update bc.blocks (hasher.headerHash block) (some block)) :
    Keyed hasher bc' :=
  hk.update (fun b hblock => by rw [Option.some.inj hblock]) hb

theorem Keyed.delete {bc bc' : BlockChain} (hk : Keyed hasher bc) {hash : Hash}
    (hb : bc'.blocks = Function.update bc.blocks hash none) : Keyed hasher bc' :=
  hk.update (fun b hnone => absurd hnone.symm (Option.some_ne_none b)) hb

theorem Keyed.writeBlockWithState {bc : BlockChain} (hk : Keyed hasher bc) (block : Header) :
    Keyed hasher (writeBlockWithState hasher draw bc block).1 := by
  unfold BlockChain.writeBlockWithState
  split
  · exact hk
  · split
    · exact hk
    · dsimp only
      split_ifs with hpref hpar
      · -- reorganised onto the block
        split
        · exact hk.write rfl
        · rename_i bc'' hre
          obtain ⟨canonical, currentBlock, rfl⟩ := reorg_frame hre
          exact hk.write rfl
      · split
        · exact hk.write rfl
        · rename_i bc'' hre
          cases hre
          exact hk.write rfl
      · exact hk.write rfl

theorem Keyed.of_writeBlockWithState_eq {bc bc' : BlockChain} {block : Header}
    {r : Except Error WriteStatus} (h : BlockChain.writeBlockWithState hasher draw bc block = (bc', r))
    (hk : Keyed hasher bc) : Keyed hasher bc' := by
  have hw := hk.writeBlockWithState draw block
  rw [h] at hw
  exact hw

theorem Keyed.insertChain {blocks : List Header} :
    ∀ {bc : BlockChain}, Keyed hasher bc →
      Keyed hasher (BlockChain.insertChain hasher draw verifyHeader process bc blocks).1 := by
  induction blocks with
  | nil => exact id
  | cons block blocks ih =>
    intro bc hk
    unfold BlockChain.insertChain
    split
    · exact hk
    · dsimp only
      split
      · exact hk.frame rfl
      · split
        · exact hk.frame rfl
        · split
          · rename_i hw
            exact Keyed.of_writeBlockWithState_eq draw hw (hk.frame rfl)
          · rename_i hw
            exact ih (Keyed.of_writeBlockWithState_eq draw hw (hk.frame rfl))

end Lemmas

end BlockChain

/-- A call of the block chain's import and checkpoint interface. -/
inductive ChainCall where
  | insertChain (blocks : List Header)
  | addCheckpoint (cp : Checkpoint) (sigs : List CheckpointSignature) (isLocal : Bool)

namespace BlockChain

variable (hasher : Hasher) (draw : Header → Bool)
  (verifyHeader process : BlockChain → Header → Except Error Unit) (ecrecover : Ecrecover)
  (cppSigner : Option Address)

/-- One call: the new chain and the call's result. -/
def exec (bc : BlockChain) : ChainCall → BlockChain × Except Error Unit
  | .insertChain blocks => insertChain hasher draw verifyHeader process bc blocks
  | .addCheckpoint cp sigs isLocal => addCheckpoint hasher ecrecover cppSigner bc cp sigs isLocal

/-- The chain after the calls `calls`, in order. -/
def runCalls (bc : BlockChain) (calls : List ChainCall) : BlockChain :=
  StateMachine.run (fun bc call => (exec hasher draw verifyHeader process ecrecover cppSigner bc
    call).1) bc calls

/-- Every validated checkpoint at or below the current block is the canonical block at its
number. -/
def CheckpointsPinned (bc : BlockChain) : Prop :=
  ∀ n v, bc.checkpoints.validated n = some v → n.toNat ≤ bc.currentBlock.number →
    bc.canonical n.toNat = some v.checkpoint.hash

/-! ### Calls keep the store keyed; enforcement pins the checkpoint -/

section CallLemmas

variable {hasher}

theorem Keyed.rewind {head fuel : ℕ} :
    ∀ {bc : BlockChain} {hdr : Header}, Keyed hasher bc →
      Keyed hasher (BlockChain.rewind hasher bc head fuel hdr).1 := by
  induction fuel with
  | zero => exact fun hk => hk
  | succ fuel ih =>
    intro bc hdr hk
    unfold BlockChain.rewind
    split_ifs
    · split
      · exact ih (hk.delete rfl)
      · exact hk.delete rfl
    · exact hk

theorem Keyed.setHead {bc : BlockChain} (hk : Keyed hasher bc) (head : ℕ) :
    Keyed hasher (BlockChain.setHead hasher bc head) := by
  unfold BlockChain.setHead
  dsimp only
  exact hk.rewind.frame rfl

theorem Keyed.enforceCheckpoint {bc : BlockChain} (hk : Keyed hasher bc) (cp : Checkpoint) :
    Keyed hasher (BlockChain.enforceCheckpoint hasher bc cp).1 := by
  unfold BlockChain.enforceCheckpoint
  split
  · split_ifs
    · split
      · split
        · rename_i hre
          obtain ⟨canonical, currentBlock, rfl⟩ := reorg_frame hre
          exact hk.frame rfl
        · exact hk
      · exact hk.setHead _
    · exact hk
  · exact hk

theorem Keyed.addCheckpoint {bc : BlockChain} (hk : Keyed hasher bc) (cp : Checkpoint)
    (sigs : List CheckpointSignature) (isLocal : Bool) :
    Keyed hasher (BlockChain.addCheckpoint hasher ecrecover cppSigner bc cp sigs isLocal).1 := by
  unfold BlockChain.addCheckpoint
  dsimp only
  split_ifs
  · exact hk
  · exact hk
  all_goals
    split
    · exact hk
    · exact (hk.enforceCheckpoint cp).frame rfl

theorem Keyed.exec {bc : BlockChain} (hk : Keyed hasher bc) (call : ChainCall) :
    Keyed hasher (exec hasher draw verifyHeader process ecrecover cppSigner bc call).1 := by
  cases call with
  | insertChain blocks => exact hk.insertChain draw verifyHeader process
  | addCheckpoint cp sigs isLocal => exact hk.addCheckpoint ecrecover cppSigner cp sigs isLocal

/-- Every chain reached by calls from a keyed chain is keyed. -/
theorem Keyed.runCalls {bc : BlockChain} (hk : Keyed hasher bc) (calls : List ChainCall) :
    Keyed hasher (runCalls hasher draw verifyHeader process ecrecover cppSigner bc calls) :=
  StateMachine.run_invariant _ (Keyed hasher) hk
    (fun _ call hk => hk.exec draw verifyHeader process ecrecover cppSigner call) calls

/-- `EnforceCheckpoint` does what it is for: on a keyed chain with a canonical block at the
checkpoint's number and the checkpointed block known, a successful enforcement leaves the
checkpointed block canonical at its number. -/
theorem enforceCheckpoint_pins {bc bc' : BlockChain} {cp : Checkpoint} {header cpBlock : Header}
    (hk : Keyed hasher bc) (hcanon : bc.getHeaderByNumber cp.number.toNat = some header)
    (hknown : bc.getBlock cp.hash cp.number.toNat = some cpBlock)
    (h : enforceCheckpoint hasher bc cp = (bc', .ok ())) :
    bc'.canonical cp.number.toNat = some cp.hash := by
  obtain ⟨hc, hnum⟩ := hk.canonical_of_getHeaderByNumber hcanon
  obtain ⟨hb, hcpnum⟩ := getBlock_eq_some.1 hknown
  have hcphash : hasher.headerHash cpBlock = cp.hash := hk _ _ hb
  unfold enforceCheckpoint at h
  rw [hcanon] at h
  dsimp only at h
  split_ifs at h with hne
  · -- the canonical block differs: the chain is reorganised onto the checkpointed block
    rw [hknown] at h
    dsimp only at h
    split at h
    · rename_i bc'' hre
      cases h
      obtain ⟨newChain, rfl, hlast, hnonempty⟩ := reorg_ok hre
      have hlast : newChain.getLast? = some cpBlock :=
        hlast.resolve_left (hnonempty (by omega) (by rwa [hcphash]))
      rw [← hcpnum, ← hcphash]
      exact (foldl_insert_head hlast bc).2
    · cases h
  · -- the canonical block is already the checkpointed one
    cases h
    rw [hc, not_not.1 hne]

/-- The chain's `AddCheckpoint` is the manager's `addCheckpoint` on the chain it reads: the same
manager afterwards and the same result, so the manager's safety covers it. -/
theorem addCheckpoint_checkpoints (bc : BlockChain) (cp : Checkpoint)
    (sigs : List CheckpointSignature) (isLocal : Bool) :
    ((addCheckpoint hasher ecrecover cppSigner bc cp sigs isLocal).1.checkpoints,
        (addCheckpoint hasher ecrecover cppSigner bc cp sigs isLocal).2) =
      bc.checkpoints.addCheckpoint hasher ecrecover (checkpointChain hasher cppSigner bc) cp sigs
        isLocal := by
  unfold addCheckpoint CheckpointManager.addCheckpoint
  -- the signature check is the same on both sides
  generalize CheckpointManager.checkCppSignature hasher ecrecover
    (checkpointChain hasher cppSigner bc) cp sigs = sig
  unfold checkpointChain
  dsimp only
  split_ifs
  · rfl
  · rfl
  · rfl
  · rcases sig with e | ⟨⟩
    · rfl
    · rfl

end CallLemmas

/-! ### A checkpoint undone by an import -/

/-- A header hash that names each block below by its mix digest; every other hash is zero, so every
recovered key has address zero. -/
def tagHasher : Hasher := ⟨fun h => h.mixDigest, fun _ => 0, fun _ => 0, fun _ => 0⟩

/-- A block at `number` with parent `parent`, named `tag`, of difficulty `difficulty`. -/
def tagBlock (number : ℕ) (parent tag : Hash) (difficulty : ℕ) : Header where
  parentHash := parent
  uncleHash := 0
  coinbase := 0
  root := 0
  difficulty := difficulty
  number := number
  gasLimit := 0
  gasUsed := 0
  time := 0
  extra := []
  mixDigest := tag
  nonce := 0
  signature := []

/-- The genesis block. -/
def tagGenesis : Header := tagBlock 0 0 0x10 1

/-- The checkpointed block `A1`, and the heavier fork `B1`, `B2`, `B3` beside it. -/
def blockA1 : Header := tagBlock 1 0x10 0xA1 5

def blockB1 : Header := tagBlock 1 0x10 0xB1 10

def blockB2 : Header := tagBlock 2 0xB1 0xB2 10

def blockB3 : Header := tagBlock 3 0xB2 0xB3 10

/-- A node with only the genesis block, and no checkpoint. -/
def genesisChain : BlockChain where
  blocks h := if h = 0x10 then some tagGenesis else none
  td h := if h = 0x10 then some 1 else none
  canonical n := if n = 0 then some 0x10 else none
  currentBlock := tagGenesis
  genesisBlock := tagGenesis
  shouldPreserve _ := false
  checkpoints := newCheckpointManager

/-- The checkpoint of `A1`. -/
def checkpointA1 : Checkpoint := ⟨0, 1, 0xA1⟩

/-- Import `A1`; import the fork `B1`, `B2`, which becomes canonical; add the checkpoint of `A1`
from the network, which reorganises the node back onto `A1`; import `B3` on the fork. -/
def undoCalls : List ChainCall :=
  [.insertChain [blockA1], .insertChain [blockB1, blockB2], .addCheckpoint checkpointA1 [[1]] false,
    .insertChain [blockB3]]

/-- Every block is valid and processes without error. -/
def allValid (_ : BlockChain) (_ : Header) : Except Error Unit := .ok ()

/-- The node after some of the calls, with the signer of checkpoints at address zero. -/
def undoRun (calls : List ChainCall) : BlockChain :=
  runCalls tagHasher (fun _ => false) allValid allValid (fun _ _ => .ok [4]) (some 0) genesisChain
    calls

/-- A validated checkpoint does not pin the canonical chain. Every call of `undoCalls` succeeds.
After the third, `AddCheckpoint` has reorganised the node onto the checkpointed block `A1`, and
every validated checkpoint is canonical. The import of `B3` is then checked against the
checkpoints only at its own number, which has none; its fork's total difficulty is higher, so
`WriteBlockWithState` reorganises the node onto it, and block 1 of the canonical chain is `B1`
while the checkpoint of `A1` is validated. -/
theorem checkpoint_undone_by_import :
    (∀ i < undoCalls.length,
      (exec tagHasher (fun _ => false) allValid allValid (fun _ _ => .ok [4]) (some 0)
        (undoRun (undoCalls.take i)) (undoCalls.getD i (.insertChain []))).2 = .ok ()) ∧
    CheckpointsPinned (undoRun (undoCalls.take 3)) ∧
    ¬ CheckpointsPinned (undoRun undoCalls) := by
  have hval : ∀ calls, calls = undoCalls.take 3 ∨ calls = undoCalls →
      (undoRun calls).checkpoints.validated =
        Function.update (fun _ => none) 1 (some ⟨checkpointA1, [[1]]⟩) := by
    rintro _ (rfl | rfl) <;> rfl
  refine ⟨by decide, fun n v hv hle => ?_, fun hpin => ?_⟩
  · -- only the checkpoint of `A1` is validated, and `A1` is canonical at its number
    rw [hval _ (Or.inl rfl)] at hv
    by_cases hn : n = 1
    · subst hn
      rw [Function.update_self, Option.some.injEq] at hv
      subst hv
      decide
    · rw [Function.update_of_ne hn] at hv
      cases hv
  · have hA1 := hpin 1 ⟨checkpointA1, [[1]]⟩ (by rw [hval _ (Or.inr rfl)]; rfl) (by decide)
    revert hA1
    decide

end BlockChain

end RangeCore
