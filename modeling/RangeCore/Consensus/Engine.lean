import RangeCore.Consensus.PoS

/-!
# The Range engine and its EVM calls

The `Range` engine record of `range/consensus/engine.go` and the machinery its consensus calls go
through: messages (`types.Message`), the block context built by `createEVM`, and
`core.ApplyMessage` (`StateTransition.TransitionDb` of `core/state_transition.go`) down to the
interpreter call, which is the parameter `Evm.call`. ABI encoding is reduced to what the engine
uses: four-byte method selectors and the static 32-byte words of a return value.

The engine's `callGas` and `xferGas` are mutable fields: `processConsensusGasLimits` overwrites
them from the spork registry of the block being finalized, and every later consensus call reads
them.

## Main definitions

* `RangeCore.Consensus.Range`, `RangeCore.Consensus.Range.new`.
* `RangeCore.Consensus.Message`, `RangeCore.Consensus.BlockContext`,
  `RangeCore.Consensus.Range.createEVM`.
* `RangeCore.Consensus.intrinsicGas`, `RangeCore.Consensus.applyMessage`.
* `RangeCore.Consensus.Range.processConsensusGasLimits`.
-/

namespace RangeCore.Consensus

/-- `DiffFn`: a difficulty rule. -/
abbrev DiffFn := ChainReader → UInt64 → Header → TimeTarget → ℕ

/-- The fields of the `Range` engine that the modelled methods read. -/
structure Range where
  nonceCap : UInt64
  systemFaucet : Address
  xferGas : UInt64
  callGas : UInt64
  unlimitedGas : UInt64
  diffFn : DiffFn
  testing : Bool

/-- `energi_params.UnlimitedGas`. -/
def paramsUnlimitedGas : UInt64 := (1 : UInt64) <<< 40

/-- `New`: a fresh engine, with `callGas = 30000` and `xferGas = 0`. -/
def Range.new : Range where
  nonceCap := 0
  systemFaucet := rangeSystemFaucet
  xferGas := 0
  callGas := 30000
  unlimitedGas := paramsUnlimitedGas
  diffFn := calcPoSDifficultyV1
  testing := false

/-- `types.Message` for a call. -/
structure Message where
  sender : Address
  recipient : Address
  nonce : UInt64
  amount : ℕ
  gasLimit : UInt64
  gasPrice : ℕ
  data : List UInt8
  checkNonce : Bool

/-- `vm.Context`: what the interpreter sees of the block. -/
structure BlockContext where
  origin : Address
  coinbase : Address
  blockNumber : ℕ
  time : UInt64
  difficulty : ℕ
  gasLimit : UInt64
  gasPrice : ℕ

/-- The errors an interpreter run can end with. -/
inductive VmError where
  | insufficientBalance
  | outOfGas
  | reverted
  | other
  deriving DecidableEq, Repr

/-- What `vm.EVM.Call` returns: output, gas left, the refund counter, the error and the state. -/
structure CallResult where
  ret : List UInt8
  gasLeft : UInt64
  refund : UInt64
  vmerr : Option VmError
  state : StateDB

/-- The interpreter: `vm.EVM.Call(caller, to, data, gas, value)` in a block context. -/
structure Evm where
  call : BlockContext → Address → Address → List UInt8 → UInt64 → ℕ → StateDB → CallResult

/-- `createEVM`: the context of a consensus call, whose block gas limit is the engine's
`xferGas`. -/
def Range.createEVM (e : Range) (msg : Message) (header : Header) : BlockContext where
  origin := msg.sender
  coinbase := header.coinbase
  blockNumber := header.number
  time := header.time
  difficulty := header.difficulty
  gasLimit := e.xferGas
  gasPrice := msg.gasPrice

/-- `params.TxGas`. -/
def txGas : UInt64 := 21000

/-- `params.TxDataNonZeroGas`. -/
def txDataNonZeroGas : UInt64 := 68

/-- `params.TxDataZeroGas`. -/
def txDataZeroGas : UInt64 := 4

/-- `IntrinsicGas` of a call (no contract creation), with its overflow checks. -/
def intrinsicGas (data : List UInt8) : Except Error UInt64 :=
  if data.length = 0 then .ok txGas
  else
    let nz := UInt64.ofNat (data.countP (· != 0))
    if (UInt64.ofNat (2 ^ 64 - 1) - txGas) / txDataNonZeroGas < nz then .error .errOutOfGas
    else
      let gas := txGas + nz * txDataNonZeroGas
      let z := UInt64.ofNat data.length - nz
      if (UInt64.ofNat (2 ^ 64 - 1) - gas) / txDataZeroGas < z then .error .errOutOfGas
      else .ok (gas + z * txDataZeroGas)

/-- `core.ApplyMessage` for a call: the nonce check, gas purchase from the pool, intrinsic gas,
the interpreter call, refund and the fee to the coinbase. It returns the output, the gas used,
whether the interpreter failed, the state and the gas left in the pool; an error is a consensus
error of the message. -/
def applyMessage (evm : Evm) (ctx : BlockContext) (msg : Message) (gp : UInt64) (db : StateDB) :
    Except Error (List UInt8 × UInt64 × Bool × StateDB × UInt64) := do
  if msg.checkNonce then
    if db.nonce msg.sender < msg.nonce then throw .errNonceTooHigh
    if db.nonce msg.sender > msg.nonce then throw .errNonceTooLow
  let mgval := msg.gasLimit.toNat * msg.gasPrice
  if db.balance msg.sender < mgval then throw .errInsufficientBalanceForGas
  if gp < msg.gasLimit then throw .errGasLimitReached
  let gp := gp - msg.gasLimit
  let db := db.setBalance msg.sender (db.balance msg.sender - mgval)
  let ig ← intrinsicGas msg.data
  if msg.gasLimit < ig then throw .errOutOfGas
  let db := db.setNonce msg.sender (db.nonce msg.sender + 1)
  let r := evm.call ctx msg.sender msg.recipient msg.data (msg.gasLimit - ig) msg.amount db
  if r.vmerr = some .insufficientBalance then throw (.evm "insufficient balance for transfer")
  let used := msg.gasLimit - r.gasLeft
  let refund := if used / 2 > r.refund then r.refund else used / 2
  let gasLeft := r.gasLeft + refund
  let db := r.state.setBalance msg.sender (r.state.balance msg.sender + gasLeft.toNat * msg.gasPrice)
  let used := msg.gasLimit - gasLeft
  let db := db.setBalance ctx.coinbase (db.balance ctx.coinbase + used.toNat * msg.gasPrice)
  pure (r.ret, used, r.vmerr.isSome, db, gp + gasLeft)

/-- The four-byte selector `Keccak256(signature)[:4]` that `abi.Pack` puts before the
arguments. -/
def methodId (hasher : Hasher) (signature : String) : List UInt8 :=
  (hasher.keccak256 signature.toUTF8.toList).bytes.take 4

/-- The number read from a big-endian byte list. -/
def ofBytesBE (bs : List UInt8) : ℕ := bs.foldl (fun acc b => acc * 256 + b.toNat) 0

/-- `abi.Unpack` of `n` static words: an error for an empty output, a length that is not a
multiple of 32 or fewer than `n` words. -/
def unpackWords (n : ℕ) (output : List UInt8) : Except Error (List ℕ) :=
  if output.length = 0 ∨ output.length % 32 ≠ 0 ∨ output.length < 32 * n then .error .abiUnpack
  else .ok ((List.range n).map fun i => ofBytesBE ((output.drop (32 * i)).take 32))

/-- `abi.Unpack` of one `address`: the low 20 bytes of the first word. -/
def unpackAddress (output : List UInt8) : Except Error Address := do
  let ws ← unpackWords 1 output
  pure (BitVec.ofNat 160 (ws.headD 0))

/-- `processConsensusGasLimits`: a call of `consensusGasLimits()` on the spork registry, with the
engine's current `callGas` and `xferGas`, whose result becomes the engine's new `callGas` and
`xferGas` (read through `Uint64`). -/
def Range.processConsensusGasLimits (e : Range) (hasher : Hasher) (evm : Evm) (header : Header)
    (db : StateDB) : Except Error Range := do
  let msg : Message :=
    { sender := e.systemFaucet, recipient := rangeSporkRegistry, nonce := 0, amount := 0,
      gasLimit := e.callGas, gasPrice := 0, data := methodId hasher "consensusGasLimits()",
      checkNonce := false }
  let (output, _) ← applyMessage evm (e.createEVM msg header) msg e.callGas db
  let ws ← unpackWords 2 output
  pure { e with callGas := UInt64.ofNat (ws.getD 0 0), xferGas := UInt64.ofNat (ws.getD 1 0) }

end RangeCore.Consensus
