import RangeCore.Lib.LinkedRing
import RangeCore.Lib.RoundRobin
import RangeCore.Lib.SuffixSplit
import RangeCore.Lib.PartialIterate
import RangeCore.Lib.ExceptBind
import RangeCore.Lib.Run
import RangeCore.Lib.GoRuntime
import RangeCore.Lib.RateLimit
import RangeCore.Core.Types
import RangeCore.Core.State
import RangeCore.Consensus.PoS
import RangeCore.Consensus.Engine
import RangeCore.Consensus.Finalize
import RangeCore.Core.StateProcessor
import RangeCore.Core.StateTransition
import RangeCore.Core.Checkpoints
import RangeCore.Consensus.Verify
import RangeCore.Consensus.Chain
import RangeCore.Consensus.History
import RangeCore.Governance.Basic
import RangeCore.Governance.MasternodeRegistry
import RangeCore.Lib.Reach
import RangeCore.Consensus.VerifyHeaders
import RangeCore.Core.BlockChain
import RangeCore.Consensus.Mine
import RangeCore.Consensus.Stake
import RangeCore.Consensus.PoSSpec
import RangeCore.Consensus.Reward
import RangeCore.Lib.IndexedList
import RangeCore.Governance.RegistryV2
import RangeCore.Governance.ValidatorList
import RangeCore.Governance.Validation
import RangeCore.Lib.RingWalk
import RangeCore.Governance.RegistryV1
import RangeCore.Governance.RegistryUpgrade
import RangeCore.Governance.PayoutRing
import RangeCore.Governance.PayoutSchedule
import RangeCore.Governance.MasternodeToken
import RangeCore.Governance.TokenLedger
import RangeCore.Governance.Proposal
import RangeCore.Governance.GovernedProxy
import RangeCore.Governance.GovernedProxyRuns
import RangeCore.Governance.Treasury
import RangeCore.Lib.Prorate
import RangeCore.Governance.TreasuryReward
import RangeCore.Governance.Blacklist
import RangeCore.Governance.BlacklistRuns
import RangeCore.Governance.Gen2Migration
import RangeCore.Governance.MigrationDrain
import RangeCore.Governance.CheckpointRegistry
import RangeCore.Core.ZeroFee
import RangeCore.Core.PreBlacklist
import RangeCore.Core.StateObject
import RangeCore.Consensus.Mirrors
import RangeCore.Lib.Base58
import RangeCore.Core.Precompile
import RangeCore.Api.Migration
import RangeCore.Lib.MinQueue
import RangeCore.Core.TxPool
import RangeCore.Core.Persistence
import RangeCore.Miner.Autocollateral
import RangeCore.Consensus.Snapshot
import RangeCore.Lib.Uuid
import RangeCore.Api.Governance
import RangeCore.Common.Cache
