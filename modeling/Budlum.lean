import Budlum.Core.ProposalLifecycle
import Budlum.Core.VoteWeights
import Budlum.CrossDomain.BridgeTable
import Budlum.CrossDomain.MessageIds
import Budlum.Execution.Nonces
import Budlum.Chain.Supply
import Budlum.Zkvm.ControlFlow
import Budlum.Zkvm.Expansion
import Budlum.Zkvm.Merkle
import Budlum.Zkvm.Inference
import Budlum.Chain.Progress
import Budlum.Chain.UnbondingSlash
import Budlum.Execution.AgentPayments
import Budlum.Execution.RequestEscrow
import Budlum.Execution.Vesting
import Budlum.Mempool.Coherence
import Budlum.Storage.Sources
import Budlum.Chain.BurnPruning
import Budlum.Execution.Folders
import Budlum.Chain.DoubleSign
import Budlum.Execution.NoteSpending
import Budlum.Registry.Credentials
import Budlum.Settlement.ColdRuns
import Budlum.Storage.OpenerBonds
import Budlum.Storage.OpeningFailures
import Budlum.Chain.BoostShares
import Budlum.Core.Unbonding
import Budlum.Execution.RoleBonds
import Budlum.Storage.Accrual
import Budlum.Chain.RelayFailures
import Budlum.Core.RootCache
import Budlum.Chain.Reorg
import Budlum.CrossDomain.BridgeFees
import Budlum.Core.TxRoot
import Budlum.Chain.FinalityRollback
import Budlum.Consensus.QcFaults
import Budlum.Storage.MerkleTrie
import Budlum.Storage.Permanence
import Budlum.Storage.Erasure
