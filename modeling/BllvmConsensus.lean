import BllvmConsensus.Core.Types
import BllvmConsensus.Core.Digest
import BllvmConsensus.Core.Serialization
import BllvmConsensus.Core.Transaction
import BllvmConsensus.Core.TransactionHash
import BllvmConsensus.Core.Script
import BllvmConsensus.Core.Block
import BllvmConsensus.Core.Reorganization
import BllvmConsensus.Core.Production
import BllvmConsensus.Proofs.TransactionValidation
import BllvmConsensus.Proofs.ScriptComposition
import BllvmConsensus.Proofs.StackOpcodes
import BllvmConsensus.Proofs.Sighash
import BllvmConsensus.Proofs.SighashBinding
import BllvmConsensus.Proofs.ChainSelection
import BllvmConsensus.Proofs.Reorganization
import BllvmConsensus.Proofs.CacheTransparency
import BllvmConsensus.Proofs.ScriptInvariants
import BllvmConsensus.Proofs.ProductionEffects
