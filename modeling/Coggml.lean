import Coggml.Basic
import Coggml.Cogfluence
import Coggml.Cogfluence.Activation
import Coggml.AtomSpace.Table
import Coggml.AtomSpace.Ops
import Coggml.AtomSpace.Skeleton
import Coggml.AtomSpace.Refinement
import Coggml.AtomSpace.Structure
import Coggml.AtomSpace.Values
import Coggml.AtomSpace.Similarity
import Coggml.AtomSpace.Lookup
import Coggml.AtomSpace.Inference
import Coggml.AtomSpace.Spread
import Coggml.Distributed.Architecture
import Coggml.Distributed.Pipeline
import Coggml.Distributed.Optimization
import Coggml.Distributed.Dashboard
import Coggml.Distributed.Cycle
import Coggml.Distributed.Network
import Coggml.Financial
import Coggml.Financial.Flows
import Coggml.Financial.Clustering
import Coggml.Matula.Primes
import Coggml.Matula.Encode
import Coggml.Matula.Trees
import Coggml.Matula.Isomorphism
import Coggml.Matula.Compose
import Coggml.Matula.TrialDivision
import Coggml.Financial.Program
import Coggml.Consensus
import Coggml.Agents
import Coggml.Agents.History
import Coggml.Agents.Memory
import Coggml.Moses.Program
import Coggml.Moses.Execute
import Coggml.Moses.Fitness
import Coggml.Phase3.System
import Coggml.Phase3.Invariants
