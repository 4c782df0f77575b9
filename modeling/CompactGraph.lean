import CompactGraph.Main
import CompactGraph.Decimal.Shortest
import CompactGraph.Source.MemoryGraph
import CompactGraph.Store.GraphStore
import CompactGraph.Proofs.Load.Independence
import CompactGraph.Proofs.Load.Adjacency
import CompactGraph.Proofs.Load.PairWeights
import CompactGraph.Proofs.Load.FaultyLoads
import CompactGraph.Proofs.Load.Sizing
import CompactGraph.Proofs.Load.Counters
import CompactGraph.Proofs.Load.Rejecting
import CompactGraph.Proofs.IdMap.Numbering
import CompactGraph.Proofs.Scan.Visits
import CompactGraph.Proofs.Store.Batches
import CompactGraph.Proofs.Weight.Refinement
import CompactGraph.Proofs.Load.Bookkeeping
import CompactGraph.Proofs.Adjacency.Layout
import CompactGraph.Proofs.Graph.Queries
import CompactGraph.Proofs.Load.Closure
import CompactGraph.Proofs.Command.Databases
import CompactGraph.Proofs.Load.Balance
import CompactGraph.Proofs.Store.Cursors
import CompactGraph.Proofs.Config.Layering
import CompactGraph.Proofs.Import.Records
import CompactGraph.Proofs.Graph.Batches
import CompactGraph.Proofs.Weight.Occupancy
import CompactGraph.Proofs.Adjacency.Buffers
import CompactGraph.Proofs.Weight.Room
import CompactGraph.Proofs.Load.Rehashing
