import SlabPool.Framework.Slab
import SlabPool.Framework.SlabAllocator
import SlabPool.Construction.Class.FreeList
import SlabPool.Construction.Class.Iteration
import SlabPool.Construction.Class.Contract
import SlabPool.Construction.Pool.Basic
import SlabPool.Construction.Pool.Operations
import SlabPool.Construction.Pool.Threads
import SlabPool.Construction.Class.Reference
import SlabPool.Properties.Calls
import SlabPool.Properties.Create
import SlabPool.Properties.Exclusive
import SlabPool.Properties.Routing
import SlabPool.Properties.Accounting
import SlabPool.Properties.SlabCount
import SlabPool.Properties.SlabRelease
import SlabPool.Properties.Limit
import SlabPool.Properties.Interleaving
import SlabPool.Properties.Sequential
import SlabPool.Properties.Placement
import SlabPool.Properties.StateCheck
import SlabPool.Properties.InterleavedAccounting
import SlabPool.Properties.InterleavedSlabCount
import SlabPool.Properties.InterleavedSlabCount
import SlabPool.Properties.Quiescent
import SlabPool.Properties.Quiescent
