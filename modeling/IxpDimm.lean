import IxpDimm.Acpi.InterleaveSets
import IxpDimm.Acpi.Nfit
import IxpDimm.Acpi.NfitWalk
import IxpDimm.Acpi.TableRead
import IxpDimm.Acpi.Topology
import IxpDimm.Common.Capacity
import IxpDimm.Common.DateTime
import IxpDimm.Common.ReturnCode
import IxpDimm.Common.Revision
import IxpDimm.Common.RevisionText
import IxpDimm.Common.Text
import IxpDimm.Config.Cache
import IxpDimm.Config.Settings
import IxpDimm.ConfigFile.Acceptance
import IxpDimm.ConfigFile.Loading
import IxpDimm.ConfigFile.Reader
import IxpDimm.ConfigFile.RoundTrip
import IxpDimm.ConfigFile.Strtoull
import IxpDimm.ConfigFile.Tokens
import IxpDimm.ConfigGoal.Calls
import IxpDimm.ConfigGoal.Decode
import IxpDimm.ConfigGoal.DecodeSafe
import IxpDimm.ConfigGoal.Encode
import IxpDimm.ConfigGoal.Freshness
import IxpDimm.ConfigGoal.InterleaveFormat
import IxpDimm.ConfigGoal.Realisable
import IxpDimm.ConfigGoal.RoundTrip
import IxpDimm.ConfigGoal.StoredTable
import IxpDimm.ConfigGoal.Types
import IxpDimm.ConfigGoal.Update
import IxpDimm.ConfigGoal.Validate
import IxpDimm.Context.NvmContext
import IxpDimm.Context.ReadBack
import IxpDimm.Device.Capacities
import IxpDimm.Device.Inventory
import IxpDimm.Device.Passphrase
import IxpDimm.Device.Uid
import IxpDimm.Diagnostic.Accounting
import IxpDimm.Diagnostic.BestPractices
import IxpDimm.Diagnostic.Events
import IxpDimm.Diagnostic.ExclusionLaw
import IxpDimm.Diagnostic.Exclusions
import IxpDimm.Diagnostic.FwConsistency
import IxpDimm.Diagnostic.FwExclusions
import IxpDimm.Diagnostic.FwRevisions
import IxpDimm.Diagnostic.Nfit
import IxpDimm.Diagnostic.PlatformConfig
import IxpDimm.Diagnostic.PlatformData
import IxpDimm.Diagnostic.PlatformExclusions
import IxpDimm.Diagnostic.PoolNamespaces
import IxpDimm.Diagnostic.Quick
import IxpDimm.Diagnostic.Results
import IxpDimm.Diagnostic.Security
import IxpDimm.Diagnostic.SecurityExclusions
import IxpDimm.EventLog.Acknowledge
import IxpDimm.EventLog.Metadata
import IxpDimm.EventLog.Notify
import IxpDimm.EventLog.Obfuscate
import IxpDimm.EventLog.Queries
import IxpDimm.EventLog.Renaming
import IxpDimm.EventLog.Table
import IxpDimm.EventLog.Trim
import IxpDimm.Firmware.ErrorLog
import IxpDimm.Firmware.Examine
import IxpDimm.Firmware.FaBlobs
import IxpDimm.Firmware.Transfer
import IxpDimm.Foundation.BoundedReads
import IxpDimm.Foundation.BubbleSort
import IxpDimm.Foundation.ByteMemory
import IxpDimm.Foundation.Effects
import IxpDimm.Foundation.EvenShare
import IxpDimm.Foundation.FieldWrites
import IxpDimm.Foundation.FirstMatch
import IxpDimm.Foundation.FirstOccurrences
import IxpDimm.Foundation.Keyed
import IxpDimm.Foundation.LaidOut
import IxpDimm.Foundation.LeastMultiple
import IxpDimm.Foundation.Load
import IxpDimm.Foundation.LoopSimulation
import IxpDimm.Foundation.OrderedMap
import IxpDimm.Foundation.Packed
import IxpDimm.Foundation.PaddedDecimal
import IxpDimm.Foundation.Pruned
import IxpDimm.Foundation.Ranges
import IxpDimm.Foundation.SortUnique
import IxpDimm.Foundation.TableUpdate
import IxpDimm.Foundation.Tally
import IxpDimm.Foundation.Tiling
import IxpDimm.Foundation.Trace
import IxpDimm.Foundation.WhileLoop
import IxpDimm.Foundation.Word
import IxpDimm.MemoryAllocator.Allocations
import IxpDimm.MemoryAllocator.Allocator
import IxpDimm.MemoryAllocator.AppDirectGoals
import IxpDimm.MemoryAllocator.BuildRun
import IxpDimm.MemoryAllocator.CapacityBound
import IxpDimm.MemoryAllocator.CreatedSets
import IxpDimm.MemoryAllocator.Granularity
import IxpDimm.MemoryAllocator.GreedySets
import IxpDimm.MemoryAllocator.InterleaveSetIds
import IxpDimm.MemoryAllocator.InterleaveableDimmSet
import IxpDimm.MemoryAllocator.InterleavedSets
import IxpDimm.MemoryAllocator.LayoutBuilder
import IxpDimm.MemoryAllocator.LayoutStep
import IxpDimm.MemoryAllocator.MappedLimit
import IxpDimm.MemoryAllocator.MemoryRounds
import IxpDimm.MemoryAllocator.PackedExtents
import IxpDimm.MemoryAllocator.PlannedSets
import IxpDimm.MemoryAllocator.PostLayoutAddressDecoderLimitCheck
import IxpDimm.MemoryAllocator.RequestRules
import IxpDimm.MemoryAllocator.RuleDimmListInvalid
import IxpDimm.MemoryAllocator.SetCount
import IxpDimm.MemoryAllocator.Shrink
import IxpDimm.MemoryAllocator.ShrinkAccount
import IxpDimm.MemoryAllocator.ShrinkLaw
import IxpDimm.MemoryAllocator.ShrinkSteps
import IxpDimm.MemoryAllocator.StepAppDirect
import IxpDimm.MemoryAllocator.StepMemory
import IxpDimm.MemoryAllocator.Symmetry
import IxpDimm.MemoryAllocator.Termination
import IxpDimm.MemoryAllocator.Totals
import IxpDimm.MemoryAllocator.Types
import IxpDimm.Monitor.FwErrors
import IxpDimm.Monitor.LogEffect
import IxpDimm.Monitor.Poll
import IxpDimm.Monitor.ReadFailures
import IxpDimm.Monitor.StartUp
import IxpDimm.Monitor.StatusChanges
import IxpDimm.Monitor.Store
import IxpDimm.Monitor.TopologyChanges
import IxpDimm.Namespace.BlockCount
import IxpDimm.Namespace.Collect
import IxpDimm.Namespace.Commands
import IxpDimm.Namespace.Complete
import IxpDimm.Namespace.Cookies
import IxpDimm.Namespace.Creation
import IxpDimm.Namespace.DefaultName
import IxpDimm.Namespace.FindIlset
import IxpDimm.Namespace.KeptPools
import IxpDimm.Namespace.LabelReads
import IxpDimm.Namespace.Labels
import IxpDimm.Namespace.Modification
import IxpDimm.Namespace.Populate
import IxpDimm.Namespace.Requests
import IxpDimm.Namespace.Sizing
import IxpDimm.Passthrough.LargePayload
import IxpDimm.Pcat.Capabilities
import IxpDimm.Pcat.Database
import IxpDimm.Pcat.Described
import IxpDimm.Pcat.Layout
import IxpDimm.Pcat.Rebuilt
import IxpDimm.Pcat.RoundTrip
import IxpDimm.Pcat.SocketSku
import IxpDimm.Pcat.Stored
import IxpDimm.Pcat.Tables
import IxpDimm.PcdDatabase.Building
import IxpDimm.PcdDatabase.Contents
import IxpDimm.PcdDatabase.DataBuilt
import IxpDimm.PcdDatabase.Database
import IxpDimm.PcdDatabase.ExtensionRows
import IxpDimm.PcdDatabase.ExtensionsInBuffer
import IxpDimm.PcdDatabase.InBuffer
import IxpDimm.PcdDatabase.Rebuilt
import IxpDimm.PcdDatabase.RoundTrip
import IxpDimm.PcdDatabase.Sizes
import IxpDimm.PcdDatabase.Stored
import IxpDimm.PcdDatabase.TableBuilt
import IxpDimm.PlatformConfig.Build
import IxpDimm.PlatformConfig.Coherence
import IxpDimm.PlatformConfig.Device
import IxpDimm.PlatformConfig.Layout
import IxpDimm.PlatformConfig.Placement
import IxpDimm.PlatformConfig.Repair
import IxpDimm.PlatformConfig.TableSound
import IxpDimm.PlatformConfig.Validate
import IxpDimm.PlatformConfig.Walk
import IxpDimm.Pool.Build
import IxpDimm.Pool.Contents
import IxpDimm.Pool.Conversion
import IxpDimm.Pool.Count
import IxpDimm.Pool.Order
import IxpDimm.Pool.Types
import IxpDimm.Smbios.Bounds
import IxpDimm.Smbios.Search
import IxpDimm.Smbios.Strings
import IxpDimm.Smbios.Walk
import IxpDimm.Smbios.WellFormed
