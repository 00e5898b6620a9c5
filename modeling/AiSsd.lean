import AiSsd.Lib.Dict
import AiSsd.Lib.Machine
import AiSsd.Lib.ByteFile
import AiSsd.Lib.Chunks
import AiSsd.Lib.ArgSort
import AiSsd.Lib.ExpSum
import AiSsd.Attention.StreamingSoftmax
import AiSsd.Tiering.Runs
import AiSsd.Storage.BackendReads
import AiSsd.Attention.DecodeExact
import AiSsd.Adapters.ComputationalStorage
import AiSsd.Prefetch.Coherence
import AiSsd.Channels.Schedule
import AiSsd.Ftl.Conventional
import AiSsd.Ftl.TensorAware
import AiSsd.Ftl.StoreSafety
import AiSsd.Ftl.StoreTiming
import AiSsd.Ftl.PlacementAgreement
import AiSsd.Ftl.LocationCodec
import AiSsd.Ftl.ChannelBalance
import AiSsd.Storage.RecordedLba
import AiSsd.Prefetch.SelfWait
import AiSsd.Prefetch.BlocksApart
import AiSsd.Prefetch.Transparency
import AiSsd.Prefetch.StagedShape
import AiSsd.Prefetch.Conservation
import AiSsd.Prefetch.V2Accounting
import AiSsd.Prefetch.DemandAccounting
import AiSsd.Prefetch.Presence
import AiSsd.Lib.LittleEndian
import AiSsd.Nvme.ByteDevice
import AiSsd.Trace.Synthetic
import AiSsd.Trace.ReplayDepth
import AiSsd.RealLlm.Reconstruction
import AiSsd.RealLlm.TraceAgreement
import AiSsd.Api.Eviction
import AiSsd.Api.LayerlessLookups
import AiSsd.DramCache.Accounting
import AiSsd.DramCache.CapacityFailure
import AiSsd.DramCache.ExactView
import AiSsd.DramCache.GlobalIds
import AiSsd.NativeKernel.Insertion
import AiSsd.NativeKernel.Sentinel
import AiSsd.NativeKernel.BlockBounds
import AiSsd.NativeKernel.HalfPages
import AiSsd.Nvme.ReadAgreement
import AiSsd.Nvme.TopkReply
import AiSsd.Nvme.StaleBuffer
import AiSsd.Nvme.BufferGuard
import AiSsd.Nvme.DtypeChoice
import AiSsd.Adapters.SlidingWindow
import AiSsd.Adapters.MemoryStats
import AiSsd.Adapters.NativeScorer
import AiSsd.Storage.BatchTransparency
import AiSsd.Storage.ChannelCharges
import AiSsd.Storage.RawPayloads
import AiSsd.Storage.FailedWrite
import AiSsd.Storage.MissingBlocks
import AiSsd.CacheManager.Offload
import AiSsd.CacheManager.CapacityAbort
import AiSsd.Trace.ReaderRoundTrip
import AiSsd.Storage.AnalyticalAccounting
import AiSsd.RealLlm.NativeSelection
import AiSsd.Adapters.HybridRouting
import AiSsd.Adapters.RegistryRoundTrip
import AiSsd.Ftl.SimulatorReset
import AiSsd.Ftl.BlockCursor
import AiSsd.DramCache.RebuiltSimulator
import AiSsd.Attention.MergeOnline
import AiSsd.Storage.AccessLog
import AiSsd.Inference.Traffic
import AiSsd.Attention.BaselineCache
import AiSsd.Storage.NvmeAgreement
import AiSsd.Attention.EngineAgreement
import AiSsd.Api.SimulationReport
import AiSsd.Prefetch.FileAgreement
