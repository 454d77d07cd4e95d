import TrainsValkey.Library.Mealy
import TrainsValkey.Library.IndexedRun
import TrainsValkey.Library.ReplayLog
import TrainsValkey.Command
import TrainsValkey.Classify
import TrainsValkey.Store
import TrainsValkey.Dedup
import TrainsValkey.DeliveredLog
import TrainsValkey.DeliveredLog64
import TrainsValkey.Effect
import TrainsValkey.Replica
import TrainsValkey.TotalOrder
import TrainsValkey.ReplicaSafety
import TrainsValkey.Library.Codec
import TrainsValkey.WireFormat
import TrainsValkey.LoopbackRing
import TrainsValkey.Driver
import TrainsValkey.DriverTrace
import TrainsValkey.WriteFates
import TrainsValkey.ClientReplies
import TrainsValkey.ProxyRefinement
import TrainsValkey.ReplicaTrace
import TrainsValkey.RejoinIds
import TrainsValkey.ResolutionWindow
import TrainsValkey.SurfacedReplies
import TrainsValkey.RingTarget
import TrainsValkey.PassiveCatchUp
import TrainsValkey.Library.Handover
import TrainsValkey.Promotion
import TrainsValkey.Expiry
import TrainsValkey.AppliedRecord
import TrainsValkey.Library.Incremental
import TrainsValkey.RespDecoder
import TrainsValkey.RespStream
import TrainsValkey.ReplyReader
import TrainsValkey.FramedReplies
import TrainsValkey.ClientConnection
import TrainsValkey.BackendConnection
import TrainsValkey.Library.Circuit
import TrainsValkey.SurvivorRing
import TrainsValkey.ConnectionGate
import TrainsValkey.SecondCrash
import TrainsValkey.FailedTransfer
import TrainsValkey.Library.Occurrence
import TrainsValkey.EngineTransfer
import TrainsValkey.StoreWrites
import TrainsValkey.Deadlines
import TrainsValkey.Counters
import TrainsValkey.ResolvedEffects
import TrainsValkey.ReplyRoundTrip
import TrainsValkey.DecoderPanics
import TrainsValkey.CodecPanics
import TrainsValkey.GapTransfer
import TrainsValkey.PassiveCut
import TrainsValkey.ExpiryTransfer
import TrainsValkey.Library.Watermark
import TrainsValkey.DedupSet
import TrainsValkey.Locks
import TrainsValkey.Aggregates
import TrainsValkey.Commutation
import TrainsValkey.SnapshotOracle
import TrainsValkey.Library.Footprint
import TrainsValkey.FencedTokens
import TrainsValkey.ThreeInstalls
import TrainsValkey.ChaosVerify
import TrainsValkey.CutReply
import TrainsValkey.LoadDriver
import TrainsValkey.Library.Timeline
import TrainsValkey.FaultSequencer
import TrainsValkey.FaultPlan
import TrainsValkey.FaultWindows
import TrainsValkey.FaultSchedule
import TrainsValkey.PipelinedClient
import TrainsValkey.Library.Sequential
import TrainsValkey.Sessions
import TrainsValkey.ChaosRun
import TrainsValkey.ChaosSurvival
import TrainsValkey.Standby
import TrainsValkey.RejoiningNode
import TrainsValkey.DriverMemory
import TrainsValkey.RealTime
import TrainsValkey.DemoClient
import TrainsValkey.Startup
import TrainsValkey.WireSessions
import TrainsValkey.LockWorkload
import TrainsValkey.LockVerdicts
