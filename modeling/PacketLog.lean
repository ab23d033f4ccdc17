import PacketLog.Connection.Ensemble
import PacketLog.Main
import PacketLog.Proofs.Framing.Delivery
import PacketLog.Server.Trial
import PacketLog.Session.Conversation
import PacketLog.Shutdown.Handles
import PacketLog.Timestamp.Timeline
import PacketLog.Proofs.Storage.Appending
import PacketLog.Proofs.Session.Happenings
import PacketLog.Proofs.Session.Replies
import PacketLog.Proofs.Session.Conversations
import PacketLog.Proofs.Session.Visits
import PacketLog.Proofs.Server.Occurrences
import PacketLog.Proofs.Timestamp.Records
import PacketLog.Proofs.Server.History
import PacketLog.Proofs.Server.Integrity
import PacketLog.Proofs.Server.Replies
import PacketLog.Proofs.Storage.Unlinking
import PacketLog.Proofs.Storage.Streaming
import PacketLog.Proofs.Storage.ByteLog
import PacketLog.Proofs.Session.DroppedPackets
import PacketLog.Proofs.Connection.Keys
import PacketLog.Proofs.Connection.Roster
import PacketLog.Proofs.Connection.Ensembles
import PacketLog.Proofs.Server.Standing
import PacketLog.Proofs.Server.Shutdown
import PacketLog.Proofs.Session.Output
import PacketLog.Proofs.Config.Layers
import PacketLog.Proofs.Server.Startup
import PacketLog.Proofs.Session.Forecast
import PacketLog.Proofs.Server.Permits
import PacketLog.Proofs.Server.Teardown
import PacketLog.Proofs.Connection.Joining
import PacketLog.Proofs.Server.Twins
import PacketLog.Proofs.Process.Background
import PacketLog.Proofs.Storage.Linearization
import PacketLog.Proofs.Session.Fates
import PacketLog.Proofs.Process.StartFailures
import PacketLog.Proofs.Framing.Rejection
import PacketLog.Proofs.Framing.Capacity
import PacketLog.Proofs.Timestamp.Punctuality
import PacketLog.Proofs.Server.Acceptance
import PacketLog.Proofs.Config.Omission
import PacketLog.Proofs.Config.Judgement
import PacketLog.Proofs.Timestamp.ReadingBack
import PacketLog.Proofs.Session.WorkingOff
import PacketLog.Proofs.Shutdown.Handles
import PacketLog.Proofs.Timestamp.Timelines
import PacketLog.Proofs.Server.Errands
import PacketLog.Proofs.Server.Trials
import PacketLog.Proofs.Storage.Rearranging
import PacketLog.Proofs.Server.Settling
import PacketLog.Proofs.Server.Waiting
import PacketLog.Proofs.Process.Completion
