import WinWinCode.Exchange.Delivery
import WinWinCode.Storage.AdmissionSafety
import WinWinCode.Storage.AccountingTotals
import WinWinCode.Storage.CommitRuns
import WinWinCode.Storage.LeaseFencing
import WinWinCode.Storage.SlotCapacity
import WinWinCode.Storage.SchedulerFairness
import WinWinCode.Server.UplinkSettlement
import WinWinCode.Server.ReplayIdentity
import WinWinCode.Server.DownlinkFollowing
import WinWinCode.Server.LeaseRecovery
import WinWinCode.Codex.IndexedReplay
import WinWinCode.ExecutionPort.LeaseRenewals
import WinWinCode.ExecutionPort.LeaseChains
import WinWinCode.ExecutionPort.PathNormalization
import WinWinCode.ExecutionPort.WildcardMatching
import WinWinCode.ExecutionPort.StreamKeys
import WinWinCode.ExecutionPort.ActionGateway
import WinWinCode.Network.JournalRuns
import WinWinCode.Network.RequestPackage
import WinWinCode.Worker.DeliveryRuns
import WinWinCode.Session.InteractionRuns
import WinWinCode.Delivery.WorkProgress
import WinWinCode.Delivery.Redaction
import WinWinCode.Device.CandidateBase
import WinWinCode.Fusion.AnalysisReports
import WinWinCode.Fusion.Judge
