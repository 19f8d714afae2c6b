import DeviceHal.Lib.Run
import DeviceHal.Core.Subscriptions
import DeviceHal.Gnss.AgpsMachine
import DeviceHal.Gnss.AgpsSubscribers
import DeviceHal.Gnss.AgpsAnswers
import DeviceHal.Gnss.AgpsDispatch
import DeviceHal.Gnss.AgpsRequests
import DeviceHal.Gnss.AgpsHandover
import DeviceHal.Gnss.TrackingSessions
import DeviceHal.Gnss.TrackingMultiplex
import DeviceHal.Gnss.TrackingEngine
import DeviceHal.Gnss.TrackingRuns
import DeviceHal.Gnss.TrackingClients
import DeviceHal.Utils.LocTimers
import DeviceHal.Utils.TimerWakeups
import DeviceHal.Utils.TimerSafety
import DeviceHal.Gnss.AgpsDataCall
import DeviceHal.Lib.PriorityBag
import DeviceHal.Utils.HeapOrder
import DeviceHal.Core.ClientNeeds
import DeviceHal.Core.ModulePower
import DeviceHal.Gnss.PowerVote
import DeviceHal.Core.Notifications
import DeviceHal.Gnss.NiSessions
import DeviceHal.Lib.Buffer
import DeviceHal.Utils.IpcSenders
import DeviceHal.Location.RequestRuns
import DeviceHal.Core.NetworkInfo
import DeviceHal.Gnss.XtraObserver
import DeviceHal.Gnss.ConfigCache
import DeviceHal.Gnss.GpsLock
import DeviceHal.Gnss.EventMask
import DeviceHal.Gnss.OdcpiRequests
import DeviceHal.Location.ClientLifetime
import DeviceHal.Location.ControlClient
import DeviceHal.Location.Geofences
import DeviceHal.Location.GeofenceOptions
import DeviceHal.Location.GeofenceRemoval
import DeviceHal.Location.GeofenceOutcomes
import DeviceHal.Location.ControlConfig
import DeviceHal.Location.TrackingFlag
import DeviceHal.Gnss.RetryBudget
import DeviceHal.Gnss.ClosedHandles
import DeviceHal.Lib.Loop
import DeviceHal.Lib.StringSearch
import DeviceHal.Recovery.ShiftTables
import DeviceHal.Recovery.ModemSearch
import DeviceHal.Lib.RefCount
import DeviceHal.Utils.LocThread
import DeviceHal.Gnss.SuplServer
import DeviceHal.Android.PendingConfig
import DeviceHal.Gnss.SvTypes
import DeviceHal.Gnss.SvReports
import DeviceHal.Utils.LocNmea
import DeviceHal.Utils.NmeaUsed
import DeviceHal.Utils.NmeaInView
import DeviceHal.Core.ReportHistory
import DeviceHal.Core.LatestPosition
import DeviceHal.Core.DebugNmea
import DeviceHal.Core.DebugRejects
import DeviceHal.Core.DebugTokens
import DeviceHal.Utils.LocCfg
import DeviceHal.Utils.TrimSpace
import DeviceHal.Core.AdapterTable
import DeviceHal.Utils.NmeaChecksum
import DeviceHal.Utils.LocCfgUpdate
import DeviceHal.Utils.LauncherConf
import DeviceHal.Utils.ProcessEntry
import DeviceHal.Utils.ProcessBlocks
import DeviceHal.Lib.Fields
import DeviceHal.Utils.SplitString
import DeviceHal.Utils.TimerDrain
import DeviceHal.Utils.TimerLifecycle
import DeviceHal.Liblight.NotificationLed
import DeviceHal.Lib.DoublyLinked
import DeviceHal.Utils.LinkedList
import DeviceHal.Utils.MsgQueue
import DeviceHal.Lib.Utf8
import DeviceHal.Shims.StrDup16to8
import DeviceHal.Shims.StrDup8to16
import DeviceHal.Shims.StringCopies
import DeviceHal.Utils.MsgTask
import DeviceHal.Core.EngineMask
import DeviceHal.Location.GeofenceBreaches
import DeviceHal.Location.TripCompletion
import DeviceHal.Lib.Numerals
import DeviceHal.Gnss.DebugReport
import DeviceHal.Gnss.DebugRoundTrip
import DeviceHal.Core.AddressText
import DeviceHal.Lib.Lines
import DeviceHal.Blobs.Sha1Sums
import DeviceHal.Gnss.TrackingAnswers
import DeviceHal.Android.TrackingStatus
import DeviceHal.Android.TrackingReports
import DeviceHal.Android.TrackingAgreement
