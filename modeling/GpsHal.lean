import GpsHal.Transition.Basic
import GpsHal.Transition.Replica
import GpsHal.Transition.Monitor
import GpsHal.Location.DataTypes
import GpsHal.Location.Api
import GpsHal.Location.ApiDestroy
import GpsHal.Location.ClientEvents
import GpsHal.Location.RequestQueue
import GpsHal.Location.ControlClient
import GpsHal.Location.ControlConfig
import GpsHal.Location.BiDict
import GpsHal.Location.ClientBase
import GpsHal.Location.ClientSessions
import GpsHal.Location.ClientDispatch
import GpsHal.Location.GeofenceArrays
import GpsHal.Location.GeofenceRemoveAll
import GpsHal.Util.UnorderedSet
import GpsHal.Util.SetMap
import GpsHal.Util.SetMapContract
import GpsHal.Util.OrdMap
import GpsHal.Util.Heap
import GpsHal.Util.Timer
import GpsHal.Util.TimerTime
import GpsHal.Util.Calendar
import GpsHal.Util.LeapSecond
import GpsHal.Util.TimerPoll
import GpsHal.Util.TimerExpiry
import GpsHal.Core.Observer
import GpsHal.Core.ObserverMirror
import GpsHal.Core.Notify
import GpsHal.Core.NetworkInfo
import GpsHal.Core.ReportHistory
import GpsHal.Core.ReportKinds
import GpsHal.Util.CNumber
import GpsHal.Util.ConfItem
import GpsHal.Lights.Light
import GpsHal.Util.BatteryListener
import GpsHal.Util.ConfRead
import GpsHal.Util.ConfUpdate
import GpsHal.Util.TrimSpace
import GpsHal.Util.SplitString
import GpsHal.Core.AdapterRegistry
import GpsHal.Core.EventMask
import GpsHal.Core.DebugNmea
import GpsHal.Core.DebugNmeaReports
import GpsHal.Core.ModulePower
import GpsHal.Gnss.Agps
import GpsHal.Gnss.AgpsLifecycle
import GpsHal.Gnss.AgpsProtocol
import GpsHal.Gnss.AgpsNotify
import GpsHal.Util.FirstLeast
import GpsHal.Util.Fold
import GpsHal.Gnss.Tracking
import GpsHal.Gnss.TrackingMultiplex
import GpsHal.Gnss.TrackingAnswers
import GpsHal.Gnss.TrackingReports
import GpsHal.Gnss.TrackingLifecycle
import GpsHal.Gnss.Blacklist
import GpsHal.Gnss.BlacklistCompose
import GpsHal.Gnss.BlacklistRoundTrip
import GpsHal.Gnss.Config
import GpsHal.Gnss.ConfigAlign
import GpsHal.Gnss.GetConfig
import GpsHal.Gnss.GetConfigRuns
import GpsHal.Gnss.PendingConfig
import GpsHal.Gnss.SuplReplay
import GpsHal.Gnss.GpsLock
import GpsHal.Gnss.Odcpi
import GpsHal.Util.ProcessConf
import GpsHal.Util.ProcessConfBlocks
import GpsHal.Util.LocIpc
import GpsHal.Util.IpcSenders
import GpsHal.Util.Nmea
import GpsHal.Util.NmeaGsv
import GpsHal.Util.NmeaBuffer
import GpsHal.Util.NmeaGsa
import GpsHal.Util.NmeaGsvBuffer
import GpsHal.Util.NmeaPos
import GpsHal.Util.NmeaPosSentences
import GpsHal.Gnss.SystemInfo
import GpsHal.Gnss.NmeaStream
import GpsHal.Gnss.XtraObserver
import GpsHal.Gnss.SvUsedInFix
import GpsHal.Doze.Service
import GpsHal.Doze.ServiceRuns
import GpsHal.Gnss.NiSession
import GpsHal.Gnss.NiSessionRuns
import GpsHal.Util.LinkedList
import GpsHal.Util.MsgQ
import GpsHal.Util.RefCount
import GpsHal.Util.LocThread
import GpsHal.Util.Occurrence
import GpsHal.Recovery.BmSearch
import GpsHal.Recovery.BmTables
import GpsHal.Recovery.BmCorrect
import GpsHal.Geofence.Store
import GpsHal.Geofence.Batch
import GpsHal.Geofence.Adapter
import GpsHal.Geofence.Breach
import GpsHal.Geofence.StoreInvariant
import GpsHal.Batching.Adapter
import GpsHal.Batching.Sessions
import GpsHal.Batching.Reports
import GpsHal.Batching.Answers
import GpsHal.Batching.FailedStop
import GpsHal.Batching.TripDistance
import GpsHal.Batching.OutdoorBatch
import GpsHal.Batching.OutdoorBatchTrips
import GpsHal.Batching.OutdoorBatchRuns
