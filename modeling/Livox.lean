import Livox.Library.Exec
import Livox.Library.Loop
import Livox.Library.Fairness
import Livox.Library.Fifo
import Livox.Library.DecimalText
import Livox.Library.OrderedMap
import Livox.Library.Slots
import Livox.Library.Memory
import Livox.Library.Object
import Livox.Library.Inet
import Livox.Library.Json
import Livox.Library.RapidJson
import Livox.Library.Slices
import Livox.Library.Cadence
import Livox.Library.Counter
import Livox.Library.MultiMap
import Livox.Library.SwapQueue
import Livox.Library.PackedRecords
import Livox.Comm.Types
import Livox.Comm.Ldq
import Livox.Comm.Ldq.Capacity
import Livox.Lds
import Livox.Comm.Ldq.Refinement
import Livox.Lds.Lifecycle
import Livox.Comm.LidarImuDataQueue
import Livox.Comm.LidarPubHandler
import Livox.Comm.LidarPubHandler.Extrinsics
import Livox.Comm.PubHandler
import Livox.Comm.PubHandler.Frame
import Livox.Comm.PubHandler.Timer
import Livox.Comm.PubHandler.Conservation
import Livox.Comm.PubHandler.Capacity
import Livox.Comm.PubHandler.Datagram
import Livox.Comm.PubHandler.Cadence
import Livox.Comm.PubHandler.Order
import Livox.Comm.CacheIndex
import Livox.Comm.CacheIndex.Interleaving
import Livox.Sdk.Api
import Livox.Sdk.CommandImpl
import Livox.Sdk.CommandImpl.ParseGprmc
import Livox.Sdk.SdkProtocol
import Livox.Sdk.SdkProtocol.Frame
import Livox.Sdk.SdkProtocol.RoundTrip
import Livox.Sdk.GenerateSeq
import Livox.Sdk.DataHandler
import Livox.Sdk.MultipleIO
import Livox.Sdk.MultipleIO.Poll
import Livox.Sdk.MultipleIO.Select
import Livox.Sdk.MultipleIO.Epoll
import Livox.Sdk.MultipleIO.PollSets
import Livox.Sdk.IOLoop
import Livox.Sdk.IOLoop.Tasks
import Livox.Sdk.IOLoop.Wakeup
import Livox.Sdk.LivoxLidarDef
import Livox.Sdk.ParseLidarStateInfo
import Livox.Sdk.ParseLidarStateInfo.Layout
import Livox.Sdk.ParseLidarStateInfo.WellFormed
import Livox.Sdk.ParseLidarStateInfo.Safety
import Livox.Sdk.ParseLidarStateInfo.ToJson
import Livox.Sdk.ParseLidarStateInfo.Report
import Livox.Sdk.GeneralCommandHandler
import Livox.Sdk.GeneralCommandHandler.Commands
import Livox.Sdk.GeneralCommandHandler.Completion
import Livox.Sdk.GeneralCommandHandler.AckMatching
import Livox.Sdk.BuildRequest
import Livox.Sdk.BuildRequest.RoundTrip
import Livox.Sdk.BuildRequest.IpToU8
import Livox.Sdk.GeneralCommandHandler.Devices
import Livox.Sdk.GeneralCommandHandler.FwTypes
import Livox.Sdk.GeneralCommandHandler.InfoChange
import Livox.Sdk.GeneralCommandHandler.Detection
import Livox.Sdk.GeneralCommandHandler.DeviceTable
import Livox.Sdk.Upgrade.Firmware
import Livox.Sdk.Upgrade.LivoxLidarUpgrader
import Livox.Sdk.Upgrade.Firmware.Open
import Livox.Sdk.Upgrade.Responses
import Livox.Sdk.Upgrade.Transfer
import Livox.Sdk.Upgrade.Session
import Livox.Sdk.Upgrade.Lifetime
import Livox.Sdk.LoggerHandler
import Livox.Sdk.LoggerHandler.Sessions
import Livox.Sdk.DeviceManager.ViewLidars
import Livox.Sdk.Define
import Livox.Sdk.ParseCfgFile
import Livox.Sdk.ParseCfgFile.Shapes
import Livox.Sdk.ParseCfgFile.Faithful
import Livox.Sdk.LoggerManager
import Livox.Sdk.LoggerManager.Push
import Livox.Sdk.FileManager
import Livox.Sdk.LoggerManager.CycleDelete
import Livox.Sdk.DebugPointCloud
import Livox.Sdk.DebugPointCloud.Writing
import Livox.Sdk.DebugPointCloud.Recording
import Livox.Sdk.ParamsCheck
import Livox.Sdk.NetworkUtil
import Livox.Sdk.DeviceManager.Channels
import Livox.Sdk.DeviceManager.Manager
import Livox.Sdk.DeviceManager.Changes
import Livox.Sdk.DeviceManager.Handlers
import Livox.Sdk.DeviceManager.Sockets
import Livox.Sdk.DeviceManager.Managed
import Livox.Sdk.DeviceManager.Serving
import Livox.Sdk.DeviceManager.Kept
import Livox.Sdk.DeviceManager.Routing
import Livox.Sdk.DeviceManager.Granted
import Livox.Sdk.DeviceManager.Registration
import Livox.LdsLidar
import Livox.LdsLidar.Registry
import Livox.LdsLidar.Init
import Livox.LdsLidar.Resolution
import Livox.ParseCfgFile.ParseLivoxLidarCfg
import Livox.CallBack.LivoxLidarCallback
import Livox.CallBack.Spec
import Livox.CallBack.Session
import Livox.CallBack.Unconfigured
import Livox.CallBack.Sampling
import Livox.CallBack.Acceptance
import Livox.CallBack.Outcomes
import Livox.CallBack.Identity
import Livox.ParseCfgFile.Params
import Livox.ParseCfgFile.Robust
import Livox.CallBack.Delivery
import Livox.Lddc
import Livox.Lddc.CustomMsg
import Livox.Lddc.Distribution
import Livox.Lddc.Polling
import Livox.Lddc.Draining
import Livox.Lddc.PointCloud2
import Livox.Lddc.Wakeup
import Livox.Lddc.ImuDistribution
import Livox.Lddc.ImuConservation
import Livox.Lddc.ImuWakeup
import Livox.DriverNode
import Livox.DriverNode.Threads
import Livox.DriverNode.Shutdown
import Livox.Pipeline
import Livox.Pipeline.Delivery
