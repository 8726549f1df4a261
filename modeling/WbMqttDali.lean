import WbMqttDali.BusMonitor.Order
import WbMqttDali.BusTraffic
import WbMqttDali.Lib.Transition
import WbMqttDali.Driver.State
import WbMqttDali.Driver.Step
import WbMqttDali.Driver.InFlight
import WbMqttDali.Driver.Slots
import WbMqttDali.Driver.Ring
import WbMqttDali.Driver.Shutdown
import WbMqttDali.Driver.Traffic
import WbMqttDali.Driver.Replies
import WbMqttDali.Settings.Params
import WbMqttDali.Controller.CommissioningStatus
import WbMqttDali.Device.Polling
import WbMqttDali.Settings.Writes
import WbMqttDali.Device.Identity
import WbMqttDali.Gateway.SetDevice
import WbMqttDali.Controller.ApplyParameters
import WbMqttDali.Controller.IndexesFollow
import WbMqttDali.Driver.Callers
import WbMqttDali.Driver.QueueOrder
import WbMqttDali.Driver.SendOrder
import WbMqttDali.Controller.SendCommandBatch
import WbMqttDali.Controller.BusTrafficFrame
import WbMqttDali.EventSync.Controls
import WbMqttDali.Lib.Interleaving
import WbMqttDali.EventSync.Coordinator
import WbMqttDali.EventSync.BusOrder
import WbMqttDali.Mqtt.RetainedReplay
import WbMqttDali.Controller.ControlQueue
import WbMqttDali.Controller.ControlWrites
import WbMqttDali.Controller.LastWrite
import WbMqttDali.Controller.Stop
import WbMqttDali.Controller.TakeOver
import WbMqttDali.Controller.TakeOverInterrupted
import WbMqttDali.Controller.VirtualDevices
import WbMqttDali.Gateway.Configuration
import WbMqttDali.Gateway.ConfigurationRuns
import WbMqttDali.Gateway.UpdateGateways
import WbMqttDali.Commissioning.BinarySearch
import WbMqttDali.Commissioning.Classification
import WbMqttDali.Commissioning.InitialisationState
import WbMqttDali.Commissioning.SearchAddress
import WbMqttDali.Device.ParamsCache
import WbMqttDali.EventSync.ColourRead
import WbMqttDali.EventSync.GroupValues
import WbMqttDali.Mqtt.Device
import WbMqttDali.Mqtt.RetainedCache
import WbMqttDali.BusTrafficOrder
import WbMqttDali.Commissioning.ReconcileEntries
import WbMqttDali.Commissioning.ShortAddress
import WbMqttDali.Driver.OverheatRateLimiter
import WbMqttDali.EventSync.ColourSequence
import WbMqttDali.EventSync.FadeTime
import WbMqttDali.EventSync.PredictedLevels
import WbMqttDali.Mqtt.DevicePublisher
import WbMqttDali.Settings.Absence
import WbMqttDali.Settings.BatchRetries
import WbMqttDali.Commissioning.AddressBus
import WbMqttDali.Commissioning.ShortPool
import WbMqttDali.Controller.GroupParameters
import WbMqttDali.Controller.PollRound
import WbMqttDali.Device.DeviceTypes
import WbMqttDali.Device.MemoryBank
import WbMqttDali.Settings.GroupCache
import WbMqttDali.Settings.OnlyFailedRetries
import WbMqttDali.SendCommand.Accepted
import WbMqttDali.Commissioning.IdealRun
import WbMqttDali.Controller.PollStepTakeOver
import WbMqttDali.Controller.PollTurns
