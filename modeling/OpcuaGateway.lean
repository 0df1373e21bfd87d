import OpcuaGateway.Effect.Loop
import OpcuaGateway.Heap.Ledger
import OpcuaGateway.Opcua.Client
import OpcuaGateway.Poller.Visit
import OpcuaGateway.Poller.Pass
import OpcuaGateway.Effect.Monitor
import OpcuaGateway.Network.DefaultLoop
import OpcuaGateway.Network.Isolation
import OpcuaGateway.Network.LinkFlap
import OpcuaGateway.Poller.Freshness
import OpcuaGateway.Poller.Leak
import OpcuaGateway.Poller.Session
import OpcuaGateway.Json.Basic
import OpcuaGateway.Json.String
import OpcuaGateway.Json.Value
import OpcuaGateway.Poller.Decoding
import OpcuaGateway.Poller.Timestamp
import OpcuaGateway.Network.Retry
import OpcuaGateway.Network.Capture
import OpcuaGateway.Poller.Schedule
import OpcuaGateway.Poller.LinkLoss
import OpcuaGateway.Poller.Doubles
import OpcuaGateway.Poller.Echo
import OpcuaGateway.Rtc.SetTime
import OpcuaGateway.Rtc.HourMode
import OpcuaGateway.Stm32.Frame
import OpcuaGateway.Stm32.Records
import OpcuaGateway.Numeric.LittleEndian
import OpcuaGateway.Opcua.Connection
import OpcuaGateway.Opcua.TypeTable
import OpcuaGateway.Opcua.DecodeBinary
import OpcuaGateway.Opcua.DecodeSafety
import OpcuaGateway.Framing.Sequence
import OpcuaGateway.Opcua.SecureChannel
import OpcuaGateway.Opcua.Assembly
import OpcuaGateway.Opcua.Response
import OpcuaGateway.Opcua.Delivery
import OpcuaGateway.Opcua.Socket
import OpcuaGateway.Opcua.Encoding
import OpcuaGateway.Opcua.DecodePlain
import OpcuaGateway.Opcua.DecodeEncoded
import OpcuaGateway.Opcua.Service
import OpcuaGateway.Opcua.Deadline
import OpcuaGateway.Opcua.EncodedReply
import OpcuaGateway.Opcua.Reply
import OpcuaGateway.Poller.Wire
