import Cmuduo.Lib.Machine
import Cmuduo.Lib.BatchQueue
import Cmuduo.Base.InetAddress
import Cmuduo.Net.BufferFifo
import Cmuduo.Net.TcpConnection
import Cmuduo.Net.OpenConnection
import Cmuduo.Net.OutputStream
import Cmuduo.Net.ClosedConnection
import Cmuduo.Net.EventLoop
import Cmuduo.Net.TaskQueue
import Cmuduo.Net.Wakeup
import Cmuduo.Net.EventLoopThread
import Cmuduo.Net.Server.Accepted
import Cmuduo.Net.Server.Calls
import Cmuduo.Net.Server.Registration
import Cmuduo.Net.Server.LifeCycle
import Cmuduo.Net.Server.Ownership
import Cmuduo.Net.Server.SendOrder
import Cmuduo.Net.Server.CapturedString
import Cmuduo.Example.GameRoom
import Cmuduo.Example.GameRules
import Cmuduo.Example.GameServer
import Cmuduo.Example.Matchmaking
import Cmuduo.Lib.Directory
import Cmuduo.Net.FlushProgress
import Cmuduo.Net.LoopExit
import Cmuduo.Net.Poller
import Cmuduo.Net.Registry
import Cmuduo.Net.RoundRobin
import Cmuduo.Net.Server.ConnectionMap
import Cmuduo.Net.Server.StateOrder
import Cmuduo.Net.WorkBeforeQuit
import Cmuduo.Example.GameEnd
import Cmuduo.Net.EmptyMask
import Cmuduo.Example.StaleInput
import Cmuduo.Net.BufferRequests
import Cmuduo.Net.EventList
import Cmuduo.Net.HighWaterMark
import Cmuduo.Net.Server.Teardown
import Cmuduo.Example.EchoServer
import Cmuduo.Example.LobbyScreens
import Cmuduo.Net.Server.HalfClose
import Cmuduo.Net.Server.SingleThread
import Cmuduo.Example.Delivery
import Cmuduo.Example.Departure
import Cmuduo.Base.NumbersAndDots
import Cmuduo.Net.LoneStream
import Cmuduo.Net.Server.ConnectionStreams
import Cmuduo.Net.Server.Descriptors
import Cmuduo.Net.Server.SharedPollers
import Cmuduo.Net.WriteComplete
import Cmuduo.Example.EchoClients
import Cmuduo.Net.Server.Callbacks
import Cmuduo.Example.GameDelivery
import Cmuduo.Example.GameProgress
