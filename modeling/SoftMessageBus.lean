import SoftMessageBus.RuntimeCluster
import SoftMessageBus.ReliableRelease
import SoftMessageBus.ShmDelivery
import SoftMessageBus.SendAdmission
import SoftMessageBus.EngineRestart
import SoftMessageBus.Resubscription
import SoftMessageBus.ThreadPoolShutdown
import SoftMessageBus.SocketFaithful
import SoftMessageBus.PayloadIntegrity
import SoftMessageBus.RingMemory
import SoftMessageBus.RingDamage
import SoftMessageBus.SegmentGrowth
import SoftMessageBus.InvalidFrees
import SoftMessageBus.RegistrationRuns
import SoftMessageBus.IngressAdmission
import SoftMessageBus.TcpConnections
import SoftMessageBus.TcpParseLoop
import SoftMessageBus.TcpSendFraming
import SoftMessageBus.DiscoverySafety
import SoftMessageBus.DiscoveryRoundTrip
import SoftMessageBus.SelectionCooldown
import SoftMessageBus.RuleIdentity
import SoftMessageBus.ServiceWait
import SoftMessageBus.ServiceDirectory
import SoftMessageBus.SubscriberTable
import SoftMessageBus.ReplyWaiters
import SoftMessageBus.ReconcileRequests
import SoftMessageBus.ServerClients
import SoftMessageBus.UdpClients
import SoftMessageBus.PoolSignals
import SoftMessageBus.ConfigValidation
import SoftMessageBus.PlatformUtilities
import SoftMessageBus.ReplyInterference
import SoftMessageBus.RingLayout
