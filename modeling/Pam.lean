import Pam.Runtime.HttpEnvironment
import Pam.Runtime.OutputIsolation
import Pam.Runtime.AdapterDrain
import Pam.Runtime.NativeIo
import Pam.Runtime.Redirects
import Pam.Runtime.RedisReplies
import Pam.Runtime.RequestScope
import Pam.Server.ResumeToken
import Pam.Server.CachePrivacy
import Pam.Server.SingleFlight
import Pam.Server.ProtocolIndependence
import Pam.Server.StreamStart
import Pam.Server.ResponseBytes
import Pam.Server.RateLimit
import Pam.Server.RequestHistogram
import Pam.Server.WorkerDrain
import Pam.Server.CacheLocks
import Pam.Manager.SingleMaster
import Pam.Manager.StoppedIntent
import Pam.Manager.HealthKill
import Pam.Manager.Convergence
import Pam.Manager.Deployment
import Pam.Manager.Resurrection
import Pam.Manager.HealthResponse
import Pam.Manager.ReadableRecords
import Pam.Manager.AtomicWrite
import Pam.Manager.ResourceHistory
import Pam.Manager.LogFollowing
import Pam.Manager.Rollback
import Pam.Traffic.Affinity
import Pam.Traffic.Verdict
import Pam.Traffic.Configurations
import Pam.Api.ResponseCache
import Pam.Api.RateLimitStore
import Pam.Api.CircuitBreaker
import Pam.Api.Lifecycle
import Pam.Cluster.WorkerSet
import Pam.Cluster.PoolRouting
import Pam.Cluster.Counters
import Pam.Manager.DaemonReply
import Pam.Manager.StateFiles
import Pam.Api.RouteTable
import Pam.Server.SpanExport
import Pam.Cli.ExtensionProfile
import Pam.Runtime.ServerSentEvents
import Pam.Runtime.Channel
import Pam.Runtime.Mutex
