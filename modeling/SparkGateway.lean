import SparkGateway.Lib.Prog
import SparkGateway.Lib.Interleave
import SparkGateway.Lib.Project
import SparkGateway.Lib.Transcript
import SparkGateway.Lib.TokenBucket
import SparkGateway.Lib.BucketTable
import SparkGateway.Spec.Grpc
import SparkGateway.Spec.Affinity
import SparkGateway.Spec.Routing
import SparkGateway.Spec.RateLimit
import SparkGateway.Spec.Tenant
import SparkGateway.Spec.Audit
import SparkGateway.Spec.ArtifactStream
import SparkGateway.Spec.Handler
import SparkGateway.Spec.Sequential
import SparkGateway.Proofs.Routing.Sticky
import SparkGateway.Proofs.Routing.BindReturns
import SparkGateway.Proofs.Routing.NewlyBound
import SparkGateway.Proofs.Routing.SessionCreate
import SparkGateway.Proofs.RateLimit.ScriptClock
import SparkGateway.Proofs.RateLimit.TableModel
import SparkGateway.Proofs.RateLimit.MemoryTable
import SparkGateway.Proofs.RateLimit.RedisTable
import SparkGateway.Proofs.RateLimit.RejectedCost
import SparkGateway.Proofs.Handler.Frame
import SparkGateway.Proofs.Handler.Commands
import SparkGateway.Proofs.Handler.AuditTrail
import SparkGateway.Proofs.Handler.Transition
import SparkGateway.Proofs.Handler.TransitionCases
import SparkGateway.Proofs.Handler.Upload
import SparkGateway.Proofs.Handler.IdentityInjection
import SparkGateway.Proofs.Handler.OpAffinity
import SparkGateway.Proofs.Handler.PoolIsolation
import SparkGateway.Proofs.Handler.OpTakeover
import SparkGateway.Proofs.Routing.StoreRefinement
import SparkGateway.Proofs.RateLimit.TenantIsolation
import SparkGateway.Proofs.Handler.UploadEnd
import SparkGateway.Proofs.Pool.K8sTracking
import SparkGateway.Lib.History
import SparkGateway.Proofs.Routing.RedisFaults
import SparkGateway.Proofs.Handler.ReleaseRace
import SparkGateway.Lib.Mutex
import SparkGateway.Proofs.Auth.RefreshFloor
import SparkGateway.Proofs.Handler.ClonedSession
import SparkGateway.Proofs.Handler.BodyRun
import SparkGateway.Proofs.Handler.SessionTrail
import SparkGateway.Proofs.Handler.SessionExpiry
import SparkGateway.Lib.BucketRun
import SparkGateway.Proofs.RateLimit.BucketLaw
import SparkGateway.Proofs.RateLimit.KeyExpiry
import SparkGateway.Proofs.RateLimit.LimitersAgree
import SparkGateway.Proofs.RateLimit.TenantQuota
import SparkGateway.Proofs.Handler.TableFrame
import SparkGateway.Proofs.Handler.OpOutlives
import SparkGateway.Lib.Hysteresis
import SparkGateway.Proofs.Pool.HealthView
import SparkGateway.Lib.Trim
import SparkGateway.Spec.Auth
import SparkGateway.Proofs.Auth.BearerToken
import SparkGateway.Proofs.Auth.StaticToken
import SparkGateway.Proofs.Auth.FailureReason
import SparkGateway.Proofs.Handler.FinalCode
import SparkGateway.Lib.Rotation
import SparkGateway.Proofs.Pool.Balance
import SparkGateway.Lib.Loop
import SparkGateway.Proofs.Startup.RetryBudget
import SparkGateway.Lib.Restrict
import SparkGateway.Proofs.Handler.Contract
import SparkGateway.Proofs.Handler.TenantNoninterference
import SparkGateway.Proofs.Startup.Topology
import SparkGateway.Proofs.Handler.ContactOrigin
import SparkGateway.Lib.Once
import SparkGateway.Lib.Suspend
import SparkGateway.Spec.Serving
import SparkGateway.Spec.Shutdown
import SparkGateway.Proofs.Serving.Cancellation
import SparkGateway.Proofs.Serving.Drain
import SparkGateway.Lib.BucketQuota
import SparkGateway.Proofs.Handler.AuditTruth
import SparkGateway.Proofs.Handler.Quota
import SparkGateway.Proofs.RateLimit.ClusterQuota
import SparkGateway.Proofs.RateLimit.StaleStamps
import SparkGateway.Lib.Linearize
import SparkGateway.Proofs.Auth.Entitled
import SparkGateway.Proofs.Handler.Replicas
import SparkGateway.Proofs.Handler.Dialer
import SparkGateway.Proofs.Handler.UploadFlow
