import SparkGateway.Spec.Process
import SparkGateway.Spec.RateLimitSettings

/-!
# `SparkGateway.Spec.Startup`: from the configuration file to a running gateway

`Config::from_raw` of `crates/config/src/lib.rs` and the functions of `crates/gateway/src/main.rs`
that build the pools, the affinity store and the proxy from a `Config`. A `RawConfig` is the file
after YAML: every optional block is an `Option`. The authentication and tracing blocks are left
out; nothing here reads them.

A `HashMap` of the source is its list of entries in the order in which it is iterated, which can
be any, with distinct keys. The watcher of a Kubernetes pool is spawned at startup, and that can
fail; the items that the API server then sends to it depend on the namespace and the service
(`SpawnWatcher`). The connection that `build_affinity_store` opens to Redis is left out, as that of
`build_rate_limiter` is.

The first pool is the default pool, the others follow in the order of the overrides.
-/

set_option autoImplicit false

namespace SparkGateway.Spec

/-! ### The configuration -/

/-- One of the backend discovery sources. -/
inductive BackendDiscovery where
  | static (addresses : List String)
  | k8s (ns serviceName : String) (port : UInt16)
deriving DecidableEq, Repr

/-- `ConfigError`, as far as it is about the discovery source. -/
inductive ConfigError where
  | noDiscoverySource
  | conflictingDiscovery
  | emptyStatic
deriving DecidableEq, Repr

/-- The text of an error. -/
def ConfigError.message : ConfigError → String
  | .noDiscoverySource => "config: must specify either `backends` or `backend_discovery`"
  | .conflictingDiscovery => "config: cannot specify both `backends` and `backend_discovery`"
  | .emptyStatic => "config: static backend list must contain at least one address"

/-- `UnknownTenantPolicySetting`. -/
inductive UnknownTenantPolicySetting where
  | useDefault
  | reject
deriving DecidableEq, Repr

/-- `RedisStoreSettings`, less the URL. -/
structure RedisStoreSettings where
  keyPrefix : String := "scg"
  sessionTtlSecs : ℕ := 60 * 60
  opTtlSecs : ℕ := 15 * 60
deriving DecidableEq, Repr

/-- Where the gateway keeps its affinity tables. -/
inductive AffinityStoreConfig where
  | memory
  | redis (settings : RedisStoreSettings)
deriving DecidableEq, Repr

/-- The tenants with a pool of their own. -/
structure TenantPoolsSettings where
  overrides : List (String × BackendDiscovery)
  distinct : (overrides.map Prod.fst).Nodup
  onUnknownTenant : UnknownTenantPolicySetting

/-- `TenantPoolsSettings::default`: no tenant has a pool of its own. -/
def TenantPoolsSettings.default : TenantPoolsSettings := ⟨[], List.nodup_nil, .useDefault⟩

/-- `HealthCheckSettings`, less the times. -/
structure HealthCheckSettings where
  enabled : Bool := false
  unhealthyThreshold : UInt32 := 3
  healthyThreshold : UInt32 := 2
deriving DecidableEq, Repr

/-- `ShutdownSettings` with its default. -/
structure ShutdownSettings where
  deadlineSecs : ℕ := 30
deriving DecidableEq, Repr

/-- `TenantResolverSettings` with its defaults. -/
structure TenantResolverSettings where
  source : TenantSource := .fromClaim
  onMissing : OnMissing := .useDefault
  defaultName : String := "default"
deriving DecidableEq, Repr

/-- `AuditSettings` with its defaults. -/
structure AuditSettings where
  enabled : Bool := true
  logSuccessfulRpcs : Bool := false
deriving DecidableEq, Repr

/-- The default of `bind_addr`. -/
def defaultBindAddr : String := ":15003"

/-- The default of `admin_addr`. -/
def defaultAdminAddr : Option String := some ":9090"

/-- The file after YAML. -/
structure RawConfig where
  bindAddr : String := defaultBindAddr
  backends : Option (List String) := none
  backendDiscovery : Option BackendDiscovery := none
  adminAddr : Option String := defaultAdminAddr
  affinityStore : Option AffinityStoreConfig := none
  healthCheck : Option HealthCheckSettings := none
  shutdown : Option ShutdownSettings := none
  tenantResolver : Option TenantResolverSettings := none
  tenantPools : Option TenantPoolsSettings := none
  rateLimit : Option RateLimitSettings := none
  audit : Option AuditSettings := none

/-- `Config`: the sections that `build_gateway` and the server read. -/
structure Config where
  bindAddr : String
  discovery : BackendDiscovery
  adminAddr : Option String
  affinityStore : AffinityStoreConfig
  healthCheck : HealthCheckSettings
  shutdown : ShutdownSettings
  tenantResolver : TenantResolverSettings
  tenantPools : TenantPoolsSettings
  rateLimit : RateLimitSettings
  audit : AuditSettings

namespace Config

/-- The discovery source of a file: one of the two forms, and not an empty list. -/
def discoveryOf (raw : RawConfig) : Except ConfigError BackendDiscovery :=
  match raw.backends, raw.backendDiscovery with
  | some _, some _ => .error .conflictingDiscovery
  | none, none => .error .noDiscoverySource
  | some addrs, none => if addrs.isEmpty then .error .emptyStatic else .ok (.static addrs)
  | none, some (.static addresses) =>
      if addresses.isEmpty then .error .emptyStatic else .ok (.static addresses)
  | none, some d => .ok d

/-- `Config::from_raw`. The overrides of the tenants are taken as they are. -/
def fromRaw (raw : RawConfig) : Except ConfigError Config := do
  let discovery ← discoveryOf raw
  pure {
    bindAddr := if raw.bindAddr.isEmpty then defaultBindAddr else raw.bindAddr
    discovery
    adminAddr := raw.adminAddr.filter fun s => !s.isEmpty
    affinityStore := raw.affinityStore.getD .memory
    healthCheck := raw.healthCheck.getD {}
    shutdown := raw.shutdown.getD {}
    tenantResolver := raw.tenantResolver.getD {}
    tenantPools := raw.tenantPools.getD .default
    rateLimit := raw.rateLimit.getD {}
    audit := raw.audit.getD {} }

end Config

/-! ### The pools -/

/-- Why startup fails. -/
inductive StartupError where
  | staticPool (error : StaticPoolError)
  | watcher (message : String)
deriving DecidableEq, Repr

/-- How `spawn_watcher` ends for a namespace, a service and a port: an error, or a watcher with the
items that the API server sends to it. -/
abbrev SpawnWatcher := String → String → UInt16 → Except String (WatcherItem → Prop)

/-- A pool with its state at startup. -/
structure BuiltPool where
  model : PoolModel
  state : model.State

/-- `build_pool_from_discovery`. `observed` says whether a size observer is given. -/
def buildPoolFromDiscovery (spawn : SpawnWatcher) (observed : Bool) :
    BackendDiscovery → Except StartupError BuiltPool
  | .static addresses =>
      match StaticPool.new addresses with
      | .error e => .error (.staticPool e)
      | .ok pool => .ok ⟨.static, pool⟩
  | .k8s ns serviceName port =>
      -- The observer is attached before the watcher starts.
      let pool := if observed then K8sPool.new.setSizeObserver else K8sPool.new
      match spawn ns serviceName port with
      | .error e => .error (.watcher e)
      | .ok stream => .ok ⟨.k8s stream port, pool⟩

/-- `wrap_with_healthcheck`. -/
def wrapWithHealthcheck (inner : BuiltPool) (cfg : HealthCheckSettings) : BuiltPool :=
  if !cfg.enabled then inner
  else ⟨.healthAware ⟨cfg.unhealthyThreshold, cfg.healthyThreshold⟩ inner.model,
    (HealthAwarePool.new, inner.state)⟩

/-- The pools of the overrides, in order. The first failure ends the startup. -/
def buildOverrides (spawn : SpawnWatcher) (healthCheck : HealthCheckSettings) :
    List (String × BackendDiscovery) → Except StartupError (List (String × BuiltPool))
  | [] => .ok []
  | (tenant, d) :: rest => do
      let pool ← buildPoolFromDiscovery spawn false d
      let built ← buildOverrides spawn healthCheck rest
      pure ((tenant, wrapWithHealthcheck pool healthCheck) :: built)

/-- The pools of a gateway, and which tenant has which. -/
structure Topology where
  tenants : TenantRouter
  pools : PoolId → BuiltPool
  ready : Bool

/-- The runtime form of the policy. -/
def unknownTenantPolicy : UnknownTenantPolicySetting → UnknownTenantPolicy
  | .useDefault => .useDefault
  | .reject => .reject

/-- `build_tenant_routing`. -/
def buildTenantRouting (cfg : Config) (spawn : SpawnWatcher) : Except StartupError Topology := do
  let pool ← buildPoolFromDiscovery spawn true cfg.discovery
  let defaultPool := wrapWithHealthcheck pool cfg.healthCheck
  let built ← buildOverrides spawn cfg.healthCheck cfg.tenantPools.overrides
  pure {
    tenants := {
      tenants := fun tenant => (built.findIdx? fun entry => entry.1 == tenant).map (· + 1)
      default := some 0
      policy := unknownTenantPolicy cfg.tenantPools.onUnknownTenant }
    pools := fun
      | 0 => defaultPool
      | n + 1 => (built[n]?.map Prod.snd).getD defaultPool
    -- `readiness.mark_ready()`, whatever the pools hold by then.
    ready := true }

/-! ### The proxy -/

/-- `build_tenant_resolver`. -/
def buildTenantResolver (cfg : TenantResolverSettings) : TenantResolver :=
  ⟨cfg.source, cfg.onMissing, cfg.defaultName⟩

/-- `build_audit_logger`. -/
def buildAuditLogger (cfg : AuditSettings) : AuditConfig := ⟨cfg.enabled, cfg.logSuccessfulRpcs⟩

/-- The store of either kind. -/
inductive BuiltStore where
  | memory (store : AffinityStore MemorySig)
  | redis (store : AffinityStore RedisSig)

/-- `redis_store_config`. -/
def redisStoreConfig (s : RedisStoreSettings) : RedisStoreConfig where
  keyPrefix := s.keyPrefix
  sessionTtl := s.sessionTtlSecs
  opTtl := s.opTtlSecs

/-- `build_affinity_store`, once Redis is connected. -/
def buildAffinityStore : AffinityStoreConfig → BuiltStore
  | .memory => .memory MemoryStore.store
  | .redis s => .redis (RedisStore.store (redisStoreConfig s))

/-- The proxy of `main`, over the affinity store that it has built. -/
def buildGateway {S : Lib.Sig} (cfg : Config) (topology : Topology) (store : AffinityStore S) :
    Gateway S where
  router := ⟨topology.tenants, store⟩
  tenantResolver := buildTenantResolver cfg.tenantResolver
  rateLimited := (buildRateLimiter cfg.rateLimit).isSome
  audit := buildAuditLogger cfg.audit

/-- The state of the process when it starts to serve, with the in-process store and limiter. -/
def Topology.start (topology : Topology) :
    ProcessState fun pool => (topology.pools pool).model :=
  .fresh fun pool => (topology.pools pool).state

end SparkGateway.Spec
