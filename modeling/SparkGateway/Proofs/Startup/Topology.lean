import SparkGateway.Spec.Startup

/-!
# `SparkGateway.Proofs.Startup.Topology`: the pools that a configuration gives to the tenants

`from_raw` checks the default discovery source and takes the overrides of the tenants as they are,
and `build_tenant_routing` builds one pool for each of them. `startup_topology` says for every
configuration that was accepted when startup fails, and which pool each tenant has when it does
not:

* it fails exactly if the static list of an override is empty, which the loader lets through, or
  if a watcher cannot be spawned;
* a tenant with an override has a pool built from it, which no other tenant has;
* any other tenant has the default pool, or is refused, by the policy.

None of this depends on the order in which the overrides are iterated.
-/

set_option autoImplicit false

namespace SparkGateway.Proofs.Startup

open SparkGateway.Spec

/-! ### Which pools can be built -/

/-- The pool of the discovery source cannot be built: its list is empty, or its watcher is not
spawned. -/
def Unbuildable (spawn : SpawnWatcher) : BackendDiscovery → Prop
  | .static addresses => addresses = []
  | .k8s ns serviceName port => ∃ e, spawn ns serviceName port = .error e

/-- The pool is one of the discovery source, wrapped as the settings say. -/
def BuiltFrom (spawn : SpawnWatcher) (healthCheck : HealthCheckSettings) (d : BackendDiscovery)
    (pool : BuiltPool) : Prop :=
  ∃ observed inner, buildPoolFromDiscovery spawn observed d = .ok inner ∧
    pool = wrapWithHealthcheck inner healthCheck

/-- A pool cannot be built exactly for a discovery source that is unbuildable. -/
theorem buildPool_error_iff (spawn : SpawnWatcher) (observed : Bool) (d : BackendDiscovery) :
    (∃ e, buildPoolFromDiscovery spawn observed d = .error e) ↔ Unbuildable spawn d := by
  cases d with
  | static addresses =>
    by_cases h : addresses = [] <;>
      simp [buildPoolFromDiscovery, StaticPool.new, Unbuildable, h]
  | k8s ns serviceName port =>
    cases h : spawn ns serviceName port <;> simp [buildPoolFromDiscovery, Unbuildable, h]

/-- A pool is built or it is not. -/
theorem buildPool_cases (spawn : SpawnWatcher) (observed : Bool) (d : BackendDiscovery) :
    (∃ pool, buildPoolFromDiscovery spawn observed d = .ok pool ∧ ¬ Unbuildable spawn d) ∨
      ∃ e, buildPoolFromDiscovery spawn observed d = .error e ∧ Unbuildable spawn d := by
  cases h : buildPoolFromDiscovery spawn observed d with
  | ok pool =>
    refine .inl ⟨pool, rfl, fun hun => ?_⟩
    obtain ⟨e, he⟩ := (buildPool_error_iff spawn observed d).mpr hun
    rw [h] at he
    cases he
  | error e => exact .inr ⟨e, rfl, (buildPool_error_iff spawn observed d).mp ⟨e, h⟩⟩

/-! ### The overrides -/

section
variable {spawn : SpawnWatcher} {healthCheck : HealthCheckSettings}
  {overrides : List (String × BackendDiscovery)} {built : List (String × BuiltPool)}

/-- The overrides are built one by one, in their order. -/
theorem buildOverrides_ok (h : buildOverrides spawn healthCheck overrides = .ok built) :
    List.Forall₂ (fun entry pool => pool.1 = entry.1 ∧ BuiltFrom spawn healthCheck entry.2 pool.2)
      overrides built := by
  induction overrides generalizing built with
  | nil =>
    cases h
    exact .nil
  | cons entry rest ih =>
    obtain ⟨tenant, d⟩ := entry
    rcases buildPool_cases spawn false d with ⟨pool, hpool, -⟩ | ⟨e, he, -⟩
    · cases hrest : buildOverrides spawn healthCheck rest with
      | error e => simp [buildOverrides, hpool, hrest, bind, Except.bind] at h
      | ok tail =>
        simp only [buildOverrides, hpool, hrest, bind, Except.bind, pure, Except.pure] at h
        cases h
        exact .cons ⟨rfl, false, pool, hpool, rfl⟩ (ih hrest)
    · simp [buildOverrides, he, bind, Except.bind] at h

/-- They fail exactly if one of them cannot be built. -/
theorem buildOverrides_error_iff (spawn : SpawnWatcher) (healthCheck : HealthCheckSettings)
    (overrides : List (String × BackendDiscovery)) :
    (∃ e, buildOverrides spawn healthCheck overrides = .error e) ↔
      ∃ entry ∈ overrides, Unbuildable spawn entry.2 := by
  induction overrides with
  | nil => simp [buildOverrides]
  | cons entry rest ih =>
    obtain ⟨tenant, d⟩ := entry
    rw [List.exists_mem_cons_iff, ← ih]
    rcases buildPool_cases spawn false d with ⟨pool, hpool, hd⟩ | ⟨e, he, hd⟩
    · simp only [hd, false_or]
      cases hrest : buildOverrides spawn healthCheck rest <;>
        simp [buildOverrides, hpool, hrest, bind, Except.bind, pure, Except.pure]
    · simp [buildOverrides, he, hd, bind, Except.bind]

end

/-! ### The topology -/

section
variable {cfg : Config} {spawn : SpawnWatcher}

/-- The parts of a topology that was built. -/
theorem buildTenantRouting_ok {topology : Topology}
    (h : buildTenantRouting cfg spawn = .ok topology) :
    ∃ pool built, buildPoolFromDiscovery spawn true cfg.discovery = .ok pool ∧
      buildOverrides spawn cfg.healthCheck cfg.tenantPools.overrides = .ok built ∧
      topology.tenants = ⟨fun tenant => (built.findIdx? fun entry => entry.1 == tenant).map (· + 1),
        some 0, unknownTenantPolicy cfg.tenantPools.onUnknownTenant⟩ ∧
      topology.pools 0 = wrapWithHealthcheck pool cfg.healthCheck ∧
      ∀ n, topology.pools (n + 1) = (built[n]?.map Prod.snd).getD (topology.pools 0) := by
  cases hpool : buildPoolFromDiscovery spawn true cfg.discovery with
  | error e => simp [buildTenantRouting, hpool, bind, Except.bind] at h
  | ok pool =>
    cases hbuilt : buildOverrides spawn cfg.healthCheck cfg.tenantPools.overrides with
    | error e => simp [buildTenantRouting, hpool, hbuilt, bind, Except.bind] at h
    | ok built =>
      simp only [buildTenantRouting, hpool, hbuilt, bind, Except.bind, pure, Except.pure] at h
      cases h
      exact ⟨pool, built, rfl, rfl, rfl, rfl, fun _ => rfl⟩

/-- Startup fails exactly if the default pool or the pool of an override cannot be built. -/
theorem buildTenantRouting_error_iff :
    (∃ e, buildTenantRouting cfg spawn = .error e) ↔
      Unbuildable spawn cfg.discovery ∨
        ∃ entry ∈ cfg.tenantPools.overrides, Unbuildable spawn entry.2 := by
  rw [← buildOverrides_error_iff spawn cfg.healthCheck cfg.tenantPools.overrides]
  rcases buildPool_cases spawn true cfg.discovery with ⟨pool, hpool, hd⟩ | ⟨e, he, hd⟩
  · simp only [hd, false_or]
    cases hbuilt : buildOverrides spawn cfg.healthCheck cfg.tenantPools.overrides <;>
      simp [buildTenantRouting, hpool, hbuilt, bind, Except.bind, pure, Except.pure]
  · simp [buildTenantRouting, he, hd, bind, Except.bind]

variable {built : List (String × BuiltPool)}
  {overrides : List (String × BackendDiscovery)}

/-- The tenants of the pools are those of the overrides. -/
theorem map_fst_of_built {R : String × BackendDiscovery → String × BuiltPool → Prop}
    (h : List.Forall₂ R overrides built) (hR : ∀ entry pool, R entry pool → pool.1 = entry.1) :
    built.map Prod.fst = overrides.map Prod.fst := by
  induction h with
  | nil => rfl
  | cons hhead _ ih => simp [hR _ _ hhead, ih]

/-- The tenant of an entry is found at the place of the entry, as the tenants are distinct. -/
theorem findIdx?_of_getElem? (hdistinct : (built.map Prod.fst).Nodup) {n : ℕ}
    {entry : String × BuiltPool} (hentry : built[n]? = some entry) :
    built.findIdx? (fun e => e.1 == entry.1) = some n := by
  obtain ⟨hn, rfl⟩ := List.getElem?_eq_some_iff.mp hentry
  rw [List.findIdx?_eq_some_iff_getElem]
  refine ⟨hn, by simp, fun m hm => ?_⟩
  have hne := List.pairwise_iff_getElem.mp hdistinct m n (by simp; omega) (by simpa using hn) hm
  simpa using hne

/-- The tenant router over some pools of tenants. -/
def routerOf (built : List (String × BuiltPool)) (policy : UnknownTenantPolicy) : TenantRouter :=
  ⟨fun tenant => (built.findIdx? fun entry => entry.1 == tenant).map (· + 1), some 0, policy⟩

variable {policy : UnknownTenantPolicy}

/-- A tenant with an override has the pool of its entry. -/
theorem poolFor_override (policy : UnknownTenantPolicy) (hdistinct : (built.map Prod.fst).Nodup)
    {n : ℕ} {entry : String × BuiltPool} (hentry : built[n]? = some entry) :
    (routerOf built policy).poolFor entry.1 = .ok (some (n + 1)) := by
  simp [routerOf, TenantRouter.poolFor, findIdx?_of_getElem? hdistinct hentry]

/-- The pool of an entry is the pool of its tenant only. -/
theorem tenant_of_poolFor {n : ℕ} {entry : String × BuiltPool} (hentry : built[n]? = some entry)
    {other : String} (h : (routerOf built policy).poolFor other = .ok (some (n + 1))) :
    other = entry.1 := by
  unfold TenantRouter.poolFor routerOf at h
  cases hfind : built.findIdx? fun e => e.1 == other with
  | none => cases policy <;> simp [hfind] at h
  | some m =>
    obtain rfl : m = n := by simpa [hfind] using h
    obtain ⟨hm, hmatch, -⟩ := List.findIdx?_eq_some_iff_getElem.mp hfind
    obtain ⟨-, rfl⟩ := List.getElem?_eq_some_iff.mp hentry
    exact (beq_iff_eq.mp hmatch).symm

/-- A tenant without an override is treated by the policy. -/
theorem poolFor_unknown (policy : UnknownTenantPolicy) {tenant : String}
    (h : tenant ∉ built.map Prod.fst) :
    (routerOf built policy).poolFor tenant =
      match policy with
      | .useDefault => .ok (some 0)
      | .reject => .error (.permissionDenied
          ("tenant " ++ debugStr tenant ++ " has no configured pool")) := by
  have hnone : built.findIdx? (fun e => e.1 == tenant) = none := by
    rw [List.findIdx?_eq_none_iff]
    intro entry hentry
    have hne : entry.1 ≠ tenant := fun heq => h (heq ▸ List.mem_map_of_mem hentry)
    simpa using hne
  cases policy <;> simp [routerOf, TenantRouter.poolFor, hnone]

/-! ### The discovery source of a pool -/

/-- The discovery source of the pools, by their place. -/
def poolDiscovery (cfg : Config) : PoolId → BackendDiscovery
  | 0 => cfg.discovery
  | n + 1 => (cfg.tenantPools.overrides[n]?.map Prod.snd).getD cfg.discovery

/-- The discovery source that the configuration names for a tenant. -/
inductive DiscoveryFor (cfg : Config) (tenant : String) (d : BackendDiscovery) : Prop where
  | override (h : (tenant, d) ∈ cfg.tenantPools.overrides)
  | default (h : tenant ∉ cfg.tenantPools.overrides.map Prod.fst)
      (hpolicy : cfg.tenantPools.onUnknownTenant = .useDefault) (hd : d = cfg.discovery)

variable {topology : Topology}

/-- Each pool is built from the discovery source at its place. -/
theorem builtFrom_poolDiscovery (h : buildTenantRouting cfg spawn = .ok topology) (pool : PoolId) :
    BuiltFrom spawn cfg.healthCheck (poolDiscovery cfg pool) (topology.pools pool) := by
  obtain ⟨inner, built, hinner, hbuilt, -, hzero, hpools⟩ := buildTenantRouting_ok h
  have hdefault : BuiltFrom spawn cfg.healthCheck cfg.discovery (topology.pools 0) :=
    ⟨true, inner, hinner, hzero⟩
  cases pool with
  | zero => exact hdefault
  | succ n =>
    obtain ⟨hlength, hrel⟩ := List.forall₂_iff_get.mp (buildOverrides_ok hbuilt)
    rw [hpools n, poolDiscovery]
    by_cases hn : n < built.length
    · have hn' : n < cfg.tenantPools.overrides.length := hlength ▸ hn
      rw [List.getElem?_eq_getElem hn, List.getElem?_eq_getElem hn']
      exact (hrel n hn' hn).2
    · rw [List.getElem?_eq_none (by omega), List.getElem?_eq_none (by omega)]
      exact hdefault

/-- The tenants are routed to the pools of the overrides, in the order of the file. -/
theorem tenants_eq_routerOf (h : buildTenantRouting cfg spawn = .ok topology) :
    ∃ built : List (String × BuiltPool),
      topology.tenants = routerOf built (unknownTenantPolicy cfg.tenantPools.onUnknownTenant) ∧
      built.map Prod.fst = cfg.tenantPools.overrides.map Prod.fst := by
  obtain ⟨-, built, -, hbuilt, htenants, -, -⟩ := buildTenantRouting_ok h
  exact ⟨built, htenants, map_fst_of_built (buildOverrides_ok hbuilt) fun _ _ h => h.1⟩

/-- The tenant of an override, and no other, has the pool with the number of its entry. -/
theorem poolFor_entry (h : buildTenantRouting cfg spawn = .ok topology) {n : ℕ} {tenant : String}
    {d : BackendDiscovery} (hat : cfg.tenantPools.overrides[n]? = some (tenant, d)) :
    topology.tenants.poolFor tenant = .ok (some (n + 1)) ∧
      ∀ other, topology.tenants.poolFor other = .ok (some (n + 1)) → other = tenant := by
  obtain ⟨built, hrouter, hnames⟩ := tenants_eq_routerOf h
  have hdistinct : (built.map Prod.fst).Nodup := hnames ▸ cfg.tenantPools.distinct
  -- The pool at the same place has the same name.
  have hname : (built.map Prod.fst)[n]? = some tenant := by
    rw [hnames, List.getElem?_map, hat]
    rfl
  rw [List.getElem?_map] at hname
  obtain ⟨entry, hentry, rfl⟩ := Option.map_eq_some_iff.mp hname
  rw [hrouter]
  exact ⟨poolFor_override _ hdistinct hentry, fun other h => tenant_of_poolFor hentry h⟩

/-- A tenant without an override has the default pool or none, as the configuration says. -/
theorem poolFor_other (h : buildTenantRouting cfg spawn = .ok topology) {tenant : String}
    (htenant : tenant ∉ cfg.tenantPools.overrides.map Prod.fst) :
    topology.tenants.poolFor tenant =
      match cfg.tenantPools.onUnknownTenant with
      | .useDefault => .ok (some 0)
      | .reject => .error (.permissionDenied
          ("tenant " ++ debugStr tenant ++ " has no configured pool")) := by
  obtain ⟨built, hrouter, hnames⟩ := tenants_eq_routerOf h
  rw [← hnames] at htenant
  rw [hrouter, poolFor_unknown _ htenant]
  cases cfg.tenantPools.onUnknownTenant <;> rfl

/-- The pool of a tenant is the one that the configuration names for it. -/
theorem discoveryFor_of_poolFor (h : buildTenantRouting cfg spawn = .ok topology) {tenant : String}
    {pool : PoolId} (hpool : topology.tenants.poolFor tenant = .ok (some pool)) :
    DiscoveryFor cfg tenant (poolDiscovery cfg pool) := by
  by_cases hmem : tenant ∈ cfg.tenantPools.overrides.map Prod.fst
  · -- A tenant with an entry: its pool is the one at the same place of the list.
    obtain ⟨⟨tenant, d⟩, hentry, rfl⟩ := List.mem_map.mp hmem
    obtain ⟨n, hat⟩ := List.getElem?_of_mem hentry
    obtain rfl : n + 1 = pool := by
      rw [(poolFor_entry h hat).1] at hpool
      simpa using hpool
    rw [poolDiscovery, hat]
    exact .override hentry
  · -- Any other tenant has a pool only if unknown tenants get the default.
    rw [poolFor_other h hmem] at hpool
    cases hpolicy : cfg.tenantPools.onUnknownTenant with
    | useDefault =>
      rw [hpolicy] at hpool
      obtain rfl : 0 = pool := by simpa using hpool
      exact .default hmem hpolicy rfl
    | reject =>
      rw [hpolicy] at hpool
      cases hpool

/-! ### Startup -/

/-- The loader does not let an empty default list through. -/
theorem fromRaw_discovery {raw : RawConfig} (h : Config.fromRaw raw = .ok cfg) :
    cfg.discovery ≠ .static [] := by
  have hcfg : Config.discoveryOf raw = .ok cfg.discovery := by
    cases hd : Config.discoveryOf raw with
    | error e => simp [Config.fromRaw, hd, bind, Except.bind] at h
    | ok d =>
      simp only [Config.fromRaw, hd, bind, Except.bind, pure, Except.pure] at h
      cases h
      rfl
  intro hempty
  rw [hempty] at hcfg
  unfold Config.discoveryOf at hcfg
  split at hcfg
  · cases hcfg
  · cases hcfg
  · split at hcfg <;> simp_all
  · split at hcfg <;> simp_all
  · simp_all

/-- When the pools of a configuration cannot be built, by what its entries are. -/
theorem buildTenantRouting_fails_iff (hdisc : cfg.discovery ≠ .static []) :
    (∃ e, buildTenantRouting cfg spawn = .error e) ↔
      (∃ tenant, (tenant, .static []) ∈ cfg.tenantPools.overrides) ∨
        ∃ ns serviceName port e, spawn ns serviceName port = .error e ∧
          (cfg.discovery = .k8s ns serviceName port ∨
            ∃ tenant, (tenant, .k8s ns serviceName port) ∈ cfg.tenantPools.overrides) := by
  rw [buildTenantRouting_error_iff]
  constructor
  · rintro (hdefault | ⟨⟨tenant, d⟩, hentry, hd⟩)
    · -- The default list is not empty, so it is the default watcher.
      cases hd : cfg.discovery with
      | static addresses =>
        rw [hd] at hdefault
        exact absurd (hd.trans (congrArg _ hdefault)) hdisc
      | k8s ns serviceName port =>
        rw [hd] at hdefault
        obtain ⟨e, he⟩ := hdefault
        exact .inr ⟨ns, serviceName, port, e, he, .inl rfl⟩
    · cases d with
      | static addresses =>
        obtain rfl : addresses = [] := hd
        exact .inl ⟨tenant, hentry⟩
      | k8s ns serviceName port =>
        obtain ⟨e, he⟩ := hd
        exact .inr ⟨ns, serviceName, port, e, he, .inr ⟨tenant, hentry⟩⟩
  · rintro (⟨tenant, hentry⟩ | ⟨ns, serviceName, port, e, he, hd | ⟨tenant, hentry⟩⟩)
    · exact .inr ⟨_, hentry, rfl⟩
    · rw [hd]
      exact .inl ⟨e, he⟩
    · exact .inr ⟨_, hentry, e, he⟩

/-- **The topology of an accepted configuration.** For a configuration that the loader accepts,
the pools cannot be built exactly if a tenant has an empty list of its own or if a watcher that
the default or a tenant needs cannot be spawned. Otherwise every tenant with an entry has a pool
that is built from this entry and that no other tenant is routed to. Any other tenant gets the
pool of the default, or is denied with its name in the message, as `on_unknown_tenant` says. -/
theorem startup_topology {raw : RawConfig} (hraw : Config.fromRaw raw = .ok cfg)
    (spawn : SpawnWatcher) :
    ((∃ e, buildTenantRouting cfg spawn = .error e) ↔
      (∃ tenant, (tenant, .static []) ∈ cfg.tenantPools.overrides) ∨
        ∃ ns serviceName port e, spawn ns serviceName port = .error e ∧
          (cfg.discovery = .k8s ns serviceName port ∨
            ∃ tenant, (tenant, .k8s ns serviceName port) ∈ cfg.tenantPools.overrides)) ∧
    ∀ topology, buildTenantRouting cfg spawn = .ok topology →
      (∀ tenant d, (tenant, d) ∈ cfg.tenantPools.overrides →
        ∃ pool, topology.tenants.poolFor tenant = .ok (some pool) ∧
          BuiltFrom spawn cfg.healthCheck d (topology.pools pool) ∧
          ∀ other, topology.tenants.poolFor other = .ok (some pool) → other = tenant) ∧
      (∀ tenant, tenant ∉ cfg.tenantPools.overrides.map Prod.fst →
        match cfg.tenantPools.onUnknownTenant with
        | .useDefault => topology.tenants.poolFor tenant = .ok (some 0) ∧
            BuiltFrom spawn cfg.healthCheck cfg.discovery (topology.pools 0)
        | .reject => topology.tenants.poolFor tenant = .error (.permissionDenied
            ("tenant " ++ debugStr tenant ++ " has no configured pool"))) := by
  refine ⟨buildTenantRouting_fails_iff (fromRaw_discovery hraw), fun topology h => ⟨?_, ?_⟩⟩
  · intro tenant d hentry
    obtain ⟨n, hat⟩ := List.getElem?_of_mem hentry
    obtain ⟨hfor, honly⟩ := poolFor_entry h hat
    have hfrom := builtFrom_poolDiscovery h (n + 1)
    rw [poolDiscovery, hat] at hfrom
    exact ⟨n + 1, hfor, hfrom, honly⟩
  · intro tenant htenant
    have hfor := poolFor_other h htenant
    cases hpolicy : cfg.tenantPools.onUnknownTenant with
    | useDefault =>
      rw [hpolicy] at hfor
      exact ⟨hfor, builtFrom_poolDiscovery h 0⟩
    | reject =>
      rw [hpolicy] at hfor
      exact hfor

end

/-- A file whose only override has an empty list. -/
def emptyOverride : RawConfig where
  backends := some ["be:15002"]
  tenantPools := some ⟨[("a", .static [])], by simp, .useDefault⟩

/-- It gets through the loader, and then startup fails. -/
theorem startup_topology_emptyOverride :
    ∃ cfg, Config.fromRaw emptyOverride = .ok cfg ∧
      ∃ e, buildTenantRouting cfg (fun _ _ _ => .ok fun _ => False) = .error e := by
  obtain ⟨cfg, hcfg⟩ : ∃ cfg, Config.fromRaw emptyOverride = .ok cfg := ⟨_, rfl⟩
  refine ⟨cfg, hcfg, (startup_topology hcfg _).1.mpr (.inl ⟨"a", ?_⟩)⟩
  cases hcfg
  exact List.mem_singleton.mpr rfl

end SparkGateway.Proofs.Startup
