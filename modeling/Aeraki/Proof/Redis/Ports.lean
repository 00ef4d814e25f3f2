import Aeraki.Framework.Returns
import Aeraki.Impl.Plugin.Redis
import Aeraki.Proof.EnvoyFilter.NetworkFilter

/-!
# The EnvoyFilters of Redis ports

`generate` makes the proxy and cluster of each Redis port, but puts them into
EnvoyFilters that are named after the service's first port and match its
listeners (`generatePort_ok`). So each Redis port of a service with addresses has
EnvoyFilters of its own if and only if it is the first one (`ownFilters_iff`).
-/

namespace Aeraki.Proof.Redis

open Aeraki.Impl Aeraki.Impl.Redis
open Aeraki.Proof.EnvoyFilter (generateNetworkFilter_eq inboundFilter outboundEnvoyFilterName_inj outboundFilter
  outboundListenerName_inj)
open Go (Comp Returns bind_eq_ok)

/-- The Redis ports of a service, with their positions. -/
def redisPorts (c : EnvoyFilterContext) : List (ServicePort × Nat) :=
  c.serviceEntry.spec.ports.zipIdx.filter (Go.hasPrefix ·.1.name "tcp-redis")

theorem getElem?_of_mem_redisPorts {c : EnvoyFilterContext} {p : ServicePort × Nat} (hp : p ∈ redisPorts c) :
    c.serviceEntry.spec.ports[p.2]? = some p.1 :=
  List.mem_zipIdx_iff_getElem?.mp (List.mem_filter.mp hp).1

/-- Ports with distinct numbers are told apart by them. -/
theorem redisPorts_inj {c : EnvoyFilterContext} (hports : (c.serviceEntry.spec.ports.map (·.number)).Nodup)
    {i j : Nat} {p q : ServicePort} (hp : c.serviceEntry.spec.ports[i]? = some p)
    (hq : c.serviceEntry.spec.ports[j]? = some q) (h : p.number = q.number) : i = j := by
  have number {i : Nat} {p : ServicePort} (hp : c.serviceEntry.spec.ports[i]? = some p) :
      (c.serviceEntry.spec.ports.map (·.number))[i]? = some p.number := by
    rw [List.getElem?_map, hp]
    rfl
  refine (List.getElem?_inj (List.getElem?_eq_some_iff.mp (number hp)).1 hports).mp ?_
  rw [number hp, number hq, h]

section

variable (g : Redis.Generator) (o : Oracle) (c : EnvoyFilterContext)

/-- The proxy of a port. -/
def portProxy (p : ServicePort × Nat) : Comp RedisProxy :=
  g.buildOutboundProxyWithFallback (o.at (Go.itoa p.2)) c p.1.number p.1.name

/-- The cluster of a port. -/
def portCluster (p : ServicePort × Nat) : Comp (Option Cluster) :=
  g.buildOutboundCluster (o.at (Go.itoa p.2)) c p.1.number

/-- The network filter with a proxy. -/
def redisFilter (proxy : RedisProxy) : PatchValue :=
  generateValue (.redis proxy) "envoy.filters.network.redis_proxy"
    "type.googleapis.com/envoy.extensions.filters.network.redis_proxy.v3.RedisProxy"

/-- The patches of a proxy, at a listener, and of a cluster. -/
def redisPatches (listener : String) (proxy : RedisProxy) (cluster : Option Cluster) : List ConfigPatch :=
  { applyTo := .NETWORK_FILTER
    match_ := some (.listener listener none tcpProxy)
    operation := .REPLACE
    value := some (redisFilter proxy) } :: cluster.elim [] replaceClusterPatches

/-- The EnvoyFilter is an outbound one that patches the port's listener of the
address, with the port's proxy and cluster. -/
def BuiltFor (p : ServicePort × Nat) (address : String) (w : EnvoyFilterWrapper) : Prop :=
  w.envoyfilter.workloadSelector = none ∧
    ∃ proxy cluster, portProxy g o c p = .ok proxy ∧ portCluster g o c p = .ok cluster ∧
      w.envoyfilter.configPatches = redisPatches (outboundListenerName address p.1.number) proxy cluster

/-- Each Redis port has an EnvoyFilter at each address, and their names are
different. -/
def OwnFilters : Prop :=
  ∃ filters, g.generate o c = .ok (.ok filters) ∧
    (∀ p ∈ redisPorts c, ∀ address ∈ c.serviceEntry.spec.addresses, ∃ w ∈ filters, BuiltFor g o c p address w) ∧
    ∀ p ∈ redisPorts c, ∀ p' ∈ redisPorts c, ∀ address address', (p, address) ≠ (p', address') →
      ∀ w ∈ filters, ∀ w' ∈ filters, BuiltFor g o c p address w → BuiltFor g o c p' address' w' → w.name ≠ w'.name

end

variable {g : Redis.Generator} {o : Oracle} {c : EnvoyFilterContext} {p : ServicePort × Nat}

/-! ## One port -/

/-- The EnvoyFilter of an address. -/
def portFilter (host address : String) (port : Nat) (proxy : RedisProxy) (cluster : Option Cluster) :
    EnvoyFilterWrapper where
  name := outboundEnvoyFilterName host address port
  envoyfilter := { configPatches := redisPatches (outboundListenerName address port) proxy cluster }

/-- The patches of a cluster are added to outbound EnvoyFilters only. -/
theorem elim_addClusterPatches_selector (cluster : Option Cluster) (w : EnvoyFilterWrapper) :
    (cluster.elim w (addClusterPatches · w)).envoyfilter.workloadSelector = w.envoyfilter.workloadSelector := by
  cases cluster with
  | none => rfl
  | some cluster =>
    rw [Option.elim_some, addClusterPatches]
    split <;> rfl

/-- What a port's filters are: named after the first port. -/
theorem generatePort_ok {host : String} {hosts : List String} (hh : c.serviceEntry.spec.hosts = host :: hosts)
    {ws : List EnvoyFilterWrapper} (h : g.generatePort (o.at (Go.itoa p.2)) c p.1 = .ok ws) :
    ∃ first proxy cluster inbound, c.serviceEntry.spec.ports[0]? = some first ∧ portProxy g o c p = .ok proxy ∧
      portCluster g o c p = .ok cluster ∧
      ws = c.serviceEntry.spec.addresses.map (portFilter host · first.number proxy cluster) ++ inbound ∧
      ∀ w ∈ inbound, w.envoyfilter.workloadSelector ≠ none := by
  obtain ⟨first, hfirst, h⟩ := bind_eq_ok.mp h
  obtain ⟨proxy, hproxy, h⟩ := bind_eq_ok.mp h
  obtain ⟨inboundProxy, -, h⟩ := bind_eq_ok.mp h
  obtain ⟨filters, hfilters, h⟩ := bind_eq_ok.mp h
  obtain ⟨cluster, hcluster, h⟩ := bind_eq_ok.mp h
  have hws : ws = filters.map fun w => cluster.elim w (addClusterPatches · w) := by
    cases cluster with
    | none =>
      cases h
      exact (List.map_id _).symm
    | some cluster =>
      cases h
      rfl
  rw [generateReplaceNetworkFilter, generateNetworkFilter_eq hh] at hfilters
  cases hfilters
  rw [Option.elim_some, Option.elim_some, List.map_append, List.map_map] at hws
  have houtbound : ((fun w => cluster.elim w (addClusterPatches · w)) ∘ fun address =>
      outboundFilter host address first.number .REPLACE (redisFilter proxy)) =
        (portFilter host · first.number proxy cluster) := by
    cases cluster <;> rfl
  rw [← redisFilter, houtbound] at hws
  refine ⟨first, proxy, cluster, _, Go.index_eq_ok.mp hfirst, hproxy, hcluster, hws, fun w hw => ?_⟩
  obtain ⟨filter, hfilter, rfl⟩ := List.mem_map.mp hw
  rw [elim_addClusterPatches_selector]
  split at hfilter
  · rw [List.mem_singleton.mp hfilter]
    exact Option.some_ne_none _
  · cases hfilter

/-- A port's filters are generated if its proxy and cluster are. -/
theorem returns_generatePort (hp : p ∈ redisPorts c) :
    Returns (g.generatePort (o.at (Go.itoa p.2)) c p.1) ↔
      Returns (portProxy g o c p) ∧ Returns (portCluster g o c p) := by
  constructor
  · rintro ⟨ws, h⟩
    obtain ⟨_, -, h⟩ := bind_eq_ok.mp h
    obtain ⟨proxy, hproxy, h⟩ := bind_eq_ok.mp h
    obtain ⟨_, -, h⟩ := bind_eq_ok.mp h
    obtain ⟨_, -, h⟩ := bind_eq_ok.mp h
    obtain ⟨cluster, hcluster, -⟩ := bind_eq_ok.mp h
    exact ⟨⟨proxy, hproxy⟩, cluster, hcluster⟩
  · rintro ⟨⟨proxy, hproxy⟩, cluster, hcluster⟩
    obtain ⟨host, hhost, -⟩ := bind_eq_ok.mp hcluster
    cases hh : c.serviceEntry.spec.hosts with
    | nil =>
      rw [hh] at hhost
      cases hhost
    | cons host hosts =>
      cases hports : c.serviceEntry.spec.ports with
      | nil =>
        have hp := getElem?_of_mem_redisPorts hp
        rw [hports] at hp
        cases hp
      | cons first rest =>
        unfold Generator.generatePort buildInboundProxy
        rw [hports, Go.index_zero_cons]
        refine Go.returns_bind.mpr ⟨first, rfl, Go.returns_bind.mpr ⟨proxy, hproxy, Go.returns_bind.mpr ⟨_, rfl,
          Go.returns_bind.mpr ⟨_, generateNetworkFilter_eq hh _ _ _ _ _ _, Go.returns_bind.mpr ⟨cluster, hcluster, ?_⟩⟩⟩⟩⟩
        cases cluster <;> exact Go.returns_pure _

/-! ## All ports -/

theorem returns_generate :
    (∃ filters, g.generate o c = .ok (.ok filters)) ↔
      ∀ p ∈ redisPorts c, Returns (portProxy g o c p) ∧ Returns (portCluster g o c p) := by
  have hloop : Returns ((redisPorts c).mapM fun p => g.generatePort (o.at (Go.itoa p.2)) c p.1) ↔ _ := Go.returns_mapM
  rw [← forall₂_congr fun p (hp : p ∈ redisPorts c) => returns_generatePort hp, ← hloop]
  constructor
  · rintro ⟨filters, h⟩
    obtain ⟨wss, hwss, -⟩ := bind_eq_ok.mp h
    exact ⟨wss, hwss⟩
  · rintro ⟨wss, hwss⟩
    exact ⟨wss.flatten, bind_eq_ok.mpr ⟨wss, hwss, rfl⟩⟩

/-- A cluster is built for a service that has a host. -/
theorem exists_host {cluster : Option Cluster} (h : portCluster g o c p = .ok cluster) :
    ∃ host hosts, c.serviceEntry.spec.hosts = host :: hosts := by
  obtain ⟨host, hhost, -⟩ := bind_eq_ok.mp h
  exact List.exists_cons_of_ne_nil (Go.returns_index_zero.mp ⟨host, hhost⟩)

theorem BuiltFor.host {address : String} {w : EnvoyFilterWrapper} (hb : BuiltFor g o c p address w) :
    ∃ host hosts, c.serviceEntry.spec.hosts = host :: hosts := by
  obtain ⟨-, -, cluster, -, hcluster, -⟩ := hb
  exact exists_host hcluster

/-- An EnvoyFilter that is built for a port and an address is named after them,
and the port has the first one's number. -/
theorem BuiltFor.first {filters : List EnvoyFilterWrapper} (h : g.generate o c = .ok (.ok filters))
    {w : EnvoyFilterWrapper} (hw : w ∈ filters) {address : String} (hb : BuiltFor g o c p address w) :
    ∃ first, c.serviceEntry.spec.ports[0]? = some first ∧ p.1.number = first.number ∧
      ∀ host hosts, c.serviceEntry.spec.hosts = host :: hosts →
        w.name = outboundEnvoyFilterName host address p.1.number := by
  obtain ⟨host, hosts, hh⟩ := hb.host
  obtain ⟨houtbound, proxy, cluster, -, -, hpatches⟩ := hb
  obtain ⟨wss, hwss, h⟩ := bind_eq_ok.mp h
  cases h
  obtain ⟨ws, hws, hw⟩ := List.mem_flatten.mp hw
  obtain ⟨p', -, h⟩ := Go.mem_of_mapM_ok hwss hws
  obtain ⟨first, proxy', cluster', inbound, hfirst, -, -, rfl, hinbound⟩ := generatePort_ok hh h
  rcases List.mem_append.mp hw with hw | hw
  · obtain ⟨address', -, rfl⟩ := List.mem_map.mp hw
    have hlistener := (List.cons.inj hpatches).1
    simp only [ConfigPatch.mk.injEq, Option.some.injEq, ObjectMatch.listener.injEq] at hlistener
    obtain ⟨rfl, hnumber⟩ := outboundListenerName_inj.mp hlistener.2.1.1
    refine ⟨first, hfirst, hnumber.symm, fun host' hosts' hh' => ?_⟩
    rw [hh] at hh'
    cases hh'
    rw [← hnumber]
    rfl
  · exact absurd houtbound (hinbound w hw)

/-- The first port has an EnvoyFilter at each address. -/
theorem exists_builtFor {filters : List EnvoyFilterWrapper} (h : g.generate o c = .ok (.ok filters))
    (hp : p ∈ redisPorts c) (hpos : p.2 = 0) {address : String} (haddress : address ∈ c.serviceEntry.spec.addresses) :
    ∃ w ∈ filters, BuiltFor g o c p address w := by
  obtain ⟨wss, hwss, h⟩ := bind_eq_ok.mp h
  cases h
  obtain ⟨ws, hws, h⟩ := Go.mapM_ok_mem hwss hp
  obtain ⟨cluster, hcluster⟩ := ((returns_generatePort hp).mp ⟨ws, h⟩).2
  obtain ⟨host, hosts, hh⟩ := exists_host hcluster
  obtain ⟨first, proxy, cluster, inbound, hfirst, hproxy, hcluster, rfl, -⟩ := generatePort_ok hh h
  have hp := getElem?_of_mem_redisPorts hp
  rw [hpos, hfirst] at hp
  cases hp
  refine ⟨portFilter host address p.1.number proxy cluster, List.mem_flatten.mpr ⟨_, hws, ?_⟩, rfl, proxy, cluster,
    hproxy, hcluster, rfl⟩
  exact List.mem_append_left _ (List.mem_map.mpr ⟨address, haddress, rfl⟩)

/-- EnvoyFilters that are built for different ports or addresses have different
names. -/
theorem BuiltFor.name_ne (hports : (c.serviceEntry.spec.ports.map (·.number)).Nodup)
    {filters : List EnvoyFilterWrapper} (h : g.generate o c = .ok (.ok filters)) {p' : ServicePort × Nat}
    (hp : p ∈ redisPorts c) (hp' : p' ∈ redisPorts c) {address address' : String}
    (hne : (p, address) ≠ (p', address')) {w w' : EnvoyFilterWrapper} (hw : w ∈ filters) (hw' : w' ∈ filters)
    (hb : BuiltFor g o c p address w) (hb' : BuiltFor g o c p' address' w') : w.name ≠ w'.name := by
  intro hname
  obtain ⟨host, hosts, hh⟩ := hb.host
  obtain ⟨-, -, -, hn⟩ := hb.first h hw
  obtain ⟨-, -, -, hn'⟩ := hb'.first h hw'
  rw [hn host hosts hh, hn' host hosts hh, outboundEnvoyFilterName_inj] at hname
  obtain ⟨rfl, hnumber⟩ := hname
  have hp := getElem?_of_mem_redisPorts hp
  have hp' := getElem?_of_mem_redisPorts hp'
  have hpos := redisPorts_inj hports hp hp' hnumber
  rw [hpos, hp'] at hp
  exact hne (congrArg (·, address) (Prod.ext (Option.some.inj hp).symm hpos))

/-- Each Redis port of a service with distinct port
numbers has EnvoyFilters of its own exactly if proxies and clusters can be built
and, at a service with addresses, no Redis port comes after the first port. -/
theorem ownFilters_iff (hports : (c.serviceEntry.spec.ports.map (·.number)).Nodup) :
    OwnFilters g o c ↔
      (∀ p ∈ redisPorts c, Returns (portProxy g o c p) ∧ Returns (portCluster g o c p)) ∧
      (c.serviceEntry.spec.addresses ≠ [] → ∀ p ∈ redisPorts c, p.2 = 0) := by
  constructor
  · rintro ⟨filters, h, hown, -⟩
    refine ⟨returns_generate.mp ⟨filters, h⟩, fun haddresses p hp => ?_⟩
    obtain ⟨address, haddress⟩ := List.exists_mem_of_ne_nil _ haddresses
    obtain ⟨w, hw, hb⟩ := hown p hp address haddress
    obtain ⟨first, hfirst, hnumber, -⟩ := hb.first h hw
    exact redisPorts_inj hports (getElem?_of_mem_redisPorts hp) hfirst hnumber
  · rintro ⟨hreturns, hfirst⟩
    obtain ⟨filters, h⟩ := returns_generate.mpr hreturns
    refine ⟨filters, h, fun p hp address haddress => ?_, fun p hp p' hp' address address' hne w hw w' hw' => ?_⟩
    · exact exists_builtFor h hp (hfirst (List.ne_nil_of_mem haddress) p hp) haddress
    · exact BuiltFor.name_ne hports h hp hp' hne hw hw'

/-- A Redis service with one address. -/
def redisService (ports : List ServicePort) : EnvoyFilterContext where
  meshConfig := {}
  serviceEntry :=
    { name := "redis", namespace_ := "ns"
      spec := { hosts := ["redis.ns"], addresses := ["10.0.0.1"], ports := ports } }

theorem first_port_own : OwnFilters { store := {} } {}
    (redisService [{ number := 6379, name := "tcp-redis" }, { number := 80, name := "http" }]) := by
  refine (ownFilters_iff (by decide)).mpr ⟨fun p hp => ?_, fun _ p hp => ?_⟩
  all_goals
    rw [show redisPorts _ = [({ number := 6379, name := "tcp-redis" }, 0)] by decide +kernel, List.mem_singleton] at hp
    cases hp
  · exact ⟨⟨_, rfl⟩, _, rfl⟩
  · rfl

/-- The outbound EnvoyFilters of two Redis ports have one name and match the listener of
the first. -/
theorem second_port_lost : ∃ filters,
    Generator.generate { store := {} } {} (redisService [{ number := 6379, name := "tcp-redis" },
      { number := 6380, name := "tcp-redis-replica" }]) = .ok (.ok filters) ∧
    (filters.filter (·.envoyfilter.workloadSelector.isNone)).map (·.name) =
      ["aeraki-outbound-redis.ns-10.0.0.1-6379", "aeraki-outbound-redis.ns-10.0.0.1-6379"] ∧
    ∀ w ∈ filters, ∀ patch ∈ w.envoyfilter.configPatches,
      patch.match_ ≠ some (.listener "10.0.0.1_6380" none tcpProxy) := by
  refine ⟨_, rfl, ?_, ?_⟩
  · decide +kernel
  · decide +kernel

end Aeraki.Proof.Redis
