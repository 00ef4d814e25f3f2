import Aeraki.Proof.EnvoyFilter.Generate

/-!
# What the generators read

The controller takes the generator of the first port that has one (`selected`). Of a
context, the generators read no annotations but the workload selector of the
ServiceEntry, and Dubbo's its interface; only Dubbo's and Thrift's read the
VirtualService, and of that its HTTP routes (`generators_alike`). Of the config store,
the Redis generator reads the ports of the hosts that its routes name without a port
(`redis_congr`), and the others nothing.
-/

namespace Aeraki.Proof.EnvoyFilter

open Aeraki.Impl Aeraki.Impl.Controller
open Go (Comp)

/-! ## The generator of a service -/

/-- The protocol whose generator a service gets. -/
def selected (c : Controller) (ports : List ServicePort) : Option Instance :=
  (ports.map fun port => getLayer7ProtocolFromPortName port.name).find? fun protocol => (c.generators protocol).isSome

/-- The generator is that of the selected protocol. -/
theorem generatorOf_eq (c : Controller) : ∀ ports : List ServicePort,
    c.generatorOf ports = (selected c ports).bind c.generators
  | [] => rfl
  | port :: ports => by
    have ih := generatorOf_eq c ports
    unfold Controller.generatorOf selected at *
    rw [List.findSome?_cons, List.map_cons, List.find?_cons]
    cases h : c.generators (getLayer7ProtocolFromPortName port.name) with
    | none => exact ih
    | some g => exact h.symm

/-- Which protocols have generators depends on nothing. -/
theorem selected_controller (d d' : Deployment) (store store' : ConfigStore) (ports : List ServicePort) :
    selected (d.controller store) ports = selected (d'.controller store') ports := by
  have h : (fun protocol => ((d.controller store).generators protocol).isSome) =
      fun protocol => ((d'.controller store').generators protocol).isSome := by
    funext protocol
    cases protocol <;> rfl
  unfold selected
  rw [h]

/-! ## Contexts -/

/-- An object without its annotations. -/
def bare {σ : Type} (x : Config σ) : Config σ := { x with annotations := ∅ }

/-- Two ServiceEntries have the same annotations as far as the generator of a protocol
reads them. -/
structure SameAnnotations (protocol : Instance) (se se' : Config ServiceEntry) : Prop where
  selector : inboundEnvoyFilterWorkloadSelector se = inboundEnvoyFilterWorkloadSelector se'
  interface : protocol = .Dubbo → se.annotations.lookup "interface" = se'.annotations.lookup "interface"

/-- Two ServiceEntries differ in annotations that are not read. -/
structure AlikeEntries (protocol : Instance) (se se' : Config ServiceEntry) : Prop where
  bare : bare se = bare se'
  annotations : SameAnnotations protocol se se'

/-- The generators that read the VirtualService. -/
def ReadsVirtualService (protocol : Instance) : Prop := protocol = .Dubbo ∨ protocol = .Thrift

/-- Two contexts differ in what the generator of a protocol does not read. -/
structure Alike (protocol : Instance) (ctx ctx' : EnvoyFilterContext) : Prop where
  meshConfig : ctx.meshConfig = ctx'.meshConfig
  gateway : ctx.gateway.map bare = ctx'.gateway.map bare
  serviceEntry : AlikeEntries protocol ctx.serviceEntry ctx'.serviceEntry
  virtualService : ReadsVirtualService protocol →
    ctx.virtualService.map (·.spec.http) = ctx'.virtualService.map (·.spec.http)
  metaRouter : ctx.metaRouter = ctx'.metaRouter

theorem SameAnnotations.refl (protocol : Instance) (se : Config ServiceEntry) : SameAnnotations protocol se se :=
  ⟨rfl, fun _ => rfl⟩

theorem AlikeEntries.refl (protocol : Instance) (se : Config ServiceEntry) : AlikeEntries protocol se se :=
  ⟨rfl, .refl protocol se⟩

section

variable {r : Resources} {store : ConfigStore} {protocol : Instance} {g : Generator}
  (hg : generators r store protocol = some g)
include hg

theorem generators_gateway (o : Oracle) (ctx : EnvoyFilterContext) :
    g o { ctx with gateway := ctx.gateway.map bare } = g o ctx := by
  obtain ⟨mesh, gateway, se, vs, metaRouter⟩ := ctx
  cases protocol <;> cases hg <;> cases gateway <;> rfl

theorem generators_virtualService {vs vs' : Option (Config VirtualService)}
    (h : ReadsVirtualService protocol → vs.map (·.spec.http) = vs'.map (·.spec.http)) (o : Oracle)
    (ctx : EnvoyFilterContext) : g o { ctx with virtualService := vs } = g o { ctx with virtualService := vs' } := by
  have hsome {vs vs' : Option (Config VirtualService)} (h : vs.map (·.spec.http) = vs'.map (·.spec.http)) :
      (vs = none ∧ vs' = none) ∨ ∃ x x', vs = some x ∧ vs' = some x' ∧ x.spec.http = x'.spec.http := by
    cases vs with
    | none => exact .inl ⟨rfl, Option.map_eq_none_iff.mp h.symm⟩
    | some x =>
      obtain ⟨x', hx', hh⟩ := Option.map_eq_some_iff.mp h.symm
      exact .inr ⟨x, x', rfl, hx', hh.symm⟩
  cases protocol <;> cases hg
  · rcases hsome (h (.inl rfl)) with ⟨rfl, rfl⟩ | ⟨x, x', rfl, rfl, hh⟩
    · rfl
    · simp only [Dubbo.generate, Dubbo.buildOutboundProxy, Dubbo.buildOutboundRouteConfig, Dubbo.buildRoute, hh]
      rfl
  · rcases hsome (h (.inr rfl)) with ⟨rfl, rfl⟩ | ⟨x, x', rfl, rfl, hh⟩
    · rfl
    · simp only [Thrift.generate, Thrift.buildOutboundProxy, Thrift.buildOutboundRouteConfig, Thrift.buildRoute, hh]
      rfl
  all_goals rfl

omit hg in
theorem generateNetworkFilter_alike {se se' : Config ServiceEntry} (h : AlikeEntries protocol se se') :
    generateNetworkFilter se = generateNetworkFilter se' := by
  have hs := h.annotations.selector
  obtain ⟨⟨name, ns, a⟩, spec⟩ := se
  obtain ⟨⟨name', ns', a'⟩, spec'⟩ := se'
  cases h.bare
  funext port outbound inbound filterName filterType operation
  simp only [generateNetworkFilter, hs]
  rfl

theorem generators_serviceEntry {se se' : Config ServiceEntry} (h : AlikeEntries protocol se se') (o : Oracle)
    (ctx : EnvoyFilterContext) : g o { ctx with serviceEntry := se } = g o { ctx with serviceEntry := se' } := by
  have hn := generateNetworkFilter_alike h
  have hi := h.annotations.interface
  obtain ⟨⟨name, ns, a⟩, spec⟩ := se
  obtain ⟨⟨name', ns', a'⟩, spec'⟩ := se'
  cases h.bare
  cases protocol <;> cases hg
  · -- Dubbo: the interface is an annotation
    have hi : a.lookup "interface" = a'.lookup "interface" := hi rfl
    simp only [Dubbo.generate, Dubbo.buildOutboundProxy, Dubbo.buildOutboundRouteConfig,
      generateReplaceNetworkFilter, hn, hi]
    rfl
  · simp only [Thrift.generate, generateReplaceNetworkFilter, hn]
    rfl
  · simp only [Redis.Generator.generate, Redis.Generator.generatePort, generateReplaceNetworkFilter, hn]
    rfl
  · simp only [Kafka.generate, generateStatFilter, generateInsertBeforeNetworkFilter, hn]
    rfl
  · simp only [Zookeeper.generate, generateStatFilter, generateInsertBeforeNetworkFilter, hn]
    rfl
  · obtain ⟨mesh, gateway, se, vs, metaRouter⟩ := ctx
    cases gateway with
    | none =>
      simp only [MetaProtocol.generate, MetaProtocol.generateSidecarEnvoyFilters, MetaProtocol.generateSidecarPort,
        generateReplaceNetworkFilter, hn]
      rfl
    | some gateway =>
      unfold MetaProtocol.generate MetaProtocol.generateGatewayEnvoyFilters MetaProtocol.generateGatewayServer
      simp only [generateReplaceNetworkFilter, hn]
      rfl

/-- The generators do not tell such contexts apart. -/
theorem generators_alike {ctx ctx' : EnvoyFilterContext} (h : Alike protocol ctx ctx') (o : Oracle) :
    g o ctx = g o ctx' := by
  have he : { ctx' with gateway := ctx'.gateway.map bare } =
      { ctx with gateway := ctx.gateway.map bare, virtualService := ctx'.virtualService,
                 serviceEntry := ctx'.serviceEntry } := by
    simp only [h.meshConfig, h.gateway, h.metaRouter]
  rw [← generators_gateway hg o ctx, ← generators_gateway hg o ctx', he]
  exact (generators_virtualService hg h.virtualService o { ctx with gateway := ctx.gateway.map bare }).trans
    (generators_serviceEntry hg h.serviceEntry o
      { ctx with gateway := ctx.gateway.map bare, virtualService := ctx'.virtualService })

end

/-! ## The config store -/

/-- The host that a Redis route names without a port. -/
def unportedHost (route : Option Redis.Route) : Option String :=
  (route.bind (·.route)).bind fun dest => if dest.port = 0 then some dest.host else none

/-- The hosts whose ports the Redis generator reads. -/
def redisHosts (services : List Redis.RedisService) : List String :=
  services.flatMap fun service => service.redis.filterMap unportedHost

theorem findServicePort_congr {service service' : Option ServiceEntry}
    (h : service.map (·.ports) = service'.map (·.ports)) (port : Nat) (name : String) :
    Redis.findServicePort service port name = Redis.findServicePort service' port name := by
  cases service with
  | none => rw [Option.map_eq_none_iff.mp h.symm]
  | some service =>
    obtain ⟨service', rfl, hports⟩ := Option.map_eq_some_iff.mp h.symm
    simp only [Redis.findServicePort, hports]

theorem destinationPort_congr {dest : Redis.RouteDestination} {hs hs' : GoMap String ServiceEntry}
    (h : dest.port = 0 → (hs.lookup dest.host).map (·.ports) = (hs'.lookup dest.host).map (·.ports)) (port : Nat)
    (name : String) : Redis.destinationPort hs port name dest = Redis.destinationPort hs' port name dest := by
  unfold Redis.destinationPort
  split
  · rename_i hp
    exact findServicePort_congr (h hp) port name
  · rfl

theorem buildPrefixRoute_congr {r : Option Redis.Route} {hs hs' : GoMap String ServiceEntry}
    (h : ∀ host ∈ unportedHost r, (hs.lookup host).map (·.ports) = (hs'.lookup host).map (·.ports)) (port : Nat)
    (name : String) :
    Redis.buildPrefixRoute r hs port name = Redis.buildPrefixRoute r hs' port name := by
  unfold Redis.buildPrefixRoute
  cases r with
  | none => simp only [Go.deref, bind, Except.bind]
  | some route =>
    cases hr : route.route with
    | none => simp only [Go.deref, hr, bind, Except.bind]
    | some dest =>
      have hd := destinationPort_congr (fun hp => h dest.host (by simp [unportedHost, hr, hp])) port name
      simp only [Go.deref, hr, bind, Except.bind, hd]

theorem mem_of_findTarget {g : Redis.Generator} {o : Oracle} {ns : String} {hosts : List String} {host : String}
    {rs : Redis.RedisService} (h : g.findTargetHostAndRedisService o ns hosts = .ok (some (host, rs))) :
    rs ∈ g.redisServices := by
  unfold Redis.Generator.findTargetHostAndRedisService at h
  split at h
  · cases h
  · obtain ⟨x, hx, h⟩ := List.exists_of_findSome?_eq_some (Except.ok.inj h)
    obtain ⟨rs', hrs, h⟩ := Option.map_eq_some_iff.mp h
    cases h
    rw [GoMap.lookup_writeAll, Finmap.lookup_empty, Option.or_none] at hrs
    obtain ⟨service, hs, hm⟩ := List.mem_flatMap.mp (GoMap.mem_of_lastWrite hrs)
    obtain ⟨y, -, hy⟩ := List.mem_map.mp hm
    cases hy
    exact List.mem_of_mem_filter hs

theorem callError_at {o o' : Oracle} (h : o.callError = o'.callError) (s : String) :
    (o.at s).callError = (o'.at s).callError := by
  simp only [Oracle.at, h]

section

variable {g g' : Redis.Generator} {o o' : Oracle} (hsecrets : g.secrets = g'.secrets)
  (hcalls : o.callError = o'.callError)
include hsecrets hcalls

/-- The credentials depend on the secrets, and on how the calls end. -/
theorem password_congr : g.password o = g'.password o' := by
  funext ns auth
  simp only [Redis.Generator.password, Redis.Generator.getSecret, hsecrets, hcalls]

theorem buildSettings_congr : g.buildSettings o = g'.buildSettings o' := by
  funext proxy rs settings
  simp only [Redis.Generator.buildSettings, Redis.Generator.buildAuth, password_congr hsecrets hcalls]

theorem applyRedis_congr : g.applyRedis o = g'.applyRedis o' := by
  funext cl ns host port settings
  simp only [Redis.Generator.applyRedis, password_congr hsecrets hcalls]

end

section

variable {g : Redis.Generator} {store store' : ConfigStore} {o o' : Oracle} (hcalls : o.callError = o'.callError)
include hcalls

theorem buildOutboundProxy_congr {ctx : EnvoyFilterContext}
    (h : ∀ ns, ∀ host ∈ redisHosts g.redisServices,
      (({ g with store := store }.hostServices o ns).lookup host).map ServiceEntry.ports =
        (({ g with store := store' }.hostServices o' ns).lookup host).map ServiceEntry.ports)
    (port : Nat) (name : String) :
    { g with store := store }.buildOutboundProxy o ctx port name =
      { g with store := store' }.buildOutboundProxy o' ctx port name := by
  have hfind : { g with store := store }.findTargetHostAndRedisService o =
      { g with store := store' }.findTargetHostAndRedisService o' := by
    funext ns hosts
    simp only [Redis.Generator.findTargetHostAndRedisService, hcalls]
  have hsettings : { g with store := store }.buildSettings o = { g with store := store' }.buildSettings o' :=
    buildSettings_congr rfl hcalls
  unfold Redis.Generator.buildOutboundProxy
  rw [hfind, hsettings]
  rcases ht : { g with store := store' }.findTargetHostAndRedisService o' ctx.serviceEntry.namespace_
    ctx.serviceEntry.spec.hosts with err | (_ | ⟨targetHost, rs⟩)
  · simp only [ht]
  · simp only [ht]
  · have hr : rs.redis.mapM (Redis.buildPrefixRoute ·
          ({ g with store := store }.hostServices o ctx.serviceEntry.namespace_) port name) =
        rs.redis.mapM (Redis.buildPrefixRoute ·
          ({ g with store := store' }.hostServices o' ctx.serviceEntry.namespace_) port name) :=
      Go.mapM_congr fun route hroute => buildPrefixRoute_congr (fun host hhost => h _ host
        (List.mem_flatMap.mpr ⟨rs, mem_of_findTarget ht, List.mem_filterMap.mpr ⟨route, hroute, hhost⟩⟩)) port name
    simp only [ht, hr]

theorem buildOutboundCluster_congr (ctx : EnvoyFilterContext) (port : Nat) :
    { g with store := store }.buildOutboundCluster o ctx port =
      { g with store := store' }.buildOutboundCluster o' ctx port := by
  have happly : { g with store := store }.applyRedis (o.at "cluster") =
      { g with store := store' }.applyRedis (o'.at "cluster") :=
    applyRedis_congr rfl (callError_at hcalls "cluster")
  simp only [Redis.Generator.buildOutboundCluster, hcalls, happly]

/-- The Redis generator reads the store for the ports of its routes' hosts only. -/
theorem redis_congr (h : ∀ site ns, ∀ host ∈ redisHosts g.redisServices,
      (({ g with store := store }.hostServices (o.at site) ns).lookup host).map ServiceEntry.ports =
        (({ g with store := store' }.hostServices (o'.at site) ns).lookup host).map ServiceEntry.ports)
    (ctx : EnvoyFilterContext) :
    { g with store := store }.generate o ctx = { g with store := store' }.generate o' ctx := by
  have hport (site : String) (port : ServicePort) :
      { g with store := store }.generatePort (o.at site) ctx port =
        { g with store := store' }.generatePort (o'.at site) ctx port := by
    have hproxy := @buildOutboundProxy_congr g store store' _ _ (callError_at hcalls site) ctx (h site)
    have hcluster := @buildOutboundCluster_congr g store store' _ _ (callError_at hcalls site) ctx
    simp only [Redis.Generator.generatePort, Redis.Generator.buildOutboundProxyWithFallback, hproxy, hcluster]
  simp only [Redis.Generator.generate, hport]

end

/-- The Redis generator of a store. -/
def redisGenerator (r : Resources) (store : ConfigStore) : Redis.Generator :=
  { secrets := r.secrets, redisServices := r.redisServices, redisDestinations := r.redisDestinations, store := store }

/-- Two stores with the same ports of those hosts have the same generators. -/
theorem sameGenerators {O : Oracle → Prop} (hO : ∀ o s, O o → O (o.at s)) (d : Deployment)
    {store store' : ConfigStore}
    (h : ∀ o, O o → ∀ ns, ∀ host ∈ redisHosts d.resources.redisServices,
      (((redisGenerator d.resources store).hostServices o ns).lookup host).map (·.ports) =
        (((redisGenerator d.resources store').hostServices o ns).lookup host).map (·.ports)) :
    SameGenerators O (d.controller store) (d.controller store') := fun protocol => by
  cases protocol with
  | Mongo | MySQL | Unsupported => exact .none
  | Redis =>
    refine .some fun o ho ctx => ?_
    exact redis_congr (g := redisGenerator d.resources store) rfl (fun site => h (o.at site) (hO o site ho)) ctx
  | _ => exact .some fun _ _ _ => rfl

/-! ## Listing in order -/

/-- The Redis generator's map of hosts: the last ServiceEntry of a host wins. -/
theorem hostServices_eq {o : Oracle} (ho : InOrder o) (g : Redis.Generator) (ns : String) :
    g.hostServices o ns = GoMap.writeAll ∅ ((g.store.serviceEntries.filter (inNamespace ns ·.namespace_)).flatMap
      fun se => se.spec.hosts.map fun h => (h, se.spec)) := by
  rw [Redis.Generator.hostServices, (ho.at _).list]

end Aeraki.Proof.EnvoyFilter
