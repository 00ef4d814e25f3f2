import Aeraki.Proof.Dubbo.Authorization
import Aeraki.Proof.EnvoyFilter.Context
import Aeraki.Proof.EnvoyFilter.Destinations
import Aeraki.Proof.EnvoyFilter.Generate
import Aeraki.Proof.MetaProtocol.PortNames
import Aeraki.Proof.MetaProtocol.RateLimit
import Aeraki.Proof.Redis.Cluster
import Aeraki.Proof.Redis.Mirrors
import Aeraki.Proof.Redis.Ports

/-!
# Inputs for which generation does not panic

What the generators read through pointers and by index, as conditions on their
inputs (`WellFormed`): the webhook checks those on MetaRouters but for one, and
nothing checks the others. With them `generateEnvoyFilters` returns, whatever
calls fail and in whatever order maps and stores are read
(`returns_generateEnvoyFilters`).
-/

namespace Aeraki.Proof.EnvoyFilter

open Aeraki.Impl Aeraki.Impl.Controller
open Aeraki.Proof.Webhook (Accepts)
open Aeraki.Proof.Dubbo (inForce EntriesSet)
open Go (Comp Returns returns_bind returns_bind_iff returns_pure returns_mapM returns_index_zero)

/-! ## Well-formed inputs -/

/-- A port of MetaProtocol names its application protocol. -/
def NamesProtocol (port : ServicePort) : Prop :=
  (getLayer7ProtocolFromPortName port.name).isMetaProtocol = true → (Go.split port.name '-').length ≠ 2

/-- The policies of one action have as many rules as there are policies at most,
and the entries of the rules are set. -/
structure Compilable (policies : List Dubbo.DubboAuthorizationPolicy) : Prop where
  inRange : ∀ p ∈ policies, p.rules.length ≤ policies.length
  set : ∀ p ∈ policies, ∀ rule, some rule ∈ p.rules → EntriesSet rule

theorem compilable_nil : Compilable [] where
  inRange p hp := by cases hp
  set p hp := by cases hp

/-- What is read of a RedisService is set. -/
structure IsSetService (rs : Redis.RedisService) : Prop where
  faults : ∀ f ∈ rs.faults, ∃ fault, f = some fault ∧ fault.percentage ≠ none
  routes : ∀ r ∈ rs.redis, ∃ route dest, r = some route ∧ route.route = some dest ∧
    ∀ mirror ∈ route.mirror, ∃ m d, mirror = some m ∧ m.percentage ≠ none ∧ m.route = some d

/-- The RedisDestination gives no keepalive value. -/
def NoKeepalive (d : Redis.RedisDestination) : Prop :=
  ∀ k ∈ ((d.trafficPolicy.bind (·.connectionPool)).bind (·.tcp)).bind (·.tcpKeepalive), k = {}

/-- What the generators read is there. -/
structure WellFormed (d : Deployment) (store : ConfigStore) : Prop where
  accepted : ∀ m ∈ d.metaRouters, ∃ lib o, Accepts lib o m
  timeouts : ∀ m ∈ d.metaRouters, ∀ limit ∈ m.globalRateLimit, limit.requestTimeout.isSome = true
  routed : ∀ vs ∈ store.virtualServices, ∀ http ∈ vs.spec.http, HasDestinations http
  ports : ∀ se ∈ store.serviceEntries, ∀ port ∈ se.spec.ports, NamesProtocol port
  servers : ∀ gateway ∈ store.gateways, ∀ server ∈ gateway.spec.servers, ∀ port ∈ server.port, NamesProtocol port
  tracing : d.meshConfig.enableTracing = true → d.meshConfig.defaultConfig ≠ none
  policies : ∀ ns action, Compilable (inForce d.resources.policies ns action)
  redisServices : ∀ rs ∈ d.resources.redisServices, IsSetService rs
  redisDestinations : ∀ rd ∈ d.resources.redisDestinations, NoKeepalive rd

/-! ## Services with a host and a port -/

section

variable {context : EnvoyFilterContext} (hl : Located context.serviceEntry.spec)
include hl

theorem returns_statPrefix (direction : TrafficDirection) : Returns (statPrefix direction context) :=
  returns_located.mpr hl

theorem returns_firstPort : Returns (Go.index context.serviceEntry.spec.ports 0) := returns_index_zero.mpr hl.2

theorem returns_networkFilter (port : ServicePort) (outbound inbound : Option Proxy) (filterName filterType : String)
    (operation : PatchOperation) :
    Returns (generateNetworkFilter context.serviceEntry port outbound inbound filterName filterType operation) := by
  obtain ⟨host, hosts, hhosts⟩ := List.exists_cons_of_ne_nil hl.1
  exact ⟨_, generateNetworkFilter_eq hhosts ..⟩

theorem returns_statFilter (proxy : String → Proxy) (filterName filterType : String) :
    Returns (generateStatFilter proxy filterName filterType context) := by
  obtain ⟨outbound, hout⟩ := returns_statPrefix hl .outbound
  obtain ⟨inbound, hin⟩ := returns_statPrefix hl .inbound
  obtain ⟨port, hport⟩ := returns_firstPort hl
  obtain ⟨ws, hws⟩ := returns_networkFilter hl port (some (proxy outbound)) (some (proxy inbound)) filterName filterType
    .INSERT_BEFORE
  refine returns_bind.mpr ⟨outbound, hout, returns_bind.mpr ⟨inbound, hin, returns_bind.mpr ⟨ws, ?_, returns_pure _⟩⟩⟩
  exact Go.bind_eq_ok.mpr ⟨port, hport, hws⟩

theorem returns_thrift (hr : AllRouted context) : Returns (Thrift.generate context) := by
  obtain ⟨port, hport⟩ := returns_firstPort hl
  obtain ⟨config, hconfig⟩ := returns_thriftConfig.mpr ⟨hl, hr⟩
  have hproxy : ∀ route direction, Returns (Thrift.newThriftProxy context route direction) := fun route direction =>
    (returns_bind_iff fun _ => returns_pure _).mpr (returns_statPrefix hl direction)
  obtain ⟨outbound, hout⟩ := hproxy config .outbound
  obtain ⟨inbound, hin⟩ : Returns (Thrift.buildInboundProxy context) := by
    obtain ⟨clusterName, hname⟩ := returns_statPrefix hl .inbound
    exact returns_bind.mpr ⟨_, Go.bind_eq_ok.mpr ⟨clusterName, hname, rfl⟩, hproxy _ .inbound⟩
  have hout : Thrift.buildOutboundProxy context = .ok outbound := Go.bind_eq_ok.mpr ⟨config, hconfig, hout⟩
  refine returns_bind.mpr ⟨port, hport, returns_bind.mpr ⟨outbound, hout, returns_bind.mpr ⟨inbound, hin, ?_⟩⟩⟩
  exact (returns_bind_iff fun _ => returns_pure _).mpr (returns_networkFilter hl port ..)

/-! ## Dubbo -/

omit hl in
theorem returns_build {policies : List Dubbo.DubboAuthorizationPolicy} (h : Compilable policies)
    (td : Dubbo.TrustDomainBundle) (action : Dubbo.RbacAction) : Returns (Dubbo.build policies td action) := by
  by_cases hnil : policies = []
  · subst hnil
    exact ⟨none, rfl⟩
  · obtain ⟨ws, hws⟩ : ∃ ws, Dubbo.Writes policies td action (Dubbo.nonNil (Dubbo.cells policies)) ws := by
      refine Dubbo.exists_writes fun ⟨rule, j⟩ hc => ?_
      obtain ⟨i, hi⟩ := Dubbo.mem_nonNil_cells.mp hc
      obtain ⟨p, hp, hr⟩ := Option.bind_eq_some_iff.mp hi
      exact h.set p (List.mem_of_getElem? hp) rule (List.mem_of_getElem? (Option.join_eq_some_iff.mp hr))
    refine ⟨some ⟨action, GoMap.writeAll ∅ ws⟩, Dubbo.build_eq_ok.mpr ⟨h.inRange, ws, rfl, ?_, ?_, hws⟩⟩
    · exact ⟨(fun e => nomatch e), fun e => absurd e hnil⟩
    · rintro _ ⟨⟩; rfl

theorem returns_dubbo {policies : List Dubbo.DubboAuthorizationPolicy} (hr : AllRouted context)
    (hp : ∀ ns action, Compilable (inForce policies ns action)) (td : Dubbo.TrustDomainBundle) (o : Oracle) :
    Returns (Dubbo.generate td policies o context) := by
  obtain ⟨port, hport⟩ := returns_firstPort hl
  obtain ⟨outbound, hout⟩ : Returns (Dubbo.buildOutboundProxy o context) := by
    obtain ⟨config, hconfig⟩ := returns_dubboConfig.mpr (.inr ⟨hl, hr⟩)
    refine returns_bind.mpr ⟨config, hconfig, ?_⟩
    cases config with
    | error e => exact returns_pure _
    | ok route => exact (returns_bind_iff fun _ => returns_pure _).mpr (returns_statPrefix hl .outbound)
  have hfilters : ∀ listed, (∀ all, listed = .ok all → all = policies) →
      Returns (Dubbo.Builder.new td context.serviceEntry.namespace_ listed).buildDubboFilter := by
    intro listed hall
    have hcomp : Compilable (Dubbo.Builder.new td context.serviceEntry.namespace_ listed).denyPolicies ∧
        Compilable (Dubbo.Builder.new td context.serviceEntry.namespace_ listed).allowPolicies := by
      cases listed with
      | error e => exact ⟨compilable_nil, compilable_nil⟩
      | ok all =>
        rw [hall all rfl]
        exact ⟨hp _ .DENY, hp _ .ALLOW⟩
    obtain ⟨deny, hdeny⟩ := returns_build hcomp.1
      (Dubbo.Builder.new td context.serviceEntry.namespace_ listed).trustDomainBundle .DENY
    refine returns_bind.mpr ⟨deny, hdeny, ?_⟩
    exact (returns_bind_iff fun _ => returns_pure _).mpr (returns_build hcomp.2 _ .ALLOW)
  have hinbound : ∀ listed, (∀ all, listed = .ok all → all = policies) →
      Returns (Dubbo.buildInboundProxy td listed context) := by
    intro listed hall
    obtain ⟨filters, hf⟩ := hfilters listed hall
    refine returns_bind.mpr ⟨_, Go.bind_eq_ok.mpr ⟨port, hport, rfl⟩, returns_bind.mpr ⟨filters, hf, ?_⟩⟩
    exact (returns_bind_iff fun _ => returns_pure _).mpr (returns_statPrefix hl .inbound)
  refine returns_bind.mpr ⟨port, hport, returns_bind.mpr ⟨outbound, hout, ?_⟩⟩
  obtain ⟨inbound, hin⟩ := hinbound (Dubbo.listed policies o) fun all h => by
    unfold Dubbo.listed at h
    split at h
    · cases h
    · exact (Except.ok.inj h).symm
  refine returns_bind.mpr ⟨inbound, hin, ?_⟩
  exact (returns_bind_iff fun _ => returns_pure _).mpr (returns_networkFilter hl port ..)

end

/-! ## MetaProtocol -/

section

variable {context : EnvoyFilterContext}

/-- The rate limits of the context's MetaRouter can be read. -/
theorem returns_buildInboundFilters {metaRouter : Option MetaRouter}
    (haccepted : ∀ m ∈ metaRouter, ∃ lib o, Accepts lib o m)
    (htimeouts : ∀ m ∈ metaRouter, ∀ limit ∈ m.globalRateLimit, limit.requestTimeout.isSome = true) (o : Oracle)
    (host : String) : Returns (MetaProtocol.buildInboundFilters o metaRouter host) := by
  cases metaRouter with
  | none => exact returns_pure _
  | some m =>
    obtain ⟨lib, o', h⟩ := haccepted m rfl
    obtain ⟨fs, -, hbuild⟩ := MetaProtocol.buildInboundFilters_accepted h o host
    rw [hbuild]
    cases hg : m.globalRateLimit with
    | none => exact returns_pure _
    | some limit =>
      obtain ⟨t, ht⟩ := Option.isSome_iff_exists.mp (htimeouts m rfl limit hg)
      have hglobal := MetaProtocol.appendGlobalRateLimitFilter_accepted h hg (o.at "global") fs
      rw [ht] at hglobal
      obtain ⟨config, hc⟩ := hglobal
      exact returns_bind.mpr ⟨_, hc, returns_pure _⟩

theorem returns_metaProtocol (codecs : Codecs) (o : Oracle) (hhost : context.serviceEntry.spec.hosts ≠ [])
    (htracing : context.meshConfig.enableTracing = true → context.meshConfig.defaultConfig ≠ none)
    (haccepted : ∀ m ∈ context.metaRouter, ∃ lib o, Accepts lib o m)
    (htimeouts : ∀ m ∈ context.metaRouter, ∀ limit ∈ m.globalRateLimit, limit.requestTimeout.isSome = true)
    (hnames : ∀ p ∈ MetaProtocol.candidates context, (Go.split p.1.name '-').length ≠ 2) :
    Returns (MetaProtocol.generate codecs o context) := by
  refine MetaProtocol.returns_generate.mpr fun i p hi hpanics => ?_
  rcases hpanics with hlen | ⟨-, hready | ⟨filters, hf, hno⟩⟩
  · exact absurd hlen (hnames p (List.mem_of_getElem? hi))
  · exact absurd ⟨hhost, htracing⟩ hready
  · unfold MetaProtocol.limits at hf
    split at hf
    · obtain ⟨host, -, rfl⟩ := Option.map_eq_some_iff.mp hf
      exact absurd (returns_buildInboundFilters haccepted htimeouts _ host) hno
    · cases hf

end

/-! ## Redis -/

section

variable {g : Redis.Generator} {context : EnvoyFilterContext}

theorem returns_percent {p : Option Float64} (h : p ≠ none) :
    Returns (Redis.translatePercentToFractionalPercent p) := by
  obtain ⟨x, rfl⟩ := Option.ne_none_iff_exists'.mp h
  exact returns_pure _

theorem returns_prefixRoute {rs : Redis.RedisService} (hset : IsSetService rs) {r : Option Redis.Route}
    (hr : r ∈ rs.redis) (hostServices : GoMap String ServiceEntry) (listenPort : Nat) (listenPortName : String) :
    Returns (Redis.buildPrefixRoute r hostServices listenPort listenPortName) := by
  obtain ⟨route, dest, rfl, hdest, hmirrors⟩ := hset.routes r hr
  obtain ⟨mirrors, hm⟩ : Returns (route.mirror.mapM
      (Redis.mirrorPolicy (Redis.destinationPort hostServices listenPort listenPortName dest))) := by
    refine returns_mapM.mpr fun mirror hmem => ?_
    obtain ⟨m, d, rfl, hp, hd⟩ := hmirrors mirror hmem
    obtain ⟨fraction, hf⟩ := returns_percent hp
    refine returns_bind.mpr ⟨m, rfl, returns_bind.mpr ⟨fraction, hf, returns_bind.mpr ⟨d, ?_, returns_pure _⟩⟩⟩
    exact Go.deref_eq_ok.mpr hd
  obtain ⟨route', all, h, -⟩ := Redis.buildPrefixRoute_iff.mpr ⟨dest, hdest, hm⟩
  exact ⟨_, h⟩

theorem returns_redisProxy (hset : ∀ rs ∈ g.redisServices, IsSetService rs)
    (hhost : context.serviceEntry.spec.hosts ≠ []) (o : Oracle) (listenPort : Nat) (listenPortName : String) :
    Returns (g.buildOutboundProxyWithFallback o context listenPort listenPortName) := by
  have hproxy : Returns (g.buildOutboundProxy o context listenPort listenPortName) := by
    unfold Redis.Generator.buildOutboundProxy
    split
    · exact returns_pure _
    · exact returns_pure _
    · rename_i targetHost rs hfind
      have hrs := hset rs (mem_of_findTarget hfind)
      obtain ⟨faults, hfaults⟩ : Returns (rs.faults.mapM Redis.convertFault) := by
        refine returns_mapM.mpr fun f hf => ?_
        obtain ⟨fault, rfl, hp⟩ := hrs.faults f hf
        exact returns_bind.mpr ⟨fault, rfl, (returns_bind_iff fun _ => returns_pure _).mpr (returns_percent hp)⟩
      refine returns_bind.mpr ⟨faults, hfaults, ?_⟩
      dsimp only
      split
      · exact returns_pure _
      · split
        · exact returns_pure _
        · refine (returns_bind_iff fun _ => returns_pure _).mpr (returns_mapM.mpr fun r hr => ?_)
          exact returns_prefixRoute hrs hr ..
  obtain ⟨proxy, hproxy⟩ := hproxy
  refine returns_bind.mpr ⟨proxy, hproxy, ?_⟩
  have hfallback := (returns_bind_iff (f := fun host : String => (pure {
      statPrefix := Redis.outboundClusterName host listenPort
      settings := { opTimeout := Redis.defaultOpTimeout }
      catchAllRoute := some { cluster := Redis.outboundClusterName host listenPort } } : Comp RedisProxy))
    fun _ => returns_pure _).mpr (returns_index_zero.mpr hhost)
  rcases proxy with e | (_ | proxy)
  · exact hfallback
  · exact hfallback
  · exact returns_pure _

theorem returns_redisCluster (hkeep : ∀ d ∈ g.redisDestinations, NoKeepalive d)
    (hhost : context.serviceEntry.spec.hosts ≠ []) (o : Oracle) (listenPort : Nat) :
    Returns (g.buildOutboundCluster o context listenPort) := by
  obtain ⟨host, hosts, hhosts⟩ := List.exists_cons_of_ne_nil hhost
  by_cases hup : Redis.GivenUp g o context listenPort host
  · exact ⟨none, hup.built hhosts⟩
  · cases ht : Redis.target g context with
    | none =>
      rw [Redis.buildOutboundCluster_eq hhosts, ht]
      split <;> exact returns_pure _
    | some t =>
      obtain ⟨d, pool⟩ := t
      obtain ⟨cl, cl', -, -, -, hbuilt⟩ := Redis.built_of_not_givenUp hhosts ht hup
      rw [hbuilt, if_pos]
      · exact returns_pure _
      · intro k hk
        obtain ⟨d', hd', hpool⟩ := Option.bind_eq_some_iff.mp ht
        obtain ⟨pool', hpool, he⟩ := Option.bind_eq_some_iff.mp hpool
        cases he
        unfold Redis.givenKeepalive at hk
        rw [ht] at hk
        refine hkeep d (List.mem_filter.mp (List.mem_of_find?_eq_some hd')).1 k ?_
        rw [hpool]
        exact hk

theorem returns_redis (hset : ∀ rs ∈ g.redisServices, IsSetService rs)
    (hkeep : ∀ d ∈ g.redisDestinations, NoKeepalive d) (hhost : context.serviceEntry.spec.hosts ≠ []) (o : Oracle) :
    Returns (g.generate o context) := by
  obtain ⟨filters, h⟩ := Redis.returns_generate.mpr fun p _ =>
    ⟨returns_redisProxy hset hhost (o.at (Go.itoa p.2)) p.1.number p.1.name,
      returns_redisCluster hkeep hhost (o.at (Go.itoa p.2)) p.1.number⟩
  exact ⟨_, h⟩

end

/-! ## All inputs -/

section

variable {d : Deployment} {store : ConfigStore} (h : WellFormed d store)
include h

omit h in
omit h in
/-- What the context of a ServiceEntry holds. -/
theorem envoyFilterContext_mem {c : Controller} {o : Oracle} {se : Config ServiceEntry} {host : String}
    {ctx : EnvoyFilterContext} (hctx : c.envoyFilterContext o se host = .ok ctx) :
    ctx.meshConfig = c.meshConfig ∧ ctx.gateway = none ∧ ctx.serviceEntry = se ∧
      (∀ vs ∈ ctx.virtualService, vs ∈ c.store.virtualServices) ∧ ∀ m ∈ ctx.metaRouter, m ∈ c.metaRouters := by
  unfold envoyFilterContext findRelatedMetaRouter listMetaRouters at hctx
  split at hctx
  · cases hctx
  · rename_i metaRouter hm
    cases hctx
    refine ⟨rfl, rfl, rfl, fun vs hvs => mem_list.mp (List.mem_of_find?_eq_some hvs), fun m hmem => ?_⟩
    split at hm
    · cases hm
    · cases hm
      exact List.mem_of_find?_eq_some hmem

theorem returns_generator {i : Instance} {generator : Generator} (hg : generators d.resources store i = some generator)
    {ctx : EnvoyFilterContext} (hl : Located ctx.serviceEntry.spec) (hr : AllRouted ctx)
    (htracing : ctx.meshConfig.enableTracing = true → ctx.meshConfig.defaultConfig ≠ none)
    (hm : ∀ m ∈ ctx.metaRouter, m ∈ d.metaRouters)
    (hnames : ∀ p ∈ MetaProtocol.candidates ctx, (Go.split p.1.name '-').length ≠ 2) (o : Oracle) :
    Returns (generator o ctx) := by
  cases i with
  | Dubbo => cases hg; exact returns_dubbo hl hr h.policies ..
  | Thrift => cases hg; exact returns_thrift hl hr
  | Redis => cases hg; exact returns_redis h.redisServices h.redisDestinations hl.1 o
  | Kafka => cases hg; exact returns_statFilter hl ..
  | Zookeeper => cases hg; exact returns_statFilter hl ..
  | MetaProtocol =>
    cases hg
    exact returns_metaProtocol _ o hl.1 htracing (fun m hmem => h.accepted m (hm m hmem))
      (fun m hmem => h.timeouts m (hm m hmem)) hnames
  | Mongo => cases hg
  | MySQL => cases hg
  | Unsupported => cases hg

/-- A ServiceEntry with a generator has a port. -/
theorem returns_serviceOutcome (o : Oracle) {se : Config ServiceEntry} (hse : se ∈ store.serviceEntries) :
    Returns (serviceOutcome (d.controller store) o se) := by
  unfold serviceOutcome
  split
  · exact returns_pure _
  · rename_i host hosts hhosts
    split
    · exact returns_pure _
    · rename_i generator hgenerator
      split
      · exact returns_pure _
      · rename_i ctx hctx
        obtain ⟨hmesh, hgateway, hentry, hvs, hm⟩ := envoyFilterContext_mem hctx
        obtain ⟨l, port, r, hl, hp, -⟩ := List.findSome?_eq_some_iff.mp hgenerator
        have hlocated : Located ctx.serviceEntry.spec := by
          rw [hentry, Located, hhosts, hl]
          simp
        have hnames : ∀ p ∈ MetaProtocol.candidates ctx, (Go.split p.1.name '-').length ≠ 2 := fun p hp => by
          unfold MetaProtocol.candidates MetaProtocol.metaProtocolPorts at hp
          rw [hgateway, hentry] at hp
          obtain ⟨hp, hmeta⟩ := List.mem_filter.mp hp
          exact h.ports se hse p.1 (List.fst_mem_of_mem_zipIdx hp) hmeta
        obtain ⟨r, hr⟩ := returns_generator h hp hlocated (fun vs hmem => h.routed vs (hvs vs hmem))
          (by rw [hmesh]; exact h.tracing) hm hnames ((o.at se.key).at "Generate")
        refine returns_bind.mpr ⟨r, hr, ?_⟩
        cases r <;> exact returns_pure _

theorem returns_serviceWrites (o : Oracle) : ∀ {ses : List (Config ServiceEntry)},
    (∀ se ∈ ses, se ∈ store.serviceEntries) → Returns (serviceWrites (d.controller store) o ses)
  | [], _ => returns_pure _
  | se :: ses, hses => by
    obtain ⟨out, hout⟩ := returns_serviceOutcome h o (hses se List.mem_cons_self)
    refine returns_bind.mpr ⟨out, hout, ?_⟩
    cases out with
    | stop err => exact returns_pure _
    | writes ws =>
      refine (returns_bind_iff fun _ => returns_pure _).mpr ?_
      exact returns_serviceWrites o fun se' hse => hses se' (List.mem_cons_of_mem _ hse)

/-! ### Gateways -/

omit h in
theorem returns_hasDestinationPort (portNumber : Nat) : ∀ dsts : List (Destination × UInt32),
    Returns (hasDestinationPort portNumber (dsts.map fun d => some ⟨some d.1, d.2⟩))
  | [] => returns_pure _
  | d :: dsts => by
    refine returns_bind.mpr ⟨_, rfl, ?_⟩
    dsimp only
    split
    · exact returns_pure _
    · exact returns_hasDestinationPort portNumber dsts

omit h in
theorem returns_isMatchPort {lib : Webhook.Libraries} {o : Oracle} {m : MetaRouter} (hm : Accepts lib o m)
    (portNumber : Nat) : ∀ {routes : List (Option MetaRoute)}, (∀ r ∈ routes, r ∈ m.routes) →
    Returns (isMatchPort portNumber routes)
  | [], _ => returns_pure _
  | r :: routes, hr => by
    obtain ⟨route, dsts, _, _, rfl, hset, -⟩ := hm.route (hr r List.mem_cons_self)
    obtain ⟨b, hb⟩ := returns_hasDestinationPort portNumber dsts
    rw [← hset.destinations] at hb
    refine returns_bind.mpr ⟨route, rfl, returns_bind.mpr ⟨b, hb, ?_⟩⟩
    cases b with
    | true => exact returns_pure _
    | false => exact returns_isMatchPort hm portNumber fun r hmem => hr r (List.mem_cons_of_mem _ hmem)

/-- A context of the gateway, for one of the MetaRouters. -/
structure OfGateway (d : Deployment) (gateway : Config Gateway) (ctx : EnvoyFilterContext) : Prop where
  meshConfig : ctx.meshConfig = d.meshConfig
  gateway : ctx.gateway = some gateway
  hosts : ctx.serviceEntry.spec.hosts ≠ []
  metaRouter : ∀ m ∈ ctx.metaRouter, m ∈ d.metaRouters

theorem returns_gatewayContext (gateway : Config Gateway) (portNumber : Nat) {m : MetaRouter} (hm : m ∈ d.metaRouters) :
    ∃ ctx, (d.controller store).gatewayContext gateway portNumber m = .ok ctx ∧ ∀ c ∈ ctx, OfGateway d gateway c := by
  obtain ⟨lib, o, hacc⟩ := h.accepted m hm
  obtain ⟨host, hhost⟩ := hacc.hosts
  unfold gatewayContext
  split
  · exact ⟨none, rfl, fun _ hc => nomatch hc⟩
  · obtain ⟨b, hb⟩ := @returns_isMatchPort _ _ _ hacc portNumber m.routes fun _ hr => hr
    rw [hb, hhost]
    cases b with
    | false => exact ⟨none, rfl, fun _ hc => nomatch hc⟩
    | true =>
      refine ⟨some _, rfl, ?_⟩
      rintro _ ⟨⟩
      exact ⟨rfl, rfl, List.cons_ne_nil _ _, by rintro _ ⟨⟩; exact hm⟩

theorem returns_gatewayEnvoyFilterContexts (o : Oracle) (gateway : Config Gateway) (portNumber : Nat) :
    ∃ r, (d.controller store).gatewayEnvoyFilterContexts o gateway portNumber = .ok r ∧
      ∀ new, r = .ok new → ∀ ctx ∈ new, OfGateway d gateway ctx := by
  unfold gatewayEnvoyFilterContexts
  split
  · exact ⟨_, rfl, fun _ e => nomatch e⟩
  · rename_i metaRouters hlist
    have hall : ∀ m ∈ metaRouters, m ∈ d.metaRouters := fun m hmem => by
      unfold listMetaRouters at hlist
      split at hlist
      · cases hlist
      · cases hlist
        exact hmem
    obtain ⟨ctxs, hctxs⟩ : Returns (metaRouters.mapM ((d.controller store).gatewayContext gateway portNumber)) :=
      returns_mapM.mpr fun m hmem => by
        obtain ⟨ctx, hctx, -⟩ := returns_gatewayContext h gateway portNumber (hall m hmem)
        exact ⟨ctx, hctx⟩
    refine ⟨.ok ctxs.reduceOption, by rw [hctxs]; rfl, ?_⟩
    rintro _ ⟨⟩ ctx hctx
    obtain ⟨m, hmem, hm⟩ := Go.mem_of_mapM_ok hctxs (List.reduceOption_mem_iff.mp hctx)
    obtain ⟨ctx', hctx', hprop⟩ := returns_gatewayContext h gateway portNumber (hall m hmem)
    rw [hm] at hctx'
    cases hctx'
    exact hprop ctx rfl

/-- The generator of a gateway's context returns. -/
theorem returns_gatewayContextWrites {gateway : Config Gateway} (hgw : gateway ∈ store.gateways)
    {ctx : EnvoyFilterContext} (hctx : OfGateway d gateway ctx) (o : Oracle) :
    Returns (gatewayContextWrites (MetaProtocol.generate d.resources.codecs) o ctx) := by
  have hnames : ∀ p ∈ MetaProtocol.candidates ctx, (Go.split p.1.name '-').length ≠ 2 := fun p hp => by
    unfold MetaProtocol.candidates MetaProtocol.metaProtocolPorts at hp
    rw [hctx.gateway] at hp
    obtain ⟨hp, hmeta⟩ := List.mem_filter.mp hp
    obtain ⟨server, hserver, hport⟩ := List.mem_filterMap.mp (List.fst_mem_of_mem_zipIdx hp)
    exact h.servers gateway hgw server hserver p.1 hport hmeta
  obtain ⟨out, hout⟩ := returns_metaProtocol d.resources.codecs o hctx.hosts (by rw [hctx.meshConfig]; exact h.tracing)
    (fun m hm => h.accepted m (hctx.metaRouter m hm)) (fun m hm => h.timeouts m (hctx.metaRouter m hm)) hnames
  refine returns_bind.mpr ⟨out, hout, ?_⟩
  cases out <;> exact returns_pure _

omit h in
/-- The generator of a MetaProtocol port. -/
theorem generators_metaProtocol {r : Resources} {i : Instance} (hi : i.isMetaProtocol = true) :
    generators r store i = some (MetaProtocol.generate r.codecs) := by
  cases i with
  | MetaProtocol => rfl
  | _ => cases hi

theorem returns_gatewayOutcome (o : Oracle) {gateway : Config Gateway} (hgw : gateway ∈ store.gateways) (server : Server)
    (i : Nat) : Returns (gatewayOutcome (d.controller store) o gateway server i) := by
  unfold gatewayOutcome
  split
  · exact returns_pure _
  · rename_i port _
    dsimp only
    split
    · exact returns_pure _
    · rename_i hmeta
      have hgenerator : (d.controller store).generators (getLayer7ProtocolFromPortName port.name) = _ :=
        generators_metaProtocol (by simpa using hmeta)
      rw [hgenerator]
      obtain ⟨r, hr, hctxs⟩ := returns_gatewayEnvoyFilterContexts h (((o.at "Gateways").at gateway.key).at (Go.itoa i))
        gateway port.number
      refine returns_bind.mpr ⟨r, hr, ?_⟩
      cases r with
      | error e => exact returns_pure _
      | ok new =>
        refine (returns_bind_iff fun _ => returns_pure _).mpr ?_
        refine (returns_bind_iff fun _ => returns_pure _).mpr (returns_mapM.mpr fun ctx hctx => ?_)
        exact returns_gatewayContextWrites h hgw (hctxs new rfl ctx.1 (List.fst_mem_of_mem_zipIdx hctx)) _

theorem returns_gatewayWrites (o : Oracle) : ∀ {servers : List (Config Gateway × Server × Nat)},
    (∀ s ∈ servers, s.1 ∈ store.gateways) → Returns (gatewayWrites (d.controller store) o servers)
  | [], _ => returns_pure _
  | (gateway, server, i) :: rest, hservers => by
    obtain ⟨out, hout⟩ := returns_gatewayOutcome h o (hservers _ List.mem_cons_self) server i
    refine returns_bind.mpr ⟨out, hout, ?_⟩
    cases out with
    | none => exact returns_pure _
    | some out =>
      refine (returns_bind_iff fun _ => returns_pure _).mpr ?_
      exact returns_gatewayWrites o fun s hs => hservers s (List.mem_cons_of_mem _ hs)

/-- Generation returns, whatever calls fail and in whatever order maps and stores
are read. -/
theorem returns_generateEnvoyFilters (o : Oracle) (server : ApiServer.Server ObjectKey VirtualService) :
    Returns ((d.controller store).generateEnvoyFilters o server) := by
  rw [generateEnvoyFilters_writes]
  obtain ⟨services, hservices⟩ := @returns_serviceWrites _ _ h (o.at "ServiceEntries")
    ((o.at "ServiceEntries").list store.serviceEntries) fun se hse => mem_list.mp hse
  refine returns_bind.mpr ⟨services, hservices, ?_⟩
  obtain ⟨ws, _ | err⟩ := services
  · obtain ⟨gateways, hgateways⟩ := @returns_gatewayWrites _ _ h o
      (gatewayServers ((o.at "Gateways").list store.gateways)) fun s hs => by
        obtain ⟨gateway, hgateway, hs⟩ := List.mem_flatMap.mp hs
        obtain ⟨_, -, rfl⟩ := List.mem_map.mp hs
        exact mem_list.mp hgateway
    refine returns_bind.mpr ⟨gateways, hgateways, ?_⟩
    obtain ⟨ws', _ | ctxs⟩ := gateways
    · exact returns_pure _
    · exact returns_pure _
  · exact returns_pure _

end

end Aeraki.Proof.EnvoyFilter
