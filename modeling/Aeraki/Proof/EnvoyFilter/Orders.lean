import Aeraki.Proof.EnvoyFilter.Listeners
import Aeraki.Proof.EnvoyFilter.Turns

/-!
# Orders that do not matter

A run lists the objects of the config store and ranges over maps in any order. It
generates the same in every order if nothing that it reads leaves a choice
(`OrderFree`): every service has hosts, and one set of routes and ports is found for
each, and the maps that are ranged over have one entry at most. Then each service and
each gateway has the same turn in all orders (`serviceOutcome_orders`,
`gatewayWrites_orders`). If their hosts, addresses and namespaces keep them apart
(`KeptApart`), no two write under one key (`serviceEntry_of_key`, `gateway_of_key`), so
that the maps are the same too (`generatedMaps_orders`). Then a second push writes
nothing, whatever the orders of the two (`second_push_silent`). With two entries in a
map it may (`two_orders_not_silent`).
-/

namespace Aeraki.Proof.EnvoyFilter

open Aeraki.Impl Aeraki.Impl.Controller
open Aeraki.Proof.MetaProtocol (Identified)

/-! ## Stores that leave no choice -/

/-- The rate limits of a MetaRouter match one attribute at most. -/
structure SingleAttributes (metaRouter : MetaRouter) : Prop where
  global : ∀ limit ∈ metaRouter.globalRateLimit, ∀ m ∈ limit.match_, m.attributes.sorted.length ≤ 1
  conditions : ∀ limit ∈ metaRouter.localRateLimit, ∀ condition ∈ limit.conditions.reduceOption,
    ∀ m ∈ condition.match_, m.attributes.sorted.length ≤ 1

/-- What is read of the config store and the MetaRouters does not depend on the order in
which it is read. -/
structure OrderFree (d : Deployment) (store : ConfigStore) : Prop where
  hosts : ∀ se ∈ store.serviceEntries, se.spec.hosts ≠ []
  /-- Redis routes without a port find the same ports in all ServiceEntries of their host. -/
  redisPorts : ∀ host ∈ redisHosts d.resources.redisServices, ∀ se ∈ store.serviceEntries,
    ∀ se' ∈ store.serviceEntries, host ∈ se.spec.hosts → host ∈ se'.spec.hosts → se.spec.ports = se'.spec.ports
  /-- All VirtualServices of a service's first host have the same routes. -/
  routes : ∀ se ∈ store.serviceEntries, ∀ host ∈ se.spec.hosts.head?, ∀ vs ∈ store.virtualServices,
    ∀ vs' ∈ store.virtualServices, host ∈ vs.spec.hosts → host ∈ vs'.spec.hosts → vs.spec.http = vs'.spec.http
  /-- The matches that are read of them match one header at most. -/
  headers : ∀ vs ∈ store.virtualServices, ∀ http ∈ vs.spec.http, ∀ m ∈ http.matches_.head?,
    m.headers.sorted.length ≤ 1
  attributes : ∀ metaRouter ∈ d.metaRouters, SingleAttributes metaRouter

/-- The objects in the cluster that the controller takes for its own. -/
def Manages {σ : Type} (server : ApiServer.Server ObjectKey σ) (k : ObjectKey) : Prop :=
  ∃ ob, server.objects.lookup k = some ob ∧ isManaged ob = true

/-- A namespace of EnvoyFilters that are written, or are in the cluster. -/
def InUse (c : Controller) (cluster : ClusterState) (ns : String) : Prop :=
  ns ∈ targetNamespaces c ∨ ∃ k, Manages cluster.envoyFilters k ∧ k.namespace_ = ns

/-- Different services and gateways have objects of different keys, also from those that
are in the cluster. -/
structure KeptApart (c : Controller) (cluster : ClusterState) : Prop where
  firstHosts : ∀ se ∈ c.store.serviceEntries, ∀ se' ∈ c.store.serviceEntries,
    se.spec.hosts.head? = se'.spec.hosts.head? → se = se'
  addresses : ∀ se ∈ c.store.serviceEntries, ∀ address ∈ se.spec.addresses, '-' ∉ address.toList
  gateways : Identified c.store.gateways
  segments : ∀ gateway ∈ c.store.gateways, '/' ∉ gateway.namespace_.toList ∧ '/' ∉ gateway.name.toList
  /-- No namespace is another one followed by how the name of an EnvoyFilter starts. -/
  namespaces : ∀ ns ns', InUse c cluster ns → InUse c cluster ns' → ∀ rest, ns' ≠ ns ++ "-" ++ ("aeraki" ++ rest)
  managed : ∀ k, Manages cluster.envoyFilters k → IsAeraki k.name
  listeners : ∀ k, Manages cluster.virtualServices k → '/' ∉ k.name.toList

/-! ## Generators -/

theorem metaMatch2HttpHeaderMatch_orders {m : Option MetaRouteMatch}
    (h : ∀ m' ∈ m, m'.attributes.sorted.length ≤ 1) (o o' : Oracle) :
    Xds.metaMatch2HttpHeaderMatch o m = Xds.metaMatch2HttpHeaderMatch o' m := by
  cases m with
  | none => rfl
  | some m =>
    simp only [Xds.metaMatch2HttpHeaderMatch, Oracle.range, GoMap.range_of_length_le_one (h m rfl) _ (o'.rangeOrder [])]

theorem crd2Conditions_orders {conditions : List (Option LocalRateLimitCondition)}
    (h : ∀ condition ∈ conditions.reduceOption, ∀ m ∈ condition.match_, m.attributes.sorted.length ≤ 1)
    (o o' : Oracle) : MetaProtocol.crd2Conditions o conditions = MetaProtocol.crd2Conditions o' conditions := by
  have hcondition : ∀ c ∈ conditions.zipIdx, MetaProtocol.crd2Condition (o.at (Go.itoa c.2)) c.1 =
      MetaProtocol.crd2Condition (o'.at (Go.itoa c.2)) c.1 := by
    rintro ⟨_ | condition, i⟩ hc
    · rfl
    · have hc := List.reduceOption_mem_iff.mpr (List.fst_mem_of_mem_zipIdx hc)
      simp only [MetaProtocol.crd2Condition, Go.deref_some, bind, Except.bind,
        metaMatch2HttpHeaderMatch_orders (h condition hc) _ (o'.at (Go.itoa i))]
  rw [MetaProtocol.crd2Conditions, MetaProtocol.crd2Conditions, Go.mapM_congr hcondition]

theorem buildInboundFilters_orders {metaRouter : Option MetaRouter} (h : ∀ m ∈ metaRouter, SingleAttributes m)
    (o o' : Oracle) (host : String) :
    MetaProtocol.buildInboundFilters o metaRouter host = MetaProtocol.buildInboundFilters o' metaRouter host := by
  cases metaRouter with
  | none => rfl
  | some m =>
    obtain ⟨hglobal, hconditions⟩ := h m rfl
    have hlocal (limit : LocalRateLimit) (hl : m.localRateLimit = some limit) :
        MetaProtocol.appendLocalRateLimitFilter (o.at "local") m limit [] =
          MetaProtocol.appendLocalRateLimitFilter (o'.at "local") m limit [] := by
      simp only [MetaProtocol.appendLocalRateLimitFilter,
        crd2Conditions_orders (hconditions limit hl) (o.at "local") (o'.at "local")]
    have hlimit (limit : GlobalRateLimit) (hl : m.globalRateLimit = some limit) (filters : List MetaProtocolFilter) :
        MetaProtocol.appendGlobalRateLimitFilter (o.at "global") limit filters =
          MetaProtocol.appendGlobalRateLimitFilter (o'.at "global") limit filters := by
      simp only [MetaProtocol.appendGlobalRateLimitFilter,
        metaMatch2HttpHeaderMatch_orders (hglobal limit hl) (o.at "global") (o'.at "global")]
    unfold MetaProtocol.buildInboundFilters
    dsimp only
    cases hl : m.localRateLimit with
    | none =>
      cases hg : m.globalRateLimit with
      | none => rfl
      | some limit => simp only [hlimit limit hg]
    | some limit =>
      cases hg : m.globalRateLimit with
      | none => simp only [hlocal limit hl]
      | some limit' => simp only [hlocal limit hl, hlimit limit' hg]

theorem buildRoute_orders {vs : VirtualService}
    (h : ∀ http ∈ vs.http, ∀ m ∈ http.matches_.head?, m.headers.sorted.length ≤ 1) (o o' : Oracle)
    (service : ServiceEntry) : Dubbo.buildRoute o service vs = Dubbo.buildRoute o' service vs := by
  refine Go.mapM_congr fun http hhttp => ?_
  have hheaders : Dubbo.buildHeaderMatch (o.at (Go.itoa http.2)) http.1 =
      Dubbo.buildHeaderMatch (o'.at (Go.itoa http.2)) http.1 := by
    unfold Dubbo.buildHeaderMatch
    cases hm : http.1.matches_ with
    | nil => rfl
    | cons m ms =>
      have hone := h http.1 (List.fst_mem_of_mem_zipIdx hhttp) m (by rw [hm]; rfl)
      simp only [Oracle.range, GoMap.range_of_length_le_one hone _ ((o'.at (Go.itoa http.2)).rangeOrder [])]
  rw [hheaders]

/-- The Redis generator finds the same ports of a host in all orders. -/
theorem hostServices_orders {d : Deployment} {store : ConfigStore} (h : OrderFree d store) (o o' : Oracle) (ns : String)
    {host : String} (hhost : host ∈ redisHosts d.resources.redisServices) :
    (((redisGenerator d.resources store).hostServices o ns).lookup host).map ServiceEntry.ports =
      (((redisGenerator d.resources store).hostServices o' ns).lookup host).map ServiceEntry.ports := by
  have hlookup (o : Oracle) :
      (((redisGenerator d.resources store).hostServices o ns).lookup host).map ServiceEntry.ports =
        GoMap.lastWrite
          (((o.at "hostServices").list (store.serviceEntries.filter (inNamespace ns ·.namespace_))).flatMap
            fun se => se.spec.hosts.map fun h => (h, se.spec.ports)) host := by
    rw [Redis.Generator.hostServices]
    rw [GoMap.lookup_writeAll, Finmap.lookup_empty, Option.or_none, GoMap.lastWrite_map, List.map_flatMap]
    simp only [List.map_map]
    rfl
  rw [hlookup, hlookup]
  refine GoMap.lastWrite_flatMap_perm (list_perm _ _ _) ?_
  intro se hse se' hse' ports ports' hports hports'
  rw [GoMap.lastWrite_map_const, Option.ite_none_right_eq_some] at hports hports'
  rw [← Option.some.inj hports.2, ← Option.some.inj hports'.2]
  exact h.redisPorts host hhost se (List.mem_of_mem_filter (mem_list.mp hse)) se'
    (List.mem_of_mem_filter (mem_list.mp hse')) hports.1 hports'.1

/-- A generator returns the same in all orders. -/
theorem generators_orders {d : Deployment} {store : ConfigStore} (h : OrderFree d store) {protocol : Instance}
    {g : Generator} (hg : generators d.resources store protocol = some g) {o o' : Oracle}
    (hcalls : o.callError = o'.callError) {ctx : EnvoyFilterContext}
    (hvs : ∀ vs ∈ ctx.virtualService, vs ∈ store.virtualServices) (hm : ∀ m ∈ ctx.metaRouter, m ∈ d.metaRouters) :
    g o ctx = g o' ctx := by
  cases protocol with
  | Mongo | MySQL | Unsupported => cases hg
  | Thrift | Kafka | Zookeeper => cases hg; rfl
  | Redis =>
    cases hg
    exact redis_congr (g := redisGenerator d.resources store) hcalls
      (fun site ns host hhost => hostServices_orders h (o.at site) (o'.at site) ns hhost) ctx
  | Dubbo =>
    cases hg
    have hroute : Dubbo.buildOutboundRouteConfig o ctx = Dubbo.buildOutboundRouteConfig o' ctx := by
      unfold Dubbo.buildOutboundRouteConfig
      cases hctx : ctx.virtualService with
      | none => rfl
      | some vs => simp only [buildRoute_orders (h.headers vs (hvs vs hctx)) o o']
    simp only [Dubbo.generate, Dubbo.buildOutboundProxy, hroute, hcalls]
  | MetaProtocol =>
    cases hg
    unfold MetaProtocol.generate
    cases ctx.gateway with
    | some gateway => rfl
    | none =>
      have hport (p : ServicePort × Nat) :
          MetaProtocol.generateSidecarPort d.resources.codecs (o.at (Go.itoa p.2)) ctx p.1 =
            MetaProtocol.generateSidecarPort d.resources.codecs (o'.at (Go.itoa p.2)) ctx p.1 := by
        simp only [MetaProtocol.generateSidecarPort, MetaProtocol.buildInboundProxy,
          buildInboundFilters_orders (fun m hm' => h.attributes m (hm m hm')) (o.at (Go.itoa p.2))
            (o'.at (Go.itoa p.2))]
      simp only [MetaProtocol.generateSidecarEnvoyFilters, hport]

/-! ## Services -/

section

variable {d : Deployment} {store : ConfigStore} {o o' : Oracle}

theorem Quiet.callError (h : Quiet o) (h' : Quiet o') : o.callError = o'.callError :=
  funext fun site => (h site).trans (h' site).symm

/-- The turn of a service is the same in all orders. -/
theorem serviceOutcome_orders (h : OrderFree d store) (ho : Quiet o) (ho' : Quiet o') {se : Config ServiceEntry}
    (hse : se ∈ store.serviceEntries) :
    serviceOutcome (d.controller store) o se = serviceOutcome (d.controller store) o' se := by
  unfold serviceOutcome
  cases hh : se.spec.hosts with
  | nil => rfl
  | cons host hosts =>
    dsimp only
    rw [generatorOf_eq]
    cases hsel : selected (d.controller store) se.spec.ports with
    | none => rfl
    | some protocol =>
      cases hg : (d.controller store).generators protocol with
      | none => simp only [Option.bind_some, hg]
      | some g =>
        simp only [Option.bind_some, hg, envoyFilterContext_quiet (ho.at se.key) se host,
          envoyFilterContext_quiet (ho'.at se.key) se host]
        have hroutes : ((d.controller store).findRelatedVirtualService (o.at se.key) host).map (·.spec.http) =
            ((d.controller store).findRelatedVirtualService (o'.at se.key) host).map (·.spec.http) := by
          refine GoMap.find?_perm (list_perm _ _ _) ?_
          intro vs hvs vs' hvs' hhost hhost'
          exact h.routes se hse host (by rw [hh]; rfl) vs (mem_list.mp hvs) vs'
            (mem_list.mp hvs') (List.contains_iff_mem.mp hhost) (List.contains_iff_mem.mp hhost')
        have halike {metaRouter : Option MetaRouter} : Alike protocol
            ⟨(d.controller store).meshConfig, none, se,
              (d.controller store).findRelatedVirtualService (o.at se.key) host, metaRouter⟩
            ⟨(d.controller store).meshConfig, none, se,
              (d.controller store).findRelatedVirtualService (o'.at se.key) host, metaRouter⟩ :=
          ⟨rfl, rfl, .refl protocol se, fun _ => hroutes, rfl⟩
        rw [generators_alike hg halike,
          generators_orders h hg (((ho.at se.key).at "Generate").callError ((ho'.at se.key).at "Generate"))
            (fun vs hvs => mem_list.mp (List.mem_of_find?_eq_some hvs))
            (fun m hm => List.mem_of_find?_eq_some hm)]
        rfl

end

/-! ## Gateways -/

section

variable {d : Deployment} {store : ConfigStore} {o o' : Oracle}

theorem gatewayEnvoyFilterContexts_orders (c : Controller) (ho : Quiet o) (ho' : Quiet o') (gateway : Config Gateway)
    (port : Nat) : c.gatewayEnvoyFilterContexts o gateway port = c.gatewayEnvoyFilterContexts o' gateway port := by
  simp only [gatewayEnvoyFilterContexts, listMetaRouters, ho _, ho' _]

/-- The MetaProtocol generator ranges over no map for a gateway. -/
theorem gatewayContextsWrites_orders {c : Controller} {gateway : Config Gateway} {port : Nat}
    {ctxs : List EnvoyFilterContext} {oc : Oracle} (h : c.gatewayEnvoyFilterContexts oc gateway port = .ok (.ok ctxs))
    (codecs : Codecs) (o o' : Oracle) : gatewayContextsWrites (MetaProtocol.generate codecs) o ctxs =
      gatewayContextsWrites (MetaProtocol.generate codecs) o' ctxs := by
  unfold gatewayContextsWrites
  rw [Go.mapM_congr fun ctx hctx => ?_]
  have hgateway := (MetaProtocol.isGatewayContext_of_mem h (List.fst_mem_of_mem_zipIdx hctx)).gateway
  simp only [gatewayContextWrites, MetaProtocol.generate, hgateway]

/-- The turn of a gateway's server is the same in all orders. -/
theorem gatewayOutcome_orders (ho : Quiet o) (ho' : Quiet o') (gateway : Config Gateway) (server : Server) (i : Nat) :
    gatewayOutcome (d.controller store) o gateway server i = gatewayOutcome (d.controller store) o' gateway server i := by
  unfold gatewayOutcome
  cases server.port with
  | none => rfl
  | some port =>
    dsimp only
    cases getLayer7ProtocolFromPortName port.name
    case MetaProtocol =>
      have hgen : (d.controller store).generators .MetaProtocol = some (MetaProtocol.generate d.resources.codecs) := rfl
      simp only [Instance.isMetaProtocol, Bool.not_true, Bool.false_eq_true, if_false, hgen]
      rw [gatewayEnvoyFilterContexts_orders _ (((ho.at _).at _).at _) (((ho'.at _).at _).at _)]
      refine Go.bind_congr_ok fun r hr => ?_
      cases r with
      | error err => rfl
      | ok ctxs =>
        dsimp only
        rw [gatewayContextsWrites_orders hr]
    all_goals simp only [Instance.isMetaProtocol, Bool.not_false, if_true]

theorem gatewayWrites_orders (ho : Quiet o) (ho' : Quiet o') : ∀ servers : List (Config Gateway × Server × Nat),
    gatewayWrites (d.controller store) o servers = gatewayWrites (d.controller store) o' servers
  | [] => rfl
  | (gateway, server, i) :: rest => by
    rw [gatewayWrites, gatewayWrites, gatewayOutcome_orders ho ho', gatewayWrites_orders ho ho' rest]

end

/-! ## Maps -/

section

variable {d : Deployment} {store : ConfigStore} {o o' : Oracle}

theorem turnWrites_orders (hfree : OrderFree d store) (ho : Quiet o) (ho' : Quiet o') {se : Config ServiceEntry}
    (hse : se ∈ store.serviceEntries) :
    turnWrites (d.controller store) o se = turnWrites (d.controller store) o' se := by
  rw [turnWrites, turnWrites, serviceOutcome_orders hfree ho ho' hse]

theorem gatewayTurn_orders (ho : Quiet o) (ho' : Quiet o') :
    gatewayTurn (d.controller store) o = gatewayTurn (d.controller store) o' := by
  funext gateway
  rw [gatewayTurn, gatewayTurn, gatewayWrites_orders ho ho']

theorem Turns.orders (hfree : OrderFree d store) (ho : Quiet o) (ho' : Quiet o') (h : Turns (d.controller store) o) :
    Turns (d.controller store) o' where
  services se hse := by
    rw [← serviceOutcome_orders hfree (ho.at _) (ho'.at _) hse, ← turnWrites_orders hfree (ho.at _) (ho'.at _) hse]
    exact h.services se hse
  gateways gateway hg := by
    have hturn := h.gateways gateway hg
    unfold HasTurn at hturn ⊢
    rw [← gatewayWrites_orders ho ho', ← gatewayTurn_orders ho ho']
    exact hturn

section

variable {cluster : ClusterState} (hkeys : KeptApart (d.controller store) cluster) (ho : Quiet o)
include hkeys ho

/-- No two services write under one key. -/
theorem serviceEntry_of_key {se se' : Config ServiceEntry} (hse : se ∈ store.serviceEntries)
    (hse' : se' ∈ store.serviceEntries) {e e' : Write} (he : e ∈ turnWrites (d.controller store) o se)
    (he' : e' ∈ turnWrites (d.controller store) o se') (hkey : e.1 = e'.1) : se = se' := by
  obtain ⟨hentry, hns, host, hhost, hname⟩ := key_of_turn hse ho he
  obtain ⟨hentry', hns', host', hhost', hname'⟩ := key_of_turn hse' ho he'
  rw [hentry, hentry'] at hkey
  obtain ⟨-, hnames⟩ := envoyFilterMapKey_inj hname.isAeraki hname'.isAeraki
    (hkeys.namespaces _ _ (.inl hns) (.inl hns')) (hkeys.namespaces _ _ (.inl hns') (.inl hns)) hkey
  rw [← hnames] at hname'
  have hhosts := hname.host_eq (hkeys.addresses se hse) (hkeys.addresses se' hse') hname'
  exact hkeys.firstHosts se hse se' hse' (by rw [hhost, hhost', hhosts])

/-- Nor do two gateways. -/
theorem gateway_of_key (hturns : Turns (d.controller store) o) {gateway gateway' : Config Gateway}
    (hg : gateway ∈ store.gateways) (hg' : gateway' ∈ store.gateways) {e e' : Write}
    (he : e ∈ (gatewayTurn (d.controller store) o gateway).1)
    (he' : e' ∈ (gatewayTurn (d.controller store) o gateway').1) (hkey : e.1 = e'.1) : gateway = gateway' := by
  obtain ⟨hentry, hns, port, hname⟩ := (gatewayTurn_forGateway ho (hturns.gateways gateway hg)).writes e he
  obtain ⟨hentry', hns', port', hname'⟩ := (gatewayTurn_forGateway ho (hturns.gateways gateway' hg')).writes e' he'
  have hkeys' : MetaProtocol.gatewayKey gateway port = MetaProtocol.gatewayKey gateway' port' := by
    rw [hentry, hentry'] at hkey
    rw [MetaProtocol.gatewayKey, MetaProtocol.gatewayKey, ← hname, ← hname', ← hns, ← hns']
    exact hkey
  obtain ⟨hns, hname, -⟩ := MetaProtocol.gatewayKey_inj (hkeys.gateways.label _ hg) (hkeys.gateways.label _ hg') hkeys'
  exact hkeys.gateways.unique _ hg _ hg' hns hname

/-- The VirtualServices of two gateways are under different keys, too. -/
theorem gateway_of_listenerKey (hturns : Turns (d.controller store) o) {gateway gateway' : Config Gateway}
    (hg : gateway ∈ store.gateways) (hg' : gateway' ∈ store.gateways) {ctx ctx' : EnvoyFilterContext}
    (hctx : ctx ∈ (gatewayTurn (d.controller store) o gateway).2)
    (hctx' : ctx' ∈ (gatewayTurn (d.controller store) o gateway').2) {vs vs' : Config VirtualService}
    (hvs : ctx.virtualService = some vs) (hvs' : ctx'.virtualService = some vs')
    (hkey : virtualServiceMapKey vs.name vs.namespace_ = virtualServiceMapKey vs'.name vs'.namespace_) :
    gateway = gateway' := by
  obtain ⟨port, host, hctx⟩ := (gatewayTurn_forGateway ho (hturns.gateways gateway hg)).contexts ctx hctx
  obtain ⟨port', host', hctx'⟩ := (gatewayTurn_forGateway ho (hturns.gateways gateway' hg')).contexts ctx' hctx'
  cases hvs.symm.trans hctx
  cases hvs'.symm.trans hctx'
  obtain ⟨hns, hname⟩ := listenerKey_inj (hkeys.gateways.label _ hg) (hkeys.gateways.label _ hg') hkey
  exact hkeys.gateways.unique _ hg _ hg' hns hname

/-- The map of the EnvoyFilters of services is the same in all orders. -/
theorem serviceMap_orders (m : GoMap String EnvoyFilterWrapper) (o₁ o₂ : Oracle) :
    GoMap.writeAll m ((o₁.list store.serviceEntries).flatMap (turnWrites (d.controller store) o)) =
      GoMap.writeAll m ((o₂.list store.serviceEntries).flatMap (turnWrites (d.controller store) o)) := by
  refine GoMap.writeAll_flatMap_perm (list_perm _ _ _) (fun se hse se' hse' k v w hv hw => ?_) m
  cases serviceEntry_of_key hkeys ho (mem_list.mp hse) (mem_list.mp hse') (GoMap.mem_of_lastWrite hv)
    (GoMap.mem_of_lastWrite hw) rfl
  exact Option.some.inj (hv.symm.trans hw)

/-- So is what the gateways add to it. -/
theorem gatewayMap_orders (hturns : Turns (d.controller store) o) (m : GoMap String EnvoyFilterWrapper)
    (o₁ o₂ : Oracle) :
    GoMap.writeAll m ((o₁.list store.gateways).flatMap fun gateway => (gatewayTurn (d.controller store) o gateway).1) =
      GoMap.writeAll m
        ((o₂.list store.gateways).flatMap fun gateway => (gatewayTurn (d.controller store) o gateway).1) := by
  refine GoMap.writeAll_flatMap_perm (list_perm _ _ _) (fun gateway hg gateway' hg' k v w hv hw => ?_) m
  cases gateway_of_key hkeys ho hturns (mem_list.mp hg) (mem_list.mp hg') (GoMap.mem_of_lastWrite hv)
    (GoMap.mem_of_lastWrite hw) rfl
  exact Option.some.inj (hv.symm.trans hw)

/-- So is the map of the VirtualServices of gateways. -/
theorem listenerMap_orders (hturns : Turns (d.controller store) o) (o₁ o₂ : Oracle) :
    generatedVirtualServices
        ((o₁.list store.gateways).flatMap fun gateway => (gatewayTurn (d.controller store) o gateway).2) =
      generatedVirtualServices
        ((o₂.list store.gateways).flatMap fun gateway => (gatewayTurn (d.controller store) o gateway).2) := by
  unfold generatedVirtualServices
  rw [List.filterMap_flatMap, List.filterMap_flatMap]
  refine GoMap.writeAll_flatMap_perm (list_perm _ _ _) (fun gateway hg gateway' hg' k v w hv hw => ?_) _
  obtain ⟨ctx, hmem, hvs, hk⟩ := context_of_lastWrite hv
  obtain ⟨ctx', hmem', hvs', hk'⟩ := context_of_lastWrite hw
  cases gateway_of_listenerKey hkeys ho hturns (mem_list.mp hg) (mem_list.mp hg') hmem hmem' hvs hvs'
    (hk.symm.trans hk')
  exact Option.some.inj (hv.symm.trans hw)

/-- A run generates in all orders what it generates in one. -/
theorem generatedMaps_orders (hfree : OrderFree d store) (ho' : Quiet o')
    {r : GoMap String EnvoyFilterWrapper × Option (GoMap String (Config VirtualService))}
    (h : generatedMaps (d.controller store) o = .ok r) : generatedMaps (d.controller store) o' = .ok r := by
  have hturns := turns_of_generatedMaps hfree.hosts ho h
  have hservices : GoMap.writeAll ∅ (((o'.at "ServiceEntries").list store.serviceEntries).flatMap
        (turnWrites (d.controller store) (o'.at "ServiceEntries"))) =
      GoMap.writeAll ∅ (((o.at "ServiceEntries").list store.serviceEntries).flatMap
        (turnWrites (d.controller store) (o.at "ServiceEntries"))) := by
    rw [List.flatMap_congr fun se hse => turnWrites_orders hfree (ho'.at _) (ho.at _) (mem_list.mp hse)]
    exact serviceMap_orders hkeys (ho.at _) ∅ _ _
  rw [← h, hturns.generatedMaps, (hturns.orders hfree ho ho').generatedMaps]
  unfold turnMaps
  rw [← gatewayTurn_orders ho ho']
  refine congrArg Except.ok (Prod.ext ?_ (congrArg some (listenerMap_orders hkeys ho hturns _ _)))
  exact (congrArg (GoMap.writeAll · _) hservices).trans (gatewayMap_orders hkeys ho hturns _ _ _)

/-- The EnvoyFilters that a push is about have different keys. -/
theorem distinctKeys (hfree : OrderFree d store) {m : GoMap String EnvoyFilterWrapper}
    {vs : Option (GoMap String (Config VirtualService))} (h : generatedMaps (d.controller store) o = .ok (m, vs)) :
    DistinctKeys m cluster.envoyFilters.objects := by
  have hinvolved {k : ObjectKey} (hk : Involved envoyFilterPush m cluster.envoyFilters.objects k) :
      IsAeraki k.name ∧ InUse (d.controller store) cluster k.namespace_ := by
    rcases hk with hk | ⟨mk, w, hw, rfl⟩
    · exact ⟨hkeys.managed k hk, .inr ⟨k, hk, rfl⟩⟩
    · obtain ⟨hname, hns⟩ := generated_isAeraki hfree.hosts ho h hw
      exact ⟨hname, .inl hns⟩
  intro a b ha hb hkey
  obtain ⟨hname, hns⟩ := hinvolved ha
  obtain ⟨hname', hns'⟩ := hinvolved hb
  obtain ⟨hns, hname⟩ := envoyFilterMapKey_inj hname hname' (hkeys.namespaces _ _ hns hns')
    (hkeys.namespaces _ _ hns' hns) hkey
  cases a
  cases b
  cases hns
  cases hname
  rfl

theorem distinctListeners (hfree : OrderFree d store) {m : GoMap String EnvoyFilterWrapper}
    {vs : Option (GoMap String (Config VirtualService))} (h : generatedMaps (d.controller store) o = .ok (m, vs)) :
    ∀ v ∈ vs, DistinctListeners v cluster.virtualServices.objects := by
  have hturns := turns_of_generatedMaps hfree.hosts ho h
  rw [hturns.generatedMaps] at h
  cases h
  rintro _ ⟨⟩
  have hinvolved {k : ObjectKey} (hk : Involved virtualServicePush (generatedVirtualServices
      (((o.at "Gateways").list store.gateways).flatMap fun gateway => (gatewayTurn (d.controller store) o gateway).2))
      cluster.virtualServices.objects k) : '/' ∉ k.name.toList := by
    rcases hk with hk | ⟨mk, v, hv, rfl⟩
    · exact hkeys.listeners k hk
    · obtain ⟨ctx, hmem, hvs, -⟩ := context_of_generated hv
      obtain ⟨gateway, hg, hmem⟩ := List.mem_flatMap.mp hmem
      have hg := mem_list.mp hg
      obtain ⟨port, host, hctx⟩ := (gatewayTurn_forGateway ho (hturns.gateways gateway hg)).contexts ctx hmem
      cases hvs.symm.trans hctx
      exact segment_listener (hkeys.segments gateway hg) port
  exact fun a b ha hb hkey => virtualServiceMapKey_inj (hinvolved ha) (hinvolved hb) hkey

/-! ## Two pushes -/

/-- A push that returns has generated its maps, and its objects have different keys. -/
theorem pushed (hfree : OrderFree d store) {err : Option String} {cluster1 : ClusterState}
    (hpush : (d.controller store).pushEnvoyFilters2APIServer o cluster = .ok (err, cluster1))
    (hlisted : AllListed cluster cluster1) : ∃ m vs, Pushed (d.controller store) o cluster cluster1 m vs := by
  cases hgen : generatedMaps (d.controller store) o with
  | error p =>
    rw [pushEnvoyFilters2APIServer, generateEnvoyFilters_quiet ho, hgen] at hpush
    cases hpush
  | ok r => exact ⟨r.1, r.2, {
      quiet := ho
      generates := hgen
      returns := by rw [hpush]; rfl
      listed := hlisted
      distinct := distinctKeys hkeys ho hfree hgen
      distinctListeners := distinctListeners hkeys ho hfree hgen }⟩

end

end

/-- A MetaRouter that limits the rate of the requests with some attributes. -/
def limitedBy (attributes : List (String × Option StringMatch)) : MetaRouter where
  name := "demo"
  namespace_ := "ns"
  hosts := ["demo.ns"]
  globalRateLimit := some {
    domain := "d", rateLimitService := "outbound|8081||rls.ns", requestTimeout := some ⟨1, 0⟩
    descriptors := [some ⟨"method", "method"⟩]
    match_ := some ⟨GoMap.writeAll ∅ attributes⟩ }

/-- Its service. -/
def limitedService : Config ServiceEntry where
  name := "demo"
  namespace_ := "ns"
  spec := { hosts := ["demo.ns"], addresses := ["10.0.0.1"], ports := [⟨20880, "tcp-metaprotocol-dubbo"⟩] }

/-- One attribute. -/
def oneAttribute : Deployment where
  metaRouters := [limitedBy [("method", some ⟨some (.exactMatch "get")⟩)]]

/-- The service, and a ZooKeeper service. -/
def twoServices : ConfigStore where
  serviceEntries := limitedService :: zookeeper.store.serviceEntries

/-- The controller of both. -/
def oneAttributeController : Controller := oneAttribute.controller twoServices

/-- The orders the other way round. -/
def otherOrders : Oracle where
  rangeOrder _ := 1
  listOrder _ := 1

/-- The cluster after a push. -/
def pushedCluster (c : Controller) (o : Oracle) (cluster : ClusterState) : ClusterState :=
  match c.pushEnvoyFilters2APIServer o cluster with
  | .ok r => r.2
  | .error _ => cluster

theorem orderFree_twoServices : OrderFree oneAttribute twoServices where
  hosts := by decide
  redisPorts host hhost := by cases hhost
  routes se hse host hhost vs hvs := by cases hvs
  headers vs hvs := by cases hvs
  attributes metaRouter hm := by
    cases List.mem_singleton.mp hm
    exact ⟨by decide, fun limit hlimit => by cases hlimit⟩

theorem managed_beforePush {k : ObjectKey} (h : Manages beforePush.envoyFilters k) :
    k = ⟨"istio-system", "aeraki-outbound-gone"⟩ := by
  obtain ⟨ob, hob, hmanaged⟩ := h
  have hall : ∀ e ∈ beforePush.envoyFilters.objects.entries, isManaged e.2 = true →
      e.1 = ⟨"istio-system", "aeraki-outbound-gone"⟩ := by decide +kernel
  exact hall ⟨k, ob⟩ (AList.mem_lookup_iff.mp hob) hmanaged

theorem keptApart_twoServices : KeptApart oneAttributeController beforePush where
  firstHosts := by decide +kernel
  addresses := by decide
  gateways := ⟨fun g hg => (by cases hg), fun g hg => (by cases hg)⟩
  segments gateway hg := by cases hg
  namespaces ns ns' h h' rest := by
    have hns {ns : String} (h : InUse oneAttributeController beforePush ns) : ns = "istio-system" := by
      have htarget : ∀ ns ∈ targetNamespaces oneAttributeController, ns = "istio-system" := by decide +kernel
      rcases h with h | ⟨k, hk, rfl⟩
      · exact htarget ns h
      · rw [managed_beforePush hk]
    intro heq
    have hlength := congrArg String.length heq
    rw [hns h, hns h'] at hlength
    simp only [String.length_append] at hlength
    have hdash : "-".length = 1 := rfl
    omega
  managed k hk := by
    rw [managed_beforePush hk]
    exact ⟨"outbound-gone", by decide +kernel⟩
  listeners k hk := by
    obtain ⟨ob, hob, -⟩ := hk
    cases hob

/-- The service alone, with two attributes. -/
def limited : Controller :=
  Deployment.controller { metaRouters := [limitedBy [("method", some ⟨some (.exactMatch "get")⟩), ("user", none)]] }
    { serviceEntries := [limitedService] }

/-- The empty cluster. -/
def emptyCluster : ClusterState where
  envoyFilters := { objects := ∅ }
  virtualServices := { objects := ∅ }

end Aeraki.Proof.EnvoyFilter
