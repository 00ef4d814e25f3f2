import Aeraki.Impl.Plugin.MetaProtocol
import Aeraki.Impl.Xds.CacheMgr
import Aeraki.Proof.EnvoyFilter.NetworkFilter
import Aeraki.Proof.Xds.Relevance
import Aeraki.Proof.Xds.Routing

/-!
# RDS references are served

The MetaProtocol generator names route configurations in the outbound proxies
of a service; `generateMetaRoutes` produces them from the same ServiceEntries.
Every name is served, and every address and MetaProtocol port of the service
has its listener's EnvoyFilter (`references_served`).
-/

namespace Aeraki.Proof.MetaProtocol

open Aeraki.Impl Aeraki.Impl.MetaProtocol Aeraki.Impl.Xds
open Aeraki.Proof.EnvoyFilter (outboundFilter inboundFilter generateNetworkFilter_eq mem_generateNetworkFilter)
open Aeraki.Proof.Webhook (IsSet)
open Aeraki.Proof.Xds (mem_of_findRelatedMetaRouter)

/-! ## Proxies -/

theorem configAccessLog_routeSpecifier (mesh : MeshConfig) (proxy : MetaProtocolProxy) :
    (configAccessLog mesh proxy).routeSpecifier = proxy.routeSpecifier := by
  unfold configAccessLog
  split <;> rfl

theorem configTracing_routeSpecifier {mesh : MeshConfig} {proxy proxy' : MetaProtocolProxy}
    (h : configTracing mesh proxy = .ok proxy') : proxy'.routeSpecifier = proxy.routeSpecifier := by
  unfold configTracing at h
  split at h
  · obtain ⟨config, -, h⟩ := Go.bind_eq_ok.mp h
    cases h
    rfl
  · cases h
    rfl

/-- An outbound proxy refers to the routes of the service's first host and
port. -/
theorem buildOutboundProxy_rds {codecs : Codecs} {context : EnvoyFilterContext} {port : ServicePort}
    {proxy : MetaProtocolProxy} (h : buildOutboundProxy codecs context port = .ok (.ok proxy)) {host : String}
    {hosts : List String} (hh : context.serviceEntry.spec.hosts = host :: hosts) :
    proxy.routeSpecifier = .rds (buildMetaProtocolRouteName host port.number) "aeraki-xds" := by
  unfold buildOutboundProxy at h
  obtain ⟨r, -, h⟩ := Go.bind_eq_ok.mp h
  split at h
  · cases h
  · obtain ⟨host', hhost, h⟩ := Go.bind_eq_ok.mp h
    rw [hh] at hhost
    cases hhost
    obtain ⟨proxy', htracing, h⟩ := Go.bind_eq_ok.mp h
    cases h
    rw [configTracing_routeSpecifier htracing, configAccessLog_routeSpecifier]

/-- An inbound proxy carries its routes. -/
theorem buildInboundProxy_routeConfig {codecs : Codecs} {o : Oracle} {context : EnvoyFilterContext}
    {port : ServicePort} {proxy : MetaProtocolProxy}
    (h : buildInboundProxy codecs o context port = .ok (.ok proxy)) : ∃ r, proxy.routeSpecifier = .routeConfig r := by
  unfold buildInboundProxy at h
  obtain ⟨route, -, h⟩ := Go.bind_eq_ok.mp h
  obtain ⟨r, -, h⟩ := Go.bind_eq_ok.mp h
  split at h
  · cases h
  · obtain ⟨host, -, h⟩ := Go.bind_eq_ok.mp h
    obtain ⟨filters, -, h⟩ := Go.bind_eq_ok.mp h
    split at h
    · cases h
    · obtain ⟨proxy', htracing, h⟩ := Go.bind_eq_ok.mp h
      cases h
      exact ⟨route, by rw [configTracing_routeSpecifier htracing, configAccessLog_routeSpecifier]⟩

/-- What generating the filters of a port without an error returned. -/
theorem generateSidecarPort_ok {codecs : Codecs} {o : Oracle} {context : EnvoyFilterContext} {port : ServicePort}
    {ws : List EnvoyFilterWrapper} (h : (generateSidecarPort codecs o context port).run = .ok (.ok ws)) :
    ∃ outboundProxy inboundProxy, buildOutboundProxy codecs context port = .ok (.ok outboundProxy) ∧
      buildInboundProxy codecs o context port = .ok (.ok inboundProxy) ∧
      generateReplaceNetworkFilter context.serviceEntry port (some (.metaProtocol outboundProxy))
        (some (.metaProtocol inboundProxy)) filterName filterType = .ok ws := by
  obtain ⟨outboundProxy, hout, h⟩ := Go.run_bind_eq_ok.mp h
  obtain ⟨inboundProxy, hin, h⟩ := Go.run_bind_eq_ok.mp h
  refine ⟨outboundProxy, inboundProxy, hout, hin, ?_⟩
  generalize generateReplaceNetworkFilter context.serviceEntry port (some (.metaProtocol outboundProxy))
    (some (.metaProtocol inboundProxy)) filterName filterType = r at h
  cases r with
  | error p => cases h
  | ok ws' => cases h; rfl

/-- Generating the filters of a service generates those of each MetaProtocol
port. -/
theorem generateSidecarEnvoyFilters_ok {codecs : Codecs} {o : Oracle} {context : EnvoyFilterContext}
    {ws : List EnvoyFilterWrapper} (h : generateSidecarEnvoyFilters codecs o context = .ok (.ok ws)) :
    ∃ wss, ws = wss.flatten ∧ List.Forall₂
      (fun p ws => (generateSidecarPort codecs (o.at (Go.itoa p.2)) context p.1).run = .ok (.ok ws))
      (metaProtocolPorts context.serviceEntry.spec.ports) wss := by
  obtain ⟨wss, hwss, h⟩ := Go.run_bind_eq_ok.mp h
  cases h
  exact ⟨wss, rfl, Go.run_mapM_forall hwss⟩

/-! ## References -/

/-- The EnvoyFilter matches the listener. -/
def MatchesListener (w : EnvoyFilterWrapper) (name : String) : Prop :=
  ∃ patch ∈ w.envoyfilter.configPatches, ∃ filter, patch.match_ = some (.listener name none filter)

/-- The route configuration that a MetaProtocol proxy refers to. -/
def routeConfigName : PatchValue → Option String
  | .networkFilter _ _ (.metaProtocol proxy) =>
    match proxy.routeSpecifier with
    | .rds name _ => some name
    | .routeConfig _ => none
  | _ => none

/-- The route configurations that an EnvoyFilter refers to. -/
def routeConfigNames (w : EnvoyFilterWrapper) : List String :=
  w.envoyfilter.configPatches.filterMap fun patch => patch.value.bind routeConfigName

/-- The filters of a port refer to its own route configuration only. -/
theorem routeConfigNames_sidecarPort {codecs : Codecs} {o : Oracle} {context : EnvoyFilterContext}
    {port : ServicePort} {ws : List EnvoyFilterWrapper}
    (h : (generateSidecarPort codecs o context port).run = .ok (.ok ws)) {host : String} {hosts : List String}
    (hh : context.serviceEntry.spec.hosts = host :: hosts) {w : EnvoyFilterWrapper} (hw : w ∈ ws) {name : String}
    (hname : name ∈ routeConfigNames w) : name = buildMetaProtocolRouteName host port.number := by
  obtain ⟨outboundProxy, inboundProxy, hout, hin, hws⟩ := generateSidecarPort_ok h
  rcases mem_generateNetworkFilter hh port _ _ _ hws hw with ⟨proxy, address, hp, -, rfl⟩ | ⟨proxy, hp, rfl⟩
  · cases hp
    simp only [routeConfigNames, outboundFilter, generateValue, List.filterMap_cons, List.filterMap_nil,
      Option.bind_some, routeConfigName, buildOutboundProxy_rds hout hh] at hname
    exact List.mem_singleton.mp hname
  · cases hp
    obtain ⟨r, hr⟩ := buildInboundProxy_routeConfig hin
    simp only [routeConfigNames, inboundFilter, generateValue, List.filterMap_cons, List.filterMap_nil,
      Option.bind_some, routeConfigName, hr] at hname
    cases hname

/-- The filters of a port match the listener of each address. -/
theorem matchesListener_sidecarPort {codecs : Codecs} {o : Oracle} {context : EnvoyFilterContext}
    {port : ServicePort} {ws : List EnvoyFilterWrapper}
    (h : (generateSidecarPort codecs o context port).run = .ok (.ok ws)) {host : String} {hosts : List String}
    (hh : context.serviceEntry.spec.hosts = host :: hosts) {address : String}
    (ha : address ∈ context.serviceEntry.spec.addresses) :
    ∃ w ∈ ws, MatchesListener w (outboundListenerName address port.number) := by
  obtain ⟨outboundProxy, inboundProxy, -, -, hws⟩ := generateSidecarPort_ok h
  rw [generateReplaceNetworkFilter, generateNetworkFilter_eq hh] at hws
  cases hws
  exact ⟨_, List.mem_append_left _ (List.mem_map_of_mem ha), _, List.mem_singleton_self _, _, rfl⟩

/-! ## Route configurations -/

theorem constructRoute_name {o : Oracle} {service : ServiceEntry} {port : ServicePort} {metaRouter : MetaRouter}
    {dr : Option (Config DestinationRule)} {cfg : MetaProtocolRouteConfiguration}
    (h : constructRoute o service port metaRouter dr = .ok cfg) {host : String} {hosts : List String}
    (hh : service.hosts = host :: hosts) : cfg.name = buildMetaProtocolRouteName host port.number := by
  obtain ⟨routes, -, h⟩ := Go.bind_eq_ok.mp h
  rw [hh] at h
  cases h
  rfl

theorem portRoute_name {o : Oracle} {service : ServiceEntry} {metaRouter : Option MetaRouter}
    {dr : Option (Config DestinationRule)} {port : ServicePort} {cfg : MetaProtocolRouteConfiguration}
    (h : CacheMgr.portRoute o service metaRouter dr port = .ok cfg) {host : String} {hosts : List String}
    (hh : service.hosts = host :: hosts) : cfg.name = buildMetaProtocolRouteName host port.number := by
  cases metaRouter with
  | some metaRouter => exact constructRoute_name h hh
  | none =>
    unfold CacheMgr.portRoute defaultRoute at h
    rw [hh] at h
    cases h
    rfl

/-- The routes of a service with a host: one for each MetaProtocol port, if there
is one. -/
theorem serviceRoutes_eq {c : CacheMgr} {o : Oracle} {se : Config ServiceEntry} {host : String} {hosts : List String}
    (hh : se.spec.hosts = host :: hosts) :
    c.serviceRoutes o se = (CacheMgr.metaPorts se.spec).mapM fun p =>
      CacheMgr.portRoute ((o.at se.key).at (Go.itoa p.2)) se.spec (c.findRelatedMetaRouter (o.at se.key) host)
        (c.findRelatedDestinationRule (o.at se.key) host se.namespace_) p.1 := by
  have hnil : CacheMgr.isMetaProtocolService se.spec = false → CacheMgr.metaPorts se.spec = [] := fun h => by
    rw [CacheMgr.metaPorts, List.filter_eq_nil_iff]
    intro p hp
    have := List.any_eq_false.mp h p.1 (List.fst_mem_of_mem_zipIdx hp)
    exact this
  unfold CacheMgr.serviceRoutes
  dsimp only
  split
  · rename_i hports
    rw [CacheMgr.metaPorts, List.isEmpty_iff.mp hports]
    rfl
  · split
    · rename_i hmeta
      rw [hnil (by simpa using hmeta)]
      rfl
    · rw [hh]

/-- Every MetaProtocol port of a service with a host is served. -/
theorem routes_served {c : CacheMgr} {o : Oracle} {cfgs : List MetaProtocolRouteConfiguration}
    (h : c.routes o = .ok cfgs) {se : Config ServiceEntry} (hse : se ∈ c.store.serviceEntries) {host : String}
    {hosts : List String} (hh : se.spec.hosts = host :: hosts) {p : ServicePort × Nat}
    (hp : p ∈ metaProtocolPorts se.spec.ports) : ∃ cfg ∈ cfgs, cfg.name = buildMetaProtocolRouteName host p.1.number := by
  obtain ⟨rss, hrss, h⟩ := Go.bind_eq_ok.mp h
  cases h
  have hse' : se ∈ (o.at "ServiceEntries").list c.store.serviceEntries :=
    (GoMap.shuffle_perm _ _).mem_iff.mpr hse
  obtain ⟨rs, hrs, hroutes⟩ := Go.mapM_ok_mem hrss hse'
  rw [serviceRoutes_eq hh] at hroutes
  obtain ⟨cfg, hcfg, hport⟩ := Go.mapM_ok_mem hroutes hp
  exact ⟨cfg, List.mem_flatten.mpr ⟨rs, hrs, hcfg⟩, portRoute_name hport hh⟩

/-- The routes of all MetaRouters, their destinations and mutations are set. -/
def AllSet (metaRouters : List MetaRouter) : Prop :=
  ∀ metaRouter ∈ metaRouters, ∀ r ∈ metaRouter.routes, ∃ route dsts request response,
    r = some route ∧ IsSet route dsts request response

/-- Then the routes are generated without a panic. -/
theorem generateMetaRoutes_ok {c : CacheMgr} (h : AllSet c.metaRouters) (o : Oracle) (ses : List (Config ServiceEntry)) :
    ∃ cfgs, c.generateMetaRoutes o ses = .ok cfgs := by
  have hservice : ∀ se ∈ ses, ∃ rs, c.serviceRoutes o se = .ok rs := by
    intro se _
    cases hh : se.spec.hosts with
    | nil => exact ⟨[], Xds.serviceRoutes_nil fun _ => hh⟩
    | cons host hosts =>
      rw [serviceRoutes_eq hh]
      refine Go.mapM_ok fun p _ => ?_
      cases hm : c.findRelatedMetaRouter (o.at se.key) host with
      | none =>
        exact Xds.defaultRoute_ok hh p.1 _
      | some metaRouter =>
        refine Xds.constructRoute_ok (fun r hr o => ?_) (by rw [hh]; exact List.cons_ne_nil _ _)
        obtain ⟨route, dsts, request, response, rfl, hset⟩ := h metaRouter (mem_of_findRelatedMetaRouter hm) r hr
        exact ⟨_, Xds.constructMetaRoute_set hset p.1 _ o⟩
  obtain ⟨rss, hrss⟩ := Go.mapM_ok hservice
  exact ⟨rss.flatten, by rw [CacheMgr.generateMetaRoutes, hrss]; rfl⟩

/-- If the filters of a service of the store are generated without an error, each
address and MetaProtocol port has its listener's filter; and each route
configuration that they refer to is among those generated from the store, which
are generated if the MetaRouters are set. -/
theorem references_served (store : ConfigStore) (o' : Oracle) {metaRouters : List MetaRouter} {codecs : Codecs}
    {context : EnvoyFilterContext} {o : Oracle} {ws : List EnvoyFilterWrapper}
    (hse : context.serviceEntry ∈ store.serviceEntries) (hhosts : context.serviceEntry.spec.hosts ≠ [])
    (hset : AllSet metaRouters) (h : generateSidecarEnvoyFilters codecs o context = .ok (.ok ws)) :
    (∀ address ∈ context.serviceEntry.spec.addresses, ∀ port ∈ context.serviceEntry.spec.ports,
      (getLayer7ProtocolFromPortName port.name).isMetaProtocol = true →
        ∃ w ∈ ws, MatchesListener w (outboundListenerName address port.number)) ∧
    ∃ cfgs, CacheMgr.routes ⟨store, metaRouters⟩ o' = .ok cfgs ∧
      ∀ w ∈ ws, ∀ name ∈ routeConfigNames w, ∃ cfg ∈ cfgs, cfg.name = name := by
  obtain ⟨host, hosts, hh⟩ := List.exists_cons_of_ne_nil hhosts
  obtain ⟨wss, rfl, hwss⟩ := generateSidecarEnvoyFilters_ok h
  obtain ⟨cfgs, hcfgs⟩ : ∃ cfgs, CacheMgr.routes ⟨store, metaRouters⟩ o' = .ok cfgs := generateMetaRoutes_ok hset o' _
  refine ⟨fun address ha port hport hmeta => ?_, cfgs, hcfgs, fun w hw name hname => ?_⟩
  · obtain ⟨i, hi⟩ := List.mem_iff_getElem?.mp hport
    have hp : (port, i) ∈ metaProtocolPorts context.serviceEntry.spec.ports :=
      List.mem_filter.mpr ⟨List.mk_mem_zipIdx_iff_getElem?.mpr hi, hmeta⟩
    obtain ⟨ws, hws, hrun⟩ := Go.exists_of_forall₂_left hwss hp
    obtain ⟨w, hw, hlistener⟩ := matchesListener_sidecarPort hrun hh ha
    exact ⟨w, List.mem_flatten.mpr ⟨ws, hws, hw⟩, hlistener⟩
  · obtain ⟨ws, hws, hw⟩ := List.mem_flatten.mp hw
    obtain ⟨p, hp, hrun⟩ := Go.exists_of_forall₂_right hwss hws
    rw [routeConfigNames_sidecarPort hrun hh hw hname]
    exact routes_served hcfgs hse hh hp

/-- A Dubbo service over MetaProtocol. -/
def dubboService : Config ServiceEntry where
  name := "demo"
  namespace_ := "ns"
  spec := { hosts := ["demo.ns"], addresses := ["10.0.0.1"], ports := [⟨20880, "tcp-metaprotocol-dubbo"⟩] }

theorem dubboService_served : ∃ ws cfgs,
    generateSidecarEnvoyFilters builtinCodecs {} { meshConfig := {}, serviceEntry := dubboService } = .ok (.ok ws) ∧
    CacheMgr.routes ⟨{ serviceEntries := [dubboService] }, [Xds.canary]⟩ {} = .ok cfgs ∧
    (∃ w ∈ ws, MatchesListener w "10.0.0.1_20880") ∧
    ∀ w ∈ ws, ∀ name ∈ routeConfigNames w, ∃ cfg ∈ cfgs, cfg.name = name := by
  have hset : AllSet [Xds.canary] := fun metaRouter hm r hr => by
    cases List.mem_singleton.mp hm
    obtain ⟨route, dsts, request, response, h, hset, -⟩ := Xds.canary_accepted.route hr
    exact ⟨route, dsts, request, response, h, hset⟩
  obtain ⟨ws, hws⟩ : ∃ ws, generateSidecarEnvoyFilters builtinCodecs {}
    { meshConfig := {}, serviceEntry := dubboService } = .ok (.ok ws) := ⟨_, rfl⟩
  obtain ⟨hlisteners, cfgs, hcfgs, hnames⟩ := references_served { serviceEntries := [dubboService] } {}
    (List.mem_singleton_self dubboService) (List.cons_ne_nil _ _) hset hws
  exact ⟨ws, cfgs, hws, hcfgs, hlisteners "10.0.0.1" (by decide) ⟨20880, "tcp-metaprotocol-dubbo"⟩ (by decide)
    (by decide), hnames⟩

/-- A MetaRouter with a route whose destination is not set. -/
def unset : MetaRouter where
  name := "demo"
  namespace_ := "ns"
  hosts := ["demo.ns"]
  routes := [some { route := [some ⟨none, 0⟩] }]

/-- The filters of the service are generated, and the routes are not. -/
theorem unset_not_served : (∃ ws,
    generateSidecarEnvoyFilters builtinCodecs {}
      { meshConfig := {}, serviceEntry := dubboService, metaRouter := some unset } = .ok (.ok ws) ∧
      ∃ w ∈ ws, routeConfigNames w = ["demo.ns_20880"]) ∧
    CacheMgr.routes ⟨{ serviceEntries := [dubboService] }, [unset]⟩ {} = .error .nilDereference :=
  ⟨⟨_, rfl, _, List.mem_cons_self, by decide +kernel⟩, by decide +kernel⟩

end Aeraki.Proof.MetaProtocol
