import Aeraki.Impl.Plugin.Dubbo
import Aeraki.Proof.EnvoyFilter.NetworkFilter

/-!
# The outbound EnvoyFilters of Dubbo

If the routes of a service cannot be built, `buildOutboundProxy` returns a nil
pointer, which is not nil any more as a message, so that `generateNetworkFilter`
emits it. The outbound EnvoyFilters carry what was built if and only if the
routes were, or the service has no address to emit one for
(`outboundBuilt_iff`).
-/

namespace Aeraki.Proof.Dubbo

open Aeraki.Impl Aeraki.Impl.Dubbo
open Aeraki.Proof.EnvoyFilter (outboundFilter inboundFilter generateNetworkFilter_eq)

/-- The outbound EnvoyFilters: those without a selector. -/
def outboundOf (filters : List EnvoyFilterWrapper) : List EnvoyFilterWrapper :=
  filters.filter (·.envoyfilter.workloadSelector.isNone)

/-- The value of a Dubbo proxy in an EnvoyFilter. -/
def dubboValue (proxy : Proxy) : PatchValue :=
  .networkFilter "envoy.filters.network.dubbo_proxy"
    "type.googleapis.com/envoy.extensions.filters.network.dubbo_proxy.v3.DubboProxy" proxy

/-- There is an outbound EnvoyFilter for each address, with the proxy of the
routes, if these were built, and else none. -/
structure OutboundBuilt (o : Oracle) (context : EnvoyFilterContext) (filters : List EnvoyFilterWrapper) : Prop where
  built : ∀ route, buildOutboundRouteConfig o context = .ok (.ok route) →
    ∃ host port proxy, context.serviceEntry.spec.hosts.head? = some host ∧
      context.serviceEntry.spec.ports.head? = some port ∧ proxy.routeConfig = [route] ∧
      outboundOf filters = context.serviceEntry.spec.addresses.map fun address =>
        outboundFilter host address port.number .REPLACE (dubboValue (.dubbo proxy))
  failed : ∀ err, buildOutboundRouteConfig o context = .ok (.error err) → outboundOf filters = []

/-- What `buildOutboundProxy` returns. -/
theorem buildOutboundProxy_cases {o : Oracle} {context : EnvoyFilterContext} {p : Option DubboProxy}
    (h : buildOutboundProxy o context = .ok p) :
    (∃ err, buildOutboundRouteConfig o context = .ok (.error err) ∧ p = none) ∨
      ∃ route proxy, buildOutboundRouteConfig o context = .ok (.ok route) ∧ p = some proxy ∧
        proxy.routeConfig = [route] := by
  obtain ⟨r, hr, h⟩ := Go.bind_eq_ok.mp h
  cases r with
  | error err =>
    cases h
    exact .inl ⟨err, hr, rfl⟩
  | ok route =>
    obtain ⟨stat, -, h⟩ := Go.bind_eq_ok.mp h
    cases h
    exact .inr ⟨route, _, hr, rfl, rfl⟩

/-- The inbound proxy is only built for a service with a host. -/
theorem host_of_buildInboundProxy {tdBundle : TrustDomainBundle}
    {listed : Except String (List DubboAuthorizationPolicy)} {context : EnvoyFilterContext} {proxy : DubboProxy}
    (h : buildInboundProxy tdBundle listed context = .ok proxy) :
    ∃ host, context.serviceEntry.spec.hosts.head? = some host := by
  obtain ⟨route, -, h⟩ := Go.bind_eq_ok.mp h
  obtain ⟨fs, -, h⟩ := Go.bind_eq_ok.mp h
  obtain ⟨stat, hstat, -⟩ := Go.bind_eq_ok.mp h
  obtain ⟨host, hhost, -⟩ := Go.bind_eq_ok.mp hstat
  exact ⟨host, List.head?_eq_getElem?.trans (Go.index_eq_ok.mp hhost)⟩

/-- The outbound EnvoyFilters that `Generate` returns carry what
`buildOutboundProxy` returned, nil or not. -/
theorem outboundOf_generate {tdBundle : TrustDomainBundle} {policies : List DubboAuthorizationPolicy} {o : Oracle}
    {context : EnvoyFilterContext} {filters : List EnvoyFilterWrapper}
    (h : generate tdBundle policies o context = .ok (.ok filters)) :
    ∃ host port p, context.serviceEntry.spec.hosts.head? = some host ∧
      context.serviceEntry.spec.ports.head? = some port ∧ buildOutboundProxy o context = .ok p ∧
      outboundOf filters = context.serviceEntry.spec.addresses.map fun address =>
        outboundFilter host address port.number .REPLACE (dubboValue (outboundMessage p)) := by
  obtain ⟨port, hport, h⟩ := Go.bind_eq_ok.mp h
  obtain ⟨p, hp, h⟩ := Go.bind_eq_ok.mp h
  obtain ⟨inb, hin, h⟩ := Go.bind_eq_ok.mp h
  obtain ⟨fs, hfs, h⟩ := Go.bind_eq_ok.mp h
  cases h
  obtain ⟨host, hhost⟩ := host_of_buildInboundProxy hin
  obtain ⟨hosts, hhosts⟩ := List.head?_eq_some_iff.mp hhost
  refine ⟨host, port, p, hhost, List.head?_eq_getElem?.trans (Go.index_eq_ok.mp hport), hp, ?_⟩
  rw [generateReplaceNetworkFilter, generateNetworkFilter_eq hhosts] at hfs
  cases hfs
  rw [outboundOf, List.filter_append, List.filter_eq_self.mpr, List.filter_eq_nil_iff.mpr, List.append_nil]
  · rfl
  · intro w hw
    rw [Option.elim_some] at hw
    split at hw
    · cases List.mem_singleton.mp hw
      exact Bool.false_ne_true
    · cases hw
  · intro w hw
    obtain ⟨address, -, rfl⟩ := List.mem_map.mp hw
    rfl

/-- The outbound EnvoyFilters are those of the routes if and only if the routes
were built, or there are no addresses. -/
theorem outboundBuilt_iff {tdBundle : TrustDomainBundle} {policies : List DubboAuthorizationPolicy} {o : Oracle}
    {context : EnvoyFilterContext} {filters : List EnvoyFilterWrapper}
    (h : generate tdBundle policies o context = .ok (.ok filters)) :
    OutboundBuilt o context filters ↔
      (∃ route, buildOutboundRouteConfig o context = .ok (.ok route)) ∨ context.serviceEntry.spec.addresses = [] := by
  obtain ⟨host, port, p, hhost, hport, hp, hout⟩ := outboundOf_generate h
  rcases buildOutboundProxy_cases hp with ⟨err, hr, rfl⟩ | ⟨route, proxy, hr, rfl, hroute⟩
  · constructor
    · intro hb
      rw [hb.failed err hr] at hout
      exact .inr (List.map_eq_nil_iff.mp hout.symm)
    · rintro (⟨route, hr'⟩ | hnil)
      · rw [hr] at hr'; cases hr'
      · rw [hnil] at hout
        refine ⟨fun route hr' => ?_, fun _ _ => hout⟩
        rw [hr] at hr'
        cases hr'
  · refine iff_of_true ⟨fun route' hr' => ?_, fun err hr' => ?_⟩ (.inl ⟨route, hr⟩)
    · rw [hr] at hr'
      cases hr'
      exact ⟨host, port, proxy, hhost, hport, hroute, hout⟩
    · rw [hr] at hr'
      cases hr'

/-- A Dubbo service with an address and the annotations. -/
def dubboContext (annotations : GoMap String String) : EnvoyFilterContext where
  meshConfig := {}
  serviceEntry := {
    name := "demo"
    namespace_ := "ns"
    annotations := annotations
    spec := { hosts := ["demo.ns"], addresses := ["240.240.0.1"], ports := [⟨20880, "tcp-dubbo"⟩] } }

theorem interface_outboundBuilt : ∃ filters,
    generate ⟨id⟩ [] {} (dubboContext (Finmap.singleton "interface" "org.Demo")) = .ok (.ok filters) ∧
      OutboundBuilt {} (dubboContext (Finmap.singleton "interface" "org.Demo")) filters := by
  obtain ⟨filters, h⟩ : ∃ filters,
    generate ⟨id⟩ [] {} (dubboContext (Finmap.singleton "interface" "org.Demo")) = .ok (.ok filters) := ⟨_, rfl⟩
  exact ⟨filters, h, (outboundBuilt_iff h).mpr (.inl ⟨_, rfl⟩)⟩

/-- A service without an interface: its routes are not built, and there is an
outbound EnvoyFilter, with an empty proxy. -/
theorem no_interface_empty_proxy : buildOutboundRouteConfig {} (dubboContext ∅) = .ok (.error "no interface annotation") ∧
    ∃ filters, generate ⟨id⟩ [] {} (dubboContext ∅) = .ok (.ok filters) ∧
      outboundFilter "demo.ns" "240.240.0.1" 20880 .REPLACE (dubboValue .empty) ∈ filters ∧
      ¬ OutboundBuilt {} (dubboContext ∅) filters := by
  obtain ⟨filters, h⟩ : ∃ filters, generate ⟨id⟩ [] {} (dubboContext ∅) = .ok (.ok filters) := ⟨_, rfl⟩
  have hmem : outboundFilter "demo.ns" "240.240.0.1" 20880 .REPLACE (dubboValue .empty) ∈ filters := by
    cases h
    exact List.mem_cons_self
  refine ⟨rfl, filters, h, hmem, fun hb => ?_⟩
  have hout : outboundFilter "demo.ns" "240.240.0.1" 20880 .REPLACE (dubboValue .empty) ∈ outboundOf filters :=
    List.mem_filter.mpr ⟨hmem, rfl⟩
  rw [hb.failed _ rfl] at hout
  cases hout

end Aeraki.Proof.Dubbo
