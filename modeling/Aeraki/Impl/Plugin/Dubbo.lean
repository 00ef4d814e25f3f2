import Aeraki.Impl.EnvoyFilter.NetworkFilter

/-!
# The Dubbo generator

`plugin/dubbo`: the Dubbo proxies of a service. Outbound it routes by the
service's VirtualService; inbound it carries the RBAC filters of the
namespace's authorization policies.
-/

namespace Aeraki.Impl.Dubbo

open Go (Comp index deref)

/-! ## Authorization filters -/

/-- `Builder`. -/
structure Builder where
  trustDomainBundle : TrustDomainBundle
  denyPolicies : List DubboAuthorizationPolicy
  allowPolicies : List DubboAuthorizationPolicy

/-- `builder.New`: the policies of the namespace, by action; none if listing
them fails. -/
def Builder.new (tdBundle : TrustDomainBundle) (namespace_ : String)
    (listed : Except String (List DubboAuthorizationPolicy)) : Builder :=
  match listed with
  | .error _ => { trustDomainBundle := tdBundle, denyPolicies := [], allowPolicies := [] }
  | .ok all =>
    let items := all.filter (inNamespace namespace_ ·.namespace_)
    { trustDomainBundle := tdBundle
      denyPolicies := items.filter (·.action = .DENY)
      allowPolicies := items.filter (·.action = .ALLOW) }

/-- `createDubboRBACFilter`. -/
def createDubboRBACFilter (config : RBAC) : DubboFilter :=
  { name := "envoy.filters.dubbo.rbac", config := some (config, "dubbo.") }

/-- `BuildDubboFilter`. -/
def Builder.buildDubboFilter (b : Builder) : Comp (List DubboFilter) := do
  let deny ← build b.denyPolicies b.trustDomainBundle .DENY
  let allow ← build b.allowPolicies b.trustDomainBundle .ALLOW
  return (deny.map createDubboRBACFilter).toList ++ (allow.map createDubboRBACFilter).toList

/-! ## Routes -/

/-- The method matcher that accepts all methods. -/
def anyMethod : StringMatcher := .safeRegex ".*"

/-- `defaultRoute`. -/
def defaultRoute (clusterName : String) : DubboRoute :=
  { method := anyMethod, route := .cluster clusterName }

/-- `buildMethodMatch`: only the first match request counts. -/
def buildMethodMatch (route : HTTPRoute) : StringMatcher :=
  match route.matches_.head?.bind (·.method) |>.bind (·.matchType) with
  | some (.exactMatch s) => .exactMatch s
  | some (.prefixMatch s) => .prefixMatch s
  | some (.regexMatch s) => .safeRegex s
  | none => anyMethod

/-- The matcher of one header, if its type is set. -/
def headerMatcher (name : String) (value : StringMatch) : Option HeaderMatcher :=
  match value.matchType with
  | some (.exactMatch s) => some ⟨name, .exactMatch s⟩
  | some (.prefixMatch s) => some ⟨name, .prefixMatch s⟩
  | some (.regexMatch s) => some ⟨name, .safeRegexMatch s⟩
  | none => none

/-- `buildHeaderMatch`: only the first match request counts. -/
def buildHeaderMatch (o : Oracle) (route : HTTPRoute) : List HeaderMatcher :=
  match route.matches_ with
  | m :: _ => (o.range m.headers).filterMap fun h => headerMatcher h.1 h.2
  | [] => []

/-- `buildSingleCluster`. -/
def buildSingleCluster (http : HTTPRoute) (service : ServiceEntry) : Comp ClusterSpecifier :=
  singleCluster http service

/-- `buildWeightedCluster`. -/
def buildWeightedCluster (http : HTTPRoute) (service : ServiceEntry) : Comp ClusterSpecifier := do
  let clusters ← clusterWeights http service
  return .weightedClusters { clusters := clusters, totalWeight := some (clusters.map (·.weight)).sum }

/-- The action of an HTTP route. -/
def buildRouteAction (http : HTTPRoute) (service : ServiceEntry) : Comp ClusterSpecifier :=
  if http.route.length > 1 then buildWeightedCluster http service else buildSingleCluster http service

/-- `buildRoute`. -/
def buildRoute (o : Oracle) (service : ServiceEntry) (vs : VirtualService) : Comp (List DubboRoute) :=
  vs.http.zipIdx.mapM fun h => do
    return {
      route := ← buildRouteAction h.1 service
      method := buildMethodMatch h.1
      headers := buildHeaderMatch (o.at (Go.itoa h.2)) h.1 }

/-- `buildOutboundRouteConfig`. -/
def buildOutboundRouteConfig (o : Oracle) (context : EnvoyFilterContext) :
    Comp (Except String DubboRouteConfiguration) := do
  match context.serviceEntry.annotations.lookup "interface" with
  | none => return .error "no interface annotation"
  | some serviceInterface =>
    let clusterName ← Impl.statPrefix .outbound context
    let routes ← match context.virtualService with
      | none => pure [defaultRoute clusterName]
      | some vs => buildRoute o context.serviceEntry.spec vs.spec
    return .ok { name := clusterName, interface := serviceInterface, routes := routes }

/-- `buildInboundRouteConfig`. -/
def buildInboundRouteConfig (context : EnvoyFilterContext) : Comp DubboRouteConfiguration := do
  let port ← index context.serviceEntry.spec.ports 0
  let clusterName := buildClusterName .inbound "" "" port.number
  return { name := clusterName, interface := "*", routes := [defaultRoute clusterName] }

/-! ## Proxies -/

/-- The router filter. -/
def routerFilter : DubboFilter := { name := "envoy.filters.dubbo.router" }

/-- `buildOutboundProxy`: nil if the service has no interface. -/
def buildOutboundProxy (o : Oracle) (context : EnvoyFilterContext) : Comp (Option DubboProxy) := do
  match ← buildOutboundRouteConfig o context with
  | .error _ => return none
  | .ok route =>
    return some {
      statPrefix := ← Impl.statPrefix .outbound context
      routeConfig := [route]
      dubboFilters := [routerFilter] }

/-- `buildInboundProxy`. -/
def buildInboundProxy (tdBundle : TrustDomainBundle) (listed : Except String (List DubboAuthorizationPolicy))
    (context : EnvoyFilterContext) : Comp DubboProxy := do
  let route ← buildInboundRouteConfig context
  let filters ← (Builder.new tdBundle context.serviceEntry.namespace_ listed).buildDubboFilter
  return {
    statPrefix := ← Impl.statPrefix .inbound context
    routeConfig := [route]
    dubboFilters := filters ++ [routerFilter] }

/-- The message of an outbound proxy: a nil pointer is not a nil interface. -/
def outboundMessage : Option DubboProxy → Proxy
  | some p => .dubbo p
  | none => .empty

/-- `Generate`. -/
def generate (tdBundle : TrustDomainBundle) (policies : List DubboAuthorizationPolicy) (o : Oracle)
    (context : EnvoyFilterContext) : Comp (Except String (List EnvoyFilterWrapper)) := do
  let port ← index context.serviceEntry.spec.ports 0
  let outboundProxy ← buildOutboundProxy o context
  let listed := match o.callError ["DubboAuthorizationPolicies"] with
    | some err => .error err
    | none => .ok policies
  let inboundProxy ← buildInboundProxy tdBundle listed context
  return .ok (← generateReplaceNetworkFilter context.serviceEntry port (some (outboundMessage outboundProxy))
    (some (.dubbo inboundProxy)) "envoy.filters.network.dubbo_proxy"
    "type.googleapis.com/envoy.extensions.filters.network.dubbo_proxy.v3.DubboProxy")

end Aeraki.Impl.Dubbo
