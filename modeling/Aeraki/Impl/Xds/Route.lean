import Aeraki.Impl.Envoy
import Aeraki.Impl.Protocol

/-!
# MetaRouters as RDS routes

The two translations of `xds`: from a MetaRouter to the routes of the
MetaProtocol proxy (`cache_mgr.go`: `constructRoute`, `defaultRoute`), and from
these to the HTTP routes that transmit them over RDS (`utils.go`:
`metaProtocolRoute2HttpRoute`).
-/

namespace Aeraki.Impl.Xds

open Go (Comp index deref)

/-! ## Matches -/

/-- `isCatchAllHeaderMatch`. -/
def isCatchAllHeaderMatch : Option StringMatch → Bool
  | none => true
  | some m =>
    match m.matchType with
    | some (.regexMatch regex) => regex = "*"
    | _ => false

/-- The matcher of one attribute, if it has one. -/
def attributeMatcher (name : String) (attr : Option StringMatch) : Option HeaderMatcher :=
  if isCatchAllHeaderMatch attr then some ⟨name, .presentMatch true⟩
  else
    match attr.bind (·.matchType) with
    | some (.exactMatch s) => some ⟨name, .exactMatch s⟩
    | some (.prefixMatch s) => some ⟨name, .prefixMatch s⟩
    | some (.regexMatch s) => some ⟨name, .safeRegexMatch s⟩
    | none => none

/-- `MetaMatch2HttpHeaderMatch`. -/
def metaMatch2HttpHeaderMatch (o : Oracle) (matchCrd : Option MetaRouteMatch) : List HeaderMatcher :=
  match matchCrd with
  | none => []
  | some m => (o.range m.attributes).filterMap fun a => attributeMatcher a.1 a.2

/-! ## Routes of the MetaProtocol proxy -/

/-- `translatePercentToFractionalPercent`, in millionths. The conversion saturates where
the product is out of range; what Go's does there depends on the platform. -/
def translatePercentToFractionalPercent (p : Float64) : UInt32 := (Float.ofBits p * 10000).toUInt32

/-- The port of a destination: the service's if it has none, or 0. -/
def dstPort (port : ServicePort) (destination : Destination) : Nat :=
  match destination.port with
  | some n => if n = 0 then port.number else n
  | none => port.number

/-- The cluster of a destination. -/
def dstCluster (port : ServicePort) (destination : Destination) : String :=
  buildClusterName .outbound destination.subset destination.host (dstPort port destination)

/-- The destination of a route's destination. -/
def routeDestination (d : Option MetaRouteDestination) : Comp (Destination × UInt32) := do
  let d ← deref d
  return (← deref d.destination, d.weight)

/-- The bits of 100. -/
def hundred : Float64 := 0x4059000000000000

/-- The mirror policy of a route. A percentage of 0 means 100, whatever the
sign of the 0. -/
def mirrorPolicy (port : ServicePort) (mirror : Destination) (percentage : Option Float64) : MirrorPolicy where
  cluster := dstCluster port mirror
  runtimeFraction := translatePercentToFractionalPercent
    (match percentage with
    | some p => if p = 0 ∨ p = 0x8000000000000000 then hundred else p
    | none => hundred)

/-- `constructAction`. -/
def constructAction (port : ServicePort) (route : Option MetaRoute) (dr : Option (Config DestinationRule)) :
    Comp MetaProtocolRouteAction := do
  match route with
  | none => return {}
  | some route =>
    let dsts ← route.route.mapM routeDestination
    let clusterSpecifier := match dsts with
      | [d] => ClusterSpecifier.cluster (dstCluster port d.1)
      | dsts => .weightedClusters
        { clusters := dsts.map fun d => { name := dstCluster port d.1, weight := d.2 }
          totalWeight := some (dsts.map (·.2)).sum }
    return {
      clusterSpecifier := some clusterSpecifier
      hashPolicy := (dsts.map fun d => getHashPolicy dr d.1.subset).filter (· ≠ "")
      requestMirrorPolicies := (route.mirror.map (mirrorPolicy port · route.mirrorPercentage)).toList }

/-- `constructMutation`. -/
def constructMutation (mutation : List (Option KeyValue)) : Comp (List KeyValue) := mutation.mapM deref

/-- One route of `constructRoute`. -/
def constructMetaRoute (o : Oracle) (port : ServicePort) (dr : Option (Config DestinationRule))
    (route : Option MetaRoute) : Comp MetaProtocolRoute := do
  let r ← deref route
  return {
    name := r.name
    match_ := some ⟨metaMatch2HttpHeaderMatch o r.match_⟩
    route := ← constructAction port route dr
    requestMutation := ← constructMutation r.requestMutation
    responseMutation := ← constructMutation r.responseMutation }

/-- `constructRoute`. -/
def constructRoute (o : Oracle) (service : ServiceEntry) (port : ServicePort) (metaRouter : MetaRouter)
    (dr : Option (Config DestinationRule)) : Comp MetaProtocolRouteConfiguration := do
  let routes ← metaRouter.routes.zipIdx.mapM fun r => constructMetaRoute (o.at (Go.itoa r.2)) port dr r.1
  let host ← index service.hosts 0
  return { name := buildMetaProtocolRouteName host port.number, routes := routes }

/-- `defaultRoute`. -/
def defaultRoute (service : ServiceEntry) (port : ServicePort) (dr : Option (Config DestinationRule)) :
    Comp MetaProtocolRouteConfiguration := do
  let host ← index service.hosts 0
  let hash := match dr with
    | some dr => getConsistentHashHeaderName dr.spec.trafficPolicy
    | none => ""
  return {
    name := buildMetaProtocolRouteName host port.number
    routes := [{
      name := "default"
      match_ := some ⟨[]⟩
      route := {
        clusterSpecifier := some (.cluster (buildClusterName .outbound "" host port.number))
        hashPolicy := if hash ≠ "" then [hash] else [] } }] }

/-! ## HTTP routes -/

/-- `httproute.RouteMatch`: a path's beginning and header matchers. -/
structure HttpRouteMatch where
  pathPrefix : String
  headers : List HeaderMatcher
deriving DecidableEq

/-- `httproute.RouteAction`: the hash policies are header names. -/
structure HttpRouteAction where
  clusterSpecifier : ClusterSpecifier
  requestMirrorPolicies : List MirrorPolicy
  hashPolicy : List String
deriving DecidableEq

/-- `httproute.Route`. -/
structure HttpRoute where
  name : String
  match_ : HttpRouteMatch
  action : HttpRouteAction
  requestHeadersToAdd : List KeyValue
  responseHeadersToAdd : List KeyValue
deriving DecidableEq

/-- `httproute.VirtualHost`. -/
structure VirtualHost where
  name : String
  domains : List String
  routes : List HttpRoute
deriving DecidableEq

/-- `httproute.RouteConfiguration`. -/
structure HttpRouteConfiguration where
  name : String
  virtualHosts : List VirtualHost
deriving DecidableEq

/-- `httpRouteMatch`. -/
def httpRouteMatch (route : MetaProtocolRoute) : Comp HttpRouteMatch := do
  let m ← deref route.match_
  return { pathPrefix := "/", headers := m.metadata }

/-- `httpRouteAction`: without a cluster specifier, `GetCluster` is empty. -/
def httpRouteAction (route : MetaProtocolRoute) : HttpRouteAction where
  clusterSpecifier := route.route.clusterSpecifier.getD (.cluster "")
  requestMirrorPolicies := route.route.requestMirrorPolicies
  hashPolicy := route.route.hashPolicy

/-- `metaProtocolRoute2HttpRoute` for one route. -/
def toHttpRoute (route : MetaProtocolRoute) : Comp HttpRoute := do
  return {
    name := route.name
    match_ := ← httpRouteMatch route
    action := httpRouteAction route
    requestHeadersToAdd := route.requestMutation
    responseHeadersToAdd := route.responseMutation }

/-- `metaProtocolRoute2HttpRoute`. -/
def metaProtocolRoute2HttpRoute (metaRoute : MetaProtocolRouteConfiguration) : Comp HttpRouteConfiguration := do
  let routes ← metaRoute.routes.mapM toHttpRoute
  return { name := metaRoute.name, virtualHosts := [{ name := "dummy", domains := ["*"], routes := routes }] }

end Aeraki.Impl.Xds
