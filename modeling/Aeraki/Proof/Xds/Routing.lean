import Aeraki.Impl.Xds.Route
import Aeraki.Proof.Webhook.Admission

/-!
# The meaning of MetaRouters over RDS

Which route of a MetaRouter a request takes (`acceptsRoute`), and which one of
the HTTP routes sent over RDS (`acceptsHttpRoute`). For an accepted MetaRouter
they are at the same position, and the HTTP route does what the MetaRouter's
says (`routing_preserved`). The routes of an accepted MetaRouter are
constructed without a panic for every service with a host
(`constructRoute_safe`).
-/

namespace Aeraki.Proof.Xds

open Aeraki.Impl Aeraki.Impl.Xds
open Aeraki.Proof.Webhook (Accepts IsSet lenient)

/-! ## Matching -/

section

variable (regex : String → String → Bool)

/-- Whether an attribute match accepts a value. `regex` says whether a value
matches a pattern. -/
def acceptsAttribute (attr : Option StringMatch) (value : Option String) : Bool :=
  match attr with
  | none => value.isSome
  | some m =>
    match m.matchType with
    | none => true
    | some (.exactMatch s) => value = some s
    | some (.prefixMatch s) => value.any (Go.hasPrefix · s)
    | some (.regexMatch s) => if s = "*" then value.isSome else value.any (regex s)

/-- Whether all attribute matches accept the request. -/
def acceptsMatch (m : Option MetaRouteMatch) (request : GoMap String String) : Bool :=
  m.all fun m => m.attributes.sorted.all fun a => acceptsAttribute regex a.2 (request.lookup a.1)

/-- Whether a route of a MetaRouter accepts the request. -/
def acceptsRoute (r : Option MetaRoute) (request : GoMap String String) : Bool :=
  r.any fun r => acceptsMatch regex r.match_ request

/-- Whether a header matcher accepts the request. -/
def acceptsHeader (h : HeaderMatcher) (request : GoMap String String) : Bool :=
  match h.headerMatchSpecifier with
  | .exactMatch s => request.lookup h.name = some s
  | .prefixMatch s => (request.lookup h.name).any (Go.hasPrefix · s)
  | .safeRegexMatch s => (request.lookup h.name).any (regex s)
  | .presentMatch b => (request.lookup h.name).isSome = b

/-- Whether an HTTP route accepts the request, whatever its path. -/
def acceptsHttpRoute (r : HttpRoute) (request : GoMap String String) : Bool :=
  r.match_.headers.all (acceptsHeader regex · request)

variable {regex}

/-- The matcher of an attribute accepts what the attribute match does. -/
theorem acceptsHeader_attributeMatcher (name : String) (attr : Option StringMatch) (request : GoMap String String) :
    (attributeMatcher name attr).all (acceptsHeader regex · request) =
      acceptsAttribute regex attr (request.lookup name) := by
  rcases attr with _ | ⟨_ | (s | s | s)⟩
  · simp [attributeMatcher, isCatchAllHeaderMatch, acceptsHeader, acceptsAttribute]
  · rfl
  · rfl
  · rfl
  · by_cases hs : s = "*"
    · simp [attributeMatcher, isCatchAllHeaderMatch, acceptsHeader, acceptsAttribute, hs]
    · simp [attributeMatcher, isCatchAllHeaderMatch, acceptsHeader, acceptsAttribute, hs]

/-- The header matchers accept what the match does, in whatever order Go ranges
over the attributes. -/
theorem acceptsHeader_metaMatch2HttpHeaderMatch (o : Oracle) (m : Option MetaRouteMatch)
    (request : GoMap String String) :
    (metaMatch2HttpHeaderMatch o m).all (acceptsHeader regex · request) = acceptsMatch regex m request := by
  cases m with
  | none => rfl
  | some m =>
    have hall : ∀ a : String × Option StringMatch,
        (∀ h ∈ attributeMatcher a.1 a.2, acceptsHeader regex h request = true) ↔
          acceptsAttribute regex a.2 (request.lookup a.1) = true := fun a => by
      rw [← acceptsHeader_attributeMatcher, Option.all_eq_true]
      rfl
    rw [Bool.eq_iff_iff, acceptsMatch, Option.all_some, metaMatch2HttpHeaderMatch, List.all_eq_true, List.all_eq_true]
    refine ⟨fun h a ha => (hall a).mp fun x hx => h x ?_, fun h x hx => ?_⟩
    · exact List.mem_filterMap.mpr ⟨a, GoMap.mem_range.mpr (GoMap.mem_sorted.mp ha), hx⟩
    · obtain ⟨a, ha, hx⟩ := List.mem_filterMap.mp hx
      exact (hall a).mpr (h a (GoMap.mem_sorted.mpr (GoMap.mem_range.mp ha))) x hx

end

/-- First matches of two lists whose elements accept alike. -/
theorem findIdx?_eq_of_forall₂ {α β : Type} {p : α → Bool} {q : β → Bool} {xs : List α} {ys : List β}
    (h : List.Forall₂ (fun x y => q y = p x) xs ys) : ys.findIdx? q = xs.findIdx? p := by
  induction h with
  | nil => rfl
  | cons hxy _ ih => rw [List.findIdx?_cons, List.findIdx?_cons, hxy, ih]

theorem forall₂_comp {α β γ : Type} {R : α → β → Prop} {S : β → γ → Prop} {xs : List α} {ys : List β} {zs : List γ}
    (h : List.Forall₂ R xs ys) (h' : List.Forall₂ S ys zs) :
    List.Forall₂ (fun x z => ∃ y, R x y ∧ S y z) xs zs := by
  induction h generalizing zs with
  | nil => cases h'; exact .nil
  | cons hxy _ ih => cases h' with | cons hyz h' => exact .cons ⟨_, hxy, hyz⟩ (ih h')

/-! ## Construction -/

/-- The cluster of a destination: of its subset, host and port, the service's
port if it has none or 0. -/
def destinationCluster (port : ServicePort) (d : Destination) : String :=
  buildClusterName .outbound d.subset d.host (if d.port.getD 0 = 0 then port.number else d.port.getD 0)

theorem dstCluster_eq (port : ServicePort) (d : Destination) : dstCluster port d = destinationCluster port d := by
  rw [dstCluster, dstPort, destinationCluster]
  cases d.port <;> rfl

/-- The clusters of a route: one, or several with their weights. -/
def clustersOf (port : ServicePort) (dsts : List (Destination × UInt32)) : ClusterSpecifier :=
  match dsts with
  | [d] => .cluster (destinationCluster port d.1)
  | dsts => .weightedClusters
    { clusters := dsts.map fun d => { name := destinationCluster port d.1, weight := d.2 }
      totalWeight := some (dsts.map (·.2)).sum }

section

variable {route : MetaRoute} {dsts : List (Destination × UInt32)} {request response : List KeyValue}
  (h : IsSet route dsts request response) (port : ServicePort) (dr : Option (Config DestinationRule))
include h

/-- The action of a route that is set. -/
theorem constructAction_set :
    constructAction port (some route) dr = .ok {
      clusterSpecifier := some (clustersOf port dsts)
      hashPolicy := (dsts.map fun d => getHashPolicy dr d.1.subset).filter (· ≠ "")
      requestMirrorPolicies := (route.mirror.map (mirrorPolicy port · route.mirrorPercentage)).toList } := by
  have hdsts : route.route.mapM routeDestination = .ok dsts := by
    rw [h.destinations]
    exact Go.mapM_of_inverse (g := routeDestination) (fun _ => rfl) dsts
  rw [constructAction, hdsts]
  simp only [bind, Except.bind, dstCluster_eq]
  rfl

/-- The translation of a route that is set. -/
theorem constructMetaRoute_set (o : Oracle) :
    constructMetaRoute o port dr (some route) = .ok {
      name := route.name
      match_ := some ⟨metaMatch2HttpHeaderMatch o route.match_⟩
      route := {
        clusterSpecifier := some (clustersOf port dsts)
        hashPolicy := (dsts.map fun d => getHashPolicy dr d.1.subset).filter (· ≠ "")
        requestMirrorPolicies := (route.mirror.map (mirrorPolicy port · route.mirrorPercentage)).toList }
      requestMutation := request
      responseMutation := response } := by
  have hrequest : constructMutation route.requestMutation = .ok request := by
    rw [h.requestMutation]; exact Go.mapM_of_inverse (g := Go.deref) (fun _ => rfl) request
  have hresponse : constructMutation route.responseMutation = .ok response := by
    rw [h.responseMutation]; exact Go.mapM_of_inverse (g := Go.deref) (fun _ => rfl) response
  simp only [constructMetaRoute, Go.deref_some, constructAction_set h port dr, bind, Except.bind, hrequest, hresponse]
  rfl

end

/-- The route configuration of a MetaRouter whose routes are all translated. -/
theorem constructRoute_ok {o : Oracle} {service : ServiceEntry} {port : ServicePort} {metaRouter : MetaRouter}
    {dr : Option (Config DestinationRule)}
    (h : ∀ r ∈ metaRouter.routes, ∀ o, ∃ mr, constructMetaRoute o port dr r = .ok mr) (hhosts : service.hosts ≠ []) :
    ∃ cfg, constructRoute o service port metaRouter dr = .ok cfg := by
  obtain ⟨host, hosts, hh⟩ := List.exists_cons_of_ne_nil hhosts
  obtain ⟨routes, hroutes⟩ := Go.mapM_ok fun (r : Option MetaRoute × Nat) hr =>
    h r.1 (List.fst_mem_of_mem_zipIdx hr) (o.at (Go.itoa r.2))
  refine ⟨⟨buildMetaProtocolRouteName host port.number, routes⟩, ?_⟩
  rw [constructRoute, hroutes, hh]
  rfl

/-- Each route comes from the MetaRouter's route at its position. -/
theorem constructRoute_routes {o : Oracle} {service : ServiceEntry} {port : ServicePort} {metaRouter : MetaRouter}
    {dr : Option (Config DestinationRule)} {cfg : MetaProtocolRouteConfiguration}
    (h : constructRoute o service port metaRouter dr = .ok cfg) :
    List.Forall₂ (fun r mr => ∃ o, constructMetaRoute o port dr r = .ok mr) metaRouter.routes cfg.routes := by
  obtain ⟨routes, hroutes, h⟩ := Go.bind_eq_ok.mp h
  obtain ⟨host, -, h⟩ := Go.bind_eq_ok.mp h
  cases h
  rw [← List.zipIdx_map_fst 0 metaRouter.routes, List.forall₂_map_left_iff]
  exact (Go.mapM_ok_forall hroutes).imp fun r mr hr => ⟨_, hr⟩

/-! ## Accepted MetaRouters -/

section

variable {lib : Webhook.Libraries} {o : Oracle} {metaRouter : MetaRouter} (h : Accepts lib o metaRouter)
include h

theorem accepted_constructRoute_ok (o' : Oracle) {service : ServiceEntry} (port : ServicePort)
    (dr : Option (Config DestinationRule)) (hhosts : service.hosts ≠ []) :
    ∃ cfg, constructRoute o' service port metaRouter dr = .ok cfg := by
  refine constructRoute_ok (fun r hr o => ?_) hhosts
  obtain ⟨route, dsts, request, response, rfl, hset, -⟩ := h.route hr
  exact ⟨_, constructMetaRoute_set hset port dr o⟩

/-- Each route of the configuration is the translation of the MetaRouter's
route at its position. -/
theorem accepted_constructRoute_routes {o' : Oracle} {service : ServiceEntry} {port : ServicePort}
    {dr : Option (Config DestinationRule)} {cfg : MetaProtocolRouteConfiguration}
    (hcfg : constructRoute o' service port metaRouter dr = .ok cfg) :
    List.Forall₂ (fun r mr => ∃ o route dsts request response, r = some route ∧ IsSet route dsts request response ∧
      dsts ≠ [] ∧ (1 < dsts.length → (dsts.map (·.2)).sum = 100) ∧
      constructMetaRoute o port dr (some route) = .ok mr) metaRouter.routes cfg.routes := by
  have hall := (List.forall₂_and_left _ _).mpr ⟨fun r hr => h.route hr, constructRoute_routes hcfg⟩
  refine hall.imp fun r mr ⟨hset, hmr⟩ => ?_
  obtain ⟨route, dsts, request, response, rfl, hset, hne, hsum⟩ := hset
  obtain ⟨o, hmr⟩ := hmr
  exact ⟨o, route, dsts, request, response, rfl, hset, hne, hsum, hmr⟩

end

/-! ## Routing -/

/-- The HTTP route does what the MetaRouter's route says: the clusters of its
destinations, with their weights if there are several, its mutations and its
mirror. -/
structure SameAction (port : ServicePort) (route : MetaRoute) (r : HttpRoute) : Prop where
  name : r.name = route.name
  clusters : ∃ dsts : List (Destination × UInt32), dsts ≠ [] ∧
    (route.route = dsts.map fun d => some ⟨some d.1, d.2⟩) ∧
    (∀ d, dsts = [d] → r.action.clusterSpecifier = .cluster (destinationCluster port d.1)) ∧
    (1 < dsts.length → ∃ total, r.action.clusterSpecifier =
      .weightedClusters ⟨dsts.map fun d => ⟨destinationCluster port d.1, d.2⟩, total⟩)
  request : route.requestMutation = r.requestHeadersToAdd.map some
  response : route.responseMutation = r.responseHeadersToAdd.map some
  mirror : r.action.requestMirrorPolicies.map (·.cluster) = (route.mirror.map (destinationCluster port)).toList

/-- The HTTP route of a route that is set. -/
theorem toHttpRoute_constructMetaRoute {route : MetaRoute} {dsts : List (Destination × UInt32)}
    {request response : List KeyValue} (h : IsSet route dsts request response) (hne : dsts ≠ []) {o : Oracle}
    {port : ServicePort} {dr : Option (Config DestinationRule)} {mr : MetaProtocolRoute} {r : HttpRoute}
    (hmr : constructMetaRoute o port dr (some route) = .ok mr) (hr : toHttpRoute mr = .ok r) :
    SameAction port route r ∧ ∀ regex request, acceptsHttpRoute regex r request =
      acceptsRoute regex (some route) request := by
  rw [constructMetaRoute_set h port dr o] at hmr
  cases hmr
  cases hr
  refine ⟨⟨rfl, ⟨dsts, hne, h.destinations, ?_, ?_⟩, h.requestMutation, h.responseMutation, ?_⟩, fun regex request => ?_⟩
  · rintro d rfl
    rfl
  · rintro hlen
    rcases dsts with _ | ⟨d, _ | ⟨d', dsts⟩⟩
    · cases hne rfl
    · cases Nat.lt_irrefl _ hlen
    · exact ⟨_, rfl⟩
  · show List.map _ (Option.toList _) = _
    rw [← Option.toList_map, Option.map_map]
    congr 2
    funext mirror
    exact dstCluster_eq port mirror
  · exact acceptsHeader_metaMatch2HttpHeaderMatch o route.match_ request

/-- The HTTP routes of an accepted MetaRouter, for a service with a host, exist;
the first one to accept a request is at the position of the MetaRouter's first
one, and each does what the MetaRouter's route says. -/
theorem routing_preserved (regex : String → String → Bool) {lib : Webhook.Libraries} {o : Oracle}
    {metaRouter : MetaRouter} (h : Accepts lib o metaRouter) (o' : Oracle) (service : ServiceEntry)
    (port : ServicePort) (dr : Option (Config DestinationRule)) :
    (service.hosts ≠ [] → ∃ http,
      (constructRoute o' service port metaRouter dr >>= metaProtocolRoute2HttpRoute) = .ok http) ∧
    ∀ http, (constructRoute o' service port metaRouter dr >>= metaProtocolRoute2HttpRoute) = .ok http →
      ∃ routes, http.virtualHosts = [{ name := "dummy", domains := ["*"], routes := routes }] ∧
        (∀ request, routes.findIdx? (acceptsHttpRoute regex · request) =
          metaRouter.routes.findIdx? (acceptsRoute regex · request)) ∧
        List.Forall₂ (fun r http => ∃ route, r = some route ∧ SameAction port route http) metaRouter.routes routes := by
  refine ⟨fun hhosts => ?_, fun http hhttp => ?_⟩
  · obtain ⟨cfg, hcfg⟩ := accepted_constructRoute_ok h o' port dr hhosts
    have hroutes : List.Forall₂ (fun _ mr => ∃ r, toHttpRoute mr = .ok r) metaRouter.routes cfg.routes :=
      (accepted_constructRoute_routes h hcfg).imp fun _ mr hr => by
        obtain ⟨o, route, dsts, request, response, -, hset, -, -, hmr⟩ := hr
        rw [constructMetaRoute_set hset port dr o] at hmr
        cases hmr
        exact ⟨_, rfl⟩
    obtain ⟨rs, hrs⟩ := Go.mapM_ok fun mr hmr => (Go.exists_of_forall₂_right hroutes hmr).elim fun _ h => h.2
    exact ⟨_, by rw [hcfg]; show metaProtocolRoute2HttpRoute cfg = _; rw [metaProtocolRoute2HttpRoute, hrs]; rfl⟩
  · obtain ⟨cfg, hcfg, hhttp⟩ := Go.bind_eq_ok.mp hhttp
    obtain ⟨rs, hrs, hhttp⟩ := Go.bind_eq_ok.mp hhttp
    cases hhttp
    have hall := forall₂_comp (accepted_constructRoute_routes h hcfg) (Go.mapM_ok_forall hrs)
    refine ⟨rs, rfl, fun request => findIdx?_eq_of_forall₂ (hall.imp fun r http hr => ?_), hall.imp fun r http hr => ?_⟩
    · obtain ⟨mr, ⟨o, route, dsts, _, _, rfl, hset, hne, -, hmr⟩, hr⟩ := hr
      exact (toHttpRoute_constructMetaRoute hset hne hmr hr).2 regex request
    · obtain ⟨mr, ⟨o, route, dsts, _, _, rfl, hset, hne, -, hmr⟩, hr⟩ := hr
      exact ⟨route, rfl, (toHttpRoute_constructMetaRoute hset hne hmr hr).1⟩

/-- A MetaRouter with a canary route for one user and a default route. -/
def canary : MetaRouter where
  name := "demo"
  namespace_ := "ns"
  hosts := ["demo.ns"]
  routes := [
    some { name := "canary"
           match_ := some ⟨GoMap.writeAll ∅ [("user", some ⟨some (.exactMatch "jason")⟩)]⟩
           route := [some ⟨some { host := "demo.ns", subset := "v2" }, 30⟩, some ⟨some { host := "demo.ns", subset := "v1" }, 70⟩] },
    some { name := "default", route := [some ⟨some { host := "demo.ns", subset := "v1", port := some 9090 }, 0⟩] }]

theorem canary_accepted : Accepts lenient {} canary := ⟨[], by decide +kernel⟩

theorem canary_routed : ∃ http routes,
    (constructRoute {} { hosts := ["demo.ns"] } ⟨20880, "tcp-metaprotocol-dubbo"⟩ canary none >>=
      metaProtocolRoute2HttpRoute) = .ok http ∧
    http.virtualHosts = [{ name := "dummy", domains := ["*"], routes := routes }] ∧
    routes.findIdx? (acceptsHttpRoute (fun _ _ => false) · (GoMap.writeAll ∅ [("user", "jason")])) = some 0 ∧
    routes.findIdx? (acceptsHttpRoute (fun _ _ => false) · ∅) = some 1 := by
  obtain ⟨hex, hall⟩ := routing_preserved (fun _ _ => false) canary_accepted {} { hosts := ["demo.ns"] }
    ⟨20880, "tcp-metaprotocol-dubbo"⟩ none
  obtain ⟨http, hhttp⟩ := hex (by decide)
  obtain ⟨routes, hroutes, hidx, -⟩ := hall http hhttp
  exact ⟨http, routes, hhttp, hroutes, by rw [hidx]; decide +kernel, by rw [hidx]; decide +kernel⟩

/-! ## Safety -/

/-- One cluster for one destination, and weighted clusters for several, in their
order, whose weights add up to 100. -/
structure SafeAction (port : ServicePort) (route : MetaRoute) (action : MetaProtocolRouteAction) : Prop where
  single : (∃ c, action.clusterSpecifier = some (.cluster c)) ↔ route.route.length = 1
  weighted : route.route.length ≠ 1 → ∃ w : WeightedCluster, action.clusterSpecifier = some (.weightedClusters w) ∧
    2 ≤ w.clusters.length ∧
    List.Forall₂ (fun d (c : ClusterWeight) => ∃ dst, d = some ⟨some dst, c.weight⟩ ∧
      c.name = destinationCluster port dst) route.route w.clusters ∧
    w.totalWeight = some 100 ∧ (w.clusters.map (·.weight)).sum = 100

/-- The routes of an accepted MetaRouter are constructed without a panic for
every service with a host, and their actions are safe. -/
theorem constructRoute_safe {lib : Webhook.Libraries} {o : Oracle} {metaRouter : MetaRouter}
    (h : Accepts lib o metaRouter) (o' : Oracle) (service : ServiceEntry) (port : ServicePort)
    (dr : Option (Config DestinationRule)) (hhosts : service.hosts ≠ []) :
    ∃ cfg, constructRoute o' service port metaRouter dr = .ok cfg ∧
      List.Forall₂ (fun r mr => ∃ route, r = some route ∧ SafeAction port route mr.route)
        metaRouter.routes cfg.routes := by
  obtain ⟨cfg, hcfg⟩ := accepted_constructRoute_ok h o' port dr hhosts
  refine ⟨cfg, hcfg, (accepted_constructRoute_routes h hcfg).imp fun r mr hr => ?_⟩
  obtain ⟨o, route, dsts, request, response, rfl, hset, hne, hsum, hmr⟩ := hr
  rw [constructMetaRoute_set hset port dr o] at hmr
  cases hmr
  refine ⟨route, rfl, ?_⟩
  have hlen : route.route.length = dsts.length := by rw [hset.destinations, List.length_map]
  rcases dsts with _ | ⟨d, _ | ⟨d', dsts⟩⟩
  · cases hne rfl
  · exact ⟨⟨fun _ => hlen, fun _ => ⟨_, rfl⟩⟩, fun hne => absurd hlen hne⟩
  · have hsum := hsum (by simp)
    refine ⟨⟨fun ⟨c, hc⟩ => (nomatch hc), fun h1 => ?_⟩, fun _ => ⟨_, rfl, by simp, ?_, ?_, ?_⟩⟩
    · rw [hlen] at h1
      cases h1
    · rw [hset.destinations, List.forall₂_map_left_iff, List.forall₂_map_right_iff]
      exact List.forall₂_same.mpr fun d _ => ⟨d.1, rfl, rfl⟩
    · exact congrArg some hsum
    · rw [List.map_map]
      exact hsum

theorem canary_safe : ∃ cfg,
    constructRoute {} { hosts := ["demo.ns"] } ⟨20880, "tcp-metaprotocol-dubbo"⟩ canary none = .ok cfg ∧
    List.Forall₂ (fun r mr => ∃ route, r = some route ∧ SafeAction ⟨20880, "tcp-metaprotocol-dubbo"⟩ route mr.route)
      canary.routes cfg.routes :=
  constructRoute_safe canary_accepted {} { hosts := ["demo.ns"] } ⟨20880, "tcp-metaprotocol-dubbo"⟩ none (by decide)

/-- For a service without hosts the construction panics. -/
theorem canary_hostless_panics : Accepts lenient {} canary ∧
    constructRoute {} { hosts := [] } ⟨20880, "tcp-metaprotocol-dubbo"⟩ canary none = .error .indexOutOfRange :=
  ⟨canary_accepted, by decide +kernel⟩

end Aeraki.Proof.Xds
