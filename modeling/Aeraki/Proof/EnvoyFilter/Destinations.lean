import Aeraki.Framework.Returns
import Aeraki.Impl.Plugin.Dubbo
import Aeraki.Impl.Plugin.Thrift

/-!
# Routes without destinations

`buildSingleCluster` of the Dubbo and Thrift plugins reads the first destination
of an HTTP route, and it is called for a route with none. So
`buildOutboundRouteConfig` returns, and does not panic, if and only if each
route of the VirtualService has destinations, besides what it reads of the
ServiceEntry (`routeConfigs_return_iff`).
-/

namespace Aeraki.Proof.EnvoyFilter

open Aeraki.Impl
open Go (Comp Returns returns_pure returns_bind returns_bind_iff returns_mapM returns_index_zero)

/-! ## The clusters of a service -/

/-- The ServiceEntry has a host and a port. -/
def Located (service : ServiceEntry) : Prop := service.hosts ≠ [] ∧ service.ports ≠ []

/-- The route has destinations, and none is nil. -/
def HasDestinations (http : HTTPRoute) : Prop := http.route ≠ [] ∧ ∀ r ∈ http.route, r.destination ≠ none

/-- The first host and port are read. -/
theorem returns_located {α : Type} {service : ServiceEntry} {f : String → ServicePort → α} :
    Returns (do
      let host ← Go.index service.hosts 0
      let port ← Go.index service.ports 0
      return f host port) ↔ Located service := by
  rw [Located, ← returns_index_zero, ← returns_index_zero, returns_bind]
  constructor
  · rintro ⟨host, hhost, hport⟩
    exact ⟨⟨host, hhost⟩, (returns_bind_iff fun _ => returns_pure _).mp hport⟩
  · rintro ⟨⟨host, hhost⟩, hport⟩
    exact ⟨host, hhost, (returns_bind_iff fun _ => returns_pure _).mpr hport⟩

theorem returns_destinationCluster {service : ServiceEntry} {destination : Option Destination} :
    Returns (destinationCluster service destination) ↔ destination ≠ none ∧ Located service := by
  cases destination with
  | none => exact iff_of_false (fun ⟨_, h⟩ => nomatch h) (fun h => h.1 rfl)
  | some d => exact returns_located.trans (and_iff_right (Option.some_ne_none d)).symm

/-- The action of a route: the clusters of several destinations, or the one of
the first. -/
theorem returns_action {service : ServiceEntry} {http : HTTPRoute} {f : List ClusterWeight → ClusterSpecifier} :
    Returns (if http.route.length > 1 then do return f (← clusterWeights http service) else singleCluster http service) ↔
      HasDestinations http ∧ Located service := by
  unfold HasDestinations
  split
  · rename_i hlen
    have hne : http.route ≠ [] := List.length_pos_iff.mp (Nat.lt_of_succ_lt hlen)
    rw [returns_bind_iff fun _ => returns_pure _, clusterWeights, returns_mapM]
    have hone (r : HTTPRouteDestination) : Returns (do
        return ({ name := ← destinationCluster service r.destination, weight := r.weight.toUInt32 } : ClusterWeight)) ↔
        r.destination ≠ none ∧ Located service :=
      (returns_bind_iff fun _ => returns_pure _).trans returns_destinationCluster
    simp only [hone]
    constructor
    · intro h
      obtain ⟨r, hr⟩ := List.exists_mem_of_ne_nil _ hne
      exact ⟨⟨hne, fun r hr => (h r hr).1⟩, (h r hr).2⟩
    · exact fun h r hr => ⟨h.1.2 r hr, h.2⟩
  · rename_i hlen
    -- the branch of one destination, and of none
    unfold singleCluster
    rcases hroute : http.route with _ | ⟨r, _ | ⟨r', rs⟩⟩
    · exact iff_of_false (fun ⟨_, h⟩ => nomatch h) (fun h => h.1.1 rfl)
    · have hone : Returns (do return ClusterSpecifier.cluster (← destinationCluster service r.destination)) ↔
          r.destination ≠ none ∧ Located service :=
        (returns_bind_iff fun _ => returns_pure _).trans returns_destinationCluster
      refine hone.trans ⟨fun h => ⟨⟨List.cons_ne_nil _ _, ?_⟩, h.2⟩, fun h => ⟨h.1.2 r List.mem_cons_self, h.2⟩⟩
      intro r' hr'
      rw [List.mem_singleton.mp hr']
      exact h.1
    · rw [hroute] at hlen
      exact absurd (Nat.succ_lt_succ (Nat.succ_pos _)) hlen

/-! ## The route configurations -/

theorem returns_dubboRoute {o : Oracle} {service : ServiceEntry} {vs : VirtualService} :
    Returns (Dubbo.buildRoute o service vs) ↔ ∀ http ∈ vs.http, HasDestinations http ∧ Located service := by
  rw [Dubbo.buildRoute, returns_mapM]
  have hone (h : HTTPRoute × Nat) : Returns (do
      return ({ route := ← Dubbo.buildRouteAction h.1 service, method := Dubbo.buildMethodMatch h.1,
                headers := Dubbo.buildHeaderMatch (o.at (Go.itoa h.2)) h.1 } : DubboRoute)) ↔
      HasDestinations h.1 ∧ Located service :=
    (returns_bind_iff fun _ => returns_pure _).trans returns_action
  constructor
  · intro h http hhttp
    obtain ⟨i, hi, rfl⟩ := List.mem_iff_getElem.mp hhttp
    exact (hone (vs.http[i], i)).mp (h _ (List.mk_mem_zipIdx_iff_getElem?.mpr (List.getElem?_eq_getElem hi)))
  · intro h x hx
    exact (hone x).mpr (h _ (List.fst_mem_of_mem_zipIdx hx))

theorem returns_thriftRoute {service : ServiceEntry} {vs : VirtualService} :
    Returns (Thrift.buildRoute service vs) ↔ ∀ http ∈ vs.http, HasDestinations http ∧ Located service := by
  rw [Thrift.buildRoute, returns_mapM]
  refine forall₂_congr fun http _ => ?_
  have haction := @returns_action service http fun clusters => .weightedClusters ⟨clusters, none⟩
  dsimp only
  split
  · rename_i hlen
    rw [if_pos hlen] at haction
    exact (returns_bind_iff fun _ => returns_pure _).trans haction
  · rename_i hlen
    rw [if_neg hlen] at haction
    exact (returns_bind_iff fun _ => returns_pure _).trans haction

/-- A configuration of routes, with the cluster's name. -/
theorem returns_config {ρ γ : Type} {context : EnvoyFilterContext} {routes : String → Comp (List ρ)}
    {p : Prop} {f : String → List ρ → γ}
    (hroutes : ∀ clusterName, Located context.serviceEntry.spec → (Returns (routes clusterName) ↔ p)) :
    Returns (do
      let clusterName ← statPrefix .outbound context
      let routes ← routes clusterName
      return f clusterName routes) ↔ Located context.serviceEntry.spec ∧ p := by
  have hstat : Returns (statPrefix .outbound context) ↔ Located context.serviceEntry.spec := returns_located
  rw [returns_bind]
  constructor
  · rintro ⟨clusterName, hname, hr⟩
    have hl := hstat.mp ⟨clusterName, hname⟩
    exact ⟨hl, (hroutes _ hl).mp ((returns_bind_iff fun _ => returns_pure _).mp hr)⟩
  · rintro ⟨hl, hp⟩
    obtain ⟨clusterName, hname⟩ := hstat.mpr hl
    exact ⟨clusterName, hname, (returns_bind_iff fun _ => returns_pure _).mpr ((hroutes _ hl).mpr hp)⟩

/-- Each route of the VirtualService, if there is one, has destinations. -/
def AllRouted (context : EnvoyFilterContext) : Prop :=
  ∀ vs ∈ context.virtualService, ∀ http ∈ vs.spec.http, HasDestinations http

theorem allRouted_some {context : EnvoyFilterContext} {vs : Config VirtualService}
    (hvs : context.virtualService = some vs) (hl : Located context.serviceEntry.spec) :
    (∀ http ∈ vs.spec.http, HasDestinations http ∧ Located context.serviceEntry.spec) ↔ AllRouted context := by
  unfold AllRouted
  rw [hvs]
  simp [hl]

theorem allRouted_none {context : EnvoyFilterContext} (hvs : context.virtualService = none) : AllRouted context := by
  unfold AllRouted
  rw [hvs]
  exact fun _ h => nomatch h

theorem returns_thriftConfig {context : EnvoyFilterContext} :
    Returns (Thrift.buildOutboundRouteConfig context) ↔ Located context.serviceEntry.spec ∧ AllRouted context := by
  unfold Thrift.buildOutboundRouteConfig
  cases hvs : context.virtualService with
  | none =>
    exact returns_config fun _ _ => iff_of_true (returns_pure [Thrift.defaultRoute _]) (allRouted_none hvs)
  | some vs => exact returns_config fun _ hl => returns_thriftRoute.trans (allRouted_some hvs hl)

theorem returns_dubboConfig {o : Oracle} {context : EnvoyFilterContext} :
    Returns (Dubbo.buildOutboundRouteConfig o context) ↔
      context.serviceEntry.annotations.lookup "interface" = none ∨
        (Located context.serviceEntry.spec ∧ AllRouted context) := by
  unfold Dubbo.buildOutboundRouteConfig
  cases hi : context.serviceEntry.annotations.lookup "interface" with
  | none => exact iff_of_true (returns_pure _) (.inl rfl)
  | some serviceInterface =>
    rw [or_iff_right (Option.some_ne_none _)]
    cases hvs : context.virtualService with
    | none =>
      exact returns_config fun _ _ => iff_of_true (returns_pure [Dubbo.defaultRoute _]) (allRouted_none hvs)
    | some vs => exact returns_config fun _ hl => returns_dubboRoute.trans (allRouted_some hvs hl)

/-- The plugins return, and do not panic, if and only if the ServiceEntry has a
host and a port and each route of its VirtualService has destinations; or, for
Dubbo, it has no interface. -/
theorem routeConfigs_return_iff (o : Oracle) (context : EnvoyFilterContext) :
    (Returns (Dubbo.buildOutboundRouteConfig o context) ↔
      context.serviceEntry.annotations.lookup "interface" = none ∨
        (Located context.serviceEntry.spec ∧ AllRouted context)) ∧
    (Returns (Thrift.buildOutboundRouteConfig context) ↔
      Located context.serviceEntry.spec ∧ AllRouted context) :=
  ⟨returns_dubboConfig, returns_thriftConfig⟩

/-- A service whose VirtualService has a route without destinations. -/
def redirected : EnvoyFilterContext where
  meshConfig := {}
  serviceEntry := {
    name := "demo"
    namespace_ := "ns"
    annotations := Finmap.singleton "interface" "org.Demo"
    spec := { hosts := ["demo.ns"], ports := [⟨20880, "tcp-dubbo"⟩] } }
  virtualService := some { name := "demo", namespace_ := "ns", spec := { hosts := ["demo.ns"], http := [{ route := [] }] } }

/-- Both plugins index its empty list. -/
theorem redirected_panics : Dubbo.buildOutboundRouteConfig {} redirected = .error .indexOutOfRange ∧
    Thrift.buildOutboundRouteConfig redirected = .error .indexOutOfRange := ⟨rfl, rfl⟩

end Aeraki.Proof.EnvoyFilter
