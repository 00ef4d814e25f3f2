import Aeraki.Impl.Istio.Controller
import Aeraki.Proof.EnvoyFilter.Context

/-!
# No relevant change is filtered out

The wrapper of `RegisterEventHandler` decides which changes are handled, by
rules of its own; generation reads the config store by others. Where they
agree (`Covered`: a change that is not relevant to the wrapper leaves what the
generators read of the object), a change that is not handled does not change what
`generateEnvoyFilters` returns (`unchanged_of_not_called`). A change that does is handled
exactly where they agree (`handled_iff_covered`).
-/

namespace Aeraki.Proof.Istio

open Aeraki.Impl Aeraki.Impl.Controller Aeraki.Impl.Istio Aeraki.Proof.EnvoyFilter

/-! ## The turn of a ServiceEntry -/

/-- The protocol whose generator a service gets. -/
def protocolOf (service : ServiceEntry) : Option Instance := selected (Deployment.controller {} {}) service.ports

theorem protocolOf_of_generatorOf {d : Deployment} {store : ConfigStore} {service : ServiceEntry} {g : Generator}
    (h : (d.controller store).generatorOf service.ports = some g) :
    ∃ protocol, protocolOf service = some protocol ∧ generators d.resources store protocol = some g := by
  rw [generatorOf_eq, selected_controller d {} store {}] at h
  exact Option.bind_eq_some_iff.mp h

/-- Only supported ports have generators. -/
theorem hasSupportedPort_of_generatorOf {d : Deployment} {store : ConfigStore} {service : ServiceEntry}
    {g : Generator} (h : (d.controller store).generatorOf service.ports = some g) : hasSupportedPort service = true := by
  obtain ⟨port, hport, hg⟩ := List.exists_of_findSome?_eq_some h
  refine List.any_eq_true.mpr ⟨port, hport, decide_eq_true fun hu => ?_⟩
  rw [hu] at hg
  cases hg

/-- Without a supported port, and with a host, nothing is written. -/
theorem serviceOutcome_unsupported {d : Deployment} {store : ConfigStore} {o : Oracle} {se : Config ServiceEntry}
    (hp : hasSupportedPort se.spec = false) (hh : se.spec.hosts ≠ []) :
    serviceOutcome (d.controller store) o se = .ok (.writes []) := by
  unfold serviceOutcome
  cases hhosts : se.spec.hosts with
  | nil => exact absurd hhosts hh
  | cons host hosts =>
    cases hg : (d.controller store).generatorOf se.spec.ports with
    | none => rfl
    | some g => rw [hasSupportedPort_of_generatorOf hg] at hp; cases hp

/-- The contexts of two ServiceEntries that differ in annotations that are not
read, with VirtualServices of the same routes if these are read. -/
theorem envoyFilterContext_alike {d : Deployment} {store store' : ConfigStore} {o : Oracle} {protocol : Instance}
    {se se' : Config ServiceEntry} {host : String} (hse : AlikeEntries protocol se se')
    (hvs : ReadsVirtualService protocol →
      ((d.controller store).findRelatedVirtualService o host).map (·.spec.http) =
        ((d.controller store').findRelatedVirtualService o host).map (·.spec.http)) :
    (∃ err, (d.controller store).envoyFilterContext o se host = .error err ∧
      (d.controller store').envoyFilterContext o se' host = .error err) ∨
    ∃ ctx ctx', (d.controller store).envoyFilterContext o se host = .ok ctx ∧
      (d.controller store').envoyFilterContext o se' host = .ok ctx' ∧ Alike protocol ctx ctx' := by
  have hm : (d.controller store').findRelatedMetaRouter o host = (d.controller store).findRelatedMetaRouter o host := rfl
  unfold envoyFilterContext
  rw [hm]
  cases (d.controller store).findRelatedMetaRouter o host with
  | error err => exact .inl ⟨_, rfl, rfl⟩
  | ok metaRouter => exact .inr ⟨_, _, rfl, rfl, rfl, rfl, hse, hvs, rfl⟩

theorem contextWrites_alike {d : Deployment} {store store' : ConfigStore} {protocol : Instance}
    {ctx ctx' : EnvoyFilterContext} (h : Alike protocol ctx ctx') (wrappers : List EnvoyFilterWrapper) :
    contextWrites (d.controller store) ctx wrappers = contextWrites (d.controller store') ctx' wrappers := by
  have hns : ctx.serviceEntry.namespace_ = ctx'.serviceEntry.namespace_ := congrArg (·.namespace_) h.serviceEntry.bare
  unfold contextWrites exportNSs
  rw [h.metaRouter, hns]
  rfl

/-- Such ServiceEntries, of two stores, have the same turn. -/
theorem serviceOutcome_alike {O : Oracle → Prop} {d : Deployment} {store store' : ConfigStore} {o : Oracle}
    {se se' : Config ServiceEntry} (hgen : SameGenerators O (d.controller store) (d.controller store'))
    (ho : O ((o.at se.key).at "Generate")) (hbare : bare se = bare se')
    (hread : ∀ protocol, protocolOf se.spec = some protocol → SameAnnotations protocol se se')
    (hvs : ∀ protocol, protocolOf se.spec = some protocol → ReadsVirtualService protocol →
      ∀ host ∈ se.spec.hosts.head?,
        ((d.controller store).findRelatedVirtualService (o.at se.key) host).map (·.spec.http) =
          ((d.controller store').findRelatedVirtualService (o.at se.key) host).map (·.spec.http)) :
    serviceOutcome (d.controller store) o se = serviceOutcome (d.controller store') o se' := by
  have hspec : se.spec = se'.spec := congrArg (·.spec) hbare
  have hkey : se.key = se'.key := (congrArg (·.key) hbare : (bare se).key = (bare se').key)
  unfold serviceOutcome
  rw [← hspec, ← hkey]
  cases hhosts : se.spec.hosts with
  | nil => rfl
  | cons host hosts =>
    dsimp only
    have hg := hgen.generatorOf se.spec.ports
    generalize hg' : (d.controller store').generatorOf se.spec.ports = g' at hg ⊢
    cases h : (d.controller store).generatorOf se.spec.ports with
    | none => rw [h] at hg; cases hg; rfl
    | some g =>
      obtain ⟨protocol, hsel, hprotocol⟩ := protocolOf_of_generatorOf h
      rw [h] at hg
      cases hg with
      | some hr =>
        rcases envoyFilterContext_alike ⟨hbare, hread protocol hsel⟩
            (fun hreads => hvs protocol hsel hreads host (by rw [hhosts]; rfl)) with
          ⟨err, he, he'⟩ | ⟨ctx, ctx', he, he', ha⟩
        · simp only [he, he']
        · have hw : contextWrites (d.controller store) ctx = contextWrites (d.controller store') ctx' :=
            funext (contextWrites_alike ha)
          simp only [he, he', generators_alike hprotocol ha, hr _ ho, hw]

/-! ## Where the filters and generation agree -/

/-- The ports under which a ServiceEntry, if there is one, has a host. -/
def namedPorts (se : Option (Config ServiceEntry)) (host : String) : Option (List ServicePort) :=
  se.bind fun se => if host ∈ se.spec.hosts then some se.spec.ports else none

/-- The HTTP routes that a VirtualService, if there is one, has for a host. -/
def namedRoutes (vs : Option (Config VirtualService)) (host : String) : Option (List HTTPRoute) :=
  vs.bind fun vs => if host ∈ vs.spec.hosts then some vs.spec.http else none

/-- An update that leaves the specification also leaves the annotations that the
service's generator reads. Where neither the ServiceEntry before nor the one after has
a supported port, either both or neither stop generation for want of a host, and the
hosts that Redis routes name without a port keep their ports. -/
structure CoveredServiceEntry (d : Deployment) (change : Change ServiceEntry) : Prop where
  annotations : ∀ prev curr, change = .update prev curr → prev.spec = curr.spec →
    ∀ protocol, protocolOf curr.spec = some protocol → SameAnnotations protocol prev curr
  unsupported : (∀ se, change.Involves se → hasSupportedPort se.spec = false) →
    change.old.any (·.spec.hosts.isEmpty) = change.new.any (·.spec.hosts.isEmpty) ∧
      ∀ host ∈ redisHosts d.resources.redisServices, namedPorts change.old host = namedPorts change.new host

/-- Where neither the VirtualService before nor the one after passes the filter, the
first hosts of the Dubbo and Thrift services keep their HTTP routes. -/
def CoveredVirtualService (serviceEntries : List (Config ServiceEntry)) (change : Change VirtualService) : Prop :=
  (∀ vs, change.Involves vs → shouldHandleVirtualService serviceEntries vs = false) →
    ∀ se ∈ serviceEntries, ∀ protocol, protocolOf se.spec = some protocol → ReadsVirtualService protocol →
      ∀ host ∈ se.spec.hosts.head?, namedRoutes change.old host = namedRoutes change.new host

/-- The filters let every change through that generation may depend on. -/
def Covered (d : Deployment) (store : ConfigStore) : StoreChange → Prop
  | .serviceEntry _ _ change => change.SameObject ∧ CoveredServiceEntry d change
  | .virtualService _ _ change => CoveredVirtualService store.serviceEntries change
  | .destinationRule _ _ _ => True
  | .gateway _ _ change => change.SameObject

/-- When a change is not handled: it leaves the specification, or neither the
object before nor the one after is relevant. -/
theorem callsHandler_eq_false {σ : Type} [DecidableEq σ] {shouldHandle : Config σ → Bool} {change : Change σ} :
    callsHandler (shouldHandleChange shouldHandle) change = false ↔
      (∃ prev curr, change = .update prev curr ∧ prev.spec = curr.spec) ∨
        ∀ x, change.Involves x → shouldHandle x = false := by
  cases change with
  | add curr =>
    simp [callsHandler, shouldHandleChange, sameSpec, Change.prev, Change.curr, Change.event, Change.Involves,
      Change.old, Change.new]
  | delete prev =>
    simp [callsHandler, shouldHandleChange, sameSpec, Change.prev, Change.curr, Change.event, Change.Involves,
      Change.old, Change.new]
  | update prev curr =>
    by_cases hs : prev.spec = curr.spec
    · refine iff_of_true ?_ (.inl ⟨prev, curr, rfl, hs⟩)
      simp [callsHandler, sameSpec, Change.prev, Change.curr, Change.event, hs]
    · simp [callsHandler, shouldHandleChange, sameSpec, Change.prev, Change.curr, Change.event, Change.Involves,
        Change.old, Change.new, hs, and_comm, or_imp, forall_and]

/-- A change that is handled is covered. -/
theorem covered_of_handled (d : Deployment) {store : ConfigStore} {change : StoreChange} (hobj : change.SameObject)
    (h : handlerWrapper store change = true) : Covered d store change := by
  cases change with
  | serviceEntry l1 l2 change =>
    refine ⟨hobj, fun prev curr hupdate hspec => ?_, fun hunsup => ?_⟩
    · have hnot : callsHandler shouldHandleServiceEntryChange change = false :=
        callsHandler_eq_false.mpr (.inl ⟨prev, curr, hupdate, hspec⟩)
      cases hnot.symm.trans h
    · have hnot : callsHandler shouldHandleServiceEntryChange change = false :=
        callsHandler_eq_false.mpr (.inr hunsup)
      cases hnot.symm.trans h
  | virtualService l1 l2 change =>
    intro hskip
    have hnot : callsHandler (shouldHandleVirtualServiceChange store.serviceEntries) change = false :=
      callsHandler_eq_false.mpr (.inr hskip)
    cases hnot.symm.trans h
  | destinationRule => trivial
  | gateway => exact hobj

theorem bare_eq {σ : Type} {prev curr : Config σ} (ho : (Change.update prev curr).SameObject)
    (hs : prev.spec = curr.spec) : bare prev = bare curr := by
  obtain ⟨hn, hns⟩ := ho
  simp only [bare, hn, hns, hs]

/-! ## ServiceEntries -/

/-- If the gateways and the generators are the same, the services decide. -/
theorem generateEnvoyFilters_of_services {d : Deployment} {store store' : ConfigStore} {o : Oracle}
    (ho : InOrder o) (hgw : store.gateways = store'.gateways)
    (hgen : SameGenerators InOrder (d.controller store) (d.controller store'))
    (hs : serviceWrites (d.controller store) (o.at "ServiceEntries") store.serviceEntries =
      serviceWrites (d.controller store') (o.at "ServiceEntries") store'.serviceEntries)
    (server : ApiServer.Server ObjectKey VirtualService) :
    (d.controller store).generateEnvoyFilters o server = (d.controller store').generateEnvoyFilters o server := by
  refine generateEnvoyFilters_congr ?_ ?_ server
  · rw [(ho.at _).list, (ho.at _).list]
    exact hs
  · rw [show (d.controller store).store.gateways = (d.controller store').store.gateways from hgw]
    exact congrArg (Except.map gatewayResult)
      (gatewayWrites_congr (by rfl) (by rfl) hgen (fun gw i j => (((ho.at _).at gw).at i).at j) _)

/-- The writes of the Redis generator's map of hosts. -/
def hostWrites (ns : String) (ses : List (Config ServiceEntry)) : List (String × ServiceEntry) :=
  (ses.filter (inNamespace ns ·.namespace_)).flatMap fun se => se.spec.hosts.map fun h => (h, se.spec)

theorem hostWrites_append (ns : String) (l1 l2 : List (Config ServiceEntry)) :
    hostWrites ns (l1 ++ l2) = hostWrites ns l1 ++ hostWrites ns l2 := by
  rw [hostWrites, List.filter_append, List.flatMap_append]
  rfl

/-- What one ServiceEntry, if there is one, writes for a host. -/
theorem lastWrite_hostWrites (ns host : String) (se : Option (Config ServiceEntry)) :
    (GoMap.lastWrite (hostWrites ns se.toList) host).map (·.ports) =
      if se.any (inNamespace ns ·.namespace_) then namedPorts se host else none := by
  cases se with
  | none => rfl
  | some se =>
    simp only [hostWrites, Option.toList_some, Option.any_some, List.filter_cons, List.filter_nil]
    split
    · simp only [List.flatMap_cons, List.flatMap_nil, List.append_nil, GoMap.lastWrite_map_const, namedPorts,
        Option.bind_some, apply_ite (Option.map ServiceEntry.ports), Option.map_some, Option.map_none]
    · rfl

/-- The generators are the same if the last ports of the hosts that the Redis
generator reads are. -/
theorem sameGenerators_entries {d : Deployment} {store store' : ConfigStore}
    {l1 l2 x x' : List (Config ServiceEntry)} (hs : store.serviceEntries = l1 ++ (x ++ l2))
    (hs' : store'.serviceEntries = l1 ++ (x' ++ l2))
    (h : ∀ ns, ∀ host ∈ redisHosts d.resources.redisServices,
      (GoMap.lastWrite (hostWrites ns x) host).map (·.ports) =
        (GoMap.lastWrite (hostWrites ns x') host).map (·.ports)) :
    SameGenerators InOrder (d.controller store) (d.controller store') := by
  refine sameGenerators (fun _ s ho => ho.at s) d fun o ho ns host hhost => ?_
  rw [hostServices_eq ho, hostServices_eq ho]
  show ((GoMap.writeAll ∅ (hostWrites ns store.serviceEntries)).lookup host).map _ =
    ((GoMap.writeAll ∅ (hostWrites ns store'.serviceEntries)).lookup host).map _
  rw [hs, hs']
  simp only [GoMap.lookup_writeAll, hostWrites_append, GoMap.lastWrite_append, Option.map_or, h ns host hhost]

/-- The turns of other ServiceEntries. -/
theorem serviceWrites_others {d : Deployment} {store store' : ConfigStore} {o : Oracle} (ho : InOrder o)
    (hvs : store.virtualServices = store'.virtualServices)
    (hgen : SameGenerators InOrder (d.controller store) (d.controller store')) (ses : List (Config ServiceEntry)) :
    serviceWrites (d.controller store) o ses = serviceWrites (d.controller store') o ses := by
  refine serviceWrites_congr fun se _ => serviceOutcome_alike hgen ((ho.at _).at _) rfl (fun _ _ => .refl _ _)
    fun _ _ _ _ _ => ?_
  simp only [findRelatedVirtualService, Deployment.controller, hvs]

section

variable {d : Deployment} {store : ConfigStore} {l1 l2 : List (Config ServiceEntry)} {o : Oracle} (ho : InOrder o)
  (server : ApiServer.Server ObjectKey VirtualService)
include ho

/-- An update of annotations that are not read. -/
theorem unchanged_annotations {prev curr : Config ServiceEntry} (hobj : (Change.update prev curr).SameObject)
    (hspec : prev.spec = curr.spec)
    (hread : ∀ protocol, protocolOf curr.spec = some protocol → SameAnnotations protocol prev curr) :
    (d.controller ((StoreChange.serviceEntry l1 l2 (.update prev curr)).before store)).generateEnvoyFilters o server =
      (d.controller ((StoreChange.serviceEntry l1 l2 (.update prev curr)).after store)).generateEnvoyFilters o server := by
  have hgen : SameGenerators InOrder
      (d.controller ((StoreChange.serviceEntry l1 l2 (.update prev curr)).before store))
      (d.controller ((StoreChange.serviceEntry l1 l2 (.update prev curr)).after store)) :=
    sameGenerators_entries (by rfl) (by rfl) fun ns host _ => by
      simp only [lastWrite_hostWrites, Change.old, Change.new, Option.any_some, namedPorts, Option.bind_some, hobj.2,
        hspec]
  refine generateEnvoyFilters_of_services ho (by rfl) hgen
    ((serviceWrites_others (ho.at _) (by rfl) hgen _).trans ?_) server
  exact serviceWrites_swap (serviceOutcome_alike (SameGenerators.refl InOrder _) (((ho.at _).at _).at _)
    (bare_eq hobj hspec) (fun protocol hp => hread protocol (hspec ▸ hp)) fun _ _ _ _ _ => rfl) l1 l2

omit ho in
/-- ServiceEntries without supported ports, in the place of each other. -/
theorem serviceWrites_unsupported {c : ConfigStore} {x x' : Option (Config ServiceEntry)}
    (hx : ∀ se ∈ x, hasSupportedPort se.spec = false) (hx' : ∀ se ∈ x', hasSupportedPort se.spec = false)
    (hstop : x.any (·.spec.hosts.isEmpty) = x'.any (·.spec.hosts.isEmpty)) :
    serviceWrites (d.controller c) o (l1 ++ (x.toList ++ l2)) =
      serviceWrites (d.controller c) o (l1 ++ (x'.toList ++ l2)) := by
  have hskip (x : Option (Config ServiceEntry)) (hx : ∀ se ∈ x, hasSupportedPort se.spec = false)
      (hstop : x.any (·.spec.hosts.isEmpty) = false) :
      serviceWrites (d.controller c) o (l1 ++ (x.toList ++ l2)) = serviceWrites (d.controller c) o (l1 ++ l2) := by
    cases x with
    | none => rfl
    | some se =>
      refine serviceWrites_skip (serviceOutcome_unsupported (hx se rfl) fun hh => ?_) l1 l2
      simp [hh] at hstop
  have hhosts (x : Option (Config ServiceEntry)) (hstop : x.any (·.spec.hosts.isEmpty) = true) :
      ∃ se, x = some se ∧ serviceOutcome (d.controller c) o se = .ok (.stop none) := by
    cases x with
    | none => cases hstop
    | some se =>
      have hh : se.spec.hosts = [] := List.isEmpty_iff.mp hstop
      exact ⟨se, rfl, by rw [serviceOutcome, hh]⟩
  cases h : x.any (·.spec.hosts.isEmpty) with
  | false => exact (hskip x hx h).trans (hskip x' hx' (hstop ▸ h)).symm
  | true =>
    obtain ⟨se, rfl, hse⟩ := hhosts x h
    obtain ⟨se', rfl, hse'⟩ := hhosts x' (hstop ▸ h)
    exact serviceWrites_swap (hse.trans hse'.symm) l1 l2

/-- A change of a ServiceEntry without supported ports. -/
theorem unchanged_unsupported {change : Change ServiceEntry} (hobj : change.SameObject)
    (hcov : CoveredServiceEntry d change) (hunsup : ∀ se, change.Involves se → hasSupportedPort se.spec = false) :
    (d.controller ((StoreChange.serviceEntry l1 l2 change).before store)).generateEnvoyFilters o server =
      (d.controller ((StoreChange.serviceEntry l1 l2 change).after store)).generateEnvoyFilters o server := by
  obtain ⟨hstop, hports⟩ := hcov.unsupported hunsup
  have hgen : SameGenerators InOrder (d.controller ((StoreChange.serviceEntry l1 l2 change).before store))
      (d.controller ((StoreChange.serviceEntry l1 l2 change).after store)) := by
    refine sameGenerators_entries (by rfl) (by rfl) fun ns host hhost => ?_
    have hports := hports host hhost
    rw [lastWrite_hostWrites, lastWrite_hostWrites]
    cases change with
    | add curr =>
      rw [show namedPorts (Change.add curr).new host = none from hports.symm]
      exact (ite_self _).trans (ite_self _).symm
    | delete prev =>
      rw [show namedPorts (Change.delete prev).old host = none from hports]
      exact (ite_self _).trans (ite_self _).symm
    | update prev curr =>
      have hns : (Change.update prev curr).old.any (inNamespace ns ·.namespace_) =
          (Change.update prev curr).new.any (inNamespace ns ·.namespace_) := congrArg (inNamespace ns) hobj.2
      rw [hports, hns]
  refine generateEnvoyFilters_of_services ho (by rfl) hgen
    ((serviceWrites_others (ho.at _) (by rfl) hgen _).trans ?_) server
  exact serviceWrites_unsupported (fun se hse => hunsup se (.inl hse)) (fun se hse => hunsup se (.inr hse)) hstop

theorem unchanged_serviceEntry {change : Change ServiceEntry} (hobj : change.SameObject)
    (hcov : CoveredServiceEntry d change) (hnot : callsHandler shouldHandleServiceEntryChange change = false) :
    (d.controller ((StoreChange.serviceEntry l1 l2 change).before store)).generateEnvoyFilters o server =
      (d.controller ((StoreChange.serviceEntry l1 l2 change).after store)).generateEnvoyFilters o server := by
  rcases callsHandler_eq_false.mp hnot with ⟨prev, curr, rfl, hspec⟩ | hunsup
  · exact unchanged_annotations ho server hobj hspec (hcov.annotations prev curr rfl hspec)
  · exact unchanged_unsupported ho server hobj hcov hunsup

end

/-! ## VirtualServices and DestinationRules -/

/-- Neither is read by the generators themselves. -/
theorem sameGenerators_of_serviceEntries {d : Deployment} {store store' : ConfigStore}
    (h : store.serviceEntries = store'.serviceEntries) :
    SameGenerators InOrder (d.controller store) (d.controller store') := by
  refine sameGenerators (fun _ s ho => ho.at s) d fun o ho ns host _ => ?_
  rw [hostServices_eq ho, hostServices_eq ho]
  simp only [redisGenerator, h]

theorem find?_swap {α β : Type} {x x' : List α} {p : α → Bool} {f : α → β}
    (h : (x.find? p).map f = (x'.find? p).map f) (l1 l2 : List α) :
    ((l1 ++ (x ++ l2)).find? p).map f = ((l1 ++ (x' ++ l2)).find? p).map f := by
  simp only [List.find?_append, Option.map_or, h]

/-- What is found of one VirtualService, if there is one, for a host. -/
theorem find?_namedRoutes (vs : Option (Config VirtualService)) (host : String) :
    (vs.toList.find? (·.spec.hosts.contains host)).map (·.spec.http) = namedRoutes vs host := by
  cases vs with
  | none => rfl
  | some vs =>
    by_cases h : host ∈ vs.spec.hosts <;> simp [namedRoutes, h]

section

variable {d : Deployment} {store : ConfigStore} {o : Oracle} (ho : InOrder o)
  (server : ApiServer.Server ObjectKey VirtualService)
include ho

theorem unchanged_virtualService {l1 l2 : List (Config VirtualService)} {change : Change VirtualService}
    (hcov : CoveredVirtualService store.serviceEntries change)
    (hnot : callsHandler (shouldHandleVirtualServiceChange store.serviceEntries) change = false) :
    (d.controller ((StoreChange.virtualService l1 l2 change).before store)).generateEnvoyFilters o server =
      (d.controller ((StoreChange.virtualService l1 l2 change).after store)).generateEnvoyFilters o server := by
  have hgen : SameGenerators InOrder (d.controller ((StoreChange.virtualService l1 l2 change).before store))
      (d.controller ((StoreChange.virtualService l1 l2 change).after store)) :=
    sameGenerators_of_serviceEntries (by rfl)
  refine generateEnvoyFilters_of_services ho (by rfl) hgen (serviceWrites_congr fun se hse => ?_) server
  refine serviceOutcome_alike hgen (((ho.at _).at _).at _) rfl (fun _ _ => .refl _ _)
    fun protocol hsel hreads host hhost => ?_
  unfold findRelatedVirtualService
  rw [(((ho.at _).at _).at _).list, (((ho.at _).at _).at _).list]
  refine find?_swap ?_ l1 l2
  rw [find?_namedRoutes, find?_namedRoutes]
  rcases callsHandler_eq_false.mp hnot with ⟨prev, curr, rfl, hspec⟩ | hunsup
  · simp only [Change.old, Change.new, namedRoutes, Option.bind_some, hspec]
  · exact hcov hunsup se hse protocol hsel hreads host hhost

theorem unchanged_destinationRule (l1 l2 : List (Config DestinationRule)) (change : Change DestinationRule) :
    (d.controller ((StoreChange.destinationRule l1 l2 change).before store)).generateEnvoyFilters o server =
      (d.controller ((StoreChange.destinationRule l1 l2 change).after store)).generateEnvoyFilters o server := by
  have hgen : SameGenerators InOrder (d.controller ((StoreChange.destinationRule l1 l2 change).before store))
      (d.controller ((StoreChange.destinationRule l1 l2 change).after store)) :=
    sameGenerators_of_serviceEntries (by rfl)
  exact generateEnvoyFilters_of_services ho (by rfl) hgen (serviceWrites_others (ho.at _) (by rfl) hgen _) server

end

/-! ## Gateways -/

/-- What a server's writes and contexts are used for. -/
def outcomeResult (r : Option (List Write × List EnvoyFilterContext)) :
    Option (List Write × List (Option (Config VirtualService))) :=
  r.map fun r => (r.1, r.2.map (·.virtualService))

theorem gatewayResult_cons (c : Controller) (o : Oracle) (s : Config Gateway × Server × Nat)
    (rest : List (Config Gateway × Server × Nat)) :
    (gatewayWrites c o (s :: rest)).map gatewayResult = (do
      match ← (gatewayOutcome c o s.1 s.2.1 s.2.2).map outcomeResult with
      | none => return ([], none)
      | some (ws, vss) =>
        let r ← (gatewayWrites c o rest).map gatewayResult
        return (ws ++ r.1, r.2.map (vss ++ ·))) := by
  obtain ⟨gateway, server, i⟩ := s
  rw [gatewayWrites]
  dsimp only
  rcases gatewayOutcome c o gateway server i with p | (_ | ⟨ws, ctxs⟩)
  · rfl
  · rfl
  · rcases gatewayWrites c o rest with p | ⟨ws', ctxs'⟩
    · rfl
    · simp [gatewayResult, outcomeResult, Except.map, bind, Except.bind, pure, Except.pure, Function.comp_def]

/-- Servers with the same outcomes, one by one. -/
theorem gatewayWrites_forall₂ {c : Controller} {o : Oracle} {l l' : List (Config Gateway × Server × Nat)}
    (h : List.Forall₂ (fun s s' => (gatewayOutcome c o s.1 s.2.1 s.2.2).map outcomeResult =
      (gatewayOutcome c o s'.1 s'.2.1 s'.2.2).map outcomeResult) l l') :
    (gatewayWrites c o l).map gatewayResult = (gatewayWrites c o l').map gatewayResult := by
  induction h with
  | nil => rfl
  | cons hs _ ih => rw [gatewayResult_cons, gatewayResult_cons, hs, ih]

/-- Servers that are skipped might as well not be there. -/
theorem gatewayWrites_skip {c : Controller} {o : Oracle} {l : List (Config Gateway × Server × Nat)}
    (h : ∀ s ∈ l, gatewayOutcome c o s.1 s.2.1 s.2.2 = .ok (some ([], []))) (l1 l2 : List (Config Gateway × Server × Nat)) :
    gatewayWrites c o (l1 ++ (l ++ l2)) = gatewayWrites c o (l1 ++ l2) := by
  have hl : gatewayWrites c o (l ++ l2) = gatewayWrites c o l2 := by
    induction l with
    | nil => rfl
    | cons s l ih =>
      obtain ⟨gateway, server, i⟩ := s
      rw [List.cons_append, gatewayWrites, h _ List.mem_cons_self, ih fun s' hs' => h s' (List.mem_cons_of_mem _ hs')]
      show (do let r ← gatewayWrites c o l2; return ([] ++ r.1, r.2.map ([] ++ ·))) = _
      simp only [List.nil_append, Option.map_id']
      exact bind_pure _
  rw [gatewayWrites_append c o (l ++ l2), hl, ← gatewayWrites_append]

/-- The servers of a gateway that is not handled. -/
theorem gatewayOutcome_not_handled {c : Controller} {o : Oracle} {gateway : Config Gateway}
    (h : shouldHandleGateway gateway = false) {server : Server} (hs : server ∈ gateway.spec.servers) (i : Nat) :
    gatewayOutcome c o gateway server i = .ok (some ([], [])) := by
  have hport := List.any_eq_false.mp h server hs
  unfold gatewayOutcome
  cases hp : server.port with
  | none => rfl
  | some port =>
    simp only [hp, Bool.not_eq_true] at hport
    simp only [hport]
    rfl

/-- A context without the annotations of its gateway. -/
def stripGateway (ctx : EnvoyFilterContext) : EnvoyFilterContext := { ctx with gateway := ctx.gateway.map bare }

theorem gatewayContext_bare (c : Controller) (gateway : Config Gateway) (port : Nat) (metaRouter : MetaRouter) :
    c.gatewayContext (bare gateway) port metaRouter =
      (c.gatewayContext gateway port metaRouter).map (Option.map stripGateway) := by
  unfold gatewayContext
  show (if !namesGateway metaRouter gateway then _ else _) = _
  split
  · rfl
  · rcases isMatchPort port metaRouter.routes with p | (_ | _)
    · rfl
    · rfl
    · rcases Go.index metaRouter.hosts 0 with p | host <;> rfl

theorem gatewayEnvoyFilterContexts_bare (c : Controller) (o : Oracle) (gateway : Config Gateway) (port : Nat) :
    c.gatewayEnvoyFilterContexts o (bare gateway) port =
      (c.gatewayEnvoyFilterContexts o gateway port).map (Except.map (List.map stripGateway)) := by
  have h : c.gatewayContext (bare gateway) port =
      fun metaRouter => (c.gatewayContext gateway port metaRouter).map (Option.map stripGateway) :=
    funext (gatewayContext_bare c gateway port)
  unfold gatewayEnvoyFilterContexts
  cases c.listMetaRouters o with
  | error err => rfl
  | ok metaRouters =>
    simp only [h, Go.mapM_map]
    cases metaRouters.mapM (c.gatewayContext gateway port) with
    | error p => rfl
    | ok ctxs =>
      show Except.ok (Except.ok _) = Except.ok (Except.ok _)
      rw [List.reduceOption_map]

theorem gatewayContextsWrites_strip {r : Resources} {store : ConfigStore} {protocol : Instance}
    {generator : Generator} (hg : generators r store protocol = some generator) (o : Oracle)
    (ctxs : List EnvoyFilterContext) :
    gatewayContextsWrites generator o (ctxs.map stripGateway) = gatewayContextsWrites generator o ctxs := by
  have h (o : Oracle) (ctx : EnvoyFilterContext) :
      gatewayContextWrites generator o (stripGateway ctx) = gatewayContextWrites generator o ctx := by
    have ha : Alike protocol (stripGateway ctx) ctx := by
      refine ⟨rfl, ?_, .refl _ _, fun _ => rfl, rfl⟩
      show (ctx.gateway.map bare).map bare = ctx.gateway.map bare
      cases ctx.gateway <;> rfl
    rw [gatewayContextWrites, gatewayContextWrites, generators_alike hg ha]
  unfold gatewayContextsWrites
  rw [List.zipIdx_map, List.mapM_map]
  simp only [Function.comp_def, Prod.map_fst, Prod.map_snd, id_eq, h]

theorem gatewayOutcome_bare {d : Deployment} {store : ConfigStore} (o : Oracle) (gateway : Config Gateway)
    (server : Server) (i : Nat) :
    (gatewayOutcome (d.controller store) o (bare gateway) server i).map outcomeResult =
      (gatewayOutcome (d.controller store) o gateway server i).map outcomeResult := by
  unfold gatewayOutcome
  cases server.port with
  | none => rfl
  | some port =>
    dsimp only
    split
    · rfl
    · cases hg : (d.controller store).generators (getLayer7ProtocolFromPortName port.name) with
      | none => rfl
      | some generator =>
        have hkey : (bare gateway).key = gateway.key := rfl
        rw [gatewayEnvoyFilterContexts_bare, hkey]
        dsimp only
        rcases (d.controller store).gatewayEnvoyFilterContexts (((o.at "Gateways").at gateway.key).at (Go.itoa i))
          gateway port.number with p | (err | new)
        · rfl
        · rfl
        · simp only [Except.map, bind, Except.bind]
          rw [gatewayContextsWrites_strip hg]
          cases gatewayContextsWrites generator (((o.at "Gateways").at gateway.key).at (Go.itoa i)) new with
          | error p => rfl
          | ok ws => simp [pure, Except.pure, outcomeResult, stripGateway, Function.comp_def]

theorem unchanged_gateway {d : Deployment} {store : ConfigStore} {o : Oracle} (ho : InOrder o)
    (server : ApiServer.Server ObjectKey VirtualService) {l1 l2 : List (Config Gateway)} {change : Change Gateway}
    (hobj : change.SameObject) (hnot : callsHandler shouldHandleGatewayChange change = false) :
    (d.controller ((StoreChange.gateway l1 l2 change).before store)).generateEnvoyFilters o server =
      (d.controller ((StoreChange.gateway l1 l2 change).after store)).generateEnvoyFilters o server := by
  have hgen : SameGenerators InOrder (d.controller ((StoreChange.gateway l1 l2 change).before store))
      (d.controller ((StoreChange.gateway l1 l2 change).after store)) := sameGenerators_of_serviceEntries (by rfl)
  refine generateEnvoyFilters_congr ?_ ?_ server
  · rw [(ho.at _).list, (ho.at _).list]
    exact serviceWrites_others (ho.at _) (by rfl) hgen _
  · rw [(ho.at _).list, (ho.at _).list,
      gatewayWrites_congr (by rfl) (by rfl) hgen fun gw i j => (((ho.at _).at gw).at i).at j]
    show (gatewayWrites _ o (gatewayServers (l1 ++ (change.old.toList ++ l2)))).map gatewayResult =
      (gatewayWrites _ o (gatewayServers (l1 ++ (change.new.toList ++ l2)))).map gatewayResult
    simp only [gatewayServers_append]
    rcases callsHandler_eq_false.mp hnot with ⟨prev, curr, rfl, hspec⟩ | hskip
    · -- the same servers, of gateways that differ in annotations
      refine gatewayWrites_forall₂ ?_
      refine List.rel_append (List.forall₂_same.mpr ?_) (List.rel_append ?_ (List.forall₂_same.mpr ?_))
      · exact fun _ _ => rfl
      rotate_left
      · exact fun _ _ => rfl
      simp only [gatewayServers, Change.old, Change.new, Option.toList_some, List.flatMap_cons, List.flatMap_nil,
        List.append_nil, hspec, List.forall₂_map_left_iff, List.forall₂_map_right_iff]
      refine List.forall₂_same.mpr fun s _ => ?_
      rw [← gatewayOutcome_bare, bare_eq hobj hspec, gatewayOutcome_bare]
    · have h (x : Option (Config Gateway)) (hx : ∀ gw, x = some gw → change.Involves gw) :
          gatewayWrites (d.controller ((StoreChange.gateway l1 l2 change).after store)) o
              (gatewayServers l1 ++ (gatewayServers x.toList ++ gatewayServers l2)) =
            gatewayWrites (d.controller ((StoreChange.gateway l1 l2 change).after store)) o
              (gatewayServers l1 ++ gatewayServers l2) := by
        refine gatewayWrites_skip (fun s hs => ?_) _ _
        obtain ⟨gw, hgw, hs⟩ := List.mem_flatMap.mp hs
        obtain ⟨⟨server, i⟩, hserver, rfl⟩ := List.mem_map.mp hs
        exact gatewayOutcome_not_handled (hskip gw (hx gw (Option.mem_toList.mp hgw)))
          (List.fst_mem_of_mem_zipIdx hserver) i
      rw [h change.old fun _ => .inl, h change.new fun _ => .inr]

/-! ## All changes -/

/-- A covered change that the wrapper does not call its handler for. -/
theorem unchanged_of_not_called {d : Deployment} {store : ConfigStore} {change : StoreChange}
    (hcov : Covered d store change) (hnot : handlerWrapper store change = false) {o : Oracle} (ho : InOrder o)
    (server : ApiServer.Server ObjectKey VirtualService) :
    (d.controller (change.before store)).generateEnvoyFilters o server =
      (d.controller (change.after store)).generateEnvoyFilters o server := by
  cases change with
  | serviceEntry l1 l2 change => exact unchanged_serviceEntry ho server hcov.1 hcov.2 hnot
  | virtualService l1 l2 change => exact unchanged_virtualService ho server hcov hnot
  | destinationRule l1 l2 change => exact unchanged_destinationRule ho server l1 l2 change
  | gateway l1 l2 change => exact unchanged_gateway ho server hcov hnot

/-- If what is generated differs, the handler is called if and only if the change is
covered. -/
theorem handled_iff_covered (d : Deployment) (store : ConfigStore) (change : StoreChange) (hobj : change.SameObject)
    {o : Oracle} (ho : InOrder o) (server : ApiServer.Server ObjectKey VirtualService)
    (hne : (d.controller (change.before store)).generateEnvoyFilters o server ≠
      (d.controller (change.after store)).generateEnvoyFilters o server) :
    handlerWrapper store change = true ↔ Covered d store change := by
  refine ⟨covered_of_handled d hobj, fun hcov => ?_⟩
  by_contra hnot
  rw [Bool.not_eq_true] at hnot
  exact hne (unchanged_of_not_called hcov hnot ho server)

/-- A ZooKeeper service, with its workload selector as an annotation. -/
def zookeeperEntry (selector : String) : Config ServiceEntry where
  name := "zk"
  namespace_ := "db"
  annotations := (∅ : GoMap String String).insert "workloadSelector" selector
  spec := { hosts := ["zk.db"], addresses := ["10.0.0.1"], ports := [{ number := 2181, name := "tcp-zookeeper" }] }

/-- The selector of the service's inbound EnvoyFilter. -/
def generatedSelector (r : Go.Comp ((GoMap String EnvoyFilterWrapper × Option String) ×
    ApiServer.Server ObjectKey VirtualService)) : Option String :=
  r.toOption.bind fun r => (r.1.1.lookup "istio-system-aeraki-inbound-zk.db-2181").bind fun wrapper =>
    wrapper.envoyfilter.workloadSelector.bind (·.lookup "app")

/-- A new service is handled. -/
theorem added_service_handled :
    handlerWrapper {} (.serviceEntry [] [] (.add (zookeeperEntry "app:zk"))) = true := by
  have hcov : Covered {} {} (.serviceEntry [] [] (.add (zookeeperEntry "app:zk"))) := by
    refine ⟨trivial, ⟨fun prev curr h => ?_, fun hunsup => ?_⟩⟩
    · cases h
    · exact absurd (hunsup (zookeeperEntry "app:zk") (.inr rfl)) (by decide)
  refine (handled_iff_covered {} {} (.serviceEntry [] [] (.add (zookeeperEntry "app:zk"))) trivial (o := {})
    (fun _ => rfl) { objects := ∅ } fun h => ?_).mpr hcov
  exact absurd (congrArg generatedSelector h) (by decide +kernel)

/-- An update of the annotation is not handled, although the EnvoyFilter's
selector changes. -/
theorem annotation_update_not_handled :
    handlerWrapper {} (.serviceEntry [] [] (.update (zookeeperEntry "app:zk") (zookeeperEntry "app:zk2"))) = false ∧
    (Deployment.controller {} ((StoreChange.serviceEntry [] []
        (.update (zookeeperEntry "app:zk") (zookeeperEntry "app:zk2"))).before {})).generateEnvoyFilters {}
          { objects := ∅ } ≠
      (Deployment.controller {} ((StoreChange.serviceEntry [] []
        (.update (zookeeperEntry "app:zk") (zookeeperEntry "app:zk2"))).after {})).generateEnvoyFilters {}
          { objects := ∅ } := by
  refine ⟨by decide, fun h => ?_⟩
  exact absurd (congrArg generatedSelector h) (by decide +kernel)

end Aeraki.Proof.Istio
