import Aeraki.Proof.EnvoyFilter.Retry
import Aeraki.Proof.MetaProtocol.Gateway

/-!
# Failed reads of MetaRouters

The MetaRouters are listed for each service that has a generator and for each
MetaProtocol server of a gateway. If that fails for a service, the push returns
the error and writes nothing (`push_of_serviceListFails`); if it fails for a
gateway, generation ends without an error and what it has so far is pushed
(`push_of_gatewayListFails`). So a failed read makes no writes exactly if it is
none for a gateway (`failedRead_iff`).
-/

namespace Aeraki.Proof.EnvoyFilter

open Aeraki.Impl Aeraki.Impl.Controller

section

variable (c : Controller) (o : Oracle)

/-- The turn of the ServiceEntry lists the MetaRouters, and that fails. -/
def ServiceCallFails (se : Config ServiceEntry) : Prop :=
  se.spec.hosts ≠ [] ∧ (c.generatorOf se.spec.ports).isSome ∧
    ((o.at se.key).callError ["MetaRouters"]).isSome

/-- The turn of a gateway's server lists the MetaRouters, and that fails. -/
def GatewayCallFails (x : Config Gateway × Server × Nat) : Prop :=
  ∃ port, x.2.1.port = some port ∧ (getLayer7ProtocolFromPortName port.name).isMetaProtocol = true ∧
    (c.generators (getLayer7ProtocolFromPortName port.name)).isSome ∧
    ((((o.at "Gateways").at x.1.key).at (Go.itoa x.2.2)).callError ["MetaRouters"]).isSome

/-- A List of MetaRouters fails for a service: the turns before it were taken. -/
def ServiceListFails : Prop :=
  ∃ before se after ws, (o.at "ServiceEntries").list c.store.serviceEntries = before ++ se :: after ∧
    serviceWrites c (o.at "ServiceEntries") before = .ok (ws, none) ∧ ServiceCallFails c (o.at "ServiceEntries") se

/-- A List of MetaRouters fails for a gateway: all turns of the services and those
of the servers before it were taken. -/
def GatewayListFails : Prop :=
  (∃ ws, serviceWrites c (o.at "ServiceEntries") ((o.at "ServiceEntries").list c.store.serviceEntries) =
    .ok (ws, none)) ∧
  ∃ before x after ws ctxs, gatewayServers ((o.at "Gateways").list c.store.gateways) = before ++ x :: after ∧
    gatewayWrites c o before = .ok (ws, some ctxs) ∧ GatewayCallFails c o x

/-- A List of MetaRouters fails during `generateEnvoyFilters`. -/
def ListFails : Prop := ServiceListFails c o ∨ GatewayListFails c o

end

/-! ## Services -/

section

variable {c : Controller} {o : Oracle}

theorem serviceOutcome_of_fails {se : Config ServiceEntry} (h : ServiceCallFails c o se) :
    ∃ err, serviceOutcome c o se = .ok (.stop (some err)) := by
  obtain ⟨hhosts, hgen, hcall⟩ := h
  obtain ⟨host, hosts, hh⟩ := List.exists_cons_of_ne_nil hhosts
  obtain ⟨generator, hg⟩ := Option.isSome_iff_exists.mp hgen
  obtain ⟨err, herr⟩ := Option.isSome_iff_exists.mp hcall
  unfold serviceOutcome
  rw [hh, hg]
  simp only [envoyFilterContext, findRelatedMetaRouter, listMetaRouters, herr, Except.map]
  exact ⟨_, rfl⟩

/-- Generation then returns the error, and the VirtualServices are as they were. -/
theorem generate_of_serviceListFails (h : ServiceListFails c o) (vs : ApiServer.Server ObjectKey VirtualService) :
    ∃ m err, c.generateEnvoyFilters o vs = .ok ((m, some err), vs) := by
  obtain ⟨before, se, after, ws, hses, hbefore, hfails⟩ := h
  obtain ⟨err, hout⟩ := serviceOutcome_of_fails hfails
  have hse : serviceWrites c (o.at "ServiceEntries") (se :: after) = .ok ([], some (some err)) := by
    rw [serviceWrites, hout]
    rfl
  rw [generateEnvoyFilters_writes, hses, serviceWrites_append, hbefore, hse]
  exact ⟨_, err, rfl⟩

/-- The push returns it too, and writes no EnvoyFilter. -/
theorem push_of_serviceListFails (h : ServiceListFails c o) {cluster cluster' : ClusterState} {err : Option String}
    (hpush : c.pushEnvoyFilters2APIServer o cluster = .ok (err, cluster')) :
    err ≠ none ∧ newWrites cluster.envoyFilters cluster'.envoyFilters = [] := by
  obtain ⟨m, e, hgen⟩ := generate_of_serviceListFails h cluster.virtualServices
  rw [pushEnvoyFilters2APIServer, hgen] at hpush
  cases hpush
  exact ⟨Option.some_ne_none _, List.drop_length⟩

/-! ## Gateways -/

theorem gatewayOutcome_of_fails {x : Config Gateway × Server × Nat} (h : GatewayCallFails c o x) :
    gatewayOutcome c o x.1 x.2.1 x.2.2 = .ok none := by
  obtain ⟨port, hport, hmeta, hgen, hcall⟩ := h
  obtain ⟨generator, hg⟩ := Option.isSome_iff_exists.mp hgen
  obtain ⟨err, herr⟩ := Option.isSome_iff_exists.mp hcall
  unfold gatewayOutcome
  rw [hport]
  simp only [hmeta, Bool.not_true, Bool.false_eq_true, if_false, hg, gatewayEnvoyFilterContexts, listMetaRouters, herr]
  rfl

/-- Generation then returns the map of the turns before, and no error. -/
theorem generate_of_gatewayListFails (h : GatewayListFails c o) (vs : ApiServer.Server ObjectKey VirtualService) :
    ∃ m, c.generateEnvoyFilters o vs = .ok ((m, none), vs) := by
  obtain ⟨⟨ws, hservices⟩, before, x, after, ws', ctxs, hservers, hbefore, hfails⟩ := h
  have hx : gatewayWrites c o (x :: after) = .ok ([], none) := by
    rw [gatewayWrites, gatewayOutcome_of_fails hfails]
    rfl
  rw [generateEnvoyFilters_writes, hservices, hservers, gatewayWrites_append, hbefore, hx]
  exact ⟨_, rfl⟩

/-- The push returns an error only after a write. -/
theorem push_of_gatewayListFails (h : GatewayListFails c o) {cluster cluster' : ClusterState} {err : Option String}
    (hpush : c.pushEnvoyFilters2APIServer o cluster = .ok (err, cluster')) :
    err ≠ none → newWrites cluster.envoyFilters cluster'.envoyFilters ≠ [] := by
  obtain ⟨m, hgen⟩ := generate_of_gatewayListFails h cluster.virtualServices
  rw [pushEnvoyFilters2APIServer_eq hgen] at hpush
  cases hpush
  intro herr hnil
  obtain ⟨w, hw, -⟩ := (err_ne_none_iff _ _ _ _).mp herr
  rw [hnil] at hw
  cases hw

/-- A push in which a List of MetaRouters fails returns an error and writes no
EnvoyFilter, exactly if none fails for a gateway. -/
theorem failedRead_iff {cluster cluster' : ClusterState} {err : Option String}
    (h : c.pushEnvoyFilters2APIServer o cluster = .ok (err, cluster')) :
    (ListFails c o → err ≠ none ∧ newWrites cluster.envoyFilters cluster'.envoyFilters = []) ↔
      ¬GatewayListFails c o := by
  constructor
  · intro hsafe hgateway
    obtain ⟨herr, hnil⟩ := hsafe (.inr hgateway)
    exact push_of_gatewayListFails hgateway h herr hnil
  · rintro hgateway (hservice | hfails)
    · exact push_of_serviceListFails hservice h
    · exact absurd hfails hgateway

end

/-- No MetaRouters can be listed. -/
def unavailable : Oracle where
  callError _ := some "unavailable"

theorem zookeeper_failedRead : ∃ err cluster', ListFails zookeeper unavailable ∧
    zookeeper.pushEnvoyFilters2APIServer unavailable beforePush = .ok (err, cluster') ∧ err ≠ none ∧
    newWrites beforePush.envoyFilters cluster'.envoyFilters = [] := by
  have hfails : ListFails zookeeper unavailable :=
    .inl ⟨[], _, [], [], rfl, rfl, List.cons_ne_nil _ _, rfl, rfl⟩
  have hgateway : ¬GatewayListFails zookeeper unavailable := by
    rintro ⟨-, before, x, after, -, -, hservers, -⟩
    have hservers : [] = before ++ x :: after := hservers
    simp at hservers
  obtain ⟨⟨err, cluster'⟩, h⟩ : ∃ r, zookeeper.pushEnvoyFilters2APIServer unavailable beforePush = .ok r := ⟨_, rfl⟩
  exact ⟨err, cluster', hfails, h, (failedRead_iff h).mpr hgateway hfails⟩

/-- The EnvoyFilter of a gateway. -/
def gatewayPushed : ClusterState where
  envoyFilters := {
    objects := (∅ : AList fun _ : ObjectKey => ApiServer.Object EnvoyFilter).insert
      ⟨"ns", "aeraki-gateway-outbound-gw.ns-20880"⟩
      { labels := managerLabels, spec := { configPatches := [] }, resourceVersion := 1 }
    nextVersion := 2 }
  virtualServices := { objects := ∅ }

/-- Listing the MetaRouters of the gateway fails: its EnvoyFilter is deleted, and
no error returned. -/
theorem failed_list_deletes : ∃ cluster', ListFails MetaProtocol.oneServer unavailable ∧
    MetaProtocol.oneServer.pushEnvoyFilters2APIServer unavailable gatewayPushed = .ok (none, cluster') ∧
    newWrites gatewayPushed.envoyFilters cluster'.envoyFilters =
      [(.delete ⟨"ns", "aeraki-gateway-outbound-gw.ns-20880"⟩, true)] := by
  refine ⟨_, .inr ⟨⟨[], rfl⟩, [], _, [], [], [], rfl, rfl, MetaProtocol.dubboPort, rfl, rfl, rfl, rfl⟩, rfl, ?_⟩
  decide +kernel

end Aeraki.Proof.EnvoyFilter
