import Aeraki.Proof.EnvoyFilter.Reconcile
import Aeraki.Proof.Istio.Filter

/-!
# A ServiceEntry without hosts

`generateEnvoyFilters` returns at the first ServiceEntry without hosts, with
the EnvoyFilters generated so far and no error. So such an entry is harmless
only if nothing that follows it would have changed the map
(`harmless_hostless_iff`): if the function returns before it comes to the entry,
or if no service and no gateway after it has EnvoyFilters (`harmless_hostless`).
Otherwise the push deletes the EnvoyFilters of the services after it
(`hostless_deletes`).
-/

namespace Aeraki.Proof.EnvoyFilter

open Aeraki.Impl Aeraki.Impl.Controller
open ApiServer (Object Request)
open Go (Comp)

/-! ## The loop at one position -/

theorem writesFrom_append (c : Controller) (o : Oracle) (l1 l2 : List (Config ServiceEntry)) :
    writesFrom c o (l1 ++ l2) = (do
      let r ← serviceWrites c (o.at "ServiceEntries") l1
      match r.2 with
      | some _ => return r.1
      | none => return r.1 ++ (← writesFrom c o l2)) := by
  rw [writesFrom, serviceWrites_append, bind_assoc]
  refine bind_congr fun r => ?_
  rcases r with ⟨ws, _ | err⟩
  · simp only [writesFrom, bind_assoc, pure_bind]
    refine bind_congr fun r' => ?_
    rcases r' with ⟨ws', _ | err⟩
    · simp only [bind_assoc, pure_bind, List.append_assoc]
    · rfl
  · rfl

theorem writesFrom_hostless (c : Controller) (o : Oracle) {bad : Config ServiceEntry} (hbad : bad.spec.hosts = [])
    (l2 : List (Config ServiceEntry)) : writesFrom c o (bad :: l2) = .ok [] := by
  rw [writesFrom, serviceWrites, serviceOutcome, hbad]
  rfl

/-! ## The generators do not see the entry -/

/-- The store with other ServiceEntries. -/
def withEntries (store : ConfigStore) (ses : List (Config ServiceEntry)) : ConfigStore :=
  { store with serviceEntries := ses }

section

variable {bad : Config ServiceEntry} (hbad : bad.spec.hosts = []) (d : Deployment) (store : ConfigStore)
  (l1 l2 : List (Config ServiceEntry))
include hbad

/-- The Redis generator reads the hosts of all ServiceEntries: `bad` has none. -/
theorem sameGenerators_hostless :
    SameGenerators InOrder (d.controller (withEntries store (l1 ++ bad :: l2)))
      (d.controller (withEntries store (l1 ++ l2))) := by
  refine sameGenerators (fun _ s ho => ho.at s) d fun o ho ns host _ => ?_
  rw [hostServices_eq ho, hostServices_eq ho]
  simp only [redisGenerator, withEntries, List.filter_append, List.filter_cons]
  split
  · simp [List.flatMap_append, hbad]
  · rfl

/-- Up to `bad`, both runs write the same. -/
theorem serviceWrites_hostless {o : Oracle} (ho : InOrder o) (ses : List (Config ServiceEntry)) :
    serviceWrites (d.controller (withEntries store (l1 ++ bad :: l2))) o ses =
      serviceWrites (d.controller (withEntries store (l1 ++ l2))) o ses :=
  serviceWrites_congr fun _ _ => serviceOutcome_congr rfl (sameGenerators_hostless hbad d store l1 l2)
    ((ho.at _).at _) fun _ _ => rfl

end

/-! ## When the entry is harmless -/

/-- The map that is generated. -/
def generatedMap (c : Controller) (o : Oracle) (server : ApiServer.Server ObjectKey VirtualService) :
    Comp (GoMap String EnvoyFilterWrapper) :=
  (c.generateEnvoyFilters o server).map (·.1.1)

/-- The difference between `c` and `c'` is harmless: they generate the same
map, and the push of `c` deletes nothing that `c'` generates. -/
structure Harmless (c c' : Controller) (o : Oracle) : Prop where
  sameMap : ∀ server, generatedMap c o server = generatedMap c' o server
  noneDeleted : ∀ cluster err cluster' generated, generatedMap c' o cluster.virtualServices = .ok generated →
    c.pushEnvoyFilters2APIServer o cluster = .ok (err, cluster') → ∀ k accepted,
    (Request.delete k, accepted) ∈ newWrites cluster.envoyFilters cluster'.envoyFilters →
    generated.lookup (envoyFilterMapKey k.name k.namespace_) = none

/-- What a push deletes is not in the map. -/
theorem not_generated_of_push_delete {c : Controller} {o : Oracle} {cluster cluster' : ClusterState}
    {err : Option String} (hrun : c.pushEnvoyFilters2APIServer o cluster = .ok (err, cluster')) {k : ObjectKey}
    {accepted : Bool}
    (hk : (Request.delete k, accepted) ∈ newWrites cluster.envoyFilters cluster'.envoyFilters) :
    ∃ generated, generatedMap c o cluster.virtualServices = .ok generated ∧
      generated.lookup (envoyFilterMapKey k.name k.namespace_) = none := by
  obtain ⟨⟨⟨generated, e⟩, vs⟩, hgen, h⟩ := Go.bind_eq_ok.mp hrun
  refine ⟨generated, by rw [generatedMap, hgen]; rfl, ?_⟩
  cases e with
  | some e =>
    cases h
    simp [newWrites] at hk
  | none =>
    cases h
    exact not_generated_of_delete hk

theorem Harmless.of_sameMap {c c' : Controller} {o : Oracle}
    (h : ∀ server, generatedMap c o server = generatedMap c' o server) : Harmless c c' o where
  sameMap := h
  noneDeleted cluster _ _ _ hgen hrun _ _ hk := by
    obtain ⟨generated', hgen', hk'⟩ := not_generated_of_push_delete hrun hk
    rw [h, hgen, Except.ok.injEq] at hgen'
    rw [hgen', hk']

/-- Writing `rest` changes nothing, exactly when all of it has been written. -/
theorem writeAll_append_eq_iff {ws rest : List Write} :
    GoMap.writeAll ∅ ws = GoMap.writeAll ∅ (ws ++ rest) ↔
      ∀ k v, GoMap.lastWrite rest k = some v → GoMap.lastWrite ws k = some v := by
  constructor
  · intro h k v hv
    have hk := congrArg (Finmap.lookup k) h
    rw [GoMap.lookup_writeAll, GoMap.lookup_writeAll, GoMap.lastWrite_append, hv] at hk
    simpa using hk
  · intro h
    refine Finmap.ext_lookup fun k => ?_
    rw [GoMap.lookup_writeAll, GoMap.lookup_writeAll, GoMap.lastWrite_append]
    cases hv : GoMap.lastWrite rest k with
    | none => rw [Option.none_or]
    | some v => rw [h k v hv]; rfl

theorem generatedMap_eq (c : Controller) {o : Oracle} (ho : InOrder o)
    (server : ApiServer.Server ObjectKey VirtualService) :
    generatedMap c o server = (writesFrom c o c.store.serviceEntries).map (GoMap.writeAll ∅) := by
  rw [generatedMap, generateEnvoyFilters_eq, generatedWrites, (ho.at _).list]

/-- With `bad`, what is written before it is all. -/
theorem generatedMap_hostless (d : Deployment) (store : ConfigStore) (l1 l2 : List (Config ServiceEntry))
    {bad : Config ServiceEntry} (hbad : bad.spec.hosts = []) {o : Oracle} (ho : InOrder o)
    (server : ApiServer.Server ObjectKey VirtualService) :
    generatedMap (d.controller (withEntries store (l1 ++ bad :: l2))) o server =
      (serviceWrites (d.controller (withEntries store (l1 ++ l2))) (o.at "ServiceEntries") l1).map
        fun r => GoMap.writeAll ∅ r.1 := by
  rw [generatedMap_eq _ ho]
  show (writesFrom _ o (l1 ++ bad :: l2)).map _ = _
  rw [writesFrom_append, writesFrom_hostless _ o hbad, serviceWrites_hostless hbad d store l1 l2 (ho.at _)]
  rcases serviceWrites (d.controller (withEntries store (l1 ++ l2))) (o.at "ServiceEntries") l1
    with p | ⟨ws, _ | err⟩
  · rfl
  · show Except.ok (GoMap.writeAll ∅ (ws ++ [])) = _
    rw [List.append_nil]; rfl
  · rfl

/-- A ServiceEntry without hosts is harmless, exactly when the loop does not
come to it, or when all that would be written after it has been written. -/
theorem harmless_hostless_iff (d : Deployment) (store : ConfigStore) (l1 l2 : List (Config ServiceEntry))
    {bad : Config ServiceEntry} (hbad : bad.spec.hosts = []) {o : Oracle} (ho : InOrder o) :
    Harmless (d.controller (withEntries store (l1 ++ bad :: l2))) (d.controller (withEntries store (l1 ++ l2))) o ↔
      ∀ ws, serviceWrites (d.controller (withEntries store (l1 ++ l2))) (o.at "ServiceEntries") l1 = .ok (ws, none) →
        ∃ rest, writesFrom (d.controller (withEntries store (l1 ++ l2))) o l2 = .ok rest ∧
          ∀ k v, GoMap.lastWrite rest k = some v → GoMap.lastWrite ws k = some v := by
  have hbadRun := generatedMap_hostless d store l1 l2 hbad ho
  have hrun := generatedMap_eq (d.controller (withEntries store (l1 ++ l2))) ho
  rw [show (d.controller (withEntries store (l1 ++ l2))).store.serviceEntries = l1 ++ l2 from rfl,
    writesFrom_append] at hrun
  generalize d.controller (withEntries store (l1 ++ bad :: l2)) = c at *
  generalize d.controller (withEntries store (l1 ++ l2)) = c' at *
  constructor
  · intro h ws hws
    have hs := h.sameMap { objects := ∅ }
    rw [hbadRun, hrun, hws] at hs
    cases hr : writesFrom c' o l2 with
    | error p => rw [hr] at hs; cases hs
    | ok rest => rw [hr] at hs; exact ⟨rest, rfl, writeAll_append_eq_iff.mp (Except.ok.inj hs)⟩
  · intro h
    refine .of_sameMap fun server => ?_
    rw [hbadRun, hrun]
    rcases hs : serviceWrites c' (o.at "ServiceEntries") l1 with p | ⟨ws, _ | err⟩
    · rfl
    · obtain ⟨rest, hrest, hw⟩ := h ws hs
      rw [hrest]
      exact congrArg Except.ok (writeAll_append_eq_iff.mpr hw)
    · rfl

/-! ## From the inputs -/

/-- The function returns at one of the ServiceEntries: it has no hosts, or the
MetaRouters of a service with a generator cannot be listed. -/
def ReturnsIn (c : Controller) (o : Oracle) (ses : List (Config ServiceEntry)) : Prop :=
  ∃ se ∈ ses, se.spec.hosts = [] ∨
    (c.generatorOf se.spec.ports ≠ none ∧ o.callError ["ServiceEntries", se.key, "MetaRouters"] ≠ none)

/-- No service has a generator, up to one without hosts; and there is such a one,
or no MetaRouter names a gateway with a MetaProtocol server. -/
structure NothingAfter (c : Controller) (ses : List (Config ServiceEntry)) : Prop where
  services : ∀ se ∈ ses.takeWhile (·.spec.hosts ≠ []), c.generatorOf se.spec.ports = none
  gateways : (∃ se ∈ ses, se.spec.hosts = []) ∨ ∀ gateway ∈ c.store.gateways,
    Istio.shouldHandleGateway gateway = false ∨ ∀ metaRouter ∈ c.metaRouters, namesGateway metaRouter gateway = false

section

variable {c : Controller} {o : Oracle}

theorem ReturnsIn.not_through {ses : List (Config ServiceEntry)} (h : ReturnsIn c o ses) {ws : List Write} :
    serviceWrites c (o.at "ServiceEntries") ses ≠ .ok (ws, none) := by
  intro hws
  obtain ⟨se, hse, hreturns⟩ := h
  obtain ⟨ws', hout⟩ := serviceOutcome_of_serviceWrites hws se hse
  unfold serviceOutcome at hout
  cases hhosts : se.spec.hosts with
  | nil =>
    rw [hhosts] at hout
    cases hout
  | cons host hosts =>
    obtain ⟨hgen, herr⟩ := hreturns.resolve_left (by simp [hhosts])
    obtain ⟨g, hg⟩ := Option.ne_none_iff_exists'.mp hgen
    obtain ⟨err, herr⟩ := Option.ne_none_iff_exists'.mp herr
    have hlist : c.listMetaRouters ((o.at "ServiceEntries").at se.key) = .error err := by
      rw [listMetaRouters, show ((o.at "ServiceEntries").at se.key).callError ["MetaRouters"] = some err from herr]
    rw [hhosts, hg] at hout
    simp only [envoyFilterContext, findRelatedMetaRouter, hlist] at hout
    cases hout

/-- What follows writes nothing. -/
theorem serviceWrites_idle : ∀ {ses : List (Config ServiceEntry)},
    (∀ se ∈ ses.takeWhile (·.spec.hosts ≠ []), c.generatorOf se.spec.ports = none) →
      ∃ r, serviceWrites c o ses = .ok ([], r) ∧ (r = none → ∀ se ∈ ses, se.spec.hosts ≠ [])
  | [], _ => ⟨none, rfl, fun _ _ h => by cases h⟩
  | se :: ses, h => by
    cases hhosts : se.spec.hosts with
    | nil =>
      refine ⟨some none, ?_, fun hr => by cases hr⟩
      rw [serviceWrites, serviceOutcome, hhosts]
      rfl
    | cons host hosts =>
      rw [List.takeWhile_cons_of_pos (by simp [hhosts])] at h
      obtain ⟨hse, hses⟩ := List.forall_mem_cons.mp h
      obtain ⟨r, hr, hnone⟩ := @serviceWrites_idle ses hses
      refine ⟨r, ?_, fun hr => List.forall_mem_cons.mpr ⟨by simp [hhosts], hnone hr⟩⟩
      rw [serviceWrites, serviceOutcome, hhosts, hse, hr]
      rfl

/-- A gateway that no MetaRouter names has no contexts. -/
theorem gatewayOutcome_unnamed {gateway : Config Gateway}
    (h : ∀ metaRouter ∈ c.metaRouters, namesGateway metaRouter gateway = false) (server : Server) (i : Nat) :
    gatewayOutcome c o gateway server i = .ok none ∨ gatewayOutcome c o gateway server i = .ok (some ([], [])) := by
  have hcontexts (o : Oracle) (port : Nat) : (∃ err, c.gatewayEnvoyFilterContexts o gateway port = .ok (.error err)) ∨
      c.gatewayEnvoyFilterContexts o gateway port = .ok (.ok []) := by
    have hnone : ∀ metaRouter ∈ c.metaRouters, c.gatewayContext gateway port metaRouter = .ok none := by
      intro metaRouter hm
      rw [gatewayContext, h metaRouter hm]
      rfl
    unfold gatewayEnvoyFilterContexts listMetaRouters
    cases o.callError ["MetaRouters"] with
    | some err => exact .inl ⟨err, rfl⟩
    | none =>
      refine .inr ?_
      dsimp only
      rw [Go.mapM_congr hnone, Go.mapM_eq_map fun _ => rfl]
      show Except.ok (Except.ok (c.metaRouters.map fun _ => none).reduceOption) = _
      rw [List.map_const', List.reduceOption_replicate_none]
  unfold gatewayOutcome
  cases server.port with
  | none => exact .inr rfl
  | some port =>
    dsimp only
    split
    · exact .inr rfl
    · cases c.generators (getLayer7ProtocolFromPortName port.name) with
      | none => exact .inr rfl
      | some generator =>
        rcases hcontexts (((o.at "Gateways").at gateway.key).at (Go.itoa i)) port.number with ⟨err, he⟩ | he
        · exact .inl (by simp only [he]; rfl)
        · exact .inr (by simp only [he]; rfl)

theorem gatewayWrites_idle : ∀ {servers : List (Config Gateway × Server × Nat)},
    (∀ s ∈ servers, gatewayOutcome c o s.1 s.2.1 s.2.2 = .ok none ∨
      gatewayOutcome c o s.1 s.2.1 s.2.2 = .ok (some ([], []))) →
      ∃ r, gatewayWrites c o servers = .ok ([], r)
  | [], _ => ⟨_, rfl⟩
  | (gateway, server, i) :: rest, h => by
    obtain ⟨hs, hrest⟩ := List.forall_mem_cons.mp h
    rw [gatewayWrites]
    rcases hs with hs | hs
    · rw [hs]
      exact ⟨none, rfl⟩
    · obtain ⟨r, hr⟩ := gatewayWrites_idle hrest
      rw [hs, hr]
      exact ⟨_, rfl⟩

theorem NothingAfter.writesFrom {ses : List (Config ServiceEntry)} (h : NothingAfter c ses) :
    writesFrom c o ses = .ok [] := by
  obtain ⟨r, hr, hthrough⟩ := @serviceWrites_idle c (o.at "ServiceEntries") ses h.services
  rw [EnvoyFilter.writesFrom, hr]
  cases r with
  | some err => rfl
  | none =>
    have hthrough : ¬∃ se ∈ ses, se.spec.hosts = [] := by
      rintro ⟨se, hse, hnil⟩
      exact hthrough rfl se hse hnil
    have hgateways := h.gateways.resolve_left hthrough
    have hidle : ∀ s ∈ gatewayServers ((o.at "Gateways").list c.store.gateways),
        gatewayOutcome c o s.1 s.2.1 s.2.2 = .ok none ∨ gatewayOutcome c o s.1 s.2.1 s.2.2 = .ok (some ([], [])) := by
      intro s hs
      obtain ⟨gateway, hgateway, hs⟩ := List.mem_flatMap.mp hs
      obtain ⟨⟨server, i⟩, hserver, rfl⟩ := List.mem_map.mp hs
      rcases hgateways gateway (mem_list.mp hgateway) with hskip | hunnamed
      · exact .inr (Istio.gatewayOutcome_not_handled hskip (List.fst_mem_of_mem_zipIdx hserver) i)
      · exact gatewayOutcome_unnamed hunnamed server i
    obtain ⟨r', hr'⟩ := gatewayWrites_idle hidle
    simp only [bind, Except.bind, hr']
    rfl

end

/-- A ServiceEntry without hosts is harmless if the function returns before it comes
to the entry, or if nothing is generated after it. -/
theorem harmless_hostless (d : Deployment) (store : ConfigStore) (l1 l2 : List (Config ServiceEntry))
    {bad : Config ServiceEntry} (hbad : bad.spec.hosts = []) {o : Oracle} (ho : InOrder o)
    (h : ReturnsIn (d.controller (withEntries store (l1 ++ l2))) o l1 ∨
      NothingAfter (d.controller (withEntries store (l1 ++ l2))) l2) :
    Harmless (d.controller (withEntries store (l1 ++ bad :: l2))) (d.controller (withEntries store (l1 ++ l2))) o := by
  refine (harmless_hostless_iff d store l1 l2 hbad ho).mpr fun ws hws => ?_
  rcases h with hreturns | hnothing
  · exact absurd hws hreturns.not_through
  · refine ⟨[], hnothing.writesFrom, fun k v hv => ?_⟩
    cases hv

/-- A ServiceEntry without hosts. -/
def hostless : Config ServiceEntry := { name := "bad", namespace_ := "db", spec := { hosts := [] } }

/-- After the last service, and without gateways, it is harmless. -/
theorem hostless_last_harmless :
    Harmless (Deployment.controller {} (withEntries {} (zookeeper.store.serviceEntries ++ [hostless])))
      (Deployment.controller {} (withEntries {} (zookeeper.store.serviceEntries ++ []))) {} := by
  have hbad : hostless.spec.hosts = [] := rfl
  have hnothing : NothingAfter (Deployment.controller {} (withEntries {} (zookeeper.store.serviceEntries ++ []))) [] :=
    ⟨(fun _ h => by cases h), .inr fun _ h => by cases h⟩
  exact harmless_hostless {} {} zookeeper.store.serviceEntries [] hbad (o := {}) (fun _ => rfl) (.inr hnothing)

/-- The cluster to which the ZooKeeper service has been pushed. -/
def afterPush : ClusterState :=
  match zookeeper.pushEnvoyFilters2APIServer {} beforePush with
  | .ok r => r.2
  | .error _ => beforePush

/-- Before the ZooKeeper service, it makes the push delete the EnvoyFilters of
that service. -/
theorem hostless_deletes :
    (∃ cluster',
      (Deployment.controller {} (withEntries {}
        ([] ++ hostless :: zookeeper.store.serviceEntries))).pushEnvoyFilters2APIServer {} afterPush =
          .ok (none, cluster') ∧
      (Request.delete ⟨"istio-system", "aeraki-outbound-zk.db-10.0.0.1-2181"⟩, true) ∈
        newWrites afterPush.envoyFilters cluster'.envoyFilters) ∧
    ¬ Harmless (Deployment.controller {} (withEntries {} ([] ++ hostless :: zookeeper.store.serviceEntries)))
      (Deployment.controller {} (withEntries {} ([] ++ zookeeper.store.serviceEntries))) {} := by
  have hrun : ∃ cluster',
      (Deployment.controller {} (withEntries {}
        ([] ++ hostless :: zookeeper.store.serviceEntries))).pushEnvoyFilters2APIServer {} afterPush =
          .ok (none, cluster') ∧
      (Request.delete ⟨"istio-system", "aeraki-outbound-zk.db-10.0.0.1-2181"⟩, true) ∈
        newWrites afterPush.envoyFilters cluster'.envoyFilters := ⟨_, rfl, by decide +kernel⟩
  refine ⟨hrun, fun h => ?_⟩
  obtain ⟨cluster', hrun, hk⟩ := hrun
  exact absurd (h.noneDeleted afterPush none cluster' _ rfl hrun _ _ hk) (by decide +kernel)

end Aeraki.Proof.EnvoyFilter
