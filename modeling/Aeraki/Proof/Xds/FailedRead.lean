import Aeraki.Impl.Xds.Callbacks
import Aeraki.Impl.Xds.RouteCache
import Aeraki.Proof.MetaProtocol.Served

/-!
# Failed reads and the route cache

`updateRouteCache` is a run of the steps of the RDS server
(`updateRouteCache_run`). A failed List of MetaRouters does not stop it: the
service gets its default route, and the snapshot is set for the nodes. An error
is returned, with the cache as it was, only if something else fails before a
snapshot has changed (`intact_iff`).
-/

namespace Aeraki.Proof.Xds

open Aeraki.Impl Aeraki.Impl.Xds Aeraki.Impl.Xds.CacheMgr
open Go (bind_eq_ok)

variable {C : SnapshotCache Snapshot}

/-! ## The loop -/

/-- The error of `SetSnapshot` for a node. -/
def setError (o : Oracle) (node : String) : Option String := o.callError ["SetSnapshot", node]

/-- The nodes for which the snapshot is set: up to one for which that fails. -/
def setNodes (o : Oracle) (nodes : List String) : List String := nodes.takeWhile fun node => (setError o node).isNone

theorem setSnapshots_eq (o : Oracle) (snapshot : Snapshot) : ∀ (nodes : List String) (cache : C.State),
    setSnapshots o snapshot nodes cache = (nodes.findSome? (setError o),
      (setNodes o nodes).foldl (fun cache node => C.setSnapshot cache node snapshot) cache)
  | [], _ => rfl
  | node :: nodes, cache => by
    rw [setSnapshots, setNodes, List.takeWhile_cons, List.findSome?_cons]
    cases hcall : setError o node with
    | some err =>
      rw [show o.callError ["SetSnapshot", node] = some err from hcall]
      rfl
    | none =>
      rw [show o.callError ["SetSnapshot", node] = none from hcall]
      exact setSnapshots_eq o snapshot nodes _

/-- The snapshots after some have been set. -/
theorem getSnapshot_foldl (snapshot : Snapshot) (node : String) : ∀ (nodes : List String) (cache : C.State),
    C.getSnapshot (nodes.foldl (fun cache node => C.setSnapshot cache node snapshot) cache) node =
      if node ∈ nodes then some snapshot else C.getSnapshot cache node
  | [], _ => rfl
  | n :: nodes, cache => by
    rw [List.foldl_cons, getSnapshot_foldl snapshot node nodes, C.getSnapshot_setSnapshot]
    by_cases hn : node ∈ nodes
    · simp [hn]
    · by_cases he : node = n <;> simp [hn, he]

/-! ## The steps of the server -/

/-- The loop, as steps of the server. -/
theorem setSnapshots_run (o : Oracle) (snapshot : Snapshot) : ∀ (nodes : List String) (s : RdsState C),
    s.update = .setting snapshot nodes →
      ∃ actions, (s.run actions).routeCache = (setSnapshots o snapshot nodes s.routeCache).2 ∧
        (s.run actions).update = .idle
  | [], s, h => by
    refine ⟨[.setNext false], ?_, ?_⟩
    · simp [RdsState.run, RdsState.step, RdsState.setNext, h, RdsState.updateDone, setSnapshots]
    · simp [RdsState.run, RdsState.step, RdsState.setNext, h, RdsState.updateDone]
  | node :: nodes, s, h => by
    rw [setSnapshots]
    cases hcall : o.callError ["SetSnapshot", node] with
    | some err =>
      have hstep : s.run [.setNext true] = s.updateFailed := by
        simp [RdsState.run, RdsState.step, RdsState.setNext, h]
      refine ⟨[.setNext true], ?_, ?_⟩ <;> rw [hstep, RdsState.updateFailed] <;> split <;> rfl
    | none =>
      have hnext : (s.setNext false).update = .setting snapshot nodes ∧
          (s.setNext false).routeCache = C.setSnapshot s.routeCache node snapshot := by
        simp [RdsState.setNext, h]
      obtain ⟨actions, hcache, hidle⟩ := setSnapshots_run o snapshot nodes (s.setNext false) hnext.1
      exact ⟨.setNext false :: actions, hcache.trans (by rw [hnext.2]), hidle⟩

/-- An `updateRouteCache` is a run of steps of the server. -/
theorem updateRouteCache_run {c : CacheMgr} {o : Oracle} {now : Nat} {s : RdsState C} (hs : s.update = .idle)
    {err : Option String} {cache : C.State} (h : c.updateRouteCache o now s.routeCache = .ok (err, cache)) :
    ∃ actions, (s.run actions).routeCache = cache ∧ (s.run actions).update = .idle := by
  unfold updateRouteCache at h
  by_cases hkeys : (C.getStatusKeys s.routeCache).isEmpty = true
  · rw [if_pos hkeys] at h
    cases h
    exact ⟨[], rfl, hs⟩
  · rw [if_neg hkeys] at h
    obtain ⟨routes, -, h⟩ := bind_eq_ok.mp h
    obtain ⟨generated, -, h⟩ := bind_eq_ok.mp h
    have hstart : s.startUpdate = { s with update := .generating } := by
      simp [RdsState.startUpdate, hs, hkeys]
    cases generated with
    | error e =>
      cases h
      refine ⟨[.startUpdate, .generated none], ?_, ?_⟩ <;>
        simp only [RdsState.run, List.foldl_cons, List.foldl_nil, RdsState.step, hstart, RdsState.generated,
          RdsState.updateFailed] <;> split <;> rfl
    | ok snapshot =>
      have h : setSnapshots o snapshot (C.getStatusKeys s.routeCache) s.routeCache = (err, cache) := Except.ok.inj h
      obtain ⟨actions, hcache, hidle⟩ := setSnapshots_run o snapshot (C.getStatusKeys s.routeCache)
        { s with update := .setting snapshot (C.getStatusKeys s.routeCache) } rfl
      refine ⟨.startUpdate :: .generated (some snapshot) :: actions, ?_, ?_⟩
      · simp only [RdsState.run, List.foldl_cons, RdsState.step, hstart, RdsState.generated]
        exact hcache.trans (congrArg Prod.snd h)
      · simp only [RdsState.run, List.foldl_cons, RdsState.step, hstart, RdsState.generated]
        exact hidle

/-! ## Failed reads -/

/-- A List of MetaRouters fails during `updateRouteCache`: it is called for each
MetaProtocol service with a host, if there are nodes. -/
def ListFails (c : CacheMgr) (o : Oracle) (cache : C.State) : Prop :=
  C.getStatusKeys cache ≠ [] ∧ ∃ se ∈ c.store.serviceEntries, isMetaProtocolService se.spec = true ∧
    se.spec.hosts ≠ [] ∧ ((o.at se.key).callError ["MetaRouters"]).isSome

/-- Every node has the snapshot that it had. -/
def Intact (cache cache' : C.State) : Prop := ∀ node, C.getSnapshot cache' node = C.getSnapshot cache node

/-- Something else fails before a snapshot has changed: `NewSnapshot`, or a
`SetSnapshot` after ones that have set what was there. -/
def FailsFirst (c : CacheMgr) (o : Oracle) (now : Nat) (cache : C.State) : Prop :=
  o.callError ["NewSnapshot"] ≠ none ∨
    ((C.getStatusKeys cache).findSome? (setError o) ≠ none ∧ ∃ snapshot,
      c.routes o >>= generateSnapshot o now = .ok (.ok snapshot) ∧
      ∀ node ∈ setNodes o (C.getStatusKeys cache), C.getSnapshot cache node = some snapshot)

theorem generateSnapshot_ok {o : Oracle} {now : Nat} {routes : List MetaProtocolRouteConfiguration}
    {r : Except String Snapshot} (h : generateSnapshot o now routes = .ok r) :
    (∃ err, r = .error err) ↔ o.callError ["NewSnapshot"] ≠ none := by
  obtain ⟨httpRoutes, -, h⟩ := bind_eq_ok.mp h
  cases hcall : o.callError ["NewSnapshot"] with
  | some err =>
    rw [hcall] at h
    cases h
    exact iff_of_true ⟨err, rfl⟩ nofun
  | none =>
    rw [hcall] at h
    cases h
    exact iff_of_false (fun ⟨_, h⟩ => nomatch h) fun h => h rfl

theorem intact_foldl_iff {snapshot : Snapshot} {nodes : List String} {cache : C.State} :
    Intact cache (nodes.foldl (fun cache node => C.setSnapshot cache node snapshot) cache) ↔
      ∀ node ∈ nodes, C.getSnapshot cache node = some snapshot := by
  unfold Intact
  simp only [getSnapshot_foldl]
  refine forall_congr' fun node => ?_
  by_cases hn : node ∈ nodes <;> simp [hn, eq_comm]

/-- An update in which a List of MetaRouters fails returns an error and leaves the
snapshots as they were, exactly if none fails or something else fails before a
snapshot has changed. -/
theorem intact_iff {c : CacheMgr} {o : Oracle} {now : Nat} {cache cache' : C.State} {err : Option String}
    (h : c.updateRouteCache o now cache = .ok (err, cache')) :
    (ListFails c o cache → err ≠ none ∧ Intact cache cache') ↔ ¬ListFails c o cache ∨ FailsFirst c o now cache := by
  by_cases hfails : ListFails c o cache
  · rw [or_iff_right (not_not.mpr hfails), imp_iff_right hfails]
    unfold updateRouteCache at h
    rw [if_neg (by simpa using hfails.1)] at h
    obtain ⟨routes, hroutes, h⟩ := bind_eq_ok.mp h
    obtain ⟨generated, hgenerated, h⟩ := bind_eq_ok.mp h
    have hnew := generateSnapshot_ok hgenerated
    cases generated with
    | error e =>
      cases h
      exact iff_of_true ⟨nofun, fun _ => rfl⟩ (.inl (hnew.mp ⟨e, rfl⟩))
    | ok snapshot =>
      have hnone : ¬o.callError ["NewSnapshot"] ≠ none := fun hcall => by
        obtain ⟨e, he⟩ := hnew.mpr hcall
        cases he
      have hboth : c.routes o >>= generateSnapshot o now = .ok (.ok snapshot) :=
        bind_eq_ok.mpr ⟨routes, hroutes, hgenerated⟩
      have h : setSnapshots o snapshot (C.getStatusKeys cache) cache = (err, cache') := Except.ok.inj h
      rw [setSnapshots_eq] at h
      cases h
      rw [FailsFirst, or_iff_right hnone, intact_foldl_iff]
      refine and_congr_right fun _ => ⟨fun h => ⟨snapshot, hboth, h⟩, ?_⟩
      rintro ⟨snapshot', hsnapshot', h⟩
      cases hboth.symm.trans hsnapshot'
      exact h
  · exact iff_of_true (fun h => absurd h hfails) (.inl hfails)

/-- A service with a canary route. -/
def canaryMgr : CacheMgr := ⟨{ serviceEntries := [MetaProtocol.dubboService] }, [canary]⟩

/-- The route cache of one sidecar, without a snapshot yet. -/
def oneSidecar : (SnapshotCache.mapCache Snapshot).State := (∅, Finmap.singleton "sidecar" ∅)

/-- The calls whose last site is one of these fail. -/
def failingCalls (calls : List String) : Oracle where
  callError site := if site.getLast?.any calls.contains then some "unavailable" else none

theorem newSnapshot_intact : ∃ err cache,
    updateRouteCache (C := .mapCache Snapshot) canaryMgr (failingCalls ["MetaRouters", "NewSnapshot"]) 1 oneSidecar =
      .ok (err, cache) ∧
    err ≠ none ∧ Intact (C := .mapCache Snapshot) oneSidecar cache := by
  obtain ⟨⟨err, cache⟩, h⟩ : ∃ r, updateRouteCache (C := .mapCache Snapshot) canaryMgr
    (failingCalls ["MetaRouters", "NewSnapshot"]) 1 oneSidecar = .ok r := ⟨_, rfl⟩
  have hfails : ListFails (C := .mapCache Snapshot) canaryMgr (failingCalls ["MetaRouters", "NewSnapshot"])
      oneSidecar := ⟨by decide +kernel, MetaProtocol.dubboService, List.mem_cons_self, by decide +kernel,
        List.cons_ne_nil _ _, by decide +kernel⟩
  have hfirst : FailsFirst (C := .mapCache Snapshot) canaryMgr (failingCalls ["MetaRouters", "NewSnapshot"]) 1
      oneSidecar := .inl (by decide +kernel)
  exact ⟨err, cache, h, (intact_iff h).mpr (.inr hfirst) hfails⟩

/-- The names of the routes that a node is served for a route configuration. -/
def servedRoutes (cache : (SnapshotCache.mapCache Snapshot).State) (node name : String) : Option (List String) := do
  let snapshot ← (SnapshotCache.mapCache Snapshot).getSnapshot cache node
  let config ← snapshot.resources.lookup name
  return config.virtualHosts.flatMap fun host => host.routes.map (·.name)

/-- Listing the MetaRouters fails in the second update: no error is returned, and
the service has lost its canary route. -/
theorem failed_list_loses_routes : ∃ cache1 cache2,
    updateRouteCache (C := .mapCache Snapshot) canaryMgr {} 1 oneSidecar = .ok (none, cache1) ∧
    ListFails (C := .mapCache Snapshot) canaryMgr (failingCalls ["MetaRouters"]) cache1 ∧
    updateRouteCache (C := .mapCache Snapshot) canaryMgr (failingCalls ["MetaRouters"]) 2 cache1 = .ok (none, cache2) ∧
    servedRoutes cache1 "sidecar" "demo.ns_20880" = some ["canary", "default"] ∧
    servedRoutes cache2 "sidecar" "demo.ns_20880" = some ["default"] := by
  refine ⟨_, _, rfl, ⟨?_, MetaProtocol.dubboService, List.mem_cons_self, ?_, List.cons_ne_nil _ _, ?_⟩, rfl, ?_, ?_⟩
  all_goals decide +kernel

end Aeraki.Proof.Xds
