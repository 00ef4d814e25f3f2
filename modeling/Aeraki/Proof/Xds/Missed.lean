import Aeraki.Proof.MetaProtocol.Served
import Aeraki.Proof.Xds.Relevance

/-!
# Which changes RDS misses

`ConfigUpdated` finds by a literal port name, and by the ServiceEntry of a host that
is listed first, which changes matter; `generateMetaRoutes` looks at the second
segment of the port name, and at every ServiceEntry. A change is handled, however the
config store lists its objects, exactly if the two agree on it (`Noticed`): a change
of a ServiceEntry if one of its ports is spelled as `ConfigUpdated` expects or its
routes keep their names; a change of a DestinationRule if every ServiceEntry has a
host, and all those of the rule's host are spelled so or no MetaProtocol service
sees another hash policy (`handled_iff`).
-/

namespace Aeraki.Proof.Xds

open Aeraki.Impl Aeraki.Impl.Istio Aeraki.Impl.Xds Aeraki.Impl.Xds.CacheMgr
open Aeraki.Proof.MetaProtocol (AllSet generateMetaRoutes_ok portRoute_name serviceRoutes_eq)
open Aeraki.Proof.Webhook (IsSet)
open Go (Comp)

/-! ## What is compared -/

/-- The objects are listed in order, every map is ranged over in the same order, and
no call fails. -/
def steady (n : Nat) : Oracle := { rangeOrder := fun _ => n }

@[simp] theorem steady_at (n : Nat) (s : String) : (steady n).at s = steady n := rfl

theorem inOrder_steady (n : Nat) : InOrder (steady n) := fun _ => rfl

/-- In whatever order the store lists its objects to `ConfigUpdated`, it returns, and
sends an event if the change changes the routes. -/
def Handled (metaRouters : List MetaRouter) (store : ConfigStore) (change : StoreChange) : Prop :=
  ∀ o, ∃ b, CacheMgr.configUpdated ⟨change.after store, metaRouters⟩ o change = .ok b ∧
    ∀ n, CacheMgr.routes ⟨change.before store, metaRouters⟩ (steady n) ≠
      CacheMgr.routes ⟨change.after store, metaRouters⟩ (steady n) → b = true

/-- The same change of the same objects, listed in another order. -/
inductive Reordered : ConfigStore → StoreChange → ConfigStore → StoreChange → Prop
  | serviceEntry {store store' : ConfigStore} {l1 l2 l1' l2' : List (Config ServiceEntry)}
      {change : Change ServiceEntry} : (l1 ++ l2).Perm (l1' ++ l2') →
      store.destinationRules.Perm store'.destinationRules →
      Reordered store (.serviceEntry l1 l2 change) store' (.serviceEntry l1' l2' change)
  | destinationRule {store store' : ConfigStore} {l1 l2 l1' l2' : List (Config DestinationRule)}
      {change : Change DestinationRule} : store.serviceEntries.Perm store'.serviceEntries →
      (l1 ++ l2).Perm (l1' ++ l2') →
      Reordered store (.destinationRule l1 l2 change) store' (.destinationRule l1' l2' change)
  | virtualService {store : ConfigStore} {l1 l2 : List (Config VirtualService)} {change : Change VirtualService} :
      Reordered store (.virtualService l1 l2 change) store (.virtualService l1 l2 change)
  | gateway {store : ConfigStore} {l1 l2 : List (Config Gateway)} {change : Change Gateway} :
      Reordered store (.gateway l1 l2 change) store (.gateway l1 l2 change)

/-- The hosts and ports that a service has routes for. -/
def routeNames (se : Config ServiceEntry) : List (String × Nat) :=
  match se.spec.hosts with
  | [] => []
  | host :: _ => (metaPorts se.spec).map fun p => (host, p.1.number)

/-- The hash policies of a route of a MetaRouter. -/
def routeHashes (dr : Option (Config DestinationRule)) (route : Option MetaRoute) : List String :=
  ((route.toList.flatMap (·.route)).filterMap fun d => (d.bind (·.destination)).map fun d =>
    getHashPolicy dr d.subset).filter (· ≠ "")

/-- The hash policies of the routes of a service with a MetaRouter, or without one. -/
def hashPolicies (metaRouter : Option MetaRouter) (dr : Option (Config DestinationRule)) : List (List String) :=
  match metaRouter with
  | none => [[getHashPolicy dr ""].filter (· ≠ "")]
  | some metaRouter => metaRouter.routes.map (routeHashes dr)

/-- What may be found first among some rules, by the order in which they are listed. -/
def firsts (rules : List (Config DestinationRule)) : List (Option (Config DestinationRule)) :=
  if rules.isEmpty then [none] else rules.map some

/-- There are ServiceEntries of the rule's host, and all have a port that is spelled
as `ConfigUpdated` expects. -/
def Alarms (ses : List (Config ServiceEntry)) (dr : Config DestinationRule) : Prop :=
  (∃ se ∈ ses, related dr se = true) ∧ ∀ se ∈ ses, related dr se = true → hasMetaProtocolPort se.spec = true

/-- No MetaProtocol service hashes otherwise after the change, even if the rule that
changes is listed before the `others`. -/
def Unseen (metaRouters : List MetaRouter) (store : ConfigStore) (others : List (Config DestinationRule))
    (change : Change DestinationRule) : Prop :=
  ∀ se ∈ store.serviceEntries, isMetaProtocolService se.spec = true → ∀ host ∈ se.spec.hosts.head?,
    ∀ first ∈ firsts (others.filter (related · se)),
      hashPolicies (CacheMgr.findRelatedMetaRouter ⟨store, metaRouters⟩ {} host)
          ((change.old.filter (related · se)).or first) =
        hashPolicies (CacheMgr.findRelatedMetaRouter ⟨store, metaRouters⟩ {} host)
          ((change.new.filter (related · se)).or first)

/-- `ConfigUpdated` and generation agree on the change. -/
def Noticed (metaRouters : List MetaRouter) (store : ConfigStore) : StoreChange → Prop
  | .serviceEntry _ _ change =>
    (∃ se, change.Involves se ∧ hasMetaProtocolPort se.spec = true) ∨
      change.old.elim [] routeNames = change.new.elim [] routeNames
  | .destinationRule l1 l2 change =>
    (∀ se ∈ store.serviceEntries, se.spec.hosts ≠ []) ∧
      ((∃ dr, change.Involves dr ∧ Alarms store.serviceEntries dr) ∨ Unseen metaRouters store (l1 ++ l2) change)
  | .virtualService _ _ _ => True
  | .gateway _ _ _ => True

/-! ## The routes of a port -/

theorem routeHashes_set {route : MetaRoute} {dsts : List (Destination × UInt32)} {request response : List KeyValue}
    (h : IsSet route dsts request response) (dr : Option (Config DestinationRule)) :
    routeHashes dr (some route) = (dsts.map fun d => getHashPolicy dr d.1.subset).filter (· ≠ "") := by
  simp only [routeHashes, Option.toList_some, List.flatMap_cons, List.flatMap_nil, List.append_nil, h.destinations,
    List.filterMap_map, Function.comp_def, Option.bind_some, Option.map_some, List.filterMap_eq_map']

/-- The default route of a service hashes as its DestinationRule says. -/
theorem defaultRoute_eq {service : ServiceEntry} {host : String} {hosts : List String} (hh : service.hosts = host :: hosts)
    (port : ServicePort) (dr : Option (Config DestinationRule)) :
    defaultRoute service port dr = .ok {
      name := buildMetaProtocolRouteName host port.number
      routes := [{
        name := "default"
        match_ := some ⟨[]⟩
        route := {
          clusterSpecifier := some (.cluster (buildClusterName .outbound "" host port.number))
          hashPolicy := [getHashPolicy dr ""].filter (· ≠ "") } }] } := by
  cases dr with
  | none => simp [defaultRoute, hh, getHashPolicy, Go.index_zero_cons, bind, Except.bind, pure, Except.pure]
  | some dr =>
    by_cases hash : getConsistentHashHeaderName dr.spec.trafficPolicy = "" <;>
      simp [defaultRoute, hh, getHashPolicy, Go.index_zero_cons, bind, Except.bind, pure, Except.pure, hash]

section

variable {metaRouter : Option MetaRouter} (hset : AllSet metaRouter.toList)
include hset

/-- The routes of a port hash as the MetaRouter and the DestinationRule say. -/
theorem portRoute_hashPolicies {o : Oracle} {service : ServiceEntry} (hh : service.hosts ≠ [])
    {dr : Option (Config DestinationRule)} {port : ServicePort} {cfg : MetaProtocolRouteConfiguration}
    (h : portRoute o service metaRouter dr port = .ok cfg) :
    cfg.routes.map (·.route.hashPolicy) = hashPolicies metaRouter dr := by
  cases metaRouter with
  | none =>
    obtain ⟨host, hosts, hh⟩ := List.exists_cons_of_ne_nil hh
    rw [portRoute, defaultRoute_eq hh] at h
    cases h
    rfl
  | some m =>
    have hall := (List.forall₂_and_left _ _).mpr ⟨fun r hr => hset m List.mem_cons_self r hr, constructRoute_routes h⟩
    refine List.forall₂_eq_eq_eq ▸ List.forall₂_map_left_iff.mpr (List.forall₂_map_right_iff.mpr ?_)
    refine hall.flip.imp fun mr r ⟨hset, o, hmr⟩ => ?_
    obtain ⟨route, dsts, request, response, rfl, hset⟩ := hset
    rw [constructMetaRoute_set hset port dr o] at hmr
    cases hmr
    exact (routeHashes_set hset dr).symm

/-- They depend on the DestinationRule by the hash policies only. -/
theorem portRoute_congr_hashPolicies {dr dr' : Option (Config DestinationRule)}
    (h : hashPolicies metaRouter dr = hashPolicies metaRouter dr') (o : Oracle) {service : ServiceEntry}
    (hh : service.hosts ≠ []) (port : ServicePort) :
    portRoute o service metaRouter dr port = portRoute o service metaRouter dr' port := by
  cases metaRouter with
  | none =>
    obtain ⟨host, hosts, hh⟩ := List.exists_cons_of_ne_nil hh
    rw [portRoute, portRoute, defaultRoute_eq hh, defaultRoute_eq hh, List.head_eq_of_cons_eq h]
  | some m =>
    have hroute (r : Option MetaRoute × Nat) (hr : r ∈ m.routes.zipIdx) :
        constructMetaRoute (o.at (Go.itoa r.2)) port dr r.1 = constructMetaRoute (o.at (Go.itoa r.2)) port dr' r.1 := by
      have hr := List.fst_mem_of_mem_zipIdx hr
      have hhash := List.map_inj_left.mp h r.1 hr
      obtain ⟨route, dsts, request, response, hr, hset⟩ := hset m List.mem_cons_self r.1 hr
      rw [hr, routeHashes_set hset, routeHashes_set hset] at hhash
      rw [hr, constructMetaRoute_set hset, constructMetaRoute_set hset, hhash]
    rw [portRoute, portRoute, constructRoute, constructRoute, Go.mapM_congr hroute]

end

/-- Of the service and its port, the routes of a port depend on the first host and the
number. -/
theorem portRoute_congr_port {service service' : ServiceEntry} {host : String} {hosts hosts' : List String}
    (hh : service.hosts = host :: hosts) (hh' : service'.hosts = host :: hosts') {port port' : ServicePort}
    (hport : port.number = port'.number) (o : Oracle) (metaRouter : Option MetaRouter)
    (dr : Option (Config DestinationRule)) :
    portRoute o service metaRouter dr port = portRoute o service' metaRouter dr port' := by
  have hdst : dstPort port = dstPort port' := by
    funext d
    rw [dstPort, dstPort, hport]
  cases metaRouter with
  | none => rw [portRoute, portRoute, defaultRoute_eq hh, defaultRoute_eq hh', hport]
  | some m =>
    simp only [portRoute, constructRoute, constructMetaRoute, constructAction, mirrorPolicy, dstCluster, hdst, hh, hh',
      Go.index_zero_cons, hport]

/-! ## The routes of a service -/

variable {metaRouters : List MetaRouter}

theorem allSet_related (hset : AllSet metaRouters) (store : ConfigStore) (o : Oracle) (host : String) :
    AllSet (CacheMgr.findRelatedMetaRouter ⟨store, metaRouters⟩ o host).toList := fun m hm =>
  hset m (mem_of_findRelatedMetaRouter (Option.mem_toList.mp hm))

/-- The routes of a service, by their names. -/
theorem serviceRoutes_steady (c : CacheMgr) (n : Nat) (se : Config ServiceEntry) :
    c.serviceRoutes (steady n) se = (routeNames se).mapM fun x =>
      portRoute (steady n) { hosts := [x.1] } (c.findRelatedMetaRouter (steady n) x.1)
        (c.findRelatedDestinationRule (steady n) x.1 se.namespace_) ⟨x.2, ""⟩ := by
  unfold routeNames
  cases hh : se.spec.hosts with
  | nil => exact serviceRoutes_nil fun _ => hh
  | cons host hosts =>
    rw [serviceRoutes_eq hh, List.mapM_map]
    exact Go.mapM_congr fun p _ => portRoute_congr_port hh rfl rfl _ _ _

theorem serviceRoutes_names {c : CacheMgr} {n : Nat} {se : Config ServiceEntry}
    {cfgs : List MetaProtocolRouteConfiguration} (h : c.serviceRoutes (steady n) se = .ok cfgs) :
    cfgs.map (·.name) = (routeNames se).map fun x => buildMetaProtocolRouteName x.1 x.2 := by
  rw [serviceRoutes_steady] at h
  refine List.forall₂_eq_eq_eq ▸ List.forall₂_map_left_iff.mpr (List.forall₂_map_right_iff.mpr ?_)
  exact (Go.mapM_ok_forall h).flip.imp fun cfg p hcfg => portRoute_name hcfg rfl

theorem buildMetaProtocolRouteName_injective :
    Function.Injective fun x : String × Nat => buildMetaProtocolRouteName x.1 x.2 := by
  rintro ⟨host, port⟩ ⟨host', port'⟩ h
  obtain ⟨rfl, rfl⟩ := (@Go.append_itoa_inj _ _ "_" '_' _ _ rfl (by decide)).mp h
  rfl

/-! ## Changes of a ServiceEntry -/

theorem generateMetaRoutes_singleton (c : CacheMgr) (o : Oracle) (se : Config ServiceEntry) :
    c.generateMetaRoutes o [se] = c.serviceRoutes o se := by
  rw [generateMetaRoutes, List.mapM_cons, List.mapM_nil]
  cases c.serviceRoutes o se with
  | error p => rfl
  | ok rs => exact congrArg Except.ok (List.append_nil rs)

/-- The routes of a ServiceEntry, if there is one, are named by its hosts and ports. -/
theorem generateMetaRoutes_names {c : CacheMgr} {n : Nat} {se : Option (Config ServiceEntry)}
    {cfgs : List MetaProtocolRouteConfiguration} (h : c.generateMetaRoutes (steady n) se.toList = .ok cfgs) :
    cfgs.map (·.name) = (se.elim [] routeNames).map fun x => buildMetaProtocolRouteName x.1 x.2 := by
  cases se with
  | none =>
    cases h
    rfl
  | some se => exact serviceRoutes_names ((generateMetaRoutes_singleton c _ se).symm.trans h)

/-- Routes of the same names are the same, as long as the object is. -/
theorem generateMetaRoutes_of_names (c : CacheMgr) (n : Nat) {change : Change ServiceEntry} (hobj : change.SameObject)
    (h : change.old.elim [] routeNames = change.new.elim [] routeNames) :
    c.generateMetaRoutes (steady n) change.old.toList = c.generateMetaRoutes (steady n) change.new.toList := by
  have hnil {se : Config ServiceEntry} (h : routeNames se = []) : c.generateMetaRoutes (steady n) [se] = .ok [] := by
    rw [generateMetaRoutes_singleton, serviceRoutes_steady, h]
    rfl
  cases change with
  | add curr => exact (hnil (show routeNames curr = [] from h.symm)).symm
  | delete prev => exact hnil h
  | update prev curr =>
    show c.generateMetaRoutes (steady n) [prev] = c.generateMetaRoutes (steady n) [curr]
    rw [generateMetaRoutes_singleton, generateMetaRoutes_singleton, serviceRoutes_steady, serviceRoutes_steady, hobj.2,
      show routeNames prev = routeNames curr from h]

/-- The routes from other ServiceEntries than those of the store. -/
theorem routes_serviceEntries (store : ConfigStore) (n : Nat) (ses : List (Config ServiceEntry)) :
    CacheMgr.routes ⟨{ store with serviceEntries := ses }, metaRouters⟩ (steady n) =
      CacheMgr.generateMetaRoutes ⟨store, metaRouters⟩ (steady n) ses := by
  rw [CacheMgr.routes, ((inOrder_steady n).at _).list]
  exact generateMetaRoutes_congr fun _ _ => rfl

theorem handled_serviceEntry_iff (hset : AllSet metaRouters) {store : ConfigStore} {l1 l2 : List (Config ServiceEntry)}
    {change : Change ServiceEntry} (hobj : change.SameObject) :
    Handled metaRouters store (.serviceEntry l1 l2 change) ↔ Noticed metaRouters store (.serviceEntry l1 l2 change) := by
  have hconfig (c : CacheMgr) (o : Oracle) : c.configUpdated o (.serviceEntry l1 l2 change) =
      .ok (hasMetaProtocolPort change.curr.spec || change.prev.any fun se => hasMetaProtocolPort se.spec) :=
    updated_ok (fun se => hasMetaProtocolPort se.spec) change
  have hevent := @updated_eq_true _ (fun se : Config ServiceEntry => hasMetaProtocolPort se.spec) change
  have hroutes (n : Nat) (x : Option (Config ServiceEntry)) :
      CacheMgr.routes ⟨{ store with serviceEntries := l1 ++ (x.toList ++ l2) }, metaRouters⟩ (steady n) = do
        let r1 ← CacheMgr.generateMetaRoutes ⟨store, metaRouters⟩ (steady n) l1
        let r ← CacheMgr.generateMetaRoutes ⟨store, metaRouters⟩ (steady n) x.toList
        let r2 ← CacheMgr.generateMetaRoutes ⟨store, metaRouters⟩ (steady n) l2
        return r1 ++ (r ++ r2) := by
    simp only [routes_serviceEntries, generateMetaRoutes_append, bind_assoc, pure_bind]
  have hok (ses : List (Config ServiceEntry)) :
      ∃ r, CacheMgr.generateMetaRoutes ⟨store, metaRouters⟩ (steady 0) ses = .ok r := generateMetaRoutes_ok hset _ ses
  constructor
  · intro h
    obtain ⟨b, hb, hne⟩ := h {}
    cases (hconfig _ _).symm.trans hb
    refine or_iff_not_imp_left.mpr fun hno => ?_
    have heq := not_ne_iff.mp fun hdiff => hno (hevent.mp (hne 0 hdiff))
    change CacheMgr.routes ⟨{ store with serviceEntries := l1 ++ (change.old.toList ++ l2) }, metaRouters⟩ _ =
      CacheMgr.routes ⟨{ store with serviceEntries := l1 ++ (change.new.toList ++ l2) }, metaRouters⟩ _ at heq
    obtain ⟨r1, h1⟩ := hok l1
    obtain ⟨r2, h2⟩ := hok l2
    obtain ⟨before, hbefore⟩ := hok change.old.toList
    obtain ⟨after, hafter⟩ := hok change.new.toList
    rw [hroutes, hroutes, h1, h2, hbefore, hafter] at heq
    have hsame : before = after := List.append_cancel_right (List.append_cancel_left (Except.ok.inj heq))
    refine buildMetaProtocolRouteName_injective.list_map ?_
    rw [← generateMetaRoutes_names hbefore, ← generateMetaRoutes_names hafter, hsame]
  · rintro (hsome | hnames) o
    · exact ⟨_, hconfig _ o, fun _ _ => hevent.mpr hsome⟩
    · refine ⟨_, hconfig _ o, fun n hne => absurd ?_ hne⟩
      exact (hroutes n change.old).trans (generateMetaRoutes_of_names _ n hobj hnames ▸ (hroutes n change.new).symm)

/-! ## Listing orders -/

theorem find?_middle {α : Type} (p : α → Bool) (l1 l2 : List α) (x : Option α) :
    (l1 ++ (x.toList ++ l2)).find? p = (l1.find? p).or ((x.filter p).or (l2.find? p)) := by
  rw [List.find?_append, List.find?_append]
  cases x with
  | none => rfl
  | some a => cases h : p a <;> simp [h, Option.filter]

/-- What is found after rules that do not match is first in some order. -/
theorem find?_mem_firsts {others l1 l2 : List (Config DestinationRule)} {p : Config DestinationRule → Bool}
    (hperm : others.Perm (l1 ++ l2)) (hno : l1.find? p = none) : l2.find? p ∈ firsts (others.filter p) := by
  cases h : l2.find? p with
  | none =>
    have hnil : others.filter p = [] := List.filter_eq_nil_iff.mpr fun dr hdr => by
      rcases List.mem_append.mp (hperm.mem_iff.mp hdr) with hdr | hdr
      · exact List.find?_eq_none.mp hno dr hdr
      · exact List.find?_eq_none.mp h dr hdr
    rw [hnil]
    exact List.mem_singleton_self _
  | some dr =>
    have hmem : dr ∈ others.filter p := List.mem_filter.mpr
      ⟨hperm.mem_iff.mpr (List.mem_append_right _ (List.mem_of_find?_eq_some h)), List.find?_some h⟩
    rw [firsts, if_neg (by simpa using ⟨dr, List.mem_filter.mp hmem⟩)]
    exact List.mem_map_of_mem hmem

/-- Each is found first in some order. -/
theorem exists_first {others : List (Config DestinationRule)} {p : Config DestinationRule → Bool}
    {first : Option (Config DestinationRule)} (h : first ∈ firsts (others.filter p)) :
    ∃ l, others.Perm l ∧ l.find? p = first := by
  unfold firsts at h
  split at h
  · rename_i hnil
    rw [List.mem_singleton.mp h]
    refine ⟨others, .refl _, List.find?_eq_none.mpr ?_⟩
    exact List.filter_eq_nil_iff.mp (List.isEmpty_iff.mp hnil)
  · obtain ⟨dr, hdr, rfl⟩ := List.mem_map.mp h
    obtain ⟨hmem, hp⟩ := List.mem_filter.mp hdr
    obtain ⟨s, t, rfl⟩ := List.append_of_mem hmem
    exact ⟨dr :: (s ++ t), List.perm_middle, List.find?_cons_of_pos hp⟩

/-- An order in which the store may list its objects. -/
theorem exists_list {α : Type} {l l' : List α} (h : l'.Perm l) (s : String) :
    ∃ o : Oracle, (o.at s).list l = l' := by
  obtain ⟨n, hn⟩ := GoMap.exists_shuffle h
  exact ⟨{ listOrder := fun _ => n }, hn⟩

/-! ## Changes of a DestinationRule -/

/-- The rule that is found for a service. -/
theorem findRelatedDestinationRule_middle (store : ConfigStore) (n : Nat) {se : Config ServiceEntry} {host : String}
    (hhost : host ∈ se.spec.hosts.head?) (l1 l2 : List (Config DestinationRule))
    (dr : Option (Config DestinationRule)) :
    CacheMgr.findRelatedDestinationRule ⟨{ store with destinationRules := l1 ++ (dr.toList ++ l2) }, metaRouters⟩
        (steady n) host se.namespace_ =
      (l1.find? (related · se)).or ((dr.filter (related · se)).or (l2.find? (related · se))) := by
  have hrel : (fun dr => isFQDNEquals dr.spec.host dr.namespace_ host se.namespace_) = (related · se) := by
    funext dr
    rw [related, Option.mem_def.mp hhost, Option.any_some]
  rw [findRelatedDestinationRule, ((inOrder_steady n).at _).list, hrel, find?_middle]

theorem routes_of_unseen (hset : AllSet metaRouters) {store store' : ConfigStore}
    {others l1 l2 : List (Config DestinationRule)} {change : Change DestinationRule}
    (hses : store.serviceEntries.Perm store'.serviceEntries) (hothers : others.Perm (l1 ++ l2))
    (h : Unseen metaRouters store others change) (n : Nat) :
    CacheMgr.routes ⟨(StoreChange.destinationRule l1 l2 change).before store', metaRouters⟩ (steady n) =
      CacheMgr.routes ⟨(StoreChange.destinationRule l1 l2 change).after store', metaRouters⟩ (steady n) := by
  rw [CacheMgr.routes, CacheMgr.routes, ((inOrder_steady n).at _).list, ((inOrder_steady n).at _).list]
  refine generateMetaRoutes_congr fun se hse => ?_
  by_cases hm : isMetaProtocolService se.spec = true
  · cases hh : se.spec.hosts with
    | nil => rw [serviceRoutes_nil fun _ => hh, serviceRoutes_nil fun _ => hh]
    | cons host hosts =>
      have hhost : host ∈ se.spec.hosts.head? := by rw [hh]; rfl
      have hfind := @findRelatedDestinationRule_middle metaRouters store' n se host hhost l1 l2
      rw [serviceRoutes_eq hh, serviceRoutes_eq hh]
      refine Go.mapM_congr fun p _ => portRoute_congr_hashPolicies (allSet_related hset _ _ host) ?_ _ (by simp [hh]) p.1
      refine (congrArg (hashPolicies _) (hfind change.old)).trans
        (Eq.trans ?_ (congrArg (hashPolicies _) (hfind change.new)).symm)
      cases hl : l1.find? (related · se) with
      | some dr => rfl
      | none => exact h se (hses.mem_iff.mpr hse) hm host hhost _ (find?_mem_firsts hothers hl)
  · rw [serviceRoutes_nil fun h => absurd h hm, serviceRoutes_nil fun h => absurd h hm]

/-- The routes of a service that is listed first tell hash policies apart. -/
theorem routes_ne (hset : AllSet metaRouters) {store : ConfigStore} {se : Config ServiceEntry}
    {ses : List (Config ServiceEntry)} {rules rules' : List (Config DestinationRule)} {host : String}
    (hm : isMetaProtocolService se.spec = true) (hhost : host ∈ se.spec.hosts.head?)
    (hne : hashPolicies (CacheMgr.findRelatedMetaRouter ⟨store, metaRouters⟩ {} host)
        (CacheMgr.findRelatedDestinationRule ⟨{ store with destinationRules := rules }, metaRouters⟩ (steady 0) host
          se.namespace_) ≠
      hashPolicies (CacheMgr.findRelatedMetaRouter ⟨store, metaRouters⟩ {} host)
        (CacheMgr.findRelatedDestinationRule ⟨{ store with destinationRules := rules' }, metaRouters⟩ (steady 0) host
          se.namespace_)) :
    CacheMgr.generateMetaRoutes ⟨{ store with destinationRules := rules }, metaRouters⟩ (steady 0) (se :: ses) ≠
      CacheMgr.generateMetaRoutes ⟨{ store with destinationRules := rules' }, metaRouters⟩ (steady 0) (se :: ses) := by
  intro heq
  obtain ⟨hosts, hh⟩ := List.head?_eq_some_iff.mp hhost
  have hok (rules : List (Config DestinationRule)) : ∃ r r2,
      CacheMgr.serviceRoutes ⟨{ store with destinationRules := rules }, metaRouters⟩ (steady 0) se = .ok r ∧
      CacheMgr.generateMetaRoutes ⟨{ store with destinationRules := rules }, metaRouters⟩ (steady 0) (se :: ses) =
        .ok (r ++ r2) := by
    obtain ⟨r, hr⟩ := @generateMetaRoutes_ok ⟨{ store with destinationRules := rules }, metaRouters⟩ hset (steady 0) [se]
    obtain ⟨r2, hr2⟩ := @generateMetaRoutes_ok ⟨{ store with destinationRules := rules }, metaRouters⟩ hset (steady 0) ses
    refine ⟨r, r2, (generateMetaRoutes_singleton _ _ se).symm.trans hr, ?_⟩
    rw [← List.singleton_append, generateMetaRoutes_append, hr, hr2]
    rfl
  obtain ⟨r, r2, hr, hroutes⟩ := hok rules
  obtain ⟨r', r2', hr', hroutes'⟩ := hok rules'
  have hlen : r.length = r'.length := by
    have := (serviceRoutes_names hr).trans (serviceRoutes_names hr').symm
    simpa using congrArg List.length this
  obtain rfl : r = r' := List.append_inj_left (Except.ok.inj (hroutes.symm.trans (heq.trans hroutes'))) hlen
  rw [serviceRoutes_eq hh] at hr hr'
  obtain ⟨p, hp⟩ : ∃ p, p ∈ metaPorts se.spec := by
    obtain ⟨port, hport, hp⟩ := List.any_eq_true.mp hm
    obtain ⟨i, hi⟩ := List.mem_iff_getElem?.mp hport
    exact ⟨(port, i), List.mem_filter.mpr ⟨List.mk_mem_zipIdx_iff_getElem?.mpr hi, hp⟩⟩
  obtain ⟨p, ps, hps⟩ := List.exists_cons_of_ne_nil (List.ne_nil_of_mem hp)
  have hf := Go.mapM_ok_forall hr
  have hf' := Go.mapM_ok_forall hr'
  rw [hps] at hf hf'
  cases hf with
  | cons hcfg _ =>
    cases hf' with
    | cons hcfg' _ =>
      have hhosts : se.spec.hosts ≠ [] := by simp [hh]
      exact hne ((portRoute_hashPolicies (allSet_related hset store {} host) hhosts hcfg).symm.trans
        (portRoute_hashPolicies (allSet_related hset store {} host) hhosts hcfg'))

theorem Alarms.alarm {ses ses' : List (Config ServiceEntry)} {dr : Config DestinationRule} (h : Alarms ses dr)
    (hperm : ses'.Perm ses) : alarm ses' dr = true := by
  obtain ⟨⟨se, hse, hrel⟩, hall⟩ := h
  obtain ⟨first, hfirst⟩ : ∃ first, ses'.find? (related dr) = some first :=
    Option.isSome_iff_exists.mp (List.find?_isSome.mpr ⟨se, hperm.mem_iff.mpr hse, hrel⟩)
  rw [Xds.alarm, hfirst, Option.any_some]
  exact hall first (hperm.mem_iff.mp (List.mem_of_find?_eq_some hfirst)) (by simpa using List.find?_some hfirst)

/-- `ConfigUpdated` does not take the ServiceEntry for a MetaProtocol service. -/
def overlooked (se : Config ServiceEntry) : Bool := !hasMetaProtocolPort se.spec

/-- The ServiceEntries with the overlooked ones first. -/
def overlookedFirst (ses : List (Config ServiceEntry)) : List (Config ServiceEntry) :=
  ses.filter overlooked ++ ses.filter (!overlooked ·)

theorem overlookedFirst_perm (ses : List (Config ServiceEntry)) : (overlookedFirst ses).Perm ses :=
  List.filter_append_perm _ ses

/-- In that order only rules that always do send an event. -/
theorem alarm_overlookedFirst {ses : List (Config ServiceEntry)} {dr : Config DestinationRule} (h : ¬Alarms ses dr) :
    alarm (overlookedFirst ses) dr = false := by
  rw [alarm, overlookedFirst, List.find?_append]
  cases hfirst : (ses.filter overlooked).find? (related dr) with
  | some first => simpa [overlooked] using (List.mem_filter.mp (List.mem_of_find?_eq_some hfirst)).2
  | none =>
    -- no overlooked ServiceEntry is the rule's, so none at all is
    have hno : ∀ se ∈ ses, related dr se = false := by
      by_contra hsome
      simp only [not_forall, Bool.not_eq_false] at hsome
      obtain ⟨se, hse, hrel⟩ := hsome
      refine h ⟨⟨se, hse, hrel⟩, fun se hse hrel => ?_⟩
      by_contra hp
      exact List.find?_eq_none.mp hfirst se (List.mem_filter.mpr ⟨hse, by simpa [overlooked] using hp⟩) hrel
    rw [Option.none_or, List.find?_eq_none.mpr fun se hse => by simp [hno se (List.mem_of_mem_filter hse)]]
    rfl

theorem handled_destinationRule_iff (hset : AllSet metaRouters) {store : ConfigStore}
    {l1 l2 : List (Config DestinationRule)} {change : Change DestinationRule} :
    (∀ store' change', Reordered store (.destinationRule l1 l2 change) store' change' →
        Handled metaRouters store' change') ↔
      Noticed metaRouters store (.destinationRule l1 l2 change) := by
  constructor
  · intro h
    -- a ServiceEntry without hosts is reached first in some order
    have hhosts : ∀ se ∈ store.serviceEntries, se.spec.hosts ≠ [] := by
      intro se hse hh
      obtain ⟨s, t, hst⟩ := List.append_of_mem hse
      obtain ⟨o, ho⟩ := exists_list (hst ▸ List.perm_middle.symm : (se :: (s ++ t)).Perm store.serviceEntries)
        "ServiceEntries"
      obtain ⟨b, hb, -⟩ := h _ _ (.destinationRule (.refl _) (.refl _)) o
      obtain ⟨b', hb', -⟩ := Go.bind_eq_ok.mp hb
      obtain ⟨x, hx, -⟩ := Go.bind_eq_ok.mp hb'
      change findRelatedServiceEntry _ ((o.at "ServiceEntries").list store.serviceEntries) = .ok x at hx
      rw [ho, findRelatedServiceEntry, hh] at hx
      cases hx
    refine ⟨hhosts, or_iff_not_imp_left.mpr fun hno => ?_⟩
    by_contra hseen
    simp only [Unseen, not_forall] at hseen
    obtain ⟨se, hse, hm, host, hhost, first, hfirst, hne⟩ := hseen
    obtain ⟨rules, hrules, hfind⟩ := exists_first hfirst
    obtain ⟨s, t, hst⟩ := List.append_of_mem hse
    have hses : store.serviceEntries.Perm (se :: (s ++ t)) := hst ▸ List.perm_middle
    -- the rule that changes is listed first, and so is the service that sees it
    obtain ⟨o, ho⟩ := exists_list ((overlookedFirst_perm store.serviceEntries).trans hses) "ServiceEntries"
    obtain ⟨b, hb, hb'⟩ := h { store with serviceEntries := se :: (s ++ t) } (.destinationRule [] rules change)
      (.destinationRule hses hrules) o
    cases (configUpdated_destinationRule_eq (fun se hse => hhosts se (hses.mem_iff.mpr hse)) o _ _ _).symm.trans hb
    have htrue := hb' 0 ?_
    · obtain ⟨dr, hdr, halarm⟩ := updated_eq_true.mp htrue
      change alarm ((o.at "ServiceEntries").list (se :: (s ++ t))) dr = true at halarm
      rw [ho, alarm_overlookedFirst fun hdr' => hno ⟨dr, hdr, hdr'⟩] at halarm
      cases halarm
    · have hpolicies (x : Option (Config DestinationRule)) :=
        (@findRelatedDestinationRule_middle metaRouters { store with serviceEntries := se :: (s ++ t) } 0 se host hhost []
          rules x).trans (by rw [List.find?_nil, Option.none_or, hfind])
      refine routes_ne hset hm hhost ?_
      rw [hpolicies change.old, hpolicies change.new]
      exact hne
  · rintro ⟨hhosts, hor⟩ store' change' hre
    cases hre with
    | destinationRule hses hothers =>
      intro o
      refine ⟨_, configUpdated_destinationRule_eq (fun se hse => hhosts se (hses.mem_iff.mpr hse)) o _ _ _, ?_⟩
      intro n hne
      rcases hor with ⟨dr, hdr, halarms⟩ | hunseen
      · exact updated_eq_true.mpr ⟨dr, hdr, halarms.alarm ((GoMap.shuffle_perm _ _).trans hses.symm)⟩
      · exact absurd (routes_of_unseen hset hses hothers hunseen n) hne

/-! ## All changes -/

/-- A change that no route depends on. -/
theorem handled_of_unread {store : ConfigStore} {change : StoreChange}
    (hconfig : ∀ o, CacheMgr.configUpdated ⟨change.after store, metaRouters⟩ o change = .ok false)
    (hroutes : ∀ n, CacheMgr.routes ⟨change.before store, metaRouters⟩ (steady n) =
      CacheMgr.routes ⟨change.after store, metaRouters⟩ (steady n)) : Handled metaRouters store change := fun o =>
  ⟨false, hconfig o, fun n hne => absurd (hroutes n) hne⟩

/-- If the MetaRouters are set, a change is handled, however the objects are listed, if
and only if it is noticed. -/
theorem handled_iff (hset : AllSet metaRouters) (store : ConfigStore) (change : StoreChange)
    (hobj : change.SameObject) :
    (∀ store' change', Reordered store change store' change' → Handled metaRouters store' change') ↔
      Noticed metaRouters store change := by
  have hno {σ : Type} (change : Change σ) : updated (fun _ => return false) change = .ok false := by
    refine (updated_ok (fun _ => false) change).trans (congrArg _ ?_)
    cases change <;> rfl
  cases change with
  | serviceEntry l1 l2 change =>
    constructor
    · exact fun h => (handled_serviceEntry_iff hset hobj).mp (h _ _ (.serviceEntry (.refl _) (.refl _)))
    · intro h store' change' hre
      cases hre with
      | serviceEntry => exact (handled_serviceEntry_iff hset hobj).mpr h
  | destinationRule l1 l2 change => exact handled_destinationRule_iff hset
  | virtualService l1 l2 change =>
    refine ⟨fun _ => trivial, fun _ store' change' hre => ?_⟩
    cases hre
    exact handled_of_unread (fun _ => hno change) fun n => generateMetaRoutes_congr fun _ _ => rfl
  | gateway l1 l2 change =>
    refine ⟨fun _ => trivial, fun _ store' change' hre => ?_⟩
    cases hre
    exact handled_of_unread (fun _ => hno change) fun n => generateMetaRoutes_congr fun _ _ => rfl

/-- A MetaProtocol service, by the name of its port. -/
def spelled (port : String) : Config ServiceEntry :=
  { name := "demo", namespace_ := "ns"
    spec := { hosts := ["demo.ns"], ports := [⟨20880, port⟩] } }

/-- An update that corrects the spelling of the port. -/
def respelled : StoreChange :=
  .serviceEntry [] [] (.update (spelled "tcp-MetaProtocol-dubbo") (spelled "tcp-metaprotocol-dubbo"))

/-- It is handled. -/
theorem respelled_handled : Handled [] {} respelled := by
  have hset : AllSet [] := fun m hm => by cases hm
  have hobj : respelled.SameObject := ⟨rfl, rfl⟩
  have hnoticed : Noticed [] {} respelled := .inl ⟨spelled "tcp-metaprotocol-dubbo", .inr rfl, by decide⟩
  exact (handled_iff hset {} respelled hobj).mpr hnoticed _ _ (.serviceEntry (.refl _) (.refl _))

/-- The addition of a service whose port name is not spelled as `ConfigUpdated` expects
is missed; and the addition of a DestinationRule to a store with a ServiceEntry without
hosts panics. -/
theorem spelled_not_handled :
    ¬Handled [] {} (.serviceEntry [] [] (.add (spelled "tcp-MetaProtocol-dubbo"))) ∧
    CacheMgr.configUpdated ⟨{ serviceEntries := [{ name := "demo", namespace_ := "ns", spec := { hosts := [] } }] }, []⟩
      {} (.destinationRule [] [] (.add { name := "dr", namespace_ := "ns", spec := { host := "demo" } })) =
        .error .indexOutOfRange := by
  refine ⟨fun h => ?_, rfl⟩
  obtain ⟨b, hb, hb'⟩ := h {}
  have hfalse : b = false := Except.ok.inj (hb.symm.trans (by decide +kernel))
  have htrue : b = true := hb' 0 fun h => absurd (congrArg (fun r => r.toOption.map List.length) h) (by decide +kernel)
  exact Bool.false_ne_true (hfalse.symm.trans htrue)

end Aeraki.Proof.Xds
