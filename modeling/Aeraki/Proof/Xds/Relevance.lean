import Aeraki.Impl.Xds.CacheMgr

/-!
# What the routes of RDS depend on

`generateMetaRoutes` goes through the ServiceEntries one by one, and looks for the
MetaProtocol ports, the MetaRouter and the DestinationRule of each. `ConfigUpdated`
looks for a literal port name, and for a DestinationRule at the first ServiceEntry of
its host that is listed (`shouldUpdateDestinationRule_eq`).
-/

namespace Aeraki.Proof.Xds

open Aeraki.Impl Aeraki.Impl.Istio Aeraki.Impl.Xds Aeraki.Impl.Xds.CacheMgr
open Go (Comp)

/-! ## What the routes depend on -/

theorem generateMetaRoutes_congr {c c' : CacheMgr} {o : Oracle} {ses : List (Config ServiceEntry)}
    (h : ∀ se ∈ ses, c.serviceRoutes o se = c'.serviceRoutes o se) :
    c.generateMetaRoutes o ses = c'.generateMetaRoutes o ses := by
  rw [generateMetaRoutes, generateMetaRoutes, Go.mapM_congr h]

theorem generateMetaRoutes_append (c : CacheMgr) (o : Oracle) (l1 l2 : List (Config ServiceEntry)) :
    c.generateMetaRoutes o (l1 ++ l2) = (do
      let r1 ← c.generateMetaRoutes o l1
      let r2 ← c.generateMetaRoutes o l2
      return r1 ++ r2) := by
  simp only [generateMetaRoutes, List.mapM_append, bind_assoc, pure_bind, List.flatten_append]

/-- A ServiceEntry without routes might as well not be there. -/
theorem generateMetaRoutes_skip {c : CacheMgr} {o : Oracle} {x : Option (Config ServiceEntry)}
    (h : ∀ se, x = some se → c.serviceRoutes o se = .ok []) (l1 l2 : List (Config ServiceEntry)) :
    c.generateMetaRoutes o (l1 ++ (x.toList ++ l2)) = c.generateMetaRoutes o (l1 ++ l2) := by
  have hx : c.generateMetaRoutes o (x.toList ++ l2) = c.generateMetaRoutes o l2 := by
    cases x with
    | none => rfl
    | some se =>
      rw [Option.toList_some, List.singleton_append, generateMetaRoutes, List.mapM_cons, h se rfl]
      cases hl : l2.mapM (c.serviceRoutes o) <;> simp only [generateMetaRoutes, hl] <;> rfl
  rw [generateMetaRoutes_append, hx, ← generateMetaRoutes_append]

/-- A ServiceEntry without a MetaProtocol port or without a host has none. -/
theorem serviceRoutes_nil {c : CacheMgr} {o : Oracle} {se : Config ServiceEntry}
    (h : isMetaProtocolService se.spec = true → se.spec.hosts = []) : c.serviceRoutes o se = .ok [] := by
  unfold serviceRoutes
  dsimp only
  split
  · rfl
  · split
    · rfl
    · rename_i hm
      rw [h (by simpa using hm)]
      rfl

theorem serviceRoutes_congr {c c' : CacheMgr} {o : Oracle} {se : Config ServiceEntry}
    (hrouters : c.metaRouters = c'.metaRouters)
    (h : isMetaProtocolService se.spec = true → ∀ host ∈ se.spec.hosts.head?,
      c.findRelatedDestinationRule (o.at se.key) host se.namespace_ =
        c'.findRelatedDestinationRule (o.at se.key) host se.namespace_) :
    c.serviceRoutes o se = c'.serviceRoutes o se := by
  have hm : c.findRelatedMetaRouter = c'.findRelatedMetaRouter := by
    funext o host
    rw [findRelatedMetaRouter, findRelatedMetaRouter, hrouters]
  unfold serviceRoutes
  dsimp only
  split
  · rfl
  · split
    · rfl
    · rename_i hmeta
      cases hh : se.spec.hosts with
      | nil => rfl
      | cons host hosts =>
        dsimp only
        rw [hm, h (by simpa using hmeta) host (by rw [hh]; rfl)]

/-! ## What `ConfigUpdated` looks at -/

/-- The DestinationRule is of the ServiceEntry's first host. -/
def related (dr : Config DestinationRule) (se : Config ServiceEntry) : Bool :=
  se.spec.hosts.head?.any fun host => isFQDNEquals dr.spec.host dr.namespace_ host se.namespace_

theorem related_iff {dr : Config DestinationRule} {se : Config ServiceEntry} : related dr se = true ↔
    ∃ host ∈ se.spec.hosts.head?, isFQDNEquals dr.spec.host dr.namespace_ host se.namespace_ = true := by
  rw [related]
  cases se.spec.hosts.head? <;> simp

/-- The search returns the first ServiceEntry of the DestinationRule. -/
theorem findRelatedServiceEntry_eq {dr : Config DestinationRule} : ∀ {ses : List (Config ServiceEntry)},
    (∀ se ∈ ses, se.spec.hosts ≠ []) → findRelatedServiceEntry dr ses = .ok (ses.find? (related dr))
  | [], _ => rfl
  | se :: ses, h => by
    obtain ⟨host, hosts, hh⟩ := List.exists_cons_of_ne_nil (h se List.mem_cons_self)
    have hrel : related dr se = isFQDNEquals dr.spec.host dr.namespace_ host se.namespace_ := by simp [related, hh]
    rw [findRelatedServiceEntry, hh, Go.index_zero_cons, List.find?_cons, hrel]
    show (if _ then _ else _) = _
    cases isFQDNEquals dr.spec.host dr.namespace_ host se.namespace_ with
    | true => rfl
    | false => exact findRelatedServiceEntry_eq fun se' hse' => h se' (List.mem_cons_of_mem _ hse')

/-- `ConfigUpdated` sends an event if one of its checks says so. -/
theorem updated_ok {σ : Type} (f : Config σ → Bool) (change : Change σ) :
    updated (fun x => .ok (f x)) change = .ok (f change.curr || change.prev.any f) := by
  unfold updated
  cases hcurr : f change.curr with
  | true => simp [bind, Except.bind, hcurr, pure, Except.pure]
  | false => cases change.prev <;> simp [bind, Except.bind, hcurr, pure, Except.pure]

theorem updated_eq_true {σ : Type} {f : Config σ → Bool} {change : Change σ} :
    (f change.curr || change.prev.any f) = true ↔ ∃ x, change.Involves x ∧ f x = true := by
  cases change <;> simp [Change.curr, Change.prev, Change.Involves, Change.old, Change.new, or_comm]

/-- Whether `ConfigUpdated` sends an event for a rule, by the order of the
ServiceEntries. -/
def alarm (ses : List (Config ServiceEntry)) (dr : Config DestinationRule) : Bool :=
  (ses.find? (related dr)).any fun se => hasMetaProtocolPort se.spec

theorem shouldUpdateDestinationRule_eq {c : CacheMgr} {o : Oracle} {dr : Config DestinationRule}
    (h : ∀ se ∈ c.store.serviceEntries, se.spec.hosts ≠ []) :
    c.shouldUpdateDestinationRule o dr = .ok (alarm ((o.at "ServiceEntries").list c.store.serviceEntries) dr) := by
  have hhosts : ∀ se ∈ (o.at "ServiceEntries").list c.store.serviceEntries, se.spec.hosts ≠ [] := fun se hse =>
    h se ((GoMap.shuffle_perm _ _).mem_iff.mp hse)
  rw [shouldUpdateDestinationRule, findRelatedServiceEntry_eq hhosts, alarm]
  cases ((o.at "ServiceEntries").list c.store.serviceEntries).find? (related dr) <;> rfl

theorem configUpdated_destinationRule_eq {c : CacheMgr} (h : ∀ se ∈ c.store.serviceEntries, se.spec.hosts ≠ [])
    (o : Oracle) (l1 l2 : List (Config DestinationRule)) (change : Change DestinationRule) :
    c.configUpdated o (.destinationRule l1 l2 change) =
      .ok (alarm ((o.at "ServiceEntries").list c.store.serviceEntries) change.curr ||
        change.prev.any (alarm ((o.at "ServiceEntries").list c.store.serviceEntries))) := by
  have hshould : c.shouldUpdateDestinationRule o =
      fun dr => .ok (alarm ((o.at "ServiceEntries").list c.store.serviceEntries) dr) :=
    funext fun dr => shouldUpdateDestinationRule_eq h
  rw [configUpdated, hshould, updated_ok]

theorem mem_of_findRelatedMetaRouter {c : CacheMgr} {o : Oracle} {host : String} {metaRouter : MetaRouter}
    (h : c.findRelatedMetaRouter o host = some metaRouter) : metaRouter ∈ c.metaRouters := by
  unfold CacheMgr.findRelatedMetaRouter at h
  split at h
  · cases h
  · split at h
    · rename_i found hfound
      split at h
      · cases h
      · exact Option.some.inj h ▸ List.mem_of_find?_eq_some hfound
    · cases h

/-! ## Changes of a DestinationRule -/

theorem findRelatedDestinationRule_skip {metaRouters : List MetaRouter} {o : Oracle} {store : ConfigStore}
    {host ns : String} {l1 l2 : List (Config DestinationRule)} {x : Option (Config DestinationRule)} (ho : InOrder o)
    (h : ∀ dr, x = some dr → isFQDNEquals dr.spec.host dr.namespace_ host ns = false) :
    CacheMgr.findRelatedDestinationRule ⟨{ store with destinationRules := l1 ++ (x.toList ++ l2) }, metaRouters⟩
        o host ns =
      CacheMgr.findRelatedDestinationRule ⟨{ store with destinationRules := l1 ++ l2 }, metaRouters⟩ o host ns := by
  simp only [findRelatedDestinationRule, (ho.at _).list, List.find?_append]
  cases x with
  | none => rfl
  | some dr => simp [h dr rfl]

/-- A rule that is of no MetaProtocol service does not matter. -/
theorem routes_of_unrelated {metaRouters : List MetaRouter} {o : Oracle} {store : ConfigStore}
    {l1 l2 : List (Config DestinationRule)} {change : Change DestinationRule} (ho : InOrder o)
    (h : ∀ dr, change.Involves dr → ∀ se ∈ store.serviceEntries, isMetaProtocolService se.spec = true →
      related dr se = false) :
    CacheMgr.routes ⟨(StoreChange.destinationRule l1 l2 change).before store, metaRouters⟩ o =
      CacheMgr.routes ⟨(StoreChange.destinationRule l1 l2 change).after store, metaRouters⟩ o := by
  have hskip : ∀ se ∈ store.serviceEntries, isMetaProtocolService se.spec = true → ∀ host ∈ se.spec.hosts.head?,
      ∀ dr, change.Involves dr → isFQDNEquals dr.spec.host dr.namespace_ host se.namespace_ = false := by
    intro se hse hm host hhost dr hdr
    by_contra hrel
    have hrel : related dr se = true := related_iff.mpr ⟨host, hhost, by simpa using hrel⟩
    rw [h dr hdr se hse hm] at hrel
    cases hrel
  show CacheMgr.generateMetaRoutes _ o _ = CacheMgr.generateMetaRoutes _ o _
  rw [(ho.at _).list, (ho.at _).list]
  refine generateMetaRoutes_congr fun se hse => serviceRoutes_congr rfl fun hm host hhost => ?_
  exact (findRelatedDestinationRule_skip (ho.at _) fun dr hdr => hskip se hse hm host hhost dr (.inl hdr)).trans
    (findRelatedDestinationRule_skip (ho.at _) fun dr hdr => hskip se hse hm host hhost dr (.inr hdr)).symm

/-- The default route of a service with a host. -/
theorem defaultRoute_ok {service : ServiceEntry} {host : String} {hosts : List String} (h : service.hosts = host :: hosts)
    (port : ServicePort) (dr : Option (Config DestinationRule)) : ∃ r, defaultRoute service port dr = .ok r := by
  simp only [defaultRoute, h, Go.index_zero_cons, bind, Except.bind, pure, Except.pure, Except.ok.injEq, exists_eq']

end Aeraki.Proof.Xds
