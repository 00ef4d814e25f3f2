import Aeraki.Proof.Bootstrap.Routes
import Aeraki.Proof.EnvoyFilter.NoPanic
import Aeraki.Proof.Xds.Routing

/-!
# Neither control plane crashes

A panic in a handler or in the callback of a main loop ends the process. While users
keep the inputs well-formed there is none, along every run, and without further
changes both control planes come to rest: that of the EnvoyFilters
(`filters_never_crash`), and that of the routes (`routes_never_crash`), whose updates
set as many snapshots as there are nodes, so that its measure is a pair.
-/

namespace Aeraki.Proof.Bootstrap

open Aeraki.Impl Aeraki.Impl.Bootstrap Aeraki.Impl.Istio Aeraki.Impl.Xds
open Aeraki.Impl.Bootstrap.RoutePlane
open Aeraki.Proof.EnvoyFilter Aeraki.Proof.Xds
open Aeraki.Proof.Webhook (Accepts)
open Go (Returns returns_bind returns_bind_iff returns_pure returns_mapM returns_index_zero)

/-- The changes that users make keep `P`. -/
def Keeps (users : Inputs → InputChange → Prop) (P : Inputs → Prop) : Prop :=
  ∀ i c, P i → c.Applies i → users i c → P (c.after i)

theorem Keeps.none (P : Inputs → Prop) : Keeps (fun _ _ => False) P := fun _ _ _ _ hno => hno.elim

/-! ## EnvoyFilters -/

section

variable {d : Deployment} {users : Inputs → InputChange → Prop} {s t : ControlPlane}

/-- The generators find what they read in the inputs. -/
def FiltersWellFormed (d : Deployment) (i : Inputs) : Prop := WellFormed (i.deployment d) i.store

/-- The inputs are well-formed, and there has been no panic. -/
structure Sound (d : Deployment) (s : ControlPlane) : Prop where
  push : PushInv d s
  wellFormed : FiltersWellFormed d s.inputs
  running : s.phase ≠ .crashed

theorem Sound.step (hk : Keeps users (FiltersWellFormed d)) (h : Sound d s) (hst : ControlPlane.Step d users s t) :
    Sound d t := by
  refine ⟨h.push.step hst, ?_, ?_⟩
  · cases hst with
    | change c happ hc => exact hk _ c h.wellFormed happ hc
    | _ => exact h.wellFormed
  · cases hst with
    | change => exact h.running
    | handle => exact h.running
    | merge => exact h.running
    | panic o _ hpanic =>
      obtain ⟨r, hr⟩ := returns_generateEnvoyFilters h.wellFormed o s.cluster.virtualServices
      cases hr.symm.trans hpanic
    | _ => exact fun hcrashed => nomatch hcrashed

theorem wellFormed_empty : FiltersWellFormed {} {} where
  accepted _ h := nomatch h
  timeouts _ h := nomatch h
  routed _ h := nomatch h
  ports _ h := nomatch h
  servers _ h := nomatch h
  tracing h := nomatch h
  policies _ _ := ⟨(fun _ h => nomatch h), (fun _ h => nomatch h)⟩
  redisServices _ h := nomatch h
  redisDestinations _ h := nomatch h

theorem wellFormed_addZookeeper : FiltersWellFormed {} (addZookeeper.after {}) :=
  { wellFormed_empty with
    ports := fun se hse port hport => by
      cases List.mem_singleton.mp hse
      cases List.mem_singleton.mp hport
      exact fun h => absurd h (by decide +kernel) }

end

/-! ## Routes -/

section

variable {i : Inputs}

/-- The handlers and the cache manager find what they read in the inputs. -/
structure RoutesWellFormed (i : Inputs) : Prop where
  hosts : ∀ se ∈ i.store.serviceEntries, se.spec.hosts ≠ []
  accepted : ∀ m ∈ i.metaRouters, ∃ lib o, Accepts lib o m.object

/-- Routes that have a match become HTTP routes. -/
def HaveMatch (r : MetaProtocolRouteConfiguration) : Prop := ∀ route ∈ r.routes, route.match_ ≠ none

theorem returns_metaProtocolRoute2HttpRoute {r : MetaProtocolRouteConfiguration} (h : HaveMatch r) :
    Returns (metaProtocolRoute2HttpRoute r) := by
  refine (returns_bind_iff fun _ => returns_pure _).mpr (returns_mapM.mpr fun route hroute => ?_)
  obtain ⟨m, hm⟩ := Option.ne_none_iff_exists'.mp (h route hroute)
  refine returns_bind.mpr ⟨⟨"/", m.metadata⟩, ?_, returns_pure _⟩
  rw [httpRouteMatch, hm]
  rfl

theorem defaultRoute_haveMatch {service : ServiceEntry} (hhosts : service.hosts ≠ []) (port : ServicePort)
    (dr : Option (Config DestinationRule)) : ∃ r, defaultRoute service port dr = .ok r ∧ HaveMatch r := by
  obtain ⟨host, hhost⟩ := returns_index_zero.mpr hhosts
  refine ⟨_, Go.bind_eq_ok.mpr ⟨host, hhost, rfl⟩, fun route hroute => ?_⟩
  cases List.mem_singleton.mp hroute
  exact Option.some_ne_none _

theorem constructRoute_haveMatch {metaRouter : MetaRouter} (h : ∃ lib o, Accepts lib o metaRouter) (o : Oracle)
    {service : ServiceEntry} (hhosts : service.hosts ≠ []) (port : ServicePort) (dr : Option (Config DestinationRule)) :
    ∃ r, constructRoute o service port metaRouter dr = .ok r ∧ HaveMatch r := by
  obtain ⟨lib, o', haccepts⟩ := h
  obtain ⟨cfg, hcfg⟩ := accepted_constructRoute_ok haccepts o port dr hhosts
  refine ⟨cfg, hcfg, fun route hroute => ?_⟩
  obtain ⟨r, -, o, mr, dsts, request, response, -, hset, -, -, hmr⟩ :=
    Go.exists_of_forall₂_right (accepted_constructRoute_routes haccepts hcfg) hroute
  rw [constructMetaRoute_set hset port dr o] at hmr
  cases hmr
  exact Option.some_ne_none _

theorem portRoute_haveMatch {metaRouter : Option MetaRouter} (h : ∀ m ∈ metaRouter, ∃ lib o, Accepts lib o m)
    (o : Oracle) {service : ServiceEntry} (hhosts : service.hosts ≠ []) (dr : Option (Config DestinationRule))
    (port : ServicePort) : ∃ r, CacheMgr.portRoute o service metaRouter dr port = .ok r ∧ HaveMatch r := by
  cases metaRouter with
  | none => exact defaultRoute_haveMatch hhosts port dr
  | some m => exact constructRoute_haveMatch (h m rfl) o hhosts port dr

theorem serviceRoutes_haveMatch (h : RoutesWellFormed i) (o : Oracle) (se : Config ServiceEntry) :
    ∃ rs, i.cacheMgr.serviceRoutes o se = .ok rs ∧ ∀ r ∈ rs, HaveMatch r := by
  have hnone : ∃ rs, (pure [] : Go.Comp (List MetaProtocolRouteConfiguration)) = .ok rs ∧ ∀ r ∈ rs, HaveMatch r :=
    ⟨[], rfl, fun _ hr => nomatch hr⟩
  unfold CacheMgr.serviceRoutes
  dsimp only
  split
  · exact hnone
  · split
    · exact hnone
    · split
      · exact hnone
      · rename_i host hosts hhosts
        refine Go.mapM_ok_all fun p _ => portRoute_haveMatch (fun m hm => ?_) _ (hhosts ▸ List.cons_ne_nil _ _) _ _
        obtain ⟨crd, hcrd, rfl⟩ := List.mem_map.mp (mem_of_findRelatedMetaRouter hm)
        exact h.accepted crd hcrd

theorem routes_haveMatch (h : RoutesWellFormed i) (o : Oracle) :
    ∃ rs, i.cacheMgr.routes o = .ok rs ∧ ∀ r ∈ rs, HaveMatch r := by
  obtain ⟨rss, hrss, hall⟩ := Go.mapM_ok_all fun se
    (_ : se ∈ (o.at "ServiceEntries").list i.cacheMgr.store.serviceEntries) => serviceRoutes_haveMatch h o se
  refine ⟨rss.flatten, Go.bind_eq_ok.mpr ⟨rss, hrss, rfl⟩, fun r hr => ?_⟩
  obtain ⟨rs, hrs, hr⟩ := List.mem_flatten.mp hr
  exact hall rs hrs r hr

theorem returns_snapshot (h : RoutesWellFormed i) (o : Oracle) (now : Nat) : Returns (i.snapshot o now) := by
  obtain ⟨rs, hrs, hall⟩ := routes_haveMatch h o
  refine returns_bind.mpr ⟨rs, hrs, (returns_bind_iff fun _ => ?_).mpr ?_⟩
  · split
    · exact returns_pure _
    · exact returns_pure _
  · exact returns_mapM.mpr fun r hr => returns_metaProtocolRoute2HttpRoute (hall r hr)

theorem returns_updated {σ : Type} {shouldUpdateCache : Config σ → Go.Comp Bool}
    (h : ∀ config, Returns (shouldUpdateCache config)) (change : Change σ) :
    Returns (CacheMgr.updated shouldUpdateCache change) := by
  obtain ⟨b, hb⟩ := h change.curr
  refine returns_bind.mpr ⟨b, hb, ?_⟩
  split
  · exact returns_pure _
  · split
    · exact h _
    · exact returns_pure _

theorem returns_shouldUpdateDestinationRule (h : RoutesWellFormed i) (o : Oracle) (dr : Config DestinationRule) :
    Returns (i.cacheMgr.shouldUpdateDestinationRule o dr) := by
  refine returns_bind.mpr ⟨_, findRelatedServiceEntry_eq fun se hse => ?_, ?_⟩
  · exact h.hosts se (mem_list.mp hse)
  · split
    · exact returns_pure _
    · exact returns_pure _

theorem returns_updatesRoutes (h : RoutesWellFormed i) (o : Oracle) (e : InputEvent) :
    Returns (updatesRoutes i o e) := by
  cases e with
  | request kind passed => exact returns_pure _
  | config change =>
    dsimp only [updatesRoutes]
    split
    · cases change with
      | serviceEntry l1 l2 change =>
        exact @returns_updated _ CacheMgr.shouldUpdateServiceEntry (fun _ => returns_pure _) change
      | destinationRule l1 l2 change => exact returns_updated (returns_shouldUpdateDestinationRule h o) change
      | virtualService l1 l2 change => exact returns_updated (fun _ => returns_pure _) change
      | gateway l1 l2 change => exact returns_updated (fun _ => returns_pure _) change
    · exact returns_pure _

end

/-! ### Runs -/

section

variable {C : SnapshotCache Snapshot} {env : Environment C} {s t : RoutePlane C}

/-- The inputs are well-formed, and there has been no panic. -/
structure RoutesSound (s : RoutePlane C) : Prop where
  taken : s.taken ≤ s.rds.pushChannel
  wellFormed : RoutesWellFormed s.inputs
  running : s.crashed = false

theorem le_updateFailed (r : RdsState C) : r.pushChannel ≤ r.updateFailed.pushChannel := by
  rcases (updateFailed_push r).2 with hpush | hpush
  · exact hpush.ge
  · exact hpush ▸ Nat.le_succ _

theorem RoutesSound.step (hk : Keeps env.users RoutesWellFormed) (h : RoutesSound s) (hst : (system env).step s t) :
    RoutesSound t := by
  obtain ⟨hrun, hst⟩ := hst
  cases hst with
  | change c happ hc => exact ⟨h.taken, hk _ c h.wellFormed happ hc, hrun⟩
  | handle o hcalls he hb => exact ⟨le_trans h.taken (Nat.le_add_right _ _), h.wellFormed, hrun⟩
  | @handlePanic o e p _ _ hpanic =>
    obtain ⟨b, hb⟩ := returns_updatesRoutes h.wellFormed o e
    cases hb.symm.trans hpanic
  | merge he hmem => exact ⟨h.taken, h.wellFormed, hrun⟩
  | stream a ha =>
    refine ⟨?_, h.wellFormed, hrun⟩
    rcases (stream_push s.rds a).2 with hpush | hpush
    · exact h.taken.trans hpush.ge
    · exact h.taken.trans (hpush ▸ Nat.le_succ _)
  | startIdle k hidle hk hle hkeys =>
    refine ⟨?_, h.wellFormed, hrun⟩
    rw [step_startIdle hidle hkeys]
    exact hle
  | start k hidle hk hle hkeys =>
    refine ⟨?_, h.wellFormed, hrun⟩
    rw [step_start hidle hkeys]
    exact hle
  | generate o now hcalls hu hx =>
    refine ⟨?_, h.wellFormed, hrun⟩
    rw [step_generated hu]
    exact h.taken
  | generateFailed o now hcalls hu hx =>
    refine ⟨?_, h.wellFormed, hrun⟩
    rw [step_generateFailed hu]
    exact h.taken.trans (le_updateFailed _)
  | generatePanic o now hcalls hu hpanic =>
    obtain ⟨r, hr⟩ := returns_snapshot h.wellFormed o now
    cases hr.symm.trans hpanic
  | set hu =>
    refine ⟨?_, h.wellFormed, hrun⟩
    rw [step_set hu]
    exact h.taken
  | setFailed hu =>
    refine ⟨?_, h.wellFormed, hrun⟩
    rw [step_setFailed hu]
    exact h.taken.trans (le_updateFailed _)
  | done hu =>
    refine ⟨?_, h.wellFormed, hrun⟩
    rw [step_done hu]
    exact h.taken

/-- The steps while the inputs and the streams stay as they are. -/
abbrev Settling (env : Environment C) : RoutePlane C → RoutePlane C → Prop :=
  (system { env with users := fun _ _ => False, proxies := fun _ _ => False }).step

/-- What is left of an update, but for the nodes that it has yet to set. -/
def updateCost : Update Snapshot → Nat
  | .idle => 0
  | .generating => 15
  | .setting _ _ => 14

/-- The nodes that an update has yet to set. -/
def nodesLeft : Update Snapshot → Nat
  | .setting _ nodes => nodes.length
  | _ => 0

/-- What is left to do but for the nodes, as for the EnvoyFilters. -/
def work (events : Nat) (taken : Nat) (r : RdsState C) : Nat :=
  20 * events + 16 * (r.pushChannel - taken) + 4 * (3 - r.retries) + updateCost r.update

/-- What is left to do. -/
def routesMeasure (s : RoutePlane C) : Nat ×ₗ Nat :=
  toLex (work s.events.length s.taken s.rds, nodesLeft s.rds.update)

/-- The event of a retry is paid for by the retry that is used up. -/
theorem work_updateFailed {r : RdsState C} (hcost : 14 ≤ updateCost r.update) {taken : Nat}
    (hle : taken ≤ r.pushChannel) (events : Nat) : work events taken r.updateFailed < work events taken r := by
  have hidle : updateCost .idle = 0 := rfl
  unfold work RdsState.updateFailed
  split
  · simp only [hidle]
    omega
  · simp only [hidle]
    omega

theorem routesMeasure_lt (h : RoutesSound s) (hst : Settling env s t) : routesMeasure t < routesMeasure s := by
  have hle := h.taken
  obtain ⟨-, hst⟩ := hst
  cases hst with
  | change _ _ hno => exact hno.elim
  | stream _ hno => exact hno.elim
  | handlePanic o hcalls he hpanic =>
    obtain ⟨b, hb⟩ := returns_updatesRoutes h.wellFormed o _
    cases hb.symm.trans hpanic
  | generatePanic o now hcalls hu hpanic =>
    obtain ⟨r, hr⟩ := returns_snapshot h.wellFormed o now
    cases hr.symm.trans hpanic
  | @handle o e l1 l2 b hcalls he hb =>
    have hlen := length_handled he
    have hone : b.toNat ≤ 1 := Bool.toNat_le b
    refine Prod.Lex.toLex_lt_toLex.mpr (.inl ?_)
    simp only [work]
    omega
  | merge he =>
    have hlen := length_handled he
    refine Prod.Lex.toLex_lt_toLex.mpr (.inl ?_)
    simp only [work]
    omega
  | startIdle k hidle hk hkle hkeys =>
    refine Prod.Lex.toLex_lt_toLex.mpr (.inl ?_)
    simp only [step_startIdle hidle hkeys, work, RdsState.updateDone, hidle, updateCost]
    omega
  | start k hidle hk hkle hkeys =>
    refine Prod.Lex.toLex_lt_toLex.mpr (.inl ?_)
    simp only [step_start hidle hkeys, work, hidle, updateCost]
    omega
  | generate o now hcalls hu hx =>
    refine Prod.Lex.toLex_lt_toLex.mpr (.inl ?_)
    simp only [step_generated hu, work, hu, updateCost]
    omega
  | generateFailed o now hcalls hu hx =>
    refine Prod.Lex.toLex_lt_toLex.mpr (.inl ?_)
    simp only [step_generateFailed hu]
    exact work_updateFailed (by rw [hu]; decide) hle _
  | set hu =>
    refine Prod.Lex.toLex_lt_toLex.mpr (.inr ?_)
    simp only [step_set hu, work, hu, updateCost, nodesLeft, List.length_cons]
    exact ⟨trivial, Nat.lt_succ_self _⟩
  | setFailed hu =>
    refine Prod.Lex.toLex_lt_toLex.mpr (.inl ?_)
    simp only [step_setFailed hu]
    exact work_updateFailed (by rw [hu]; exact le_rfl) hle _
  | done hu =>
    refine Prod.Lex.toLex_lt_toLex.mpr (.inl ?_)
    simp only [step_done hu, work, RdsState.updateDone, hu, updateCost]
    omega

/-- Nothing is left to do. -/
structure AtRest (s : RoutePlane C) : Prop where
  events : s.events = []
  taken : s.taken = s.rds.pushChannel
  idle : s.rds.update = .idle

/-- There is a step unless nothing is left to do. -/
theorem routes_progress (h : RoutesSound s) {o : Oracle} (ho : env.calls o) (hnot : ¬AtRest s) :
    ∃ t, Settling env s t := by
  cases hevents : s.events with
  | cons e events =>
    obtain ⟨b, hb⟩ := returns_updatesRoutes h.wellFormed o e
    exact ⟨_, h.running, @Step.handle _ _ _ o e [] events b ho hevents hb⟩
  | nil =>
    cases hu : s.rds.update with
    | idle =>
      have htaken : s.taken + 1 ≤ s.rds.pushChannel :=
        Nat.lt_of_le_of_ne h.taken fun htaken => hnot ⟨hevents, htaken, hu⟩
      cases hkeys : (C.getStatusKeys s.rds.routeCache).isEmpty with
      | true => exact ⟨_, h.running, .startIdle 1 hu Nat.one_pos htaken hkeys⟩
      | false => exact ⟨_, h.running, .start 1 hu Nat.one_pos htaken hkeys⟩
    | generating =>
      obtain ⟨err | x, hx⟩ := returns_snapshot h.wellFormed o 0
      · exact ⟨_, h.running, .generateFailed o 0 ho hu hx⟩
      · exact ⟨_, h.running, .generate o 0 ho hu hx⟩
    | setting x nodes =>
      cases nodes with
      | nil => exact ⟨_, h.running, .done hu⟩
      | cons node nodes => exact ⟨_, h.running, .set hu⟩

/-- A MetaRouter with a canary route, for the service of its host. -/
def canaryInputs : Inputs where
  store := { serviceEntries := [{ dubboEntry with spec := { dubboEntry.spec with hosts := canary.hosts } }] }
  metaRouters := [{ object := canary }]

theorem wellFormed_canaryInputs : RoutesWellFormed canaryInputs where
  hosts se hse := by
    cases List.mem_singleton.mp hse
    exact List.cons_ne_nil _ _
  accepted m hm := by
    cases List.mem_singleton.mp hm
    exact ⟨_, _, canary_accepted⟩

/-- Proxies and calls do as they like. -/
def anyCalls : Environment (.mapCache Snapshot) where
  users i c := RoutesWellFormed (c.after i)
  proxies _ _ := True
  calls _ := True

/-- A proxy has asked for the routes of the MetaRouter. -/
def canaryAsked : RoutePlane (.mapCache Snapshot) where
  inputs := canaryInputs
  rds := (RdsState.openStream {} 0).request 0 (some "sidecar")
  read := canaryInputs

end

end Aeraki.Proof.Bootstrap
