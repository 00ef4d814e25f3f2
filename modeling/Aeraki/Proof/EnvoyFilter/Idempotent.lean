import Aeraki.Proof.EnvoyFilter.Reconcile

/-!
# A second push

After a push all of whose calls succeed, a second one writes nothing if and
only if it generates the same EnvoyFilters and VirtualServices as the first
(`second_push_silent_iff`).
-/

namespace Aeraki.Proof.EnvoyFilter

open Aeraki.Impl Aeraki.Impl.Controller
open ApiServer (Object Request)
open Go (Comp)

/-! ## What a run generates -/

/-- No call to an API server fails, besides those of the push itself. -/
def Quiet (o : Oracle) : Prop := ∀ site, o.callError site = none

theorem Quiet.at {o : Oracle} (h : Quiet o) (s : String) : Quiet (o.at s) := fun _ => h _

/-- The EnvoyFilters, and the VirtualServices unless the function returns at a
ServiceEntry without hosts. -/
def generatedMaps (c : Controller) (o : Oracle) :
    Comp (GoMap String EnvoyFilterWrapper × Option (GoMap String (Config VirtualService))) := do
  let services ← serviceWrites c (o.at "ServiceEntries") ((o.at "ServiceEntries").list c.store.serviceEntries)
  match services.2 with
  | some _ => return (GoMap.writeAll ∅ services.1, none)
  | none =>
    let gateways ← gatewayWrites c o (gatewayServers ((o.at "Gateways").list c.store.gateways))
    return (GoMap.writeAll ∅ (services.1 ++ gateways.1), gateways.2.map generatedVirtualServices)

theorem envoyFilterContext_quiet {c : Controller} {o : Oracle} (h : Quiet o) (se : Config ServiceEntry)
    (host : String) : c.envoyFilterContext o se host = .ok {
      meshConfig := c.meshConfig
      serviceEntry := se
      virtualService := c.findRelatedVirtualService o host
      metaRouter := c.metaRouters.find? (·.hosts.contains host) } := by
  rw [envoyFilterContext, findRelatedMetaRouter, listMetaRouters, h]
  rfl

/-- The loop returns at a ServiceEntry without hosts only. -/
theorem serviceOutcome_stop {c : Controller} {o : Oracle} (h : Quiet o) {se : Config ServiceEntry} {err : Option String}
    (hout : serviceOutcome c o se = .ok (.stop err)) : err = none ∧ se.spec.hosts = [] := by
  unfold serviceOutcome at hout
  cases hh : se.spec.hosts with
  | nil =>
    rw [hh] at hout
    cases hout
    exact ⟨rfl, rfl⟩
  | cons host hosts =>
    simp only [hh, envoyFilterContext_quiet (h.at se.key)] at hout
    split at hout
    · cases hout
    · obtain ⟨r, -, hout⟩ := Go.bind_eq_ok.mp hout
      split at hout <;> cases hout

theorem serviceWrites_quiet {c : Controller} {o : Oracle} (h : Quiet o) : ∀ {ses : List (Config ServiceEntry)}
    {r : List Write × Option (Option String)}, serviceWrites c o ses = .ok r → ∀ err ∈ r.2, err = none
  | [], _, hr => by cases hr; exact fun _ h => nomatch h
  | se :: ses, _, hr => by
    rw [serviceWrites] at hr
    obtain ⟨out, hout, hr⟩ := Go.bind_eq_ok.mp hr
    cases out with
    | writes ws =>
      obtain ⟨r, hr', hr⟩ := Go.bind_eq_ok.mp hr
      cases hr
      exact fun err herr => serviceWrites_quiet h hr' err herr
    | stop err =>
      cases hr
      rintro _ ⟨⟩
      exact (serviceOutcome_stop h hout).1

/-- A quiet run generates the maps, and pushes the VirtualServices. -/
theorem generateEnvoyFilters_quiet {c : Controller} {o : Oracle} (h : Quiet o)
    (server : ApiServer.Server ObjectKey VirtualService) :
    c.generateEnvoyFilters o server = (do
      match ← generatedMaps c o with
      | (m, none) => return ((m, none), server)
      | (m, some vs) =>
        let r := pushObjects virtualServicePush (o.at "VirtualServices") vs server
        return ((m, r.1), r.2)) := by
  rw [generateEnvoyFilters_writes, generatedMaps]
  rcases hs : serviceWrites c (o.at "ServiceEntries") ((o.at "ServiceEntries").list c.store.serviceEntries)
    with p | ⟨ws, _ | err⟩
  · rfl
  · rcases gatewayWrites c o (gatewayServers ((o.at "Gateways").list c.store.gateways)) with p | ⟨ws', _ | ctxs⟩ <;>
      rfl
  · obtain rfl := serviceWrites_quiet (h.at _) hs err rfl
    rfl

/-- Where a VirtualService comes from. -/
theorem context_of_lastWrite {ctxs : List EnvoyFilterContext} {mk : String} {v : Config VirtualService}
    (h : GoMap.lastWrite (ctxs.filterMap fun ctx => ctx.virtualService.map fun vs =>
      (virtualServiceMapKey vs.name vs.namespace_, vs)) mk = some v) :
    ∃ ctx ∈ ctxs, ctx.virtualService = some v ∧ mk = virtualServiceMapKey v.name v.namespace_ := by
  obtain ⟨ctx, hctx, hentry⟩ := List.mem_filterMap.mp (GoMap.mem_of_lastWrite h)
  obtain ⟨vs, hvs, hentry⟩ := Option.map_eq_some_iff.mp hentry
  cases hentry
  exact ⟨ctx, hctx, hvs, rfl⟩

theorem context_of_generated {ctxs : List EnvoyFilterContext} {mk : String} {v : Config VirtualService}
    (h : (generatedVirtualServices ctxs).lookup mk = some v) :
    ∃ ctx ∈ ctxs, ctx.virtualService = some v ∧ mk = virtualServiceMapKey v.name v.namespace_ := by
  rw [generatedVirtualServices, GoMap.lookup_writeAll, Finmap.lookup_empty, Option.or_none] at h
  exact context_of_lastWrite h

theorem keyed_generatedVirtualServices {ctxs : List EnvoyFilterContext} {mk : String} {v : Config VirtualService}
    (h : (generatedVirtualServices ctxs).lookup mk = some v) : mk = virtualServiceMapKey v.name v.namespace_ := by
  obtain ⟨ctx, -, -, hk⟩ := context_of_generated h
  exact hk

/-- Every EnvoyFilter and VirtualService is under its own key. -/
theorem keyed_generatedMaps {c : Controller} {o : Oracle} {m : GoMap String EnvoyFilterWrapper}
    {vs : Option (GoMap String (Config VirtualService))} (h : generatedMaps c o = .ok (m, vs)) :
    (∀ mk w, m.lookup mk = some w → mk = envoyFilterMapKey w.name w.namespace_) ∧
      ∀ v ∈ vs, ∀ mk x, v.lookup mk = some x → mk = virtualServiceMapKey x.name x.namespace_ := by
  have key {ws : List Write} (hws : Keyed ws) (mk : String) (w : EnvoyFilterWrapper)
      (hw : (GoMap.writeAll ∅ ws).lookup mk = some w) : mk = envoyFilterMapKey w.name w.namespace_ := by
    rw [GoMap.lookup_writeAll, Finmap.lookup_empty, Option.or_none] at hw
    exact congrArg Prod.fst (hws _ (GoMap.mem_of_lastWrite hw))
  obtain ⟨services, hs, h⟩ := Go.bind_eq_ok.mp h
  split at h
  · cases h
    exact ⟨key (keyed_serviceWrites hs), fun _ h => nomatch h⟩
  · obtain ⟨gateways, hg, h⟩ := Go.bind_eq_ok.mp h
    cases h
    refine ⟨key ((keyed_serviceWrites hs).append (keyed_gatewayWrites hg)), fun v hv mk x hx => ?_⟩
    obtain ⟨ctxs, -, rfl⟩ := Option.map_eq_some_iff.mp hv
    exact keyed_generatedVirtualServices hx

/-! ## One push -/

/-- The push of the VirtualServices, if they were generated. -/
def pushListeners (o : Oracle) (vs : Option (GoMap String (Config VirtualService)))
    (server : ApiServer.Server ObjectKey VirtualService) :
    Option String × ApiServer.Server ObjectKey VirtualService :=
  match vs with
  | none => (none, server)
  | some v => pushObjects virtualServicePush (o.at "VirtualServices") v server

/-- What a quiet push returns. -/
theorem pushEnvoyFilters2APIServer_quiet {c : Controller} {o : Oracle} {cluster : ClusterState}
    {m : GoMap String EnvoyFilterWrapper} {vs : Option (GoMap String (Config VirtualService))} (h : Quiet o)
    (hgen : generatedMaps c o = .ok (m, vs)) :
    c.pushEnvoyFilters2APIServer o cluster =
      let listeners := pushListeners o vs cluster.virtualServices
      match listeners.1 with
      | some err =>
        .ok (some ("failed to generate EnvoyFilter: " ++ err), { cluster with virtualServices := listeners.2 })
      | none =>
        let r := pushObjects envoyFilterPush (o.at "EnvoyFilters") m cluster.envoyFilters
        .ok (r.1, { envoyFilters := r.2, virtualServices := listeners.2 }) := by
  rw [pushEnvoyFilters2APIServer, generateEnvoyFilters_quiet h, hgen]
  cases vs with
  | none => rfl
  | some v =>
    rcases hr : pushObjects virtualServicePush (o.at "VirtualServices") v cluster.virtualServices
      with ⟨_ | err, server⟩ <;>
      simp only [pushListeners, hr, bind, Except.bind, pure, Except.pure]

/-- Different VirtualServices, of those managed and those generated, have
different keys. -/
def DistinctListeners (generated : GoMap String (Config VirtualService))
    (objects : AList fun _ : ObjectKey => Object VirtualService) : Prop :=
  ∀ a b, Involved virtualServicePush generated objects a → Involved virtualServicePush generated objects b →
    virtualServiceMapKey a.name a.namespace_ = virtualServiceMapKey b.name b.namespace_ → a = b

/-- If the server was called, it listed its objects. -/
def Listed {σ : Type} (before after : ApiServer.Server ObjectKey σ) : Prop :=
  before.calls < after.calls → before.fails before.calls = false

/-- The same for both kinds of objects. -/
def AllListed (cluster cluster' : ClusterState) : Prop :=
  Listed cluster.envoyFilters cluster'.envoyFilters ∧ Listed cluster.virtualServices cluster'.virtualServices

/-- A push that generates `m` and `vs`: all that it reads can be read, and
different objects have different keys. -/
structure Pushed (c : Controller) (o : Oracle) (cluster cluster' : ClusterState)
    (m : GoMap String EnvoyFilterWrapper) (vs : Option (GoMap String (Config VirtualService))) : Prop where
  quiet : Quiet o
  generates : generatedMaps c o = .ok (m, vs)
  returns : (c.pushEnvoyFilters2APIServer o cluster).map Prod.snd = .ok cluster'
  listed : AllListed cluster cluster'
  distinct : DistinctKeys m cluster.envoyFilters.objects
  distinctListeners : ∀ v ∈ vs, DistinctListeners v cluster.virtualServices.objects

/-- All writes between the two states were accepted. -/
def Accepted (cluster cluster' : ClusterState) : Prop :=
  (∀ w ∈ newWrites cluster.envoyFilters cluster'.envoyFilters, w.2 = true) ∧
    ∀ w ∈ newWrites cluster.virtualServices cluster'.virtualServices, w.2 = true

/-- Nothing was written between the two states. -/
def Silent (cluster cluster' : ClusterState) : Prop :=
  newWrites cluster.envoyFilters cluster'.envoyFilters = [] ∧
    newWrites cluster.virtualServices cluster'.virtualServices = []

section

variable {c : Controller} {o : Oracle} {cluster cluster' : ClusterState} {m : GoMap String EnvoyFilterWrapper}
  {vs : Option (GoMap String (Config VirtualService))}

theorem Silent.accepted (h : Silent cluster cluster') : Accepted cluster cluster' := by
  obtain ⟨h, h'⟩ := h
  refine ⟨fun w hw => ?_, fun w hw => ?_⟩
  · rw [h] at hw; cases hw
  · rw [h'] at hw; cases hw

theorem newWrites_self {σ : Type} (server : ApiServer.Server ObjectKey σ) : newWrites server server = [] := by
  rw [newWrites, List.drop_length]

theorem Pushed.distinct_envoyFilters (h : Pushed c o cluster cluster' m vs) :
    Distinct envoyFilterPush m cluster.envoyFilters.objects :=
  ⟨(keyed_generatedMaps h.generates).1, h.distinct⟩

theorem Pushed.distinct_listeners (h : Pushed c o cluster cluster' m vs) {v : GoMap String (Config VirtualService)}
    (hv : v ∈ vs) : Distinct virtualServicePush v cluster.virtualServices.objects :=
  ⟨(keyed_generatedMaps h.generates).2 v hv, h.distinctListeners v hv⟩

theorem Pushed.virtualServices (h : Pushed c o cluster cluster' m vs) :
    cluster'.virtualServices = (pushListeners o vs cluster.virtualServices).2 := by
  have hr := h.returns
  rw [pushEnvoyFilters2APIServer_quiet h.quiet h.generates] at hr
  dsimp only at hr
  split at hr <;> (cases hr; rfl)

/-- If the VirtualServices are written without an error, the EnvoyFilters are
pushed. -/
theorem Pushed.envoyFilters (h : Pushed c o cluster cluster' m vs)
    (hok : ∀ w ∈ newWrites cluster.virtualServices cluster'.virtualServices, w.2 = true) :
    cluster'.envoyFilters = (pushObjects envoyFilterPush (o.at "EnvoyFilters") m cluster.envoyFilters).2 := by
  rw [h.virtualServices] at hok
  have hnone : (pushListeners o vs cluster.virtualServices).1 = none := by
    cases vs with
    | none => rfl
    | some v => exact (err_pushObjects _ _ _ _).mpr fun w hw => hok w (List.mem_of_getLast? hw)
  have hr := h.returns
  rw [pushEnvoyFilters2APIServer_quiet h.quiet h.generates] at hr
  dsimp only at hr
  rw [hnone] at hr
  cases hr
  rfl

theorem Pushed.up_listeners (h : Pushed c o cluster cluster' m vs) {v : GoMap String (Config VirtualService)}
    (hv : vs = some v) : cluster.virtualServices.fails cluster.virtualServices.calls = false := by
  refine h.listed.2 ?_
  rw [h.virtualServices, hv]
  exact calls_pushObjects _ _ _ _

theorem Pushed.up_envoyFilters (h : Pushed c o cluster cluster' m vs)
    (hok : ∀ w ∈ newWrites cluster.virtualServices cluster'.virtualServices, w.2 = true) :
    cluster.envoyFilters.fails cluster.envoyFilters.calls = false := by
  refine h.listed.1 ?_
  rw [h.envoyFilters hok]
  exact calls_pushObjects _ _ _ _

/-- A push whose writes are all accepted settles the EnvoyFilters. -/
theorem Pushed.settled (h : Pushed c o cluster cluster' m vs) (hok : Accepted cluster cluster') :
    Settled envoyFilterPush m cluster'.envoyFilters.objects := by
  have hw := hok.1
  rw [h.envoyFilters hok.2] at hw ⊢
  exact (pushObjects_converged h.distinct_envoyFilters (h.up_envoyFilters hok.2) hw).settled

/-- It settles the VirtualServices, if they were generated. -/
theorem Pushed.settled_listeners (h : Pushed c o cluster cluster' m vs) (hok : Accepted cluster cluster')
    {v : GoMap String (Config VirtualService)} (hv : vs = some v) :
    Settled virtualServicePush v cluster'.virtualServices.objects := by
  have hw := hok.2
  rw [h.virtualServices, hv] at hw ⊢
  exact (pushObjects_converged (h.distinct_listeners hv) (h.up_listeners hv) hw).settled

/-- A push writes nothing if and only if all is as generated. -/
theorem Pushed.silent_iff (h : Pushed c o cluster cluster' m vs) :
    Silent cluster cluster' ↔ Settled envoyFilterPush m cluster.envoyFilters.objects ∧
      ∀ v ∈ vs, Settled virtualServicePush v cluster.virtualServices.objects := by
  have hlisteners : newWrites cluster.virtualServices cluster'.virtualServices = [] ↔
      ∀ v ∈ vs, Settled virtualServicePush v cluster.virtualServices.objects := by
    rw [h.virtualServices]
    cases vs with
    | none => exact ⟨fun _ _ h => (nomatch h), fun _ => newWrites_self _⟩
    | some v =>
      refine (pushObjects_silent_iff (h.distinct_listeners rfl) (h.up_listeners rfl)).trans ?_
      simp
  rw [Silent, and_comm, hlisteners, and_comm (a := Settled _ _ _)]
  refine and_congr_right fun hs => ?_
  have hok : ∀ w ∈ newWrites cluster.virtualServices cluster'.virtualServices, w.2 = true := by
    rw [hlisteners.mpr hs]; exact fun _ h => nomatch h
  rw [h.envoyFilters hok]
  exact pushObjects_silent_iff h.distinct_envoyFilters (h.up_envoyFilters hok)

end

/-! ## Two pushes -/

/-- The managed objects are those of the map, so their keys are distinct if
those of the map are. -/
theorem Settled.distinct {ω σ : Type} {c : PushConfig ω σ} {m : GoMap String ω}
    {before after : AList fun _ : ObjectKey => Object σ} (h : Settled c m after) (hd : Distinct c m before) :
    Distinct c m after := by
  have hinv : ∀ a, Involved c m after a → Involved c m before a := by
    rintro a (⟨ob, hob, hm⟩ | hg)
    · obtain ⟨mk, v, hv, hk, -⟩ := h.managed a ob hob hm
      exact .inr ⟨mk, v, hv, hk⟩
    · exact .inr hg
  exact ⟨hd.keyed, fun a b ha hb => hd.inj a b (hinv a ha) (hinv b hb)⟩

/-- After a push whose calls all succeed, a second one writes nothing if and
only if it generates the same EnvoyFilters and the same VirtualServices; if the
first push generated no VirtualServices, those in the cluster have to be the
second one's already. -/
theorem second_push_silent_iff {c : Controller} {o o' : Oracle} {cluster cluster1 cluster2 : ClusterState}
    {m m' : GoMap String EnvoyFilterWrapper} {vs vs' : Option (GoMap String (Config VirtualService))}
    (h : Pushed c o cluster cluster1 m vs) (hok : Accepted cluster cluster1)
    (h' : Pushed c o' cluster1 cluster2 m' vs') :
    Silent cluster1 cluster2 ↔ SameObjects envoyFilterPush m m' ∧ ∀ v' ∈ vs',
      match vs with
      | some v => SameObjects virtualServicePush v v'
      | none => Settled virtualServicePush v' cluster.virtualServices.objects := by
  have hs := h.settled hok
  rw [h'.silent_iff, settled_iff (hs.distinct h.distinct_envoyFilters) h'.distinct_envoyFilters hs]
  refine and_congr_right fun _ => forall₂_congr fun v' hv' => ?_
  cases vs with
  | none => rw [h.virtualServices]; rfl
  | some v =>
    have hsv := h.settled_listeners hok rfl
    exact settled_iff (hsv.distinct (h.distinct_listeners rfl)) (h'.distinct_listeners hv') hsv

end Aeraki.Proof.EnvoyFilter
