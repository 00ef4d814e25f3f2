import Aeraki.Impl.EnvoyFilter.Controller

/-!
# What generation writes

`generateEnvoyFilters` fills a map by writes that do not depend on the map:
those of the ServiceEntries, up to one without hosts (`serviceWrites`), and
those of the gateways (`gatewayWrites`). The map is the result of all of them
in order (`generateEnvoyFilters_eq`), and every EnvoyFilter in it is under its
own key (`keyed_generateEnvoyFilters`).
-/

namespace Aeraki.Proof.EnvoyFilter

open Aeraki.Impl Aeraki.Impl.Controller
open Go (Comp)

/-- A write to the map of EnvoyFilters. -/
abbrev Write : Type := String × EnvoyFilterWrapper

/-! ## Lists -/

/-- Two orders of one list. -/
theorem list_perm {α : Type} (o o' : Oracle) (xs : List α) : (o.list xs).Perm (o'.list xs) :=
  (GoMap.shuffle_perm _ _).trans (GoMap.shuffle_perm _ _).symm

theorem mem_list {α : Type} {o : Oracle} {xs : List α} {x : α} : x ∈ o.list xs ↔ x ∈ xs :=
  (GoMap.shuffle_perm _ _).mem_iff

/-! ## Services -/

/-- The writes of an EnvoyFilter list, in the namespaces of its context. -/
def contextWrites (c : Controller) (ctx : EnvoyFilterContext) (wrappers : List EnvoyFilterWrapper) : List Write :=
  wrappers.flatMap fun w => (c.exportNSs ctx).map fun ns => entry { w with namespace_ := ns }

theorem foldl_createEnvoyFiltersOnExportNSs (c : Controller) (ctx : EnvoyFilterContext) :
    ∀ (wrappers : List EnvoyFilterWrapper) (m : GoMap String EnvoyFilterWrapper),
      wrappers.foldl (c.createEnvoyFiltersOnExportNSs ctx) m = GoMap.writeAll m (contextWrites c ctx wrappers)
  | [], _ => rfl
  | w :: wrappers, m => by
    rw [List.foldl_cons, foldl_createEnvoyFiltersOnExportNSs c ctx wrappers, createEnvoyFiltersOnExportNSs,
      ← GoMap.writeAll_append]
    rfl

/-- What a turn of the loop does: it returns from the function, or writes. -/
inductive Outcome
  | stop (err : Option String)
  | writes (ws : List Write)

/-- The turn of a ServiceEntry. -/
def serviceOutcome (c : Controller) (o : Oracle) (se : Config ServiceEntry) : Comp Outcome :=
  match se.spec.hosts with
  | [] => .ok (.stop none)
  | host :: _ =>
    match c.generatorOf se.spec.ports with
    | none => .ok (.writes [])
    | some generator =>
      match c.envoyFilterContext (o.at se.key) se host with
      | .error err => .ok (.stop (some err))
      | .ok ctx => do
        match ← generator ((o.at se.key).at "Generate") ctx with
        | .ok wrappers => return .writes (contextWrites c ctx wrappers)
        | .error _ => return .writes []

/-- The writes of the ServiceEntries, and the error the function has returned
with, if it has. -/
def serviceWrites (c : Controller) (o : Oracle) :
    List (Config ServiceEntry) → Comp (List Write × Option (Option String))
  | [] => return ([], none)
  | se :: ses => do
    match ← serviceOutcome c o se with
    | .stop err => return ([], some err)
    | .writes ws =>
      let r ← serviceWrites c o ses
      return (ws ++ r.1, r.2)

theorem generateServices_eq (c : Controller) (o : Oracle) :
    ∀ (ses : List (Config ServiceEntry)) (m : GoMap String EnvoyFilterWrapper),
      c.generateServices o m ses = (serviceWrites c o ses).map fun r => (GoMap.writeAll m r.1, r.2)
  | [], _ => rfl
  | se :: ses, m => by
    have ih := generateServices_eq c o ses
    rw [generateServices, serviceWrites, serviceOutcome]
    cases se.spec.hosts with
    | nil => rfl
    | cons host hosts =>
      dsimp only
      cases c.generatorOf se.spec.ports with
      | none =>
        dsimp only
        rw [ih]
        cases serviceWrites c o ses <;> rfl
      | some generator =>
        dsimp only
        cases c.envoyFilterContext (o.at se.key) se host with
        | error err => rfl
        | ok ctx =>
          dsimp only
          rcases generator ((o.at se.key).at "Generate") ctx with p | (e | wrappers)
          · rfl
          · show c.generateServices o m ses = _
            rw [ih]
            cases serviceWrites c o ses <;> rfl
          · show c.generateServices o (wrappers.foldl (c.createEnvoyFiltersOnExportNSs ctx) m) ses = _
            rw [ih, foldl_createEnvoyFiltersOnExportNSs]
            cases hs : serviceWrites c o ses with
            | error p => rfl
            | ok r =>
              show Except.ok _ = Except.ok (GoMap.writeAll m (contextWrites c ctx wrappers ++ r.1), r.2)
              rw [GoMap.writeAll_append]

theorem serviceWrites_append (c : Controller) (o : Oracle) (l2 : List (Config ServiceEntry)) :
    ∀ l1 : List (Config ServiceEntry), serviceWrites c o (l1 ++ l2) = (do
      let r ← serviceWrites c o l1
      match r.2 with
      | some _ => return r
      | none =>
        let r' ← serviceWrites c o l2
        return (r.1 ++ r'.1, r'.2))
  | [] => by
    simp only [List.nil_append, serviceWrites, pure_bind]
    exact (bind_pure _).symm
  | se :: l1 => by
    rw [List.cons_append, serviceWrites, serviceWrites, bind_assoc]
    refine bind_congr fun out => ?_
    cases out with
    | stop err => rfl
    | writes ws =>
      simp only [serviceWrites_append c o l2 l1, bind_assoc, pure_bind]
      refine bind_congr fun r => ?_
      rcases r with ⟨ws', _ | err⟩
      · simp only [bind_assoc, pure_bind, List.append_assoc]
      · rfl

/-- A loop that comes to its end has written in every turn. -/
theorem serviceOutcome_of_serviceWrites {c : Controller} {o : Oracle} : ∀ {ses : List (Config ServiceEntry)}
    {ws : List Write}, serviceWrites c o ses = .ok (ws, none) →
      ∀ se ∈ ses, ∃ ws', serviceOutcome c o se = .ok (.writes ws')
  | [], _, _, _, hse => by cases hse
  | se :: ses, _, h, se', hse' => by
    rw [serviceWrites] at h
    obtain ⟨out, hout, h⟩ := Go.bind_eq_ok.mp h
    cases out with
    | stop err => cases h
    | writes ws =>
      obtain ⟨⟨ws', r⟩, hr, h⟩ := Go.bind_eq_ok.mp h
      obtain ⟨-, rfl⟩ := Prod.mk.inj (Except.ok.inj h)
      rcases List.mem_cons.mp hse' with rfl | hse'
      · exact ⟨ws, hout⟩
      · exact serviceOutcome_of_serviceWrites hr se' hse'

/-- A ServiceEntry whose turn writes nothing might as well not be there. -/
theorem serviceWrites_skip {c : Controller} {o : Oracle} {se : Config ServiceEntry}
    (h : serviceOutcome c o se = .ok (.writes [])) (l1 l2 : List (Config ServiceEntry)) :
    serviceWrites c o (l1 ++ se :: l2) = serviceWrites c o (l1 ++ l2) := by
  have hse : serviceWrites c o (se :: l2) = serviceWrites c o l2 := by
    rw [serviceWrites, h]
    show (do let r ← serviceWrites c o l2; return ([] ++ r.1, r.2)) = _
    exact bind_pure _
  rw [serviceWrites_append, serviceWrites_append, hse]

/-- Two ServiceEntries with the same turn. -/
theorem serviceWrites_swap {c : Controller} {o : Oracle} {se se' : Config ServiceEntry}
    (h : serviceOutcome c o se = serviceOutcome c o se') (l1 l2 : List (Config ServiceEntry)) :
    serviceWrites c o (l1 ++ se :: l2) = serviceWrites c o (l1 ++ se' :: l2) := by
  rw [serviceWrites_append, serviceWrites_append, serviceWrites, serviceWrites, h]

/-! ## Gateways -/

/-- The writes of one context of a gateway. -/
def gatewayContextWrites (generator : Generator) (o : Oracle) (ctx : EnvoyFilterContext) : Comp (List Write) := do
  match ← generator o ctx with
  | .ok wrappers => return wrappers.map entry
  | .error _ => return []

theorem generateGatewayContext_eq (generator : Generator) (o : Oracle) (m : GoMap String EnvoyFilterWrapper)
    (ctx : EnvoyFilterContext) :
    generateGatewayContext generator o m ctx = (gatewayContextWrites generator o ctx).map (GoMap.writeAll m) := by
  rw [generateGatewayContext, gatewayContextWrites]
  rcases generator o ctx with p | (e | wrappers) <;> rfl

/-- The writes of the contexts of a gateway's server. -/
def gatewayContextsWrites (generator : Generator) (o : Oracle) (ctxs : List EnvoyFilterContext) :
    Comp (List Write) := do
  return (← ctxs.zipIdx.mapM fun ctx => gatewayContextWrites generator (o.at (Go.itoa ctx.2)) ctx.1).flatten

theorem foldlM_generateGatewayContext (generator : Generator) (o : Oracle) (ctxs : List EnvoyFilterContext)
    (m : GoMap String EnvoyFilterWrapper) :
    ctxs.zipIdx.foldlM (fun m ctx => generateGatewayContext generator (o.at (Go.itoa ctx.2)) m ctx.1) m =
      (gatewayContextsWrites generator o ctxs).map (GoMap.writeAll m) := by
  simp only [generateGatewayContext_eq]
  rw [GoMap.foldlM_writeAll fun ctx : EnvoyFilterContext × Nat =>
    gatewayContextWrites generator (o.at (Go.itoa ctx.2)) ctx.1, gatewayContextsWrites]
  cases ctxs.zipIdx.mapM fun ctx => gatewayContextWrites generator (o.at (Go.itoa ctx.2)) ctx.1 <;> rfl

/-- The writes and contexts of a gateway's server, or `none` if listing the
MetaRouters fails. -/
def gatewayOutcome (c : Controller) (o : Oracle) (gateway : Config Gateway) (server : Server) (i : Nat) :
    Comp (Option (List Write × List EnvoyFilterContext)) :=
  match server.port with
  | none => .ok (some ([], []))
  | some port =>
    let protocol := getLayer7ProtocolFromPortName port.name
    if !protocol.isMetaProtocol then .ok (some ([], []))
    else
      match c.generators protocol with
      | none => .ok (some ([], []))
      | some generator => do
        let o' := ((o.at "Gateways").at gateway.key).at (Go.itoa i)
        match ← c.gatewayEnvoyFilterContexts o' gateway port.number with
        | .error _ => return none
        | .ok new => return some (← gatewayContextsWrites generator o' new, new)

/-- The writes of the gateways' servers, and their contexts. -/
def gatewayWrites (c : Controller) (o : Oracle) : List (Config Gateway × Server × Nat) →
    Comp (List Write × Option (List EnvoyFilterContext))
  | [] => return ([], some [])
  | (gateway, server, i) :: rest => do
    match ← gatewayOutcome c o gateway server i with
    | none => return ([], none)
    | some (ws, ctxs) =>
      let r ← gatewayWrites c o rest
      return (ws ++ r.1, r.2.map (ctxs ++ ·))

theorem generateGateways_eq (c : Controller) (o : Oracle) :
    ∀ (servers : List (Config Gateway × Server × Nat)) (m : GoMap String EnvoyFilterWrapper)
      (ctxs : List EnvoyFilterContext),
      c.generateGateways o m ctxs servers =
        (gatewayWrites c o servers).map fun r => (GoMap.writeAll m r.1, r.2.map (ctxs ++ ·))
  | [], m, ctxs => by simp [generateGateways, gatewayWrites, pure, Except.pure, Except.map]
  | (gateway, server, i) :: rest, m, ctxs => by
    have ih := generateGateways_eq c o rest
    -- the cases where the server is skipped
    have skip : c.generateGateways o m ctxs rest = Except.map
        (fun r => (GoMap.writeAll m r.1, r.2.map (ctxs ++ ·)))
        (do let r ← gatewayWrites c o rest; return ([] ++ r.1, r.2.map ([] ++ ·))) := by
      rw [ih]
      cases gatewayWrites c o rest with
      | error p => rfl
      | ok r => simp [Except.map, bind, Except.bind, pure, Except.pure]
    rw [generateGateways, gatewayWrites, gatewayOutcome]
    cases server.port with
    | none => exact skip
    | some port =>
      dsimp only
      split
      · exact skip
      · cases c.generators (getLayer7ProtocolFromPortName port.name) with
        | none => exact skip
        | some generator =>
          dsimp only
          rcases c.gatewayEnvoyFilterContexts (((o.at "Gateways").at gateway.key).at (Go.itoa i)) gateway
            port.number with p | (e | new)
          · rfl
          · rfl
          · show (do let m ← List.foldlM _ m new.zipIdx; c.generateGateways o m (ctxs ++ new) rest) = _
            rw [foldlM_generateGatewayContext]
            simp only [bind, Except.bind]
            cases gatewayContextsWrites generator (((o.at "Gateways").at gateway.key).at (Go.itoa i)) new with
            | error p => rfl
            | ok ws =>
              show c.generateGateways o (GoMap.writeAll m ws) (ctxs ++ new) rest = _
              rw [ih]
              cases gatewayWrites c o rest with
              | error p => rfl
              | ok r => simp [Except.map, pure, Except.pure, GoMap.writeAll_append, Function.comp_def]

theorem gatewayWrites_append (c : Controller) (o : Oracle) (l2 : List (Config Gateway × Server × Nat)) :
    ∀ l1 : List (Config Gateway × Server × Nat), gatewayWrites c o (l1 ++ l2) = (do
      let r ← gatewayWrites c o l1
      match r.2 with
      | none => return (r.1, none)
      | some ctxs =>
        let r' ← gatewayWrites c o l2
        return (r.1 ++ r'.1, r'.2.map (ctxs ++ ·)))
  | [] => by
    simp only [List.nil_append, gatewayWrites, pure_bind, Option.map_id']
    exact (bind_pure _).symm
  | (gateway, server, i) :: l1 => by
    rw [List.cons_append, gatewayWrites, gatewayWrites, bind_assoc]
    refine bind_congr fun out => ?_
    rcases out with _ | ⟨ws, ctxs⟩
    · rfl
    · simp only [gatewayWrites_append c o l2 l1, bind_assoc, pure_bind]
      refine bind_congr fun r => ?_
      rcases r with ⟨ws', _ | ctxs'⟩
      · rfl
      · simp only [bind_assoc, pure_bind, List.append_assoc, Option.map_some, Option.map_map, Function.comp_def]

theorem gatewayServers_append (l1 l2 : List (Config Gateway)) :
    gatewayServers (l1 ++ l2) = gatewayServers l1 ++ gatewayServers l2 := List.flatMap_append

/-! ## The map -/

/-- The writes from the ServiceEntries on: theirs and then, unless the function
has returned, those of the gateways. -/
def writesFrom (c : Controller) (o : Oracle) (ses : List (Config ServiceEntry)) : Comp (List Write) := do
  let services ← serviceWrites c (o.at "ServiceEntries") ses
  match services.2 with
  | some _ => return services.1
  | none =>
    let gateways ← gatewayWrites c o (gatewayServers ((o.at "Gateways").list c.store.gateways))
    return services.1 ++ gateways.1

/-- All writes to the map. -/
def generatedWrites (c : Controller) (o : Oracle) : Comp (List Write) :=
  writesFrom c o ((o.at "ServiceEntries").list c.store.serviceEntries)

/-- What is returned, from the writes. -/
theorem generateEnvoyFilters_writes (c : Controller) (o : Oracle)
    (server : ApiServer.Server ObjectKey VirtualService) :
    c.generateEnvoyFilters o server = (do
      let services ← serviceWrites c (o.at "ServiceEntries") ((o.at "ServiceEntries").list c.store.serviceEntries)
      match services.2 with
      | some err => return ((GoMap.writeAll ∅ services.1, err), server)
      | none =>
        let gateways ← gatewayWrites c o (gatewayServers ((o.at "Gateways").list c.store.gateways))
        match gateways.2 with
        | none => return ((GoMap.writeAll ∅ (services.1 ++ gateways.1), none), server)
        | some ctxs =>
          let listeners := generateListenerForGateway (o.at "VirtualServices") ctxs server
          return ((GoMap.writeAll ∅ (services.1 ++ gateways.1), listeners.1), listeners.2)) := by
  rw [generateEnvoyFilters]
  simp only [generateServices_eq]
  rcases serviceWrites c (o.at "ServiceEntries") ((o.at "ServiceEntries").list c.store.serviceEntries)
    with p | ⟨ws, _ | err⟩
  · rfl
  · show c.generateGatewayEnvoyFilters o (GoMap.writeAll ∅ ws) server = _
    rw [generateGatewayEnvoyFilters]
    simp only [generateGateways_eq]
    rcases gatewayWrites c o (gatewayServers ((o.at "Gateways").list c.store.gateways)) with p | ⟨ws', _ | ctxs⟩
    · rfl
    · simp only [bind, Except.bind, Except.map, GoMap.writeAll_append]; rfl
    · simp only [bind, Except.bind, Except.map, GoMap.writeAll_append]; rfl
  · rfl

/-- The generated map is the result of all writes: it does not depend on the
VirtualServices in the cluster. -/
theorem generateEnvoyFilters_eq (c : Controller) (o : Oracle) (server : ApiServer.Server ObjectKey VirtualService) :
    (c.generateEnvoyFilters o server).map (·.1.1) = (generatedWrites c o).map (GoMap.writeAll ∅) := by
  rw [generateEnvoyFilters_writes, generatedWrites, writesFrom]
  rcases serviceWrites c (o.at "ServiceEntries") ((o.at "ServiceEntries").list c.store.serviceEntries)
    with p | ⟨ws, _ | err⟩
  · rfl
  · rcases gatewayWrites c o (gatewayServers ((o.at "Gateways").list c.store.gateways)) with p | ⟨ws', _ | ctxs⟩ <;>
      rfl
  · rfl

theorem generated_eq {c : Controller} {o : Oracle} {server vs : ApiServer.Server ObjectKey VirtualService}
    {m : GoMap String EnvoyFilterWrapper} {err : Option String}
    (h : c.generateEnvoyFilters o server = .ok ((m, err), vs)) :
    ∃ ws, generatedWrites c o = .ok ws ∧ m = GoMap.writeAll ∅ ws := by
  have he := generateEnvoyFilters_eq c o server
  rw [h] at he
  cases hw : generatedWrites c o with
  | error p => rw [hw] at he; cases he
  | ok ws => rw [hw] at he; exact ⟨ws, rfl, Except.ok.inj he⟩

/-! ## What the writes depend on -/

/-- Two generators return the same, when run with an oracle of `O`. -/
def SameRuns (O : Oracle → Prop) (g g' : Generator) : Prop := ∀ o, O o → ∀ ctx, g o ctx = g' o ctx

/-- Two controllers have the same generators, when run with an oracle of `O`. -/
def SameGenerators (O : Oracle → Prop) (c c' : Controller) : Prop :=
  ∀ protocol, Option.Rel (SameRuns O) (c.generators protocol) (c'.generators protocol)

theorem SameGenerators.refl (O : Oracle → Prop) (c : Controller) : SameGenerators O c c := fun protocol => by
  cases c.generators protocol with
  | none => exact .none
  | some g => exact .some fun _ _ _ => rfl

theorem SameGenerators.generatorOf {O : Oracle → Prop} {c c' : Controller} (h : SameGenerators O c c') :
    ∀ ports : List ServicePort, Option.Rel (SameRuns O) (c.generatorOf ports) (c'.generatorOf ports)
  | [] => .none
  | port :: ports => by
    have ih := h.generatorOf ports
    have hp := h (getLayer7ProtocolFromPortName port.name)
    unfold Controller.generatorOf at ih ⊢
    rw [List.findSome?_cons, List.findSome?_cons]
    generalize c.generators (getLayer7ProtocolFromPortName port.name) = g at hp ⊢
    generalize c'.generators (getLayer7ProtocolFromPortName port.name) = g' at hp ⊢
    cases hp with
    | none => exact ih
    | some hr => exact .some hr

theorem serviceOutcome_congr {O : Oracle → Prop} {c c' : Controller} {o : Oracle} {se : Config ServiceEntry}
    (hns : c.exportNSs = c'.exportNSs) (hgen : SameGenerators O c c') (ho : O ((o.at se.key).at "Generate"))
    (hctx : ∀ host ∈ se.spec.hosts.head?,
      c.envoyFilterContext (o.at se.key) se host = c'.envoyFilterContext (o.at se.key) se host) :
    serviceOutcome c o se = serviceOutcome c' o se := by
  unfold serviceOutcome
  cases hh : se.spec.hosts with
  | nil => rfl
  | cons host hosts =>
    rw [hh] at hctx
    dsimp only
    rw [hctx host rfl]
    have hg := hgen.generatorOf se.spec.ports
    generalize c.generatorOf se.spec.ports = g at hg ⊢
    generalize c'.generatorOf se.spec.ports = g' at hg ⊢
    cases hg with
    | none => rfl
    | some hr =>
      cases c'.envoyFilterContext (o.at se.key) se host with
      | error err => rfl
      | ok ctx =>
        dsimp only
        rw [hr _ ho ctx]
        unfold contextWrites
        rw [hns]

theorem serviceWrites_congr {c c' : Controller} {o : Oracle} : ∀ {ses : List (Config ServiceEntry)},
    (∀ se ∈ ses, serviceOutcome c o se = serviceOutcome c' o se) → serviceWrites c o ses = serviceWrites c' o ses
  | [], _ => rfl
  | se :: ses, h => by
    rw [serviceWrites, serviceWrites, h se List.mem_cons_self,
      serviceWrites_congr fun se' h' => h se' (List.mem_cons_of_mem _ h')]

theorem gatewayEnvoyFilterContexts_congr {c c' : Controller} (hmesh : c.meshConfig = c'.meshConfig)
    (hrouters : c.metaRouters = c'.metaRouters) (o : Oracle) (gateway : Config Gateway) (portNumber : Nat) :
    c.gatewayEnvoyFilterContexts o gateway portNumber = c'.gatewayEnvoyFilterContexts o gateway portNumber := by
  have h : c.gatewayContext gateway portNumber = c'.gatewayContext gateway portNumber := by
    funext metaRouter
    rw [gatewayContext, gatewayContext, hmesh]
  rw [gatewayEnvoyFilterContexts, gatewayEnvoyFilterContexts, listMetaRouters, listMetaRouters, hrouters, h]

theorem gatewayContextsWrites_congr {O : Oracle → Prop} {generator generator' : Generator}
    (h : SameRuns O generator generator') {o : Oracle} (ho : ∀ s, O (o.at s)) (ctxs : List EnvoyFilterContext) :
    gatewayContextsWrites generator o ctxs = gatewayContextsWrites generator' o ctxs := by
  simp only [gatewayContextsWrites, gatewayContextWrites, fun s ctx => h _ (ho s) ctx]

theorem gatewayWrites_congr {O : Oracle → Prop} {c c' : Controller} {o : Oracle}
    (hmesh : c.meshConfig = c'.meshConfig) (hrouters : c.metaRouters = c'.metaRouters)
    (hgen : SameGenerators O c c') (ho : ∀ gw i j, O ((((o.at "Gateways").at gw).at i).at j)) :
    ∀ servers : List (Config Gateway × Server × Nat), gatewayWrites c o servers = gatewayWrites c' o servers
  | [] => rfl
  | (gateway, server, i) :: rest => by
    have h : gatewayOutcome c o gateway server i = gatewayOutcome c' o gateway server i := by
      unfold gatewayOutcome
      cases server.port with
      | none => rfl
      | some port =>
        dsimp only
        rw [gatewayEnvoyFilterContexts_congr hmesh hrouters]
        have hg := hgen (getLayer7ProtocolFromPortName port.name)
        generalize c.generators (getLayer7ProtocolFromPortName port.name) = g at hg ⊢
        generalize c'.generators (getLayer7ProtocolFromPortName port.name) = g' at hg ⊢
        cases hg with
        | none => rfl
        | some hr => simp only [gatewayContextsWrites_congr hr (ho _ _)]
    rw [gatewayWrites, gatewayWrites, h, gatewayWrites_congr hmesh hrouters hgen ho rest]

/-- What the gateways' writes and contexts are used for. -/
def gatewayResult (r : List Write × Option (List EnvoyFilterContext)) :
    List Write × Option (List (Option (Config VirtualService))) :=
  (r.1, r.2.map (List.map (·.virtualService)))

theorem generatedVirtualServices_congr {ctxs ctxs' : List EnvoyFilterContext}
    (h : ctxs.map (·.virtualService) = ctxs'.map (·.virtualService)) :
    generatedVirtualServices ctxs = generatedVirtualServices ctxs' := by
  have he (ctxs : List EnvoyFilterContext) : generatedVirtualServices ctxs =
      GoMap.writeAll ∅ ((ctxs.map (·.virtualService)).filterMap fun vs =>
        vs.map fun vs => (virtualServiceMapKey vs.name vs.namespace_, vs)) := by
    rw [generatedVirtualServices, List.filterMap_map]
    rfl
  rw [he, he, h]

/-- The result depends on the writes of the services and the gateways, and on
the VirtualServices of the gateways. -/
theorem generateEnvoyFilters_congr {c c' : Controller} {o : Oracle}
    (hs : serviceWrites c (o.at "ServiceEntries") ((o.at "ServiceEntries").list c.store.serviceEntries) =
      serviceWrites c' (o.at "ServiceEntries") ((o.at "ServiceEntries").list c'.store.serviceEntries))
    (hg : (gatewayWrites c o (gatewayServers ((o.at "Gateways").list c.store.gateways))).map gatewayResult =
      (gatewayWrites c' o (gatewayServers ((o.at "Gateways").list c'.store.gateways))).map gatewayResult)
    (server : ApiServer.Server ObjectKey VirtualService) :
    c.generateEnvoyFilters o server = c'.generateEnvoyFilters o server := by
  rw [generateEnvoyFilters_writes, generateEnvoyFilters_writes, hs]
  refine bind_congr fun services => ?_
  cases services.2 with
  | some err => rfl
  | none =>
    dsimp only
    rcases h : gatewayWrites c o (gatewayServers ((o.at "Gateways").list c.store.gateways)) with p | ⟨ws, ctxs⟩ <;>
    rcases h' : gatewayWrites c' o (gatewayServers ((o.at "Gateways").list c'.store.gateways)) with p' | ⟨ws', ctxs'⟩ <;>
    rw [h, h'] at hg
    · cases hg; rfl
    · cases hg
    · cases hg
    · obtain ⟨rfl, hctxs⟩ := Prod.ext_iff.mp (Except.ok.inj hg)
      rcases ctxs with _ | ctxs <;> rcases ctxs' with _ | ctxs'
      · rfl
      · cases hctxs
      · cases hctxs
      · simp only [bind, Except.bind, generateListenerForGateway,
          generatedVirtualServices_congr (Option.some.inj hctxs)]
        rfl

/-! ## Keys -/

/-- Every EnvoyFilter is written under its own key. -/
def Keyed (ws : List Write) : Prop := ∀ w ∈ ws, w = entry w.2

theorem Keyed.append {ws ws' : List Write} (h : Keyed ws) (h' : Keyed ws') : Keyed (ws ++ ws') :=
  fun w hw => (List.mem_append.mp hw).elim (h w) (h' w)

theorem keyed_nil : Keyed [] := fun _ hw => nomatch hw

theorem keyed_map_entry (wrappers : List EnvoyFilterWrapper) : Keyed (wrappers.map entry) := fun w hw => by
  obtain ⟨wrapper, -, rfl⟩ := List.mem_map.mp hw
  rfl

theorem keyed_contextWrites (c : Controller) (ctx : EnvoyFilterContext) (wrappers : List EnvoyFilterWrapper) :
    Keyed (contextWrites c ctx wrappers) := fun w hw => by
  obtain ⟨wrapper, -, hw⟩ := List.mem_flatMap.mp hw
  obtain ⟨ns, -, rfl⟩ := List.mem_map.mp hw
  rfl

theorem keyed_serviceOutcome {c : Controller} {o : Oracle} {se : Config ServiceEntry} {ws : List Write}
    (h : serviceOutcome c o se = .ok (.writes ws)) : Keyed ws := by
  unfold serviceOutcome at h
  split at h
  · cases h
  · split at h
    · cases h; exact keyed_nil
    · split at h
      · cases h
      · rename_i ctx _
        obtain ⟨r, -, h⟩ := Go.bind_eq_ok.mp h
        split at h
        · cases h; exact keyed_contextWrites c ctx _
        · cases h; exact keyed_nil

theorem keyed_serviceWrites {c : Controller} {o : Oracle} : ∀ {ses : List (Config ServiceEntry)}
    {r : List Write × Option (Option String)}, serviceWrites c o ses = .ok r → Keyed r.1
  | [], _, h => by cases h; exact keyed_nil
  | se :: ses, _, h => by
    rw [serviceWrites] at h
    obtain ⟨out, hout, h⟩ := Go.bind_eq_ok.mp h
    cases out with
    | stop err => cases h; exact keyed_nil
    | writes ws =>
      obtain ⟨r, hr, h⟩ := Go.bind_eq_ok.mp h
      cases h
      exact (keyed_serviceOutcome hout).append (keyed_serviceWrites hr)

theorem keyed_gatewayContextsWrites {generator : Generator} {o : Oracle} {ctxs : List EnvoyFilterContext}
    {ws : List Write} (h : gatewayContextsWrites generator o ctxs = .ok ws) : Keyed ws := by
  obtain ⟨wss, hwss, h⟩ := Go.bind_eq_ok.mp h
  cases h
  intro w hw
  obtain ⟨ws, hws, hw⟩ := List.mem_flatten.mp hw
  obtain ⟨ctx, -, hctx⟩ := Go.mem_of_mapM_ok hwss hws
  obtain ⟨r, -, hctx⟩ := Go.bind_eq_ok.mp hctx
  split at hctx
  · cases hctx; exact keyed_map_entry _ w hw
  · cases hctx; cases hw

theorem keyed_gatewayOutcome {c : Controller} {o : Oracle} {gateway : Config Gateway} {server : Server} {i : Nat}
    {r : List Write × List EnvoyFilterContext} (h : gatewayOutcome c o gateway server i = .ok (some r)) :
    Keyed r.1 := by
  unfold gatewayOutcome at h
  split at h
  · cases h; exact keyed_nil
  · dsimp only at h
    split at h
    · cases h; exact keyed_nil
    · split at h
      · cases h; exact keyed_nil
      · obtain ⟨new, -, h⟩ := Go.bind_eq_ok.mp h
        split at h
        · cases h
        · obtain ⟨ws, hws, h⟩ := Go.bind_eq_ok.mp h
          cases h
          exact keyed_gatewayContextsWrites hws

theorem keyed_gatewayWrites {c : Controller} {o : Oracle} : ∀ {servers : List (Config Gateway × Server × Nat)}
    {r : List Write × Option (List EnvoyFilterContext)}, gatewayWrites c o servers = .ok r → Keyed r.1
  | [], _, h => by cases h; exact keyed_nil
  | (gateway, server, i) :: rest, _, h => by
    rw [gatewayWrites] at h
    obtain ⟨out, hout, h⟩ := Go.bind_eq_ok.mp h
    cases out with
    | none => cases h; exact keyed_nil
    | some out =>
      obtain ⟨r, hr, h⟩ := Go.bind_eq_ok.mp h
      cases h
      exact (keyed_gatewayOutcome hout).append (keyed_gatewayWrites hr)

theorem keyed_generatedWrites {c : Controller} {o : Oracle} {ws : List Write}
    (h : generatedWrites c o = .ok ws) : Keyed ws := by
  obtain ⟨services, hs, h⟩ := Go.bind_eq_ok.mp h
  split at h
  · cases h; exact keyed_serviceWrites hs
  · obtain ⟨gateways, hg, h⟩ := Go.bind_eq_ok.mp h
    cases h
    exact (keyed_serviceWrites hs).append (keyed_gatewayWrites hg)

/-- Every generated EnvoyFilter is under its own key. -/
theorem keyed_generateEnvoyFilters {c : Controller} {o : Oracle}
    {server vs : ApiServer.Server ObjectKey VirtualService} {m : GoMap String EnvoyFilterWrapper}
    {err : Option String} (h : c.generateEnvoyFilters o server = .ok ((m, err), vs)) {key : String}
    {wrapper : EnvoyFilterWrapper} (hk : m.lookup key = some wrapper) :
    key = envoyFilterMapKey wrapper.name wrapper.namespace_ := by
  obtain ⟨ws, hws, rfl⟩ := generated_eq h
  rw [GoMap.lookup_writeAll, Finmap.lookup_empty, Option.or_none] at hk
  exact congrArg Prod.fst (keyed_generatedWrites hws _ (GoMap.mem_of_lastWrite hk))

end Aeraki.Proof.EnvoyFilter
