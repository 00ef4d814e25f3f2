import Aeraki.Proof.EnvoyFilter.Generate
import Aeraki.Proof.MetaProtocol.Served

/-!
# The EnvoyFilters of a gateway

For each MetaProtocol server of a gateway the controller calls the generator,
which goes through all servers of the gateway again and gives every filter it
has so far the name of the server it is at. All filters of a gateway thus end
up under the name of its last MetaProtocol server (`named_last`), and the
gateway is complete exactly when it has no more than one (`complete_iff`).
-/

namespace Aeraki.Proof.MetaProtocol

open Aeraki.Impl Aeraki.Impl.MetaProtocol
open Aeraki.Impl.Controller (entry envoyFilterMapKey gatewayServers)
open Aeraki.Proof.EnvoyFilter (outboundFilter generateNetworkFilter_eq gatewayWrites gatewayOutcome
  gatewayContextsWrites gatewayContextWrites generateGateways_eq)
open Go (bind_eq_ok run_bind_eq_ok run_bind_eq_error)

/-! ## The generator -/

/-- The port of a MetaProtocol server. -/
def metaPort (server : Server) : Option ServicePort :=
  server.port.filter fun port => (getLayer7ProtocolFromPortName port.name).isMetaProtocol

/-- The generator's turn for a MetaProtocol port. -/
def generateGatewayPort (codecs : Codecs) (context : EnvoyFilterContext) (gateway : Config Gateway)
    (envoyfilters : List EnvoyFilterWrapper) (port : ServicePort) : ExceptT String Go.Comp (List EnvoyFilterWrapper) := do
  let outboundProxy ← ExceptT.mk (buildOutboundProxy codecs context port)
  let filters ← liftM (generateReplaceNetworkFilter context.serviceEntry port
    (some (.metaProtocol outboundProxy)) none filterName filterType)
  return (envoyfilters ++ filters).map (gatewayFilter gateway port.number)

section

variable {codecs : Codecs} {context : EnvoyFilterContext} {gateway : Config Gateway}

theorem generateGatewayServer_eq (acc : List EnvoyFilterWrapper) (server : Server) :
    generateGatewayServer codecs context gateway acc server =
      match metaPort server with
      | some port => generateGatewayPort codecs context gateway acc port
      | none => pure acc := by
  unfold generateGatewayServer metaPort
  cases server.port with
  | none => rfl
  | some port =>
    simp only [Option.filter]
    by_cases h : (getLayer7ProtocolFromPortName port.name).isMetaProtocol = true
    · simp only [h, Bool.not_true, Bool.false_eq_true, if_false, if_true]
      rfl
    · simp only [h, Bool.not_false, Bool.false_eq_true, if_false, if_true]

/-- The generator goes through the MetaProtocol ports. -/
theorem generateGatewayEnvoyFilters_eq :
    generateGatewayEnvoyFilters codecs context gateway =
      ((gateway.spec.servers.filterMap metaPort).foldlM (generateGatewayPort codecs context gateway) []).run := by
  unfold generateGatewayEnvoyFilters
  rw [List.foldlM_filterMap]
  congr 2
  funext acc server
  rw [generateGatewayServer_eq]
  cases metaPort server <;> rfl

theorem generateGatewayPort_ok {acc ws : List EnvoyFilterWrapper} {port : ServicePort}
    (h : (generateGatewayPort codecs context gateway acc port).run = .ok (.ok ws)) :
    ∃ proxy filters, buildOutboundProxy codecs context port = .ok (.ok proxy) ∧
      generateReplaceNetworkFilter context.serviceEntry port (some (.metaProtocol proxy)) none filterName filterType =
        .ok filters ∧ ws = (acc ++ filters).map (gatewayFilter gateway port.number) := by
  obtain ⟨proxy, hproxy, h⟩ := run_bind_eq_ok.mp h
  obtain ⟨filters, hfilters, h⟩ := run_bind_eq_ok.mp h
  cases h
  refine ⟨proxy, filters, hproxy, ?_, rfl⟩
  generalize generateReplaceNetworkFilter context.serviceEntry port (some (.metaProtocol proxy)) none filterName
    filterType = r at hfilters
  cases r with
  | error p => cases hfilters
  | ok filters' => cases hfilters; rfl

/-- All filters have the name of the last MetaProtocol port. -/
theorem named_last {ws : List EnvoyFilterWrapper}
    (h : generateGatewayEnvoyFilters codecs context gateway = .ok (.ok ws)) {w : EnvoyFilterWrapper} (hw : w ∈ ws) :
    ∃ port, (gateway.spec.servers.filterMap metaPort).getLast? = some port ∧
      w.name = gatewayEnvoyFilterName gateway port.number ∧ w.namespace_ = gateway.namespace_ := by
  rw [generateGatewayEnvoyFilters_eq] at h
  rcases List.eq_nil_or_concat (gateway.spec.servers.filterMap metaPort) with hnil | ⟨init, port, hports⟩
  · rw [hnil] at h
    cases h
    cases hw
  · rw [hports, List.concat_eq_append] at h ⊢
    rw [List.foldlM_append] at h
    obtain ⟨acc, -, h⟩ := run_bind_eq_ok.mp h
    obtain ⟨ws', h, h'⟩ := run_bind_eq_ok.mp h
    cases h'
    obtain ⟨proxy, filters, -, -, rfl⟩ := generateGatewayPort_ok h
    obtain ⟨f, -, rfl⟩ := List.mem_map.mp hw
    exact ⟨port, List.getLast?_concat, rfl, rfl⟩

end

/-- A proxy is built, unless the codec of the port's application protocol is not
known. -/
theorem buildOutboundProxy_ok_or {codecs : Codecs} {context : EnvoyFilterContext} {port : ServicePort}
    {r : Except String MetaProtocolProxy} (h : buildOutboundProxy codecs context port = .ok r) :
    (∃ proxy codec, r = .ok proxy ∧ portCodec codecs port = .ok (.ok codec)) ∨
      ∃ err, r = .error err ∧ portCodec codecs port = .ok (.error err) := by
  unfold buildOutboundProxy at h
  obtain ⟨codec, hcodec, h⟩ := bind_eq_ok.mp h
  cases codec with
  | error err =>
    cases h
    exact .inr ⟨err, rfl, hcodec⟩
  | ok codec =>
    obtain ⟨host, -, h⟩ := bind_eq_ok.mp h
    obtain ⟨proxy, -, h⟩ := bind_eq_ok.mp h
    cases h
    exact .inl ⟨proxy, codec, rfl, hcodec⟩

theorem generateGatewayPort_error {codecs : Codecs} {context : EnvoyFilterContext} {gateway : Config Gateway}
    {acc : List EnvoyFilterWrapper} {port : ServicePort} {err : String}
    (h : (generateGatewayPort codecs context gateway acc port).run = .ok (.error err)) :
    buildOutboundProxy codecs context port = .ok (.error err) := by
  rcases run_bind_eq_error.mp h with h | ⟨proxy, -, h⟩
  · exact h
  · rcases run_bind_eq_error.mp h with h | ⟨filters, -, h⟩
    · generalize generateReplaceNetworkFilter context.serviceEntry port (some (.metaProtocol proxy)) none filterName
        filterType = r at h
      cases r <;> cases h
    · cases h

/-! ## Contexts -/

/-- A context of the gateway for one of its ports: the service it describes has
the hosts of the MetaRouter. -/
structure IsGatewayContext (gateway : Config Gateway) (context : EnvoyFilterContext) : Prop where
  virtualService : ∃ port host,
    context.virtualService = some (Controller.buildVirtualServiceWrapper port gateway.name gateway.namespace_ host)
  gateway : context.gateway = some gateway
  addresses : context.serviceEntry.spec.addresses = ["0.0.0.0"]
  hosts : ∃ metaRouter host hosts, context.metaRouter = some metaRouter ∧ metaRouter.hosts = host :: hosts ∧
    context.serviceEntry.spec.hosts = host :: hosts

theorem gatewayContext_some {c : Controller} {gateway : Config Gateway} {port : Nat} {metaRouter : MetaRouter}
    {context : EnvoyFilterContext} (h : c.gatewayContext gateway port metaRouter = .ok (some context)) :
    IsGatewayContext gateway context := by
  unfold Controller.gatewayContext at h
  split at h
  · cases h
  · obtain ⟨isMatch, -, h⟩ := bind_eq_ok.mp h
    split at h
    · cases h
    · obtain ⟨host, hhost, h⟩ := bind_eq_ok.mp h
      cases h
      obtain ⟨hosts, hhosts⟩ : ∃ hosts, metaRouter.hosts = host :: hosts :=
        List.head?_eq_some_iff.mp (by rw [List.head?_eq_getElem?]; exact Go.index_eq_ok.mp hhost)
      exact ⟨⟨port, host, rfl⟩, rfl, rfl, metaRouter, host, hosts, rfl, hhosts, hhosts⟩

theorem isGatewayContext_of_mem {c : Controller} {o : Oracle} {gateway : Config Gateway} {port : Nat}
    {contexts : List EnvoyFilterContext} (h : c.gatewayEnvoyFilterContexts o gateway port = .ok (.ok contexts))
    {context : EnvoyFilterContext} (hc : context ∈ contexts) : IsGatewayContext gateway context := by
  unfold Controller.gatewayEnvoyFilterContexts at h
  split at h
  · cases h
  · obtain ⟨found, hfound, h⟩ := bind_eq_ok.mp h
    cases h
    rw [List.reduceOption_mem_iff] at hc
    obtain ⟨metaRouter, -, hm⟩ := Go.mem_of_mapM_ok hfound hc
    exact gatewayContext_some hm

/-! ## Writes -/

/-- The site of the calls for a server of a gateway. -/
def serverSite (o : Oracle) (gateway : Config Gateway) (i : Nat) : Oracle :=
  ((o.at "Gateways").at gateway.key).at (Go.itoa i)

/-- The key of a gateway's filter. -/
def gatewayKey (gateway : Config Gateway) (port : Nat) : String :=
  envoyFilterMapKey (gatewayEnvoyFilterName gateway port) gateway.namespace_

section

variable {c : Controller} {codecs : Codecs} {o : Oracle}

/-- Whether listing the MetaRouters for a server fails. -/
def listFails (c : Controller) (o : Oracle) (x : Config Gateway × Server × Nat) : Bool :=
  match gatewayOutcome c o x.1 x.2.1 x.2.2 with
  | .ok none => true
  | _ => false

/-- The servers up to one for which listing the MetaRouters fails. -/
def handled (c : Controller) (o : Oracle) (servers : List (Config Gateway × Server × Nat)) :
    List (Config Gateway × Server × Nat) := servers.takeWhile fun x => !listFails c o x

/-- The writes are those of the handled servers. -/
theorem gatewayWrites_ok : ∀ {servers : List (Config Gateway × Server × Nat)} {r},
    gatewayWrites c o servers = .ok r →
      ∃ outs, List.Forall₂ (fun x out => gatewayOutcome c o x.1 x.2.1 x.2.2 = .ok (some out)) (handled c o servers) outs ∧
        r.1 = (outs.map Prod.fst).flatten
  | [], _, h => by
    cases h
    exact ⟨[], .nil, rfl⟩
  | x :: rest, r, h => by
    rw [gatewayWrites] at h
    obtain ⟨out, hout, h⟩ := bind_eq_ok.mp h
    have hfails : listFails c o x = out.isNone := by
      rw [listFails, hout]
      cases out <;> rfl
    cases out with
    | none =>
      cases h
      refine ⟨[], ?_, rfl⟩
      rw [handled, List.takeWhile_cons_of_neg (by simp [hfails])]
      exact .nil
    | some out =>
      obtain ⟨r', hr', h⟩ := bind_eq_ok.mp h
      cases h
      obtain ⟨outs, houts, hr⟩ := gatewayWrites_ok hr'
      refine ⟨out :: outs, ?_, by rw [List.map_cons, List.flatten_cons, ← hr]⟩
      rw [handled, List.takeWhile_cons_of_pos (by simp [hfails])]
      exact .cons hout houts

/-- What a server's turn did: nothing if it is no MetaProtocol server, and
otherwise it wrote for each context of its port. -/
theorem gatewayOutcome_cases (hgen : c.generators .MetaProtocol = some (generate codecs)) {gateway : Config Gateway}
    {server : Server} {i : Nat} {out : List (String × EnvoyFilterWrapper) × List EnvoyFilterContext}
    (h : gatewayOutcome c o gateway server i = .ok (some out)) :
    (metaPort server = none ∧ out = ([], [])) ∨ ∃ port contexts, metaPort server = some port ∧
      c.gatewayEnvoyFilterContexts (serverSite o gateway i) gateway port.number = .ok (.ok contexts) ∧
      ∃ ess, List.Forall₂ (fun x es =>
          gatewayContextWrites (generate codecs) ((serverSite o gateway i).at (Go.itoa x.2)) x.1 = .ok es)
        contexts.zipIdx ess ∧ out = (ess.flatten, contexts) := by
  unfold gatewayOutcome at h
  cases hport : server.port with
  | none =>
    rw [hport] at h
    cases h
    exact .inl ⟨by rw [metaPort, hport]; rfl, rfl⟩
  | some port =>
    rw [hport] at h
    cases hp : getLayer7ProtocolFromPortName port.name
    case MetaProtocol =>
      simp only [hp, Instance.isMetaProtocol, Bool.not_true, Bool.false_eq_true, if_false, hgen] at h
      obtain ⟨r, hr, h⟩ := bind_eq_ok.mp h
      cases r with
      | error err => cases h
      | ok contexts =>
        obtain ⟨es, hes, h⟩ := bind_eq_ok.mp h
        cases h
        obtain ⟨ess, hess, hes⟩ := bind_eq_ok.mp hes
        cases hes
        refine .inr ⟨port, contexts, ?_, hr, ess, Go.mapM_ok_forall hess, rfl⟩
        simp [metaPort, hport, Option.filter, hp, Instance.isMetaProtocol]
    all_goals
      simp only [hp, Instance.isMetaProtocol, Bool.not_false, if_true] at h
      cases h
      exact .inl ⟨by simp [metaPort, hport, Option.filter, hp, Instance.isMetaProtocol], rfl⟩

/-- What is written for a context. -/
theorem gatewayContextWrites_ok {gateway : Config Gateway} {context : EnvoyFilterContext}
    (hcontext : context.gateway = some gateway) {es : List (String × EnvoyFilterWrapper)}
    (h : gatewayContextWrites (generate codecs) o context = .ok es) :
    (∃ ws, generateGatewayEnvoyFilters codecs context gateway = .ok (.ok ws) ∧ es = ws.map entry) ∨
      (∃ err, generateGatewayEnvoyFilters codecs context gateway = .ok (.error err)) ∧ es = [] := by
  unfold gatewayContextWrites generate at h
  rw [hcontext] at h
  obtain ⟨r, hr, h⟩ := bind_eq_ok.mp h
  cases r with
  | ok ws => cases h; exact .inl ⟨ws, hr, rfl⟩
  | error err => cases h; exact .inr ⟨⟨err, hr⟩, rfl⟩

/-- All writes for a gateway are under the name of its last MetaProtocol port. -/
theorem gatewayOutcome_named (hgen : c.generators .MetaProtocol = some (generate codecs)) {gateway : Config Gateway}
    {server : Server} {i : Nat} {out : List (String × EnvoyFilterWrapper) × List EnvoyFilterContext}
    (h : gatewayOutcome c o gateway server i = .ok (some out)) {e : String × EnvoyFilterWrapper} (he : e ∈ out.1) :
    ∃ port, (gateway.spec.servers.filterMap metaPort).getLast? = some port ∧ e = entry e.2 ∧
      e.2.name = gatewayEnvoyFilterName gateway port.number ∧ e.2.namespace_ = gateway.namespace_ := by
  rcases gatewayOutcome_cases hgen h with ⟨-, hnil⟩ | ⟨port, contexts, -, hcontexts, ess, hess, hout⟩
  · rw [hnil] at he
    cases he
  · rw [hout] at he
    obtain ⟨es, hes, he⟩ := List.mem_flatten.mp he
    obtain ⟨x, hx, hwrites⟩ := Go.exists_of_forall₂_right hess hes
    have hcontext := isGatewayContext_of_mem hcontexts (List.fst_mem_of_mem_zipIdx hx)
    rcases gatewayContextWrites_ok hcontext.gateway hwrites with ⟨ws, hws, rfl⟩ | ⟨-, rfl⟩
    · obtain ⟨w, hw, rfl⟩ := List.mem_map.mp he
      obtain ⟨last, hlast, hname, hns⟩ := named_last hws hw
      exact ⟨last, hlast, rfl, hname, hns⟩
    · cases he

end

/-! ## Keys -/

/-- The key of a gateway's filter tells the gateway and the port: a namespace has
no dot. -/
theorem gatewayKey_inj {g g' : Config Gateway} (hg : '.' ∉ g.namespace_.toList) (hg' : '.' ∉ g'.namespace_.toList)
    {port port' : Nat} (h : gatewayKey g port = gatewayKey g' port') :
    g.namespace_ = g'.namespace_ ∧ g.name = g'.name ∧ port = port' := by
  have split (g : Config Gateway) (port : Nat) : gatewayKey g port =
      g.namespace_ ++ "-" ++ "aeraki-gateway-outbound-" ++ g.name ++ "." ++ g.namespace_ ++ "-" ++ Go.itoa port := by
    unfold gatewayKey envoyFilterMapKey gatewayEnvoyFilterName
    simp only [String.append_assoc]
  rw [split, split] at h
  obtain ⟨h, hport⟩ := (Go.append_itoa_inj rfl rfl).mp h
  obtain ⟨h, hns⟩ := (Go.append_sep_inj rfl hg hg').mp h
  rw [hns, String.append_right_inj] at h
  exact ⟨hns, h, hport⟩

/-! ## Completeness -/

/-- The MetaProtocol servers of a gateway: their ports and positions. -/
def metaServers (gateway : Config Gateway) : List (ServicePort × Nat) :=
  gateway.spec.servers.zipIdx.filterMap fun s => (metaPort s.1).map (·, s.2)

theorem map_fst_metaServers (gateway : Config Gateway) :
    (metaServers gateway).map Prod.fst = gateway.spec.servers.filterMap metaPort := by
  conv_rhs => rw [← List.zipIdx_map_fst 0 gateway.spec.servers, List.filterMap_map]
  rw [metaServers, List.map_filterMap]
  congr 1
  funext s
  cases h : metaPort s.1 <;> simp [h]

theorem mem_metaServers {gateway : Config Gateway} {p : ServicePort × Nat} :
    p ∈ metaServers gateway ↔ ∃ server, gateway.spec.servers[p.2]? = some server ∧ metaPort server = some p.1 := by
  rcases p with ⟨port, i⟩
  simp only [metaServers, List.mem_filterMap, Option.map_eq_some_iff, Prod.mk.injEq, Prod.exists,
    List.mk_mem_zipIdx_iff_getElem?]
  constructor
  · rintro ⟨server, j, hserver, _, hport, rfl, rfl⟩
    exact ⟨server, hserver, hport⟩
  · rintro ⟨server, hserver, hport⟩
    exact ⟨server, i, hserver, port, hport, rfl, rfl⟩

/-- The one MetaRouter that is selected for a port of the gateway. -/
def Selects (c : Controller) (o : Oracle) (gateway : Config Gateway) (p : ServicePort × Nat)
    (metaRouter : MetaRouter) : Prop :=
  ∃ context, c.gatewayEnvoyFilterContexts (serverSite o gateway p.2) gateway p.1.number = .ok (.ok [context]) ∧
    context.metaRouter = some metaRouter

/-- The filter of a gateway's port, for the routes of a host. -/
structure IsFilterOf (gateway : Config Gateway) (port : Nat) (host : String) (w : EnvoyFilterWrapper) : Prop where
  name : w.name = gatewayEnvoyFilterName gateway port
  namespace_ : w.namespace_ = gateway.namespace_
  listener : MatchesListener w ("0.0.0.0_" ++ Go.itoa port)
  routes : routeConfigNames w = [host ++ "_" ++ Go.itoa port]

/-- The map has the filter of each port. -/
def Complete (c : Controller) (o : Oracle) (gateway : Config Gateway) (m : GoMap String EnvoyFilterWrapper) : Prop :=
  ∀ p ∈ metaServers gateway, ∀ metaRouter host, Selects c o gateway p metaRouter →
    metaRouter.hosts.head? = some host → ∃ k w, m.lookup k = some w ∧ IsFilterOf gateway p.1.number host w

/-- The filters for the only MetaProtocol port of a gateway. -/
theorem generate_only {codecs : Codecs} {context : EnvoyFilterContext} {gateway : Config Gateway} {port : ServicePort}
    (hone : gateway.spec.servers.filterMap metaPort = [port]) (hcontext : IsGatewayContext gateway context)
    {ws : List EnvoyFilterWrapper} (h : generateGatewayEnvoyFilters codecs context gateway = .ok (.ok ws)) :
    (∃ codec, portCodec codecs port = .ok (.ok codec)) ∧
      ∃ w metaRouter host, ws = [w] ∧ context.metaRouter = some metaRouter ∧ metaRouter.hosts.head? = some host ∧
        IsFilterOf gateway port.number host w := by
  rw [generateGatewayEnvoyFilters_eq, hone, List.foldlM_cons] at h
  obtain ⟨ws', h, h'⟩ := run_bind_eq_ok.mp h
  cases h'
  obtain ⟨proxy, filters, hproxy, hfilters, rfl⟩ := generateGatewayPort_ok h
  obtain ⟨metaRouter, host, hosts, hmetaRouter, hhosts, hh⟩ := hcontext.hosts
  rw [generateReplaceNetworkFilter, generateNetworkFilter_eq hh, hcontext.addresses] at hfilters
  cases hfilters
  constructor
  · rcases buildOutboundProxy_ok_or hproxy with ⟨_, codec, -, hcodec⟩ | ⟨_, h, -⟩
    · exact ⟨codec, hcodec⟩
    · cases h
  · refine ⟨_, metaRouter, host, rfl, hmetaRouter, by rw [hhosts]; rfl, rfl, rfl, ?_, ?_⟩
    · exact ⟨_, List.mem_singleton_self _, _, rfl⟩
    · simp only [routeConfigNames, gatewayFilter, outboundFilter, generateValue, List.filterMap_cons,
        List.filterMap_nil, Option.bind_some, routeConfigName, buildOutboundProxy_rds hproxy hh]
      rfl

theorem generate_only_error {codecs : Codecs} {context : EnvoyFilterContext} {gateway : Config Gateway}
    {port : ServicePort} (hone : gateway.spec.servers.filterMap metaPort = [port]) {err : String}
    (h : generateGatewayEnvoyFilters codecs context gateway = .ok (.error err)) :
    portCodec codecs port = .ok (.error err) := by
  rw [generateGatewayEnvoyFilters_eq, hone, List.foldlM_cons] at h
  rcases run_bind_eq_error.mp h with h | ⟨ws, -, h⟩
  · rcases buildOutboundProxy_ok_or (generateGatewayPort_error h) with ⟨_, _, h, -⟩ | ⟨_, h, hcodec⟩
    · cases h
    · cases h
      exact hcodec
  · cases h

/-- The servers in the order in which the controller goes through them. -/
def serversOf (c : Controller) (o : Oracle) : List (Config Gateway × Server × Nat) :=
  gatewayServers ((o.at "Gateways").list c.store.gateways)

theorem of_mem_serversOf {c : Controller} {o : Oracle} {x : Config Gateway × Server × Nat} (h : x ∈ serversOf c o) :
    x.1 ∈ c.store.gateways ∧ x.1.spec.servers[x.2.2]? = some x.2.1 := by
  obtain ⟨g, hg, hx⟩ := List.mem_flatMap.mp h
  obtain ⟨s, hs, rfl⟩ := List.mem_map.mp hx
  exact ⟨EnvoyFilter.mem_list.mp hg, List.mk_mem_zipIdx_iff_getElem?.mp hs⟩

/-- The controller gets to the server of the port. -/
def Reached (c : Controller) (o : Oracle) (gateway : Config Gateway) (p : ServicePort × Nat) : Prop :=
  ∃ server, metaPort server = some p.1 ∧ (gateway, server, p.2) ∈ handled c o (serversOf c o)

/-- What the gateways of a cluster are told apart by: a namespace has no dots, and
no two gateways the same name. -/
structure Identified (gateways : List (Config Gateway)) : Prop where
  label : ∀ g ∈ gateways, '.' ∉ g.namespace_.toList
  unique : ∀ g ∈ gateways, ∀ g' ∈ gateways, g.namespace_ = g'.namespace_ → g.name = g'.name → g = g'

/-- No filter in the map has a name of the gateway's. -/
def Fresh (gateway : Config Gateway) (m : GoMap String EnvoyFilterWrapper) : Prop :=
  ∀ k w port, m.lookup k = some w → w.namespace_ = gateway.namespace_ → w.name ≠ gatewayEnvoyFilterName gateway port

/-- The map after the gateways. -/
theorem generate_writes {c : Controller} {o : Oracle} {m₀ m : GoMap String EnvoyFilterWrapper}
    {vs vs' : ApiServer.Server ObjectKey VirtualService} {err : Option String}
    (h : c.generateGatewayEnvoyFilters o m₀ vs = .ok ((m, err), vs')) :
    ∃ outs, List.Forall₂ (fun x out => gatewayOutcome c o x.1 x.2.1 x.2.2 = .ok (some out))
        (handled c o (serversOf c o)) outs ∧ m = GoMap.writeAll m₀ (outs.map Prod.fst).flatten := by
  unfold Controller.generateGatewayEnvoyFilters at h
  dsimp only at h
  rw [generateGateways_eq] at h
  cases hw : gatewayWrites c o (serversOf c o) with
  | error p =>
    rw [show gatewayWrites c o (gatewayServers ((o.at "Gateways").list c.store.gateways)) = _ from hw] at h
    cases h
  | ok r =>
    rw [show gatewayWrites c o (gatewayServers ((o.at "Gateways").list c.store.gateways)) = _ from hw] at h
    obtain ⟨outs, houts, hr⟩ := gatewayWrites_ok hw
    refine ⟨outs, houts, ?_⟩
    rw [← hr]
    rcases r with ⟨ws, _ | ctxs⟩ <;> cases h <;> rfl

section

variable {c : Controller} {codecs : Codecs} {o : Oracle} {gateway : Config Gateway}
  {m₀ : GoMap String EnvoyFilterWrapper}
  (hgen : c.generators .MetaProtocol = some (generate codecs)) (hstore : Identified c.store.gateways)
  (hg : gateway ∈ c.store.gateways)
include hgen hstore hg

/-- A write under the key of the gateway is one for the gateway, and the port in
its name is the last one. -/
theorem of_gatewayKey {x : Config Gateway × Server × Nat} (hx : x ∈ serversOf c o)
    {out : List (String × EnvoyFilterWrapper) × List EnvoyFilterContext}
    (hout : gatewayOutcome c o x.1 x.2.1 x.2.2 = .ok (some out)) {e : String × EnvoyFilterWrapper} (he : e ∈ out.1)
    {port : Nat} (hkey : e.1 = gatewayKey gateway port) :
    x.1 = gateway ∧ ∃ last, (gateway.spec.servers.filterMap metaPort).getLast? = some last ∧ last.number = port := by
  obtain ⟨last, hlast, heq, hname, hns⟩ := gatewayOutcome_named hgen hout he
  have hx := (of_mem_serversOf hx).1
  have hkeys : gatewayKey x.1 last.number = gatewayKey gateway port := by
    rw [← hkey, heq, gatewayKey, ← hname, ← hns]
    rfl
  obtain ⟨hns, hname, hport⟩ := gatewayKey_inj (hstore.label _ hx) (hstore.label _ hg) hkeys
  have heq := hstore.unique _ hx _ hg hns hname
  exact ⟨heq, last, heq ▸ hlast, hport⟩

/-- A filter of the gateway that was not in the map before was written for one of
its servers, under the last port. -/
theorem written_for {outs : List (List (String × EnvoyFilterWrapper) × List EnvoyFilterContext)}
    (houts : List.Forall₂ (fun x out => gatewayOutcome c o x.1 x.2.1 x.2.2 = .ok (some out))
      (handled c o (serversOf c o)) outs) (hm₀ : Fresh gateway m₀) {k : String} {w : EnvoyFilterWrapper} {port : Nat}
    (hk : (GoMap.writeAll m₀ (outs.map Prod.fst).flatten).lookup k = some w)
    (hname : w.name = gatewayEnvoyFilterName gateway port) (hns : w.namespace_ = gateway.namespace_) :
    ∃ server i out, (gateway, server, i) ∈ handled c o (serversOf c o) ∧
      gatewayOutcome c o gateway server i = .ok (some out) ∧ (k, w) ∈ out.1 ∧
      ∃ last, (gateway.spec.servers.filterMap metaPort).getLast? = some last ∧ last.number = port := by
  rw [GoMap.lookup_writeAll] at hk
  cases hlast : GoMap.lastWrite (outs.map Prod.fst).flatten k with
  | none =>
    rw [hlast] at hk
    exact absurd hname (hm₀ k w port hk hns)
  | some w' =>
    rw [hlast] at hk
    cases hk
    obtain ⟨es, hes, hmem⟩ := List.mem_flatten.mp (GoMap.mem_of_lastWrite hlast)
    obtain ⟨out, hout, rfl⟩ := List.mem_map.mp hes
    obtain ⟨⟨g, server, i⟩, hx, houtcome⟩ := Go.exists_of_forall₂_right houts hout
    obtain ⟨_, -, hentry, -, -⟩ := gatewayOutcome_named hgen houtcome hmem
    have hkey : k = gatewayKey gateway port := by
      rw [gatewayKey, ← hname, ← hns]
      exact congrArg Prod.fst hentry
    obtain ⟨heq, hport⟩ := of_gatewayKey hgen hstore hg (List.takeWhile_subset _ hx) houtcome hmem hkey
    cases heq
    exact ⟨server, i, out, hx, houtcome, hmem, hport⟩

omit hstore hg in
/-- What is written for the only MetaProtocol server of a gateway is its filter. -/
theorem only_write {p : ServicePort × Nat} (hone : metaServers gateway = [p]) {server : Server} {i : Nat}
    (hserver : gateway.spec.servers[i]? = some server)
    {out : List (String × EnvoyFilterWrapper) × List EnvoyFilterContext}
    (hout : gatewayOutcome c o gateway server i = .ok (some out)) {e : String × EnvoyFilterWrapper} (he : e ∈ out.1) :
    metaPort server = some p.1 ∧ i = p.2 ∧ (∃ codec, portCodec codecs p.1 = .ok (.ok codec)) ∧
      ∀ metaRouter host, Selects c o gateway p metaRouter → metaRouter.hosts.head? = some host →
        IsFilterOf gateway p.1.number host e.2 := by
  have hports : gateway.spec.servers.filterMap metaPort = [p.1] := by rw [← map_fst_metaServers, hone]; rfl
  rcases gatewayOutcome_cases hgen hout with ⟨-, hnil⟩ | ⟨port, contexts, hport, hcontexts, ess, hess, hes⟩
  · rw [hnil] at he
    cases he
  · have hp : (port, i) ∈ metaServers gateway := mem_metaServers.mpr ⟨server, hserver, hport⟩
    rw [hone] at hp
    cases List.mem_singleton.mp hp
    rw [hes] at he
    obtain ⟨es, hes, he⟩ := List.mem_flatten.mp he
    obtain ⟨x, hx, hwrites⟩ := Go.exists_of_forall₂_right hess hes
    have hx := List.fst_mem_of_mem_zipIdx hx
    have hcontext := isGatewayContext_of_mem hcontexts hx
    rcases gatewayContextWrites_ok hcontext.gateway hwrites with ⟨ws, hws, rfl⟩ | ⟨-, rfl⟩
    · obtain ⟨hcodec, w, metaRouter, host, rfl, hmetaRouter, hhost, hw⟩ := generate_only hports hcontext hws
      cases List.mem_singleton.mp he
      refine ⟨hport, rfl, hcodec, ?_⟩
      rintro metaRouter' host' ⟨context, hsel, hctx⟩ hhost'
      cases hcontexts.symm.trans hsel
      cases List.mem_singleton.mp hx
      cases hmetaRouter.symm.trans hctx
      cases hhost.symm.trans hhost'
      exact hw
    · cases he

omit hstore hg in
/-- If the codec is known, the only MetaProtocol server of a gateway has a write. -/
theorem only_writes {p : ServicePort × Nat} (hone : metaServers gateway = [p]) {server : Server}
    (hport : metaPort server = some p.1) {metaRouter : MetaRouter} (hsel : Selects c o gateway p metaRouter)
    {codec : String × String} (hcodec : portCodec codecs p.1 = .ok (.ok codec))
    {out : List (String × EnvoyFilterWrapper) × List EnvoyFilterContext}
    (hout : gatewayOutcome c o gateway server p.2 = .ok (some out)) :
    ∃ e ∈ out.1, e.1 = gatewayKey gateway p.1.number := by
  have hports : gateway.spec.servers.filterMap metaPort = [p.1] := by rw [← map_fst_metaServers, hone]; rfl
  obtain ⟨context, hcontext, -⟩ := hsel
  rcases gatewayOutcome_cases hgen hout with ⟨h, -⟩ | ⟨port, contexts, h, hcontexts, ess, hess, hes⟩
  · cases h.symm.trans hport
  · cases h.symm.trans hport
    cases hcontexts.symm.trans hcontext
    have hctx := isGatewayContext_of_mem hcontext (List.mem_singleton_self context)
    obtain ⟨es, hmem, hwrites⟩ := Go.exists_of_forall₂_left hess (x := (context, 0)) (List.mem_singleton_self _)
    rcases gatewayContextWrites_ok hctx.gateway hwrites with ⟨ws, hws, rfl⟩ | ⟨⟨err, herr⟩, -⟩
    · obtain ⟨-, w, _, _, rfl, -, -, hw⟩ := generate_only hports hctx hws
      refine ⟨entry w, hes ▸ List.mem_flatten.mpr ⟨_, hmem, List.mem_singleton_self _⟩, ?_⟩
      rw [entry, hw.name, hw.namespace_]
      rfl
    · cases hcodec.symm.trans (generate_only_error hports herr)

/-- A complete map is one of a gateway with at most one MetaProtocol server. -/
theorem one_of_complete {outs : List (List (String × EnvoyFilterWrapper) × List EnvoyFilterContext)}
    (houts : List.Forall₂ (fun x out => gatewayOutcome c o x.1 x.2.1 x.2.2 = .ok (some out))
      (handled c o (serversOf c o)) outs)
    (hports : (metaServers gateway).Pairwise fun p q => p.1.number ≠ q.1.number)
    (hsel : ∀ p ∈ metaServers gateway, ∃ metaRouter, Selects c o gateway p metaRouter) (hm₀ : Fresh gateway m₀)
    (hcomplete : Complete c o gateway (GoMap.writeAll m₀ (outs.map Prod.fst).flatten)) :
    metaServers gateway = [] ∨
      ∃ p, metaServers gateway = [p] ∧ Reached c o gateway p ∧ ∃ codec, portCodec codecs p.1 = .ok (.ok codec) := by
  cases hservers : metaServers gateway with
  | nil => exact .inl rfl
  | cons p rest =>
    have hp : p ∈ metaServers gateway := hservers ▸ List.mem_cons_self
    obtain ⟨metaRouter, context, hcontexts, hctx⟩ := hsel p hp
    obtain ⟨metaRouter', host, hosts, hctx', hhosts, -⟩ :=
      (isGatewayContext_of_mem hcontexts (List.mem_singleton_self context)).hosts
    cases hctx.symm.trans hctx'
    obtain ⟨k, w, hk, hw⟩ := hcomplete p hp metaRouter host ⟨context, hcontexts, hctx⟩ (by rw [hhosts]; rfl)
    obtain ⟨server, i, out, hx, hout, hmem, last, hlast, hport⟩ :=
      written_for hgen hstore hg houts hm₀ hk hw.name hw.namespace_
    cases rest with
    | nil =>
      have hserver := (of_mem_serversOf (List.takeWhile_subset _ hx)).2
      obtain ⟨hmeta, rfl, hcodec, -⟩ := only_write hgen hservers hserver hout hmem
      exact .inr ⟨p, rfl, ⟨server, hmeta, hx⟩, hcodec⟩
    | cons q rest =>
      -- the last port is not the first one
      rw [← map_fst_metaServers, hservers, List.map_cons, List.map_cons, List.getLast?_cons_cons,
        ← List.map_cons] at hlast
      obtain ⟨q', hq', rfl⟩ := List.mem_map.mp (List.mem_of_getLast? hlast)
      rw [hservers] at hports
      exact absurd hport.symm (List.rel_of_pairwise_cons hports hq')

/-- The filter of the only MetaProtocol server is in the map: whatever was written
last under its key is it. -/
theorem complete_of_one {outs : List (List (String × EnvoyFilterWrapper) × List EnvoyFilterContext)}
    (houts : List.Forall₂ (fun x out => gatewayOutcome c o x.1 x.2.1 x.2.2 = .ok (some out))
      (handled c o (serversOf c o)) outs) {p : ServicePort × Nat} (hone : metaServers gateway = [p])
    (hreached : Reached c o gateway p) {codec : String × String} (hcodec : portCodec codecs p.1 = .ok (.ok codec)) :
    Complete c o gateway (GoMap.writeAll m₀ (outs.map Prod.fst).flatten) := by
  rintro p' hp' metaRouter host hmetaRouter hhost
  rw [hone] at hp'
  cases List.mem_singleton.mp hp'
  obtain ⟨server, hport, hx⟩ := hreached
  obtain ⟨out, hout, houtcome⟩ := Go.exists_of_forall₂_left houts hx
  obtain ⟨e, he, hkey⟩ := only_writes hgen hone hport hmetaRouter hcodec houtcome
  have hmem : e ∈ (outs.map Prod.fst).flatten := List.mem_flatten.mpr ⟨_, List.mem_map_of_mem hout, he⟩
  cases hlast : GoMap.lastWrite (outs.map Prod.fst).flatten e.1 with
  | none => exact absurd (List.mem_map_of_mem hmem) (GoMap.lastWrite_eq_none_iff.mp hlast)
  | some w =>
    refine ⟨e.1, w, by rw [GoMap.lookup_writeAll, hlast, Option.some_or], ?_⟩
    obtain ⟨es, hes, hw⟩ := List.mem_flatten.mp (GoMap.mem_of_lastWrite hlast)
    obtain ⟨out', hout', rfl⟩ := List.mem_map.mp hes
    obtain ⟨⟨g, server', i⟩, hx', houtcome'⟩ := Go.exists_of_forall₂_right houts hout'
    have hserver' := List.takeWhile_subset _ hx'
    obtain ⟨heq, -⟩ := of_gatewayKey hgen hstore hg hserver' houtcome' hw hkey
    cases heq
    exact (only_write hgen hone (of_mem_serversOf hserver').2 houtcome' hw).2.2.2 metaRouter host hmetaRouter hhost

/-- The map is complete for the gateway exactly if the gateway has at most one
MetaProtocol server, and the controller gets to it and knows its codec. -/
theorem complete_iff (vs : ApiServer.Server ObjectKey VirtualService)
    (hports : (metaServers gateway).Pairwise fun p q => p.1.number ≠ q.1.number)
    (hsel : ∀ p ∈ metaServers gateway, ∃ metaRouter, Selects c o gateway p metaRouter) (hm₀ : Fresh gateway m₀) :
    (∃ m err vs', c.generateGatewayEnvoyFilters o m₀ vs = .ok ((m, err), vs') ∧ Complete c o gateway m) ↔
      (∃ r, c.generateGatewayEnvoyFilters o m₀ vs = .ok r) ∧ (metaServers gateway = [] ∨
        ∃ p, metaServers gateway = [p] ∧ Reached c o gateway p ∧ ∃ codec, portCodec codecs p.1 = .ok (.ok codec)) := by
  constructor
  · rintro ⟨m, err, vs', hrun, hcomplete⟩
    obtain ⟨outs, houts, rfl⟩ := generate_writes hrun
    exact ⟨⟨_, hrun⟩, one_of_complete hgen hstore hg houts hports hsel hm₀ hcomplete⟩
  · rintro ⟨⟨⟨⟨m, err⟩, vs'⟩, hrun⟩, hcond⟩
    refine ⟨m, err, vs', hrun, ?_⟩
    obtain ⟨outs, houts, rfl⟩ := generate_writes hrun
    rcases hcond with hnil | ⟨p, hone, hreached, codec, hcodec⟩
    · intro p hp
      rw [hnil] at hp
      cases hp
    · exact complete_of_one hgen hstore hg houts hone hreached hcodec

end

/-- A gateway in front of Dubbo services, with the ports of its servers. -/
def dubboGateway (ports : List ServicePort) : Config Gateway where
  name := "gw"
  namespace_ := "ns"
  spec := { servers := ports.map fun port => ⟨some port⟩ }

/-- A MetaRouter that attaches a host to the gateway at a port. -/
def attached (host : String) (port : Nat) : MetaRouter where
  name := host
  namespace_ := "ns"
  hosts := [host]
  gateways := ["gw"]
  routes := [some { route := [some ⟨some { host := host, port := some port }, 0⟩] }]

/-- The controller of a cluster with the gateway. -/
def gatewayController (ports : List ServicePort) (metaRouters : List MetaRouter) : Controller where
  store := { gateways := [dubboGateway ports] }
  metaRouters := metaRouters
  generators := generators {} {}

def dubboPort : ServicePort := ⟨20880, "tcp-metaprotocol-dubbo"⟩

def thriftPort : ServicePort := ⟨9090, "tcp-metaprotocol-thrift"⟩

theorem identified_dubboGateway (ports : List ServicePort) : Identified [dubboGateway ports] where
  label g hg := by
    cases List.mem_singleton.mp hg
    show '.' ∉ "ns".toList
    decide
  unique g hg g' hg' _ _ := (List.mem_singleton.mp hg).trans (List.mem_singleton.mp hg').symm

theorem fresh_empty (gateway : Config Gateway) : Fresh gateway ∅ := fun k w port h => by
  rw [Finmap.lookup_empty] at h
  cases h

/-- A gateway with one MetaProtocol server. -/
def oneServer : Controller := gatewayController [dubboPort] [attached "a" 20880]

/-- A gateway with two MetaProtocol servers. -/
def twoServers : Controller := gatewayController [dubboPort, thriftPort] [attached "a" 20880, attached "b" 9090]

theorem oneServer_complete : ∃ m err vs',
    oneServer.generateGatewayEnvoyFilters {} ∅ ⟨∅, 1, fun _ => false, 0, []⟩ = .ok ((m, err), vs') ∧
      Complete oneServer {} (dubboGateway [dubboPort]) m := by
  have hgen : oneServer.generators .MetaProtocol = some (generate builtinCodecs) := rfl
  have hsel : ∀ p ∈ metaServers (dubboGateway [dubboPort]), ∃ metaRouter,
      Selects oneServer {} (dubboGateway [dubboPort]) p metaRouter := by
    intro p hp
    cases List.mem_singleton.mp (show p ∈ [(dubboPort, 0)] from hp)
    exact ⟨attached "a" 20880, _, rfl, rfl⟩
  refine (complete_iff hgen (identified_dubboGateway _) (List.mem_singleton_self _) _ (List.pairwise_singleton _ _) hsel
    (fresh_empty _)).mpr ⟨⟨_, rfl⟩, .inr ⟨(dubboPort, 0), rfl, ⟨⟨some dubboPort⟩, rfl, ?_⟩, _, rfl⟩⟩
  exact List.mem_cons_self

/-- With two, the map lacks a filter, although each port has its MetaRouter. -/
theorem twoServers_incomplete :
    (metaServers (dubboGateway [dubboPort, thriftPort])).Pairwise (fun p q => p.1.number ≠ q.1.number) ∧
    (∀ p ∈ metaServers (dubboGateway [dubboPort, thriftPort]), ∃ metaRouter,
      Selects twoServers {} (dubboGateway [dubboPort, thriftPort]) p metaRouter) ∧
    ∃ m err vs', twoServers.generateGatewayEnvoyFilters {} ∅ ⟨∅, 1, fun _ => false, 0, []⟩ = .ok ((m, err), vs') ∧
      ¬Complete twoServers {} (dubboGateway [dubboPort, thriftPort]) m := by
  have hgen : twoServers.generators .MetaProtocol = some (generate builtinCodecs) := rfl
  have hports : (metaServers (dubboGateway [dubboPort, thriftPort])).Pairwise fun p q => p.1.number ≠ q.1.number := by
    decide
  have hsel : ∀ p ∈ metaServers (dubboGateway [dubboPort, thriftPort]), ∃ metaRouter,
      Selects twoServers {} (dubboGateway [dubboPort, thriftPort]) p metaRouter := by
    intro p hp
    have hp : p ∈ [(dubboPort, 0), (thriftPort, 1)] := hp
    simp only [List.mem_cons, List.not_mem_nil, or_false] at hp
    rcases hp with rfl | rfl
    · exact ⟨attached "a" 20880, _, rfl, rfl⟩
    · exact ⟨attached "b" 9090, _, rfl, rfl⟩
  obtain ⟨⟨⟨m, err⟩, vs'⟩, hrun⟩ :
    ∃ r, twoServers.generateGatewayEnvoyFilters {} ∅ ⟨∅, 1, fun _ => false, 0, []⟩ = .ok r := ⟨_, rfl⟩
  refine ⟨hports, hsel, m, err, vs', hrun, fun hcomplete => ?_⟩
  obtain ⟨outs, houts, rfl⟩ := generate_writes hrun
  rcases one_of_complete hgen (identified_dubboGateway _) (List.mem_singleton_self _) houts hports hsel (fresh_empty _)
    hcomplete with h | ⟨p, h, -⟩
  · cases congrArg List.length h
  · cases congrArg List.length h

end Aeraki.Proof.MetaProtocol
