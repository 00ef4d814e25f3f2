import Aeraki.Proof.EnvoyFilter.Idempotent
import Aeraki.Proof.EnvoyFilter.Names
import Aeraki.Proof.EnvoyFilter.Ports
import Aeraki.Proof.MetaProtocol.Gateway

/-!
# The turns of a run

If no call fails and every service has hosts, a run gives each service and each gateway
its turn (`turns_of_generatedMaps`), and what it generates is what the turns write
(`Turns.generatedMaps`). A service writes under names of its first host, in the
namespaces it is exported to (`key_of_turn`); a gateway under its own name, in its own
namespace (`gatewayTurn_forGateway`). The keys tell these apart: that of an EnvoyFilter
its namespace and its name (`envoyFilterMapKey_inj`), the name of a service its host
(`NamedAfter.host_eq`), the key of a gateway's VirtualService the gateway
(`listenerKey_inj`).
-/

namespace Aeraki.Proof.EnvoyFilter

open Aeraki.Impl Aeraki.Impl.Controller

/-- How the names of EnvoyFilters start. -/
def IsAeraki (name : String) : Prop := ∃ body, name = "aeraki" ++ "-" ++ body

/-- The namespaces that the EnvoyFilters are written to. -/
def targetNamespaces (c : Controller) : List String :=
  (c.store.serviceEntries.flatMap fun se => (none :: c.metaRouters.map some).flatMap fun metaRouter =>
    c.exportNSs { meshConfig := c.meshConfig, serviceEntry := se, metaRouter := metaRouter }) ++
  c.store.gateways.map (·.namespace_)

/-! ## Services -/

section

variable {d : Deployment} {store : ConfigStore} {o : Oracle}

/-- What a service's turn writes. -/
def turnWrites (c : Controller) (o : Oracle) (se : Config ServiceEntry) : List Write :=
  match serviceOutcome c o se with
  | .ok (.writes ws) => ws
  | _ => []

theorem serviceWrites_turns {c : Controller} : ∀ {ses : List (Config ServiceEntry)},
    (∀ se ∈ ses, serviceOutcome c o se = .ok (.writes (turnWrites c o se))) →
      serviceWrites c o ses = .ok (ses.flatMap (turnWrites c o), none)
  | [], _ => rfl
  | se :: ses, h => by
    rw [serviceWrites, h se List.mem_cons_self]
    simp only [bind, Except.bind, serviceWrites_turns fun se' hse' => h se' (List.mem_cons_of_mem _ hse')]
    rfl

theorem turns_of_serviceWrites {c : Controller} {ses : List (Config ServiceEntry)} {ws : List Write}
    (h : serviceWrites c o ses = .ok (ws, none)) :
    ∀ se ∈ ses, serviceOutcome c o se = .ok (.writes (turnWrites c o se)) := by
  intro se hse
  obtain ⟨ws', hws'⟩ := serviceOutcome_of_serviceWrites h se hse
  rw [turnWrites, hws']

/-- The loop does not return if every service has a host. -/
theorem serviceWrites_hosts {c : Controller} (ho : Quiet o) : ∀ {ses : List (Config ServiceEntry)}
    {r : List Write × Option (Option String)}, (∀ se ∈ ses, se.spec.hosts ≠ []) → serviceWrites c o ses = .ok r →
      r.2 = none
  | [], _, _, h => by cases h; rfl
  | se :: ses, _, hhosts, h => by
    rw [serviceWrites] at h
    obtain ⟨out, hout, h⟩ := Go.bind_eq_ok.mp h
    cases out with
    | stop err => exact absurd (serviceOutcome_stop ho hout).2 (hhosts se List.mem_cons_self)
    | writes ws =>
      obtain ⟨r', hr', h⟩ := Go.bind_eq_ok.mp h
      cases h
      exact serviceWrites_hosts (r := r') ho (fun se' hse' => hhosts se' (List.mem_cons_of_mem _ hse')) hr'

/-- The name of an EnvoyFilter of the service. -/
def NamedAfter (se : Config ServiceEntry) (host name : String) : Prop :=
  (∃ address ∈ se.spec.addresses, ∃ port, name = outboundEnvoyFilterName host address port) ∨
    ∃ port, name = inboundEnvoyFilterName host port

/-- Where the writes of a service's turn are: under names of its first host, in the target
namespaces. -/
theorem key_of_turn {se : Config ServiceEntry} (hse : se ∈ store.serviceEntries) (ho : Quiet o) {e : Write}
    (he : e ∈ turnWrites (d.controller store) o se) :
    e = entry e.2 ∧ e.2.namespace_ ∈ targetNamespaces (d.controller store) ∧
      ∃ host, se.spec.hosts.head? = some host ∧ NamedAfter se host e.2.name := by
  obtain ⟨ws, h, he⟩ : ∃ ws, serviceOutcome (d.controller store) o se = .ok (.writes ws) ∧ e ∈ ws := by
    unfold turnWrites at he
    split at he
    · exact ⟨_, ‹_›, he⟩
    · cases he
  obtain ⟨protocol, hadds⟩ := exists_selected h he
  obtain ⟨host, hosts, g, context, ws, hh, hg, hcse, hgateway, hcontext, hgen, w, hw, ns, hns, hew⟩ := hadds.generated
  have hname : NamedAfter se host e.2.name := by
    obtain ⟨port, -, _, _, _, _, _, ws', hws', w', hw', hname, -⟩ := ofPort hg hgateway hgen hw
    rw [hcse] at hws'
    rw [hew, NamedAfter, hname]
    rcases mem_generateNetworkFilter hh port _ _ _ hws' hw' with ⟨proxy, address, -, ha, rfl⟩ | ⟨proxy, -, rfl⟩
    · exact .inl ⟨address, ha, port.number, rfl⟩
    · exact .inr ⟨port.number, rfl⟩
  have htarget : e.2.namespace_ ∈ targetNamespaces (d.controller store) := by
    rw [envoyFilterContext_quiet (ho.at se.key)] at hcontext
    cases hcontext
    rw [hew]
    refine List.mem_append_left _ (List.mem_flatMap.mpr ⟨se, hse, List.mem_flatMap.mpr ⟨_, ?_, hns⟩⟩)
    cases hm : (d.controller store).metaRouters.find? (·.hosts.contains host) with
    | none => exact List.mem_cons_self
    | some m => exact List.mem_cons_of_mem _ (List.mem_map_of_mem (List.mem_of_find?_eq_some hm))
  exact ⟨keyed_serviceOutcome h e he, htarget, host, by rw [hh]; rfl, hname⟩

end

/-! ## Gateways -/

section

variable {d : Deployment} {store : ConfigStore} {o : Oracle}

theorem gatewayOutcome_quiet {c : Controller} (ho : Quiet o) {gateway : Config Gateway} {server : Server} {i : Nat} :
    gatewayOutcome c o gateway server i ≠ .ok none := by
  intro h
  unfold gatewayOutcome at h
  split at h
  · cases h
  · dsimp only at h
    split at h
    · cases h
    · split at h
      · cases h
      · simp only [gatewayEnvoyFilterContexts, listMetaRouters, (((ho.at _).at _).at _) _] at h
        obtain ⟨new, hnew, h⟩ := Go.bind_eq_ok.mp h
        obtain ⟨ctxs, -, hnew⟩ := Go.bind_eq_ok.mp hnew
        cases hnew
        obtain ⟨ws, -, h⟩ := Go.bind_eq_ok.mp h
        cases h

/-- Where the writes of a gateway are, and what its contexts are for. -/
structure ForGateway (gateway : Config Gateway) (ws : List Write) (ctxs : List EnvoyFilterContext) : Prop where
  writes : ∀ e ∈ ws, e = entry e.2 ∧ e.2.namespace_ = gateway.namespace_ ∧
    ∃ port, e.2.name = MetaProtocol.gatewayEnvoyFilterName gateway port
  contexts : ∀ ctx ∈ ctxs, ∃ port host,
    ctx.virtualService = some (buildVirtualServiceWrapper port gateway.name gateway.namespace_ host)

theorem ForGateway.nil (gateway : Config Gateway) : ForGateway gateway [] [] where
  writes _ he := by cases he
  contexts _ hctx := by cases hctx

theorem ForGateway.append {gateway : Config Gateway} {ws ws' : List Write} {ctxs ctxs' : List EnvoyFilterContext}
    (h : ForGateway gateway ws ctxs) (h' : ForGateway gateway ws' ctxs') :
    ForGateway gateway (ws ++ ws') (ctxs ++ ctxs') where
  writes e he := (List.mem_append.mp he).elim (h.writes e) (h'.writes e)
  contexts ctx hctx := (List.mem_append.mp hctx).elim (h.contexts ctx) (h'.contexts ctx)

theorem gatewayOutcome_forGateway {gateway : Config Gateway} {server : Server} {i : Nat}
    {out : List Write × List EnvoyFilterContext}
    (h : gatewayOutcome (d.controller store) o gateway server i = .ok (some out)) :
    ForGateway gateway out.1 out.2 := by
  refine ⟨fun e he => ?_, fun ctx hctx => ?_⟩
  · obtain ⟨port, -, hentry, hname, hns⟩ := MetaProtocol.gatewayOutcome_named rfl h he
    exact ⟨hentry, hns, port.number, hname⟩
  · rcases MetaProtocol.gatewayOutcome_cases rfl h with ⟨-, rfl⟩ | ⟨port, ctxs, -, hctxs, ess, -, rfl⟩
    · cases hctx
    · exact (MetaProtocol.isGatewayContext_of_mem hctxs hctx).virtualService

theorem fst_of_mem_gatewayServers {gateway : Config Gateway} {x : Config Gateway × Server × Nat}
    (h : x ∈ gatewayServers [gateway]) : x.1 = gateway := by
  obtain ⟨gateway', hg, hx⟩ := List.mem_flatMap.mp h
  obtain ⟨s, -, rfl⟩ := List.mem_map.mp hx
  exact List.mem_singleton.mp hg

/-- All servers of a gateway get their turn, if the MetaRouters can be listed. -/
theorem gatewayWrites_forGateway (ho : Quiet o) {gateway : Config Gateway} :
    ∀ {servers : List (Config Gateway × Server × Nat)} {r : List Write × Option (List EnvoyFilterContext)},
      (∀ x ∈ servers, x.1 = gateway) → gatewayWrites (d.controller store) o servers = .ok r →
        ∃ ctxs, r.2 = some ctxs ∧ ForGateway gateway r.1 ctxs
  | [], _, _, h => by
    cases h
    exact ⟨[], rfl, .nil gateway⟩
  | (gateway', server, i) :: rest, _, hservers, h => by
    cases hservers _ List.mem_cons_self
    rw [gatewayWrites] at h
    obtain ⟨out, hout, h⟩ := Go.bind_eq_ok.mp h
    cases out with
    | none => exact absurd hout (gatewayOutcome_quiet ho)
    | some out =>
      obtain ⟨r, hr, h⟩ := Go.bind_eq_ok.mp h
      cases h
      obtain ⟨ctxs, hctxs, hfor⟩ := gatewayWrites_forGateway ho (fun x hx => hservers x (List.mem_cons_of_mem _ hx)) hr
      exact ⟨out.2 ++ ctxs, by rw [hctxs]; rfl, (gatewayOutcome_forGateway hout).append hfor⟩

/-- What the turns of a gateway's servers write, and their contexts. -/
def gatewayTurn (c : Controller) (o : Oracle) (gateway : Config Gateway) : List Write × List EnvoyFilterContext :=
  match gatewayWrites c o (gatewayServers [gateway]) with
  | .ok (ws, some ctxs) => (ws, ctxs)
  | _ => ([], [])

/-- The turn of a gateway's servers returns. -/
def HasTurn (c : Controller) (o : Oracle) (gateway : Config Gateway) : Prop :=
  gatewayWrites c o (gatewayServers [gateway]) = .ok ((gatewayTurn c o gateway).1, some (gatewayTurn c o gateway).2)

theorem gatewayServers_cons (gateway : Config Gateway) (gateways : List (Config Gateway)) :
    gatewayServers (gateway :: gateways) = gatewayServers [gateway] ++ gatewayServers gateways :=
  gatewayServers_append [gateway] gateways

theorem gatewayWrites_turns {c : Controller} : ∀ {gateways : List (Config Gateway)},
    (∀ gateway ∈ gateways, HasTurn c o gateway) → gatewayWrites c o (gatewayServers gateways) =
      .ok (gateways.flatMap fun gateway => (gatewayTurn c o gateway).1,
        some (gateways.flatMap fun gateway => (gatewayTurn c o gateway).2))
  | [], _ => rfl
  | gateway :: gateways, h => by
    have hturn : HasTurn c o gateway := h gateway List.mem_cons_self
    unfold HasTurn at hturn
    rw [gatewayServers_cons, gatewayWrites_append, hturn]
    simp only [bind, Except.bind, gatewayWrites_turns fun gateway' hmem => h gateway' (List.mem_cons_of_mem _ hmem)]
    rfl

theorem gatewayTurn_forGateway (ho : Quiet o) {gateway : Config Gateway}
    (h : HasTurn (d.controller store) o gateway) :
    ForGateway gateway (gatewayTurn (d.controller store) o gateway).1 (gatewayTurn (d.controller store) o gateway).2 := by
  obtain ⟨ctxs, hctxs, hfor⟩ := gatewayWrites_forGateway ho (fun _ => fst_of_mem_gatewayServers) h
  cases hctxs
  exact hfor

/-- If the loop over the gateways returns, all gateways had their turn. -/
theorem hasTurn_of_gatewayWrites (ho : Quiet o) : ∀ {gateways : List (Config Gateway)}
    {r : List Write × Option (List EnvoyFilterContext)},
    gatewayWrites (d.controller store) o (gatewayServers gateways) = .ok r →
      ∀ gateway ∈ gateways, HasTurn (d.controller store) o gateway
  | gateway :: gateways, _, h, gateway', hmem => by
    rw [gatewayServers_cons, gatewayWrites_append] at h
    obtain ⟨⟨ws, ctxs⟩, hfirst, h⟩ := Go.bind_eq_ok.mp h
    have hturn : ∃ ctxs', ctxs = some ctxs' ∧ HasTurn (d.controller store) o gateway := by
      obtain ⟨ctxs', rfl, -⟩ := gatewayWrites_forGateway ho (fun _ => fst_of_mem_gatewayServers) hfirst
      refine ⟨ctxs', rfl, ?_⟩
      rw [HasTurn, gatewayTurn, hfirst]
    obtain ⟨ctxs', rfl, hturn⟩ := hturn
    rcases List.mem_cons.mp hmem with rfl | hmem
    · exact hturn
    · obtain ⟨r', hr', -⟩ := Go.bind_eq_ok.mp h
      exact hasTurn_of_gatewayWrites ho hr' gateway' hmem

end

/-! ## Keys -/

/-- The key of an EnvoyFilter tells its namespace and its name, if neither namespace goes on
from the other like a name. -/
theorem envoyFilterMapKey_inj {ns ns' name name' : String} (hname : IsAeraki name) (hname' : IsAeraki name')
    (hns : ∀ rest, ns' ≠ ns ++ "-" ++ ("aeraki" ++ rest)) (hns' : ∀ rest, ns ≠ ns' ++ "-" ++ ("aeraki" ++ rest))
    (h : envoyFilterMapKey name ns = envoyFilterMapKey name' ns') : ns = ns' ∧ name = name' := by
  have cut {z name name' : String} (hname : IsAeraki name) (h : name = z ++ "-" ++ name') :
      ∃ rest, z = "aeraki" ++ rest := by
    obtain ⟨body, rfl⟩ := hname
    rcases (Go.append_sep_eq_iff rfl).mp h with ⟨rfl, -⟩ | ⟨x, rfl, -⟩ | ⟨x, haeraki, -⟩
    · exact ⟨"", rfl⟩
    · exact ⟨"-" ++ x, by rw [String.append_assoc]⟩
    · have hmem : '-' ∈ "aeraki".toList := haeraki ▸ mem_append_dash
      exact absurd hmem (by decide)
  rcases (Go.append_sep_eq_iff rfl).mp h with hsame | ⟨z, hz, hcut⟩ | ⟨z, hz, hcut⟩
  · exact hsame
  · obtain ⟨rest, rfl⟩ := cut hname hcut
    exact absurd hz (hns rest)
  · obtain ⟨rest, rfl⟩ := cut hname' hcut
    exact absurd hz (hns' rest)

theorem NamedAfter.isAeraki {se : Config ServiceEntry} {host name : String} (h : NamedAfter se host name) :
    IsAeraki name := by
  rcases h with ⟨address, -, port, rfl⟩ | ⟨port, rfl⟩
  · exact ⟨_, outboundEnvoyFilterName_eq⟩
  · exact ⟨_, inboundEnvoyFilterName_eq⟩

/-- A name tells the host, if addresses have no dash. -/
theorem NamedAfter.host_eq {se se' : Config ServiceEntry} {host host' name : String}
    (hse : ∀ address ∈ se.spec.addresses, '-' ∉ address.toList)
    (hse' : ∀ address ∈ se'.spec.addresses, '-' ∉ address.toList) (h : NamedAfter se host name)
    (h' : NamedAfter se' host' name) : host = host' := by
  rcases h with ⟨address, ha, port, rfl⟩ | ⟨port, rfl⟩ <;> rcases h' with ⟨address', ha', port', h'⟩ | ⟨port', h'⟩
  · exact ((outboundEnvoyFilterName_eq_iff (hse _ ha) (hse' _ ha')).mp h').1
  · exact absurd h' outbound_ne_inbound
  · exact absurd h'.symm outbound_ne_inbound
  · exact (inboundEnvoyFilterName_eq_iff.mp h').1

theorem isAeraki_gateway (gateway : Config Gateway) (port : Nat) :
    IsAeraki (MetaProtocol.gatewayEnvoyFilterName gateway port) := by
  have haeraki : "aeraki-gateway-outbound-" = "aeraki" ++ "-" ++ "gateway-outbound-" := by decide +kernel
  refine ⟨"gateway-outbound-" ++ gateway.name ++ "." ++ gateway.namespace_ ++ "-" ++ Go.itoa port, ?_⟩
  unfold MetaProtocol.gatewayEnvoyFilterName
  rw [haeraki]
  simp only [String.append_assoc]

theorem segment_listener {gateway : Config Gateway}
    (h : '/' ∉ gateway.namespace_.toList ∧ '/' ∉ gateway.name.toList) (port : Nat) :
    '/' ∉ ("aeraki-vs-" ++ gateway.namespace_ ++ "." ++ gateway.name ++ "-" ++ Go.itoa port).toList := by
  have hstart : '/' ∉ "aeraki-vs-".toList := by decide
  have hdot : '/' ∉ ".".toList := by decide
  have hdash : '/' ∉ "-".toList := by decide
  have hport : '/' ∉ (Go.itoa port).toList := Go.not_mem_itoa rfl
  simp only [String.toList_append, List.mem_append, not_or]
  exact ⟨⟨⟨⟨⟨hstart, h.1⟩, hdot⟩, h.2⟩, hdash⟩, hport⟩

/-- The key of a gateway's VirtualService tells the gateway: its namespace has no dot. -/
theorem listenerKey_inj {ns ns' name name' host host' : String} {port port' : Nat} (hns : '.' ∉ ns.toList)
    (hns' : '.' ∉ ns'.toList)
    (h : virtualServiceMapKey (buildVirtualServiceWrapper port name ns host).name ns =
      virtualServiceMapKey (buildVirtualServiceWrapper port' name' ns' host').name ns') : ns = ns' ∧ name = name' := by
  have hsplit (ns name : String) (port : Nat) (host : String) :
      virtualServiceMapKey (buildVirtualServiceWrapper port name ns host).name ns =
        (ns ++ "/aeraki-vs-" ++ ns) ++ "." ++ (name ++ "-" ++ Go.itoa port) := by
    have hslash : "/aeraki-vs-" = "/" ++ "aeraki-vs-" := by decide +kernel
    unfold virtualServiceMapKey buildVirtualServiceWrapper
    rw [hslash]
    simp only [String.append_assoc]
  have hdot {ns : String} (h : '.' ∉ ns.toList) : '.' ∉ (ns ++ "/aeraki-vs-" ++ ns).toList := by
    have hmiddle : '.' ∉ "/aeraki-vs-".toList := by decide
    simp only [String.toList_append, List.mem_append, not_or]
    exact ⟨⟨h, hmiddle⟩, h⟩
  have hmem {z w : String} : '.' ∈ (z ++ "." ++ w).toList := by
    rw [String.toList_append, String.toList_append]
    exact List.mem_append_left _ (List.mem_append_right _ List.mem_cons_self)
  rw [hsplit, hsplit] at h
  rcases (Go.append_sep_eq_iff rfl).mp h with ⟨hleft, hright⟩ | ⟨z, hz, -⟩ | ⟨z, hz, -⟩
  · -- both parts of the left one are as long as those of the other
    have hlength : ns.length = ns'.length := by
      have hl := congrArg String.length hleft
      simp only [String.length_append] at hl
      omega
    have hns : ns = ns' := by
      have hl := congrArg String.toList hleft
      simp only [String.toList_append, List.append_assoc] at hl
      exact String.toList_injective (List.append_inj_left hl hlength)
    exact ⟨hns, ((Go.append_itoa_inj rfl rfl).mp hright).1⟩
  · exact absurd (hz ▸ hmem) (hdot hns')
  · exact absurd (hz ▸ hmem) (hdot hns)

/-! ## All turns -/

section

variable {d : Deployment} {store : ConfigStore} {o : Oracle}

/-- All services and gateways have a turn that returns. -/
structure Turns (c : Controller) (o : Oracle) : Prop where
  services : ∀ se ∈ c.store.serviceEntries,
    serviceOutcome c (o.at "ServiceEntries") se = .ok (.writes (turnWrites c (o.at "ServiceEntries") se))
  gateways : ∀ gateway ∈ c.store.gateways, HasTurn c o gateway

/-- The maps that the turns fill. -/
def turnMaps (c : Controller) (o : Oracle) :
    GoMap String EnvoyFilterWrapper × Option (GoMap String (Config VirtualService)) :=
  let gateways := (o.at "Gateways").list c.store.gateways
  (GoMap.writeAll (GoMap.writeAll ∅ (((o.at "ServiceEntries").list c.store.serviceEntries).flatMap
      (turnWrites c (o.at "ServiceEntries")))) (gateways.flatMap fun gateway => (gatewayTurn c o gateway).1),
    some (generatedVirtualServices (gateways.flatMap fun gateway => (gatewayTurn c o gateway).2)))

theorem Turns.generatedMaps {c : Controller} (h : Turns c o) : generatedMaps c o = .ok (turnMaps c o) := by
  rw [EnvoyFilter.generatedMaps, serviceWrites_turns fun se hse => h.services se (mem_list.mp hse)]
  simp only [bind, Except.bind]
  rw [gatewayWrites_turns fun gateway hg => h.gateways gateway (mem_list.mp hg)]
  simp only [GoMap.writeAll_append]
  rfl

/-- A run that returns gave all of them their turn. -/
theorem turns_of_generatedMaps (hhosts : ∀ se ∈ store.serviceEntries, se.spec.hosts ≠ []) (ho : Quiet o)
    {r : GoMap String EnvoyFilterWrapper × Option (GoMap String (Config VirtualService))}
    (h : generatedMaps (d.controller store) o = .ok r) : Turns (d.controller store) o := by
  obtain ⟨⟨ws, err⟩, hservices, h⟩ := Go.bind_eq_ok.mp h
  obtain rfl : err = none := serviceWrites_hosts (ho.at _)
    (fun se hse => hhosts se (mem_list.mp hse)) hservices
  obtain ⟨gateways, hgateways, -⟩ := Go.bind_eq_ok.mp h
  refine ⟨fun se hse => ?_, fun gateway hg => ?_⟩
  · exact turns_of_serviceWrites hservices se (mem_list.mpr hse)
  · exact hasTurn_of_gatewayWrites ho hgateways gateway (mem_list.mpr hg)

/-- What is generated is in the target namespaces, and named as EnvoyFilters are. -/
theorem generated_isAeraki (hhosts : ∀ se ∈ store.serviceEntries, se.spec.hosts ≠ []) (ho : Quiet o)
    {m : GoMap String EnvoyFilterWrapper} {vs : Option (GoMap String (Config VirtualService))}
    (h : generatedMaps (d.controller store) o = .ok (m, vs))
    {mk : String} {w : EnvoyFilterWrapper} (hw : m.lookup mk = some w) :
    IsAeraki w.name ∧ w.namespace_ ∈ targetNamespaces (d.controller store) := by
  have hturns := turns_of_generatedMaps hhosts ho h
  rw [hturns.generatedMaps] at h
  cases h
  rw [← GoMap.writeAll_append, GoMap.lookup_writeAll, Finmap.lookup_empty, Option.or_none] at hw
  rcases List.mem_append.mp (GoMap.mem_of_lastWrite hw) with hmem | hmem
  · obtain ⟨se, hse, hmem⟩ := List.mem_flatMap.mp hmem
    obtain ⟨-, hns, host, -, hname⟩ := key_of_turn (mem_list.mp hse) (ho.at _) hmem
    exact ⟨hname.isAeraki, hns⟩
  · obtain ⟨gateway, hg, hmem⟩ := List.mem_flatMap.mp hmem
    have hg := mem_list.mp hg
    obtain ⟨-, hns, port, hname⟩ := (gatewayTurn_forGateway ho (hturns.gateways gateway hg)).writes _ hmem
    rw [hname, hns]
    exact ⟨isAeraki_gateway gateway port, List.mem_append_right _ (List.mem_map_of_mem hg)⟩

end

end Aeraki.Proof.EnvoyFilter
