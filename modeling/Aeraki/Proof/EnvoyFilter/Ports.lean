import Aeraki.Proof.EnvoyFilter.Context
import Aeraki.Proof.MetaProtocol.Served

/-!
# The ports that the EnvoyFilters patch

The controller takes the generator of the first port that has one
(`selected`). MetaProtocol's patches the listeners of its own ports; every other
generator patches those of the service's first port, whatever that is
(`ofFirstPort`). So an EnvoyFilter of a service patches ports of its own protocol
exactly if it is MetaProtocol's or the first port has the number of one
(`ownPorts_iff`).
-/

namespace Aeraki.Proof.EnvoyFilter

open Aeraki.Impl Aeraki.Impl.Controller
open Go (Comp bind_eq_ok)

/-! ## Listeners -/

/-- The listeners that an EnvoyFilter matches: name and destination port. -/
def listenerMatches (w : EnvoyFilterWrapper) : List (String × Option Nat) :=
  w.envoyfilter.configPatches.filterMap fun patch =>
    match patch.match_ with
    | some (.listener name destinationPort _) => some (name, destinationPort)
    | _ => none

/-- A listener of the service's port: the outbound one of an address, or the
inbound one. -/
def IsListener (service : Config ServiceEntry) (port : Nat) (l : String × Option Nat) : Prop :=
  (∃ address ∈ service.spec.addresses, l = (outboundListenerName address port, none)) ∨
    l = ("virtualInbound", some port)

/-- A listener is one of a single port number. -/
theorem IsListener.unique {service : Config ServiceEntry} {port port' : Nat} {l : String × Option Nat}
    (h : IsListener service port l) (h' : IsListener service port' l) : port = port' := by
  rcases h with ⟨address, -, rfl⟩ | rfl
  · rcases h' with ⟨address', -, h'⟩ | h'
    · exact (outboundListenerName_inj.mp (Prod.mk.inj h').1).2
    · cases (Prod.mk.inj h').2
  · rcases h' with ⟨address', -, h'⟩ | h'
    · cases (Prod.mk.inj h').2
    · exact Option.some.inj (Prod.mk.inj h').2

/-- The EnvoyFilter matches one listener, and it is one of the port. -/
def Listens (service : Config ServiceEntry) (port : Nat) (w : EnvoyFilterWrapper) : Prop :=
  ∃ l, listenerMatches w = [l] ∧ IsListener service port l

/-- The EnvoyFilters of a port's network filters match the port's listeners. -/
theorem listens_networkFilter {service : Config ServiceEntry} {host : String} {hosts : List String}
    (hh : service.spec.hosts = host :: hosts) {port : ServicePort} {outboundProxy inboundProxy : Option Proxy}
    {filterName filterType : String} {operation : PatchOperation} {ws : List EnvoyFilterWrapper}
    (hws : generateNetworkFilter service port outboundProxy inboundProxy filterName filterType operation = .ok ws)
    {w : EnvoyFilterWrapper} (hw : w ∈ ws) : Listens service port.number w := by
  rcases mem_generateNetworkFilter hh port _ _ _ hws hw with ⟨proxy, address, -, ha, rfl⟩ | ⟨proxy, -, rfl⟩
  · exact ⟨_, rfl, .inl ⟨address, ha, rfl⟩⟩
  · exact ⟨_, rfl, .inr rfl⟩

/-! ## Generators -/

/-- The EnvoyFilter is one of a port's network filters: it has the name, and matches
the listeners, of one of them. -/
def OfPort (service : Config ServiceEntry) (port : ServicePort) (w : EnvoyFilterWrapper) : Prop :=
  ∃ outboundProxy inboundProxy filterName filterType operation ws,
    generateNetworkFilter service port outboundProxy inboundProxy filterName filterType operation = .ok ws ∧
    ∃ w' ∈ ws, w.name = w'.name ∧ listenerMatches w = listenerMatches w'

theorem OfPort.of_mem {service : Config ServiceEntry} {port : ServicePort} {outboundProxy inboundProxy : Option Proxy}
    {filterName filterType : String} {operation : PatchOperation} {ws : List EnvoyFilterWrapper}
    (hws : generateNetworkFilter service port outboundProxy inboundProxy filterName filterType operation = .ok ws)
    {w : EnvoyFilterWrapper} (hw : w ∈ ws) : OfPort service port w := ⟨_, _, _, _, _, _, hws, w, hw, rfl, rfl⟩

theorem OfPort.listens {service : Config ServiceEntry} {host : String} {hosts : List String}
    (hh : service.spec.hosts = host :: hosts) {port : ServicePort} {w : EnvoyFilterWrapper}
    (h : OfPort service port w) : Listens service port.number w := by
  obtain ⟨_, _, _, _, _, ws, hws, w', hw', -, hmatches⟩ := h
  unfold Listens
  rw [hmatches]
  exact listens_networkFilter hh hws hw'

/-- The EnvoyFilter is one of the service's first port. -/
def OfFirstPort (service : Config ServiceEntry) (w : EnvoyFilterWrapper) : Prop :=
  ∃ first, service.spec.ports.head? = some first ∧ OfPort service first w

theorem head?_of_index {ports : List ServicePort} {port : ServicePort} (h : Go.index ports 0 = .ok port) :
    ports.head? = some port := by
  rw [List.head?_eq_getElem?]
  exact Go.index_eq_ok.mp h

section

variable {context : EnvoyFilterContext} {ws : List EnvoyFilterWrapper} {w : EnvoyFilterWrapper}

theorem ofFirstPort_dubbo {td : Dubbo.TrustDomainBundle} {policies : List Dubbo.DubboAuthorizationPolicy} {o : Oracle}
    (h : Dubbo.generate td policies o context = .ok (.ok ws)) (hw : w ∈ ws) : OfFirstPort context.serviceEntry w := by
  obtain ⟨port, hport, h⟩ := bind_eq_ok.mp h
  obtain ⟨outboundProxy, -, h⟩ := bind_eq_ok.mp h
  obtain ⟨inboundProxy, -, h⟩ := bind_eq_ok.mp h
  obtain ⟨filters, hfilters, h⟩ := bind_eq_ok.mp h
  cases h
  exact ⟨port, head?_of_index hport, .of_mem hfilters hw⟩

theorem ofFirstPort_thrift (h : Thrift.generate context = .ok (.ok ws)) (hw : w ∈ ws) :
    OfFirstPort context.serviceEntry w := by
  obtain ⟨port, hport, h⟩ := bind_eq_ok.mp h
  obtain ⟨outboundProxy, -, h⟩ := bind_eq_ok.mp h
  obtain ⟨inboundProxy, -, h⟩ := bind_eq_ok.mp h
  obtain ⟨filters, hfilters, h⟩ := bind_eq_ok.mp h
  cases h
  exact ⟨port, head?_of_index hport, .of_mem hfilters hw⟩

theorem ofFirstPort_statFilter {proxy : String → Proxy} {filterName filterType : String}
    (h : generateStatFilter proxy filterName filterType context = .ok (.ok ws)) (hw : w ∈ ws) :
    OfFirstPort context.serviceEntry w := by
  obtain ⟨outboundProxy, -, h⟩ := bind_eq_ok.mp h
  obtain ⟨inboundProxy, -, h⟩ := bind_eq_ok.mp h
  obtain ⟨filters, hfilters, h⟩ := bind_eq_ok.mp h
  cases h
  obtain ⟨port, hport, hfilters⟩ := bind_eq_ok.mp hfilters
  exact ⟨port, head?_of_index hport, .of_mem hfilters hw⟩

/-- The patches of a cluster leave the name, and match no listener. -/
theorem addClusterPatches_spec (cluster : Cluster) (w : EnvoyFilterWrapper) :
    (Redis.addClusterPatches cluster w).name = w.name ∧
      listenerMatches (Redis.addClusterPatches cluster w) = listenerMatches w := by
  unfold Redis.addClusterPatches
  split
  · exact ⟨rfl, by simp [listenerMatches, Redis.replaceClusterPatches]⟩
  · exact ⟨rfl, rfl⟩

theorem ofFirstPort_redis {g : Redis.Generator} {o : Oracle} (h : g.generate o context = .ok (.ok ws)) (hw : w ∈ ws) :
    OfFirstPort context.serviceEntry w := by
  obtain ⟨wss, hwss, h⟩ := bind_eq_ok.mp h
  cases h
  obtain ⟨ws, hws, hw⟩ := List.mem_flatten.mp hw
  obtain ⟨p, -, h⟩ := Go.mem_of_mapM_ok hwss hws
  obtain ⟨first, hfirst, h⟩ := bind_eq_ok.mp h
  obtain ⟨outboundProxy, -, h⟩ := bind_eq_ok.mp h
  obtain ⟨inboundProxy, -, h⟩ := bind_eq_ok.mp h
  obtain ⟨filters, hfilters, h⟩ := bind_eq_ok.mp h
  obtain ⟨cluster, -, h⟩ := bind_eq_ok.mp h
  refine ⟨first, head?_of_index hfirst, ?_⟩
  cases cluster with
  | none =>
    cases h
    exact .of_mem hfilters hw
  | some cluster =>
    cases h
    obtain ⟨filter, hfilter, rfl⟩ := List.mem_map.mp hw
    exact ⟨_, _, _, _, _, _, hfilters, filter, hfilter, addClusterPatches_spec cluster filter⟩

/-- All generators but MetaProtocol's patch the first port. -/
theorem ofFirstPort {r : Resources} {store : ConfigStore} {protocol : Instance} {g : Generator} {o : Oracle}
    (hg : generators r store protocol = some g) (hp : protocol ≠ .MetaProtocol) (h : g o context = .ok (.ok ws))
    (hw : w ∈ ws) : OfFirstPort context.serviceEntry w := by
  cases protocol with
  | Dubbo => cases hg; exact ofFirstPort_dubbo h hw
  | Thrift => cases hg; exact ofFirstPort_thrift h hw
  | Kafka => cases hg; exact ofFirstPort_statFilter h hw
  | Zookeeper => cases hg; exact ofFirstPort_statFilter h hw
  | Redis => cases hg; exact ofFirstPort_redis h hw
  | MetaProtocol => exact absurd rfl hp
  | Mongo | MySQL | Unsupported => cases hg

/-- MetaProtocol's generator patches its own ports. -/
theorem ofPort_metaProtocol {codecs : Codecs} {o : Oracle} (hgateway : context.gateway = none)
    (h : MetaProtocol.generate codecs o context = .ok (.ok ws)) (hw : w ∈ ws) :
    ∃ port ∈ context.serviceEntry.spec.ports, getLayer7ProtocolFromPortName port.name = .MetaProtocol ∧
      OfPort context.serviceEntry port w := by
  unfold MetaProtocol.generate at h
  rw [hgateway] at h
  obtain ⟨wss, rfl, hwss⟩ := MetaProtocol.generateSidecarEnvoyFilters_ok h
  obtain ⟨ws, hws, hw⟩ := List.mem_flatten.mp hw
  obtain ⟨p, hp, hrun⟩ := Go.exists_of_forall₂_right hwss hws
  obtain ⟨outboundProxy, inboundProxy, -, -, hfilters⟩ := MetaProtocol.generateSidecarPort_ok hrun
  obtain ⟨hp, hmeta⟩ := List.mem_filter.mp hp
  refine ⟨p.1, List.fst_mem_of_mem_zipIdx hp, ?_, .of_mem hfilters hw⟩
  cases hp : getLayer7ProtocolFromPortName p.1.name <;> rw [hp] at hmeta <;> first | rfl | cases hmeta

/-- Every generator patches a port of the service. -/
theorem ofPort {r : Resources} {store : ConfigStore} {protocol : Instance} {g : Generator} {o : Oracle}
    (hg : generators r store protocol = some g) (hgateway : context.gateway = none) (h : g o context = .ok (.ok ws))
    (hw : w ∈ ws) : ∃ port ∈ context.serviceEntry.spec.ports, OfPort context.serviceEntry port w := by
  by_cases hp : protocol = .MetaProtocol
  · cases hp
    cases hg
    obtain ⟨port, hport, -, hof⟩ := ofPort_metaProtocol hgateway h hw
    exact ⟨port, hport, hof⟩
  · obtain ⟨port, hport, hof⟩ := ofFirstPort hg hp h hw
    exact ⟨port, List.mem_of_mem_head? hport, hof⟩

end

/-! ## Services -/

/-- An EnvoyFilter that is added for a ServiceEntry, by the generator of a
protocol. -/
def Adds (c : Controller) (o : Oracle) (se : Config ServiceEntry) (protocol : Instance) (w : EnvoyFilterWrapper) :
    Prop :=
  selected c se.spec.ports = some protocol ∧ ∃ ws, serviceOutcome c o se = .ok (.writes ws) ∧ w ∈ ws.map Prod.snd

/-- Where an added EnvoyFilter comes from. -/
theorem Adds.generated {c : Controller} {o : Oracle} {se : Config ServiceEntry} {protocol : Instance}
    {w : EnvoyFilterWrapper} (h : Adds c o se protocol w) :
    ∃ host hosts g context ws, se.spec.hosts = host :: hosts ∧ c.generators protocol = some g ∧
      context.serviceEntry = se ∧ context.gateway = none ∧
      c.envoyFilterContext (o.at se.key) se host = .ok context ∧
      g ((o.at se.key).at "Generate") context = .ok (.ok ws) ∧
      ∃ w' ∈ ws, ∃ ns ∈ c.exportNSs context, w = { w' with namespace_ := ns } := by
  obtain ⟨hsel, ws, hout, hw⟩ := h
  unfold serviceOutcome at hout
  cases hh : se.spec.hosts with
  | nil =>
    rw [hh] at hout
    cases hout
  | cons host hosts =>
    rw [hh] at hout
    dsimp only at hout
    rw [generatorOf_eq, hsel, Option.bind_some] at hout
    cases hg : c.generators protocol with
    | none =>
      rw [hg] at hout
      cases hout
      cases hw
    | some g =>
      rw [hg] at hout
      unfold Controller.envoyFilterContext at hout
      cases hm : c.findRelatedMetaRouter (o.at se.key) host with
      | error err =>
        rw [hm] at hout
        cases hout
      | ok metaRouter =>
        rw [hm] at hout
        obtain ⟨r, hr, hout⟩ := bind_eq_ok.mp hout
        cases r with
        | error err =>
          cases hout
          cases hw
        | ok wrappers =>
          cases hout
          obtain ⟨e, he, rfl⟩ := List.mem_map.mp hw
          obtain ⟨w', hw', he⟩ := List.mem_flatMap.mp he
          obtain ⟨ns, hns, rfl⟩ := List.mem_map.mp he
          refine ⟨host, hosts, g, _, wrappers, rfl, rfl, rfl, rfl, ?_, hr, w', hw', ns, hns, rfl⟩
          rw [Controller.envoyFilterContext, hm]

/-- The EnvoyFilter matches listeners, and only of ports with the protocol. -/
def PatchesOwn (se : Config ServiceEntry) (protocol : Instance) (w : EnvoyFilterWrapper) : Prop :=
  listenerMatches w ≠ [] ∧ ∀ l ∈ listenerMatches w, ∃ port ∈ se.spec.ports,
    getLayer7ProtocolFromPortName port.name = protocol ∧ IsListener se port.number l

theorem Listens.patchesOwn_iff {se : Config ServiceEntry} {port : Nat} {w : EnvoyFilterWrapper} (h : Listens se port w)
    (protocol : Instance) : PatchesOwn se protocol w ↔
      ∃ p ∈ se.spec.ports, getLayer7ProtocolFromPortName p.name = protocol ∧ p.number = port := by
  obtain ⟨l, hl, hport⟩ := h
  unfold PatchesOwn
  rw [hl]
  constructor
  · rintro ⟨-, h⟩
    obtain ⟨p, hp, hprotocol, h⟩ := h l (List.mem_singleton_self l)
    exact ⟨p, hp, hprotocol, h.unique hport⟩
  · rintro ⟨p, hp, hprotocol, rfl⟩
    refine ⟨List.cons_ne_nil _ _, fun l' hl' => ?_⟩
    cases List.mem_singleton.mp hl'
    exact ⟨p, hp, hprotocol, hport⟩

/-- The first port has the number of a port with the protocol. -/
def FirstOwn (se : Config ServiceEntry) (protocol : Instance) : Prop :=
  ∃ first, se.spec.ports.head? = some first ∧
    ∃ p ∈ se.spec.ports, getLayer7ProtocolFromPortName p.name = protocol ∧ p.number = first.number

/-- The generators of the controller are some of the registered ones. -/
def Registered (c : Controller) (r : Resources) (store : ConfigStore) : Prop :=
  ∀ protocol g, c.generators protocol = some g → generators r store protocol = some g

/-- An added EnvoyFilter patches ports of its own protocol exactly if it is
MetaProtocol's or the service's first port has the number of such a port. -/
theorem ownPorts_iff {c : Controller} {r : Resources} {store : ConfigStore} (hreg : Registered c r store)
    {o : Oracle} {se : Config ServiceEntry} {protocol : Instance} {w : EnvoyFilterWrapper}
    (h : Adds c o se protocol w) :
    PatchesOwn se protocol w ↔ protocol = .MetaProtocol ∨ FirstOwn se protocol := by
  obtain ⟨host, hosts, g, context, ws, hh, hg, rfl, hgateway, -, hgen, w', hw', ns, -, hw⟩ := h.generated
  have hsame : listenerMatches w = listenerMatches w' := by rw [hw]; rfl
  by_cases hp : protocol = .MetaProtocol
  · cases hp
    have hg' := hreg _ _ hg
    cases hg'
    obtain ⟨port, hport, hprotocol, hof⟩ := ofPort_metaProtocol hgateway hgen hw'
    have hl := hof.listens hh
    unfold Listens at hl
    rw [← hsame] at hl
    exact iff_of_true ((Listens.patchesOwn_iff hl _).mpr ⟨port, hport, hprotocol, rfl⟩) (.inl rfl)
  · obtain ⟨first, hfirst, hof⟩ := ofFirstPort (hreg _ _ hg) hp hgen hw'
    have hl := hof.listens hh
    unfold Listens at hl
    rw [← hsame] at hl
    rw [Listens.patchesOwn_iff hl, or_iff_right hp]
    constructor
    · exact fun h => ⟨first, hfirst, h⟩
    · rintro ⟨first', hfirst', h⟩
      cases hfirst.symm.trans hfirst'
      exact h

/-- What is written for the ServiceEntries is added for one of them. -/
theorem adds_of_mem_serviceWrites {c : Controller} {o : Oracle} : ∀ {ses : List (Config ServiceEntry)}
    {r : List Write × Option (Option String)}, serviceWrites c o ses = .ok r → ∀ e ∈ r.1,
      ∃ se ∈ ses, ∃ ws, serviceOutcome c o se = .ok (.writes ws) ∧ e ∈ ws
  | [], _, h, e, he => by
    cases h
    cases he
  | se :: ses, _, h, e, he => by
    rw [serviceWrites] at h
    obtain ⟨out, hout, h⟩ := bind_eq_ok.mp h
    cases out with
    | stop err =>
      cases h
      cases he
    | writes ws =>
      obtain ⟨r, hr, h⟩ := bind_eq_ok.mp h
      cases h
      rcases List.mem_append.mp he with he | he
      · exact ⟨se, List.mem_cons_self, ws, hout, he⟩
      · obtain ⟨se', hse', h⟩ := adds_of_mem_serviceWrites hr e he
        exact ⟨se', List.mem_cons_of_mem _ hse', h⟩

/-- A ServiceEntry for which something is written has a protocol. -/
theorem exists_selected {c : Controller} {o : Oracle} {se : Config ServiceEntry} {ws : List Write}
    (h : serviceOutcome c o se = .ok (.writes ws)) {e : Write} (he : e ∈ ws) :
    ∃ protocol, Adds c o se protocol e.2 := by
  cases hsel : selected c se.spec.ports with
  | some protocol => exact ⟨protocol, hsel, ws, h, List.mem_map_of_mem he⟩
  | none =>
    unfold serviceOutcome at h
    rw [generatorOf_eq, hsel] at h
    split at h <;> cases h
    cases he

/-- Each EnvoyFilter that `generateEnvoyFilters` returns was added for a
ServiceEntry of the store or written for a gateway. -/
theorem adds_of_generated {c : Controller} {o : Oracle} {vs vs' : ApiServer.Server ObjectKey VirtualService}
    {m : GoMap String EnvoyFilterWrapper} {err : Option String}
    (h : c.generateEnvoyFilters o vs = .ok ((m, err), vs')) {k : String} {w : EnvoyFilterWrapper}
    (hk : m.lookup k = some w) :
    (∃ se ∈ c.store.serviceEntries, ∃ protocol, Adds c (o.at "ServiceEntries") se protocol w) ∨
      ∃ r, gatewayWrites c o (gatewayServers ((o.at "Gateways").list c.store.gateways)) = .ok r ∧ (k, w) ∈ r.1 := by
  obtain ⟨ws, hws, rfl⟩ := generated_eq h
  rw [GoMap.lookup_writeAll, Finmap.lookup_empty, Option.or_none] at hk
  have hmem := GoMap.mem_of_lastWrite hk
  obtain ⟨services, hservices, hws⟩ := bind_eq_ok.mp hws
  have added : (k, w) ∈ services.1 →
      ∃ se ∈ c.store.serviceEntries, ∃ protocol, Adds c (o.at "ServiceEntries") se protocol w := fun hmem => by
    obtain ⟨se, hse, ws, hout, he⟩ := adds_of_mem_serviceWrites hservices _ hmem
    exact ⟨se, mem_list.mp hse, exists_selected hout he⟩
  split at hws
  · cases hws
    exact .inl (added hmem)
  · obtain ⟨gateways, hgateways, hws⟩ := bind_eq_ok.mp hws
    cases hws
    rcases List.mem_append.mp hmem with hmem | hmem
    · exact .inl (added hmem)
    · exact .inr ⟨gateways, hgateways, hmem⟩

/-- A service with an HTTP and a Dubbo port. -/
def mixedPorts : Config ServiceEntry where
  name := "mixed"
  namespace_ := "ns"
  spec := { hosts := ["mixed.ns"], addresses := ["10.0.0.1"], ports := [⟨8080, "http-web"⟩, ⟨20880, "tcp-dubbo"⟩] }

/-- The same service with its Dubbo port first. -/
def dubboFirst : Config ServiceEntry :=
  { mixedPorts with spec := { mixedPorts.spec with ports := [⟨20880, "tcp-dubbo"⟩, ⟨8080, "http-web"⟩] } }

/-- The controller with all generators. -/
def allGenerators : Controller where
  store := {}
  generators := generators {} {}

theorem dubboFirst_ownPorts : ∃ w, Adds allGenerators {} dubboFirst .Dubbo w ∧ PatchesOwn dubboFirst .Dubbo w := by
  have hadds : Adds allGenerators {} dubboFirst .Dubbo _ := ⟨rfl, _, rfl, List.mem_cons_self⟩
  exact ⟨_, hadds, (ownPorts_iff (fun _ _ h => h) hadds).mpr
    (.inr ⟨⟨20880, "tcp-dubbo"⟩, rfl, ⟨20880, "tcp-dubbo"⟩, List.mem_cons_self, rfl, rfl⟩)⟩

/-- The Dubbo proxy replaces the TCP proxy of the HTTP port. -/
theorem mixedPorts_patches_http : ∃ w, Adds allGenerators {} mixedPorts .Dubbo w ∧
    listenerMatches w = [("10.0.0.1_8080", none)] ∧ ¬PatchesOwn mixedPorts .Dubbo w := by
  obtain ⟨w, hadds, hmatches⟩ : ∃ w, Adds allGenerators {} mixedPorts .Dubbo w ∧
      listenerMatches w = [("10.0.0.1_8080", none)] := ⟨_, ⟨rfl, _, rfl, List.mem_cons_self⟩, rfl⟩
  refine ⟨w, hadds, hmatches, fun h => ?_⟩
  have hlistens : Listens mixedPorts 8080 w := ⟨_, hmatches, .inl ⟨"10.0.0.1", List.mem_cons_self, rfl⟩⟩
  obtain ⟨p, hp, hprotocol, hnumber⟩ := (hlistens.patchesOwn_iff .Dubbo).mp h
  revert p
  decide

end Aeraki.Proof.EnvoyFilter
