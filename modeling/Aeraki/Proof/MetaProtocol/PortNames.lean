import Aeraki.Framework.Returns
import Aeraki.Proof.MetaProtocol.Gateway

/-!
# Port names and panics

`GetApplicationProtocolFromPortName` reads the third segment of a port name
with two segments, and `GetLayer7ProtocolFromPortName` accepts such names: the
port `tcp-metaprotocol` makes the MetaProtocol generator panic. The function
returns if and only if the name does not have two segments, and the generator
if and only if each port that makes it panic, by its name or by what a proxy
is built from, comes after one that makes it return an error
(`generator_returns_iff`).
-/

namespace Aeraki.Proof.MetaProtocol

open Aeraki.Impl Aeraki.Impl.MetaProtocol
open Go (Comp Returns Rejects Guarded)
open Aeraki.Proof.EnvoyFilter (generateNetworkFilter_eq)

/-! ## Names -/

/-- The third segment of a port name. -/
def thirdSegment (portName : String) : Option String := (Go.split portName '-')[2]?

/-- The application protocol of a port name is read: its third segment if there
is one, and an error otherwise. -/
def ProtocolRead (portName : String) : Prop :=
  getApplicationProtocolFromPortName portName = .ok (match thirdSegment portName with
    | some protocol => .ok protocol
    | none => .error ("can't find application protocol in port name: " ++ portName))

theorem protocolRead_iff (portName : String) : ProtocolRead portName ↔ (Go.split portName '-').length ≠ 2 := by
  unfold ProtocolRead getApplicationProtocolFromPortName thirdSegment
  dsimp only
  generalize Go.split portName '-' = segments
  rcases segments with _ | ⟨a, _ | ⟨b, _ | ⟨c, segments⟩⟩⟩
  · exact iff_of_true rfl (by simp)
  · exact iff_of_true rfl (by simp)
  · exact iff_of_false (fun h => nomatch h) (fun h => h rfl)
  · exact iff_of_true rfl (by simp)

/-- The codec of a port. -/
def codecOf (codecs : Codecs) (port : ServicePort) : Option String := (thirdSegment port.name).bind codecs.lookup

section

variable {codecs : Codecs} {port : ServicePort}

theorem portCodec_two (h : (Go.split port.name '-').length = 2) : portCodec codecs port = .error .indexOutOfRange := by
  have hread : getApplicationProtocolFromPortName port.name = .error .indexOutOfRange := by
    unfold getApplicationProtocolFromPortName
    obtain ⟨a, b, hs⟩ := List.length_eq_two.mp h
    rw [hs]
    rfl
  rw [portCodec, hread]
  rfl

theorem portCodec_none (h : (Go.split port.name '-').length ≠ 2) (hc : codecOf codecs port = none) :
    ∃ e, portCodec codecs port = .ok (.error e) := by
  rw [portCodec, (protocolRead_iff port.name).mpr h]
  unfold codecOf at hc
  cases ht : thirdSegment port.name with
  | none => exact ⟨_, rfl⟩
  | some protocol =>
    rw [ht, Option.bind_some] at hc
    refine ⟨"can't find codec for protocol: " ++ protocol, ?_⟩
    simp only [bind, Except.bind, getApplicationProtocolCodec, hc]
    rfl

theorem portCodec_some {codec : String} (hc : codecOf codecs port = some codec) :
    ∃ protocol, portCodec codecs port = .ok (.ok (protocol, codec)) := by
  obtain ⟨protocol, ht, hl⟩ := Option.bind_eq_some_iff.mp hc
  have h : (Go.split port.name '-').length ≠ 2 := fun h => by
    rw [thirdSegment, List.getElem?_eq_none (Nat.le_of_eq h)] at ht
    cases ht
  refine ⟨protocol, ?_⟩
  rw [portCodec, (protocolRead_iff port.name).mpr h, ht]
  simp only [bind, Except.bind, getApplicationProtocolCodec, hl]
  rfl

end

/-! ## Proxies -/

/-- What a proxy is built from besides its port: a host of the service, and the
proxies' configuration if there is tracing. -/
structure Ready (context : EnvoyFilterContext) : Prop where
  host : context.serviceEntry.spec.hosts ≠ []
  tracing : context.meshConfig.enableTracing = true → context.meshConfig.defaultConfig ≠ none

section

variable {codecs : Codecs} {context : EnvoyFilterContext} {port : ServicePort}

theorem configTracing_eq {mesh : MeshConfig} (h : mesh.enableTracing = true → mesh.defaultConfig ≠ none) :
    ∃ traced : MetaProtocolProxy → MetaProtocolProxy, ∀ proxy, configTracing mesh proxy = .ok (traced proxy) := by
  unfold configTracing
  cases ht : mesh.enableTracing with
  | false => exact ⟨id, fun _ => rfl⟩
  | true =>
    obtain ⟨config, hc⟩ := Option.ne_none_iff_exists'.mp (h ht)
    rw [hc]
    exact ⟨_, fun _ => rfl⟩

theorem configTracing_panics {mesh : MeshConfig} (h : ¬ (mesh.enableTracing = true → mesh.defaultConfig ≠ none))
    (proxy : MetaProtocolProxy) : configTracing mesh proxy = .error .nilDereference := by
  obtain ⟨ht, hc⟩ := Classical.not_imp.mp h
  rw [configTracing, ht, not_not.mp hc]
  rfl

/-- The outbound proxy of a port with a codec is built if the context is ready. -/
theorem buildOutboundProxy_ready {codec : String} (hc : codecOf codecs port = some codec) (h : Ready context) :
    ∃ proxy, buildOutboundProxy codecs context port = .ok (.ok proxy) := by
  obtain ⟨protocol, hp⟩ := portCodec_some hc
  obtain ⟨host, hhost⟩ := Go.returns_index_zero.mpr h.host
  obtain ⟨traced, htraced⟩ := configTracing_eq h.tracing
  simp only [buildOutboundProxy, hp, hhost, htraced, bind, Except.bind]
  exact ⟨_, rfl⟩

theorem buildOutboundProxy_panics {codec : String} (hc : codecOf codecs port = some codec) (h : ¬ Ready context) :
    ¬ Returns (buildOutboundProxy codecs context port) := by
  obtain ⟨protocol, hp⟩ := portCodec_some hc
  rintro ⟨r, hr⟩
  rw [buildOutboundProxy, hp] at hr
  obtain ⟨host, hhost, hr⟩ := Go.bind_eq_ok.mp (show Go.index _ 0 >>= _ = _ from hr)
  obtain ⟨proxy, hproxy, -⟩ := Go.bind_eq_ok.mp hr
  refine h ⟨Go.returns_index_zero.mp ⟨host, hhost⟩, by_contra fun ht => ?_⟩
  rw [configTracing_panics ht] at hproxy
  cases hproxy

/-- The inbound proxy is built if its filters are. -/
theorem buildInboundProxy_ready {o : Oracle} {codec host : String} {hosts : List String}
    (hc : codecOf codecs port = some codec) (h : Ready context) (hhosts : context.serviceEntry.spec.hosts = host :: hosts) :
    ∃ f, buildInboundProxy codecs o context port = Except.map (Except.map f)
      (buildInboundFilters o context.metaRouter host) := by
  obtain ⟨protocol, hp⟩ := portCodec_some hc
  obtain ⟨traced, htraced⟩ := configTracing_eq h.tracing
  refine ⟨fun filters => traced (configAccessLog context.meshConfig
      { statPrefix := buildClusterName .inbound "" host port.number
        routeSpecifier := .routeConfig
          { name := buildClusterName .inbound "" host port.number
            routes := [{ route := { clusterSpecifier := some (.cluster (buildClusterName .inbound "" host port.number)) } }] }
        applicationProtocol := protocol
        codec := codec
        metaProtocolFilters := filters }), ?_⟩
  simp only [buildInboundProxy, buildInboundRouteConfig, hhosts, Go.index_zero_cons, hp, bind, Except.bind, pure,
    Except.pure]
  rcases buildInboundFilters o context.metaRouter host with e | (e | filters)
  · rfl
  · rfl
  · simp only [htraced]
    rfl

end

/-! ## The generator -/

section

variable (codecs : Codecs) (o : Oracle) (context : EnvoyFilterContext) (p : ServicePort × Nat)

/-- The rate limits of a service's MetaRouter; those of a gateway's are not read. -/
def limits : Option (ExceptT String Comp (List MetaProtocolFilter)) :=
  if context.gateway.isNone then
    context.serviceEntry.spec.hosts.head?.map fun host =>
      ExceptT.mk (buildInboundFilters (o.at (Go.itoa p.2)) context.metaRouter host)
  else none

/-- The port makes the generator panic: by its name, or because its proxies
cannot be built. -/
def Panics : Prop :=
  (Go.split p.1.name '-').length = 2 ∨ codecOf codecs p.1 ≠ none ∧
    (¬ Ready context ∨ ∃ filters ∈ limits o context p, ¬ Returns filters.run)

/-- The port makes the generator return an error: it has no codec, or the rate
limits are refused. -/
def Refused : Prop :=
  (Go.split p.1.name '-').length ≠ 2 ∧ (codecOf codecs p.1 = none ∨
    Ready context ∧ ∃ filters ∈ limits o context p, Rejects filters)

/-- The MetaProtocol ports of a service or of a gateway's servers, with their
positions. -/
def candidates : List (ServicePort × Nat) :=
  metaProtocolPorts (match context.gateway with
    | some gateway => gateway.spec.servers.filterMap (·.port)
    | none => context.serviceEntry.spec.ports)

end

section

variable {codecs : Codecs} {o : Oracle} {context : EnvoyFilterContext} {p : ServicePort × Nat}

/-- A step of the generator: after the outbound proxy, what depends on the codec
and on a context that is ready. -/
theorem step_outcome {f : MetaProtocolProxy → ExceptT String Comp (List EnvoyFilterWrapper)} {L J : Prop}
    (hf : ∀ codec proxy, codecOf codecs p.1 = some codec → Ready context →
      (Returns (f proxy).run ↔ ¬ L) ∧ (Rejects (f proxy) ↔ J)) :
    (Returns (ExceptT.mk (buildOutboundProxy codecs context p.1) >>= f).run ↔
      ¬ ((Go.split p.1.name '-').length = 2 ∨ codecOf codecs p.1 ≠ none ∧ (¬ Ready context ∨ L))) ∧
    (Rejects (ExceptT.mk (buildOutboundProxy codecs context p.1) >>= f) ↔
      (Go.split p.1.name '-').length ≠ 2 ∧ (codecOf codecs p.1 = none ∨ Ready context ∧ J)) := by
  generalize hstep : ExceptT.mk (buildOutboundProxy codecs context p.1) >>= f = step
  have hpanic {q : Go.Panic} (h : buildOutboundProxy codecs context p.1 = .error q) :
      ¬ Returns step.run ∧ ¬ Rejects step := by
    rw [← hstep, h]
    exact ⟨Go.not_returns_error q, Go.not_rejects_error q⟩
  by_cases hlen : (Go.split p.1.name '-').length = 2
  · have h : buildOutboundProxy codecs context p.1 = .error .indexOutOfRange := by
      rw [buildOutboundProxy, portCodec_two hlen]
      rfl
    simp [hpanic h, hlen]
  cases hc : codecOf codecs p.1 with
  | none =>
    obtain ⟨e, he⟩ := portCodec_none hlen hc
    have hrejects : Rejects step := ⟨e, by rw [← hstep, buildOutboundProxy, he]; rfl⟩
    simp [hrejects, hrejects.returns, hlen]
  | some codec =>
    by_cases hready : Ready context
    · obtain ⟨proxy, hproxy⟩ := buildOutboundProxy_ready hc hready
      have hrest : f proxy = step := by
        rw [← hstep, hproxy]
        rfl
      obtain ⟨hreturns, hrejects⟩ := hf codec proxy hc hready
      simp [← hrest, hreturns, hrejects, hlen, hready]
    · cases h : buildOutboundProxy codecs context p.1 with
      | ok r => exact absurd ⟨r, h⟩ (buildOutboundProxy_panics hc hready)
      | error q => simp [hpanic h, hlen, hready]

theorem generateSidecarPort_outcome (hgw : context.gateway = none) :
    (Returns (generateSidecarPort codecs (o.at (Go.itoa p.2)) context p.1).run ↔ ¬ Panics codecs o context p) ∧
      (Rejects (generateSidecarPort codecs (o.at (Go.itoa p.2)) context p.1) ↔ Refused codecs o context p) := by
  refine step_outcome fun codec proxy hc h => ?_
  obtain ⟨host, hosts, hhosts⟩ := List.exists_cons_of_ne_nil h.host
  obtain ⟨f, hin⟩ := buildInboundProxy_ready (o := o.at (Go.itoa p.2)) hc h hhosts
  have hlimits : limits o context p =
      some (ExceptT.mk (buildInboundFilters (o.at (Go.itoa p.2)) context.metaRouter host)) := by
    rw [limits, hgw, hhosts]
    rfl
  simp only [hlimits, hin, generateReplaceNetworkFilter, generateNetworkFilter_eq hhosts, Option.mem_some, exists_eq_left']
  rcases buildInboundFilters (o.at (Go.itoa p.2)) context.metaRouter host with q | (e | filters)
  · refine ⟨iff_of_false (Go.not_returns_error q) (not_not_intro (Go.not_returns_error q)), ?_⟩
    exact iff_of_false (Go.not_rejects_error q) (Go.not_rejects_error q)
  · refine ⟨iff_of_true ⟨_, rfl⟩ fun h => h ⟨_, rfl⟩, ?_⟩
    exact iff_of_true ⟨e, rfl⟩ ⟨e, rfl⟩
  · refine ⟨iff_of_true ⟨_, rfl⟩ fun h => h ⟨_, rfl⟩, ?_⟩
    exact iff_of_false (Go.not_rejects_ok _) (Go.not_rejects_ok filters)

theorem generateGatewayPort_outcome {gateway : Config Gateway} (hgw : context.gateway = some gateway)
    (envoyfilters : List EnvoyFilterWrapper) :
    (Returns (generateGatewayPort codecs context gateway envoyfilters p.1).run ↔ ¬ Panics codecs o context p) ∧
      (Rejects (generateGatewayPort codecs context gateway envoyfilters p.1) ↔ Refused codecs o context p) := by
  refine step_outcome fun codec proxy hc h => ?_
  obtain ⟨host, hosts, hhosts⟩ := List.exists_cons_of_ne_nil h.host
  have hlimits : limits o context p = none := by
    rw [limits, hgw]
    rfl
  simp only [hlimits, generateReplaceNetworkFilter, generateNetworkFilter_eq hhosts]
  simp only [Option.not_mem_none, false_and, exists_false, not_false_eq_true, iff_true, iff_false]
  exact ⟨⟨_, rfl⟩, Go.not_rejects_ok _⟩

/-- The generator goes through the candidates of a gateway. -/
theorem map_fst_metaProtocolPorts (servers : List Server) :
    (metaProtocolPorts (servers.filterMap (·.port))).map Prod.fst = servers.filterMap metaPort := by
  have hfilter (ports : List ServicePort) : (metaProtocolPorts ports).map Prod.fst =
      ports.filter fun port => (getLayer7ProtocolFromPortName port.name).isMetaProtocol := by
    nth_rw 2 [← List.zipIdx_map_fst 0 ports]
    rw [List.filter_map]
    rfl
  rw [hfilter, List.filter_filterMap]
  rfl

theorem returns_generate : Returns (generate codecs o context) ↔
    Guarded (Panics codecs o context) (Refused codecs o context) (candidates context) := by
  unfold generate candidates
  cases hgw : context.gateway with
  | some gateway =>
    dsimp only
    rw [generateGatewayEnvoyFilters_eq, ← map_fst_metaProtocolPorts, List.foldlM_map]
    exact Go.returns_run_foldlM [] (fun acc p _ => (generateGatewayPort_outcome hgw acc).1)
      fun acc p _ => (generateGatewayPort_outcome hgw acc).2
  | none =>
    refine (Go.returns_run_bind_iff fun _ => ⟨_, rfl⟩).trans ?_
    exact Go.returns_run_mapM (fun p _ => (generateSidecarPort_outcome hgw).1)
      fun p _ => (generateSidecarPort_outcome hgw).2

end

/-- `GetApplicationProtocolFromPortName` reads the protocol of a name, or returns
an error, if and only if the name does not have two segments; and the generator
returns if and only if each port that makes it panic comes after one that makes
it return an error. -/
theorem generator_returns_iff (portName : String) (codecs : Codecs) (o : Oracle) (context : EnvoyFilterContext) :
    (ProtocolRead portName ↔ (Go.split portName '-').length ≠ 2) ∧
      (Returns (generate codecs o context) ↔
        Guarded (Panics codecs o context) (Refused codecs o context) (candidates context)) :=
  ⟨protocolRead_iff portName, returns_generate⟩

/-- A service with a port of that name. -/
def namedPort (name : String) : EnvoyFilterContext where
  meshConfig := {}
  serviceEntry := { name := "demo", namespace_ := "ns", spec := { hosts := ["demo.ns"], ports := [⟨20880, name⟩] } }

/-- A name without an application protocol is one of MetaProtocol, and makes the
generator panic. -/
theorem unnamed_protocol_panics : getLayer7ProtocolFromPortName "tcp-metaprotocol" = .MetaProtocol ∧
    getApplicationProtocolFromPortName "tcp-metaprotocol" = .error .indexOutOfRange ∧
    generate builtinCodecs {} (namedPort "tcp-metaprotocol") = .error .indexOutOfRange :=
  ⟨by decide, by decide, by decide⟩

end Aeraki.Proof.MetaProtocol
