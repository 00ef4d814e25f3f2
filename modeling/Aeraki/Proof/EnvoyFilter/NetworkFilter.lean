import Aeraki.Impl.EnvoyFilter.NetworkFilter

/-!
# The EnvoyFilters of a proxy

What `generateNetworkFilter` returns for a service with a host: an outbound
EnvoyFilter for each address, and an inbound one if the service selects
workloads (`generateNetworkFilter_eq`).
-/

namespace Aeraki.Proof.EnvoyFilter

open Aeraki.Impl

/-- The outbound EnvoyFilter of an address. -/
def outboundFilter (host address : String) (port : Nat) (operation : PatchOperation) (value : PatchValue) :
    EnvoyFilterWrapper where
  name := outboundEnvoyFilterName host address port
  envoyfilter := {
    configPatches := [{
      applyTo := .NETWORK_FILTER
      match_ := some (.listener (outboundListenerName address port) none tcpProxy)
      operation := operation
      value := some value }] }

/-- The inbound EnvoyFilter of a port. -/
def inboundFilter (host : String) (port : Nat) (operation : PatchOperation) (value : PatchValue)
    (workloadSelector : GoMap String String) : EnvoyFilterWrapper where
  name := inboundEnvoyFilterName host port
  envoyfilter := {
    workloadSelector := some workloadSelector
    configPatches := [{
      applyTo := .NETWORK_FILTER
      match_ := some (.listener "virtualInbound" (some port) tcpProxy)
      operation := operation
      value := some value }] }

theorem outboundListenerName_inj {address address' : String} {port port' : Nat} :
    outboundListenerName address port = outboundListenerName address' port' ↔ address = address' ∧ port = port' :=
  Go.append_itoa_inj rfl rfl

theorem outboundEnvoyFilterName_inj {host address address' : String} {port port' : Nat} :
    outboundEnvoyFilterName host address port = outboundEnvoyFilterName host address' port' ↔
      address = address' ∧ port = port' := by
  unfold outboundEnvoyFilterName
  rw [Go.append_itoa_inj rfl rfl, String.append_right_inj]

section

variable {service : Config ServiceEntry} {port : ServicePort} {outboundProxy inboundProxy : Option Proxy}
  {filterName filterType : String} {operation : PatchOperation} {ws out : List EnvoyFilterWrapper}

/-- All are outbound EnvoyFilters of the service's addresses. -/
def AllOutbound (service : Config ServiceEntry) (port : ServicePort) (filterName filterType : String)
    (operation : PatchOperation) (out : List EnvoyFilterWrapper) : Prop :=
  ∀ w ∈ out, ∃ proxy host, ∃ address ∈ service.spec.addresses,
    w = outboundFilter host address port.number operation (generateValue proxy filterName filterType)

theorem allOutbound_nil : AllOutbound service port filterName filterType operation [] := fun _ hw => nomatch hw

theorem allOutbound_of_generated {proxy : Proxy}
    (h : generateOutboundListenerEnvoyFilters service port proxy filterName filterType operation = .ok out) :
    AllOutbound service port filterName filterType operation out := by
  intro w hw
  obtain ⟨address, haddress, hfilter⟩ := Go.mem_of_mapM_ok h hw
  obtain ⟨host, -, hfilter⟩ := Go.bind_eq_ok.mp hfilter
  cases hfilter
  exact ⟨proxy, host, address, haddress, rfl⟩

/-- The inbound half, after the outbound one. -/
theorem generateNetworkFilter_inbound {inbound : Proxy}
    (h : generateNetworkFilter service port outboundProxy (some inbound) filterName filterType operation = .ok ws) :
    ∃ out, AllOutbound service port filterName filterType operation out ∧
      (if hasInboundWorkloadSelector (inboundEnvoyFilterWorkloadSelector service) = true then do
        return out ++ (← generateInboundListenerEnvoyFilters service port inbound filterName filterType operation
          (inboundEnvoyFilterWorkloadSelector service))
      else return out) = Except.ok ws := by
  cases outboundProxy with
  | none => exact ⟨[], allOutbound_nil, h⟩
  | some proxy =>
    obtain ⟨out, hout, h⟩ := Go.bind_eq_ok.mp h
    exact ⟨out, allOutbound_of_generated hout, h⟩

/-- What is returned: outbound EnvoyFilters of addresses, and the inbound one if there
is a proxy for it and a selector. -/
theorem generateNetworkFilter_ok
    (h : generateNetworkFilter service port outboundProxy inboundProxy filterName filterType operation = .ok ws) :
    ∃ out, AllOutbound service port filterName filterType operation out ∧
      ((inboundProxy.isSome → inboundEnvoyFilterWorkloadSelector service = ∅) ∧ ws = out ∨
        ∃ proxy host, inboundEnvoyFilterWorkloadSelector service ≠ ∅ ∧ ws = out ++ [inboundFilter host port.number operation
          (generateValue proxy filterName filterType) (inboundEnvoyFilterWorkloadSelector service)]) := by
  cases inboundProxy with
  | none =>
    cases outboundProxy with
    | none =>
      cases h
      exact ⟨[], allOutbound_nil, .inl ⟨fun h => (nomatch h), rfl⟩⟩
    | some proxy =>
      obtain ⟨out, hout, h⟩ := Go.bind_eq_ok.mp h
      cases h
      exact ⟨_, allOutbound_of_generated hout, .inl ⟨fun h => (nomatch h), rfl⟩⟩
  | some inbound =>
    obtain ⟨out, hout, h⟩ := generateNetworkFilter_inbound h
    refine ⟨out, hout, ?_⟩
    split at h
    · rename_i hselector
      obtain ⟨inb, hin, h⟩ := Go.bind_eq_ok.mp h
      obtain ⟨host, -, hin⟩ := Go.bind_eq_ok.mp hin
      cases hin
      cases h
      exact .inr ⟨inbound, host, of_decide_eq_true hselector, rfl⟩
    · rename_i hselector
      cases h
      exact .inl ⟨fun _ => not_not.mp fun h => hselector (decide_eq_true h), rfl⟩

end

variable {service : Config ServiceEntry} {host : String} {hosts : List String}
  (h : service.spec.hosts = host :: hosts) (port : ServicePort) (filterName filterType : String)
  (operation : PatchOperation)
include h

theorem generateOutboundListenerEnvoyFilters_eq (proxy : Proxy) :
    generateOutboundListenerEnvoyFilters service port proxy filterName filterType operation =
      .ok (service.spec.addresses.map fun address =>
        outboundFilter host address port.number operation (generateValue proxy filterName filterType)) := by
  rw [generateOutboundListenerEnvoyFilters, h]
  exact Go.mapM_eq_map (fun _ => rfl) _

theorem generateInboundListenerEnvoyFilters_eq (proxy : Proxy) (workloadSelector : GoMap String String) :
    generateInboundListenerEnvoyFilters service port proxy filterName filterType operation workloadSelector =
      .ok [inboundFilter host port.number operation (generateValue proxy filterName filterType) workloadSelector] := by
  rw [generateInboundListenerEnvoyFilters, h]
  rfl

/-- The EnvoyFilters of a service's proxies. -/
theorem generateNetworkFilter_eq (outboundProxy inboundProxy : Option Proxy) :
    generateNetworkFilter service port outboundProxy inboundProxy filterName filterType operation =
      .ok (outboundProxy.elim [] (fun proxy => service.spec.addresses.map fun address =>
          outboundFilter host address port.number operation (generateValue proxy filterName filterType)) ++
        inboundProxy.elim [] fun proxy =>
          if hasInboundWorkloadSelector (inboundEnvoyFilterWorkloadSelector service) then
            [inboundFilter host port.number operation (generateValue proxy filterName filterType)
              (inboundEnvoyFilterWorkloadSelector service)]
          else []) := by
  unfold generateNetworkFilter
  cases outboundProxy <;> cases inboundProxy <;>
    simp only [generateOutboundListenerEnvoyFilters_eq h, generateInboundListenerEnvoyFilters_eq h, bind, Except.bind,
      pure, Except.pure, Option.elim, List.append_nil]
  all_goals split <;> simp_all

/-- Each of them is the outbound one of an address or the inbound one. -/
theorem mem_generateNetworkFilter {outboundProxy inboundProxy : Option Proxy} {ws : List EnvoyFilterWrapper}
    (hws : generateNetworkFilter service port outboundProxy inboundProxy filterName filterType operation = .ok ws)
    {w : EnvoyFilterWrapper} (hw : w ∈ ws) :
    (∃ proxy address, outboundProxy = some proxy ∧ address ∈ service.spec.addresses ∧
      w = outboundFilter host address port.number operation (generateValue proxy filterName filterType)) ∨
    ∃ proxy, inboundProxy = some proxy ∧ w = inboundFilter host port.number operation
      (generateValue proxy filterName filterType) (inboundEnvoyFilterWorkloadSelector service) := by
  rw [generateNetworkFilter_eq h] at hws
  cases hws
  rcases List.mem_append.mp hw with hw | hw
  · cases outboundProxy with
    | none => cases hw
    | some proxy =>
      obtain ⟨address, ha, rfl⟩ := List.mem_map.mp hw
      exact .inl ⟨proxy, address, rfl, ha, rfl⟩
  · cases inboundProxy with
    | none => cases hw
    | some proxy =>
      rw [Option.elim_some] at hw
      split at hw
      · exact .inr ⟨proxy, rfl, List.mem_singleton.mp hw⟩
      · cases hw

end Aeraki.Proof.EnvoyFilter
