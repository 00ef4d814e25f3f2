import Aeraki.Impl.Envoy
import Aeraki.Impl.Protocol

/-!
# EnvoyFilters for network filters

`envoyfilter/network_filter.go`: the EnvoyFilters that put a protocol's proxy
into the listeners of a service, one for each address of the service outbound
and one inbound.
-/

namespace Aeraki.Impl

open Go (Comp index deref)

/-- `MeshConfig_AccessLogEncoding`. -/
inductive AccessLogEncoding
  | TEXT
  | JSON
  | other
deriving DecidableEq

/-- `ProxyConfig`: the sampling percentage of its tracing. -/
structure ProxyConfig where
  tracing : Option Float64
deriving DecidableEq

/-- `MeshConfig`: what the generators read of the global mesh configuration,
and whether its access log format is a JSON object. -/
structure MeshConfig where
  accessLogFile : String := ""
  accessLogFormat : String := ""
  accessLogEncoding : AccessLogEncoding := .TEXT
  formatIsJson : Bool := false
  enableTracing : Bool := false
  defaultConfig : Option ProxyConfig := some ⟨none⟩
deriving DecidableEq

/-- `EnvoyFilterContext`. -/
structure EnvoyFilterContext where
  meshConfig : MeshConfig
  gateway : Option (Config Gateway) := none
  serviceEntry : Config ServiceEntry
  virtualService : Option (Config VirtualService) := none
  metaRouter : Option MetaRouter := none
deriving DecidableEq

/-- `outboundEnvoyFilterName`. -/
def outboundEnvoyFilterName (host vip : String) (port : Nat) : String :=
  "aeraki-outbound-" ++ host ++ "-" ++ vip ++ "-" ++ Go.itoa port

/-- `inboundEnvoyFilterName`. -/
def inboundEnvoyFilterName (host : String) (port : Nat) : String :=
  "aeraki-inbound-" ++ host ++ "-" ++ Go.itoa port

/-- `wellknown.TCPProxy`. -/
def tcpProxy : String := "envoy.filters.network.tcp_proxy"

/-- `generateValue`. -/
def generateValue (proxy : Proxy) (filterName filterType : String) : PatchValue :=
  .networkFilter filterName filterType proxy

/-- `inboundEnvoyFilterWorkloadSelector`: the labels of the selector. -/
def inboundEnvoyFilterWorkloadSelector (service : Config ServiceEntry) : GoMap String String :=
  let labels := service.spec.workloadSelector.getD ∅
  if labels = ∅ then
    let label := Go.replaceAll ((service.annotations.lookup "workloadSelector").getD "") ' ' ""
    match Go.split label ':' with
    | [_] => labels.insert "app" label
    | [key, value] => labels.insert key value
    | _ => labels
  else labels

/-- `hasInboundWorkloadSelector`. -/
def hasInboundWorkloadSelector (labels : GoMap String String) : Bool := labels ≠ ∅

/-- The name of the outbound listener of an address. -/
def outboundListenerName (address : String) (port : Nat) : String := address ++ "_" ++ Go.itoa port

/-- `generateOutboundListenerEnvoyFilters`. -/
def generateOutboundListenerEnvoyFilters (service : Config ServiceEntry) (port : ServicePort)
    (outboundProxy : Proxy) (filterName filterType : String) (operation : PatchOperation) :
    Comp (List EnvoyFilterWrapper) :=
  service.spec.addresses.mapM fun address => do
    let host ← index service.spec.hosts 0
    return {
      name := outboundEnvoyFilterName host address port.number
      envoyfilter := {
        configPatches := [{
          applyTo := .NETWORK_FILTER
          match_ := some (.listener (outboundListenerName address port.number) none tcpProxy)
          operation := operation
          value := some (generateValue outboundProxy filterName filterType) }] } }

/-- `generateInboundListenerEnvoyFilters`. -/
def generateInboundListenerEnvoyFilters (service : Config ServiceEntry) (port : ServicePort)
    (inboundProxy : Proxy) (filterName filterType : String) (operation : PatchOperation)
    (workloadSelector : GoMap String String) : Comp (List EnvoyFilterWrapper) := do
  let host ← index service.spec.hosts 0
  return [{
    name := inboundEnvoyFilterName host port.number
    envoyfilter := {
      workloadSelector := some workloadSelector
      configPatches := [{
        applyTo := .NETWORK_FILTER
        match_ := some (.listener "virtualInbound" (some port.number) tcpProxy)
        operation := operation
        value := some (generateValue inboundProxy filterName filterType) }] } }]

/-- `generateNetworkFilter`. -/
def generateNetworkFilter (service : Config ServiceEntry) (port : ServicePort)
    (outboundProxy inboundProxy : Option Proxy) (filterName filterType : String)
    (operation : PatchOperation) : Comp (List EnvoyFilterWrapper) := do
  let outbound ← match outboundProxy with
    | some proxy => generateOutboundListenerEnvoyFilters service port proxy filterName filterType operation
    | none => pure []
  let workloadSelector := inboundEnvoyFilterWorkloadSelector service
  match inboundProxy with
  | some proxy =>
    if hasInboundWorkloadSelector workloadSelector then
      return outbound ++ (← generateInboundListenerEnvoyFilters service port proxy filterName filterType
        operation workloadSelector)
    else return outbound
  | none => return outbound

/-- `GenerateInsertBeforeNetworkFilter`. -/
def generateInsertBeforeNetworkFilter (service : Config ServiceEntry) (outboundProxy inboundProxy : Option Proxy)
    (filterName filterType : String) : Comp (List EnvoyFilterWrapper) := do
  generateNetworkFilter service (← index service.spec.ports 0) outboundProxy inboundProxy filterName filterType
    .INSERT_BEFORE

/-- `GenerateReplaceNetworkFilter`. -/
def generateReplaceNetworkFilter (service : Config ServiceEntry) (port : ServicePort)
    (outboundProxy inboundProxy : Option Proxy) (filterName filterType : String) :
    Comp (List EnvoyFilterWrapper) :=
  generateNetworkFilter service port outboundProxy inboundProxy filterName filterType .REPLACE

/-! ## The clusters of a service and of a VirtualService's destinations

The plugins build them alike. -/

/-- The stat name of a service in a direction: the cluster of its first host
and port. -/
def statPrefix (direction : TrafficDirection) (context : EnvoyFilterContext) : Comp String := do
  let host ← index context.serviceEntry.spec.hosts 0
  let port ← index context.serviceEntry.spec.ports 0
  return buildClusterName direction "" host port.number

/-- The cluster of a destination's subset. -/
def destinationCluster (service : ServiceEntry) (destination : Option Destination) : Comp String := do
  let d ← deref destination
  let host ← index service.hosts 0
  let port ← index service.ports 0
  return buildClusterName .outbound d.subset host port.number

/-- The cluster of the first destination. -/
def singleCluster (http : HTTPRoute) (service : ServiceEntry) : Comp ClusterSpecifier := do
  let r ← index http.route 0
  return .cluster (← destinationCluster service r.destination)

/-- The clusters of all destinations, with their weights. -/
def clusterWeights (http : HTTPRoute) (service : ServiceEntry) : Comp (List ClusterWeight) :=
  http.route.mapM fun r => do
    return { name := ← destinationCluster service r.destination, weight := r.weight.toUInt32 }

end Aeraki.Impl
