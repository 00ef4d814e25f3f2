import Aeraki.Impl.EnvoyFilter.NetworkFilter
import Aeraki.Impl.Xds.Route

/-!
# The MetaProtocol generator

`plugin/metaprotocol`: the MetaProtocol proxies of a service or of a gateway,
with the rate limits of the service's MetaRouter.
-/

namespace Aeraki.Impl.MetaProtocol

open Go (Comp index deref)

/-! ## Filters -/

/-- `appendCommonFilters`. -/
def appendCommonFilters (filters : List MetaProtocolFilter) (host : String) : List MetaProtocolFilter :=
  filters ++
    [{ name := "aeraki.meta_protocol.filters.metadata_exchange" },
     { name := "aeraki.meta_protocol.filters.istio_stats", config := some (.istioStats host) },
     { name := "aeraki.meta_protocol.filters.router" }]

/-- `buildOutboundFilters`. -/
def buildOutboundFilters (host : String) : List MetaProtocolFilter := appendCommonFilters [] host

/-- `crd2tokenBucket`. -/
def crd2tokenBucket (tbCrd : TokenBucket) : Comp EnvoyTokenBucket := do
  let fillInterval ← deref tbCrd.fillInterval
  let tokensPerFill ← deref tbCrd.tokensPerFill
  return {
    maxTokens := tbCrd.maxTokens
    fillInterval := { seconds := fillInterval.seconds, nanos := fillInterval.nanos }
    tokensPerFill := if tokensPerFill ≠ 0 then some tokensPerFill else none }

/-- The condition of one element of `crd2Conditions`, if it has a bucket. -/
def crd2Condition (o : Oracle) (condition : Option LocalRateLimitCondition) :
    Comp (Option EnvoyLocalRateLimitCondition) := do
  let condition ← deref condition
  match condition.tokenBucket with
  | none => return none
  | some bucket =>
    let tokenBucket ← crd2tokenBucket bucket
    return some {
      tokenBucket := tokenBucket
      match_ := ⟨Xds.metaMatch2HttpHeaderMatch o condition.match_⟩ }

/-- `crd2Conditions`. -/
def crd2Conditions (o : Oracle) (conditions : List (Option LocalRateLimitCondition)) :
    Comp (List EnvoyLocalRateLimitCondition) := do
  return (← conditions.zipIdx.mapM fun c => crd2Condition (o.at (Go.itoa c.2)) c.1).reduceOption

/-- `appendLocalRateLimitFilter`. -/
def appendLocalRateLimitFilter (o : Oracle) (metaRouter : MetaRouter) (localRateLimit : LocalRateLimit)
    (filters : List MetaProtocolFilter) : Comp (Except String (List MetaProtocolFilter)) := do
  if localRateLimit.tokenBucket.isNone && localRateLimit.conditions.isEmpty then
    return .error "either tokenBucket or conditions should be specified"
  let host ← index metaRouter.hosts 0
  let tokenBucket ← localRateLimit.tokenBucket.mapM crd2tokenBucket
  let conditions ← crd2Conditions o localRateLimit.conditions
  return .ok (filters ++
    [{ name := "aeraki.meta_protocol.filters.local_ratelimit"
       config := some (.localRateLimit
         { statPrefix := host, tokenBucket := tokenBucket, conditions := conditions }) }])

/-- `appendGlobalRateLimitFilter`. -/
def appendGlobalRateLimitFilter (o : Oracle) (globalRateLimit : GlobalRateLimit)
    (filters : List MetaProtocolFilter) : Comp (Except String (List MetaProtocolFilter)) := do
  if globalRateLimit.descriptors.isEmpty then
    return .error "then length of global rate [lmit actions should not be zero"
  let descriptors ← globalRateLimit.descriptors.mapM deref
  let requestTimeout ← deref globalRateLimit.requestTimeout
  return .ok (filters ++
    [{ name := "aeraki.meta_protocol.filters.ratelimit"
       config := some (.globalRateLimit
         { match_ := ⟨Xds.metaMatch2HttpHeaderMatch o globalRateLimit.match_⟩
           domain := globalRateLimit.domain
           timeout := { seconds := requestTimeout.seconds, nanos := requestTimeout.nanos }
           failureModeDeny := globalRateLimit.denyOnFail
           rateLimitService := globalRateLimit.rateLimitService
           descriptors := descriptors }) }])

/-- `buildInboundFilters`. -/
def buildInboundFilters (o : Oracle) (metaRouter : Option MetaRouter) (host : String) :
    Comp (Except String (List MetaProtocolFilter)) := do
  match metaRouter with
  | none => return .ok (appendCommonFilters [] host)
  | some metaRouter =>
    let filters ← match metaRouter.localRateLimit with
      | some limit => appendLocalRateLimitFilter (o.at "local") metaRouter limit []
      | none => pure (.ok [])
    match filters with
    | .error err => return .error err
    | .ok filters =>
      let filters ← match metaRouter.globalRateLimit with
        | some limit => appendGlobalRateLimitFilter (o.at "global") limit filters
        | none => pure (.ok filters)
      match filters with
      | .error err => return .error err
      | .ok filters => return .ok (appendCommonFilters filters host)

/-! ## Access logs and tracing -/

/-- `envoyTextLogFormat`. -/
def envoyTextLogFormat : String :=
  "[%START_TIME%] %REQ(X-META-PROTOCOL-APPLICATION-PROTOCOL)% " ++
  "%RESPONSE_CODE% %RESPONSE_CODE_DETAILS% %CONNECTION_TERMINATION_DETAILS% " ++
  "\"%UPSTREAM_TRANSPORT_FAILURE_REASON%\" %BYTES_RECEIVED% %BYTES_SENT% " ++
  "%DURATION%  \"%REQ(X-FORWARDED-FOR)%\" \"%REQ(X-REQUEST-ID)%\" " ++
  "%UPSTREAM_CLUSTER% %UPSTREAM_LOCAL_ADDRESS% %DOWNSTREAM_LOCAL_ADDRESS% " ++
  "%DOWNSTREAM_REMOTE_ADDRESS% %ROUTE_NAME%\n"

/-- `envoyJSONLogFormatIstio`. -/
def envoyJSONLogFormatIstio : GoMap String String :=
  GoMap.writeAll ∅
    [("start_time", "%START_TIME%"),
     ("route_name", "%ROUTE_NAME%"),
     ("application_protocol", "%REQ(X-META-PROTOCOL-APPLICATION-PROTOCOL)%"),
     ("response_code", "%RESPONSE_CODE%"),
     ("response_code_details", "%RESPONSE_CODE_DETAILS%"),
     ("connection_termination_details", "%CONNECTION_TERMINATION_DETAILS%"),
     ("bytes_received", "%BYTES_RECEIVED%"),
     ("bytes_sent", "%BYTES_SENT%"),
     ("duration", "%DURATION%"),
     ("request_id", "%REQ(X-REQUEST-ID)%"),
     ("upstream_cluster", "%UPSTREAM_CLUSTER%"),
     ("upstream_local_address", "%UPSTREAM_LOCAL_ADDRESS%"),
     ("downstream_local_address", "%DOWNSTREAM_LOCAL_ADDRESS%"),
     ("downstream_remote_address", "%DOWNSTREAM_REMOTE_ADDRESS%"),
     ("upstream_transport_failure_reason", "%UPSTREAM_TRANSPORT_FAILURE_REASON%")]

/-- `buildFileAccessLogHelper`. A format that is a JSON object is kept as its
text. -/
def buildFileAccessLogHelper (path : String) (mesh : MeshConfig) : AccessLog where
  path := if path = "" then "/dev/stdout" else path
  format := match mesh.accessLogEncoding with
    | .TEXT => some (.text (if mesh.accessLogFormat ≠ "" then mesh.accessLogFormat else envoyTextLogFormat))
    | .JSON => some (
      if mesh.accessLogFormat ≠ "" ∧ mesh.formatIsJson = true then .parsedJson mesh.accessLogFormat
      else .json envoyJSONLogFormatIstio)
    | .other => none

/-- `configAccessLog`. -/
def configAccessLog (mesh : MeshConfig) (proxy : MetaProtocolProxy) : MetaProtocolProxy :=
  if mesh.accessLogFile ≠ "" then
    { proxy with accessLog := [buildFileAccessLogHelper mesh.accessLogFile mesh] }
  else proxy

/-- The bits of 1, `defaultRandomSampling`. -/
def defaultRandomSampling : Float64 := 0x3ff0000000000000

/-- `configTracing`. -/
def configTracing (mesh : MeshConfig) (proxy : MetaProtocolProxy) : Comp MetaProtocolProxy := do
  if mesh.enableTracing then
    let config ← deref mesh.defaultConfig
    return { proxy with
      tracing := some
        { clientSampling := Xds.hundred
          randomSampling := config.tracing.getD defaultRandomSampling
          overallSampling := Xds.hundred } }
  else return proxy

/-! ## Proxies -/

/-- The application protocol of a port and its codec. -/
def portCodec (codecs : Codecs) (port : ServicePort) : Comp (Except String (String × String)) := do
  match ← getApplicationProtocolFromPortName port.name with
  | .error err => return .error err
  | .ok applicationProtocol =>
    match getApplicationProtocolCodec codecs applicationProtocol with
    | .error err => return .error err
    | .ok codec => return .ok (applicationProtocol, codec)

/-- `buildOutboundProxy`. -/
def buildOutboundProxy (codecs : Codecs) (context : EnvoyFilterContext) (port : ServicePort) :
    Comp (Except String MetaProtocolProxy) := do
  match ← portCodec codecs port with
  | .error err => return .error err
  | .ok (applicationProtocol, codec) =>
    let host ← index context.serviceEntry.spec.hosts 0
    let proxy := configAccessLog context.meshConfig
      { statPrefix := buildClusterName .outbound "" host port.number
        routeSpecifier := .rds (buildMetaProtocolRouteName host port.number) "aeraki-xds"
        applicationProtocol := applicationProtocol
        codec := codec
        metaProtocolFilters := buildOutboundFilters host }
    return .ok (← configTracing context.meshConfig proxy)

/-- `buildInboundRouteConfig`. -/
def buildInboundRouteConfig (context : EnvoyFilterContext) (port : ServicePort) :
    Comp MetaProtocolRouteConfiguration := do
  let host ← index context.serviceEntry.spec.hosts 0
  let clusterName := buildClusterName .inbound "" host port.number
  return {
    name := clusterName
    routes := [{ route := { clusterSpecifier := some (.cluster clusterName) } }] }

/-- `buildInboundProxy`. -/
def buildInboundProxy (codecs : Codecs) (o : Oracle) (context : EnvoyFilterContext) (port : ServicePort) :
    Comp (Except String MetaProtocolProxy) := do
  let route ← buildInboundRouteConfig context port
  match ← portCodec codecs port with
  | .error err => return .error err
  | .ok (applicationProtocol, codec) =>
    let host ← index context.serviceEntry.spec.hosts 0
    match ← buildInboundFilters o context.metaRouter host with
    | .error err => return .error err
    | .ok filters =>
      let proxy := configAccessLog context.meshConfig
        { statPrefix := buildClusterName .inbound "" host port.number
          routeSpecifier := .routeConfig route
          applicationProtocol := applicationProtocol
          codec := codec
          metaProtocolFilters := filters }
      return .ok (← configTracing context.meshConfig proxy)

/-! ## The generator -/

/-- The name and type of the proxy's network filter. -/
def filterName : String := "envoy.filters.network.meta_protocol_proxy"

def filterType : String := "type.googleapis.com/aeraki.meta_protocol_proxy.v1alpha.MetaProtocolProxy"

/-- The filters of one MetaProtocol port of a service. -/
def generateSidecarPort (codecs : Codecs) (o : Oracle) (context : EnvoyFilterContext) (port : ServicePort) :
    ExceptT String Comp (List EnvoyFilterWrapper) := do
  let outboundProxy ← ExceptT.mk (buildOutboundProxy codecs context port)
  let inboundProxy ← ExceptT.mk (buildInboundProxy codecs o context port)
  liftM (generateReplaceNetworkFilter context.serviceEntry port (some (.metaProtocol outboundProxy))
    (some (.metaProtocol inboundProxy)) filterName filterType)

/-- The MetaProtocol ports of a service, with their positions. -/
def metaProtocolPorts (ports : List ServicePort) : List (ServicePort × Nat) :=
  ports.zipIdx.filter fun p => (getLayer7ProtocolFromPortName p.1.name).isMetaProtocol

/-- `generateSidecarEnvoyFilters`. -/
def generateSidecarEnvoyFilters (codecs : Codecs) (o : Oracle) (context : EnvoyFilterContext) :
    Comp (Except String (List EnvoyFilterWrapper)) :=
  ExceptT.run do
    let filters ← (metaProtocolPorts context.serviceEntry.spec.ports).mapM fun p =>
      generateSidecarPort codecs (o.at (Go.itoa p.2)) context p.1
    return filters.flatten

/-- The name of a gateway's filter. -/
def gatewayEnvoyFilterName (gateway : Config Gateway) (port : Nat) : String :=
  "aeraki-gateway-outbound-" ++ gateway.name ++ "." ++ gateway.namespace_ ++ "-" ++ Go.itoa port

/-- A filter, renamed for a gateway and given its selector. -/
def gatewayFilter (gateway : Config Gateway) (port : Nat) (filter : EnvoyFilterWrapper) : EnvoyFilterWrapper where
  name := gatewayEnvoyFilterName gateway port
  namespace_ := gateway.namespace_
  envoyfilter := { filter.envoyfilter with workloadSelector := some gateway.spec.selector }

/-- The body of the loop of `generateGatewayEnvoyFilters`. The filters of the
servers before are renamed too. -/
def generateGatewayServer (codecs : Codecs) (context : EnvoyFilterContext) (gateway : Config Gateway)
    (envoyfilters : List EnvoyFilterWrapper) (server : Server) : ExceptT String Comp (List EnvoyFilterWrapper) := do
  match server.port with
  | none => return envoyfilters
  | some port =>
    if !(getLayer7ProtocolFromPortName port.name).isMetaProtocol then return envoyfilters
    let outboundProxy ← ExceptT.mk (buildOutboundProxy codecs context port)
    let filters ← liftM (generateReplaceNetworkFilter context.serviceEntry port
      (some (.metaProtocol outboundProxy)) none filterName filterType)
    return (envoyfilters ++ filters).map (gatewayFilter gateway port.number)

/-- `generateGatewayEnvoyFilters`. -/
def generateGatewayEnvoyFilters (codecs : Codecs) (context : EnvoyFilterContext) (gateway : Config Gateway) :
    Comp (Except String (List EnvoyFilterWrapper)) :=
  ExceptT.run (gateway.spec.servers.foldlM (generateGatewayServer codecs context gateway) [])

/-- `Generate`. -/
def generate (codecs : Codecs) (o : Oracle) (context : EnvoyFilterContext) :
    Comp (Except String (List EnvoyFilterWrapper)) :=
  match context.gateway with
  | some gateway => generateGatewayEnvoyFilters codecs context gateway
  | none => generateSidecarEnvoyFilters codecs o context

end Aeraki.Impl.MetaProtocol
