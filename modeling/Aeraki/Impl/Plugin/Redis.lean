import Aeraki.Impl.EnvoyFilter.NetworkFilter

/-!
# The Redis generator

`plugin/redis`: the Redis proxies and clusters of a service, from the
RedisServices and RedisDestinations of its namespace and the secrets they
name. These come from the API server as JSON: every pointer in them may be
nil.
-/

namespace Aeraki.Impl.Redis

open Go (Comp index deref)

/-! ## The API objects -/

/-- `Auth`: inline credentials, or the fields of a secret. -/
inductive Auth
  | plain (username password : String)
  | secret (name usernameField passwordField : String)
  | unset
deriving DecidableEq

/-- `RedisService_ReadPolicy`. -/
inductive ReadPolicy
  | MASTER
  | PREFER_MASTER
  | REPLICA
  | PREFER_REPLICA
  | ANY
deriving DecidableEq

/-- `RedisService_Settings`. -/
structure Settings where
  auth : Option Auth := none
  opTimeout : Option Duration := none
  enableCommandStats : Bool := false
  enableHashtagging : Bool := false
  enableRedirection : Bool := false
  bufferFlushTimeout : Option Duration := none
  maxBufferSizeBeforeFlush : UInt32 := 0
  readPolicy : ReadPolicy := .MASTER
deriving DecidableEq

/-- `RedisService_RouteDestination`. -/
structure RouteDestination where
  host : String
  port : Nat := 0
deriving DecidableEq

/-- `RedisService_Mirror`. -/
structure Mirror where
  route : Option RouteDestination
  percentage : Option Float64
  excludeReadCommands : Bool := false
deriving DecidableEq

/-- The key of a route's match. -/
structure MatchKey where
  keyPrefix : String
  removePrefix : Bool := false
deriving DecidableEq

/-- `RedisService_RedisMatch`. -/
structure RedisMatch where
  key : Option MatchKey
deriving DecidableEq

/-- `RedisService_Route`. -/
structure Route where
  match_ : Option RedisMatch := none
  route : Option RouteDestination
  mirror : List (Option Mirror) := []
deriving DecidableEq

/-- `Fault`. -/
structure Fault where
  type : RedisFaultType
  percentage : Option Float64
  delay : Option Duration := none
  commands : List String := []
deriving DecidableEq

/-- `RedisService`. -/
structure RedisService where
  name : String
  namespace_ : String
  host : List String
  settings : Option Settings := none
  redis : List (Option Route) := []
  faults : List (Option Fault) := []
deriving DecidableEq

/-- `TcpKeepalive`. -/
structure Keepalive where
  probes : UInt32 := 0
  time : Option Duration := none
  interval : Option Duration := none
deriving DecidableEq

/-- `TCPSettings`. -/
structure TCPSettings where
  maxConnections : Int32 := 0
  connectTimeout : Option Duration := none
  tcpKeepalive : Option Keepalive := none
deriving DecidableEq

/-- `RedisSettings`: its mode is CLUSTER or not. -/
structure RedisSettings where
  cluster : Bool := false
  discoveryEndpoints : List String := []
  auth : Option Auth := none
deriving DecidableEq

/-- `ConnectionPoolSettings`. -/
structure ConnectionPoolSettings where
  redis : Option RedisSettings := none
  tcp : Option TCPSettings := none
deriving DecidableEq

/-- `RedisTrafficPolicy`. -/
structure RedisTrafficPolicy where
  connectionPool : Option ConnectionPoolSettings
deriving DecidableEq

/-- `RedisDestination`. -/
structure RedisDestination where
  namespace_ : String
  host : String
  trafficPolicy : Option RedisTrafficPolicy := none
deriving DecidableEq

/-- `Secret`: its data, by key. -/
structure Secret where
  namespace_ : String
  name : String
  data : GoMap String String
deriving DecidableEq

/-- What the generator reads besides its context. -/
structure Generator where
  secrets : List Secret := []
  redisServices : List RedisService := []
  redisDestinations : List RedisDestination := []
  store : ConfigStore

/-! ## Credentials -/

/-- The secret's data, or the error of the call. -/
def Generator.getSecret (g : Generator) (o : Oracle) (ns name : String) : Except String (GoMap String String) :=
  match o.callError ["Secrets"] with
  | some err => .error err
  | none =>
    match g.secrets.find? fun s => s.namespace_ = ns ∧ s.name = name with
    | some s => .ok s.data
    | none => .error ("secrets \"" ++ name ++ "\" not found")

/-- The key of the password: the given one, or a default that is there. -/
def passwordKey (data : GoMap String String) (passwordField : String) : String :=
  if passwordField = "" then if (data.lookup "password").isNone then "token" else "password" else passwordField

/-- `password`: user name and password. The default user name is meant for
`uf`, but the code tests and sets `pf`, which is not empty there. -/
def Generator.password (g : Generator) (o : Oracle) (ns : String) (auth : Option Auth) :
    Except String (String × String) :=
  match auth with
  | some (.plain username password) => .ok (username, password)
  | some (.secret name usernameField passwordField) => do
    let data ← g.getSecret o ns name
    let pf := passwordKey data passwordField
    let uf := usernameField
    let pf := if pf = "" then "username" else pf
    return (Go.trimSpace ((data.lookup uf).getD ""), Go.trimSpace ((data.lookup pf).getD ""))
  | some .unset | none => .ok ("", "")

/-- `inlineString`. -/
def inlineString (s : String) : Option String := if s = "" then none else some s

/-! ## The outbound proxy -/

/-- `translatePercentToFractionalPercent`, in millionths. As in the routes of xDS, the
conversion saturates where the product is out of range. -/
def translatePercentToFractionalPercent (p : Option Float64) : Comp UInt32 := do
  return (Float.ofBits (← deref p) * 10000).toUInt32

/-- `outboundClusterName`. -/
def outboundClusterName (host : String) (port : Nat) : String := buildClusterName .outbound "" host port

/-- `findServicePort`. -/
def findServicePort (svc : Option ServiceEntry) (listenPort : Nat) (listenPortName : String) : Nat :=
  match svc with
  | none => listenPort
  | some svc =>
    match svc.ports with
    | [port] => port.number
    | ports =>
      match ports.find? fun p => p.number = listenPort ∨ p.name = listenPortName with
      | some port => if port.number = listenPort then listenPort else port.number
      | none => listenPort

/-- `convertPolicy`: PREFER_REPLICA becomes PREFER_MASTER. -/
def convertPolicy : ReadPolicy → RedisReadPolicy
  | .MASTER => .MASTER
  | .PREFER_MASTER => .PREFER_MASTER
  | .REPLICA => .REPLICA
  | .PREFER_REPLICA => .PREFER_MASTER
  | .ANY => .ANY

/-- `convertFault`. -/
def convertFault (fault : Option Fault) : Comp RedisFault := do
  let fault ← deref fault
  return {
    commands := fault.commands
    delay := fault.delay
    faultEnabled := ← translatePercentToFractionalPercent fault.percentage
    faultType := fault.type }

/-- The port of a destination: its own, or that of the host's service. -/
def destinationPort (hostServices : GoMap String ServiceEntry) (listenPort : Nat) (listenPortName : String)
    (route : RouteDestination) : Nat :=
  if route.port = 0 then findServicePort (hostServices.lookup route.host) listenPort listenPortName
  else route.port

/-- `buildPrefixRoute`: the route, and whether it is the catch-all. A mirror
goes to its own host, at the port of the main route. -/
def buildPrefixRoute (r : Option Route) (hostServices : GoMap String ServiceEntry) (listenPort : Nat)
    (listenPortName : String) : Comp (RedisRoute × Bool) := do
  let r ← deref r
  let dest ← deref r.route
  let port := destinationPort hostServices listenPort listenPortName dest
  let mirrors ← r.mirror.mapM fun mirror => do
    let mirror ← deref mirror
    let fraction ← translatePercentToFractionalPercent mirror.percentage
    let mirrorDest ← deref mirror.route
    return ({ cluster := outboundClusterName mirrorDest.host port
              runtimeFraction := fraction
              excludeReadCommands := mirror.excludeReadCommands } : RedisMirrorPolicy)
  let route : RedisRoute := { cluster := outboundClusterName dest.host port, requestMirrorPolicy := mirrors }
  match r.match_.bind (·.key) with
  | none => return (route, true)
  | some key => return ({ route with keyPrefix := key.keyPrefix, removePrefix := key.removePrefix }, false)

/-- `buildAuth`. -/
def Generator.buildAuth (g : Generator) (o : Oracle) (proxy : RedisProxy) (rs : RedisService)
    (auth : Auth) : Except String RedisProxy := do
  let (username, password) ← g.password o rs.namespace_ (some auth)
  let proxy := if password ≠ "" then { proxy with downstreamAuthPassword := inlineString password } else proxy
  return if username ≠ "" then { proxy with downstreamAuthUsername := inlineString username } else proxy

/-- `buildSettings`. -/
def Generator.buildSettings (g : Generator) (o : Oracle) (proxy : RedisProxy) (rs : RedisService)
    (settings : Settings) : Except String RedisProxy := do
  let proxy ← match settings.auth with
    | some auth => g.buildAuth o proxy rs auth
    | none => .ok proxy
  return { proxy with
    settings :=
      { opTimeout := settings.opTimeout.getD proxy.settings.opTimeout
        enableCommandStats := settings.enableCommandStats
        enableHashtagging := settings.enableHashtagging
        enableRedirection := settings.enableRedirection
        bufferFlushTimeout := settings.bufferFlushTimeout.or proxy.settings.bufferFlushTimeout
        maxBufferSizeBeforeFlush := settings.maxBufferSizeBeforeFlush
        readPolicy := convertPolicy settings.readPolicy } }

/-- `findTargetHostAndRedisService`: the last RedisService of a host wins. -/
def Generator.findTargetHostAndRedisService (g : Generator) (o : Oracle) (ns : String) (hosts : List String) :
    Except String (Option (String × RedisService)) :=
  match o.callError ["RedisServices"] with
  | some err => .error err
  | none =>
    let services := g.redisServices.filter (inNamespace ns ·.namespace_)
    let svcs : GoMap String RedisService :=
      GoMap.writeAll ∅ (services.flatMap fun service => service.host.map fun h => (h, service))
    .ok (hosts.findSome? fun host => (svcs.lookup host).map fun rs => (host, rs))

/-- `hostServices`: the last ServiceEntry of a host wins. -/
def Generator.hostServices (g : Generator) (o : Oracle) (ns : String) : GoMap String ServiceEntry :=
  let entries := (o.at "hostServices").list (g.store.serviceEntries.filter (inNamespace ns ·.namespace_))
  GoMap.writeAll ∅ (entries.flatMap fun se => se.spec.hosts.map fun h => (h, se.spec))

/-- `defaultOpTimeout` and `defaultInboundOpTimeout`. -/
def defaultOpTimeout : Duration := { seconds := 60 }

def defaultInboundOpTimeout : Duration := { seconds := 3600 }

/-- Puts a prefix route into the proxy. -/
def addRoute (proxy : RedisProxy) (route : RedisRoute × Bool) : RedisProxy :=
  if route.2 then { proxy with catchAllRoute := some route.1 }
  else { proxy with routes := proxy.routes ++ [route.1] }

/-- `buildOutboundProxy`: nil if the service has no RedisService. -/
def Generator.buildOutboundProxy (g : Generator) (o : Oracle) (c : EnvoyFilterContext) (listenPort : Nat)
    (listenPortName : String) : Comp (Except String (Option RedisProxy)) := do
  match g.findTargetHostAndRedisService o c.serviceEntry.namespace_ c.serviceEntry.spec.hosts with
  | .error err => return .error err
  | .ok none => return .ok none
  | .ok (some (targetHost, rs)) =>
    let hostServices := g.hostServices o c.serviceEntry.namespace_
    let faults ← rs.faults.mapM convertFault
    let proxy : RedisProxy :=
      { statPrefix := outboundClusterName targetHost listenPort
        settings := { opTimeout := defaultOpTimeout }
        faults := faults }
    let proxy := match rs.settings with
      | some settings => g.buildSettings o proxy rs settings
      | none => .ok proxy
    match proxy with
    | .error err => return .error err
    | .ok proxy =>
      if rs.redis.isEmpty then
        return .ok (some { proxy with
          catchAllRoute := some { cluster := outboundClusterName targetHost listenPort } })
      let routes ← rs.redis.mapM (buildPrefixRoute · hostServices listenPort listenPortName)
      return .ok (some (routes.foldl addRoute proxy))

/-- `buildOutboundProxyWithFallback`. -/
def Generator.buildOutboundProxyWithFallback (g : Generator) (o : Oracle) (c : EnvoyFilterContext)
    (listenPort : Nat) (listenPortName : String) : Comp RedisProxy := do
  match ← g.buildOutboundProxy o c listenPort listenPortName with
  | .ok (some proxy) => return proxy
  | .ok none | .error _ =>
    let host ← index c.serviceEntry.spec.hosts 0
    return {
      statPrefix := outboundClusterName host listenPort
      settings := { opTimeout := defaultOpTimeout }
      catchAllRoute := some { cluster := outboundClusterName host listenPort } }

/-- `buildInboundProxy`. -/
def buildInboundProxy (context : EnvoyFilterContext) : Comp RedisProxy := do
  let port ← index context.serviceEntry.spec.ports 0
  let name := buildClusterName .inbound "" "" port.number
  return {
    statPrefix := name
    settings := { opTimeout := defaultInboundOpTimeout }
    catchAllRoute := some { cluster := name } }

/-! ## The outbound cluster -/

/-- `math.MaxUint32`. -/
def maxUint32 : UInt32 := 0xffffffff

/-- The cluster before a RedisDestination is applied. -/
def defaultCluster (name : String) : Cluster where
  name := name
  connectTimeout := { seconds := 10 }
  clusterDiscoveryType := .EDS
  edsOverAds := true
  lbPolicy := .MAGLEV
  maxRetries := maxUint32
  maxRequests := maxUint32
  maxConnections := maxUint32
  maxPendingRequests := maxUint32

/-- The address of a discovery endpoint: nil if it is malformed in another way
than by lacking a port. -/
def discoveryHostPort (listenPort : Nat) (ep : String) : Option HostPort :=
  match Go.splitHostPort ep with
  | .ok (host, port) => some { host := host, port := (Go.atoi port % 2 ^ 32).toNat }
  | .error .missingPort => some { host := ep, port := listenPort }
  | .error _ => none

/-- The endpoints of a Redis cluster. -/
def discoveryHostPorts (settings : RedisSettings) (host : String) (listenPort : Nat) : Option (List HostPort) :=
  if settings.discoveryEndpoints.isEmpty then some [{ host := host, port := listenPort }]
  else settings.discoveryEndpoints.mapM (discoveryHostPort listenPort)

/-- The Redis settings of the connection pool: nil if they cannot be applied. -/
def Generator.applyRedis (g : Generator) (o : Oracle) (cl : Cluster) (ns host : String) (listenPort : Nat)
    (settings : RedisSettings) : Option Cluster := do
  let cl ← if settings.cluster then do
      let hostports ← discoveryHostPorts settings host listenPort
      pure { cl with
        lbPolicy := .CLUSTER_PROVIDED
        clusterDiscoveryType := .clusterType "envoy.clusters.redis"
        edsOverAds := false
        loadAssignment := some hostports }
    else pure cl
  match settings.auth with
  | none => some cl
  | some auth =>
    match g.password o ns (some auth) with
    | .error _ => none
    | .ok (username, password) =>
      some { cl with redisProtocolOptions := some (inlineString password, inlineString username) }

/-- `setKeepAliveSettings`: each value is written through two pointers. -/
def setKeepAliveSettings (cl : Cluster) (keepalive : Keepalive) : Comp Cluster := do
  let write (cl : Cluster) (f : TcpKeepalive → TcpKeepalive) : Comp Cluster := do
    let options ← deref cl.upstreamConnectionOptions
    let tcp ← deref options
    return { cl with upstreamConnectionOptions := some (some (f tcp)) }
  let cl ← if keepalive.probes > 0 then
      write cl fun k => { k with keepaliveProbes := some keepalive.probes }
    else pure cl
  let cl ← match keepalive.time with
    | some d => write cl fun k => { k with keepaliveTime := some (UInt32.ofInt d.seconds) }
    | none => pure cl
  match keepalive.interval with
  | some d => write cl fun k => { k with keepaliveInterval := some (UInt32.ofInt d.seconds) }
  | none => pure cl

/-- The TCP settings of the connection pool. -/
def applyTcp (cl : Cluster) (tcp : TCPSettings) : Comp Cluster := do
  let cl := { cl with connectTimeout := tcp.connectTimeout.getD cl.connectTimeout }
  let cl := if tcp.maxConnections > 0 then { cl with maxConnections := tcp.maxConnections.toUInt32 } else cl
  match tcp.tcpKeepalive with
  | some keepalive => setKeepAliveSettings cl keepalive
  | none => return cl

/-- `addIstioFilter`. -/
def addIstioFilter (cl : Cluster) (port : Nat) (host name namespace_ : String) : Cluster :=
  { cl with
    metadata := some
      { defaultOriginalPort := port
        services := [(host, Go.trimPrefix name "synthetic-", namespace_)] }
    filters := cl.filters ++ ["istio.metadata_exchange"] }

/-- The RedisDestination of the first host that has one, in the order of the
RedisDestinations. -/
def targetDestination (destinations : List RedisDestination) (hosts : List String) : Option RedisDestination :=
  destinations.find? fun d => hosts.contains d.host

/-- `buildOutboundCluster`: nil if it cannot be built. -/
def Generator.buildOutboundCluster (g : Generator) (o : Oracle) (c : EnvoyFilterContext) (listenPort : Nat) :
    Comp (Option Cluster) := do
  let firstHost ← index c.serviceEntry.spec.hosts 0
  let cl := defaultCluster (outboundClusterName firstHost listenPort)
  if (o.callError ["RedisDestinations"]).isSome then return none
  let destinations := g.redisDestinations.filter (inNamespace c.serviceEntry.namespace_ ·.namespace_)
  match targetDestination destinations c.serviceEntry.spec.hosts with
  | none => return some cl
  | some d =>
    match d.trafficPolicy.bind (·.connectionPool) with
    | none => return some cl
    | some connPool =>
      let applied := match connPool.redis with
        | some settings => g.applyRedis (o.at "cluster") cl c.serviceEntry.namespace_ d.host listenPort settings
        | none => some cl
      match applied with
      | none => return none
      | some cl =>
        let cl ← match connPool.tcp with
          | some tcp => applyTcp cl tcp
          | none => pure cl
        let cl := addIstioFilter cl listenPort d.host c.serviceEntry.name c.serviceEntry.namespace_
        return some { cl with
          transportSocketMatches := [("tlsMode-disabled", "envoy.transport_sockets.raw_buffer")] }

/-! ## The generator -/

/-- `ReplaceClusterPatches`. -/
def replaceClusterPatches (cluster : Cluster) : List ConfigPatch :=
  [{ applyTo := .CLUSTER, match_ := some (.cluster cluster.name), operation := .REMOVE, value := none },
   { applyTo := .CLUSTER, match_ := none, operation := .ADD, value := some (.cluster cluster) }]

/-- Adds the cluster's patches to an outbound filter. -/
def addClusterPatches (cluster : Cluster) (filter : EnvoyFilterWrapper) : EnvoyFilterWrapper :=
  if filter.envoyfilter.workloadSelector.isNone then
    { filter with
      envoyfilter := { filter.envoyfilter with
        configPatches := filter.envoyfilter.configPatches ++ replaceClusterPatches cluster } }
  else filter

/-- `generate` for one port: its filters are those of the first port. -/
def Generator.generatePort (g : Generator) (o : Oracle) (filterContext : EnvoyFilterContext)
    (targetPort : ServicePort) : Comp (List EnvoyFilterWrapper) := do
  let firstPort ← index filterContext.serviceEntry.spec.ports 0
  let outboundProxy ← g.buildOutboundProxyWithFallback o filterContext targetPort.number targetPort.name
  let inboundProxy ← buildInboundProxy filterContext
  let filters ← generateReplaceNetworkFilter filterContext.serviceEntry firstPort (some (.redis outboundProxy))
    (some (.redis inboundProxy)) "envoy.filters.network.redis_proxy"
    "type.googleapis.com/envoy.extensions.filters.network.redis_proxy.v3.RedisProxy"
  match ← g.buildOutboundCluster o filterContext targetPort.number with
  | some cluster => return filters.map (addClusterPatches cluster)
  | none => return filters

/-- `Generate`. -/
def Generator.generate (g : Generator) (o : Oracle) (filterContext : EnvoyFilterContext) :
    Comp (Except String (List EnvoyFilterWrapper)) := do
  let ports := filterContext.serviceEntry.spec.ports.zipIdx.filter (Go.hasPrefix ·.1.name "tcp-redis")
  let filters ← ports.mapM fun p => g.generatePort (o.at (Go.itoa p.2)) filterContext p.1
  return .ok filters.flatten

end Aeraki.Impl.Redis
