import Aeraki.Impl.Dubbo.Authz
import Aeraki.Impl.MetaRouter

/-!
# Envoy's messages and EnvoyFilters

The messages that the generators build: routes, the proxies of each protocol,
the Redis clusters, and the EnvoyFilter resources that carry them. Constant
fields are kept where a message has others of the same kind.
-/

namespace Aeraki.Impl

/-! ## Routes -/

/-- `HeaderMatcher.HeaderMatchSpecifier`. -/
inductive HeaderMatchSpecifier
  | exactMatch (s : String)
  | prefixMatch (s : String)
  | safeRegexMatch (regex : String)
  | presentMatch (b : Bool)
deriving DecidableEq

/-- `routev3.HeaderMatcher`. -/
structure HeaderMatcher where
  name : String
  headerMatchSpecifier : HeaderMatchSpecifier
deriving DecidableEq

/-- `WeightedCluster_ClusterWeight`. -/
structure ClusterWeight where
  name : String
  weight : UInt32
deriving DecidableEq

/-- `WeightedCluster`. -/
structure WeightedCluster where
  clusters : List ClusterWeight
  totalWeight : Option UInt32
deriving DecidableEq

/-- The `ClusterSpecifier` of a route action. -/
inductive ClusterSpecifier
  | cluster (name : String)
  | weightedClusters (w : WeightedCluster)
deriving DecidableEq

/-! ## Dubbo and Thrift -/

/-- `dubbo.Route`: the method and headers it matches, and its action. -/
structure DubboRoute where
  method : Dubbo.StringMatcher
  headers : List HeaderMatcher := []
  route : ClusterSpecifier
deriving DecidableEq

/-- `dubbo.RouteConfiguration`. -/
structure DubboRouteConfiguration where
  name : String
  interface : String
  routes : List DubboRoute
deriving DecidableEq

/-- `dubbo.DubboFilter`: the RBAC filter carries its rules and stat name. -/
structure DubboFilter where
  name : String
  config : Option (Dubbo.RBAC × String) := none
deriving DecidableEq

/-- `dubbo.DubboProxy`, of protocol Dubbo and serialization Hessian2. -/
structure DubboProxy where
  statPrefix : String
  routeConfig : List DubboRouteConfiguration
  dubboFilters : List DubboFilter
deriving DecidableEq

/-- `thrift.Route`. -/
structure ThriftRoute where
  methodName : String
  route : ClusterSpecifier
deriving DecidableEq

/-- `thrift.RouteConfiguration`. -/
structure ThriftRouteConfiguration where
  name : String
  routes : List ThriftRoute
deriving DecidableEq

/-- `thrift.ThriftProxy`, of automatic transport and protocol. -/
structure ThriftProxy where
  statPrefix : String
  routeConfig : ThriftRouteConfiguration
  thriftFilters : List String
deriving DecidableEq

/-! ## Redis -/

/-- `RedisProxy_ConnPoolSettings_ReadPolicy`. -/
inductive RedisReadPolicy
  | MASTER
  | PREFER_MASTER
  | REPLICA
  | PREFER_REPLICA
  | ANY
deriving DecidableEq

/-- `RedisProxy_ConnPoolSettings`. -/
structure RedisConnPoolSettings where
  opTimeout : Duration
  enableCommandStats : Bool := false
  enableHashtagging : Bool := false
  enableRedirection : Bool := false
  bufferFlushTimeout : Option Duration := none
  maxBufferSizeBeforeFlush : UInt32 := 0
  readPolicy : RedisReadPolicy := .MASTER
deriving DecidableEq

/-- `RedisProxy_PrefixRoutes_Route_RequestMirrorPolicy`: the fraction is in
millionths. -/
structure RedisMirrorPolicy where
  cluster : String
  runtimeFraction : UInt32
  excludeReadCommands : Bool
deriving DecidableEq

/-- `RedisProxy_PrefixRoutes_Route`. -/
structure RedisRoute where
  keyPrefix : String := ""
  removePrefix : Bool := false
  cluster : String
  requestMirrorPolicy : List RedisMirrorPolicy := []
deriving DecidableEq

/-- `RedisProxy_RedisFault_RedisFaultType`. -/
inductive RedisFaultType
  | DELAY
  | ERROR
deriving DecidableEq

/-- `RedisProxy_RedisFault`. -/
structure RedisFault where
  faultType : RedisFaultType
  faultEnabled : UInt32
  delay : Option Duration
  commands : List String
deriving DecidableEq

/-- `redis.RedisProxy`. -/
structure RedisProxy where
  statPrefix : String
  settings : RedisConnPoolSettings
  routes : List RedisRoute := []
  catchAllRoute : Option RedisRoute := none
  faults : List RedisFault := []
  downstreamAuthPassword : Option String := none
  downstreamAuthUsername : Option String := none
deriving DecidableEq

/-- `HostPort`. -/
structure HostPort where
  host : String
  port : Nat
deriving DecidableEq

/-- `core.TcpKeepalive`. -/
structure TcpKeepalive where
  keepaliveProbes : Option UInt32 := none
  keepaliveTime : Option UInt32 := none
  keepaliveInterval : Option UInt32 := none
deriving DecidableEq

/-- `Cluster_DiscoveryType`, or a custom cluster type. -/
inductive ClusterDiscoveryType
  | EDS
  | clusterType (name : String)
deriving DecidableEq

/-- `Cluster_LbPolicy`. -/
inductive LbPolicy
  | MAGLEV
  | CLUSTER_PROVIDED
deriving DecidableEq

/-- The Istio metadata of a cluster. -/
structure IstioMetadata where
  defaultOriginalPort : Nat
  services : List (String × String × String)
deriving DecidableEq

/-- `clusterv3.Cluster`. -/
structure Cluster where
  name : String
  connectTimeout : Duration
  clusterDiscoveryType : ClusterDiscoveryType
  edsOverAds : Bool
  lbPolicy : LbPolicy
  maxRetries : UInt32
  maxRequests : UInt32
  maxConnections : UInt32
  maxPendingRequests : UInt32
  loadAssignment : Option (List HostPort) := none
  redisProtocolOptions : Option (Option String × Option String) := none
  upstreamConnectionOptions : Option (Option TcpKeepalive) := none
  metadata : Option IstioMetadata := none
  filters : List String := []
  transportSocketMatches : List (String × String) := []
deriving DecidableEq

/-! ## MetaProtocol -/

/-- `metaroute.RouteMatch`. -/
structure MetaProtocolRouteMatch where
  metadata : List HeaderMatcher
deriving DecidableEq

/-- A mirror policy: its cluster and its fraction in millionths. -/
structure MirrorPolicy where
  cluster : String
  runtimeFraction : UInt32
deriving DecidableEq

/-- `metaroute.RouteAction`. -/
structure MetaProtocolRouteAction where
  clusterSpecifier : Option ClusterSpecifier := none
  hashPolicy : List String := []
  requestMirrorPolicies : List MirrorPolicy := []
deriving DecidableEq

/-- `metaroute.Route`. -/
structure MetaProtocolRoute where
  name : String := ""
  match_ : Option MetaProtocolRouteMatch := none
  route : MetaProtocolRouteAction
  requestMutation : List KeyValue := []
  responseMutation : List KeyValue := []
deriving DecidableEq

/-- `metaroute.RouteConfiguration`. -/
structure MetaProtocolRouteConfiguration where
  name : String
  routes : List MetaProtocolRoute
deriving DecidableEq

/-- Envoy's `TokenBucket`. -/
structure EnvoyTokenBucket where
  maxTokens : UInt32
  tokensPerFill : Option UInt32
  fillInterval : Duration
deriving DecidableEq

/-- `lrldpl.LocalRateLimitCondition`. -/
structure EnvoyLocalRateLimitCondition where
  tokenBucket : EnvoyTokenBucket
  match_ : MetaProtocolRouteMatch
deriving DecidableEq

/-- `lrldpl.LocalRateLimit`. -/
structure EnvoyLocalRateLimit where
  statPrefix : String
  tokenBucket : Option EnvoyTokenBucket := none
  conditions : List EnvoyLocalRateLimitCondition := []
deriving DecidableEq

/-- `grldpl.RateLimit`. -/
structure EnvoyGlobalRateLimit where
  match_ : MetaProtocolRouteMatch
  domain : String
  timeout : Duration
  failureModeDeny : Bool
  rateLimitService : String
  descriptors : List RateLimitDescriptor
deriving DecidableEq

/-- The configurations of MetaProtocol filters. -/
inductive MetaProtocolFilterConfig
  | istioStats (destinationService : String)
  | localRateLimit (c : EnvoyLocalRateLimit)
  | globalRateLimit (c : EnvoyGlobalRateLimit)
deriving DecidableEq

/-- `mpdataplane.MetaProtocolFilter`. -/
structure MetaProtocolFilter where
  name : String
  config : Option MetaProtocolFilterConfig := none
deriving DecidableEq

/-- `MetaProtocolProxy.RouteSpecifier`: a name served over RDS by a cluster,
or the routes themselves. -/
inductive RouteSpecifier
  | rds (routeConfigName clusterName : String)
  | routeConfig (c : MetaProtocolRouteConfiguration)
deriving DecidableEq

/-- The format of a file access log. -/
inductive AccessLogFormat
  | text (format : String)
  | json (format : GoMap String String)
  | parsedJson (format : String)
deriving DecidableEq

/-- A file access log: its path and format. -/
structure AccessLog where
  path : String
  format : Option AccessLogFormat
deriving DecidableEq

/-- `metaprotocol.Tracing`: sampling percentages. -/
structure Tracing where
  clientSampling : Float64
  randomSampling : Float64
  overallSampling : Float64
deriving DecidableEq

/-- `metaprotocol.MetaProtocolProxy`. -/
structure MetaProtocolProxy where
  statPrefix : String
  routeSpecifier : RouteSpecifier
  applicationProtocol : String
  codec : String
  metaProtocolFilters : List MetaProtocolFilter
  accessLog : List AccessLog := []
  tracing : Option Tracing := none
deriving DecidableEq

/-! ## EnvoyFilters -/

/-- The `proto.Message`s put into network filters. A nil pointer of a message
type is encoded as the empty message. -/
inductive Proxy
  | dubbo (p : DubboProxy)
  | thrift (p : ThriftProxy)
  | kafka (statPrefix : String)
  | zookeeper (statPrefix : String)
  | redis (p : RedisProxy)
  | metaProtocol (p : MetaProtocolProxy)
  | empty
deriving DecidableEq

/-- `EnvoyFilter_ApplyTo`. -/
inductive ApplyTo
  | NETWORK_FILTER
  | CLUSTER
deriving DecidableEq

/-- `EnvoyFilter_Patch_Operation`. -/
inductive PatchOperation
  | INSERT_BEFORE
  | REPLACE
  | ADD
  | REMOVE
deriving DecidableEq

/-- `EnvoyConfigObjectMatch`: a listener with the port and filter of its
filter chain, or a cluster. -/
inductive ObjectMatch
  | listener (name : String) (destinationPort : Option Nat) (filter : String)
  | cluster (name : String)
deriving DecidableEq

/-- The value of a patch: a named network filter of a type, or a cluster. -/
inductive PatchValue
  | networkFilter (name typeUrl : String) (proxy : Proxy)
  | cluster (c : Cluster)
deriving DecidableEq

/-- `EnvoyConfigObjectPatch`. -/
structure ConfigPatch where
  applyTo : ApplyTo
  match_ : Option ObjectMatch
  operation : PatchOperation
  value : Option PatchValue
deriving DecidableEq

/-- `networking.EnvoyFilter`. -/
structure EnvoyFilter where
  workloadSelector : Option (GoMap String String) := none
  configPatches : List ConfigPatch
deriving DecidableEq

/-- `EnvoyFilterWrapper`. -/
structure EnvoyFilterWrapper where
  name : String
  namespace_ : String := ""
  envoyfilter : EnvoyFilter
deriving DecidableEq

end Aeraki.Impl
