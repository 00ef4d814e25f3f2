import Aeraki.Impl.EnvoyFilter.NetworkFilter

/-!
# The Thrift, Kafka and ZooKeeper generators

`plugin/thrift`, `plugin/kafka` and `plugin/zookeeper`. Thrift routes by the
service's VirtualService; the other two only put a filter before the TCP
proxy.
-/

namespace Aeraki.Impl

open Go (Comp index)

namespace Thrift

/-- `defaultRoute`. -/
def defaultRoute (clusterName : String) : ThriftRoute := { methodName := "", route := .cluster clusterName }

/-- `buildSingleCluster`. -/
def buildSingleCluster (http : HTTPRoute) (service : ServiceEntry) : Comp ClusterSpecifier :=
  singleCluster http service

/-- `buildWeightedCluster`: the total weight it sums is not used. -/
def buildWeightedCluster (http : HTTPRoute) (service : ServiceEntry) : Comp ClusterSpecifier := do
  return .weightedClusters { clusters := ← clusterWeights http service, totalWeight := none }

/-- `buildRoute`. -/
def buildRoute (service : ServiceEntry) (vs : VirtualService) : Comp (List ThriftRoute) :=
  vs.http.mapM fun http => do
    let action ← if http.route.length > 1 then buildWeightedCluster http service
      else buildSingleCluster http service
    return { methodName := "", route := action }

/-- `buildOutboundRouteConfig`. -/
def buildOutboundRouteConfig (context : EnvoyFilterContext) : Comp ThriftRouteConfiguration := do
  let clusterName ← statPrefix .outbound context
  let routes ← match context.virtualService with
    | none => pure [defaultRoute clusterName]
    | some vs => buildRoute context.serviceEntry.spec vs.spec
  return { name := clusterName, routes := routes }

/-- `buildInboundRouteConfig`. -/
def buildInboundRouteConfig (context : EnvoyFilterContext) : Comp ThriftRouteConfiguration := do
  let clusterName ← statPrefix .inbound context
  return { name := clusterName, routes := [defaultRoute clusterName] }

/-- `newThriftProxy`. -/
def newThriftProxy (context : EnvoyFilterContext) (route : ThriftRouteConfiguration)
    (trafficDirection : TrafficDirection) : Comp ThriftProxy := do
  return {
    statPrefix := ← statPrefix trafficDirection context
    routeConfig := route
    thriftFilters := ["envoy.filters.thrift.router"] }

/-- `buildOutboundProxy`. -/
def buildOutboundProxy (context : EnvoyFilterContext) : Comp ThriftProxy := do
  newThriftProxy context (← buildOutboundRouteConfig context) .outbound

/-- `buildInboundProxy`. -/
def buildInboundProxy (context : EnvoyFilterContext) : Comp ThriftProxy := do
  newThriftProxy context (← buildInboundRouteConfig context) .inbound

/-- `Generate`. -/
def generate (context : EnvoyFilterContext) : Comp (Except String (List EnvoyFilterWrapper)) := do
  let port ← index context.serviceEntry.spec.ports 0
  let outboundProxy ← buildOutboundProxy context
  let inboundProxy ← buildInboundProxy context
  return .ok (← generateReplaceNetworkFilter context.serviceEntry port (some (.thrift outboundProxy))
    (some (.thrift inboundProxy)) "envoy.filters.network.thrift_proxy"
    "type.googleapis.com/envoy.extensions.filters.network.thrift_proxy.v3.ThriftProxy")

end Thrift

/-- A generator that puts a filter with a stat name before the TCP proxy. -/
def generateStatFilter (proxy : String → Proxy) (filterName filterType : String)
    (context : EnvoyFilterContext) : Comp (Except String (List EnvoyFilterWrapper)) := do
  let outboundProxy := proxy (← statPrefix .outbound context)
  let inboundProxy := proxy (← statPrefix .inbound context)
  return .ok (← generateInsertBeforeNetworkFilter context.serviceEntry (some outboundProxy) (some inboundProxy)
    filterName filterType)

/-- `Generate` of the Kafka plugin. -/
def Kafka.generate : EnvoyFilterContext → Comp (Except String (List EnvoyFilterWrapper)) :=
  generateStatFilter .kafka "envoy.filters.network.kafka_broker"
    "type.googleapis.com/envoy.extensions.filters.network.kafka_broker.v3.KafkaBroker"

/-- `Generate` of the ZooKeeper plugin. -/
def Zookeeper.generate : EnvoyFilterContext → Comp (Except String (List EnvoyFilterWrapper)) :=
  generateStatFilter .zookeeper "envoy.filters.network.zookeeper_proxy"
    "type.googleapis.com/envoy.extensions.filters.network.zookeeper_proxy.v3.ZooKeeperProxy"

end Aeraki.Impl
