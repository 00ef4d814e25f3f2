import Aeraki.Impl.EnvoyFilter.NetworkFilter
import Aeraki.Impl.EnvoyFilter.Push
import Aeraki.Impl.Plugin.Dubbo
import Aeraki.Impl.Plugin.MetaProtocol
import Aeraki.Impl.Plugin.Redis
import Aeraki.Impl.Plugin.Thrift

/-!
# The EnvoyFilter controller

`envoyfilter/controller.go`: the EnvoyFilters generated from the config store
and the MetaRouters, for the services and for the gateways, and the push that
makes those in the cluster equal to them.
-/

namespace Aeraki.Impl

open Go (Comp index deref)

/-- `Generator.Generate`. -/
abbrev Generator : Type := Oracle → EnvoyFilterContext → Comp (Except String (List EnvoyFilterWrapper))

/-- `Controller`, with the resources it reads. -/
structure Controller where
  store : ConfigStore
  metaRouters : List MetaRouter := []
  generators : Instance → Option Generator
  namespaceScoped : Bool := false
  namespace_ : String := "istio-system"
  meshConfig : MeshConfig := {}

/-- The objects that the controller writes. -/
structure ClusterState where
  envoyFilters : ApiServer.Server ObjectKey EnvoyFilter
  virtualServices : ApiServer.Server ObjectKey VirtualService

namespace Controller

/-- `envoyFilterMapKey`. -/
def envoyFilterMapKey (name ns : String) : String := ns ++ "-" ++ name

/-- `virtualServiceMapKey`. -/
def virtualServiceMapKey (name ns : String) : String := ns ++ "/" ++ name

/-! ## Contexts -/

/-- `MetaRouterControllerClient.List`. -/
def listMetaRouters (c : Controller) (o : Oracle) : Except String (List MetaRouter) :=
  match o.callError ["MetaRouters"] with
  | some err => .error err
  | none => .ok c.metaRouters

/-- `findRelatedVirtualService`: `host` is the service's first host. -/
def findRelatedVirtualService (c : Controller) (o : Oracle) (host : String) : Option (Config VirtualService) :=
  ((o.at "VirtualServices").list c.store.virtualServices).find? (·.spec.hosts.contains host)

/-- `findRelatedMetaRouter`: `host` is the service's first host. -/
def findRelatedMetaRouter (c : Controller) (o : Oracle) (host : String) : Except String (Option MetaRouter) :=
  (c.listMetaRouters o).map (List.find? (·.hosts.contains host))

/-- `envoyFilterContext`. -/
def envoyFilterContext (c : Controller) (o : Oracle) (se : Config ServiceEntry) (host : String) :
    Except String EnvoyFilterContext :=
  match c.findRelatedMetaRouter o host with
  | .error err => .error ("failed in finding the related meta router : " ++ host ++ ": " ++ err)
  | .ok metaRouter => .ok {
      meshConfig := c.meshConfig
      serviceEntry := se
      virtualService := c.findRelatedVirtualService o host
      metaRouter := metaRouter }

/-! ## The EnvoyFilters of services -/

/-- `defaultEnvoyFilterNS`. -/
def defaultEnvoyFilterNS (c : Controller) (serviceNS : String) : String :=
  if c.namespaceScoped then serviceNS else c.namespace_

/-- The namespaces that an EnvoyFilter of the context is created in. -/
def exportNSs (c : Controller) (ctx : EnvoyFilterContext) : List String :=
  match ctx.metaRouter with
  | none => [c.defaultEnvoyFilterNS ctx.serviceEntry.namespace_]
  | some metaRouter =>
    if metaRouter.exportTo.isEmpty then [c.defaultEnvoyFilterNS ctx.serviceEntry.namespace_]
    else metaRouter.exportTo.map fun ns =>
      if ns = "." then metaRouter.namespace_ else if ns = "*" then c.namespace_ else ns

/-- The key and value of an EnvoyFilter in the map. -/
def entry (wrapper : EnvoyFilterWrapper) : String × EnvoyFilterWrapper :=
  (envoyFilterMapKey wrapper.name wrapper.namespace_, wrapper)

/-- `createEnvoyFiltersOnExportNSs`. -/
def createEnvoyFiltersOnExportNSs (c : Controller) (ctx : EnvoyFilterContext)
    (envoyFilters : GoMap String EnvoyFilterWrapper) (wrapper : EnvoyFilterWrapper) :
    GoMap String EnvoyFilterWrapper :=
  GoMap.writeAll envoyFilters ((c.exportNSs ctx).map fun ns => entry { wrapper with namespace_ := ns })

/-- The generator of the first port that has one. -/
def generatorOf (c : Controller) (ports : List ServicePort) : Option Generator :=
  ports.findSome? fun port => c.generators (getLayer7ProtocolFromPortName port.name)

/-- The first loop of `generateEnvoyFilters`: the map, and the error with which
the function has returned, if it has. -/
def generateServices (c : Controller) (o : Oracle) (envoyFilters : GoMap String EnvoyFilterWrapper) :
    List (Config ServiceEntry) → Comp (GoMap String EnvoyFilterWrapper × Option (Option String))
  | [] => return (envoyFilters, none)
  | se :: ses => do
    match se.spec.hosts with
    | [] => return (envoyFilters, some none)
    | host :: _ =>
      match c.generatorOf se.spec.ports with
      | none => c.generateServices o envoyFilters ses
      | some generator =>
        match c.envoyFilterContext (o.at se.key) se host with
        | .error err => return (envoyFilters, some (some err))
        | .ok ctx =>
          match ← generator ((o.at se.key).at "Generate") ctx with
          | .ok wrappers =>
            c.generateServices o (wrappers.foldl (c.createEnvoyFiltersOnExportNSs ctx) envoyFilters) ses
          | .error _ => c.generateServices o envoyFilters ses

/-! ## The EnvoyFilters of gateways -/

/-- Whether a route has a destination with the port. -/
def hasDestinationPort (portNumber : Nat) : List (Option MetaRouteDestination) → Comp Bool
  | [] => return false
  | d :: ds => do
    let d ← deref d
    if d.destination.bind (·.port) = some portNumber then return true
    hasDestinationPort portNumber ds

/-- `isMatchPort`. -/
def isMatchPort (portNumber : Nat) : List (Option MetaRoute) → Comp Bool
  | [] => return false
  | route :: routes => do
    let route ← deref route
    if ← hasDestinationPort portNumber route.route then return true
    isMatchPort portNumber routes

/-- `buildVirtualServiceWrapper`. -/
def buildVirtualServiceWrapper (portNumber : Nat) (gatewayName gatewayNs host : String) :
    Config VirtualService where
  name := "aeraki-vs-" ++ gatewayNs ++ "." ++ gatewayName ++ "-" ++ Go.itoa portNumber
  namespace_ := gatewayNs
  spec := {
    hosts := [host]
    gateways := [gatewayNs ++ "/" ++ gatewayName]
    tcp := [{ matchPorts := [portNumber], route := [{ host := host, port := some portNumber }] }] }

/-- Whether the MetaRouter names the gateway, with or without a namespace. -/
def namesGateway (metaRouter : MetaRouter) (gateway : Config Gateway) : Bool :=
  metaRouter.gateways.any fun gw =>
    (if Go.containsChar gw '/' then gw else metaRouter.namespace_ ++ "/" ++ gw) =
      gateway.namespace_ ++ "/" ++ gateway.name

/-- The context of a gateway's port for one MetaRouter, if it has one. -/
def gatewayContext (c : Controller) (gateway : Config Gateway) (portNumber : Nat) (metaRouter : MetaRouter) :
    Comp (Option EnvoyFilterContext) := do
  if !namesGateway metaRouter gateway then return none
  if !(← isMatchPort portNumber metaRouter.routes) then return none
  let host ← index metaRouter.hosts 0
  return some {
    meshConfig := c.meshConfig
    gateway := some gateway
    serviceEntry := { name := "", namespace_ := "", spec := { hosts := metaRouter.hosts, addresses := ["0.0.0.0"] } }
    metaRouter := some metaRouter
    virtualService := some (buildVirtualServiceWrapper portNumber gateway.name gateway.namespace_ host) }

/-- `gatewayEnvoyFilterContexts`. -/
def gatewayEnvoyFilterContexts (c : Controller) (o : Oracle) (gateway : Config Gateway) (portNumber : Nat) :
    Comp (Except String (List EnvoyFilterContext)) := do
  match c.listMetaRouters o with
  | .error err => return .error err
  | .ok metaRouters => return .ok (← metaRouters.mapM (c.gatewayContext gateway portNumber)).reduceOption

/-- The EnvoyFilters of one context of a gateway. -/
def generateGatewayContext (generator : Generator) (o : Oracle) (envoyFilters : GoMap String EnvoyFilterWrapper)
    (ctx : EnvoyFilterContext) : Comp (GoMap String EnvoyFilterWrapper) := do
  match ← generator o ctx with
  | .ok wrappers => return GoMap.writeAll envoyFilters (wrappers.map entry)
  | .error _ => return envoyFilters

/-- The servers of all gateways, with their positions. -/
def gatewayServers (gateways : List (Config Gateway)) : List (Config Gateway × Server × Nat) :=
  gateways.flatMap fun gateway => gateway.spec.servers.zipIdx.map fun s => (gateway, s.1, s.2)

/-- The loops of `generateGatewayEnvoyFilters`: the map and the contexts, or no
contexts if the function has returned, without an error, because listing the
MetaRouters failed. -/
def generateGateways (c : Controller) (o : Oracle) (envoyFilters : GoMap String EnvoyFilterWrapper)
    (ctxs : List EnvoyFilterContext) : List (Config Gateway × Server × Nat) →
    Comp (GoMap String EnvoyFilterWrapper × Option (List EnvoyFilterContext))
  | [] => return (envoyFilters, some ctxs)
  | (gateway, server, i) :: rest => do
    match server.port with
    | none => c.generateGateways o envoyFilters ctxs rest
    | some port =>
      let protocol := getLayer7ProtocolFromPortName port.name
      if !protocol.isMetaProtocol then c.generateGateways o envoyFilters ctxs rest
      else
        match c.generators protocol with
        | none => c.generateGateways o envoyFilters ctxs rest
        | some generator =>
          let o' := ((o.at "Gateways").at gateway.key).at (Go.itoa i)
          match ← c.gatewayEnvoyFilterContexts o' gateway port.number with
          | .error _ => return (envoyFilters, none)
          | .ok new =>
            let envoyFilters ← new.zipIdx.foldlM
              (fun m ctx => generateGatewayContext generator (o'.at (Go.itoa ctx.2)) m ctx.1) envoyFilters
            c.generateGateways o envoyFilters (ctxs ++ new) rest

/-- The VirtualService written for a context. -/
def listenerVirtualService (vs : Config VirtualService) : Desired VirtualService where
  namespace_ := vs.namespace_
  name := vs.name
  spec := { hosts := vs.spec.hosts, gateways := vs.spec.gateways, tcp := vs.spec.tcp }

/-- The push of `generateListenerForGateway`: its updates carry no resource
version. -/
def virtualServicePush : PushConfig (Config VirtualService) VirtualService where
  mapKey := virtualServiceMapKey
  object := listenerVirtualService
  carriesVersion := false

/-- The VirtualServices of the contexts. -/
def generatedVirtualServices (ctxs : List EnvoyFilterContext) : GoMap String (Config VirtualService) :=
  GoMap.writeAll ∅ (ctxs.filterMap fun ctx => ctx.virtualService.map fun vs =>
    (virtualServiceMapKey vs.name vs.namespace_, vs))

/-- `generateListenerForGateway`. -/
def generateListenerForGateway (o : Oracle) (ctxs : List EnvoyFilterContext)
    (server : ApiServer.Server ObjectKey VirtualService) :
    Option String × ApiServer.Server ObjectKey VirtualService :=
  pushObjects virtualServicePush o (generatedVirtualServices ctxs) server

/-- `generateGatewayEnvoyFilters`. -/
def generateGatewayEnvoyFilters (c : Controller) (o : Oracle) (envoyFilters : GoMap String EnvoyFilterWrapper)
    (server : ApiServer.Server ObjectKey VirtualService) :
    Comp ((GoMap String EnvoyFilterWrapper × Option String) × ApiServer.Server ObjectKey VirtualService) := do
  let gateways := (o.at "Gateways").list c.store.gateways
  match ← c.generateGateways o envoyFilters [] (gatewayServers gateways) with
  | (envoyFilters, none) => return ((envoyFilters, none), server)
  | (envoyFilters, some ctxs) =>
    let (err, server) := generateListenerForGateway (o.at "VirtualServices") ctxs server
    return ((envoyFilters, err), server)

/-! ## Generation and push -/

/-- `generateEnvoyFilters`: the map and the error it returns, and the
VirtualServices it leaves. -/
def generateEnvoyFilters (c : Controller) (o : Oracle) (server : ApiServer.Server ObjectKey VirtualService) :
    Comp ((GoMap String EnvoyFilterWrapper × Option String) × ApiServer.Server ObjectKey VirtualService) := do
  let serviceEntries := (o.at "ServiceEntries").list c.store.serviceEntries
  match ← c.generateServices (o.at "ServiceEntries") ∅ serviceEntries with
  | (envoyFilters, some err) => return ((envoyFilters, err), server)
  | (envoyFilters, none) => c.generateGatewayEnvoyFilters o envoyFilters server

/-- `toEnvoyFilterCRD`, without the resource version. -/
def toEnvoyFilterCRD (newEf : EnvoyFilterWrapper) : Desired EnvoyFilter where
  namespace_ := newEf.namespace_
  name := newEf.name
  spec := newEf.envoyfilter

/-- The push of `pushEnvoyFilters2APIServer`. -/
def envoyFilterPush : PushConfig EnvoyFilterWrapper EnvoyFilter where
  mapKey := envoyFilterMapKey
  object := toEnvoyFilterCRD
  carriesVersion := true

/-- `pushEnvoyFilters2APIServer`: its error, and the cluster it leaves. -/
def pushEnvoyFilters2APIServer (c : Controller) (o : Oracle) (cluster : ClusterState) :
    Comp (Option String × ClusterState) := do
  let ((generated, err), virtualServices) ← c.generateEnvoyFilters o cluster.virtualServices
  match err with
  | some err =>
    return (some ("failed to generate EnvoyFilter: " ++ err), { cluster with virtualServices := virtualServices })
  | none =>
    let (err, envoyFilters) := pushObjects envoyFilterPush (o.at "EnvoyFilters") generated cluster.envoyFilters
    return (err, { envoyFilters := envoyFilters, virtualServices := virtualServices })

end Controller

/-! ## The generators -/

/-- What the generators read besides their contexts. -/
structure Resources where
  codecs : Codecs := builtinCodecs
  policies : List Dubbo.DubboAuthorizationPolicy := []
  trustDomain : Dubbo.TrustDomainBundle := ⟨id⟩
  secrets : List Redis.Secret := []
  redisServices : List Redis.RedisService := []
  redisDestinations : List Redis.RedisDestination := []

/-- The generators of `initGenerators` and `NewServer`. -/
def generators (r : Resources) (store : ConfigStore) : Instance → Option Generator
  | .Dubbo => some (Dubbo.generate r.trustDomain r.policies)
  | .Thrift => some fun _ => Thrift.generate
  | .Redis => some (Redis.Generator.generate
    { secrets := r.secrets, redisServices := r.redisServices, redisDestinations := r.redisDestinations
      store := store })
  | .Kafka => some fun _ => Kafka.generate
  | .Zookeeper => some fun _ => Zookeeper.generate
  | .MetaProtocol => some (MetaProtocol.generate r.codecs)
  | .Mongo | .MySQL | .Unsupported => none

/-- What the controller is started with, and reads besides the config store. -/
structure Deployment where
  resources : Resources := {}
  metaRouters : List MetaRouter := []
  namespaceScoped : Bool := false
  namespace_ : String := "istio-system"
  meshConfig : MeshConfig := {}

/-- The controller of `NewServer`: the Redis generator reads the same config
store as the controller. -/
def Deployment.controller (d : Deployment) (store : ConfigStore) : Controller where
  store := store
  metaRouters := d.metaRouters
  generators := generators d.resources store
  namespaceScoped := d.namespaceScoped
  namespace_ := d.namespace_
  meshConfig := d.meshConfig

end Aeraki.Impl
