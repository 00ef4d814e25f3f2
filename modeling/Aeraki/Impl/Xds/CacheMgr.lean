import Aeraki.Impl.Istio.Controller
import Aeraki.Impl.Xds.Route

/-!
# The routes of RDS

`xds/cache_mgr.go`: the route configurations that are generated from the
ServiceEntries, DestinationRules and MetaRouters (`generateMetaRoutes`), and
which config changes make the cache manager generate them anew
(`ConfigUpdated`).
-/

namespace Aeraki.Impl.Xds

open Go (Comp index deref)
open Istio (Change StoreChange)

/-- `CacheMgr`: what it reads. -/
structure CacheMgr where
  store : ConfigStore
  metaRouters : List MetaRouter := []

namespace CacheMgr

/-! ## Generation -/

/-- `isMetaProtocolService`. -/
def isMetaProtocolService (service : ServiceEntry) : Bool :=
  service.ports.any fun port => (getLayer7ProtocolFromPortName port.name).isMetaProtocol

/-- `findRelatedMetaRouter`: `host` is the service's first host. The first
MetaRouter of the host decides; nil if it has no routes, or if they cannot be
listed. -/
def findRelatedMetaRouter (c : CacheMgr) (o : Oracle) (host : String) : Option MetaRouter :=
  match o.callError ["MetaRouters"] with
  | some _ => none
  | none =>
    match c.metaRouters.find? (·.hosts.contains host) with
    | some metaRouter => if metaRouter.routes.isEmpty then none else some metaRouter
    | none => none

/-- `findRelatedDestinationRule`: `host` is the service's first host. -/
def findRelatedDestinationRule (c : CacheMgr) (o : Oracle) (host ns : String) : Option (Config DestinationRule) :=
  ((o.at "DestinationRules").list c.store.destinationRules).find? fun dr =>
    isFQDNEquals dr.spec.host dr.namespace_ host ns

/-- The route configuration of a port. -/
def portRoute (o : Oracle) (service : ServiceEntry) (metaRouter : Option MetaRouter)
    (destinationRule : Option (Config DestinationRule)) (port : ServicePort) : Comp MetaProtocolRouteConfiguration :=
  match metaRouter with
  | some metaRouter => constructRoute o service port metaRouter destinationRule
  | none => defaultRoute service port destinationRule

/-- The MetaProtocol ports of a service, with their positions. -/
def metaPorts (service : ServiceEntry) : List (ServicePort × Nat) :=
  service.ports.zipIdx.filter fun p => (getLayer7ProtocolFromPortName p.1.name).isMetaProtocol

/-- The body of the loop of `generateMetaRoutes`. -/
def serviceRoutes (c : CacheMgr) (o : Oracle) (config : Config ServiceEntry) :
    Comp (List MetaProtocolRouteConfiguration) :=
  let service := config.spec
  if service.ports.isEmpty then return []
  else if !isMetaProtocolService service then return []
  else
    match service.hosts with
    | [] => return []
    | host :: _ =>
      let o := o.at config.key
      let metaRouter := c.findRelatedMetaRouter o host
      let destinationRule := c.findRelatedDestinationRule o host config.namespace_
      (metaPorts service).mapM fun p => portRoute (o.at (Go.itoa p.2)) service metaRouter destinationRule p.1

/-- `generateMetaRoutes`. -/
def generateMetaRoutes (c : CacheMgr) (o : Oracle) (serviceEntries : List (Config ServiceEntry)) :
    Comp (List MetaProtocolRouteConfiguration) := do
  return (← serviceEntries.mapM (c.serviceRoutes o)).flatten

/-- The routes of the config store's ServiceEntries, as `updateRouteCache`
generates them. -/
def routes (c : CacheMgr) (o : Oracle) : Comp (List MetaProtocolRouteConfiguration) :=
  c.generateMetaRoutes o ((o.at "ServiceEntries").list c.store.serviceEntries)

/-! ## Changes -/

/-- `findRelatedServiceEntry`: it reads the first host of every ServiceEntry up
to the one it finds. -/
def findRelatedServiceEntry (dr : Config DestinationRule) : List (Config ServiceEntry) →
    Comp (Option (Config ServiceEntry))
  | [] => return none
  | se :: ses => do
    let host ← index se.spec.hosts 0
    if isFQDNEquals dr.spec.host dr.namespace_ host se.namespace_ then return some se
    findRelatedServiceEntry dr ses

/-- Whether a port's name begins with the MetaProtocol's. -/
def hasMetaProtocolPort (service : ServiceEntry) : Bool :=
  service.ports.any fun port => Go.hasPrefix port.name "tcp-metaprotocol"

/-- `shouldUpdateCache` of a ServiceEntry. -/
def shouldUpdateServiceEntry (se : Config ServiceEntry) : Comp Bool := return hasMetaProtocolPort se.spec

/-- `shouldUpdateCache` of a DestinationRule. -/
def shouldUpdateDestinationRule (c : CacheMgr) (o : Oracle) (dr : Config DestinationRule) : Comp Bool := do
  match ← findRelatedServiceEntry dr ((o.at "ServiceEntries").list c.store.serviceEntries) with
  | some se => return hasMetaProtocolPort se.spec
  | none => return false

/-- `ConfigUpdated`, by what `shouldUpdateCache` says of the kind: whether an
event is sent on `pushChannel`. The zero value of `prev` is of no kind. -/
def updated {σ : Type} (shouldUpdateCache : Config σ → Comp Bool) (change : Change σ) : Comp Bool := do
  if ← shouldUpdateCache change.curr then return true
  match change.prev with
  | some prev => shouldUpdateCache prev
  | none => return false

/-- `ConfigUpdated`, with the store after the change: whether an event is sent. -/
def configUpdated (c : CacheMgr) (o : Oracle) : StoreChange → Comp Bool
  | .serviceEntry _ _ change => updated shouldUpdateServiceEntry change
  | .destinationRule _ _ change => updated (c.shouldUpdateDestinationRule o) change
  | .virtualService _ _ change => updated (fun _ => return false) change
  | .gateway _ _ change => updated (fun _ => return false) change

end CacheMgr

end Aeraki.Impl.Xds
