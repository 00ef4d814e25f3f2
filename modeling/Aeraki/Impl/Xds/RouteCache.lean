import Aeraki.Framework.SnapshotCache
import Aeraki.Impl.Xds.CacheMgr

/-!
# Updating the route cache

`updateRouteCache` and `generateSnapshot` of `xds/cache_mgr.go` and
`xds/utils.go`, as one call: the routes of all services make a snapshot, which is
set for each node that has a status entry. `now` is the Unix time.
-/

namespace Aeraki.Impl.Xds

open Go (Comp)

/-- `cache.Snapshot`: its version and its route configurations, by name. -/
structure Snapshot where
  version : String
  resources : GoMap String HttpRouteConfiguration
deriving DecidableEq

/-- `generateSnapshot`. -/
def generateSnapshot (o : Oracle) (now : Nat) (metaRoutes : List MetaProtocolRouteConfiguration) :
    Comp (Except String Snapshot) := do
  let httpRoutes ← metaRoutes.mapM metaProtocolRoute2HttpRoute
  match o.callError ["NewSnapshot"] with
  | some err => return .error err
  | none =>
    return .ok {
      version := Go.itoa now
      resources := GoMap.writeAll ∅ (httpRoutes.map fun route => (route.name, route)) }

namespace CacheMgr

variable {C : SnapshotCache Snapshot}

/-- The loop of `updateRouteCache`. -/
def setSnapshots (o : Oracle) (snapshot : Snapshot) : List String → C.State → Option String × C.State
  | [], routeCache => (none, routeCache)
  | node :: nodes, routeCache =>
    match o.callError ["SetSnapshot", node] with
    | some err => (some err, routeCache)
    | none => setSnapshots o snapshot nodes (C.setSnapshot routeCache node snapshot)

/-- `updateRouteCache`: its error, and the cache then. -/
def updateRouteCache (c : CacheMgr) (o : Oracle) (now : Nat) (routeCache : C.State) :
    Comp (Option String × C.State) := do
  if (C.getStatusKeys routeCache).isEmpty then return (none, routeCache)
  let routes ← c.routes o
  match ← generateSnapshot o now routes with
  | .error err => return (some err, routeCache)
  | .ok snapshot => return setSnapshots o snapshot (C.getStatusKeys routeCache) routeCache

end CacheMgr

end Aeraki.Impl.Xds
