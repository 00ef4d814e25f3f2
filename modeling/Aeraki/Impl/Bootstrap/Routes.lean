import Aeraki.Impl.Bootstrap.Inputs
import Aeraki.Impl.Xds.Callbacks
import Aeraki.Impl.Xds.RouteCache

/-!
# The control plane of routes

All of Aeraki that has to do with RDS, as one transition system: users change the
inputs, the handlers that `NewServer` registers look at the events of the changes and
send events to the cache manager, its main loop debounces them and updates the route
cache, and proxies open, use and end streams. All of these interleave, also with the
steps of an update.
-/

namespace Aeraki.Impl.Bootstrap

open Go (Comp)
open Xds (RdsState Snapshot generateSnapshot)

/-- The cache manager that reads the inputs. -/
def Inputs.cacheMgr (i : Inputs) : Xds.CacheMgr := ⟨i.store, i.metaRouters.map (·.object)⟩

/-- The snapshot that `updateRouteCache` generates, or its error. -/
def Inputs.snapshot (i : Inputs) (o : Oracle) (now : Nat) : Comp (Except String Snapshot) := do
  generateSnapshot o now (← i.cacheMgr.routes o)

/-- Whether the handlers of an event send one on `pushChannel` of the cache manager:
`ConfigUpdated` inside the wrapper, or `UpdateRoute` for a MetaRouter. -/
def updatesRoutes (i : Inputs) (o : Oracle) : InputEvent → Comp Bool
  | .config change =>
    if Istio.wrapperCalls i.store.serviceEntries change then i.cacheMgr.configUpdated o change else return false
  | .request kind passed => return kind = .MetaRouter && passed

/-- The state of the control plane of routes: `taken` counts the events on the push
channel that updates have been started for. `read` and `updated` are only written:
the inputs when the last update read them, or had no node to read them for, and
whether it succeeded. -/
structure RoutePlane (C : SnapshotCache Snapshot) where
  inputs : Inputs
  events : List InputEvent := []
  rds : RdsState C := {}
  taken : Nat := 0
  crashed : Bool := false
  read : Inputs
  updated : Bool := true

namespace RoutePlane

variable {C : SnapshotCache Snapshot}

/-- What proxies do. -/
inductive StreamAction
  | openStream (id : Nat)
  | request (id : Nat) (node : Option String)
  | closeStream (id : Nat)

def StreamAction.action : StreamAction → Xds.Action Snapshot
  | .openStream id => .openStream id
  | .request id node => .request id node
  | .closeStream id => .closeStream id

/-- What users and proxies do, and how the config store lists its objects and calls
of the API server end. -/
structure Environment (C : SnapshotCache Snapshot) where
  users : Inputs → InputChange → Prop
  proxies : RdsState C → StreamAction → Prop
  calls : Oracle → Prop

/-- What can happen next. -/
inductive Step (env : Environment C) (s : RoutePlane C) : RoutePlane C → Prop
  | change (c : InputChange) : c.Applies s.inputs → env.users s.inputs c →
    Step env s { s with inputs := c.after s.inputs, events := s.events ++ [c.event] }
  | handle (o : Oracle) {e : InputEvent} {l1 l2 : List InputEvent} {b : Bool} : env.calls o →
    s.events = l1 ++ e :: l2 → updatesRoutes s.inputs o e = .ok b →
    Step env s { s with events := l1 ++ l2, rds := { s.rds with pushChannel := s.rds.pushChannel + b.toNat } }
  | handlePanic (o : Oracle) {e : InputEvent} {p : Go.Panic} : env.calls o → e ∈ s.events →
    updatesRoutes s.inputs o e = .error p → Step env s { s with crashed := true }
  | merge {kind : Kind} {passed : Bool} {l1 l2 : List InputEvent} : s.events = l1 ++ .request kind passed :: l2 →
    .request kind passed ∈ l1 ++ l2 → Step env s { s with events := l1 ++ l2 }
  | stream (a : StreamAction) : env.proxies s.rds a → Step env s { s with rds := s.rds.step a.action }
  -- without nodes the update is done
  | startIdle (k : Nat) : s.rds.update = .idle → 0 < k → s.taken + k ≤ s.rds.pushChannel →
    (C.getStatusKeys s.rds.routeCache).isEmpty = true →
    Step env s { s with
      rds := s.rds.step .startUpdate, taken := s.taken + k, read := s.inputs, updated := true }
  | start (k : Nat) : s.rds.update = .idle → 0 < k → s.taken + k ≤ s.rds.pushChannel →
    (C.getStatusKeys s.rds.routeCache).isEmpty = false →
    Step env s { s with rds := s.rds.step .startUpdate, taken := s.taken + k }
  | generate (o : Oracle) (now : Nat) {x : Snapshot} : env.calls o → s.rds.update = .generating →
    s.inputs.snapshot o now = .ok (.ok x) →
    Step env s { s with rds := s.rds.step (.generated (some x)), read := s.inputs }
  | generateFailed (o : Oracle) (now : Nat) {err : String} : env.calls o → s.rds.update = .generating →
    s.inputs.snapshot o now = .ok (.error err) →
    Step env s { s with rds := s.rds.step (.generated none), read := s.inputs, updated := false }
  | generatePanic (o : Oracle) (now : Nat) {p : Go.Panic} : env.calls o → s.rds.update = .generating →
    s.inputs.snapshot o now = .error p → Step env s { s with crashed := true }
  | set {x : Snapshot} {node : String} {nodes : List String} : s.rds.update = .setting x (node :: nodes) →
    Step env s { s with rds := s.rds.step (.setNext false) }
  | setFailed {x : Snapshot} {node : String} {nodes : List String} : s.rds.update = .setting x (node :: nodes) →
    Step env s { s with rds := s.rds.step (.setNext true), updated := false }
  | done {x : Snapshot} : s.rds.update = .setting x [] →
    Step env s { s with rds := s.rds.step (.setNext false), updated := true }

/-- The control plane, from its start with any inputs. A panic ends the process. -/
def system (env : Environment C) : System (RoutePlane C) where
  init s := s = { inputs := s.inputs, read := s.inputs }
  step s t := s.crashed = false ∧ Step env s t

/-- Nothing is left to do, and the last update succeeded. -/
structure Quiet (s : RoutePlane C) : Prop where
  events : s.events = []
  taken : s.taken = s.rds.pushChannel
  idle : s.rds.update = .idle
  updated : s.updated = true

end RoutePlane

end Aeraki.Impl.Bootstrap
