import Aeraki.Framework.SnapshotCache
import Aeraki.Impl.EventLoop

/-!
# RDS streams and the route cache

`xds/callbacks.go`, the part of `xds/cache_mgr.go` that keeps the nodes'
snapshots, and the server around them: a request calls `OnStreamRequest` and
creates a watch, and a stream that ends cancels its watch and calls
`OnStreamClosed`. An `updateRouteCache` takes several steps, between which
streams go on: it looks whether there are nodes, generates the snapshot, and
sets it for one node after the other.
-/

namespace Aeraki.Impl.Xds

/-- An open stream: the node of its last request, whether it has sent one, and
the watch of that request. -/
structure Stream where
  node : String := ""
  requested : Bool := false
  watch : Option Nat := none

/-- How far `updateRouteCache` is. -/
inductive Update (ρ : Type)
  | idle
  | generating
  | setting (snapshot : ρ) (nodes : List String)

/-- The open streams and the route cache; the watches that have been answered,
the number of the next one, the events sent on `pushChannel`, and the retries
of the main loop. -/
structure RdsState {ρ : Type} (C : SnapshotCache ρ) where
  routeCache : C.State := C.empty
  streams : GoMap Nat Stream := ∅
  answered : Finset Nat := ∅
  nextWatch : Nat := 0
  pushChannel : Nat := 0
  retries : Nat := 0
  update : Update ρ := .idle

namespace RdsState

variable {ρ : Type} {C : SnapshotCache ρ}

/-! ## The cache manager -/

/-- `hasNode`. -/
def hasNode (s : RdsState C) (node : String) : Bool := (C.getSnapshot s.routeCache node).isSome

/-- `initNode`. -/
def initNode (s : RdsState C) : RdsState C := { s with pushChannel := s.pushChannel + 1 }

/-- `clearNode`. -/
def clearNode (s : RdsState C) (node : String) : RdsState C :=
  { s with routeCache := C.clearSnapshot s.routeCache node }

/-- `updateRouteCache` has failed: the main loop retries it, three times. -/
def updateFailed (s : RdsState C) : RdsState C :=
  if s.retries ≥ 3 then { s with update := .idle, retries := 0 }
  else { s with update := .idle, retries := s.retries + 1, pushChannel := s.pushChannel + 1 }

/-- `updateRouteCache` has succeeded. -/
def updateDone (s : RdsState C) : RdsState C := { s with update := .idle, retries := 0 }

/-- `updateRouteCache`, at its start: without nodes it is done. -/
def startUpdate (s : RdsState C) : RdsState C :=
  match s.update with
  | .idle => if (C.getStatusKeys s.routeCache).isEmpty then s.updateDone else { s with update := .generating }
  | _ => s

/-- The snapshot has been generated, or `generateSnapshot` has failed. -/
def generated (s : RdsState C) (snapshot : Option ρ) : RdsState C :=
  match s.update, snapshot with
  | .generating, some x => { s with update := .setting x (C.getStatusKeys s.routeCache) }
  | .generating, none => s.updateFailed
  | _, _ => s

/-- The loop's next turn: `SetSnapshot` answers the node's watches, or fails. -/
def setNext (s : RdsState C) (failed : Bool) : RdsState C :=
  match s.update with
  | .setting _ [] => s.updateDone
  | .setting x (node :: nodes) =>
    if failed then s.updateFailed
    else { s with
      routeCache := C.setSnapshot s.routeCache node x
      answered := s.answered ∪ (C.getStatusInfo s.routeCache node).getD ∅
      update := .setting x nodes }
  | _ => s

/-! ## The callbacks -/

/-- `OnStreamRequest`. -/
def onStreamRequest (s : RdsState C) (node : String) : RdsState C :=
  if s.hasNode node then s else s.initNode

/-- `OnStreamClosed`. -/
def onStreamClosed (s : RdsState C) (node : String) : RdsState C := s.clearNode node

/-! ## The server -/

/-- `OnStreamOpen`: a stream starts with an empty node. -/
def openStream (s : RdsState C) (id : Nat) : RdsState C :=
  match s.streams.lookup id with
  | none => { s with streams := s.streams.insert id {} }
  | some _ => s

/-- Cancels the watch of a stream. -/
def cancelWatch (s : RdsState C) (stream : Stream) : RdsState C :=
  match stream.watch with
  | some w => { s with routeCache := C.cancelWatch s.routeCache stream.node w }
  | none => s

/-- Creates a watch for a stream. -/
def createWatch (s : RdsState C) (id : Nat) (node : String) : RdsState C :=
  let created := C.createWatch s.routeCache node s.nextWatch
  { s with
    routeCache := created.2
    answered := if created.1 then insert s.nextWatch s.answered else s.answered
    streams := s.streams.insert id { node := node, requested := true, watch := some s.nextWatch }
    nextWatch := s.nextWatch + 1 }

/-- A request on a stream. One without a node is of the stream's node. -/
def request (s : RdsState C) (id : Nat) (node : Option String) : RdsState C :=
  match s.streams.lookup id with
  | some stream =>
    let node := node.getD stream.node
    ((s.onStreamRequest node).cancelWatch stream).createWatch id node
  | none => s

/-- The end of a stream. -/
def closeStream (s : RdsState C) (id : Nat) : RdsState C :=
  match s.streams.lookup id with
  | some stream =>
    ({ s with streams := s.streams.erase id }.cancelWatch stream).onStreamClosed stream.node
  | none => s

end RdsState

/-- What can happen next. -/
inductive Action (ρ : Type)
  | openStream (id : Nat)
  | request (id : Nat) (node : Option String)
  | closeStream (id : Nat)
  | startUpdate
  | generated (snapshot : Option ρ)
  | setNext (failed : Bool)

namespace RdsState

variable {ρ : Type} {C : SnapshotCache ρ}

/-- One step: an action that is not possible changes nothing. -/
def step (s : RdsState C) : Action ρ → RdsState C
  | .openStream id => s.openStream id
  | .request id node => s.request id node
  | .closeStream id => s.closeStream id
  | .startUpdate => s.startUpdate
  | .generated snapshot => s.generated snapshot
  | .setNext failed => s.setNext failed

/-- A run from the state. -/
def run (s : RdsState C) (actions : List (Action ρ)) : RdsState C := actions.foldl step s

end RdsState

/-! ## The main loop -/

/-- `maxRetries` of `mainLoop`. -/
def CacheMgr.maxRetries : Nat := 3

/-- `mainLoop`, with any results of its updates. -/
def CacheMgr.eventLoop : System EventLoop := EventLoop.system CacheMgr.maxRetries

end Aeraki.Impl.Xds
