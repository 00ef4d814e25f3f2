import Aeraki.Framework.Run
import Aeraki.Impl.Networking

/-!
# The ServiceEntry controller

`controller/kube/serviceentry.go`: the controller that gives each ServiceEntry
without an address a VIP of 240.240.0.0/16. It is a program over the cluster
(the stored ServiceEntries), its own two fields, and the answers of the API
server. A `Turn` is one answer: what users do to the store before it, and
whether the call fails. A run that has no turn left stops at the call it waits
for, so that the states between two calls are states of the system too.
-/

namespace Aeraki.Impl.Kube

/-- `ServiceEntry_Resolution`. -/
inductive Resolution
  | NONE
  | STATIC
  | DNS
  | DNS_ROUND_ROBIN
deriving DecidableEq

/-- A ServiceEntry: what the controller reads and writes of it. -/
structure ServiceEntry where
  resolution : Resolution
  addresses : List String
  resourceVersion : Nat := 0
deriving DecidableEq

/-- The fields of `serviceEntryController`. -/
structure ServiceEntryController where
  serviceIPs : GoMap String ObjectKey := ∅
  maxIP : Nat := 0

/-- What a user does to the store. -/
inductive UserOp
  | create (key : ObjectKey) (resolution : Resolution) (addresses : List String)
  | edit (key : ObjectKey) (resolution : Resolution) (addresses : List String)
  | delete (key : ObjectKey)
deriving DecidableEq

def UserOp.key : UserOp → ObjectKey
  | .create key _ _ => key
  | .edit key _ _ => key
  | .delete key => key

/-- One answer of the API server: first these users act, then the call is
answered, or fails. -/
structure Turn where
  users : List UserOp := []
  fails : Bool := false
deriving DecidableEq

/-- What an observer of the API server sees. -/
inductive Event
  /-- A user created, edited or deleted the object. -/
  | user (key : ObjectKey)
  /-- A call of `Reconcile` read its object. -/
  | read (key : ObjectKey)
  /-- A call failed. -/
  | failed
  /-- A call of `Reconcile` returned. -/
  | returned (key : ObjectKey)
deriving DecidableEq

/-- The cluster, the controller, the answers still to come, and what has been
seen so far, newest first. -/
structure World where
  objects : GoMap ObjectKey ServiceEntry
  nextVersion : Nat
  ctrl : ServiceEntryController
  turns : List Turn := []
  trace : List Event := []

namespace World

/-- The object is stored under a new resource version. -/
def put (w : World) (key : ObjectKey) (se : ServiceEntry) : World :=
  { w with
    objects := w.objects.insert key { se with resourceVersion := w.nextVersion }
    nextVersion := w.nextVersion + 1 }

/-- A user's request: creating needs absence, editing and deleting presence. -/
def user (w : World) (op : UserOp) : World :=
  match op with
  | .create key r as =>
    match w.objects.lookup key with
    | none => { w.put key { resolution := r, addresses := as } with trace := .user key :: w.trace }
    | some _ => w
  | .edit key r as =>
    match w.objects.lookup key with
    | none => w
    | some _ => { w.put key { resolution := r, addresses := as } with trace := .user key :: w.trace }
  | .delete key =>
    match w.objects.lookup key with
    | none => w
    | some _ => { w with objects := w.objects.erase key, trace := .user key :: w.trace }

def users (w : World) (ops : List UserOp) : World := ops.foldl user w

end World

/-- The controller's programs. -/
abbrev Ctrl (α : Type) : Type := Prog World α

/-- The next answer of the API server: `true` if the call is answered. -/
def answer : Ctrl Bool := fun w =>
  match w.turns with
  | [] => (none, w)
  | t :: ts =>
    let w := { w.users t.users with turns := ts }
    if t.fails then (some false, { w with trace := .failed :: w.trace }) else (some true, w)

/-- The result of `client.Get`. -/
inductive GetResult
  | found (se : ServiceEntry)
  | notFound
  | failed
deriving DecidableEq

/-- `client.Get`. -/
def get (key : ObjectKey) : Ctrl GetResult := do
  if ← answer then
    match (← Prog.state).objects.lookup key with
    | some se => return .found se
    | none => return .notFound
  else return .failed

/-- `client.Update`: it needs the stored resource version. -/
def update (key : ObjectKey) (se : ServiceEntry) : Ctrl Bool := do
  if ← answer then
    match (← Prog.state).objects.lookup key with
    | some old =>
      if old.resourceVersion = se.resourceVersion then
        Prog.update fun w => w.put key se
        return true
      else
        Prog.update fun w => { w with trace := .failed :: w.trace }
        return false
    | none =>
      Prog.update fun w => { w with trace := .failed :: w.trace }
      return false
  else return false

/-! ## The code -/

/-- `c.serviceIPs[ip] = key`. -/
def setIP (ip : String) (key : ObjectKey) : Ctrl Unit :=
  Prog.update fun w => { w with ctrl := { w.ctrl with serviceIPs := w.ctrl.serviceIPs.insert ip key } }

/-- `delete(c.serviceIPs, ip)`. -/
def deleteIP (ip : String) : Ctrl Unit :=
  Prog.update fun w => { w with ctrl := { w.ctrl with serviceIPs := w.ctrl.serviceIPs.erase ip } }

/-- `c.serviceIPs[ip]`. -/
def lookupIP (ip : String) : Ctrl (Option ObjectKey) := do
  return (← Prog.state).ctrl.serviceIPs.lookup ip

/-- The counter `getNextIP` prints, from `maxIP`. -/
def nextCounter (maxIP : Nat) : Nat :=
  let maxIP := if maxIP % 255 = 0 then maxIP + 1 else maxIP
  if maxIP ≥ 255 * 255 then 0 else maxIP

/-- The address of a counter. -/
def ipOf (n : Nat) : String := "240.240." ++ Go.itoa (n / 255) ++ "." ++ Go.itoa (n % 255)

/-- `getNextIP`. -/
def getNextIP : Ctrl String := do
  let n := nextCounter (← Prog.state).ctrl.maxIP
  Prog.update fun w => { w with ctrl := { w.ctrl with maxIP := n + 1 } }
  return ipOf n

/-- The loop of `nextAvailableIP`, `fuel` times at most. -/
def nextAvailableIPLoop : Nat → Ctrl String
  | 0 => Prog.stop
  | fuel + 1 => do
    let nextIP ← getNextIP
    match ← lookupIP nextIP with
    | some key =>
      match ← get key with
      | .notFound =>
        deleteIP nextIP
        return nextIP
      | _ => nextAvailableIPLoop fuel
    | none => return nextIP

/-- `nextAvailableIP`. Each turn of its loop but the last waits for an answer,
so that there is enough fuel for all the answers to come. -/
def nextAvailableIP : Ctrl String := do
  nextAvailableIPLoop ((← Prog.state).turns.length + 1)

/-- `updateServiceEntry`. -/
def updateServiceEntry (s : ServiceEntry) (key : ObjectKey) : Ctrl Unit := do
  if ← update key s then
    match s.addresses with
    | ip :: _ => setIP ip key
    | [] => return

/-- `autoAllocateIP`. -/
def autoAllocateIP (key : ObjectKey) (s : ServiceEntry) : Ctrl Unit := do
  if s.resolution = .NONE then return
  match s.addresses with
  | ip :: rest =>
    if !Go.hasPrefix ip "240.240" then return
    match ← lookupIP ip with
    | some existingKey =>
      if existingKey ≠ key then
        match ← get existingKey with
        | .found _ =>
          let newIP ← nextAvailableIP
          updateServiceEntry { s with addresses := newIP :: rest } key
        | .notFound => setIP ip key
        | .failed => return
    | none => setIP ip key
  | [] =>
    let newIP ← nextAvailableIP
    updateServiceEntry { s with addresses := [newIP] } key

/-- `Reconcile`: the error it returns, if any. -/
def reconcile (key : ObjectKey) : Ctrl (Option String) := do
  match ← get key with
  | .notFound => return none
  | .failed => return some "could not fetch ServiceEntry"
  | .found se =>
    Prog.update fun w => { w with trace := .read key :: w.trace }
    autoAllocateIP key se
    Prog.update fun w => { w with trace := .returned key :: w.trace }
    return none

/-! ## The system -/

/-- The states of the system: a world, and whether a call of `Reconcile` is
still waiting for an answer. -/
structure State where
  world : World
  busy : Bool

/-- A controller starts: with any ServiceEntries, and empty fields. -/
def Init (s : State) : Prop :=
  s.world.ctrl = {} ∧ s.world.trace = [] ∧ s.busy = false

/-- Users act at any time; calls of `Reconcile` are made one at a time. -/
inductive Step : State → State → Prop
  | user (s : State) (op : UserOp) : Step s { s with world := s.world.user op }
  | reconcile (s : State) (key : ObjectKey) (turns : List Turn) (h : s.busy = false) :
    Step s
      { world := (Kube.reconcile key { s.world with turns := turns }).2
        busy := (Kube.reconcile key { s.world with turns := turns }).1.isNone }

/-- The system of users, the API server and the controller. -/
def system : System State where
  init := Init
  step := Step

end Aeraki.Impl.Kube
