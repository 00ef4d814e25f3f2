import Aeraki.Framework.Run

/-!
# Leader election of the EnvoyFilter controller

`leaderelection.go`, the run function that `Server.Start` registers, and
`Controller.Run` with its `mainLoop`, for any number of replicas that contend
for one lock. A replica is its election loop (`LeaderElection.Run`) and the
goroutines that its elections have started. Of Kubernetes' elector it is
assumed that at most one replica holds the lock, and that the context given to
`OnStartedLeading` is cancelled when the lock is lost.
-/

namespace Aeraki.Impl.LeaderElection

/-- The channels a function is told to stop by: the `stop` of the server, and
the `Done` of the context of an election cycle. -/
inductive Channel
  | server
  | done (cycle : Nat)
deriving DecidableEq

/-- The functions registered with `AddRunFunction`. -/
inductive RunFunction
  | envoyFilterCreation
deriving DecidableEq

/-- What goroutines run. -/
inductive Goroutine
  /-- `OnStartedLeading`, started by the elector. -/
  | onStartedLeading (ctx : Channel)
  /-- A registered function, called with the `Done` of the context. -/
  | runFunction (f : RunFunction) (stop : Channel)
  /-- `Controller.mainLoop`. -/
  | mainLoop (stop : Channel)
deriving DecidableEq

def Goroutine.isMainLoop : Goroutine → Bool
  | .mainLoop _ => true
  | _ => false

/-! ## The code -/

/-- `Controller.Run`: the goroutine it starts. -/
def run (stop : Channel) : List Goroutine := [.mainLoop stop]

/-- `runFns`, as `Server.Start` registers them. -/
def runFns : List RunFunction := [.envoyFilterCreation]

/-- A run function: the one of `Server.Start` ignores the channel it is given
and passes on the server's own. -/
def RunFunction.call : RunFunction → Channel → List Goroutine
  | .envoyFilterCreation, _ => run .server

/-- `OnStartedLeading`. -/
def onStartedLeading (ctx : Channel) : List Goroutine := runFns.map fun f => .runFunction f ctx

/-- The case of `mainLoop`'s `select` that is taken. -/
inductive Selected
  | event
  | stopped
deriving DecidableEq

/-- A turn of `mainLoop`: how the goroutine goes on. -/
def mainLoopTurn (stop : Channel) : Selected → List Goroutine
  | .event => [.mainLoop stop]
  -- `break` leaves the `select`; the `for` around it goes on
  | .stopped => [.mainLoop stop]

/-- Where the loop of `LeaderElection.Run` is. -/
inductive Phase
  /-- The replica is not a master: no election is run. -/
  | off
  /-- `le.Run` waits for the lock. -/
  | electing
  /-- `le.Run` holds the lock. -/
  | leading
  /-- `le.Run` has returned. -/
  | returned
  /-- The loop has been left. -/
  | exited
deriving DecidableEq

/-- One replica: its election loop, the channels that are closed, and the
goroutines its elections have started. -/
structure Replica where
  phase : Phase
  cycle : Nat
  stopped : Bool := false
  cancelled : List Nat := []
  goroutines : List Goroutine := []

namespace Replica

def closed (r : Replica) : Channel → Bool
  | .server => r.stopped
  | .done cycle => cycle ∈ r.cancelled

/-- The replica when `Server.Start` has been called. -/
def start (master : Bool) : Replica :=
  if master then { phase := .electing, cycle := 1 } else { phase := .off, cycle := 0 }

/-- The elector gets the lock, and starts `OnStartedLeading`. -/
def acquired (r : Replica) : Replica :=
  { r with phase := .leading, goroutines := r.goroutines ++ [.onStartedLeading (.done r.cycle)] }

/-- `le.Run` returns: its context is cancelled. -/
def returns (r : Replica) : Replica :=
  { r with phase := .returned, cancelled := r.cycle :: r.cancelled }

/-- The rest of a cycle: the loop is left if the server stops, else there is
another election. -/
def again (r : Replica) : Replica :=
  if r.stopped then { r with phase := .exited }
  else { r with phase := .electing, cycle := r.cycle + 1 }

/-- The `mainLoop`s that are running. -/
def mainLoops (r : Replica) : Nat := r.goroutines.countP Goroutine.isMainLoop

end Replica

/-- How a goroutine of the replica goes on. -/
inductive Goes (r : Replica) : Goroutine → List Goroutine → Prop
  | onStartedLeading (ctx : Channel) : Goes r (.onStartedLeading ctx) (onStartedLeading ctx)
  | runFunction (f : RunFunction) (stop : Channel) : Goes r (.runFunction f stop) (f.call stop)
  | event (stop : Channel) : Goes r (.mainLoop stop) (mainLoopTurn stop .event)
  | stopped (stop : Channel) (h : r.closed stop = true) : Goes r (.mainLoop stop) (mainLoopTurn stop .stopped)

/-! ## The system -/

/-- What happens to the lock. -/
inductive LockEvent (ι : Type)
  | acquired (i : ι)
  | lost (i : ι)
deriving DecidableEq

/-- The replicas, who holds the lock, and what has happened to it. -/
structure State (ι : Type) where
  replicas : ι → Replica
  holder : Option ι := none
  trace : List (LockEvent ι) := []

section

variable {ι : Type} [DecidableEq ι]

def State.set (s : State ι) (i : ι) (r : Replica) : State ι :=
  { s with replicas := Function.update s.replicas i r }

@[simp] theorem State.set_self (s : State ι) (i : ι) (r : Replica) : (s.set i r).replicas i = r :=
  Function.update_self ..

@[simp] theorem State.set_of_ne (s : State ι) {i j : ι} (r : Replica) (h : j ≠ i) :
    (s.set i r).replicas j = s.replicas j := Function.update_of_ne h ..

@[simp] theorem State.set_holder (s : State ι) (i : ι) (r : Replica) : (s.set i r).holder = s.holder := rfl
@[simp] theorem State.set_trace (s : State ι) (i : ι) (r : Replica) : (s.set i r).trace = s.trace := rfl

/-- A goroutine of a replica goes on. -/
inductive Scheduled : State ι → State ι → Prop
  | mk (s : State ι) (i : ι) {before after gs : List Goroutine} {g : Goroutine}
    (hg : (s.replicas i).goroutines = before ++ g :: after) (hgs : Goes (s.replicas i) g gs) :
    Scheduled s (s.set i { s.replicas i with goroutines := before ++ gs ++ after })

/-- The steps of the replicas: the lock is acquired when it is free, and lost;
the elector gives up when the server stops. -/
inductive Step : State ι → State ι → Prop
  | acquire (s : State ι) (i : ι) (hp : (s.replicas i).phase = .electing) (hfree : s.holder = none) :
    Step s { s.set i (s.replicas i).acquired with holder := some i, trace := .acquired i :: s.trace }
  | lose (s : State ι) (i : ι) (hp : (s.replicas i).phase = .leading) (hh : s.holder = some i) :
    Step s { s.set i (s.replicas i).returns with holder := none, trace := .lost i :: s.trace }
  | giveUp (s : State ι) (i : ι) (hp : (s.replicas i).phase = .electing) (hs : (s.replicas i).stopped = true) :
    Step s (s.set i (s.replicas i).returns)
  | again (s : State ι) (i : ι) (hp : (s.replicas i).phase = .returned) : Step s (s.set i (s.replicas i).again)
  | stop (s : State ι) (i : ι) : Step s (s.set i { s.replicas i with stopped := true })
  | schedule {s t : State ι} (h : Scheduled s t) : Step s t

/-- The replicas, those that are masters contending for the lock. -/
def system (master : ι → Bool) : System (State ι) where
  init s := s = { replicas := fun i => .start (master i) }
  step := Step

end

end Aeraki.Impl.LeaderElection
