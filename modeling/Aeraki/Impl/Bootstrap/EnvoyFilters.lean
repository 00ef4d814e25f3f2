import Aeraki.Impl.Bootstrap.Inputs

/-!
# The control plane of EnvoyFilters

All of Aeraki that has to do with EnvoyFilters, as one transition system. Users
change the inputs; the handlers that `NewServer` registers look at the events of the
changes, later and by the inputs there are then, and send events to the EnvoyFilter
controller; its main loop debounces them and runs the callback, which reads the
inputs, writes the VirtualServices and then the EnvoyFilters; and a failed callback
is retried. All of these interleave.
-/

namespace Aeraki.Impl.Bootstrap

open Controller (envoyFilterPush maxRetries)

/-- Where the callback of `mainLoop` is: it is not running; it has not read the
inputs yet; it has generated the EnvoyFilters; `pushEnvoyFilters2APIServer` has
returned; or it panicked, which ends the process. -/
inductive Phase
  | idle
  | started
  | generated (o : Oracle) (envoyFilters : GoMap String EnvoyFilterWrapper)
  | pushed (err : Option String)
  | crashed

/-- The last call of `pushEnvoyFilters2APIServer`: what it met, the cluster before
it, and the error it returned. -/
structure LastPush where
  oracle : Oracle
  before : ClusterState
  err : Option String := none

/-- The state of the control plane. `read` and `lastPush` are only written: the
inputs that the last callback read, and its push. -/
structure ControlPlane where
  inputs : Inputs
  events : List InputEvent := []
  loop : EventLoop := {}
  phase : Phase := .idle
  cluster : ClusterState
  read : Inputs
  lastPush : Option LastPush := none

/-- Whether the handlers of an event call `ConfigUpdated` of the EnvoyFilter
controller. -/
def updatesEnvoyFilters (i : Inputs) : InputEvent → Bool
  | .config change => Istio.wrapperCalls i.store.serviceEntries change
  | .request _ passed => passed

namespace ControlPlane

/-- What can happen next, if the changes that users make are as `users` says. -/
inductive Step (d : Deployment) (users : Inputs → InputChange → Prop) (s : ControlPlane) : ControlPlane → Prop
  | change (c : InputChange) : c.Applies s.inputs → users s.inputs c →
    Step d users s { s with inputs := c.after s.inputs, events := s.events ++ [c.event] }
  | handle {e : InputEvent} {l1 l2 : List InputEvent} : s.events = l1 ++ e :: l2 →
    Step d users s { s with
      events := l1 ++ l2
      loop := if updatesEnvoyFilters s.inputs e then s.loop.send else s.loop }
  -- the work queues of the controllers merge requests
  | merge {kind : Kind} {passed : Bool} {l1 l2 : List InputEvent} : s.events = l1 ++ .request kind passed :: l2 →
    .request kind passed ∈ l1 ++ l2 → Step d users s { s with events := l1 ++ l2 }
  | start (k : Nat) : s.phase = .idle → 0 < k → k ≤ s.loop.queued →
    Step d users s { s with loop := s.loop.start k, phase := .started }
  | generate (o : Oracle) {envoyFilters : GoMap String EnvoyFilterWrapper}
      {virtualServices : ApiServer.Server ObjectKey VirtualService} : s.phase = .started →
    (s.inputs.controller d).generateEnvoyFilters o s.cluster.virtualServices =
      .ok ((envoyFilters, none), virtualServices) →
    Step d users s { s with
      phase := .generated o envoyFilters
      cluster := { s.cluster with virtualServices := virtualServices }
      read := s.inputs
      lastPush := some { oracle := o, before := s.cluster } }
  | generateFailed (o : Oracle) {envoyFilters : GoMap String EnvoyFilterWrapper} {err : String}
      {virtualServices : ApiServer.Server ObjectKey VirtualService} : s.phase = .started →
    (s.inputs.controller d).generateEnvoyFilters o s.cluster.virtualServices =
      .ok ((envoyFilters, some err), virtualServices) →
    Step d users s { s with
      phase := .pushed (some ("failed to generate EnvoyFilter: " ++ err))
      cluster := { s.cluster with virtualServices := virtualServices }
      read := s.inputs
      lastPush := some { oracle := o, before := s.cluster, err := some ("failed to generate EnvoyFilter: " ++ err) } }
  | panic (o : Oracle) {p : Go.Panic} : s.phase = .started →
    (s.inputs.controller d).generateEnvoyFilters o s.cluster.virtualServices = .error p →
    Step d users s { s with phase := .crashed }
  | push {o : Oracle} {envoyFilters : GoMap String EnvoyFilterWrapper} {p : LastPush} :
    s.phase = .generated o envoyFilters → s.lastPush = some p →
    Step d users s { s with
      phase := .pushed (pushObjects envoyFilterPush (o.at "EnvoyFilters") envoyFilters s.cluster.envoyFilters).1
      cluster := { s.cluster with
        envoyFilters := (pushObjects envoyFilterPush (o.at "EnvoyFilters") envoyFilters s.cluster.envoyFilters).2 }
      lastPush := some { p with
        err := (pushObjects envoyFilterPush (o.at "EnvoyFilters") envoyFilters s.cluster.envoyFilters).1 } }
  | finish {err : Option String} : s.phase = .pushed err →
    Step d users s { s with loop := s.loop.finish maxRetries err, phase := .idle }

/-- The control plane, from its start with any inputs and any cluster. -/
def system (d : Deployment) (users : Inputs → InputChange → Prop) : System ControlPlane where
  init s := s = { inputs := s.inputs, cluster := s.cluster, read := s.inputs }
  step := Step d users

/-- Nothing is left to do until the inputs change. -/
structure Quiet (s : ControlPlane) : Prop where
  events : s.events = []
  queued : s.loop.queued = 0
  idle : s.phase = .idle

end ControlPlane

end Aeraki.Impl.Bootstrap
