import Aeraki.Impl.EnvoyFilter.Controller
import Aeraki.Impl.EventLoop

/-!
# The loop of the EnvoyFilter controller

`mainLoop` of `envoyfilter/controller.go`: events on the push channel lead to a
push, and a push that returns an error sends an event itself, up to three times
in a row. In `mainLoop` the debouncer is left out: the events that it merges are
one pending event. `eventLoop` is the loop with the debouncer and with the events
of others, whatever its pushes return.
-/

namespace Aeraki.Impl

open Go (Comp)

/-- The state of `mainLoop`: how often it has retried, whether an event is on the
push channel, and the cluster. -/
structure LoopState where
  retries : Nat := 0
  pending : Bool
  cluster : ClusterState

namespace Controller

def maxRetries : Nat := 3

/-- The callback of `mainLoop`, for the events on the channel. -/
def callback (c : Controller) (o : Oracle) (s : LoopState) : Comp LoopState := do
  let (err, cluster) ← c.pushEnvoyFilters2APIServer o s.cluster
  match err with
  | some _ =>
    if s.retries ≥ maxRetries then return { retries := 0, pending := false, cluster := cluster }
    -- ConfigUpdated sends the event that the next callback is for
    return { retries := s.retries + 1, pending := true, cluster := cluster }
  | none => return { retries := 0, pending := false, cluster := cluster }

/-- Turns of `mainLoop` in which no other event arrives: a pending event is
handled. -/
def mainLoop (c : Controller) : List Oracle → LoopState → Comp LoopState
  | [], s => return s
  | o :: os, s => do
    if s.pending then c.mainLoop os (← c.callback o s) else c.mainLoop os s

/-- `mainLoop`, with any results of its pushes. -/
def eventLoop : System EventLoop := EventLoop.system maxRetries

end Controller

end Aeraki.Impl
