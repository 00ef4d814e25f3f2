import Aeraki.Framework.Run

/-!
# Event loops

`mainLoop` of the EnvoyFilter controller and of the cache manager: events on the
push channel go to a debouncer, which merges one or more of them into a run of
the callback, one run at a time. A callback whose work returns an error sends an
event itself, up to `maxRetries` times in a row. Events of others can arrive at
any time, also while a callback runs.
-/

namespace Aeraki.Impl

/-- The state of a `mainLoop`: how often it has retried, the events on the push
channel and in the debouncer, and the events of the callback that is running, none
if there is none. `runs` counts the callback's runs, and `sent` the events that
others have sent. -/
structure EventLoop where
  retries : Nat := 0
  queued : Nat := 0
  handling : Nat := 0
  runs : Nat := 0
  sent : Nat := 0
deriving DecidableEq

namespace EventLoop

/-- The events that have been sent and not been handled. -/
def pending (s : EventLoop) : Nat := s.queued + s.handling

/-- Another party sends an event. -/
def send (s : EventLoop) : EventLoop := { s with queued := s.queued + 1, sent := s.sent + 1 }

/-- The debouncer merges `k` events into a run of the callback. -/
def start (s : EventLoop) (k : Nat) : EventLoop :=
  { s with queued := s.queued - k, handling := k, runs := s.runs + 1 }

/-- The rest of the callback, after its work has returned an error or none. -/
def finish (maxRetries : Nat) (s : EventLoop) (err : Option String) : EventLoop :=
  match err with
  | some _ =>
    if s.retries ≥ maxRetries then { s with retries := 0, handling := 0 }
    else { s with retries := s.retries + 1, queued := s.queued + 1, handling := 0 }
  | none => { s with retries := 0, handling := 0 }

/-- What can happen next. -/
inductive Step (maxRetries : Nat) : EventLoop → EventLoop → Prop
  | send (s : EventLoop) : Step maxRetries s s.send
  | start (s : EventLoop) (k : Nat) : s.handling = 0 → 0 < k → k ≤ s.queued → Step maxRetries s (s.start k)
  | finish (s : EventLoop) (err : Option String) : 0 < s.handling → Step maxRetries s (s.finish maxRetries err)

/-- The loop, from its start on. -/
def system (maxRetries : Nat) : System EventLoop where
  init s := s = {}
  step := Step maxRetries

end EventLoop

end Aeraki.Impl
