import Aeraki.Framework.Run
import Aeraki.Impl.EnvoyFilter.Push

/-!
# Pushes of several replicas

`pushObjects` call by call, for several replicas that push to one API server.
A replica that is no longer the leader goes on pushing, so pushes overlap:
between two calls of one replica there may be calls of others.
-/

namespace Aeraki.Impl

open ApiServer (Object Request)

variable {ι ω σ : Type} [DecidableEq ι] [DecidableEq σ]

/-- Where a push is: in one of the loops, with what is left of the list that it
ranges over. The first loop's list is ranged over again by the second. -/
inductive PushPhase (ω σ : Type)
  | idle
  | deleting (existing rest : List (ObjectKey × Object σ))
  | updating (rest : List (ObjectKey × Object σ))
  | creating (rest : List ω)
deriving DecidableEq

/-- The push of one replica: its phase, the order of its map and its list, and
its variables. -/
structure Pusher (ω σ : Type) where
  phase : PushPhase ω σ := .idle
  oracle : Oracle := {}
  err : Option String := none
  generated : GoMap String ω := ∅

namespace Pusher

/-- The beginning of a push, to the end of its `List` call. -/
def start (o : Oracle) (generated : GoMap String ω) (server : ApiServer.Server ObjectKey σ) :
    Pusher ω σ × ApiServer.Server ObjectKey σ :=
  let (listed, server) := server.list (o.listOrder ["existing"]) isManaged
  let existing := listed.getD []
  ({ phase := .deleting existing existing, oracle := o, generated := generated }, server)

/-- The variables after a turn of a loop, and the server. -/
def after (p : Pusher ω σ) (phase : PushPhase ω σ) (st : PushState ω σ) : Pusher ω σ × ApiServer.Server ObjectKey σ :=
  ({ p with phase := phase, err := st.err, generated := st.generated }, st.server)

/-- The next turn of a loop, with at most one call, or the end of the loop. -/
def turn (c : PushConfig ω σ) (p : Pusher ω σ) (server : ApiServer.Server ObjectKey σ) :
    Pusher ω σ × ApiServer.Server ObjectKey σ :=
  let st : PushState ω σ := { err := p.err, generated := p.generated, server := server }
  match p.phase with
  | .idle => p.after .idle st
  | .deleting existing (old :: rest) => p.after (.deleting existing rest) (deleteStep c st old)
  | .deleting existing [] => p.after (.updating existing) st
  | .updating (old :: rest) => p.after (.updating rest) (updateStep c st old)
  | .updating [] => p.after (.creating (((p.oracle.at "new").range p.generated).map Prod.snd)) st
  | .creating (value :: rest) => p.after (.creating rest) (createStep c st value)
  | .creating [] => p.after .idle st

end Pusher

/-- The API server, and what each replica is doing. -/
structure Replicas (ι ω σ : Type) where
  server : ApiServer.Server ObjectKey σ
  pushers : ι → Pusher ω σ := fun _ => {}

namespace Replicas

/-- A replica begins a push. -/
def start (s : Replicas ι ω σ) (i : ι) (o : Oracle) (generated : GoMap String ω) : Replicas ι ω σ :=
  ⟨(Pusher.start o generated s.server).2, Function.update s.pushers i (Pusher.start o generated s.server).1⟩

/-- A replica goes on with its push. -/
def turn (c : PushConfig ω σ) (s : Replicas ι ω σ) (i : ι) : Replicas ι ω σ :=
  ⟨((s.pushers i).turn c s.server).2, Function.update s.pushers i ((s.pushers i).turn c s.server).1⟩

/-- What can happen next, if the replicas push maps that satisfy `generates`. -/
inductive Step (c : PushConfig ω σ) (generates : GoMap String ω → Prop) (s : Replicas ι ω σ) : Replicas ι ω σ → Prop
  | start (i : ι) (o : Oracle) {generated : GoMap String ω} : (s.pushers i).phase = .idle → generates generated →
    Step c generates s (s.start i o generated)
  | turn (i : ι) : (s.pushers i).phase ≠ .idle → Step c generates s (s.turn c i)

def system (ι : Type) [DecidableEq ι] (c : PushConfig ω σ) (generates : GoMap String ω → Prop)
    (server : ApiServer.Server ObjectKey σ) : System (Replicas ι ω σ) where
  init s := s = { server := server }
  step := Step c generates

end Replicas

end Aeraki.Impl
