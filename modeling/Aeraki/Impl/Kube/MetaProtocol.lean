import Aeraki.Impl.Networking
import Aeraki.Impl.Protocol

/-!
# The ApplicationProtocol controller

`controller/kube/metaprotocol.go`, and the registry of codecs that it writes: an
event of the API server that passes `metaProtocolPredicates` leads to a Reconcile
of its object, which stores the object's codec. The registry is one of the
process; nothing removes an entry of it.
-/

namespace Aeraki.Impl

/-- `SetApplicationProtocolCodec`. -/
def setApplicationProtocolCodec (codecs : Codecs) (protocol codec : String) : Codecs := codecs.insert protocol codec

namespace Kube

/-- `ApplicationProtocol`: its spec, and the metadata that the predicates compare. -/
structure ApplicationProtocol where
  protocol : String
  codec : String
  generation : Nat := 1
  deletionTimestamp : Option Nat := none
deriving DecidableEq

/-- The ApplicationProtocols of the cluster. -/
abbrev ApplicationProtocols : Type := GoMap ObjectKey ApplicationProtocol

/-! ## The controller -/

/-- `MetaProtocolController`: whether it has a `triggerPush`. -/
structure MetaProtocolController where
  triggerPush : Bool := true

/-- What `Reconcile` returns: `Requeue` of its result, and its error. -/
structure ReconcileResult where
  requeue : Bool := false
  err : Option String := none
deriving DecidableEq

/-- `UpdateFunc` of `metaProtocolPredicates`. The timestamps are compared as
pointers: those of two objects are equal only if both are nil. -/
def updateFunc (old new : ApplicationProtocol) : Bool :=
  (old.deletionTimestamp.isSome || new.deletionTimestamp.isSome) || old.generation ≠ new.generation

/-- `Get` of the client. -/
def getApplicationProtocol (o : Oracle) (server : ApplicationProtocols) (key : ObjectKey) :
    Except String ApplicationProtocol :=
  match o.callError ["Get"] with
  | some err => .error err
  | none =>
    match server.lookup key with
    | some protocol => .ok protocol
    | none => .error ("applicationprotocols.metaprotocol.aeraki.io \"" ++ key.name ++ "\" not found")

/-- `Reconcile`: its result, and the registry it leaves. -/
def MetaProtocolController.reconcile (r : MetaProtocolController) (o : Oracle) (server : ApplicationProtocols)
    (codecs : Codecs) (key : ObjectKey) : ReconcileResult × Codecs :=
  match getApplicationProtocol o server key with
  | .error err => ({ requeue := true, err := some err }, codecs)
  | .ok protocol =>
    let codecs := setApplicationProtocolCodec codecs protocol.protocol protocol.codec
    if r.triggerPush then
      match o.callError ["triggerPush"] with
      | some err => ({ requeue := true, err := some err }, codecs)
      | none => ({}, codecs)
    else ({}, codecs)

/-! ## Changes of the ApplicationProtocols -/

/-- What a user does to an ApplicationProtocol. -/
inductive ProtocolOp
  | create (key : ObjectKey) (protocol codec : String)
  | update (key : ObjectKey) (protocol codec : String) (deletionTimestamp : Option Nat)
  | delete (key : ObjectKey)
deriving DecidableEq

namespace ProtocolOp

def key : ProtocolOp → ObjectKey
  | .create key _ _ => key
  | .update key _ _ _ => key
  | .delete key => key

/-- The object after an update: the API server counts the changes of its spec in
the generation. -/
def updated (old : ApplicationProtocol) (protocol codec : String) (deletionTimestamp : Option Nat) :
    ApplicationProtocol where
  protocol := protocol
  codec := codec
  generation :=
    if old.protocol = protocol ∧ old.codec = codec then old.generation else old.generation + 1
  deletionTimestamp := deletionTimestamp

/-- The cluster after the change, and whether its event passes the predicates; none
if the API server rejects it. -/
def apply (server : ApplicationProtocols) : ProtocolOp → Option (ApplicationProtocols × Bool)
  | .create key protocol codec =>
    match server.lookup key with
    | some _ => none
    | none => some (server.insert key { protocol := protocol, codec := codec }, true)
  | .update key protocol codec deletionTimestamp =>
    match server.lookup key with
    | some old =>
      let new := updated old protocol codec deletionTimestamp
      some (server.insert key new, updateFunc old new)
    | none => none
  | .delete key =>
    match server.lookup key with
    | some _ => some (server.erase key, true)
    | none => none

end ProtocolOp

/-- The cluster's ApplicationProtocols, and the registry. -/
structure ProtocolWorld where
  server : ApplicationProtocols := ∅
  codecs : Codecs := builtinCodecs

namespace MetaProtocolController

/-- A change, followed by its Reconcile. -/
def step (r : MetaProtocolController) (w : ProtocolWorld) (op : ProtocolOp × Oracle) : ProtocolWorld :=
  match op.1.apply w.server with
  | some (server, passes) =>
    { server := server
      codecs := if passes then (r.reconcile op.2 server w.codecs op.1.key).2 else w.codecs }
  | none => w

/-- The world after a history of changes. -/
def run (r : MetaProtocolController) (history : List (ProtocolOp × Oracle)) : ProtocolWorld :=
  history.foldl r.step {}

end MetaProtocolController

end Kube

end Aeraki.Impl
