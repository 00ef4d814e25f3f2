import Aeraki.Impl.Protocol

/-!
# Which config changes are handled

`controller/istio/controller.go`: the wrapper that `RegisterEventHandler`
installs calls its handler for a change of a ServiceEntry, VirtualService,
DestinationRule or Gateway only if it is one that Aeraki cares about.
-/

namespace Aeraki.Impl.Istio

/-- `model.Event`. -/
inductive Event
  | EventAdd
  | EventUpdate
  | EventDelete
deriving DecidableEq

/-! ## Changes of the config store -/

/-- A change of one object. -/
inductive Change (σ : Type)
  | add (curr : Config σ)
  | update (prev curr : Config σ)
  | delete (prev : Config σ)

namespace Change

variable {σ : Type}

/-- The object before the change, if there is one. -/
def old : Change σ → Option (Config σ)
  | .add _ => none
  | .update prev _ => some prev
  | .delete prev => some prev

/-- The object after the change, if there is one. -/
def new : Change σ → Option (Config σ)
  | .add curr => some curr
  | .update _ curr => some curr
  | .delete _ => none

/-- The first argument of the handlers: the zero value (`isNilConfig`) but for
an update. -/
def prev : Change σ → Option (Config σ)
  | .update prev _ => some prev
  | .add _ | .delete _ => none

/-- The second argument of the handlers: the deleted object for a delete. -/
def curr : Change σ → Config σ
  | .add curr => curr
  | .update _ curr => curr
  | .delete prev => prev

def event : Change σ → Event
  | .add _ => .EventAdd
  | .update _ _ => .EventUpdate
  | .delete _ => .EventDelete

/-- The object is in the store before or after the change. -/
def Involves (change : Change σ) (x : Config σ) : Prop := change.old = some x ∨ change.new = some x

/-- An update keeps the object's name and namespace. -/
def SameObject : Change σ → Prop
  | .update prev curr => prev.name = curr.name ∧ prev.namespace_ = curr.namespace_
  | .add _ | .delete _ => True

end Change

/-- A change of the config store: the objects listed before and after the one
that changes, and its change. -/
inductive StoreChange
  | serviceEntry (l1 l2 : List (Config ServiceEntry)) (change : Change ServiceEntry)
  | virtualService (l1 l2 : List (Config VirtualService)) (change : Change VirtualService)
  | destinationRule (l1 l2 : List (Config DestinationRule)) (change : Change DestinationRule)
  | gateway (l1 l2 : List (Config Gateway)) (change : Change Gateway)

/-- The store with the object as `sel` says, other kinds as in `store`. -/
def StoreChange.apply (store : ConfigStore) (sel : ∀ {σ : Type}, Change σ → Option (Config σ)) :
    StoreChange → ConfigStore
  | .serviceEntry l1 l2 change => { store with serviceEntries := l1 ++ ((sel change).toList ++ l2) }
  | .virtualService l1 l2 change => { store with virtualServices := l1 ++ ((sel change).toList ++ l2) }
  | .destinationRule l1 l2 change => { store with destinationRules := l1 ++ ((sel change).toList ++ l2) }
  | .gateway l1 l2 change => { store with gateways := l1 ++ ((sel change).toList ++ l2) }

/-- The store before the change. -/
def StoreChange.before (c : StoreChange) (store : ConfigStore) : ConfigStore := c.apply store Change.old

/-- The store after the change. -/
def StoreChange.after (c : StoreChange) (store : ConfigStore) : ConfigStore := c.apply store Change.new

/-- An update keeps the object's name and namespace. -/
def StoreChange.SameObject : StoreChange → Prop
  | .serviceEntry _ _ change => change.SameObject
  | .virtualService _ _ change => change.SameObject
  | .destinationRule _ _ change => change.SameObject
  | .gateway _ _ change => change.SameObject

/-! ## Relevance -/

/-- Whether a service has a port that Aeraki supports. -/
def hasSupportedPort (service : ServiceEntry) : Bool := service.ports.any (isAerakiSupportedProtocols ·.name)

/-- `shouldHandleServiceEntry`. -/
def shouldHandleServiceEntry (se : Config ServiceEntry) : Bool := hasSupportedPort se.spec

/-- Whether a supported service has the host. -/
def namesSupportedService (serviceEntries : List (Config ServiceEntry)) (host ns : String) : Bool :=
  serviceEntries.any fun se =>
    se.spec.hosts.any fun h => isFQDNEquals h se.namespace_ host ns && hasSupportedPort se.spec

/-- `shouldHandleVirtualService`: only the first host counts. -/
def shouldHandleVirtualService (serviceEntries : List (Config ServiceEntry)) (vs : Config VirtualService) : Bool :=
  match vs.spec.hosts with
  | [] => false
  | host :: _ => namesSupportedService serviceEntries host vs.namespace_

/-- `shouldHandleDestinationRule`. -/
def shouldHandleDestinationRule (serviceEntries : List (Config ServiceEntry)) (dr : Config DestinationRule) : Bool :=
  namesSupportedService serviceEntries dr.spec.host dr.namespace_

/-- `shouldHandleGateway`. -/
def shouldHandleGateway (gw : Config Gateway) : Bool :=
  gw.spec.servers.any fun s =>
    match s.port with
    | some port => (getLayer7ProtocolFromPortName port.name).isMetaProtocol
    | none => false

variable {σ : Type}

/-- The `shouldHandle*Change` functions. -/
def shouldHandleChange (shouldHandle : Config σ → Bool) (prev : Option (Config σ)) (curr : Config σ) : Bool :=
  shouldHandle curr || prev.any shouldHandle

/-- `shouldHandleServiceEntryChange`. -/
def shouldHandleServiceEntryChange : Option (Config ServiceEntry) → Config ServiceEntry → Bool :=
  shouldHandleChange shouldHandleServiceEntry

/-- `shouldHandleVirtualServiceChange`. -/
def shouldHandleVirtualServiceChange (serviceEntries : List (Config ServiceEntry)) :
    Option (Config VirtualService) → Config VirtualService → Bool :=
  shouldHandleChange (shouldHandleVirtualService serviceEntries)

/-- `shouldHandleDestinationRuleChange`. -/
def shouldHandleDestinationRuleChange (serviceEntries : List (Config ServiceEntry)) :
    Option (Config DestinationRule) → Config DestinationRule → Bool :=
  shouldHandleChange (shouldHandleDestinationRule serviceEntries)

/-- `shouldHandleGatewayChange`. -/
def shouldHandleGatewayChange : Option (Config Gateway) → Config Gateway → Bool :=
  shouldHandleChange shouldHandleGateway

/-! ## The wrapper -/

/-- An update that leaves the specification as it is. -/
def sameSpec [DecidableEq σ] (prev : Option (Config σ)) (curr : Config σ) (event : Event) : Bool :=
  event = .EventUpdate ∧ prev.map (·.spec) = some curr.spec

/-- Whether the wrapper calls its handler, by what is relevant for the kind. -/
def callsHandler [DecidableEq σ] (shouldHandle : Option (Config σ) → Config σ → Bool) (change : Change σ) : Bool :=
  if sameSpec change.prev change.curr change.event then false else shouldHandle change.prev change.curr

/-- Whether the wrapper of `RegisterEventHandler` calls its handler. It reads
the ServiceEntries of the store after the change. -/
def handlerWrapper (store : ConfigStore) (c : StoreChange) : Bool :=
  let serviceEntries := (c.after store).serviceEntries
  match c with
  | .serviceEntry _ _ change => callsHandler shouldHandleServiceEntryChange change
  | .virtualService _ _ change => callsHandler (shouldHandleVirtualServiceChange serviceEntries) change
  | .destinationRule _ _ change => callsHandler (shouldHandleDestinationRuleChange serviceEntries) change
  | .gateway _ _ change => callsHandler shouldHandleGatewayChange change

end Aeraki.Impl.Istio
