import Aeraki.Impl.EnvoyFilter.MainLoop
import Aeraki.Impl.Istio.Controller
import Aeraki.Impl.Kube.MetaProtocol

/-!
# What Aeraki watches

The inputs of the EnvoyFilters and of the routes that can change while Aeraki
runs: the config store, the custom resources, the registry of codecs and the mesh
config; the changes of them, as the users of the API server make them; and the
event that a change leaves. `NewServer` and `createScalableControllers` of
`bootstrap/server.go` register the handlers of these events. The Secrets of Redis
are not among the inputs: nothing watches them.
-/

namespace Aeraki.Impl

/-! ## Custom resources -/

namespace Kube

variable {σ : Type}

/-- A custom resource: what is read of it, and the metadata that the predicates
compare. -/
structure Crd (σ : Type) where
  object : σ
  generation : Nat := 1
  deletionTimestamp : Option Nat := none
deriving DecidableEq

/-- What a user does to a custom resource. -/
inductive CrdChange (σ : Type)
  | create (object : σ)
  | update (prev : Crd σ) (object : σ) (deletionTimestamp : Option Nat)
  | delete (prev : Crd σ)

namespace CrdChange

/-- The resource before the change, if there is one. -/
def old : CrdChange σ → Option (Crd σ)
  | .create _ => none
  | .update prev _ _ => some prev
  | .delete prev => some prev

variable [DecidableEq σ]

/-- The resource after an update: the API server counts the changes of its
specification in the generation. -/
def updated (prev : Crd σ) (object : σ) (deletionTimestamp : Option Nat) : Crd σ where
  object := object
  generation := if prev.object = object then prev.generation else prev.generation + 1
  deletionTimestamp := deletionTimestamp

/-- The resource after the change, if there is one. -/
def new : CrdChange σ → Option (Crd σ)
  | .create object => some { object := object }
  | .update prev object deletionTimestamp => some (updated prev object deletionTimestamp)
  | .delete _ => none

/-- What the predicates of the controllers let through: creates and deletes, and
updates of the generation or the deletion timestamp. The timestamps are compared as
pointers: those of two objects are equal only if both are nil. -/
def passes : CrdChange σ → Bool
  | .create _ => true
  | .delete _ => true
  | .update prev object deletionTimestamp =>
    (prev.deletionTimestamp.isSome || (updated prev object deletionTimestamp).deletionTimestamp.isSome) ||
      prev.generation ≠ (updated prev object deletionTimestamp).generation

end CrdChange

/-- `redisPredicates`, for RedisServices and RedisDestinations. -/
def redisPredicates [DecidableEq σ] : CrdChange σ → Bool := CrdChange.passes

/-- `dubboPredicates`. -/
def dubboPredicates : CrdChange Dubbo.DubboAuthorizationPolicy → Bool := CrdChange.passes

/-- `metaRouterlPredicates`. -/
def metaRouterlPredicates : CrdChange MetaRouter → Bool := CrdChange.passes

end Kube

namespace Bootstrap

open Kube (Crd CrdChange)

/-! ## The inputs -/

/-- The inputs that change while Aeraki runs. -/
structure Inputs where
  store : ConfigStore := {}
  metaRouters : List (Crd MetaRouter) := []
  redisServices : List (Crd Redis.RedisService) := []
  redisDestinations : List (Crd Redis.RedisDestination) := []
  policies : List (Crd Dubbo.DubboAuthorizationPolicy) := []
  codecs : Codecs := builtinCodecs
  meshConfig : MeshConfig := {}

/-- What Aeraki was started with, with the inputs. -/
def Inputs.deployment (i : Inputs) (d : Deployment) : Deployment :=
  { d with
    resources := { d.resources with
      codecs := i.codecs
      policies := i.policies.map (·.object)
      redisServices := i.redisServices.map (·.object)
      redisDestinations := i.redisDestinations.map (·.object) }
    metaRouters := i.metaRouters.map (·.object)
    meshConfig := i.meshConfig }

/-- The EnvoyFilter controller that reads the inputs. -/
def Inputs.controller (i : Inputs) (d : Deployment) : Controller := (i.deployment d).controller i.store

/-! ## Events -/

/-- What a handler is registered for besides the config store. -/
inductive Kind
  | MetaRouter
  | RedisService
  | RedisDestination
  | DubboAuthorizationPolicy
  | ApplicationProtocol
  | MeshConfig
deriving DecidableEq

/-- An event that waits for its handlers: a change of the config store, or one of
another kind, with whether it passed its predicates. -/
inductive InputEvent
  | config (change : Istio.StoreChange)
  | request (kind : Kind) (passed : Bool)

/-- A change of the inputs. The registry of codecs is changed by `Reconcile` of an
ApplicationProtocol, whatever the API server has. -/
inductive InputChange
  | config (change : Istio.StoreChange)
  | metaRouter (l1 l2 : List (Crd MetaRouter)) (change : CrdChange MetaRouter)
  | redisService (l1 l2 : List (Crd Redis.RedisService)) (change : CrdChange Redis.RedisService)
  | redisDestination (l1 l2 : List (Crd Redis.RedisDestination)) (change : CrdChange Redis.RedisDestination)
  | policy (l1 l2 : List (Crd Dubbo.DubboAuthorizationPolicy)) (change : CrdChange Dubbo.DubboAuthorizationPolicy)
  | applicationProtocol (o : Oracle) (server : Kube.ApplicationProtocols) (key : ObjectKey)
  | meshConfig (mesh : MeshConfig)

namespace InputChange

/-- The change is one of these inputs. -/
def Applies (i : Inputs) : InputChange → Prop
  | .config change => i.store = change.before i.store
  | .metaRouter l1 l2 change => i.metaRouters = l1 ++ (change.old.toList ++ l2)
  | .redisService l1 l2 change => i.redisServices = l1 ++ (change.old.toList ++ l2)
  | .redisDestination l1 l2 change => i.redisDestinations = l1 ++ (change.old.toList ++ l2)
  | .policy l1 l2 change => i.policies = l1 ++ (change.old.toList ++ l2)
  | .applicationProtocol _ _ _ => True
  | .meshConfig _ => True

/-- The inputs after the change. -/
def after (i : Inputs) : InputChange → Inputs
  | .config change => { i with store := change.after i.store }
  | .metaRouter l1 l2 change => { i with metaRouters := l1 ++ (change.new.toList ++ l2) }
  | .redisService l1 l2 change => { i with redisServices := l1 ++ (change.new.toList ++ l2) }
  | .redisDestination l1 l2 change => { i with redisDestinations := l1 ++ (change.new.toList ++ l2) }
  | .policy l1 l2 change => { i with policies := l1 ++ (change.new.toList ++ l2) }
  | .applicationProtocol o server key =>
    { i with codecs := (Kube.MetaProtocolController.reconcile {} o server i.codecs key).2 }
  | .meshConfig mesh => { i with meshConfig := mesh }

/-- The event that the change leaves. -/
def event : InputChange → InputEvent
  | .config change => .config change
  | .metaRouter _ _ change => .request .MetaRouter (Kube.metaRouterlPredicates change)
  | .redisService _ _ change => .request .RedisService (Kube.redisPredicates change)
  | .redisDestination _ _ change => .request .RedisDestination (Kube.redisPredicates change)
  | .policy _ _ change => .request .DubboAuthorizationPolicy (Kube.dubboPredicates change)
  | .applicationProtocol o server key =>
    .request .ApplicationProtocol (Kube.getApplicationProtocol o server key).isOk
  | .meshConfig _ => .request .MeshConfig true

end InputChange

end Bootstrap

/-- Whether the wrapper of `RegisterEventHandler` calls its handler for the event of
a change, by the ServiceEntries there are when it is called. -/
def Istio.wrapperCalls (serviceEntries : List (Config ServiceEntry)) : Istio.StoreChange → Bool
  | .serviceEntry _ _ change => callsHandler shouldHandleServiceEntryChange change
  | .virtualService _ _ change => callsHandler (shouldHandleVirtualServiceChange serviceEntries) change
  | .destinationRule _ _ change => callsHandler (shouldHandleDestinationRuleChange serviceEntries) change
  | .gateway _ _ change => callsHandler shouldHandleGatewayChange change

end Aeraki.Impl
