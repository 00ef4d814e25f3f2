import Aeraki.Framework.GoMap

/-!
# Istio's networking resources

The resources of the config store (`istio.io/api/networking/v1alpha3`) with
the fields that the code reads. The store is filled from protobuf messages,
whose repeated fields hold no nil elements; a singular message field may be
nil and is an `Option`. What a specification holds besides is one opaque value
`rest`: `reflect.DeepEqual` compares it too.
-/

namespace Aeraki.Impl

/-- `client.ObjectKey`. -/
structure ObjectKey where
  namespace_ : String
  name : String
deriving DecidableEq

/-- `config.Meta`: the metadata that the code reads. -/
structure Meta where
  name : String
  namespace_ : String
  annotations : GoMap String String := ∅
deriving DecidableEq

/-- `config.Config` of one kind. -/
structure Config (σ : Type) extends Meta where
  spec : σ
deriving DecidableEq

/-- `StringMatch.MatchType`. -/
inductive MatchType
  | exactMatch (s : String)
  | prefixMatch (s : String)
  | regexMatch (s : String)
deriving DecidableEq

/-- `StringMatch`: its type may be unset. -/
structure StringMatch where
  matchType : Option MatchType
deriving DecidableEq

/-- `ServicePort`. -/
structure ServicePort where
  number : Nat
  name : String
deriving DecidableEq

/-- `ServiceEntry`. A selector without labels and none at all are read alike. -/
structure ServiceEntry where
  hosts : List String
  addresses : List String := []
  ports : List ServicePort := []
  workloadSelector : Option (GoMap String String) := none
  rest : String := ""
deriving DecidableEq

/-- `Destination`, of VirtualServices and MetaRouters. -/
structure Destination where
  host : String := ""
  subset : String := ""
  port : Option Nat := none
deriving DecidableEq

/-- `HTTPMatchRequest`. -/
structure HTTPMatchRequest where
  method : Option StringMatch := none
  headers : GoMap String StringMatch := ∅
deriving DecidableEq

/-- `HTTPRouteDestination`. -/
structure HTTPRouteDestination where
  destination : Option Destination
  weight : Int32 := 0
deriving DecidableEq

/-- `HTTPRoute`. -/
structure HTTPRoute where
  matches_ : List HTTPMatchRequest := []
  route : List HTTPRouteDestination
deriving DecidableEq

/-- `TCPRoute`: the ports it matches and its destinations. -/
structure TCPRoute where
  matchPorts : List Nat
  route : List Destination
deriving DecidableEq

/-- `VirtualService`. -/
structure VirtualService where
  hosts : List String
  gateways : List String := []
  http : List HTTPRoute := []
  tcp : List TCPRoute := []
  rest : String := ""
deriving DecidableEq

/-- `LoadBalancerSettings_ConsistentHashLB`. -/
structure ConsistentHashLB where
  httpHeaderName : String
deriving DecidableEq

/-- `LoadBalancerSettings`. -/
structure LoadBalancerSettings where
  consistentHash : Option ConsistentHashLB
deriving DecidableEq

/-- `TrafficPolicy`. -/
structure TrafficPolicy where
  loadBalancer : Option LoadBalancerSettings
deriving DecidableEq

/-- `Subset` of a DestinationRule. -/
structure DRSubset where
  name : String
  trafficPolicy : Option TrafficPolicy := none
deriving DecidableEq

/-- `DestinationRule`. -/
structure DestinationRule where
  host : String
  trafficPolicy : Option TrafficPolicy := none
  subsets : List DRSubset := []
  rest : String := ""
deriving DecidableEq

/-- `Server` of a Gateway: its port. -/
structure Server where
  port : Option ServicePort
deriving DecidableEq

/-- `Gateway`. -/
structure Gateway where
  selector : GoMap String String := ∅
  servers : List Server := []
  rest : String := ""
deriving DecidableEq

/-- The content of the config store, listed in order. -/
structure ConfigStore where
  serviceEntries : List (Config ServiceEntry) := []
  virtualServices : List (Config VirtualService) := []
  destinationRules : List (Config DestinationRule) := []
  gateways : List (Config Gateway) := []
deriving DecidableEq

/-! ## What a run does not determine -/

/-- A place in a run: the loops and calls it is in, from the outside. -/
abbrev Site : Type := List String

/-- What a run of the code leaves open, at each site: the order in which Go
ranges over a map, the order in which the config store lists its objects, and
the error of a call to an API server, if it fails. -/
structure Oracle where
  rangeOrder : Site → Nat := fun _ => 0
  listOrder : Site → Nat := fun _ => 0
  callError : Site → Option String := fun _ => none

/-- The oracle inside a loop or a call. -/
def Oracle.at (o : Oracle) (s : String) : Oracle where
  rangeOrder site := o.rangeOrder (s :: site)
  listOrder site := o.listOrder (s :: site)
  callError site := o.callError (s :: site)

/-- `for k, v := range m`. -/
def Oracle.range {ν : Type} (o : Oracle) (m : GoMap String ν) : List (String × ν) :=
  m.range (o.rangeOrder [])

/-- `configStore.List`. -/
def Oracle.list {α : Type} (o : Oracle) (l : List α) : List α := GoMap.shuffle (o.listOrder []) l

/-- The config store lists its objects in order. -/
def InOrder (o : Oracle) : Prop := ∀ site, o.listOrder site = 0

theorem InOrder.at {o : Oracle} (h : InOrder o) (s : String) : InOrder (o.at s) := fun _ => h _

theorem InOrder.list {o : Oracle} (h : InOrder o) {α : Type} (l : List α) : o.list l = l := by
  rw [Oracle.list, h, GoMap.shuffle_zero]

/-- Whether listing a namespace lists an object: the empty name lists them all. -/
def inNamespace (ns objectNs : String) : Bool := ns = "" || objectNs = ns

/-- The key of an object of the config store. -/
def Meta.key (m : Meta) : String := m.namespace_ ++ "/" ++ m.name

end Aeraki.Impl
