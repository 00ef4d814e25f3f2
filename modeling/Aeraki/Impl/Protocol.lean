import Aeraki.Impl.MetaRouter

/-!
# Protocols and names

`model/protocol/instance.go` and `model/metaprotocol/application_protocol.go`:
the protocols of a port, read off its name. `model/utils.go`: the names of
clusters and routes, hash policies, and host names compared as FQDNs.
-/

namespace Aeraki.Impl

open Go (Comp index)

/-- `protocol.Instance`. -/
inductive Instance
  | Dubbo
  | Thrift
  | Mongo
  | Redis
  | MySQL
  | Kafka
  | Zookeeper
  | MetaProtocol
  | Unsupported
deriving DecidableEq

/-- `protocolMap`. -/
def protocolMap (s : String) : Option Instance :=
  if s = "dubbo" then some .Dubbo
  else if s = "thrift" then some .Thrift
  else if s = "mongo" then some .Mongo
  else if s = "redis" then some .Redis
  else if s = "mysql" then some .MySQL
  else if s = "kafka" then some .Kafka
  else if s = "zookeeper" then some .Zookeeper
  else if s = "metaprotocol" then some .MetaProtocol
  else none

/-- `Parse`. -/
def parse (s : String) : Instance := (protocolMap (Go.toLower s)).getD .Unsupported

/-- `IsMetaProtocol`. -/
def Instance.isMetaProtocol : Instance → Bool
  | .MetaProtocol => true
  | _ => false

/-- `GetLayer7ProtocolFromPortName`. -/
def getLayer7ProtocolFromPortName (name : String) : Instance :=
  match Go.split name '-' with
  | _ :: s :: _ => parse s
  | _ => .Unsupported

/-- `IsAerakiSupportedProtocols`. -/
def isAerakiSupportedProtocols (name : String) : Bool :=
  getLayer7ProtocolFromPortName name ≠ .Unsupported

/-- The codecs by protocol, `applicationProtocols`. -/
abbrev Codecs : Type := GoMap String String

/-- The built-in codecs. -/
def builtinCodecs : Codecs :=
  GoMap.writeAll ∅
    [("dubbo", "aeraki.meta_protocol.codec.dubbo"), ("thrift", "aeraki.meta_protocol.codec.thrift")]

/-- `GetApplicationProtocolCodec`. -/
def getApplicationProtocolCodec (codecs : Codecs) (protocol : String) : Except String String :=
  match codecs.lookup protocol with
  | some codec => .ok codec
  | none => .error ("can't find codec for protocol: " ++ protocol)

/-- `GetApplicationProtocolFromPortName`: a name of two segments is indexed
out of range. -/
def getApplicationProtocolFromPortName (portName : String) : Comp (Except String String) := do
  let s := Go.split portName '-'
  if s.length > 1 then return .ok (← index s 2)
  return .error ("can't find application protocol in port name: " ++ portName)

/-! ## Names -/

/-- `TrafficDirection`. -/
inductive TrafficDirection
  | inbound
  | outbound
deriving DecidableEq

def TrafficDirection.name : TrafficDirection → String
  | .inbound => "inbound"
  | .outbound => "outbound"

/-- Istio's `BuildSubsetKey`. -/
def buildSubsetKey (direction : TrafficDirection) (subsetName hostname : String) (port : Nat) : String :=
  direction.name ++ "|" ++ Go.itoa port ++ "|" ++ subsetName ++ "|" ++ hostname

/-- `BuildClusterName`. -/
def buildClusterName (direction : TrafficDirection) (subsetName hostname : String) (port : Nat) : String :=
  match direction with
  | .inbound => buildSubsetKey direction subsetName "" port
  | .outbound => buildSubsetKey direction subsetName hostname port

/-- `BuildMetaProtocolRouteName`. -/
def buildMetaProtocolRouteName (host : String) (port : Nat) : String := host ++ "_" ++ Go.itoa port

/-- `getConsistentHashHeaderName`. -/
def getConsistentHashHeaderName (tp : Option TrafficPolicy) : String :=
  match tp.bind (·.loadBalancer) |>.bind (·.consistentHash) with
  | some hash => hash.httpHeaderName
  | none => ""

/-- `GetHashPolicy`. -/
def getHashPolicy (dr : Option (Config DestinationRule)) (subsetName : String) : String :=
  match dr with
  | none => ""
  | some dr =>
    if subsetName = "" then getConsistentHashHeaderName dr.spec.trafficPolicy
    else
      match dr.spec.subsets.find? (subsetName = ·.name) with
      | some subset => getConsistentHashHeaderName subset.trafficPolicy
      | none => ""

/-- The FQDN of a name in a namespace. -/
def fqdn (name ns : String) : String :=
  if Go.containsChar name '.' then name else name ++ "." ++ ns ++ ".svc.cluster.local"

/-- `IsFQDNEquals`. -/
def isFQDNEquals (name1 ns1 name2 ns2 : String) : Bool := fqdn name1 ns1 = fqdn name2 ns2

example : getLayer7ProtocolFromPortName "tcp-metaprotocol-dubbo" = .MetaProtocol := by decide

end Aeraki.Impl
