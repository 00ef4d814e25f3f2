import Aeraki.Impl.Networking

/-!
# MetaRouters

The MetaRouter resource (`metaprotocol/v1alpha1`). MetaRouters come from the
API server as JSON: every pointer in them may be nil, list elements included.
-/

namespace Aeraki.Impl

/-- A protobuf duration. -/
structure Duration where
  seconds : Int
  nanos : Int := 0
deriving DecidableEq

/-- A `float64`, by its bits. -/
abbrev Float64 : Type := UInt64

namespace Float64

def isNaN (x : Float64) : Bool := x.toNat % 2 ^ 63 > 0x7ff0000000000000

/-- A number that is ordered as the float is: its magnitude's bits with its
sign. -/
def ordinal (x : Float64) : Int := if x.toNat < 2 ^ 63 then x.toNat else -(x.toNat - 2 ^ 63 : Int)

/-- `x < y`, false for a NaN. -/
def lt (x y : Float64) : Bool := !x.isNaN && !y.isNaN && x.ordinal < y.ordinal

/-- `x <= y`, false for a NaN. -/
def le (x y : Float64) : Bool := !x.isNaN && !y.isNaN && x.ordinal ≤ y.ordinal

end Float64

/-- `MetaRouteMatch`. -/
structure MetaRouteMatch where
  attributes : GoMap String (Option StringMatch) := ∅
deriving DecidableEq

/-- `MetaRouteDestination`. -/
structure MetaRouteDestination where
  destination : Option Destination
  weight : UInt32 := 0
deriving DecidableEq

/-- `KeyValue`. -/
structure KeyValue where
  key : String
  value : String
deriving DecidableEq

/-- `MetaRoute`. -/
structure MetaRoute where
  name : String := ""
  match_ : Option MetaRouteMatch := none
  route : List (Option MetaRouteDestination)
  mirror : Option Destination := none
  mirrorPercentage : Option Float64 := none
  requestMutation : List (Option KeyValue) := []
  responseMutation : List (Option KeyValue) := []
deriving DecidableEq

/-- `LocalRateLimit_TokenBucket`. -/
structure TokenBucket where
  maxTokens : UInt32
  tokensPerFill : Option UInt32
  fillInterval : Option Duration
deriving DecidableEq

/-- `LocalRateLimit_Condition`. -/
structure LocalRateLimitCondition where
  tokenBucket : Option TokenBucket
  match_ : Option MetaRouteMatch := none
deriving DecidableEq

/-- `LocalRateLimit`. -/
structure LocalRateLimit where
  tokenBucket : Option TokenBucket := none
  conditions : List (Option LocalRateLimitCondition) := []
deriving DecidableEq

/-- `GlobalRateLimit_Descriptor`. -/
structure RateLimitDescriptor where
  property : String
  descriptorKey : String
deriving DecidableEq

/-- `GlobalRateLimit`. -/
structure GlobalRateLimit where
  domain : String
  match_ : Option MetaRouteMatch := none
  requestTimeout : Option Duration := none
  denyOnFail : Bool := false
  rateLimitService : String
  descriptors : List (Option RateLimitDescriptor)
deriving DecidableEq

/-- `MetaRouter`: its metadata and its specification. -/
structure MetaRouter where
  name : String
  namespace_ : String
  hosts : List String
  gateways : List String := []
  routes : List (Option MetaRoute) := []
  localRateLimit : Option LocalRateLimit := none
  globalRateLimit : Option GlobalRateLimit := none
  exportTo : List String := []
deriving DecidableEq

end Aeraki.Impl
