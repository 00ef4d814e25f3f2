import Aeraki.Impl.MetaRouter

/-!
# Validation of MetaRouters

`webhook/validation/scheme/validation.go`: the checks of a MetaRouter at
admission (`validateMetaRouter`). An error is the list of the messages that it
holds, and nil is the empty list: `appendErrors` and `appendValidation` join
the lists, as `multierror.Append` does. The checks read some fields through
pointers that may be nil, and panic then.
-/

namespace Aeraki.Impl.Webhook

open Go (Comp deref)

/-- What the checks call: `regexp.Compile` and `visibility.Instance.Validate`,
by their errors, Istio's `labels.IsDNS1123Label`, and the formats `%q` and
`%f`. -/
structure Libraries where
  regexpCompile : String → Option String
  visibilityValidate : String → Option String
  isDNS1123Label : String → Bool
  quote : String → String
  formatFloat : Float64 → String

/-- An error, by its messages. -/
abbrev Errors : Type := List String

/-- `Validation`. -/
structure Validation where
  err : Errors := []
  warning : Errors := []
deriving DecidableEq

/-- `appendValidation`. -/
def appendValidation (v nv : Validation) : Validation := ⟨v.err ++ nv.err, v.warning ++ nv.warning⟩

/-- `WrapError`. -/
def wrapError (e : Errors) : Validation := { err := e }

/-- `WrapWarning`. -/
def wrapWarning (e : Errors) : Validation := { warning := e }

section

variable (lib : Libraries)

/-! ## Names, ports and numbers -/

/-- `ValidatePort`. -/
def validatePort (port : Nat) : Errors :=
  if 1 ≤ port ∧ port ≤ 65535 then []
  else ["port number " ++ Go.itoa port ++ " must be in the range 1..65535"]

/-- `checkDNS1123Preconditions`. -/
def checkDNS1123Preconditions (name : String) : Errors :=
  if name.utf8ByteSize > 255 then ["domain name " ++ lib.quote name ++ " too long (max 255)"]
  else if name = "" then ["empty domain name not allowed"]
  else []

/-- The loop of `validateDNS1123Labels`: the last label may be empty. -/
def validateLabels (domain : String) : List String → Errors
  | [] => []
  | label :: rest =>
    if rest = [] ∧ label = "" then []
    else if !lib.isDNS1123Label label then
      ["domain name " ++ lib.quote domain ++ " invalid (label " ++ lib.quote label ++ " invalid)"]
    else validateLabels domain rest

/-- `validateDNS1123Labels`. -/
def validateDNS1123Labels (domain : String) : Errors :=
  let parts := Go.split domain '.'
  let topLevelDomain := parts.getLastD ""
  if Go.isInt topLevelDomain then
    ["domain name " ++ lib.quote domain ++ " invalid (top level domain " ++ lib.quote topLevelDomain ++
      " cannot be all-numeric)"]
  else validateLabels lib domain parts

/-- `ValidateFQDN`. -/
def validateFQDN (fqdn : String) : Errors :=
  match checkDNS1123Preconditions lib fqdn with
  | [] => validateDNS1123Labels lib fqdn
  | err => err

/-- `ValidateMetaAttributeName`. -/
def validateMetaAttributeName (name : String) : Errors :=
  if name = "" then ["attribute name cannot be empty"] else []

/-- `ValidatePercent`. -/
def validatePercent (val : UInt32) : Errors :=
  if val > 100 then ["percentage " ++ Go.itoa val.toNat ++ " is not in range 0..100"] else []

/-- `validateNoneEmptyString`. -/
def validateNoneEmptyString (str name : String) : Errors := if str = "" then [name ++ " cannot be empty"] else []

/-- `validateNoneNullObject`. -/
def validateNoneNullObject {α : Type} (obj : Option α) (name : String) : Errors :=
  if obj.isNone then [name ++ " cannot be null"] else []

/-- `validateSubsetName`. -/
def validateSubsetName (name : String) : Errors :=
  if name = "" then ["subset name cannot be empty"]
  else if !lib.isDNS1123Label name then ["subset name is invalid: " ++ name]
  else []

/-! ## Export -/

/-- The body of the loop of `validateExportTo`: the errors, and the keys of
`exportToMap`. -/
def exportToStep (ns : String) (st : Errors × List String) (e : String) : Errors × List String :=
  let key := if e = "." then ns else e
  if key ∈ st.2 then
    (st.1 ++ [if key ≠ e then "duplicate entries in exportTo: . and current namespace " ++ ns
      else "duplicate entries in exportTo for entry " ++ e], st.2)
  else
    match lib.visibilityValidate key with
    | some err => (st.1 ++ [err], st.2)
    | none => (st.1, st.2 ++ [key])

/-- `validateExportTo`. -/
def validateExportTo (ns : String) (exportTo : List String) : Errors :=
  let (errs, keys) := exportTo.foldl (exportToStep lib ns) ([], [])
  errs ++
    (if "*" ∈ keys ∧ exportTo.length > 1 then
      ["cannot have both public (*) and non-public exportTo values for a resource"] else []) ++
    (if "~" ∈ keys ∧ exportTo.length > 1 then ["cannot export service entry to no one (~) and someone"] else [])

/-! ## Matches -/

/-- `validateStringMatchRegexp`. -/
def validateStringMatchRegexp (sm : Option StringMatch) (where_ : String) : Errors :=
  match sm.bind (·.matchType) with
  | some (.regexMatch re) =>
    if re = "" then [lib.quote where_ ++ ": regex string match should not be empty"]
    else
      match lib.regexpCompile re with
      | none => []
      | some err =>
        [lib.quote where_ ++ ": " ++ err ++
          "; Aeraki uses RE2 style regex-based match (https://github.com/google/re2/wiki/Syntax)"]
  | _ => []

/-- The body of the loop of `validateMetaRouteMatch`. -/
def validateAttribute (name : String) (attr : Option StringMatch) : Errors :=
  (if attr.isNone then ["attribute match " ++ name ++ " cannot be null"] else []) ++
    validateMetaAttributeName name ++ validateStringMatchRegexp lib attr "attributes"

/-- `validateMetaRouteMatch`. -/
def validateMetaRouteMatch (o : Oracle) (match_ : Option MetaRouteMatch) : Errors :=
  match match_ with
  | none => []
  | some m => (o.range m.attributes).flatMap fun a => validateAttribute lib a.1 a.2

/-! ## Routes -/

/-- `validateDestination`. -/
def validateDestination (destination : Option Destination) : Errors :=
  match destination with
  | none => []
  | some d =>
    validateFQDN lib d.host ++ (if d.subset ≠ "" then validateSubsetName lib d.subset else []) ++
      match d.port with
      | some number => validatePort number
      | none => []

/-- The body of the loop of `validateMetaRouteDestinations`. -/
def validateMetaRouteDestination (destination : Option MetaRouteDestination) : Errors :=
  match destination with
  | none => ["weight may not be nil"]
  | some d =>
    (if d.destination.isNone then ["destination is required"] else []) ++
      validateDestination lib d.destination ++ validatePercent d.weight

/-- The sum of the weights of the destinations that are not nil, as a
`uint32`. -/
def totalWeight (destinations : List (Option MetaRouteDestination)) : UInt32 :=
  (destinations.reduceOption.map (·.weight)).sum

/-- `validateMetaRouteDestinations`. -/
def validateMetaRouteDestinations (destinations : List (Option MetaRouteDestination)) : Errors :=
  if destinations.isEmpty then ["a route must has at least one destination"]
  else
    destinations.flatMap (validateMetaRouteDestination lib) ++
      if destinations.length > 1 ∧ totalWeight destinations ≠ 100 then
        ["total destination weight " ++ Go.itoa (totalWeight destinations).toNat ++ " != 100"]
      else []

/-- The loops over the mutations of `validateMetaRoute`. -/
def validateMutation (mutation : List (Option KeyValue)) : Comp Errors := do
  let errs ← mutation.mapM fun kv => do
    let kv ← deref kv
    return (if kv.key = "" then ["mutation key cannot be empty"] else []) ++
      (if kv.value = "" then ["mutation value cannot be empty"] else [])
  return errs.flatten

/-- The checks of a route's mirror in `validateMetaRoute`. -/
def validateMirrorPercentage (mirror : Option Destination) (mirrorPercentage : Option Float64) : Errors :=
  match mirrorPercentage with
  | none => []
  | some value =>
    -- The bits of 100.
    let hundred : Float64 := 0x4059000000000000
    (if mirror.isNone then ["mirrorPercentage and mirror must be set together"] else []) ++
      (if Float64.lt hundred value then
        ["mirrorPercentage must not be greater than 100 (it has " ++ lib.formatFloat value ++ ")"] else []) ++
      (if Float64.le value 0 then
        ["mirrorPercentage must not be less than or equal to 0 (it has " ++ lib.formatFloat value ++ ")"] else [])

/-- `validateMetaRoute`. -/
def validateMetaRoute (o : Oracle) (route : MetaRoute) : Comp Validation := do
  let requestErrs ← validateMutation route.requestMutation
  let responseErrs ← validateMutation route.responseMutation
  return wrapError (validateMetaRouteMatch lib o route.match_ ++ requestErrs ++ responseErrs ++
    validateMirrorPercentage lib route.mirror route.mirrorPercentage ++
    validateDestination lib route.mirror ++ validateMetaRouteDestinations lib route.route)

/-- The body of the loop over the routes of `ValidateMetaRouter`. -/
def validateRoute (o : Oracle) (route : Option MetaRoute) : Comp Validation :=
  match route with
  | none => return wrapError ["meta route may not be null"]
  | some route => validateMetaRoute lib o route

/-- `analyzeUnreachableMetaRules`: what it reports. The name of a MetaRoute is
its position. -/
def analyzeUnreachableMetaRules (emptyMatchEncountered : Bool) : List (Option MetaRoute × Nat) → Errors
  | [] => []
  | (none, _) :: routes => analyzeUnreachableMetaRules emptyMatchEncountered routes
  | (some route, rulen) :: routes =>
    match route.match_ with
    | some _ => analyzeUnreachableMetaRules emptyMatchEncountered routes
    | none =>
      (if emptyMatchEncountered then
        ["MetaRouter rule #" ++ Go.itoa rulen ++ " not used (only the last rule can have no match)"] else []) ++
      analyzeUnreachableMetaRules true routes

/-! ## Rate limits -/

/-- `validateTokenBucket`. -/
def validateTokenBucket (bucket : Option TokenBucket) : Errors :=
  match bucket with
  | none => []
  | some bucket =>
    validateNoneNullObject bucket.fillInterval "localRateLimit tokenBucket fillInterval" ++
      validateNoneNullObject bucket.tokensPerFill "localRateLimit tokenBucket tokensPerfFill" ++
      (if bucket.tokensPerFill.any (· < 1) then
        ["localRateLimit tokenBucket tokensPerfFill must be greater than 0"] else []) ++
      (if bucket.maxTokens < 1 then ["localRateLimit tokenBucket maxTokens must be greater than 0"] else [])

/-- `validateLocalRateLimitCondition`. -/
def validateLocalRateLimitCondition (o : Oracle) (condition : Option LocalRateLimitCondition) : Comp Errors := do
  let condition ← deref condition
  return validateNoneNullObject condition.match_ "localRateLimit condition match" ++
    validateMetaRouteMatch lib o condition.match_ ++
    validateNoneNullObject condition.tokenBucket "localRateLimit condition tokenBucket" ++
    validateTokenBucket condition.tokenBucket

/-- `validateLocalRateLimit`. -/
def validateLocalRateLimit (o : Oracle) (limit : Option LocalRateLimit) : Comp Validation := do
  match limit with
  | none => return {}
  | some limit =>
    let conditionErrs ← limit.conditions.zipIdx.mapM fun c =>
      validateLocalRateLimitCondition lib (o.at (Go.itoa c.2)) c.1
    return wrapError (
      (if limit.tokenBucket.isNone ∧ limit.conditions = [] then
        ["localRateLimit must have at least one of tokenBucket or conditions"] else []) ++
      validateTokenBucket limit.tokenBucket ++ conditionErrs.flatten)

/-- The body of the loop of `validateRateLimitDescriptors`. -/
def validateRateLimitDescriptor (descriptor : Option RateLimitDescriptor) : Comp Errors := do
  let descriptor ← deref descriptor
  return validateNoneEmptyString descriptor.descriptorKey "globalRateLimit descriptor key" ++
    validateNoneEmptyString descriptor.property "globalRateLimit descriptor property"

/-- `validateRateLimitDescriptors`. -/
def validateRateLimitDescriptors (descriptors : List (Option RateLimitDescriptor)) : Comp Errors := do
  let errs ← descriptors.mapM validateRateLimitDescriptor
  return (if descriptors.isEmpty then ["globalRateLimit must have descriptors"] else []) ++ errs.flatten

/-- `validateGlobalRateLimit`. -/
def validateGlobalRateLimit (o : Oracle) (limit : Option GlobalRateLimit) : Comp Validation := do
  match limit with
  | none => return {}
  | some limit =>
    let descriptorErrs ← validateRateLimitDescriptors limit.descriptors
    return wrapError (validateNoneEmptyString limit.domain "globalRateLimit domain" ++
      validateNoneEmptyString limit.rateLimitService "globalRateLimit cluster" ++
      validateMetaRouteMatch lib o limit.match_ ++ descriptorErrs)

/-! ## The whole -/

/-- The checks of the hosts in `ValidateMetaRouter`. -/
def validateHosts (hosts : List String) : Errors :=
  match hosts with
  | [] => ["meta router must have one host"]
  | [host] => validateFQDN lib host
  | _ => ["meta router can only have one host"]

/-- `ValidateMetaRouter`: the warning and the error. -/
def validateMetaRouter (o : Oracle) (metaRouter : MetaRouter) : Comp (Errors × Errors) := do
  let empty : Errors :=
    if metaRouter.routes = [] ∧ metaRouter.globalRateLimit.isNone ∧ metaRouter.localRateLimit.isNone then
      ["meta router must at least have one of routes, globalRateLimit, or LocalRateLimit"] else []
  let routes ← metaRouter.routes.zipIdx.mapM fun r => validateRoute lib (o.at (Go.itoa r.2)) r.1
  let globalRateLimit ← validateGlobalRateLimit lib (o.at "global") metaRouter.globalRateLimit
  let localRateLimit ← validateLocalRateLimit lib (o.at "local") metaRouter.localRateLimit
  let errs := [wrapError (validateHosts lib metaRouter.hosts), wrapError empty] ++ routes ++
    [wrapError (validateExportTo lib metaRouter.namespace_ metaRouter.exportTo),
     wrapWarning (analyzeUnreachableMetaRules false metaRouter.routes.zipIdx), globalRateLimit, localRateLimit]
  let v := errs.foldl appendValidation {}
  return (v.warning, v.err)

end

end Aeraki.Impl.Webhook
