import Aeraki.Impl.Webhook.Validation

/-!
# The admission webhook

`webhook/validation/server/server.go`: the server that the API server asks about
MetaRouters before it stores them, and `webhook/validation/configuration.go`, which
registers it. The bytes of a request and how they are decoded are `Codec`s.
-/

namespace Aeraki.Impl.Webhook

open Go (Comp deref)

/-! ## Requests -/

/-- `kube.Operation`. -/
inductive Operation
  | Create
  | Update
  | Delete
  | Connect
deriving DecidableEq

/-- `schema.GroupVersionKind`. -/
structure GroupVersionKind where
  group : String
  version : String
  kind : String
deriving DecidableEq

/-- `crd.IstioKind`: its type and its name. -/
structure IstioKind where
  groupVersionKind : GroupVersionKind
  name : String

/-- `kube.AdmissionRequest`, with the object's bytes. -/
structure AdmissionRequest (ρ : Type) where
  uid : String
  kind : String
  namespace_ : String
  operation : Operation
  object : ρ

/-- `kube.AdmissionResponse`, with the message of its result. -/
structure AdmissionResponse where
  uid : String := ""
  allowed : Bool := false
  message : String := ""
  warnings : List String := []
deriving DecidableEq

/-- `kube.AdmissionReview`. -/
structure AdmissionReview (ρ : Type) where
  apiVersion : String := ""
  request : Option (AdmissionRequest ρ) := none
  response : Option AdmissionResponse := none

/-- The specification of an ApplicationProtocol. -/
structure ApplicationProtocolSpec where
  protocol : String
  codec : String

/-- What the server calls to read bytes and to print errors: the deserializer and
`AdmissionReviewKubeToAdapter`, `json.Unmarshal` of an object and of its fields, and
`crd.ConvertObject` for either schema, and the text of an error. -/
structure Codec (ρ : Type) where
  isEmpty : ρ → Bool
  decode : ρ → Except String (Except String (AdmissionReview ρ))
  unmarshal : ρ → Except String IstioKind
  fields : ρ → Except String (GoMap String ρ)
  convertApplicationProtocol : ρ → Except String ApplicationProtocolSpec
  convertMetaRouter : ρ → Except String MetaRouter
  errorText : Errors → String

/-! ## Schemas -/

/-- The schemas of `scheme.Aeraki`. -/
inductive Schema
  | ApplicationProtocol
  | MetaRouter
deriving DecidableEq

def Schema.groupVersionKind : Schema → GroupVersionKind
  | .ApplicationProtocol => ⟨"metaprotocol.aeraki.io", "v1alpha1", "ApplicationProtocol"⟩
  | .MetaRouter => ⟨"metaprotocol.aeraki.io", "v1alpha1", "MetaRouter"⟩

/-- `FindByGroupVersionKind` of `scheme.Aeraki`. -/
def findByGroupVersionKind (gvk : GroupVersionKind) : Option Schema :=
  [Schema.ApplicationProtocol, .MetaRouter].find? (·.groupVersionKind = gvk)

/-- `ValidateApplicationProtocol`: the warning and the error. -/
def validateApplicationProtocol (protocol : ApplicationProtocolSpec) : Errors × Errors :=
  ([], (if protocol.protocol = "" then ["application protocol must have protocol"] else []) ++
    (if protocol.codec = "" then ["application protocol must have codec"] else []))

/-! ## The server -/

/-- What is reported of a request. -/
inductive Report
  | passed
  | failed (reason : String)
deriving DecidableEq

def reasonUnsupportedOperation : String := "unsupported_operation"
def reasonYamlDecodeError : String := "yaml_decode_error"
def reasonUnknownType : String := "unknown_type"
def reasonCRDConversionError : String := "crd_conversion_error"
def reasonInvalidConfig : String := "invalid_resource"

/-- `toAdmissionResponse`. -/
def toAdmissionResponse (err : String) : AdmissionResponse := { message := err }

/-- `validFields`. -/
def validFields : List String := ["apiVersion", "kind", "metadata", "spec", "status"]

section

variable {ρ : Type} (lib : Libraries) (codec : Codec ρ)

/-- `checkFields`: the reason and the error, if there is one. -/
def checkFields (o : Oracle) (raw : ρ) (kind ns name : String) : Option (String × String) :=
  match codec.fields raw with
  | .error err => some (reasonYamlDecodeError, "cannot decode configuration fields: " ++ err)
  | .ok trial =>
    match (o.range trial).find? fun field => !validFields.contains field.1 with
    | some (key, _) =>
      some (reasonInvalidConfig,
        "unknown field " ++ lib.quote key ++ " on " ++ kind ++ " resource " ++ ns ++ "/" ++ name)
    | none => none

/-- `ConvertObject` and `ValidateConfig` of a schema: the error of the first, or the
warning and the error of the second. -/
def convertAndValidate (o : Oracle) (s : Schema) (raw : ρ) : Comp (Except String (Errors × Errors)) :=
  match s with
  | .ApplicationProtocol =>
    match codec.convertApplicationProtocol raw with
    | .error err => return .error err
    | .ok protocol => return .ok (validateApplicationProtocol protocol)
  | .MetaRouter =>
    match codec.convertMetaRouter raw with
    | .error err => return .error err
    | .ok metaRouter => return .ok (← validateMetaRouter lib o metaRouter)

/-- `validate`: what is reported, and the response. -/
def validate (o : Oracle) (request : Option (AdmissionRequest ρ)) : Comp (Report × AdmissionResponse) := do
  let request ← deref request
  if request.operation ≠ .Create ∧ request.operation ≠ .Update then
    return (.failed reasonUnsupportedOperation, { allowed := true })
  match codec.unmarshal request.object with
  | .error err => return (.failed reasonYamlDecodeError, toAdmissionResponse ("cannot decode configuration: " ++ err))
  | .ok obj =>
    match findByGroupVersionKind obj.groupVersionKind with
    | none =>
      return (.failed reasonUnknownType, toAdmissionResponse ("unrecognized type " ++ obj.groupVersionKind.kind))
    | some s =>
      match ← convertAndValidate lib codec (o.at "validate") s request.object with
      | .error err =>
        return (.failed reasonCRDConversionError, toAdmissionResponse ("error decoding configuration: " ++ err))
      | .ok (warnings, err) =>
        if err ≠ [] then
          return (.failed reasonInvalidConfig,
            toAdmissionResponse ("configuration is invalid: " ++ codec.errorText err))
        match checkFields lib codec (o.at "fields") request.object request.kind request.namespace_ obj.name with
        | some (reason, err) => return (.failed reason, toAdmissionResponse err)
        | none => return (.passed, { allowed := true, warnings := warnings })

/-- An HTTP request: its body, or the error of reading it, and its content type. -/
structure HttpRequest (ρ : Type) where
  body : Option (Except String ρ)
  contentType : String

/-- An HTTP response: an error, or the encoded review. -/
inductive HttpResponse (ρ : Type)
  | error (status : Nat) (text : String)
  | review (review : AdmissionReview ρ)

/-- The response of `serve` to a body. -/
def serveBody (o : Oracle) (body : ρ) : Comp (AdmissionReview ρ) := do
  match codec.decode body with
  | .error err => return { response := some (toAdmissionResponse ("could not decode body: " ++ err)) }
  | .ok (.error err) => return { response := some (toAdmissionResponse ("could not decode object: " ++ err)) }
  | .ok (.ok ar) =>
    let response := (← validate lib codec o ar.request).2
    return {
      apiVersion := ar.apiVersion
      response := some (match ar.request with
        | some request => { response with uid := request.uid }
        | none => response) }

/-- `serve` with `validate`: `serveValidate`. -/
def serveValidate (o : Oracle) (r : HttpRequest ρ) : Comp (HttpResponse ρ) := do
  match r.body with
  | some (.error err) => return .error 400 err
  | none => return .error 400 "no body found"
  | some (.ok body) =>
    if codec.isEmpty body then return .error 400 "no body found"
    if r.contentType ≠ "application/json" then
      return .error 415 "invalid Content-Type, want `application/json`"
    let review ← serveBody lib codec o body
    match o.callError ["Marshal"] with
    | some err => return .error 500 ("could encode response: " ++ err)
    | none =>
      match o.callError ["Write"] with
      | some err => return .error 500 ("could write response: " ++ err)
      | none => return .review review

end

/-! ## The registration -/

/-- `FailurePolicyType`. -/
inductive FailurePolicy
  | Ignore
  | Fail
deriving DecidableEq

/-- `RuleWithOperations`. -/
structure RuleWithOperations where
  operations : List Operation
  apiGroups : List String
  apiVersions : List String
  resources : List String
deriving DecidableEq

/-- `ValidatingWebhook`: its client's service, by name, namespace and path. -/
structure ValidatingWebhook where
  name : String
  caBundle : String
  serviceName : String
  serviceNamespace : String
  path : String
  rules : List RuleWithOperations
  failurePolicy : FailurePolicy
  admissionReviewVersions : List String
deriving DecidableEq

/-- The webhook that `GenerateWebhookConfig` registers. -/
def aerakiWebhook (caCert ns : String) : ValidatingWebhook where
  name := "validation.aeraki.io"
  caBundle := caCert
  serviceName := "aeraki"
  serviceNamespace := ns
  path := "/validate"
  rules := [{
    operations := [.Create, .Update]
    apiGroups := ["metaprotocol.aeraki.io"]
    apiVersions := ["*"]
    resources := ["metarouters"] }]
  failurePolicy := .Fail
  admissionReviewVersions := ["v1", "v1beta1"]

/-- The ValidatingWebhookConfigurations of the API server, by name. -/
abbrev WebhookConfigurations : Type := GoMap String (List ValidatingWebhook)

/-- `GenerateWebhookConfig`: its error, and the configurations then. -/
def generateWebhookConfig (o : Oracle) (caCert ns : String) (server : WebhookConfigurations) :
    Option String × WebhookConfigurations :=
  let webhookCfgName := "aeraki-" ++ ns
  let webhooks := [aerakiWebhook caCert ns]
  match o.callError ["Get"] with
  | some err => (some err, server)
  | none =>
    match server.lookup webhookCfgName with
    | none =>
      match o.callError ["Create"] with
      | some err => (some err, server)
      | none => (none, server.insert webhookCfgName webhooks)
    | some old =>
      if old ≠ webhooks then
        match o.callError ["Update"] with
        | some err => (some err, server)
        | none => (none, server.insert webhookCfgName webhooks)
      else (none, server)

end Aeraki.Impl.Webhook
