import Aeraki.Impl.Webhook.Server
import Aeraki.Proof.Bootstrap.NoPanic

/-!
# What the webhook is for

The API server asks the registered webhooks before it stores an object (`Admitted`).
Once `GenerateWebhookConfig` has returned no error, a MetaRouter that is created or
changed is one that `ValidateMetaRouter` accepts (`accepts_of_stores`): an operation
that is not covered does not write, and a call that fails or panics refuses. So the
control plane of routes never reads a MetaRouter that it would crash on
(`gated_never_crash`).
-/

namespace Aeraki.Proof.Webhook

open Aeraki.Impl Aeraki.Impl.Webhook Aeraki.Impl.Bootstrap
open Aeraki.Proof.Bootstrap (Keeps RoutesWellFormed RoutesSound)
open Go (bind_eq_ok)

/-! ## Admission -/

variable {ρ : Type}

/-- A write that the API server asks about, with the group, version and resource. -/
structure Write (ρ : Type) where
  request : AdmissionRequest ρ
  group : String
  version : String
  resource : String

/-- `*` stands for all. -/
def matchesName (names : List String) (name : String) : Bool := names.contains "*" || names.contains name

/-- The rule is about the write. -/
def covers (rule : RuleWithOperations) (write : Write ρ) : Bool :=
  rule.operations.contains write.request.operation && matchesName rule.apiGroups write.group &&
    matchesName rule.apiVersions write.version && matchesName rule.resources write.resource

/-- The API server stores the object: each webhook whose rules cover the write has
allowed it, or its call has failed and it lets failures pass. -/
def Admitted (server : WebhookConfigurations) (call : ValidatingWebhook → AdmissionRequest ρ → Option AdmissionResponse)
    (write : Write ρ) : Prop :=
  ∀ name webhooks, server.lookup name = some webhooks → ∀ webhook ∈ webhooks,
    webhook.rules.any (covers · write) = true →
      match call webhook write.request with
      | some response => response.allowed = true
      | none => webhook.failurePolicy = .Ignore

/-- The review that asks about a request. -/
def asks (request : AdmissionRequest ρ) : AdmissionReview ρ :=
  { apiVersion := "admission.k8s.io/v1", request := some request }

/-- A call of the webhook of Aeraki: a response to another request is none. -/
def callAeraki (lib : Libraries) (codec : Codec ρ) (encode : AdmissionReview ρ → ρ) (o : Oracle)
    (request : AdmissionRequest ρ) : Option AdmissionResponse :=
  match serveValidate lib codec o
      { body := some (.ok (encode (asks request))), contentType := "application/json" } with
  | .ok (.review review) => review.response.filter (·.uid = request.uid)
  | _ => none

/-- An API server at which `GenerateWebhookConfig` has registered the webhook. The
webhook reads what is encoded, and what is stored is what it has converted; a call
of it may fail on the way. -/
structure Gate (ρ : Type) where
  lib : Libraries
  codec : Codec ρ
  encode : AdmissionReview ρ → ρ
  stored : ρ → MetaRouter
  caCert : String
  ns : String
  server : WebhookConfigurations
  call : ValidatingWebhook → AdmissionRequest ρ → Option AdmissionResponse
  decode_encode : ∀ request, codec.decode (encode (asks request)) = .ok (.ok (asks request))
  stored_converted : ∀ raw m, codec.convertMetaRouter raw = .ok m → stored raw = m
  registered : ∃ o before, generateWebhookConfig o caCert ns before = (none, server)
  serves : ∀ request, call (aerakiWebhook caCert ns) request = none ∨
    ∃ o, call (aerakiWebhook caCert ns) request = callAeraki lib codec encode o request

section

variable {lib : Libraries} {codec : Codec ρ}

/-- A type of that kind is that of MetaRouters, or unknown. -/
theorem findByGroupVersionKind_metaRouter {gvk : GroupVersionKind} (h : gvk.kind = "MetaRouter") {s : Schema}
    (hs : findByGroupVersionKind gvk = some s) : s = .MetaRouter := by
  cases s with
  | MetaRouter => rfl
  | ApplicationProtocol =>
    have hgvk : Schema.ApplicationProtocol.groupVersionKind = gvk := by
      simpa using List.find?_some hs
    rw [← hgvk] at h
    exact absurd h (by decide +kernel)

/-- What `validate` allows of a MetaRouter's creation or update. -/
theorem validate_allowed {o : Oracle} {request : AdmissionRequest ρ} {report : Report} {response : AdmissionResponse}
    (h : validate lib codec o (some request) = .ok (report, response)) (hallowed : response.allowed = true)
    (hop : request.operation = .Create ∨ request.operation = .Update)
    (hkind : ∀ obj, codec.unmarshal request.object = .ok obj → obj.groupVersionKind.kind = "MetaRouter") :
    ∃ o m, codec.convertMetaRouter request.object = .ok m ∧ Accepts lib o m := by
  have hrefused : ∀ {r : Report} {message : String},
      (pure (r, toAdmissionResponse message) : Go.Comp (Report × AdmissionResponse)) ≠ .ok (report, response) := by
    intro r message he
    cases he
    cases hallowed
  obtain ⟨_, hrequest, h⟩ := bind_eq_ok.mp h
  cases hrequest
  rw [if_neg fun hne => hop.elim hne.1 hne.2] at h
  split at h
  · exact absurd h hrefused
  · rename_i obj hobj
    split at h
    · exact absurd h hrefused
    · rename_i s hs
      cases findByGroupVersionKind_metaRouter (hkind obj hobj) hs
      obtain ⟨result, hresult, h⟩ := bind_eq_ok.mp h
      split at h
      · exact absurd h hrefused
      · rename_i warnings err
        by_cases herr : err = []
        · subst herr
          simp only [convertAndValidate] at hresult
          split at hresult
          · cases hresult
          · rename_i m hm
            obtain ⟨_, hvalidate, he⟩ := bind_eq_ok.mp hresult
            cases he
            exact ⟨_, m, hm, warnings, hvalidate⟩
        · rw [if_pos herr] at h
          exact absurd h hrefused

/-- A review is the response to a body. -/
theorem serveValidate_review {o : Oracle} {r : HttpRequest ρ} {review : AdmissionReview ρ}
    (h : serveValidate lib codec o r = .ok (.review review)) :
    ∃ body, r.body = some (.ok body) ∧ serveBody lib codec o body = .ok review := by
  simp only [serveValidate] at h
  split at h
  · cases h
  · cases h
  · rename_i body hbody
    split at h
    · cases h
    · split at h
      · cases h
      · obtain ⟨answer, hanswer, h⟩ := bind_eq_ok.mp h
        split at h
        · cases h
        · split at h
          · cases h
          · cases h
            exact ⟨body, hbody, hanswer⟩

/-- The configuration is there when `GenerateWebhookConfig` has returned no error. -/
theorem lookup_registered {o : Oracle} {caCert ns : String} {server server' : WebhookConfigurations}
    (h : generateWebhookConfig o caCert ns server = (none, server')) :
    server'.lookup ("aeraki-" ++ ns) = some [aerakiWebhook caCert ns] := by
  simp only [generateWebhookConfig] at h
  split at h
  · cases h
  · split at h
    · split at h
      · cases h
      · cases h
        exact Finmap.lookup_insert _
    · rename_i old hold
      split at h
      · split at h
        · cases h
        · cases h
          exact Finmap.lookup_insert _
      · rename_i heq
        cases h
        rw [hold, not_ne_iff.mp heq]

end

/-! ## The gate -/

namespace Gate

variable (g : Gate ρ)

/-- An object that the webhook of Aeraki allows is one that is accepted. -/
theorem accepts_of_allowed {o : Oracle} {request : AdmissionRequest ρ} {response : AdmissionResponse}
    (h : callAeraki g.lib g.codec g.encode o request = some response) (hallowed : response.allowed = true)
    (hop : request.operation = .Create ∨ request.operation = .Update)
    (hkind : ∀ obj, g.codec.unmarshal request.object = .ok obj → obj.groupVersionKind.kind = "MetaRouter") :
    ∃ o, Accepts g.lib o (g.stored request.object) := by
  unfold callAeraki at h
  split at h
  · rename_i review hserve
    have hresponse : review.response = some response := (Option.filter_eq_some_iff.mp h).1
    obtain ⟨body, hbody, hreview⟩ := serveValidate_review hserve
    cases hbody
    simp only [serveBody, g.decode_encode] at hreview
    obtain ⟨⟨report, verdict⟩, hvalidate, hreview⟩ := bind_eq_ok.mp hreview
    cases hreview
    cases hresponse
    obtain ⟨o, m, hm, haccepts⟩ := validate_allowed hvalidate hallowed hop hkind
    exact ⟨o, g.stored_converted _ m hm ▸ haccepts⟩
  · cases h

/-- The write of a MetaRouter. -/
structure IsMetaRouterWrite (write : Write ρ) : Prop where
  group : write.group = "metaprotocol.aeraki.io"
  resource : write.resource = "metarouters"
  kind : ∀ obj, g.codec.unmarshal write.request.object = .ok obj → obj.groupVersionKind.kind = "MetaRouter"

/-- The API server stores the MetaRouter for an operation. -/
def Stores (operation : Operation) (object : MetaRouter) : Prop :=
  ∃ write, g.IsMetaRouterWrite write ∧ write.request.operation = operation ∧
    g.stored write.request.object = object ∧ Admitted g.server g.call write

/-- What is created or updated has been accepted. -/
theorem accepts_of_stores {operation : Operation} (hop : operation = .Create ∨ operation = .Update)
    {object : MetaRouter} (h : g.Stores operation object) : ∃ lib o, Accepts lib o object := by
  obtain ⟨write, hwrite, rfl, rfl, hadmitted⟩ := h
  have hcovers : (aerakiWebhook g.caCert g.ns).rules.any (covers · write) = true := by
    simp only [aerakiWebhook, List.any_cons, List.any_nil, Bool.or_false, covers, matchesName, hwrite.group,
      hwrite.resource]
    rcases hop with hop | hop
    · rw [hop]
      rfl
    · rw [hop]
      rfl
  obtain ⟨o, before, hgen⟩ := g.registered
  have hverdict := hadmitted _ _ (lookup_registered hgen) _ List.mem_cons_self hcovers
  -- a call that fails refuses, by the failure policy
  cases hresponse : g.call (aerakiWebhook g.caCert g.ns) write.request with
  | none =>
    rw [hresponse] at hverdict
    cases hverdict
  | some response =>
    rw [hresponse] at hverdict
    rcases g.serves write.request with hnone | ⟨o, ho⟩
    · cases hresponse.symm.trans hnone
    · exact ⟨g.lib, g.accepts_of_allowed (ho.symm.trans hresponse) hverdict hop hwrite.kind⟩

/-- What users do: their MetaRouters go through the gate, and their ServiceEntries
have hosts. An update that leaves the object is one of its metadata. -/
def users : Inputs → InputChange → Prop
  | i, .config change => ∀ se ∈ (change.after i.store).serviceEntries, se.spec.hosts ≠ []
  | _, .metaRouter _ _ (.create object) => g.Stores .Create object
  | _, .metaRouter _ _ (.update prev object _) => object = prev.object ∨ g.Stores .Update object
  | _, _ => True

theorem keeps_wellFormed : Keeps g.users RoutesWellFormed := by
  intro i c h happ hc
  cases c with
  | config change => exact ⟨hc, h.accepted⟩
  | metaRouter l1 l2 change =>
    have happ : i.metaRouters = l1 ++ (change.old.toList ++ l2) := happ
    have hold : ∀ m ∈ l1 ++ (change.old.toList ++ l2), ∃ lib o, Accepts lib o m.object := happ ▸ h.accepted
    have hnew : ∀ m ∈ change.new, ∃ lib o, Accepts lib o m.object := by
      intro m hm
      cases change with
      | create object =>
        cases hm
        exact g.accepts_of_stores (.inl rfl) hc
      | update prev object deletionTimestamp =>
        cases hm
        rcases hc with hsame | hstores
        · obtain ⟨lib, o, haccepts⟩ := hold prev (by simp [Kube.CrdChange.old])
          exact ⟨lib, o, hsame ▸ haccepts⟩
        · exact g.accepts_of_stores (.inr rfl) hstores
      | delete prev => cases hm
    refine ⟨h.hosts, fun m hm => ?_⟩
    rcases List.mem_append.mp hm with hm | hm
    · exact hold m (List.mem_append_left _ hm)
    · rcases List.mem_append.mp hm with hm | hm
      · exact hnew m (Option.mem_toList.mp hm)
      · exact hold m (List.mem_append_right _ (List.mem_append_right _ hm))
  | redisService l1 l2 change => exact ⟨h.hosts, h.accepted⟩
  | redisDestination l1 l2 change => exact ⟨h.hosts, h.accepted⟩
  | policy l1 l2 change => exact ⟨h.hosts, h.accepted⟩
  | applicationProtocol o server key => exact ⟨h.hosts, h.accepted⟩
  | meshConfig mesh => exact ⟨h.hosts, h.accepted⟩

end Gate

/-- Behind the gate, every MetaRouter that is ever stored is accepted, and the control
plane of routes does not crash. -/
theorem gated_never_crash {C : SnapshotCache Xds.Snapshot} {env : RoutePlane.Environment C} (g : Gate ρ)
    (henv : ∀ i c, env.users i c → g.users i c) {s₀ s : RoutePlane C} (h₀ : (RoutePlane.system env).init s₀)
    (hwf : RoutesWellFormed s₀.inputs) {n : Nat} (h : Steps (RoutePlane.system env).step n s₀ s) :
    s.crashed = false ∧ ∀ m ∈ s.inputs.metaRouters, ∃ lib o, Accepts lib o m.object := by
  have hk : Keeps env.users RoutesWellFormed := fun i c hi happ hc => g.keeps_wellFormed i c hi happ (henv i c hc)
  have hstart : RoutesSound s₀ := by
    refine ⟨?_, hwf, ?_⟩ <;> rw [h₀]
  have hs : RoutesSound s := h.invariant (fun s t => @RoutesSound.step _ _ s t hk) hstart
  exact ⟨hs.running, hs.wellFormed.accepted⟩

/-- Bytes that are a MetaRouter, or a review that asks about one. -/
inductive Bytes
  | object (m : MetaRouter)
  | review (apiVersion uid kind ns : String) (operation : Operation) (object : Bytes)

namespace Bytes

def encode (review : AdmissionReview Bytes) : Bytes :=
  match review.request with
  | some r => .review review.apiVersion r.uid r.kind r.namespace_ r.operation r.object
  | none => .object Xds.canary

def stored : Bytes → MetaRouter
  | .object m => m
  | .review .. => Xds.canary

def codec : Codec Bytes where
  isEmpty _ := false
  decode
    | .review apiVersion uid kind ns operation raw =>
      .ok (.ok { apiVersion := apiVersion, request := some ⟨uid, kind, ns, operation, raw⟩ })
    | .object _ => .error "not a review"
  unmarshal
    | .object m => .ok ⟨Schema.MetaRouter.groupVersionKind, m.name⟩
    | .review .. => .error "not an object"
  fields b := .ok (GoMap.writeAll ∅ [("apiVersion", b), ("kind", b), ("metadata", b), ("spec", b)])
  convertApplicationProtocol _ := .error "not an ApplicationProtocol"
  convertMetaRouter
    | .object m => .ok m
    | .review .. => .error "not an object"
  errorText := String.intercalate ", "

/-- The webhook has been registered at an API server without webhooks. -/
def gate : Gate Bytes where
  lib := lenient
  codec := codec
  encode := encode
  stored := stored
  caCert := "ca"
  ns := "istio-system"
  server := (generateWebhookConfig {} "ca" "istio-system" ∅).2
  call _ request := callAeraki lenient codec encode {} request
  decode_encode _ := rfl
  stored_converted raw m h := by
    cases raw with
    | object m' =>
      cases h
      rfl
    | review => cases h
  registered := ⟨{}, ∅, rfl⟩
  serves request := .inr ⟨{}, rfl⟩

/-- The creation of a MetaRouter. -/
def creation (m : MetaRouter) : Write Bytes where
  request := ⟨"1", "MetaRouter", m.namespace_, .Create, .object m⟩
  group := "metaprotocol.aeraki.io"
  version := "v1alpha1"
  resource := "metarouters"

theorem stores_canary : gate.Stores .Create Xds.canary := by
  refine ⟨creation Xds.canary, ⟨rfl, rfl, fun obj hobj => ?_⟩, rfl, rfl, fun name webhooks _ webhook _ _ => ?_⟩
  · cases hobj
    rfl
  · have hcall : callAeraki lenient codec encode {} (creation Xds.canary).request =
        some { uid := "1", allowed := true } := by
      decide +kernel
    rw [show gate.call webhook (creation Xds.canary).request = _ from hcall]

end Bytes

/-- Users write through the gate; proxies and calls do as they like. -/
def gatedUsers : RoutePlane.Environment (.mapCache Xds.Snapshot) where
  users := Bytes.gate.users
  proxies _ _ := True
  calls _ := True

/-- A MetaRouter is created. -/
theorem canary_gated : ∃ s, Steps (RoutePlane.system gatedUsers).step 1 { inputs := {}, read := {} } s ∧
    s.inputs.metaRouters.length = 1 ∧ s.crashed = false ∧
    ∀ m ∈ s.inputs.metaRouters, ∃ lib o, Accepts lib o m.object := by
  have hempty : RoutesWellFormed {} := ⟨(fun _ h => nomatch h), (fun _ h => nomatch h)⟩
  have hrun : Steps (RoutePlane.system gatedUsers).step 1 { inputs := {}, read := {} } _ :=
    (Steps.refl _).tail ⟨rfl, .change (.metaRouter [] [] (.create Xds.canary)) rfl Bytes.stores_canary⟩
  exact ⟨_, hrun, rfl, @gated_never_crash _ _ gatedUsers Bytes.gate (fun _ _ hc => hc) { inputs := {}, read := {} } _
    rfl hempty 1 hrun⟩

end Aeraki.Proof.Webhook
