import Aeraki.Impl.Plugin.Dubbo
import Aeraki.Proof.Dubbo.Build
import Aeraki.Proof.EnvoyFilter.NetworkFilter

/-!
# Authorization of inbound Dubbo traffic

The inbound EnvoyFilters of a Dubbo service and the RBAC filters they carry.
`builder.New` takes a failed list of the namespace's policies for an empty one,
so the generated proxy then has the router filter only (`failed_list_opens`):
`guarded_iff` states exactly when an inbound EnvoyFilter carries the RBAC filters
of the stored policies.
-/

namespace Aeraki.Proof.Dubbo

open Aeraki.Impl Aeraki.Impl.Dubbo Aeraki.Proof.EnvoyFilter Go

/-- The policies of an action in the namespace. -/
def inForce (policies : List DubboAuthorizationPolicy) (ns : String) (action : PolicyAction) :
    List DubboAuthorizationPolicy :=
  (policies.filter (inNamespace ns ·.namespace_)).filter (·.action = action)

/-- Among the filters is the RBAC filter of the policies, if there are any. -/
def Carries (td : TrustDomainBundle) (action : RbacAction) (policies : List DubboAuthorizationPolicy)
    (filters : List DubboFilter) : Prop :=
  policies ≠ [] → ∃ rbac, build policies td action = .ok (some rbac) ∧ rbac.action = action ∧
    createDubboRBACFilter rbac ∈ filters

/-- The EnvoyFilter patches the inbound listener. -/
def Inbound (w : EnvoyFilterWrapper) : Prop :=
  ∃ patch ∈ w.envoyfilter.configPatches, ∃ port filter,
    patch.match_ = some (.listener "virtualInbound" port filter)

/-- The patches of the EnvoyFilter are Dubbo proxies with the RBAC filters of the
namespace's policies before the router filter. -/
def Guarded (td : TrustDomainBundle) (policies : List DubboAuthorizationPolicy) (ns : String)
    (w : EnvoyFilterWrapper) : Prop :=
  ∀ patch ∈ w.envoyfilter.configPatches, ∃ name typeUrl proxy filters,
    patch.value = some (.networkFilter name typeUrl (.dubbo proxy)) ∧
    proxy.dubboFilters = filters ++ [routerFilter] ∧
    Carries td .DENY (inForce policies ns .DENY) filters ∧ Carries td .ALLOW (inForce policies ns .ALLOW) filters

/-- Every inbound EnvoyFilter that `Generate` returns is guarded by the policies
stored in the service's namespace. -/
def FailsClosed (td : TrustDomainBundle) (policies : List DubboAuthorizationPolicy) (o : Oracle)
    (context : EnvoyFilterContext) : Prop :=
  ∀ ws, generate td policies o context = .ok (.ok ws) → ∀ w ∈ ws, Inbound w →
    Guarded td policies context.serviceEntry.namespace_ w

/-! ## The inbound proxy -/

/-- No outbound listener has the name of the inbound one. -/
theorem outboundListenerName_ne (address : String) (port : Nat) :
    outboundListenerName address port ≠ "virtualInbound" := by
  intro h
  have hm : '_' ∈ (outboundListenerName address port).toList := by simp [outboundListenerName]
  rw [h] at hm
  exact absurd hm (by decide)

theorem not_inbound_outboundFilter (host address : String) (port : Nat) (operation : PatchOperation)
    (value : PatchValue) : ¬ Inbound (outboundFilter host address port operation value) := by
  rintro ⟨patch, hp, n, f, h⟩
  cases List.mem_singleton.mp hp
  exact outboundListenerName_ne address port (by injection h with h; injection h)

section

variable {td : TrustDomainBundle} {policies : List DubboAuthorizationPolicy} {o : Oracle}
  {context : EnvoyFilterContext} {ws : List EnvoyFilterWrapper}

/-- The outcome of listing the policies. -/
def listed (policies : List DubboAuthorizationPolicy) (o : Oracle) : Except String (List DubboAuthorizationPolicy) :=
  match o.callError ["DubboAuthorizationPolicies"] with
  | some err => .error err
  | none => .ok policies

/-- The one patch of an inbound EnvoyFilter carries the inbound proxy. -/
theorem inbound_patches (h : generate td policies o context = .ok (.ok ws)) {w : EnvoyFilterWrapper} (hw : w ∈ ws)
    (hin : Inbound w) : ∃ proxy, buildInboundProxy td (listed policies o) context = .ok proxy ∧
      ∃ patch name typeUrl, w.envoyfilter.configPatches = [patch] ∧
        patch.value = some (.networkFilter name typeUrl (.dubbo proxy)) := by
  obtain ⟨port, -, h⟩ := bind_eq_ok.mp h
  obtain ⟨outbound, -, h⟩ := bind_eq_ok.mp h
  obtain ⟨proxy, hproxy, h⟩ := bind_eq_ok.mp h
  obtain ⟨ws', hws, h⟩ := bind_eq_ok.mp h
  cases h
  refine ⟨proxy, hproxy, ?_⟩
  -- the proxy's stat name was read from the first host
  obtain ⟨_, -, h⟩ := bind_eq_ok.mp hproxy
  obtain ⟨_, -, h⟩ := bind_eq_ok.mp h
  obtain ⟨_, h, -⟩ := bind_eq_ok.mp h
  obtain ⟨host, hhost, -⟩ := bind_eq_ok.mp h
  obtain ⟨hosts, hhosts⟩ : ∃ hosts, context.serviceEntry.spec.hosts = host :: hosts := by
    rw [index_eq_ok] at hhost
    cases hl : context.serviceEntry.spec.hosts with
    | nil => rw [hl] at hhost; cases hhost
    | cons a as => rw [hl] at hhost; cases hhost; exact ⟨as, rfl⟩
  rcases mem_generateNetworkFilter hhosts port _ _ _ hws hw with ⟨_, address, -, -, rfl⟩ | ⟨_, ⟨rfl⟩, rfl⟩
  · exact (not_inbound_outboundFilter _ _ _ _ _ hin).elim
  · exact ⟨_, _, _, rfl, rfl⟩

theorem buildInboundProxy_filters {l : Except String (List DubboAuthorizationPolicy)} {proxy : DubboProxy}
    (h : buildInboundProxy td l context = .ok proxy) :
    ∃ filters, (Builder.new td context.serviceEntry.namespace_ l).buildDubboFilter = .ok filters ∧
      proxy.dubboFilters = filters ++ [routerFilter] := by
  obtain ⟨_, -, h⟩ := bind_eq_ok.mp h
  obtain ⟨filters, hf, h⟩ := bind_eq_ok.mp h
  obtain ⟨_, -, h⟩ := bind_eq_ok.mp h
  cases h
  exact ⟨filters, hf, rfl⟩

end

/-- A built filter is that of the policies. -/
theorem carries_of_build {td : TrustDomainBundle} {action : RbacAction} {policies : List DubboAuthorizationPolicy}
    {rbac : Option RBAC} {filters : List DubboFilter} (h : build policies td action = .ok rbac)
    (hf : (rbac.map createDubboRBACFilter).toList ⊆ filters) : Carries td action policies filters := by
  intro hne
  obtain ⟨-, -, -, hnone, haction, -⟩ := build_eq_ok.mp h
  cases rbac with
  | none => exact absurd (hnone.mp rfl) hne
  | some rbac => exact ⟨rbac, h, haction rbac rfl, hf (by simp)⟩

/-- When the policies are listed, their filters are built. -/
theorem buildDubboFilter_carries {td : TrustDomainBundle} {ns : String} {policies : List DubboAuthorizationPolicy}
    {filters : List DubboFilter} (h : (Builder.new td ns (.ok policies)).buildDubboFilter = .ok filters) :
    Carries td .DENY (inForce policies ns .DENY) filters ∧
      Carries td .ALLOW (inForce policies ns .ALLOW) filters := by
  obtain ⟨deny, hdeny, h⟩ := bind_eq_ok.mp h
  obtain ⟨allow, hallow, h⟩ := bind_eq_ok.mp h
  cases h
  exact ⟨carries_of_build hdeny (List.subset_append_left _ _), carries_of_build hallow (List.subset_append_right _ _)⟩

/-- An inbound EnvoyFilter is guarded exactly when the policies could be listed or
the namespace has no policy of either action. -/
theorem guarded_iff {td : TrustDomainBundle} {policies : List DubboAuthorizationPolicy} {o : Oracle}
    {context : EnvoyFilterContext} {ws : List EnvoyFilterWrapper} (h : generate td policies o context = .ok (.ok ws))
    {w : EnvoyFilterWrapper} (hw : w ∈ ws) (hin : Inbound w) :
    Guarded td policies context.serviceEntry.namespace_ w ↔
      o.callError ["DubboAuthorizationPolicies"] = none ∨
        ∀ action ∈ [.DENY, .ALLOW], inForce policies context.serviceEntry.namespace_ action = [] := by
  obtain ⟨proxy, hproxy, patch, name, typeUrl, hpatch, hvalue⟩ := inbound_patches h hw hin
  obtain ⟨filters, hfilters, hproxyFilters⟩ := buildInboundProxy_filters hproxy
  constructor
  · intro hguarded
    cases herr : o.callError ["DubboAuthorizationPolicies"] with
    | none => exact .inl rfl
    | some err =>
      refine .inr ?_
      obtain ⟨_, _, _, filters', hvalue', hfilters', hdeny, hallow⟩ :=
        hguarded patch (by rw [hpatch]; exact List.mem_cons_self)
      cases hvalue.symm.trans hvalue'
      -- without a list the proxy has the router filter only
      rw [listed, herr] at hfilters
      cases hfilters
      cases List.append_cancel_right (hfilters'.symm.trans hproxyFilters)
      simp only [List.forall_mem_cons]
      refine ⟨?_, ?_, by simp⟩
      · by_contra hne
        obtain ⟨rbac, -, -, hm⟩ := hdeny hne
        cases hm
      · by_contra hne
        obtain ⟨rbac, -, -, hm⟩ := hallow hne
        cases hm
  · intro hsafe patch' hp
    rw [hpatch] at hp
    cases List.mem_singleton.mp hp
    refine ⟨name, typeUrl, proxy, filters, hvalue, hproxyFilters, ?_⟩
    rcases hsafe with hok | hnone
    · rw [listed, hok] at hfilters
      exact buildDubboFilter_carries hfilters
    · exact ⟨fun hne => absurd (hnone _ (by simp)) hne, fun hne => absurd (hnone _ (by simp)) hne⟩

/-- A service with one port and one workload. -/
def accounts : EnvoyFilterContext where
  meshConfig := {}
  serviceEntry :=
    { name := "accounts", namespace_ := "bank"
      spec := { hosts := ["accounts.bank"], ports := [⟨20880, "tcp-dubbo"⟩] } }

/-- A policy that denies all calls. -/
def denyAll : DubboAuthorizationPolicy where
  namespace_ := "bank"
  name := "deny-all"
  action := .DENY
  rules := [some {}]

/-- If the policy is listed, the inbound EnvoyFilter carries it. -/
theorem listed_guards : ∃ w, generate ⟨id⟩ [denyAll] {} accounts = .ok (.ok [w]) ∧ Inbound w ∧
    Guarded ⟨id⟩ [denyAll] "bank" w := by
  obtain ⟨w, hgen, hin⟩ : ∃ w, generate ⟨id⟩ [denyAll] {} accounts = .ok (.ok [w]) ∧ Inbound w :=
    ⟨_, rfl, _, List.mem_cons_self, _, _, rfl⟩
  exact ⟨w, hgen, hin, (guarded_iff hgen List.mem_cons_self hin).mpr (.inl rfl)⟩

/-- The inbound EnvoyFilter that is generated when the policies cannot be listed. -/
def openFilter : EnvoyFilterWrapper :=
  inboundFilter "accounts.bank" 20880 .REPLACE
    (generateValue
      (.dubbo {
        statPrefix := "inbound|20880||"
        routeConfig := [{ name := "inbound|20880||", interface := "*", routes := [defaultRoute "inbound|20880||"] }]
        dubboFilters := [routerFilter] })
      "envoy.filters.network.dubbo_proxy"
      "type.googleapis.com/envoy.extensions.filters.network.dubbo_proxy.v3.DubboProxy")
    (inboundEnvoyFilterWorkloadSelector accounts.serviceEntry)

theorem failed_list_opens :
    ¬ FailsClosed ⟨id⟩ [denyAll] { callError := fun _ => some "etcdserver: request timed out" } accounts := by
  intro h
  have hgen : generate ⟨id⟩ [denyAll] { callError := fun _ => some "etcdserver: request timed out" } accounts =
      .ok (.ok [openFilter]) := by decide +kernel
  obtain ⟨_, _, proxy, filters, hv, hf, hdeny, -⟩ :=
    h [openFilter] hgen openFilter List.mem_cons_self ⟨_, List.mem_cons_self, _, _, rfl⟩ _ List.mem_cons_self
  cases hv
  cases List.append_cancel_right (show [] ++ [routerFilter] = filters ++ [routerFilter] from hf)
  obtain ⟨_, -, -, hm⟩ := hdeny (by decide)
  cases hm

end Aeraki.Proof.Dubbo
