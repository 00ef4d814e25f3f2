import Aeraki.Impl.Plugin.MetaProtocol
import Aeraki.Proof.Webhook.Admission

/-!
# Rate limits of accepted MetaRouters

`buildInboundFilters` reads the rate limits of a MetaRouter through pointers
that `ValidateMetaRouter` has checked, but for the request timeout of the
global rate limit: for an accepted MetaRouter it builds the filters asked for
if and only if that one is set (`buildInboundFilters_safe_iff`).
-/

namespace Aeraki.Proof.MetaProtocol

open Aeraki.Impl Aeraki.Impl.MetaProtocol
open Aeraki.Proof.Webhook (Accepts IsSetBucket lenient)

theorem crd2tokenBucket_set {bucket : TokenBucket} (h : IsSetBucket bucket) :
    ∃ b, crd2tokenBucket bucket = .ok b := by
  obtain ⟨interval, hi⟩ := Option.isSome_iff_exists.mp h.1
  obtain ⟨tokens, ht⟩ := Option.isSome_iff_exists.mp h.2
  rw [crd2tokenBucket, hi, ht]
  exact ⟨_, rfl⟩

theorem crd2Conditions_set {o : Oracle} {conditions : List (Option LocalRateLimitCondition)}
    (h : ∀ c ∈ conditions, ∃ condition bucket, c = some condition ∧ condition.tokenBucket = some bucket ∧
      IsSetBucket bucket) : ∃ cs, crd2Conditions o conditions = .ok cs := by
  have hall : ∀ c ∈ conditions.zipIdx, ∃ r, crd2Condition (o.at (Go.itoa c.2)) c.1 = .ok r := fun c hc => by
    obtain ⟨condition, bucket, hc, hb, hset⟩ := h c.1 (List.fst_mem_of_mem_zipIdx hc)
    obtain ⟨b, hb'⟩ := crd2tokenBucket_set hset
    rw [hc, crd2Condition, Go.deref_some]
    simp only [bind, Except.bind, hb, hb']
    exact ⟨_, rfl⟩
  obtain ⟨rs, hrs⟩ := Go.mapM_ok hall
  exact ⟨rs.reduceOption, by rw [crd2Conditions, hrs]; rfl⟩

/-- The local rate limit of an accepted MetaRouter is a filter. -/
theorem appendLocalRateLimitFilter_accepted {lib : Webhook.Libraries} {o : Oracle} {metaRouter : MetaRouter}
    (h : Accepts lib o metaRouter) {limit : LocalRateLimit} (hl : metaRouter.localRateLimit = some limit)
    (o' : Oracle) (filters : List MetaProtocolFilter) :
    ∃ config, appendLocalRateLimitFilter o' metaRouter limit filters = .ok (.ok (filters ++
      [{ name := "aeraki.meta_protocol.filters.local_ratelimit", config := config }])) := by
  obtain ⟨hne, hbucket, hconditions⟩ := h.localRateLimit hl
  obtain ⟨host, hhosts⟩ := h.hosts
  obtain ⟨cs, hcs⟩ := crd2Conditions_set (o := o') hconditions
  have hb : ∃ b, limit.tokenBucket.mapM crd2tokenBucket = .ok b := by
    cases hb : limit.tokenBucket with
    | none => exact ⟨none, rfl⟩
    | some bucket =>
      obtain ⟨b, hb'⟩ := crd2tokenBucket_set (hbucket bucket hb)
      exact ⟨some b, by rw [Option.mapM_some, hb']; rfl⟩
  obtain ⟨b, hb⟩ := hb
  have hcond : (limit.tokenBucket.isNone && limit.conditions.isEmpty) = false := by
    by_contra hc
    exact hne (by simpa using hc)
  rw [appendLocalRateLimitFilter, hcond, hhosts, hb, hcs]
  exact ⟨_, rfl⟩

/-- The global rate limit of an accepted MetaRouter is a filter if its request
timeout is set; otherwise reading it panics. -/
theorem appendGlobalRateLimitFilter_accepted {lib : Webhook.Libraries} {o : Oracle} {metaRouter : MetaRouter}
    (h : Accepts lib o metaRouter) {limit : GlobalRateLimit} (hl : metaRouter.globalRateLimit = some limit)
    (o' : Oracle) (filters : List MetaProtocolFilter) :
    match limit.requestTimeout with
    | some _ => ∃ config, appendGlobalRateLimitFilter o' limit filters = .ok (.ok (filters ++
        [{ name := "aeraki.meta_protocol.filters.ratelimit", config := config }]))
    | none => appendGlobalRateLimitFilter o' limit filters = .error .nilDereference := by
  obtain ⟨descriptors, hne, hds⟩ := h.globalRateLimit hl
  have hread : limit.descriptors.mapM Go.deref = .ok descriptors := by
    rw [hds]; exact Go.mapM_of_inverse (g := Go.deref) (fun _ => rfl) descriptors
  have hempty : limit.descriptors.isEmpty = false := by
    rw [hds, List.isEmpty_map]
    simpa using hne
  unfold appendGlobalRateLimitFilter
  rw [hempty, hread]
  cases limit.requestTimeout with
  | none => rfl
  | some t => exact ⟨_, rfl⟩

/-- The filters that a MetaRouter asks for. -/
def expectedFilters (metaRouter : MetaRouter) : List String :=
  (if metaRouter.localRateLimit.isSome then ["aeraki.meta_protocol.filters.local_ratelimit"] else []) ++
    (if metaRouter.globalRateLimit.isSome then ["aeraki.meta_protocol.filters.ratelimit"] else []) ++
    ["aeraki.meta_protocol.filters.metadata_exchange", "aeraki.meta_protocol.filters.istio_stats",
     "aeraki.meta_protocol.filters.router"]

/-- After the local rate limit's filter, if there is one, `buildInboundFilters`
appends the global one's and the common filters. -/
theorem buildInboundFilters_accepted {lib : Webhook.Libraries} {o : Oracle} {metaRouter : MetaRouter}
    (h : Accepts lib o metaRouter) (o' : Oracle) (host : String) : ∃ fs : List MetaProtocolFilter,
      (fs.map (·.name) =
        if metaRouter.localRateLimit.isSome then ["aeraki.meta_protocol.filters.local_ratelimit"] else []) ∧
      buildInboundFilters o' (some metaRouter) host =
        match metaRouter.globalRateLimit with
        | some limit => do
          match ← appendGlobalRateLimitFilter (o'.at "global") limit fs with
          | .error err => return .error err
          | .ok filters => return .ok (appendCommonFilters filters host)
        | none => .ok (.ok (appendCommonFilters fs host)) := by
  unfold buildInboundFilters
  dsimp only
  cases hl : metaRouter.localRateLimit with
  | none =>
    refine ⟨[], rfl, ?_⟩
    cases metaRouter.globalRateLimit <;> rfl
  | some limit =>
    obtain ⟨config, hc⟩ := appendLocalRateLimitFilter_accepted h hl (o'.at "local") []
    refine ⟨[{ name := "aeraki.meta_protocol.filters.local_ratelimit", config := config }], rfl, ?_⟩
    dsimp only
    rw [hc]
    cases metaRouter.globalRateLimit <;> rfl

/-- For an accepted MetaRouter the filters asked for are built, without a panic
and without an error, if and only if the request timeout of its global rate
limit is set. -/
theorem buildInboundFilters_safe_iff {lib : Webhook.Libraries} {o : Oracle} {metaRouter : MetaRouter}
    (h : Accepts lib o metaRouter) (o' : Oracle) (host : String) :
    (∃ filters, buildInboundFilters o' (some metaRouter) host = .ok (.ok filters) ∧
      filters.map (·.name) = expectedFilters metaRouter) ↔
    ∀ limit ∈ metaRouter.globalRateLimit, limit.requestTimeout.isSome = true := by
  obtain ⟨fs, hnames, hbuild⟩ := buildInboundFilters_accepted h o' host
  rw [hbuild]
  unfold expectedFilters
  rw [← hnames]
  cases hg : metaRouter.globalRateLimit with
  | none => exact ⟨fun _ _ h => (nomatch h), fun _ => ⟨_, rfl, by simp [appendCommonFilters]⟩⟩
  | some limit =>
    have hglobal := appendGlobalRateLimitFilter_accepted h hg (o'.at "global") fs
    dsimp only
    simp only [Option.mem_def, Option.some.injEq, forall_eq']
    cases ht : limit.requestTimeout with
    | none =>
      rw [ht] at hglobal
      dsimp only at hglobal
      rw [hglobal]
      exact ⟨fun ⟨_, h, _⟩ => (nomatch h), fun h => (nomatch h)⟩
    | some t =>
      rw [ht] at hglobal
      obtain ⟨config, hc⟩ := hglobal
      rw [hc]
      exact ⟨fun _ => rfl, fun _ => ⟨_, rfl, by simp [appendCommonFilters]⟩⟩

/-- A MetaRouter that limits the rate globally. -/
def limiting (requestTimeout : Option Duration) : MetaRouter where
  name := "demo"
  namespace_ := "ns"
  hosts := ["demo.ns"]
  globalRateLimit := some {
    domain := "d", rateLimitService := "outbound|8081||rls.ns", requestTimeout := requestTimeout
    descriptors := [some ⟨"method", "method"⟩] }

theorem limiting_accepted (requestTimeout : Option Duration) : Accepts lenient {} (limiting requestTimeout) :=
  ⟨[], rfl⟩

theorem limiting_built : ∃ filters,
    buildInboundFilters {} (some (limiting (some ⟨1, 0⟩))) "demo.ns" = .ok (.ok filters) ∧
      filters.map (·.name) = expectedFilters (limiting (some ⟨1, 0⟩)) :=
  (buildInboundFilters_safe_iff (limiting_accepted (some ⟨1, 0⟩)) {} "demo.ns").mpr (by decide +kernel)

/-- Without a request timeout it is accepted, and reading the timeout panics. -/
theorem limiting_panics : Accepts lenient {} (limiting none) ∧
    buildInboundFilters {} (some (limiting none)) "demo.ns" = .error .nilDereference :=
  ⟨limiting_accepted none, by decide +kernel⟩

end Aeraki.Proof.MetaProtocol
