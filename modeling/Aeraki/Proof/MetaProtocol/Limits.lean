import Aeraki.Proof.Dubbo.Authorization
import Aeraki.Proof.MetaProtocol.RateLimit
import Aeraki.Proof.MetaProtocol.Served
import Aeraki.Proof.Xds.Routing

/-!
# Rate limits keep their meaning

What limits a request (`Limits`): the bucket of all requests, the buckets of the
conditions that the request satisfies, and what is asked of the rate limit service.
The filters of an inbound MetaProtocol proxy limit each request as the MetaRouter
does (`limits_preserved`), in whatever order Go ranges over the attributes.
-/

namespace Aeraki.Proof.MetaProtocol

open Aeraki.Impl Aeraki.Impl.MetaProtocol
open Aeraki.Impl.Webhook (validateTokenBucket wrapError)
open Aeraki.Proof.Webhook (Accepts accepts_iff)
open Aeraki.Proof.Xds (acceptsMatch acceptsHeader acceptsHeader_metaMatch2HttpHeaderMatch)
open Aeraki.Proof.Dubbo (Inbound)
open Aeraki.Proof.EnvoyFilter
open Go (bind_eq_ok)

/-! ## What limits a request -/

/-- A token bucket. -/
structure Bucket where
  maxTokens : UInt32
  tokensPerFill : UInt32
  fillInterval : Duration
deriving DecidableEq

/-- What is asked of the rate limit service. -/
structure Query where
  service : String
  domain : String
  timeout : Duration
  denyOnFail : Bool
  descriptors : List RateLimitDescriptor
deriving DecidableEq

/-- The bucket of all requests, the buckets of the conditions that the request
satisfies, in order, and the query. -/
structure Limits where
  bucket : Option Bucket := none
  conditions : List Bucket := []
  query : Option Query := none
deriving DecidableEq

/-- Both limit. -/
def Limits.and (l l' : Limits) : Limits := ⟨l.bucket.or l'.bucket, l.conditions ++ l'.conditions, l.query.or l'.query⟩

section

variable (regex : String → String → Bool) (request : GoMap String String)

/-- A bucket of a MetaRouter, if its fields are set. -/
def bucketOf (b : TokenBucket) : Option Bucket :=
  b.tokensPerFill.bind fun tokensPerFill => b.fillInterval.map fun fillInterval =>
    ⟨b.maxTokens, tokensPerFill, fillInterval⟩

/-- The query of a MetaRouter, if its timeout is set. -/
def queryOf (l : GlobalRateLimit) : Option Query :=
  l.requestTimeout.map fun timeout =>
    ⟨l.rateLimitService, l.domain, timeout, l.denyOnFail, l.descriptors.reduceOption⟩

/-- How a local rate limit limits the request. -/
def localLimits (l : LocalRateLimit) : Limits where
  bucket := l.tokenBucket.bind bucketOf
  conditions := l.conditions.reduceOption.filterMap fun c =>
    if acceptsMatch regex c.match_ request then c.tokenBucket.bind bucketOf else none

/-- How a global rate limit limits the request. -/
def globalLimits (l : GlobalRateLimit) : Limits where
  query := if acceptsMatch regex l.match_ request then queryOf l else none

/-- How a MetaRouter limits the request. -/
def metaRouterLimits (m : MetaRouter) : Limits :=
  ((m.localRateLimit.map (localLimits regex request)).getD {}).and
    ((m.globalRateLimit.map (globalLimits regex request)).getD {})

/-- Envoy's bucket: it adds one token by default. -/
def envoyBucket (b : EnvoyTokenBucket) : Bucket := ⟨b.maxTokens, b.tokensPerFill.getD 1, b.fillInterval⟩

/-- Whether the match accepts the request. -/
def acceptsMetadata (m : MetaProtocolRouteMatch) : Bool := m.metadata.all (acceptsHeader regex · request)

/-- How a filter limits the request. -/
def configLimits : MetaProtocolFilterConfig → Limits
  | .istioStats _ => {}
  | .localRateLimit c =>
    { bucket := c.tokenBucket.map envoyBucket
      conditions := (c.conditions.filter fun c => acceptsMetadata regex request c.match_).map (envoyBucket ·.tokenBucket) }
  | .globalRateLimit c =>
    { query :=
        if acceptsMetadata regex request c.match_ then
          some ⟨c.rateLimitService, c.domain, c.timeout, c.failureModeDeny, c.descriptors⟩
        else none }

/-- How the filters limit the request. -/
def filtersLimits : List MetaProtocolFilter → Limits
  | [] => {}
  | f :: filters => ((f.config.map (configLimits regex request)).getD {}).and (filtersLimits filters)

end

/-! ## Preservation -/

section

variable {regex : String → String → Bool} {request : GoMap String String}

theorem Limits.none_and (l : Limits) : Limits.and {} l = l := by
  rcases l with ⟨bucket, conditions, query⟩
  rfl

theorem Limits.and_none (l : Limits) : l.and {} = l := by
  rcases l with ⟨_ | bucket, conditions, _ | query⟩ <;> simp [Limits.and]

theorem Limits.and_assoc (l l' l'' : Limits) : (l.and l').and l'' = l.and (l'.and l'') := by
  simp only [Limits.and, Option.or_assoc, List.append_assoc]

theorem filtersLimits_append (fs gs : List MetaProtocolFilter) :
    filtersLimits regex request (fs ++ gs) = (filtersLimits regex request fs).and (filtersLimits regex request gs) := by
  induction fs with
  | nil => exact (Limits.none_and _).symm
  | cons f fs ih => rw [List.cons_append, filtersLimits, filtersLimits, ih, Limits.and_assoc]

/-- The filters that every proxy has do not limit. -/
theorem filtersLimits_common (fs : List MetaProtocolFilter) (host : String) :
    filtersLimits regex request (appendCommonFilters fs host) = filtersLimits regex request fs := by
  rw [appendCommonFilters, filtersLimits_append]
  exact Limits.and_none _

/-- A bucket that is accepted adds tokens. -/
def Fills (b : TokenBucket) : Prop := b.tokensPerFill ≠ some 0

theorem crd2tokenBucket_preserves {b : TokenBucket} {e : EnvoyTokenBucket} (h : crd2tokenBucket b = .ok e)
    (hfills : Fills b) : bucketOf b = some (envoyBucket e) := by
  obtain ⟨interval, hi, h⟩ := bind_eq_ok.mp h
  obtain ⟨tokens, ht, h⟩ := bind_eq_ok.mp h
  cases h
  have hi := Go.deref_eq_ok.mp hi
  have ht := Go.deref_eq_ok.mp ht
  have hne : tokens ≠ 0 := fun hzero => hfills (hzero ▸ ht)
  simp [bucketOf, envoyBucket, hi, ht, hne]

/-- What a condition counts, before and after. -/
theorem crd2Condition_preserves {o : Oracle} {c : Option LocalRateLimitCondition}
    {e : Option EnvoyLocalRateLimitCondition} (h : crd2Condition o c = .ok e)
    (hfills : ∀ condition ∈ c, ∀ b ∈ condition.tokenBucket, Fills b) :
    (c.bind fun c => if acceptsMatch regex c.match_ request then c.tokenBucket.bind bucketOf else none) =
      (e.filter fun e => acceptsMetadata regex request e.match_).map (envoyBucket ·.tokenBucket) := by
  obtain ⟨condition, hcondition, hbuilt⟩ := bind_eq_ok.mp h
  cases Go.deref_eq_ok.mp hcondition
  cases hbucket : condition.tokenBucket with
  | none =>
    rw [hbucket] at hbuilt
    cases hbuilt
    simp [hbucket]
  | some b =>
    rw [hbucket] at hbuilt
    obtain ⟨bucket, hb, hbuilt⟩ := bind_eq_ok.mp hbuilt
    cases hbuilt
    have hpreserves := crd2tokenBucket_preserves hb (hfills condition rfl b hbucket)
    have haccepts : acceptsMetadata regex request ⟨Xds.metaMatch2HttpHeaderMatch o condition.match_⟩ =
        acceptsMatch regex condition.match_ request := acceptsHeader_metaMatch2HttpHeaderMatch o _ request
    simp only [Option.bind_some, hbucket, hpreserves, Option.filter_some, haccepts]
    cases acceptsMatch regex condition.match_ request <;> rfl

/-- What the filters keep of a list of conditions is what they keep of each. -/
theorem map_filter_reduceOption (rs : List (Option EnvoyLocalRateLimitCondition)) :
    (rs.reduceOption.filter fun e => acceptsMetadata regex request e.match_).map (envoyBucket ·.tokenBucket) =
      rs.filterMap fun r =>
        (r.filter fun e => acceptsMetadata regex request e.match_).map (envoyBucket ·.tokenBucket) := by
  rw [List.reduceOption, List.filter_filterMap, List.map_filterMap]
  rfl

theorem crd2Conditions_preserves {o : Oracle} {conditions : List (Option LocalRateLimitCondition)}
    {es : List EnvoyLocalRateLimitCondition} (h : crd2Conditions o conditions = .ok es)
    (hfills : ∀ c ∈ conditions, ∀ condition ∈ c, ∀ b ∈ condition.tokenBucket, Fills b) :
    (conditions.reduceOption.filterMap fun c =>
        if acceptsMatch regex c.match_ request then c.tokenBucket.bind bucketOf else none) =
      (es.filter fun e => acceptsMetadata regex request e.match_).map (envoyBucket ·.tokenBucket) := by
  obtain ⟨rs, hrs, hes⟩ := bind_eq_ok.mp h
  cases hes
  have hall := Go.mapM_ok_forall hrs
  have hfst : conditions = conditions.zipIdx.map Prod.fst := (List.zipIdx_map_fst ..).symm
  rw [map_filter_reduceOption, List.reduceOption, List.filterMap_filterMap]
  rw [hfst] at hfills ⊢
  clear h hrs hfst
  generalize conditions.zipIdx = cs at hall hfills ⊢
  -- Each condition keeps its position, and with it its order of attributes.
  induction hall with
  | nil => rfl
  | @cons c r cs rs hc hcs ih =>
    obtain ⟨hhead, htail⟩ := List.forall_mem_cons.mp hfills
    have hpreserves := @crd2Condition_preserves regex request _ _ _ hc hhead
    simp only [List.map_cons, List.filterMap_cons, id_eq] at ih ⊢
    rw [hpreserves, ih htail]

/-- A MetaRouter whose buckets add tokens. -/
def AllFill (limit : LocalRateLimit) : Prop :=
  (∀ b ∈ limit.tokenBucket, Fills b) ∧ ∀ c ∈ limit.conditions, ∀ condition ∈ c, ∀ b ∈ condition.tokenBucket, Fills b

/-- The filter that is appended limits as the local rate limit does. -/
theorem appendLocalRateLimitFilter_preserves {o : Oracle} {metaRouter : MetaRouter} {limit : LocalRateLimit}
    {fs fs' : List MetaProtocolFilter} (h : appendLocalRateLimitFilter o metaRouter limit fs = .ok (.ok fs'))
    (hfill : AllFill limit) :
    filtersLimits regex request fs' = (filtersLimits regex request fs).and (localLimits regex request limit) := by
  unfold appendLocalRateLimitFilter at h
  split at h
  · cases h
  · obtain ⟨host, -, h⟩ := bind_eq_ok.mp h
    obtain ⟨bucket, hbucket, h⟩ := bind_eq_ok.mp h
    obtain ⟨conditions, hconditions, h⟩ := bind_eq_ok.mp h
    cases h
    have hb : limit.tokenBucket.bind bucketOf = bucket.map envoyBucket := by
      cases hl : limit.tokenBucket with
      | none =>
        rw [hl] at hbucket
        cases hbucket
        rfl
      | some b =>
        rw [hl, Option.mapM_some] at hbucket
        obtain ⟨e, he, hbucket⟩ := bind_eq_ok.mp hbucket
        cases hbucket
        exact crd2tokenBucket_preserves he (hfill.1 b hl)
    rw [filtersLimits_append, localLimits, hb, crd2Conditions_preserves hconditions hfill.2]
    exact congrArg _ (Limits.and_none _)

/-- Descriptors that were read through their pointers are all set. -/
theorem reduceOption_of_mapM_deref {xs : List (Option RateLimitDescriptor)} {ys : List RateLimitDescriptor}
    (h : xs.mapM Go.deref = .ok ys) : xs.reduceOption = ys := by
  have hall := Go.mapM_ok_forall h
  clear h
  induction hall with
  | nil => rfl
  | cons hx _ ih => rw [Go.deref_eq_ok.mp hx, List.reduceOption_cons_of_some, ih]

theorem appendGlobalRateLimitFilter_preserves {o : Oracle} {limit : GlobalRateLimit} {fs fs' : List MetaProtocolFilter}
    (h : appendGlobalRateLimitFilter o limit fs = .ok (.ok fs')) :
    filtersLimits regex request fs' = (filtersLimits regex request fs).and (globalLimits regex request limit) := by
  unfold appendGlobalRateLimitFilter at h
  split at h
  · cases h
  · obtain ⟨descriptors, hdescriptors, h⟩ := bind_eq_ok.mp h
    obtain ⟨timeout, htimeout, h⟩ := bind_eq_ok.mp h
    cases h
    have hquery : queryOf limit =
        some ⟨limit.rateLimitService, limit.domain, timeout, limit.denyOnFail, descriptors⟩ := by
      rw [queryOf, Go.deref_eq_ok.mp htimeout, reduceOption_of_mapM_deref hdescriptors]
      rfl
    have haccepts : acceptsMetadata regex request ⟨Xds.metaMatch2HttpHeaderMatch o limit.match_⟩ =
        acceptsMatch regex limit.match_ request := acceptsHeader_metaMatch2HttpHeaderMatch o _ request
    rw [filtersLimits_append, globalLimits, hquery, ← haccepts]
    exact congrArg _ (Limits.and_none _)

/-- The filters of an inbound proxy: those of the rate limits that are set, in
order, and the common ones. -/
theorem buildInboundFilters_ok {o : Oracle} {metaRouter : MetaRouter} {host : String} {fs : List MetaProtocolFilter}
    (h : buildInboundFilters o (some metaRouter) host = .ok (.ok fs)) : ∃ locals globals,
      (metaRouter.localRateLimit = none ∧ locals = [] ∨ ∃ limit, metaRouter.localRateLimit = some limit ∧
        appendLocalRateLimitFilter (o.at "local") metaRouter limit [] = .ok (.ok locals)) ∧
      (metaRouter.globalRateLimit = none ∧ globals = locals ∨ ∃ limit, metaRouter.globalRateLimit = some limit ∧
        appendGlobalRateLimitFilter (o.at "global") limit locals = .ok (.ok globals)) ∧
      fs = appendCommonFilters globals host := by
  unfold buildInboundFilters at h
  dsimp only at h
  cases hl : metaRouter.localRateLimit with
  | none =>
    rw [hl] at h
    obtain ⟨_, ⟨rfl⟩, h⟩ := bind_eq_ok.mp h
    cases hg : metaRouter.globalRateLimit with
    | none =>
      rw [hg] at h
      cases h
      exact ⟨[], [], .inl ⟨rfl, rfl⟩, .inl ⟨rfl, rfl⟩, rfl⟩
    | some limit =>
      rw [hg] at h
      obtain ⟨r, hr, h⟩ := bind_eq_ok.mp h
      cases r with
      | error err => cases h
      | ok globals =>
        cases h
        exact ⟨[], globals, .inl ⟨rfl, rfl⟩, .inr ⟨limit, rfl, hr⟩, rfl⟩
  | some limit =>
    rw [hl] at h
    obtain ⟨r, hr, h⟩ := bind_eq_ok.mp h
    cases r with
    | error err => cases h
    | ok locals =>
      cases hg : metaRouter.globalRateLimit with
      | none =>
        rw [hg] at h
        cases h
        exact ⟨locals, locals, .inr ⟨limit, rfl, hr⟩, .inl ⟨rfl, rfl⟩, rfl⟩
      | some limit' =>
        rw [hg] at h
        obtain ⟨r', hr', h⟩ := bind_eq_ok.mp h
        cases r' with
        | error err => cases h
        | ok globals =>
          cases h
          exact ⟨locals, globals, .inr ⟨limit, rfl, hr⟩, .inr ⟨limit', rfl, hr'⟩, rfl⟩

/-- The filters of an inbound proxy limit as the MetaRouter does. -/
theorem buildInboundFilters_preserves {o : Oracle} {metaRouter : MetaRouter} {host : String}
    {fs : List MetaProtocolFilter} (h : buildInboundFilters o (some metaRouter) host = .ok (.ok fs))
    (hfill : ∀ limit ∈ metaRouter.localRateLimit, AllFill limit) :
    filtersLimits regex request fs = metaRouterLimits regex request metaRouter := by
  obtain ⟨locals, globals, hlocals, hglobals, rfl⟩ := buildInboundFilters_ok h
  rw [filtersLimits_common, metaRouterLimits]
  have hl : filtersLimits regex request locals =
      (metaRouter.localRateLimit.map (localLimits regex request)).getD {} := by
    rcases hlocals with ⟨hl, rfl⟩ | ⟨limit, hl, hlocals⟩
    · rw [hl]
      rfl
    · rw [hl, appendLocalRateLimitFilter_preserves hlocals (hfill limit hl)]
      exact Limits.none_and _
  rcases hglobals with ⟨hg, rfl⟩ | ⟨limit, hg, hglobals⟩
  · rw [hg, hl]
    exact (Limits.and_none _).symm
  · rw [hg, appendGlobalRateLimitFilter_preserves hglobals, hl]
    rfl

/-! ## The buckets of accepted MetaRouters -/

theorem fills_of_validateTokenBucket {b : TokenBucket} (h : validateTokenBucket (some b) = []) : Fills b := by
  intro hzero
  simp [validateTokenBucket, hzero] at h

/-- The local rate limit of an accepted MetaRouter adds tokens to its buckets. -/
theorem allFill_of_accepts {lib : Webhook.Libraries} {o : Oracle} {metaRouter : MetaRouter}
    (h : Accepts lib o metaRouter) {limit : LocalRateLimit} (hl : metaRouter.localRateLimit = some limit) :
    AllFill limit := by
  obtain ⟨-, -, v, -, -, hv, -, -, -, -, -, herr⟩ := accepts_iff.mp h
  rw [hl] at hv
  obtain ⟨errss, hconditions, hv⟩ := bind_eq_ok.mp hv
  cases hv
  simp only [wrapError, List.append_eq_nil_iff, List.flatten_eq_nil_iff] at herr
  obtain ⟨⟨-, hbucket⟩, herrs⟩ := herr
  refine ⟨fun b hb => fills_of_validateTokenBucket (hb ▸ hbucket), ?_⟩
  rintro c hc condition rfl b hb
  obtain ⟨i, hi⟩ := List.mem_iff_getElem?.mp hc
  obtain ⟨errs, herrs', hc⟩ := Go.mapM_ok_mem hconditions (List.mk_mem_zipIdx_iff_getElem?.mpr hi)
  have hnil := (Except.ok.inj hc).trans (herrs errs herrs')
  exact fills_of_validateTokenBucket (hb ▸ (List.append_eq_nil_iff.mp hnil).2)

/-! ## The proxies of a service -/

theorem configAccessLog_filters (mesh : MeshConfig) (proxy : MetaProtocolProxy) :
    (configAccessLog mesh proxy).metaProtocolFilters = proxy.metaProtocolFilters := by
  unfold configAccessLog
  split <;> rfl

theorem configTracing_filters {mesh : MeshConfig} {proxy proxy' : MetaProtocolProxy}
    (h : configTracing mesh proxy = .ok proxy') : proxy'.metaProtocolFilters = proxy.metaProtocolFilters := by
  unfold configTracing at h
  split at h
  · obtain ⟨config, -, h⟩ := bind_eq_ok.mp h
    cases h
    rfl
  · cases h
    rfl

section

variable {codecs : Codecs} {o : Oracle} {context : EnvoyFilterContext} {port : ServicePort} {proxy : MetaProtocolProxy}

theorem buildOutboundProxy_filters (h : buildOutboundProxy codecs context port = .ok (.ok proxy)) :
    ∃ host, proxy.metaProtocolFilters = buildOutboundFilters host := by
  unfold buildOutboundProxy at h
  obtain ⟨r, -, h⟩ := bind_eq_ok.mp h
  split at h
  · cases h
  · obtain ⟨host, -, h⟩ := bind_eq_ok.mp h
    obtain ⟨proxy', htracing, h⟩ := bind_eq_ok.mp h
    cases h
    exact ⟨host, by rw [configTracing_filters htracing, configAccessLog_filters]⟩

theorem buildInboundProxy_filters (h : buildInboundProxy codecs o context port = .ok (.ok proxy)) :
    ∃ host hosts, context.serviceEntry.spec.hosts = host :: hosts ∧
      buildInboundFilters o context.metaRouter host = .ok (.ok proxy.metaProtocolFilters) := by
  unfold buildInboundProxy at h
  obtain ⟨route, -, h⟩ := bind_eq_ok.mp h
  obtain ⟨r, -, h⟩ := bind_eq_ok.mp h
  split at h
  · cases h
  · obtain ⟨host, hhost, h⟩ := bind_eq_ok.mp h
    obtain ⟨filters, hfilters, h⟩ := bind_eq_ok.mp h
    split at h
    · cases h
    · obtain ⟨proxy', htracing, h⟩ := bind_eq_ok.mp h
      cases h
      rw [configTracing_filters htracing, configAccessLog_filters]
      refine ⟨host, ?_⟩
      cases hl : context.serviceEntry.spec.hosts with
      | nil => rw [hl] at hhost; cases hhost
      | cons a as => rw [hl] at hhost; cases hhost; exact ⟨as, rfl, hfilters⟩

end

/-- How the proxy of a patch limits the request. -/
def patchLimits (regex : String → String → Bool) (request : GoMap String String) : PatchValue → Option Limits
  | .networkFilter _ _ (.metaProtocol proxy) => some (filtersLimits regex request proxy.metaProtocolFilters)
  | _ => none

/-- Each EnvoyFilter of a service has one patch. If its MetaRouter was accepted,
the proxy of an inbound one limits every request as the MetaRouter does, and that
of an outbound one does not limit. -/
theorem limits_preserved (regex : String → String → Bool) {codecs : Codecs} {o o' : Oracle}
    {context : EnvoyFilterContext} {lib : Webhook.Libraries} {ws : List EnvoyFilterWrapper}
    (h : generateSidecarEnvoyFilters codecs o context = .ok (.ok ws))
    (haccepts : ∀ metaRouter ∈ context.metaRouter, Accepts lib o' metaRouter) {w : EnvoyFilterWrapper} (hw : w ∈ ws) :
    ∃ patch value, w.envoyfilter.configPatches = [patch] ∧ patch.value = some value ∧ ∀ request,
      (Inbound w → patchLimits regex request value =
        some ((context.metaRouter.map (metaRouterLimits regex request)).getD {})) ∧
      (¬ Inbound w → patchLimits regex request value = some {}) := by
  obtain ⟨wss, rfl, hwss⟩ := generateSidecarEnvoyFilters_ok h
  obtain ⟨ws, hws, hw⟩ := List.mem_flatten.mp hw
  obtain ⟨port, -, hport⟩ := Go.exists_of_forall₂_right hwss hws
  obtain ⟨outboundProxy, inboundProxy, hout, hin, hws⟩ := generateSidecarPort_ok hport
  obtain ⟨host, hosts, hhosts, hfilters⟩ := buildInboundProxy_filters hin
  rcases mem_generateNetworkFilter hhosts port.1 _ _ _ hws hw with ⟨_, address, ⟨rfl⟩, -, rfl⟩ | ⟨_, ⟨rfl⟩, rfl⟩
  · refine ⟨_, _, rfl, rfl, fun request => ⟨fun hinbound => ?_, fun _ => ?_⟩⟩
    · exact (Dubbo.not_inbound_outboundFilter _ _ _ _ _ hinbound).elim
    · obtain ⟨host', hfs⟩ := buildOutboundProxy_filters hout
      simp only [generateValue, patchLimits, hfs, buildOutboundFilters, filtersLimits_common]
      rfl
  · refine ⟨_, _, rfl, rfl, fun request => ⟨fun _ => ?_, fun hout => ?_⟩⟩
    · simp only [generateValue, patchLimits, Option.some.injEq]
      cases hm : context.metaRouter with
      | none =>
        rw [hm] at hfilters
        rw [← Except.ok.inj (Except.ok.inj hfilters), filtersLimits_common]
        rfl
      | some metaRouter =>
        rw [hm] at hfilters
        exact buildInboundFilters_preserves hfilters fun limit hl => allFill_of_accepts (haccepts metaRouter hm) hl
    · exact (hout ⟨_, List.mem_singleton_self _, _, _, rfl⟩).elim

/-- A MetaRouter that limits all requests, and those of one user further. -/
def limited : MetaRouter where
  name := "demo"
  namespace_ := "ns"
  hosts := ["demo.ns"]
  localRateLimit := some {
    tokenBucket := some { maxTokens := 100, tokensPerFill := some 10, fillInterval := some ⟨1, 0⟩ }
    conditions := [some {
      match_ := some ⟨GoMap.writeAll ∅ [("user", some ⟨some (.exactMatch "jason")⟩)]⟩
      tokenBucket := some { maxTokens := 5, tokensPerFill := some 1, fillInterval := some ⟨1, 0⟩ } }] }
  globalRateLimit := some {
    domain := "d", rateLimitService := "outbound|8081||rls.ns", requestTimeout := some ⟨1, 0⟩
    descriptors := [some ⟨"method", "method"⟩] }

theorem limited_preserved : ∃ ws w patch value,
    generateSidecarEnvoyFilters builtinCodecs {}
      { meshConfig := {}, serviceEntry := dubboService, metaRouter := some limited } = .ok (.ok ws) ∧
    w ∈ ws ∧ Inbound w ∧ w.envoyfilter.configPatches = [patch] ∧ patch.value = some value ∧
    patchLimits (fun _ _ => false) (GoMap.writeAll ∅ [("user", "jason")]) value =
      some ⟨some ⟨100, 10, ⟨1, 0⟩⟩, [⟨5, 1, ⟨1, 0⟩⟩],
        some ⟨"outbound|8081||rls.ns", "d", ⟨1, 0⟩, false, [⟨"method", "method"⟩]⟩⟩ ∧
    patchLimits (fun _ _ => false) ∅ value =
      some ⟨some ⟨100, 10, ⟨1, 0⟩⟩, [],
        some ⟨"outbound|8081||rls.ns", "d", ⟨1, 0⟩, false, [⟨"method", "method"⟩]⟩⟩ := by
  have haccepts : ∀ metaRouter ∈ some limited, Accepts Webhook.lenient {} metaRouter := by
    rintro _ ⟨rfl⟩
    exact ⟨[], by decide +kernel⟩
  obtain ⟨ws, hws, w, hw, hin⟩ : ∃ ws, generateSidecarEnvoyFilters builtinCodecs {}
      { meshConfig := {}, serviceEntry := dubboService, metaRouter := some limited } = .ok (.ok ws) ∧
      ∃ w ∈ ws, Inbound w :=
    ⟨_, rfl, _, List.mem_cons_of_mem _ List.mem_cons_self, _, List.mem_singleton_self _, _, _, rfl⟩
  obtain ⟨patch, value, hpatch, hvalue, hlimits⟩ := limits_preserved (fun _ _ => false) hws haccepts hw
  refine ⟨ws, w, patch, value, hws, hw, hin, hpatch, hvalue, ?_, ?_⟩
  · rw [(hlimits _).1 hin]
    decide +kernel
  · rw [(hlimits _).1 hin]
    decide +kernel

end

end Aeraki.Proof.MetaProtocol
