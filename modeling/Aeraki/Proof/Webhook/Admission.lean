import Aeraki.Impl.Webhook.Validation

/-!
# What admission guarantees

If `ValidateMetaRouter` returns no error (`Accepts`), then each of its checks
has found none (`accepts_iff`), so the pointers that the checks look at are
set: those of the routes (`Accepts.route`), of the local rate limit
(`Accepts.localRateLimit`) and of the global one (`Accepts.globalRateLimit`). An
`exportTo` without errors has no duplicates (`exportTo_accepted`).
-/

namespace Aeraki.Proof.Webhook

open Aeraki.Impl Aeraki.Impl.Webhook

/-- `ValidateMetaRouter` returns no error. -/
def Accepts (lib : Libraries) (o : Oracle) (metaRouter : MetaRouter) : Prop :=
  ∃ warning, validateMetaRouter lib o metaRouter = .ok (warning, [])

/-- Libraries with which every name is valid. -/
def lenient : Libraries where
  regexpCompile _ := none
  visibilityValidate _ := none
  isDNS1123Label _ := true
  quote := id
  formatFloat _ := ""

theorem err_foldl_appendValidation : ∀ (vs : List Validation) (v : Validation),
    (vs.foldl appendValidation v).err = v.err ++ (vs.map (·.err)).flatten
  | [], v => by simp
  | nv :: vs, v => by
    rw [List.foldl_cons, err_foldl_appendValidation vs, appendValidation]
    simp

/-- No error is lost: there is none in the end if and only if no check found
one. -/
theorem err_eq_nil_iff {vs : List Validation} :
    (vs.foldl appendValidation {}).err = [] ↔ ∀ v ∈ vs, v.err = [] := by
  rw [err_foldl_appendValidation]
  simp

theorem accepts_iff {lib : Libraries} {o : Oracle} {metaRouter : MetaRouter} :
    Accepts lib o metaRouter ↔ ∃ routes globalRateLimit localRateLimit,
      metaRouter.routes.zipIdx.mapM (fun r => validateRoute lib (o.at (Go.itoa r.2)) r.1) = .ok routes ∧
      validateGlobalRateLimit lib (o.at "global") metaRouter.globalRateLimit = .ok globalRateLimit ∧
      validateLocalRateLimit lib (o.at "local") metaRouter.localRateLimit = .ok localRateLimit ∧
      validateHosts lib metaRouter.hosts = [] ∧
      ¬(metaRouter.routes = [] ∧ metaRouter.globalRateLimit.isNone = true ∧
        metaRouter.localRateLimit.isNone = true) ∧
      (∀ v ∈ routes, v.err = []) ∧ validateExportTo lib metaRouter.namespace_ metaRouter.exportTo = [] ∧
      globalRateLimit.err = [] ∧ localRateLimit.err = [] := by
  have hempty {P : Prop} [Decidable P] {e : String} : (if P then [e] else []) = [] ↔ ¬P := by
    split <;> simp_all
  constructor
  · rintro ⟨warning, h⟩
    obtain ⟨routes, hr, h⟩ := Go.bind_eq_ok.mp h
    obtain ⟨global_, hg, h⟩ := Go.bind_eq_ok.mp h
    obtain ⟨local_, hl, h⟩ := Go.bind_eq_ok.mp h
    have herr := err_eq_nil_iff.mp (congrArg Prod.snd (Except.ok.inj h))
    simp only [List.forall_mem_append, List.forall_mem_cons, wrapError, hempty] at herr
    obtain ⟨⟨⟨hhosts, hne, -⟩, hroutes⟩, hexport, -, hge, hle, -⟩ := herr
    exact ⟨routes, global_, local_, hr, hg, hl, hhosts, hne, hroutes, hexport, hge, hle⟩
  · rintro ⟨routes, global_, local_, hr, hg, hl, hhosts, hne, hroutes, hexport, hge, hle⟩
    unfold Accepts validateMetaRouter
    rw [hr, hg, hl]
    refine ⟨_, congrArg Except.ok (Prod.ext rfl (err_eq_nil_iff.mpr ?_))⟩
    simp only [List.forall_mem_append, List.forall_mem_cons, wrapError, wrapWarning, hempty]
    exact ⟨⟨⟨hhosts, hne, nofun⟩, hroutes⟩, hexport, trivial, hge, hle, nofun⟩

/-! ## Routes -/

/-- A route whose destinations and mutations are all set: they are `dsts`, with
their weights, `request` and `response`. -/
structure IsSet (route : MetaRoute) (dsts : List (Destination × UInt32)) (request response : List KeyValue) :
    Prop where
  destinations : route.route = dsts.map fun d => some ⟨some d.1, d.2⟩
  requestMutation : route.requestMutation = request.map some
  responseMutation : route.responseMutation = response.map some

/-- A loop that reads each element through its pointer returns only if they are
all set. -/
theorem mapM_deref_set {α β : Type} {f : α → Go.Comp β} : ∀ {xs : List (Option α)} {ys : List β},
    xs.mapM (fun x => do f (← Go.deref x)) = .ok ys → ∃ xs' : List α, xs = xs'.map some
  | [], _, _ => ⟨[], rfl⟩
  | x :: xs, _, h => by
    rw [List.mapM_cons] at h
    obtain ⟨y, hy, h⟩ := Go.bind_eq_ok.mp h
    obtain ⟨ys, hys, -⟩ := Go.bind_eq_ok.mp h
    obtain ⟨x', hx, -⟩ := Go.bind_eq_ok.mp hy
    obtain ⟨xs', rfl⟩ := mapM_deref_set hys
    exact ⟨x' :: xs', by rw [Go.deref_eq_ok.mp hx]; rfl⟩

theorem mutation_set {mutation : List (Option KeyValue)} {errs : Errors} (h : validateMutation mutation = .ok errs) :
    ∃ kvs : List KeyValue, mutation = kvs.map some := by
  obtain ⟨errss, h, -⟩ := Go.bind_eq_ok.mp h
  exact mapM_deref_set h

theorem destination_set {lib : Libraries} {d : Option MetaRouteDestination}
    (h : validateMetaRouteDestination lib d = []) : ∃ dst weight, d = some ⟨some dst, weight⟩ := by
  rcases d with _ | ⟨_ | dst, weight⟩
  · cases h
  · cases h
  · exact ⟨dst, weight, rfl⟩

theorem destinations_set {lib : Libraries} : ∀ {ds : List (Option MetaRouteDestination)},
    ds.flatMap (validateMetaRouteDestination lib) = [] →
      ∃ dsts : List (Destination × UInt32), ds = dsts.map fun d => some ⟨some d.1, d.2⟩
  | [], _ => ⟨[], rfl⟩
  | d :: ds, h => by
    rw [List.flatMap_cons, List.append_eq_nil_iff] at h
    obtain ⟨dst, weight, rfl⟩ := destination_set h.1
    obtain ⟨dsts, rfl⟩ := destinations_set h.2
    exact ⟨(dst, weight) :: dsts, rfl⟩

theorem totalWeight_set : ∀ dsts : List (Destination × UInt32),
    totalWeight (dsts.map fun d => some ⟨some d.1, d.2⟩) = (dsts.map (·.2)).sum
  | [] => rfl
  | d :: dsts => by
    have ih := totalWeight_set dsts
    simp only [totalWeight, List.map_cons, List.reduceOption_cons_of_some, List.sum_cons] at ih ⊢
    rw [ih]

/-- An accepted route is set, has a destination, and if it has more than one,
their weights add up to 100. -/
theorem Accepts.route {lib : Libraries} {o : Oracle} {metaRouter : MetaRouter} (h : Accepts lib o metaRouter)
    {r : Option MetaRoute} (hr : r ∈ metaRouter.routes) :
    ∃ route dsts request response, r = some route ∧ IsSet route dsts request response ∧ dsts ≠ [] ∧
      (1 < dsts.length → (dsts.map (·.2)).sum = 100) := by
  obtain ⟨routes, -, -, hroutes, -, -, -, -, herr, -⟩ := accepts_iff.mp h
  obtain ⟨i, hi⟩ := List.mem_iff_getElem?.mp hr
  obtain ⟨v, hv, hval⟩ := Go.mapM_ok_mem hroutes (List.mk_mem_zipIdx_iff_getElem?.mpr hi)
  have hv := herr v hv
  cases r with
  | none =>
    cases hval
    cases hv
  | some route =>
    obtain ⟨requestErrs, hreq, hval⟩ := Go.bind_eq_ok.mp hval
    obtain ⟨responseErrs, hresp, hval⟩ := Go.bind_eq_ok.mp hval
    cases hval
    simp only [wrapError, List.append_eq_nil_iff] at hv
    have hdst := hv.2
    unfold validateMetaRouteDestinations at hdst
    split at hdst
    · cases hdst
    · rename_i hne
      obtain ⟨hds, hweight⟩ := List.append_eq_nil_iff.mp hdst
      obtain ⟨dsts, hdsts⟩ := destinations_set hds
      obtain ⟨request, hrequest⟩ := mutation_set hreq
      obtain ⟨response, hresponse⟩ := mutation_set hresp
      refine ⟨route, dsts, request, response, rfl, ⟨hdsts, hrequest, hresponse⟩, ?_, fun hlen => ?_⟩
      · rintro rfl
        rw [hdsts] at hne
        exact hne rfl
      · by_contra hsum
        rw [hdsts, totalWeight_set, List.length_map, if_pos ⟨hlen, hsum⟩] at hweight
        cases hweight

/-! ## Hosts and rate limits -/

theorem Accepts.hosts {lib : Libraries} {o : Oracle} {metaRouter : MetaRouter} (h : Accepts lib o metaRouter) :
    ∃ host, metaRouter.hosts = [host] := by
  obtain ⟨-, -, -, -, -, -, hhosts, -⟩ := accepts_iff.mp h
  unfold validateHosts at hhosts
  split at hhosts
  · cases hhosts
  · exact ⟨_, ‹_›⟩
  · cases hhosts

/-- A bucket whose fields are set. -/
def IsSetBucket (bucket : TokenBucket) : Prop := bucket.fillInterval.isSome ∧ bucket.tokensPerFill.isSome

theorem isSome_of_validateNoneNullObject {α : Type} {obj : Option α} {name : String}
    (h : validateNoneNullObject obj name = []) : obj.isSome = true := by
  cases obj with
  | none => cases h
  | some _ => rfl

theorem bucket_set {bucket : TokenBucket} (h : validateTokenBucket (some bucket) = []) : IsSetBucket bucket := by
  simp only [validateTokenBucket, List.append_eq_nil_iff] at h
  exact ⟨isSome_of_validateNoneNullObject h.1.1.1, isSome_of_validateNoneNullObject h.1.1.2⟩

/-- An accepted local rate limit has a bucket or a condition, and its buckets
and conditions are set. -/
theorem Accepts.localRateLimit {lib : Libraries} {o : Oracle} {metaRouter : MetaRouter}
    (h : Accepts lib o metaRouter) {limit : LocalRateLimit} (hl : metaRouter.localRateLimit = some limit) :
    ¬(limit.tokenBucket.isNone = true ∧ limit.conditions = []) ∧ (∀ b ∈ limit.tokenBucket, IsSetBucket b) ∧
      ∀ c ∈ limit.conditions, ∃ condition bucket, c = some condition ∧ condition.tokenBucket = some bucket ∧
        IsSetBucket bucket := by
  obtain ⟨-, -, v, -, -, hv, -, -, -, -, -, herr⟩ := accepts_iff.mp h
  rw [hl] at hv
  obtain ⟨errss, hconditions, hv⟩ := Go.bind_eq_ok.mp hv
  cases hv
  simp only [wrapError, List.append_eq_nil_iff, List.flatten_eq_nil_iff] at herr
  obtain ⟨⟨hne, hbucket⟩, herrs⟩ := herr
  refine ⟨fun hnone => ?_, fun b hb => ?_, fun c hc => ?_⟩
  · rw [if_pos hnone] at hne
    cases hne
  · rw [Option.mem_def.mp hb] at hbucket
    exact bucket_set hbucket
  · obtain ⟨i, hi⟩ := List.mem_iff_getElem?.mp hc
    obtain ⟨errs, herrs', hc⟩ := Go.mapM_ok_mem hconditions (List.mk_mem_zipIdx_iff_getElem?.mpr hi)
    obtain ⟨condition, hcondition, hc⟩ := Go.bind_eq_ok.mp hc
    have hnil := (Except.ok.inj hc).trans (herrs errs herrs')
    simp only [List.append_eq_nil_iff] at hnil
    obtain ⟨bucket, hb⟩ := Option.isSome_iff_exists.mp (isSome_of_validateNoneNullObject hnil.1.2)
    exact ⟨condition, bucket, Go.deref_eq_ok.mp hcondition, hb, bucket_set (hb ▸ hnil.2)⟩

/-- An accepted global rate limit has descriptors, and they are set. -/
theorem Accepts.globalRateLimit {lib : Libraries} {o : Oracle} {metaRouter : MetaRouter}
    (h : Accepts lib o metaRouter) {limit : GlobalRateLimit} (hl : metaRouter.globalRateLimit = some limit) :
    ∃ descriptors : List RateLimitDescriptor, descriptors ≠ [] ∧ limit.descriptors = descriptors.map some := by
  obtain ⟨-, v, -, -, hv, -, -, -, -, -, herr, -⟩ := accepts_iff.mp h
  rw [hl] at hv
  obtain ⟨errs, hdescriptors, hv⟩ := Go.bind_eq_ok.mp hv
  cases hv
  obtain ⟨errss, hreads, herrs⟩ := Go.bind_eq_ok.mp hdescriptors
  cases herrs
  simp only [wrapError, List.append_eq_nil_iff] at herr
  obtain ⟨descriptors, hds⟩ := mapM_deref_set hreads
  refine ⟨descriptors, ?_, hds⟩
  rintro rfl
  rw [hds] at herr
  cases herr.2.1

/-! ## Export -/

section

variable {lib : Libraries} {ns : String} {exportTo : List String}

/-- The key of an entry in `exportToMap`. -/
def exportKey (ns e : String) : String := if e = "." then ns else e

/-- An entry without an error is a new key. -/
theorem exportToStep_accepted {st : Errors × List String} {e : String} (h : (exportToStep lib ns st e).1 = []) :
    st.1 = [] ∧ exportKey ns e ∉ st.2 ∧ (exportToStep lib ns st e).2 = st.2 ++ [exportKey ns e] := by
  unfold exportToStep at h ⊢
  rw [← exportKey] at h ⊢
  dsimp only at h ⊢
  by_cases hmem : exportKey ns e ∈ st.2
  · rw [if_pos hmem] at h
    cases (List.append_eq_nil_iff.mp h).2
  · rw [if_neg hmem] at h ⊢
    cases hvalid : lib.visibilityValidate (exportKey ns e) with
    | some err =>
      rw [hvalid] at h
      cases (List.append_eq_nil_iff.mp h).2
    | none =>
      rw [hvalid] at h
      exact ⟨h, hmem, rfl⟩

/-- A loop without errors has collected the keys of all entries, and they are
different. -/
theorem foldl_exportToStep_accepted : ∀ {exportTo : List String} {st : Errors × List String},
    (exportTo.foldl (exportToStep lib ns) st).1 = [] →
      st.1 = [] ∧ (exportTo.foldl (exportToStep lib ns) st).2 = st.2 ++ exportTo.map (exportKey ns) ∧
        (st.2.Nodup → (st.2 ++ exportTo.map (exportKey ns)).Nodup)
  | [], st, h => by
    rw [List.map_nil, List.append_nil]
    exact ⟨h, rfl, id⟩
  | e :: exportTo, st, h => by
    obtain ⟨herr, hkeys, hnodup⟩ := foldl_exportToStep_accepted (List.foldl_cons .. ▸ h)
    obtain ⟨hst, hnew, hstep⟩ := exportToStep_accepted herr
    rw [hstep, List.append_assoc, List.singleton_append, ← List.map_cons] at hkeys hnodup
    refine ⟨hst, hkeys, fun hn => hnodup ?_⟩
    rw [← List.concat_eq_append, List.nodup_concat]
    exact ⟨hnew, hn⟩

/-- The keys of accepted entries are different, and `*` is alone. -/
theorem exportTo_accepted (h : validateExportTo lib ns exportTo = []) :
    (exportTo.map (exportKey ns)).Nodup ∧ ("*" ∈ exportTo → exportTo.length ≤ 1) := by
  obtain ⟨h, -⟩ := List.append_eq_nil_iff.mp h
  obtain ⟨h, hpublic⟩ := List.append_eq_nil_iff.mp h
  obtain ⟨-, hkeys, hnodup⟩ := foldl_exportToStep_accepted h
  refine ⟨hnodup List.nodup_nil, fun hmem => ?_⟩
  rw [hkeys] at hpublic
  by_contra hlength
  rw [if_pos ⟨List.mem_map.mpr ⟨"*", hmem, rfl⟩, not_le.mp hlength⟩] at hpublic
  cases hpublic

end

end Aeraki.Proof.Webhook
