import Aeraki.Proof.Webhook.Admission

/-!
# Warnings about unreachable rules

A MetaRoute without a match takes every request, so that those after it are not
reached. The warnings of `ValidateMetaRouter` are those of
`analyzeUnreachableMetaRules` (`validateMetaRouter_warning`), which warns at the
second MetaRoute without a match and at each one after it (`analyze_ne_nil_iff`).
So it is silent about one that only MetaRoutes with matches follow (`warned_iff`).
-/

namespace Aeraki.Proof.Webhook

open Aeraki.Impl Aeraki.Impl.Webhook

/-- What `analyzeUnreachableMetaRules` warns of, for the MetaRoutes of a MetaRouter. -/
def unreachableRules (routes : List (Option MetaRoute)) : Errors := analyzeUnreachableMetaRules false routes.zipIdx

/-! ## The warnings of `ValidateMetaRouter` -/

section

variable {lib : Libraries} {o : Oracle}

theorem warning_foldl_appendValidation : ∀ (vs : List Validation) (v : Validation),
    (vs.foldl appendValidation v).warning = v.warning ++ (vs.map (·.warning)).flatten
  | [], v => by simp
  | nv :: vs, v => by
    rw [List.foldl_cons, warning_foldl_appendValidation vs, appendValidation]
    simp

theorem validateRoute_warning {route : Option MetaRoute} {v : Validation} (h : validateRoute lib o route = .ok v) :
    v.warning = [] := by
  cases route with
  | none =>
    cases h
    rfl
  | some route =>
    obtain ⟨_, -, h⟩ := Go.bind_eq_ok.mp h
    obtain ⟨_, -, h⟩ := Go.bind_eq_ok.mp h
    cases h
    rfl

theorem validateGlobalRateLimit_warning {limit : Option GlobalRateLimit} {v : Validation}
    (h : validateGlobalRateLimit lib o limit = .ok v) : v.warning = [] := by
  cases limit with
  | none =>
    cases h
    rfl
  | some limit =>
    obtain ⟨_, -, h⟩ := Go.bind_eq_ok.mp h
    cases h
    rfl

theorem validateLocalRateLimit_warning {limit : Option LocalRateLimit} {v : Validation}
    (h : validateLocalRateLimit lib o limit = .ok v) : v.warning = [] := by
  cases limit with
  | none =>
    cases h
    rfl
  | some limit =>
    obtain ⟨_, -, h⟩ := Go.bind_eq_ok.mp h
    cases h
    rfl

/-- No other check of `ValidateMetaRouter` warns. -/
theorem validateMetaRouter_warning {metaRouter : MetaRouter} {warning err : Errors}
    (h : validateMetaRouter lib o metaRouter = .ok (warning, err)) : warning = unreachableRules metaRouter.routes := by
  obtain ⟨routes, hr, h⟩ := Go.bind_eq_ok.mp h
  obtain ⟨global_, hg, h⟩ := Go.bind_eq_ok.mp h
  obtain ⟨local_, hl, h⟩ := Go.bind_eq_ok.mp h
  have hroutes : (routes.map (·.warning)).flatten = [] := by
    refine List.flatten_eq_nil_iff.mpr fun warning hw => ?_
    obtain ⟨v, hv, rfl⟩ := List.mem_map.mp hw
    obtain ⟨_, -, hv⟩ := Go.mem_of_mapM_ok hr hv
    exact validateRoute_warning hv
  refine (congrArg Prod.fst (Except.ok.inj h)).symm.trans ((warning_foldl_appendValidation _ _).trans ?_)
  simp [wrapError, wrapWarning, hroutes, validateGlobalRateLimit_warning hg, validateLocalRateLimit_warning hl,
    unreachableRules]

end

/-! ## MetaRoutes without a match -/

/-- The MetaRoutes without a match. -/
def catchAlls (routes : List (Option MetaRoute)) : List MetaRoute :=
  routes.reduceOption.filter (·.match_.isNone)

/-- A MetaRoute without a match is followed by another MetaRoute. -/
def Shadowed (routes : List (Option MetaRoute)) : Prop :=
  ∃ before route after, routes = before ++ some route :: after ∧ route.match_ = none ∧ after.reduceOption ≠ []

variable {routes : List (Option MetaRoute)} {route : MetaRoute}

theorem catchAlls_of_match (h : route.match_ ≠ none) : catchAlls (some route :: routes) = catchAlls routes := by
  rw [catchAlls, List.reduceOption_cons_of_some, List.filter_cons_of_neg (by simpa using h)]
  rfl

theorem catchAlls_of_no_match (h : route.match_ = none) :
    catchAlls (some route :: routes) = route :: catchAlls routes := by
  rw [catchAlls, List.reduceOption_cons_of_some, List.filter_cons_of_pos (by rw [h]; rfl)]
  rfl

/-- There is a warning if there are two MetaRoutes without a match, one of which
may have been encountered before. -/
theorem analyze_ne_nil_iff : ∀ (encountered : Bool) (routes : List (Option MetaRoute)) (n : Nat),
    analyzeUnreachableMetaRules encountered (routes.zipIdx n) ≠ [] ↔
      2 ≤ encountered.toNat + (catchAlls routes).length
  | encountered, [], n => by cases encountered <;> simp [analyzeUnreachableMetaRules, catchAlls]
  | encountered, none :: routes, n => by
    rw [List.zipIdx_cons, analyzeUnreachableMetaRules, analyze_ne_nil_iff encountered routes]
    rfl
  | encountered, some route :: routes, n => by
    rw [List.zipIdx_cons, analyzeUnreachableMetaRules]
    cases hm : route.match_ with
    | some m =>
      rw [catchAlls_of_match (by rw [hm]; exact Option.some_ne_none m)]
      exact analyze_ne_nil_iff encountered routes _
    | none =>
      rw [catchAlls_of_no_match hm, List.length_cons]
      dsimp only
      cases encountered with
      | true =>
        rw [if_pos rfl, Bool.toNat_true]
        exact iff_of_true (List.cons_ne_nil _ _) (by omega)
      | false =>
        rw [if_neg Bool.false_ne_true, List.nil_append, analyze_ne_nil_iff true, Bool.toNat_true, Bool.toNat_false]
        omega

theorem unreachableRules_ne_nil_iff : unreachableRules routes ≠ [] ↔ 2 ≤ (catchAlls routes).length := by
  rw [unreachableRules, analyze_ne_nil_iff, Bool.toNat_false, Nat.zero_add]

/-- The first of two MetaRoutes without a match shadows the second. -/
theorem shadowed_of_two : ∀ {routes : List (Option MetaRoute)}, 2 ≤ (catchAlls routes).length → Shadowed routes
  | [], h => nomatch h
  | none :: routes, h => by
    have hrest : 2 ≤ (catchAlls routes).length := h
    obtain ⟨before, route, after, rfl, hroute⟩ := shadowed_of_two hrest
    exact ⟨none :: before, route, after, rfl, hroute⟩
  | some route :: routes, h => by
    by_cases hm : route.match_ = none
    · rw [catchAlls_of_no_match hm, List.length_cons] at h
      refine ⟨[], route, routes, rfl, hm, fun hnone => ?_⟩
      rw [catchAlls, hnone, List.filter_nil, List.length_nil] at h
      omega
    · rw [catchAlls_of_match hm] at h
      obtain ⟨before, route', after, rfl, hroute⟩ := shadowed_of_two h
      exact ⟨some route :: before, route', after, rfl, hroute⟩

/-- There are warnings exactly for lists with shadowed MetaRoutes if
and only if the list has none, or two MetaRoutes without a match. -/
theorem warned_iff (routes : List (Option MetaRoute)) :
    (unreachableRules routes ≠ [] ↔ Shadowed routes) ↔ ¬Shadowed routes ∨ 2 ≤ (catchAlls routes).length := by
  rw [unreachableRules_ne_nil_iff]
  constructor
  · intro h
    by_cases hs : Shadowed routes
    · exact .inr (h.mpr hs)
    · exact .inl hs
  · rintro (hs | htwo)
    · exact iff_of_false (fun htwo => hs (shadowed_of_two htwo)) hs
    · exact iff_of_true htwo (shadowed_of_two htwo)

/-- A MetaRouter whose first MetaRoute takes what the second one matches. -/
def shadowingRouter : MetaRouter :=
  let route : List (Option MetaRouteDestination) := [some ⟨some { host := "svc.ns" }, 100⟩]
  { name := "router", namespace_ := "ns", hosts := ["svc.ns"]
    routes := [some { route := route }, some { match_ := some { attributes := ∅ }, route := route }] }

/-- It is accepted without a warning. -/
theorem shadowed_silently : Shadowed shadowingRouter.routes ∧
    validateMetaRouter lenient {} shadowingRouter = .ok ([], []) :=
  ⟨⟨[], _, _, rfl, rfl, List.cons_ne_nil _ _⟩, by decide +kernel⟩

end Aeraki.Proof.Webhook
