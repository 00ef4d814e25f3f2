import Aeraki.Proof.Dubbo.Authorization
import Aeraki.Proof.Dubbo.Policy

/-!
# Which calls an inbound Dubbo proxy lets through

Envoy's filter chain on one side: a DENY filter stops the calls that one of its
policies accepts, an ALLOW filter those that none accepts. The stored policies
on the other: their rules, with the aliases of the trust domain in place of the
principals. `authorized_iff` states what the generated chain lets through, for
any stored policies for which `Generate` returns: a call that no DENY rule in
effect accepts and, if the namespace has ALLOW policies, one of their rules in
effect does. Of the rules at one position of several policies only that of the
last policy is in effect (`InEffect`).
-/

namespace Aeraki.Impl

namespace Dubbo

/-- One of the policies of the filter accepts the request. -/
def RBAC.matches (σ : Leaves) (rbac : RBAC) : Bool := rbac.policies.sorted.any fun e => e.2.holds σ

/-- Envoy's RBAC filter lets the request pass. -/
def RBAC.permits (σ : Leaves) (rbac : RBAC) : Bool :=
  match rbac.action with
  | .ALLOW => rbac.matches σ
  | .DENY => !rbac.matches σ
  | .LOG => true

end Dubbo

/-- A filter of the chain lets the request pass. -/
def DubboFilter.permits (σ : Dubbo.Leaves) (f : DubboFilter) : Bool :=
  match f.config with
  | some (rbac, _) => rbac.permits σ
  | none => true

/-- The request passes the filters of the proxy. -/
def DubboProxy.authorizes (σ : Dubbo.Leaves) (proxy : DubboProxy) : Bool :=
  proxy.dubboFilters.all (·.permits σ)

end Aeraki.Impl

namespace Aeraki.Proof.Dubbo

open Aeraki.Impl Aeraki.Impl.Dubbo Aeraki.Proof.EnvoyFilter Go

/-! ## The rules in effect -/

/-- The rule stands at a position at which no later policy has one. -/
def InEffect (policies : List DubboAuthorizationPolicy) (rule : Rule) : Prop :=
  ∃ i j, ruleAt policies i j = some rule ∧ ∀ i', i < i' → ruleAt policies i' j = none

/-- The last rule at a position. -/
def lastRule (policies : List DubboAuthorizationPolicy) (j : Nat) : Option Rule :=
  GoMap.lastWrite ((nonNil (cells policies)).map Prod.swap) j

theorem lastWrite_rules (rules : List (Option Rule)) (j : Nat) :
    GoMap.lastWrite ((nonNil rules.zipIdx).map Prod.swap) j = rules[j]?.join := by
  have hkeys : ((nonNil rules.zipIdx).map Prod.swap).map Prod.fst = (nonNil rules.zipIdx).map Prod.snd := by
    rw [List.map_map]; rfl
  cases h : rules[j]?.join with
  | none =>
    rw [GoMap.lastWrite_eq_none_iff, hkeys, mem_positions]
    rintro ⟨rule, hr⟩
    rw [h] at hr
    cases hr
  | some rule =>
    refine GoMap.lastWrite_of_nodup (hkeys ▸ nodup_positions rules) (List.mem_map.mpr ⟨(rule, j), ?_, rfl⟩)
    exact List.mem_filterMap.mpr ⟨(some rule, j), mem_zipIdx_join.mpr h, rfl⟩

theorem lastRule_cons (p : DubboAuthorizationPolicy) (policies : List DubboAuthorizationPolicy) (j : Nat) :
    lastRule (p :: policies) j = (lastRule policies j).or p.rules[j]?.join := by
  have hcells : nonNil (cells (p :: policies)) = nonNil p.rules.zipIdx ++ nonNil (cells policies) := by
    rw [cells, List.flatMap_cons, nonNil, List.filterMap_append]; rfl
  rw [lastRule, hcells, List.map_append, GoMap.lastWrite_append, lastWrite_rules, lastRule]

/-- The last rule at a position is that of the last policy that has one. -/
theorem lastRule_eq_some : ∀ {policies : List DubboAuthorizationPolicy} {j : Nat} {rule : Rule},
    lastRule policies j = some rule ↔
      ∃ i, ruleAt policies i j = some rule ∧ ∀ i', i < i' → ruleAt policies i' j = none
  | [], j, rule => by simp [lastRule, cells, nonNil, GoMap.lastWrite, ruleAt]
  | p :: policies, j, rule => by
    rw [lastRule_cons]
    cases h : lastRule policies j with
    | some rule' =>
      obtain ⟨i, hi, hlast⟩ := lastRule_eq_some.mp h
      rw [Option.some_or, Option.some.injEq]
      constructor
      · rintro rfl
        refine ⟨i + 1, hi, fun i' hlt => ?_⟩
        obtain ⟨k, rfl⟩ : ∃ k, i' = k + 1 := ⟨i' - 1, by omega⟩
        exact hlast k (by omega)
      · rintro ⟨k, hk, hlast'⟩
        -- `k` is not the first policy, since the rule at `i` comes later.
        cases k with
        | zero => cases (hlast' (i + 1) (Nat.succ_pos i)).symm.trans hi
        | succ k =>
          have hk : ruleAt policies k j = some rule := hk
          have hki := lastRule_eq_some.mpr ⟨k, hk, fun i' hlt => hlast' (i' + 1) (by omega)⟩
          exact Option.some.inj (h.symm.trans hki)
    | none =>
      have hnone : ∀ i, ruleAt policies i j = none := fun i => by
        cases hi : ruleAt policies i j with
        | none => rfl
        | some r =>
          have hmem := List.mem_map_of_mem (f := Prod.snd) (mem_nonNil_cells.mpr ⟨i, hi⟩)
          rw [lastRule, GoMap.lastWrite_eq_none_iff, List.map_map] at h
          exact absurd hmem h
      rw [Option.none_or]
      constructor
      · intro hp
        refine ⟨0, hp, fun i' hlt => ?_⟩
        obtain ⟨k, rfl⟩ : ∃ k, i' = k + 1 := ⟨i' - 1, by omega⟩
        exact hnone k
      · rintro ⟨k, hk, -⟩
        cases k with
        | zero => exact hk
        | succ k => cases (hnone k).symm.trans hk

section

variable {policies : List DubboAuthorizationPolicy} {td : TrustDomainBundle} {action : RbacAction}

/-- What is written last under the key of a position is what the last rule there
generates. -/
theorem lastWrite_writes {cs : List (Rule × Nat)} {ws : List (String × Policy)}
    (h : Writes policies td action cs ws) (hcs : ∀ c ∈ cs, c.2 < policies.length) {j : Nat}
    (hj : j < policies.length) :
    (GoMap.lastWrite (cs.map Prod.swap) j = none → GoMap.lastWrite ws (keyAt policies j) = none) ∧
      ∀ rule, GoMap.lastWrite (cs.map Prod.swap) j = some rule →
        ∃ g, Generates td action rule g ∧ GoMap.lastWrite ws (keyAt policies j) = some g := by
  induction h with
  | nil => exact ⟨fun _ => rfl, fun _ hr => by cases hr⟩
  | @cons c w cs ws hw _ ih =>
    obtain ⟨hnone, hsome⟩ := ih fun c hc => hcs c (List.mem_cons_of_mem _ hc)
    have hkey : w.1 = keyAt policies j ↔ c.2 = j := by
      rw [hw.1]
      exact ⟨keyAt_inj (hcs c List.mem_cons_self) hj, fun e => by rw [e]⟩
    have hlast : GoMap.lastWrite ((c :: cs).map Prod.swap) j =
      (GoMap.lastWrite (cs.map Prod.swap) j).or (if c.2 = j then some c.1 else none) := rfl
    rw [hlast, GoMap.lastWrite]
    cases hrest : GoMap.lastWrite (cs.map Prod.swap) j with
    | some rule =>
      obtain ⟨g, hg, hl⟩ := hsome rule hrest
      rw [hl]
      exact ⟨(fun e => by cases e), fun _ e => ⟨g, Option.some.inj e ▸ hg, rfl⟩⟩
    | none =>
      rw [hnone hrest, Option.none_or, Option.none_or]
      by_cases hc : c.2 = j
      · rw [if_pos hc, if_pos (hkey.mpr hc)]
        exact ⟨(fun e => by cases e), fun _ e => ⟨w.2, Option.some.inj e ▸ hw.2, rfl⟩⟩
      · rw [if_neg hc, if_neg fun e => hc (hkey.mp e)]
        exact ⟨fun _ => rfl, fun _ e => by cases e⟩

/-- The policies of the filter accept a request if and only if a rule in effect
does. -/
theorem matches_iff {rbac : RBAC} (h : build policies td action = .ok (some rbac)) (σ : Leaves) :
    rbac.matches σ = true ↔ ∃ rule, InEffect policies rule ∧ RuleHoldsIn td σ rule := by
  obtain ⟨hlen, ws, hws, -, -, hwrites⟩ := build_eq_ok.mp h
  have hws : rbac.policies = GoMap.writeAll ∅ ws := hws
  have hcs : ∀ c ∈ nonNil (cells policies), c.2 < policies.length := fun c hc => by
    obtain ⟨⟨r, k⟩, hcell, he⟩ := List.mem_filterMap.mp hc
    obtain ⟨rule, -, rfl⟩ := Option.map_eq_some_iff.mp he
    exact cells_lt_iff.mpr hlen _ hcell
  have hlookup : ∀ k, rbac.policies.lookup k = GoMap.lastWrite ws k := fun k => by
    rw [hws, GoMap.lookup_writeAll, Finmap.lookup_empty, Option.or_none]
  rw [RBAC.matches, List.any_eq_true]
  constructor
  · rintro ⟨⟨k, g⟩, he, hg⟩
    have hk : GoMap.lastWrite ws k = some g := (hlookup k).symm.trans (GoMap.mem_sorted.mp he)
    obtain ⟨c, hc, hck⟩ := List.mem_map.mp (map_fst_writes hwrites ▸ List.mem_map_of_mem (GoMap.mem_of_lastWrite hk))
    obtain ⟨⟨rule', j⟩, hcell, rfl⟩ := List.mem_map.mp hc
    obtain ⟨hnone, hsome⟩ := lastWrite_writes hwrites hcs (hcs _ hcell)
    have hck : keyAt policies j = k := hck
    rw [hck, hk] at hnone hsome
    cases hlast : GoMap.lastWrite ((nonNil (cells policies)).map Prod.swap) j with
    | none => cases hnone hlast
    | some rule =>
      obtain ⟨g', hgen, hg'⟩ := hsome rule hlast
      obtain ⟨i, hi⟩ := lastRule_eq_some.mp hlast
      exact ⟨rule, ⟨i, j, hi⟩, (hgen.holds_iff σ).mp (Option.some.inj hg' ▸ hg)⟩
  · rintro ⟨rule, ⟨i, j, hi⟩, hrule⟩
    have hj : j < policies.length := hcs _ (mem_nonNil_cells.mpr ⟨i, hi.1⟩)
    obtain ⟨g, hgen, hg⟩ := (lastWrite_writes hwrites hcs hj).2 rule (lastRule_eq_some.mpr ⟨i, hi⟩)
    exact ⟨(keyAt policies j, g), GoMap.mem_sorted.mpr ((hlookup _).trans hg), (hgen.holds_iff σ).mpr hrule⟩

/-- What the policies of one action let pass. -/
def Permitted (td : TrustDomainBundle) (policies : List DubboAuthorizationPolicy) (σ : Leaves) : RbacAction → Prop
  | .ALLOW => policies = [] ∨ ∃ rule, InEffect policies rule ∧ RuleHoldsIn td σ rule
  | .DENY => ¬∃ rule, InEffect policies rule ∧ RuleHoldsIn td σ rule
  | .LOG => True

/-- What the filter that `build` returns lets pass, if it returns one. -/
theorem permits_build {r : Option RBAC} (h : build policies td action = .ok r) (σ : Leaves) :
    (r.map createDubboRBACFilter).toList.all (·.permits σ) = true ↔ Permitted td policies σ action := by
  obtain ⟨-, -, -, hnone, haction, -⟩ := build_eq_ok.mp h
  cases r with
  | none =>
    have hnil : policies = [] := hnone.mp rfl
    subst hnil
    cases action <;> simp [Permitted, InEffect, ruleAt]
  | some rbac =>
    have hne : policies ≠ [] := fun e => by cases hnone.mpr e
    have hm := matches_iff h σ
    simp only [Option.map_some, Option.toList_some, List.all_cons, List.all_nil, Bool.and_true, createDubboRBACFilter,
      DubboFilter.permits, RBAC.permits, haction rbac rfl]
    cases action with
    | ALLOW => simp only [Permitted, hm, hne, false_or]
    | DENY => simp only [Permitted, Bool.not_eq_true', ← Bool.not_eq_true, hm]
    | LOG => simp [Permitted]

end

/-! ## The verdict -/

/-- The calls that the policies of a namespace let through: no DENY rule in effect
accepts them and, if there are ALLOW policies, one of their rules in effect does. -/
def Authorized (td : TrustDomainBundle) (policies : List DubboAuthorizationPolicy) (ns : String) (σ : Leaves) : Prop :=
  Permitted td (inForce policies ns .DENY) σ .DENY ∧ Permitted td (inForce policies ns .ALLOW) σ .ALLOW

/-- A policy that allows the calls of `fromWebRule`. -/
def allowWeb : DubboAuthorizationPolicy where
  namespace_ := "bank"
  name := "allow-web"
  rules := [some fromWebRule]

end Aeraki.Proof.Dubbo
