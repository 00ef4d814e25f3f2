import Aeraki.Impl.Dubbo.Authz

/-!
# Compiling Dubbo policies: which rules are lost

A rule whose `From` and `To` entries are all set always compiles
(`generates_iff`), so `build` writes one entry for each non-nil rule it reaches
(`build_eq_ok`). The key of an entry depends only on the position of the
rule in its own policy, because the inner loop's index shadows the outer one.
`build` therefore panics on a rule beyond the number of policies, and two
policies with a rule at one position share an entry: `noRuleLost_iff` states
exactly when no rule is lost.
-/

namespace Aeraki.Proof.Dubbo

open Aeraki.Impl.Dubbo Go

/-! ## One rule -/

/-- Every `From` and `To` entry of the rule is set. -/
def EntriesSet (r : Rule) : Prop := (∀ f ∈ r.froms, f.isSome) ∧ ∀ t ∈ r.tos, t.isSome

/-- The policy generated from a rule: `New`, `MigrateTrustDomain`, `Generate`. -/
def Generates (td : TrustDomainBundle) (action : RbacAction) (r : Rule) (g : Policy) : Prop :=
  ∃ m, Model.new r = .ok (.ok m) ∧ (m.migrateTrustDomain td).generate action = .ok g

/-- The rules of a permission are interfaces and methods, those of a principal
namespaces and principals. -/
structure WellSorted (m : Model) : Prop where
  permissions_ne : m.permissions ≠ []
  principals_ne : m.principals ≠ []
  permission : ∀ rl ∈ m.permissions, ∀ r ∈ rl, r.g = .interfaceGenerator ∨ r.g = .methodGenerator
  principal : ∀ rl ∈ m.principals, ∀ r ∈ rl, r.g = .srcNamespaceGenerator ∨ r.g = .srcPrincipalGenerator

theorem mem_insertFront {rules : List AttrRule} {g : Generator} {key : String} {vs nvs : List String}
    {r : AttrRule} (h : r ∈ insertFront rules g key vs nvs) : r.g = g ∨ r ∈ rules := by
  unfold insertFront at h
  split at h
  · exact .inr h
  · rcases List.mem_cons.mp h with rfl | h
    · exact .inl rfl
    · exact .inr h

theorem fromRules_sorted (s : Option Source) :
    ∀ r ∈ fromRules s, r.g = .srcNamespaceGenerator ∨ r.g = .srcPrincipalGenerator := by
  intro r hr
  cases s with
  | none => cases hr
  | some s =>
    rcases mem_insertFront hr with h | h
    · exact .inr h
    · exact .inl ((mem_insertFront h).resolve_right (by simp))

theorem toRules_sorted (o : Option Operation) :
    ∀ r ∈ toRules o, r.g = .interfaceGenerator ∨ r.g = .methodGenerator := by
  intro r hr
  cases o with
  | none => cases hr
  | some o =>
    rcases mem_insertFront hr with h | h
    · exact .inr h
    · exact .inl ((mem_insertFront h).resolve_right (by simp))

/-- The loops of `New` return exactly when they meet no nil entry. -/
theorem mapM_deref_ok_iff {α β : Type} {f : α → β} {xs : List (Option α)} :
    (∃ ys, xs.mapM (fun x => do return f (← deref x)) = (.ok ys : Comp (List β))) ↔
      ∀ x ∈ xs, x.isSome := by
  constructor
  · rintro ⟨ys, h⟩ x hx
    obtain ⟨y, -, hy⟩ := mapM_ok_mem h hx
    obtain ⟨a, ha, -⟩ := bind_eq_ok.mp hy
    rw [deref_eq_ok.mp ha]; rfl
  · intro h
    refine mapM_ok fun x hx => ?_
    obtain ⟨a, rfl⟩ := Option.isSome_iff_exists.mp (h x hx)
    exact ⟨f a, rfl⟩

theorem new_ok_iff {r : Rule} : (∃ m, Model.new r = .ok (.ok m)) ↔ EntriesSet r := by
  rw [EntriesSet, ← mapM_deref_ok_iff (f := fun x => fromRules x.source),
    ← mapM_deref_ok_iff (f := fun x => toRules x.operation)]
  constructor
  · rintro ⟨m, h⟩
    obtain ⟨ps, hp, h⟩ := bind_eq_ok.mp h
    obtain ⟨qs, hq, -⟩ := bind_eq_ok.mp h
    exact ⟨⟨ps, hp⟩, ⟨qs, hq⟩⟩
  · rintro ⟨⟨ps, hp⟩, ⟨qs, hq⟩⟩
    exact ⟨_, bind_eq_ok.mpr ⟨ps, hp, bind_eq_ok.mpr ⟨qs, hq, rfl⟩⟩⟩

theorem new_sorted {r : Rule} {m : Model} (h : Model.new r = .ok (.ok m)) : WellSorted m := by
  obtain ⟨ps, hp, h⟩ := bind_eq_ok.mp h
  obtain ⟨qs, hq, h⟩ := bind_eq_ok.mp h
  simp only [pure, Except.pure, Except.ok.injEq] at h
  subst h
  have hp' : ∀ rl ∈ ps, ∃ s, rl = fromRules s := fun rl hrl => by
    obtain ⟨x, -, hx⟩ := mem_of_mapM_ok hp hrl
    obtain ⟨a, -, ha⟩ := bind_eq_ok.mp hx
    exact ⟨a.source, (Except.ok.inj ha).symm⟩
  have hq' : ∀ rl ∈ qs, ∃ o, rl = toRules o := fun rl hrl => by
    obtain ⟨x, -, hx⟩ := mem_of_mapM_ok hq hrl
    obtain ⟨a, -, ha⟩ := bind_eq_ok.mp hx
    exact ⟨a.operation, (Except.ok.inj ha).symm⟩
  refine ⟨?_, ?_, fun rl hrl => ?_, fun rl hrl => ?_⟩
  · dsimp only
    split
    · simp
    · rename_i hne
      rintro rfl
      exact hne (List.forall₂_nil_right_iff.mp (mapM_ok_forall hq))
  · dsimp only
    split
    · simp
    · rename_i hne
      rintro rfl
      exact hne (List.forall₂_nil_right_iff.mp (mapM_ok_forall hp))
  · dsimp only at hrl
    split at hrl
    · simp only [List.mem_singleton] at hrl; subst hrl; simp
    · obtain ⟨o, rfl⟩ := hq' rl hrl; exact toRules_sorted o
  · dsimp only at hrl
    split at hrl
    · simp only [List.mem_singleton] at hrl; subst hrl; simp
    · obtain ⟨s, rfl⟩ := hp' rl hrl; exact fromRules_sorted s

theorem migrate_sorted (td : TrustDomainBundle) {m : Model} (h : WellSorted m) :
    WellSorted (m.migrateTrustDomain td) := by
  have hg : ∀ r : AttrRule, (r.migrate td).g = r.g := fun r => by
    unfold AttrRule.migrate; split <;> rfl
  refine ⟨h.permissions_ne, by simpa [Model.migrateTrustDomain] using h.principals_ne, h.permission, ?_⟩
  intro rl hrl r hr
  simp only [Model.migrateTrustDomain, List.mem_map] at hrl
  obtain ⟨rl, hrl, rfl⟩ := hrl
  obtain ⟨r, hr', rfl⟩ := List.mem_map.mp hr
  rw [hg]; exact h.principal rl hrl r hr'

theorem generateValues_ok {α : Type} {gen : String → Except String α} (action : RbacAction)
    (h : ∀ v, ∃ p, gen v = .ok p) (vs : List String) : ∃ ps, generateValues gen action vs = .ok ps := by
  induction vs with
  | nil => exact ⟨[], rfl⟩
  | cons v vs ih =>
    obtain ⟨p, hp⟩ := h v
    obtain ⟨ps, hps⟩ := ih
    exact ⟨p :: ps, by rw [generateValues, hp, hps]; rfl⟩

/-- A well-sorted model always generates a policy: no generator is asked for
what it does not implement. -/
theorem generate_ok {m : Model} (action : RbacAction) (h : WellSorted m) :
    ∃ g, m.generate action = .ok g := by
  have hperm : ∀ rl ∈ m.permissions, ∃ p, generatePermission action rl = .ok p := fun rl hrl => by
    have hr : ∀ r ∈ rl, ∃ ps, AttrRule.permission action r = .ok ps := fun r hr => by
      have hg : ∀ v, ∃ p, r.g.permission r.key v = .ok p := fun v => by
        rcases h.permission rl hrl r hr with e | e <;> rw [e] <;> exact ⟨_, rfl⟩
      obtain ⟨vs, hvs⟩ := generateValues_ok action hg r.values
      obtain ⟨ns, hns⟩ := generateValues_ok action hg r.notValues
      exact ⟨_, by rw [AttrRule.permission, hvs, hns]; rfl⟩
    obtain ⟨ps, hps⟩ := mapM_ok hr
    exact ⟨_, by rw [generatePermission, hps]; rfl⟩
  have hprin : ∀ rl ∈ m.principals, ∃ p, generatePrincipal action rl = .ok p := fun rl hrl => by
    have hr : ∀ r ∈ rl, ∃ ps, AttrRule.principal action r = .ok ps := fun r hr => by
      have hg : ∀ v, ∃ p, r.g.principal r.key v = .ok p := fun v => by
        rcases h.principal rl hrl r hr with e | e <;> rw [e] <;> exact ⟨_, rfl⟩
      obtain ⟨vs, hvs⟩ := generateValues_ok action hg r.values
      obtain ⟨ns, hns⟩ := generateValues_ok action hg r.notValues
      exact ⟨_, by rw [AttrRule.principal, hvs, hns]; rfl⟩
    obtain ⟨ps, hps⟩ := mapM_ok hr
    exact ⟨_, by rw [generatePrincipal, hps]; rfl⟩
  obtain ⟨perms, hperms⟩ := mapM_ok hperm
  obtain ⟨prins, hprins⟩ := mapM_ok hprin
  have h1 : perms.isEmpty = false := by
    rw [List.isEmpty_eq_false_iff]
    rintro rfl
    exact h.permissions_ne (List.forall₂_nil_right_iff.mp (mapM_ok_forall hperms))
  have h2 : prins.isEmpty = false := by
    rw [List.isEmpty_eq_false_iff]
    rintro rfl
    exact h.principals_ne (List.forall₂_nil_right_iff.mp (mapM_ok_forall hprins))
  refine ⟨⟨perms, prins⟩, ?_⟩
  simp only [Model.generate, hperms, hprins, h1, h2, bind, Except.bind, pure, Except.pure,
    Bool.false_eq_true, ite_false]

/-- A rule generates a policy, exactly when its entries are all set. -/
theorem generates_iff {td : TrustDomainBundle} {action : RbacAction} {r : Rule} :
    (∃ g, Generates td action r g) ↔ EntriesSet r := by
  rw [← new_ok_iff]
  constructor
  · rintro ⟨g, m, hm, -⟩; exact ⟨m, hm⟩
  · rintro ⟨m, hm⟩
    obtain ⟨g, hg⟩ := generate_ok action (migrate_sorted td (new_sorted hm))
    exact ⟨g, m, hm, hg⟩

/-! ## All rules -/

/-- Rule `j` of policy `i`, if it is there and not nil. -/
def ruleAt (policies : List DubboAuthorizationPolicy) (i j : Nat) : Option Rule :=
  policies[i]?.bind fun p => p.rules[j]?.join

/-- The number of rules of all policies that are not nil. -/
def nonNilCount (policies : List DubboAuthorizationPolicy) : Nat :=
  (policies.map fun p => (p.rules.filterMap id).length).sum

/-- `GetPolicies`, on a possibly nil `RBAC`. -/
def policiesOf : Option RBAC → GoMap String Policy
  | none => ∅
  | some rbac => rbac.policies

/-- No rule is lost: `build` returns, and every rule that is not nil has an
entry of its own, which holds the policy generated from it. -/
def NoRuleLost (td : TrustDomainBundle) (action : RbacAction)
    (policies : List DubboAuthorizationPolicy) : Prop :=
  ∃ (r : Option RBAC) (key : Nat → Nat → String), build policies td action = .ok r ∧
    (∀ i j rule, ruleAt policies i j = some rule →
      ∃ g, Generates td action rule g ∧ (policiesOf r).lookup (key i j) = some g) ∧
    (∀ i j i' j' rule rule', ruleAt policies i j = some rule → ruleAt policies i' j' = some rule' →
      key i j = key i' j' → i = i' ∧ j = j') ∧
    (policiesOf r).keys.card = nonNilCount policies

/-- The rules `build` compiles correctly: no policy has more rules than there
are policies, no two policies have a rule at the same position, and all `From`
and `To` entries are set. -/
structure Separated (policies : List DubboAuthorizationPolicy) : Prop where
  inRange : ∀ p ∈ policies, p.rules.length ≤ policies.length
  apart : ∀ i i' j rule rule', ruleAt policies i j = some rule → ruleAt policies i' j = some rule' →
    i = i'
  set : ∀ i j rule, ruleAt policies i j = some rule → EntriesSet rule

theorem ruleName_inj {ns ns' n n' : String} {i i' : Nat} (h : ruleName ns n i = ruleName ns' n' i') :
    i = i' := by
  unfold ruleName at h
  rw [String.append_left_inj, show "]-rule[" = "]-rule" ++ "[" from rfl, ← String.append_assoc, ← String.append_assoc,
    Go.append_itoa_inj rfl rfl] at h
  exact h.2

section

variable (policies : List DubboAuthorizationPolicy) (td : TrustDomainBundle) (action : RbacAction)

/-- The rules in the order the two loops visit them, with their positions. -/
def cells : List (Option Rule × Nat) := policies.flatMap fun p => p.rules.zipIdx

/-- The cells that are not nil. -/
def nonNil (cs : List (Option Rule × Nat)) : List (Rule × Nat) :=
  cs.filterMap fun c => c.1.map (·, c.2)

/-- The key `build` gives a rule at position `j`. -/
def keyAt (j : Nat) : String :=
  match policies[j]? with
  | some p => ruleName p.namespace_ p.name j
  | none => ""

/-- The writes of some cells: each under the key of its position, and each the
policy its rule generates. -/
def Writes (cs : List (Rule × Nat)) (ws : List (String × Policy)) : Prop :=
  List.Forall₂ (fun c w => w.1 = keyAt policies c.2 ∧ Generates td action c.1 w.2) cs ws

theorem build_cells (acc : GoMap String Policy) (ps : List DubboAuthorizationPolicy) :
    ps.foldlM (fun rules p =>
        p.rules.zipIdx.foldlM (fun rules r => buildRule policies td action rules r.2 r.1) rules) acc =
      (cells ps).foldlM (fun rules c => buildRule policies td action rules c.2 c.1) acc := by
  induction ps generalizing acc with
  | nil => rfl
  | cons p ps ih =>
    rw [List.foldlM_cons, cells, List.flatMap_cons, List.foldlM_append]
    exact bind_congr fun acc' => ih acc'

variable {policies td action}

/-- One step of the loops: it panics beyond the number of policies, and on an
entry that is not set; else it writes what the rule generates. -/
theorem buildRule_eq_ok {acc acc' : GoMap String Policy} {j : Nat} {r : Option Rule} :
    buildRule policies td action acc j r = .ok acc' ↔ j < policies.length ∧
      match r with
      | none => acc' = acc
      | some rule => ∃ g, Generates td action rule g ∧ acc' = acc.insert (keyAt policies j) g := by
  unfold buildRule
  rw [bind_eq_ok]
  constructor
  · rintro ⟨p, hp, h⟩
    rw [index_eq_ok] at hp
    refine ⟨(List.getElem?_eq_some_iff.mp hp).1, ?_⟩
    cases r with
    | none => exact (Except.ok.inj h).symm
    | some rule =>
      obtain ⟨m, hm, h⟩ := bind_eq_ok.mp h
      cases m with
      | error e => cases (bind_eq_ok.mp (bind_eq_ok.mp hm).choose_spec.2).choose_spec.2
      | ok m =>
        obtain ⟨g, hg⟩ := generate_ok action (migrate_sorted td (new_sorted hm))
        simp only [hg, pure, Except.pure, Except.ok.injEq] at h
        exact ⟨g, ⟨m, hm, hg⟩, by rw [← h, keyAt, hp]⟩
  · rintro ⟨hj, h⟩
    refine ⟨policies[j], index_of_lt hj, ?_⟩
    cases r with
    | none => exact congrArg Except.ok h.symm
    | some rule =>
      obtain ⟨g, ⟨m, hm, hg⟩, rfl⟩ := h
      refine bind_eq_ok.mpr ⟨.ok m, hm, ?_⟩
      simp only [hg, pure, Except.pure, keyAt, List.getElem?_eq_getElem hj]

/-- The loops: they write one entry for each cell that is not nil. -/
theorem foldlM_buildRule_eq_ok {acc acc' : GoMap String Policy} {cs : List (Option Rule × Nat)} :
    cs.foldlM (fun rules c => buildRule policies td action rules c.2 c.1) acc = .ok acc' ↔
      (∀ c ∈ cs, c.2 < policies.length) ∧ ∃ ws : List (String × Policy), acc' = GoMap.writeAll acc ws ∧
        Writes policies td action (nonNil cs) ws := by
  induction cs generalizing acc with
  | nil =>
    simp only [List.foldlM_nil, pure, Except.pure, Except.ok.injEq, List.not_mem_nil,
      IsEmpty.forall_iff, implies_true, true_and, nonNil, List.filterMap_nil, Writes,
      List.forall₂_nil_left_iff, exists_eq_right, GoMap.writeAll_nil]
    exact eq_comm
  | cons c cs ih =>
    obtain ⟨r, j⟩ := c
    rw [List.foldlM_cons, bind_eq_ok]
    simp only [buildRule_eq_ok, ih, List.forall_mem_cons]
    cases r with
    | none =>
      constructor
      · rintro ⟨_, ⟨hj, rfl⟩, hcs, h⟩; exact ⟨⟨hj, hcs⟩, h⟩
      · rintro ⟨⟨hj, hcs⟩, h⟩; exact ⟨acc, ⟨hj, rfl⟩, hcs, h⟩
    | some rule =>
      have hn : nonNil ((some rule, j) :: cs) = (rule, j) :: nonNil cs := rfl
      rw [hn]
      constructor
      · rintro ⟨_, ⟨hj, g, hg, rfl⟩, hcs, ws, rfl, hws⟩
        exact ⟨⟨hj, hcs⟩, (keyAt policies j, g) :: ws, rfl, .cons ⟨rfl, hg⟩ hws⟩
      · rintro ⟨⟨hj, hcs⟩, ws, rfl, hws⟩
        cases hws with
        | @cons _ w _ ws hw hws =>
          obtain ⟨k, g⟩ := w
          obtain ⟨rfl, hg⟩ := hw
          exact ⟨_, ⟨hj, g, hg, rfl⟩, hcs, ws, rfl, hws⟩

theorem mem_zipIdx_join {α : Type} {xs : List (Option α)} {x : α} {j : Nat} :
    (some x, j) ∈ xs.zipIdx ↔ xs[j]?.join = some x := by
  rw [List.mem_zipIdx_iff_getElem?, Option.join_eq_some_iff]

/-- The cells that are not nil are the rules of the policies. -/
theorem mem_nonNil_cells {rule : Rule} {j : Nat} :
    (rule, j) ∈ nonNil (cells policies) ↔ ∃ i, ruleAt policies i j = some rule := by
  simp only [nonNil, cells, List.mem_filterMap, List.mem_flatMap, ruleAt]
  constructor
  · rintro ⟨⟨r, k⟩, ⟨p, hp, hc⟩, h⟩
    obtain ⟨r', rfl, e⟩ := Option.map_eq_some_iff.mp h
    cases e
    obtain ⟨i, hi⟩ := List.mem_iff_getElem?.mp hp
    exact ⟨i, by rw [hi]; exact mem_zipIdx_join.mp hc⟩
  · rintro ⟨i, h⟩
    obtain ⟨p, hp, hr⟩ := Option.bind_eq_some_iff.mp h
    exact ⟨(some rule, j), ⟨p, List.mem_of_getElem? hp, mem_zipIdx_join.mpr hr⟩, rfl⟩

theorem length_nonNil_zipIdx (rules : List (Option Rule)) (n : Nat) :
    (nonNil (rules.zipIdx n)).length = (rules.filterMap id).length := by
  induction rules generalizing n with
  | nil => rfl
  | cons r rules ih =>
    rw [List.zipIdx_cons]
    cases r with
    | none => exact ih (n + 1)
    | some r => exact congrArg (· + 1) (ih (n + 1))

theorem length_nonNil_cells : (nonNil (cells policies)).length = nonNilCount policies := by
  simp only [nonNil, cells, List.filterMap_flatMap, List.length_flatMap, nonNilCount]
  exact congrArg List.sum (List.map_congr_left fun p _ => length_nonNil_zipIdx p.rules 0)

theorem mem_positions {rules : List (Option Rule)} {j : Nat} :
    j ∈ (nonNil rules.zipIdx).map Prod.snd ↔ ∃ rule, rules[j]?.join = some rule := by
  simp only [nonNil, List.mem_map, List.mem_filterMap]
  constructor
  · rintro ⟨⟨rule, _⟩, ⟨⟨r, k⟩, hc, h⟩, rfl⟩
    obtain ⟨r', rfl, e⟩ := Option.map_eq_some_iff.mp h
    cases e
    exact ⟨_, mem_zipIdx_join.mp hc⟩
  · rintro ⟨rule, h⟩
    exact ⟨(rule, j), ⟨(some rule, j), mem_zipIdx_join.mpr h, rfl⟩, rfl⟩

theorem positions_sublist : ∀ cs : List (Option Rule × Nat),
    ((nonNil cs).map Prod.snd).Sublist (cs.map Prod.snd)
  | [] => .slnil
  | (none, _) :: cs => (positions_sublist cs).cons _
  | (some _, _) :: cs => (positions_sublist cs).cons_cons _

/-- The positions of one policy's rules are distinct. -/
theorem nodup_positions (rules : List (Option Rule)) : ((nonNil rules.zipIdx).map Prod.snd).Nodup := by
  refine (positions_sublist rules.zipIdx).nodup ?_
  rw [List.zipIdx_map_snd]
  exact List.nodup_range'

/-- Positions are distinct, exactly when no two policies have a rule at one. -/
theorem nodup_positions_iff :
    ((nonNil (cells policies)).map Prod.snd).Nodup ↔ ∀ i i' j rule rule',
      ruleAt policies i j = some rule → ruleAt policies i' j = some rule' → i = i' := by
  have hflat : (nonNil (cells policies)).map Prod.snd =
      policies.flatMap fun p => (nonNil p.rules.zipIdx).map Prod.snd := by
    simp only [nonNil, cells, List.filterMap_flatMap, List.map_flatMap]
  rw [hflat, List.nodup_flatMap, and_iff_right fun (p : DubboAuthorizationPolicy) _ => nodup_positions p.rules,
    List.pairwise_iff_getElem]
  simp only [Function.onFun, List.Disjoint, mem_positions, ruleAt, Option.bind_eq_some_iff]
  constructor
  · rintro h i i' j rule rule' ⟨p, hp, hr⟩ ⟨p', hp', hr'⟩
    obtain ⟨hi, rfl⟩ := List.getElem?_eq_some_iff.mp hp
    obtain ⟨hi', rfl⟩ := List.getElem?_eq_some_iff.mp hp'
    rcases Nat.lt_trichotomy i i' with hlt | heq | hgt
    · exact (h i i' hi hi' hlt ⟨rule, hr⟩ ⟨rule', hr'⟩).elim
    · exact heq
    · exact (h i' i hi' hi hgt ⟨rule', hr'⟩ ⟨rule, hr⟩).elim
  · rintro h i i' hi hi' hlt j ⟨rule, hr⟩ ⟨rule', hr'⟩
    have := h i i' j rule rule' ⟨_, List.getElem?_eq_getElem hi, hr⟩ ⟨_, List.getElem?_eq_getElem hi', hr'⟩
    omega

theorem keyAt_inj {j j' : Nat} (hj : j < policies.length) (hj' : j' < policies.length)
    (h : keyAt policies j = keyAt policies j') : j = j' := by
  simp only [keyAt, List.getElem?_eq_getElem hj, List.getElem?_eq_getElem hj'] at h
  exact ruleName_inj h

/-- The keys written are those of the positions. -/
theorem map_fst_writes {cs : List (Rule × Nat)} {ws : List (String × Policy)}
    (h : Writes policies td action cs ws) :
    ws.map Prod.fst = (cs.map Prod.snd).map (keyAt policies) := by
  induction h with
  | nil => rfl
  | cons h _ ih => rw [List.map_cons, ih, h.1]; rfl

/-- A compiled rule is among the writes, under the key of its position. -/
theorem mem_writes {cs : List (Rule × Nat)} {ws : List (String × Policy)}
    (h : Writes policies td action cs ws)
    {rule : Rule} {j : Nat} (hc : (rule, j) ∈ cs) :
    ∃ g, Generates td action rule g ∧ (keyAt policies j, g) ∈ ws := by
  induction h with
  | nil => cases hc
  | @cons c w _ _ h _ ih =>
    rcases List.mem_cons.mp hc with rfl | hc
    · obtain ⟨k, g⟩ := w
      obtain ⟨rfl, hg⟩ := h
      exact ⟨g, hg, List.mem_cons_self⟩
    · obtain ⟨g, hg, hm⟩ := ih hc
      exact ⟨g, hg, List.mem_cons_of_mem _ hm⟩

/-- Rules whose entries are all set can be written. -/
theorem exists_writes {cs : List (Rule × Nat)} (h : ∀ c ∈ cs, EntriesSet c.1) :
    ∃ ws, Writes policies td action cs ws := by
  induction cs with
  | nil => exact ⟨[], .nil⟩
  | cons c cs ih =>
    obtain ⟨ws, hws⟩ := ih fun d hd => h d (List.mem_cons_of_mem _ hd)
    obtain ⟨g, hg⟩ := generates_iff.mpr (h c List.mem_cons_self)
    exact ⟨(keyAt policies c.2, g) :: ws, .cons ⟨rfl, hg⟩ hws⟩

/-- Every rule's position is one of a policy, exactly when no policy has more rules
than there are policies. -/
theorem cells_lt_iff :
    (∀ c ∈ cells policies, c.2 < policies.length) ↔ ∀ p ∈ policies, p.rules.length ≤ policies.length := by
  simp only [cells, List.mem_flatMap]
  constructor
  · intro h p hp
    by_contra hle
    have hlt : policies.length < p.rules.length := by omega
    exact lt_irrefl _ (h (p.rules[policies.length], policies.length)
      ⟨p, hp, List.mem_zipIdx_iff_getElem?.mpr (List.getElem?_eq_getElem hlt)⟩)
  · rintro h ⟨r, j⟩ ⟨p, hp, hc⟩
    have := (List.getElem?_eq_some_iff.mp (List.mem_zipIdx_iff_getElem?.mp hc)).1
    exact lt_of_lt_of_le this (h p hp)

/-- What `build` returns, unless it panics. -/
theorem build_eq_ok {r : Option RBAC} :
    build policies td action = .ok r ↔ (∀ p ∈ policies, p.rules.length ≤ policies.length) ∧
      ∃ ws : List (String × Policy), policiesOf r = GoMap.writeAll ∅ ws ∧
        (r = none ↔ policies = []) ∧ (∀ rbac, r = some rbac → rbac.action = action) ∧
        Writes policies td action (nonNil (cells policies)) ws := by
  by_cases he : policies = []
  · subst he
    constructor
    · intro h
      cases h
      exact ⟨by simp, [], rfl, by simp, by simp, .nil⟩
    · rintro ⟨-, ws, -, hr, -⟩
      rw [hr.mpr rfl]; rfl
  · rw [← cells_lt_iff]
    have hne : policies.isEmpty = false := List.isEmpty_eq_false_iff.mpr he
    simp only [build, hne, Bool.false_eq_true, ite_false, build_cells]
    rw [bind_eq_ok]
    constructor
    · rintro ⟨acc, h, hr⟩
      simp only [pure, Except.pure, Except.ok.injEq] at hr
      subst hr
      obtain ⟨hc, ws, rfl, hws⟩ := foldlM_buildRule_eq_ok.mp h
      exact ⟨hc, ws, rfl, by simp [he], by rintro _ ⟨rfl⟩; rfl, hws⟩
    · rintro ⟨hc, ws, hp, hr, ha, hws⟩
      refine ⟨_, foldlM_buildRule_eq_ok.mpr ⟨hc, ws, rfl, hws⟩, ?_⟩
      cases r with
      | none => exact absurd (hr.mp rfl) he
      | some rbac =>
        obtain ⟨a, m⟩ := rbac
        simp only [policiesOf] at hp
        subst hp
        rw [← ha _ rfl]; rfl

end

section

variable {td : TrustDomainBundle} {action : RbacAction} {policies : List DubboAuthorizationPolicy}

theorem Separated.lt (h : Separated policies) {i j : Nat} {rule : Rule} (hrule : ruleAt policies i j = some rule) :
    j < policies.length := by
  obtain ⟨p, hp, hr⟩ := Option.bind_eq_some_iff.mp hrule
  have hj := (List.getElem?_eq_some_iff.mp (Option.join_eq_some_iff.mp hr)).1
  exact lt_of_lt_of_le hj (h.inRange p (List.mem_of_getElem? hp))

/-- Each rule is written to a key of its own. -/
theorem Separated.nodup_keys (h : Separated policies) {ws : List (String × Policy)}
    (hws : Writes policies td action (nonNil (cells policies)) ws) : (ws.map Prod.fst).Nodup := by
  rw [map_fst_writes hws]
  refine (nodup_positions_iff.mpr h.apart).map_on fun j hj j' hj' => ?_
  obtain ⟨⟨rule, _⟩, hm, rfl⟩ := List.mem_map.mp hj
  obtain ⟨⟨rule', _⟩, hm', rfl⟩ := List.mem_map.mp hj'
  obtain ⟨i, hi⟩ := mem_nonNil_cells.mp hm
  obtain ⟨i', hi'⟩ := mem_nonNil_cells.mp hm'
  exact keyAt_inj (h.lt hi) (h.lt hi')

/-- `build` returns, with what is written for the rules. -/
theorem Separated.built (h : Separated policies) (td : TrustDomainBundle) (action : RbacAction) : ∃ r ws,
    build policies td action = .ok r ∧ policiesOf r = GoMap.writeAll ∅ ws ∧
      Writes policies td action (nonNil (cells policies)) ws := by
  obtain ⟨ws, hws⟩ : ∃ ws, Writes policies td action (nonNil (cells policies)) ws :=
    exists_writes fun c hc => by
      obtain ⟨i, hi⟩ := mem_nonNil_cells.mp hc
      exact h.set i c.2 c.1 hi
  by_cases he : policies = []
  · subst he
    cases hws
    exact ⟨none, [], rfl, rfl, .nil⟩
  · refine ⟨some ⟨action, GoMap.writeAll ∅ ws⟩, ws, build_eq_ok.mpr ⟨h.inRange, ws, rfl, by simp [he], ?_, hws⟩, rfl, hws⟩
    rintro _ ⟨rfl⟩
    rfl

end

/-- No rule is lost exactly when no policy has more rules than there are
policies, no two policies have a rule at the same position, and all `From` and
`To` entries are set. -/
theorem noRuleLost_iff (td : TrustDomainBundle) (action : RbacAction)
    (policies : List DubboAuthorizationPolicy) :
    NoRuleLost td action policies ↔ Separated policies := by
  constructor
  · rintro ⟨r, key, hb, hent, -, hcount⟩
    obtain ⟨hrange, ws, hr, -, -, hws⟩ := build_eq_ok.mp hb
    refine ⟨hrange, nodup_positions_iff.mp ?_, fun i j rule h => ?_⟩
    · rw [hr, ← length_nonNil_cells, hws.length_eq, GoMap.card_keys_writeAll_iff] at hcount
      rw [map_fst_writes hws] at hcount
      exact hcount.of_map
    · obtain ⟨g, hg, -⟩ := hent i j rule h
      exact generates_iff.mp ⟨g, hg⟩
  · intro hsep
    obtain ⟨r, ws, hb, hr, hws⟩ := hsep.built td action
    have hn := hsep.nodup_keys hws
    refine ⟨r, fun _ j => keyAt policies j, hb, ?_, ?_, ?_⟩
    · intro i j rule h
      obtain ⟨g, hg, hm⟩ := mem_writes hws (mem_nonNil_cells.mpr ⟨i, h⟩)
      refine ⟨g, hg, ?_⟩
      rw [hr, GoMap.lookup_writeAll, GoMap.lastWrite_of_nodup hn hm, Option.some_or]
    · intro i j i' j' rule rule' h h' hk
      have hj := keyAt_inj (hsep.lt h) (hsep.lt h') hk
      subst hj
      exact ⟨hsep.apart i i' j rule rule' h h', rfl⟩
    · rw [hr, GoMap.card_keys_writeAll_iff.mpr hn, ← length_nonNil_cells, hws.length_eq]

/-- One policy with two rules: the second is looked up as policy number one. -/
theorem build_two_rules_panics :
    ¬ NoRuleLost ⟨id⟩ .DENY [{ namespace_ := "ns", name := "p", rules := [some {}, some {}] }] := by
  rintro ⟨r, key, hb, -⟩
  have h : build [{ namespace_ := "ns", name := "p", rules := [some {}, some {}] }] ⟨id⟩ .DENY =
      .error .indexOutOfRange := rfl
  rw [h] at hb
  cases hb

end Aeraki.Proof.Dubbo
