import Aeraki.Framework.Matcher
import Aeraki.Proof.Dubbo.Build

/-!
# What a compiled rule means

Envoy's meaning of a generated policy (`Policy.holds`), for any truth values of
the leaf matchers, against the meaning of the rule it is generated from, with
the aliases of the trust domain in place of its principals (`RuleHoldsIn`):
they are the same (`Generates.holds_iff`). So `New` and `Generate` alone keep the
meaning of every rule whose `From` and `To` entries are set (`compiles_of_set`).
-/

namespace Aeraki.Impl.Dubbo

/-! ## Envoy's meaning of a policy -/

/-- Which leaf matchers accept a request. -/
structure Leaves where
  metadata : MetadataMatcher → Bool
  authenticated : StringMatcher → Bool

mutual

/-- A permission accepts the request. -/
def Permission.holds (σ : Leaves) : Permission → Bool
  | .any b => b
  | .andRules ps => Permission.allHold σ ps
  | .orRules ps => Permission.anyHolds σ ps
  | .notRule p => !p.holds σ
  | .metadata m => σ.metadata m

def Permission.allHold (σ : Leaves) : List Permission → Bool
  | [] => true
  | p :: ps => p.holds σ && Permission.allHold σ ps

def Permission.anyHolds (σ : Leaves) : List Permission → Bool
  | [] => false
  | p :: ps => p.holds σ || Permission.anyHolds σ ps

end

mutual

/-- A principal accepts the request. -/
def Principal.holds (σ : Leaves) : Principal → Bool
  | .any b => b
  | .andIds ps => Principal.allHold σ ps
  | .orIds ps => Principal.anyHolds σ ps
  | .notId p => !p.holds σ
  | .authenticated m => σ.authenticated m

def Principal.allHold (σ : Leaves) : List Principal → Bool
  | [] => true
  | p :: ps => p.holds σ && Principal.allHold σ ps

def Principal.anyHolds (σ : Leaves) : List Principal → Bool
  | [] => false
  | p :: ps => p.holds σ || Principal.anyHolds σ ps

end

/-- A policy accepts a request if a permission and a principal do. -/
def Policy.holds (σ : Leaves) (g : Policy) : Bool :=
  g.permissions.any (·.holds σ) && g.principals.any (·.holds σ)

theorem Permission.allHold_eq (σ : Leaves) : ∀ ps, Permission.allHold σ ps = ps.all (·.holds σ)
  | [] => rfl
  | p :: ps => by rw [Permission.allHold, Permission.allHold_eq σ ps, List.all_cons]

theorem Permission.anyHolds_eq (σ : Leaves) : ∀ ps, Permission.anyHolds σ ps = ps.any (·.holds σ)
  | [] => rfl
  | p :: ps => by rw [Permission.anyHolds, Permission.anyHolds_eq σ ps, List.any_cons]

theorem Principal.allHold_eq (σ : Leaves) : ∀ ps, Principal.allHold σ ps = ps.all (·.holds σ)
  | [] => rfl
  | p :: ps => by rw [Principal.allHold, Principal.allHold_eq σ ps, List.all_cons]

theorem Principal.anyHolds_eq (σ : Leaves) : ∀ ps, Principal.anyHolds σ ps = ps.any (·.holds σ)
  | [] => rfl
  | p :: ps => by rw [Principal.anyHolds, Principal.anyHolds_eq σ ps, List.any_cons]

/-- The connectives of permissions. -/
def permissions (σ : Leaves) : Connectives Permission where
  any := .any true
  and := .andRules
  or := .orRules
  not := .notRule
  holds := Permission.holds σ
  holds_any := by rw [Permission.holds]
  holds_and ps := by rw [Permission.holds, Permission.allHold_eq]
  holds_or ps := by rw [Permission.holds, Permission.anyHolds_eq]
  holds_not p := by rw [Permission.holds]

/-- The connectives of principals. -/
def principals (σ : Leaves) : Connectives Principal where
  any := .any true
  and := .andIds
  or := .orIds
  not := .notId
  holds := Principal.holds σ
  holds_any := by rw [Principal.holds]
  holds_and ps := by rw [Principal.holds, Principal.allHold_eq]
  holds_or ps := by rw [Principal.holds, Principal.anyHolds_eq]
  holds_not p := by rw [Principal.holds]

end Aeraki.Impl.Dubbo

namespace Aeraki.Proof.Dubbo

open Aeraki.Impl.Dubbo Go

/-! ## The meaning of a rule -/

section

variable (σ : Leaves)

/-- Some value is accepted, unless none is given, and no excluded one is. -/
def ValuesHold (accepts : String → Bool) (values notValues : List String) : Prop :=
  (values = [] ∨ ∃ v ∈ values, accepts v = true) ∧ ∀ v ∈ notValues, accepts v = false

/-- The leaf matcher of a namespace, a principal, an interface and a method. -/
def acceptsNamespace (v : String) : Bool :=
  σ.authenticated (stringMatcherRegex (".*/ns/" ++ Go.replaceAll v '*' ".*" ++ "/.*"))

@[inherit_doc acceptsNamespace]
def acceptsPrincipal (v : String) : Bool := σ.authenticated (stringMatcherWithPrefix v "spiffe://")

@[inherit_doc acceptsNamespace]
def acceptsInterface (v : String) : Bool :=
  σ.metadata (metadataStringMatcher "envoy.filters.dubbo.rbac" "service" (stringMatcher v))

@[inherit_doc acceptsNamespace]
def acceptsMethod (v : String) : Bool :=
  σ.metadata (metadataStringMatcher "envoy.filters.dubbo.rbac" "method" (stringMatcher v))

/-- The request comes from the source. -/
structure SourceHolds (s : Source) : Prop where
  namespaces : ValuesHold (acceptsNamespace σ) s.namespaces s.notNamespaces
  principals : ValuesHold (acceptsPrincipal σ) s.principals s.notPrincipals

/-- The request is of the operation. -/
structure OperationHolds (o : Operation) : Prop where
  interfaces : ValuesHold (acceptsInterface σ) o.interfaces o.notInterfaces
  methods : ValuesHold (acceptsMethod σ) o.methods o.notMethods

/-- The request satisfies one of the `From` and one of the `To` entries, where
there are any. -/
structure RuleHolds (r : Rule) : Prop where
  froms : r.froms = [] ∨ ∃ f, some f ∈ r.froms ∧ ∀ s, f.source = some s → SourceHolds σ s
  tos : r.tos = [] ∨ ∃ t, some t ∈ r.tos ∧ ∀ o, t.operation = some o → OperationHolds σ o

end

/-- The principals, with the aliases of the trust domain. -/
def aliases (td : TrustDomainBundle) (values : List String) : List String :=
  if values = [] then [] else td.replaceTrustDomainAliases values

/-- The request comes from the source, in the trust domain. -/
def SourceHoldsIn (td : TrustDomainBundle) (σ : Leaves) (s : Source) : Prop :=
  SourceHolds σ { s with principals := aliases td s.principals, notPrincipals := aliases td s.notPrincipals }

/-- The request satisfies the rule, in the trust domain. -/
structure RuleHoldsIn (td : TrustDomainBundle) (σ : Leaves) (r : Rule) : Prop where
  froms : r.froms = [] ∨ ∃ f, some f ∈ r.froms ∧ ∀ s, f.source = some s → SourceHoldsIn td σ s
  tos : r.tos = [] ∨ ∃ t, some t ∈ r.tos ∧ ∀ o, t.operation = some o → OperationHolds σ o

/-- A trust domain without aliases. -/
theorem aliases_id (values : List String) : aliases ⟨id⟩ values = values := by
  unfold aliases
  split
  · rename_i h
    exact h.symm
  · rfl

theorem ruleHoldsIn_id {σ : Leaves} {r : Rule} : RuleHoldsIn ⟨id⟩ σ r ↔ RuleHolds σ r := by
  have hsource (s : Source) : SourceHoldsIn ⟨id⟩ σ s ↔ SourceHolds σ s := by
    rw [SourceHoldsIn, aliases_id, aliases_id]
  constructor
  · rintro ⟨hf, ht⟩
    simp only [hsource] at hf
    exact ⟨hf, ht⟩
  · rintro ⟨hf, ht⟩
    refine ⟨?_, ht⟩
    simp only [hsource]
    exact hf

/-! ## Compiling one entry -/

section

variable {α : Type} {L : Connectives α} {action : RbacAction}

theorem generateValues_eq {gen : String → Except String α} {leaf : String → α} (h : ∀ v, gen v = .ok (leaf v)) :
    ∀ vs, generateValues gen action vs = .ok (vs.map leaf)
  | [] => rfl
  | v :: vs => by rw [generateValues, h, generateValues_eq h vs]; rfl

/-- Inserting a rule adds its parts: a rule without values is not inserted, and has
none. -/
theorem mapM_insertFront {gen : AttrRule → Except String (List α)} {g : Generator} {key : String}
    {values notValues : List String} {ps : List α} (h : gen ⟨key, values, notValues, g⟩ = .ok ps)
    (hnil : values = [] → notValues = [] → ps = []) {rules : List AttrRule} {pss : List (List α)}
    (hr : rules.mapM gen = .ok pss) :
    ∃ pss' : List (List α), (insertFront rules g key values notValues).mapM gen = .ok pss' ∧
      pss'.flatten = ps ++ pss.flatten := by
  unfold insertFront
  split
  · rename_i he
    rw [hnil he.1 he.2]
    exact ⟨pss, hr, rfl⟩
  · exact ⟨_, by rw [List.mapM_cons, h, hr]; rfl, rfl⟩

theorem holds_parts_map (leaf : String → α) (values notValues : List String) :
    (∀ p ∈ L.parts (values.map leaf) (notValues.map leaf), L.holds p = true) ↔
      ValuesHold (fun v => L.holds (leaf v)) values notValues := by
  simp [L.holds_parts, ValuesHold]

end

section

variable {action : RbacAction} {g : Generator} {key : String}

theorem permission_eq (σ : Leaves) {leaf : String → Permission} (h : ∀ v, g.permission key v = .ok (leaf v))
    (values notValues : List String) :
    AttrRule.permission action ⟨key, values, notValues, g⟩ =
      .ok ((permissions σ).parts (values.map leaf) (notValues.map leaf)) := by
  rw [AttrRule.permission, generateValues_eq h, generateValues_eq h]; rfl

theorem principal_eq (σ : Leaves) {leaf : String → Principal} (h : ∀ v, g.principal key v = .ok (leaf v))
    (values notValues : List String) :
    AttrRule.principal action ⟨key, values, notValues, g⟩ =
      .ok ((principals σ).parts (values.map leaf) (notValues.map leaf)) := by
  rw [AttrRule.principal, generateValues_eq h, generateValues_eq h]; rfl

end

/-- The permission of one `To` entry. -/
theorem holds_toRules (σ : Leaves) {action : RbacAction} {op : Option Operation} {p : Permission}
    (h : generatePermission action (toRules op) = .ok p) :
    p.holds σ = true ↔ ∀ o, op = some o → OperationHolds σ o := by
  cases op with
  | none =>
    cases h
    simp [Permission.holds, Permission.allHold]
  | some o =>
    have hi : AttrRule.permission action
        ⟨dubboInterface, o.interfaces, o.notInterfaces, .interfaceGenerator⟩ = _ :=
      permission_eq σ (fun _ => rfl) o.interfaces o.notInterfaces
    have hm : AttrRule.permission action ⟨dubboMethod, o.methods, o.notMethods, .methodGenerator⟩ = _ :=
      permission_eq σ (fun _ => rfl) o.methods o.notMethods
    obtain ⟨pss, hi, ei⟩ := mapM_insertFront hi (fun h h' => by rw [h, h']; rfl) List.mapM_nil
    obtain ⟨pss', hm, em⟩ := mapM_insertFront hm (fun h h' => by rw [h, h']; rfl) hi
    rw [toRules, generatePermission, hm] at h
    cases h
    refine ((permissions σ).holds_all pss'.flatten).trans ?_
    rw [em, ei, List.forall_mem_append, List.forall_mem_append, holds_parts_map, holds_parts_map]
    constructor
    · rintro ⟨hm, hi, -⟩ _ ⟨rfl⟩
      exact ⟨hi, hm⟩
    · intro h
      obtain ⟨hi, hm⟩ := h o rfl
      exact ⟨hm, hi, by simp⟩

/-- The principal of one `From` entry, in the trust domain. -/
theorem holds_fromRules (td : TrustDomainBundle) (σ : Leaves) {action : RbacAction} {source : Option Source}
    {p : Principal} (h : generatePrincipal action ((fromRules source).map (AttrRule.migrate td)) = .ok p) :
    p.holds σ = true ↔ ∀ s, source = some s → SourceHoldsIn td σ s := by
  cases source with
  | none =>
    cases h
    simp [Principal.holds, Principal.allHold]
  | some s =>
    have hn : (AttrRule.principal action ∘ AttrRule.migrate td)
        ⟨attrSrcNamespace, s.namespaces, s.notNamespaces, .srcNamespaceGenerator⟩ = _ :=
      principal_eq σ (fun _ => rfl) s.namespaces s.notNamespaces
    have hp : (AttrRule.principal action ∘ AttrRule.migrate td)
        ⟨attrSrcPrincipal, s.principals, s.notPrincipals, .srcPrincipalGenerator⟩ = _ :=
      principal_eq σ (fun _ => rfl) (aliases td s.principals) (aliases td s.notPrincipals)
    obtain ⟨pss, hn, en⟩ := mapM_insertFront hn (fun h h' => by rw [h, h']; rfl) List.mapM_nil
    obtain ⟨pss', hp, ep⟩ := mapM_insertFront hp (fun h h' => by rw [h, h']; rfl) hn
    rw [fromRules, generatePrincipal, List.mapM_map, hp] at h
    cases h
    refine ((principals σ).holds_all pss'.flatten).trans ?_
    rw [ep, en, List.forall_mem_append, List.forall_mem_append, holds_parts_map, holds_parts_map]
    constructor
    · rintro ⟨hp, hn, -⟩ _ ⟨rfl⟩
      exact ⟨hn, hp⟩
    · intro h
      obtain ⟨hn, hp⟩ := h s rfl
      exact ⟨hp, hn, by simp⟩

/-! ## Compiling a rule -/

/-- The matchers of a list of entries: one of them accepts the request exactly
when the list is empty or one of its entries does. -/
theorem any_entries_iff {α β : Type} {part : β → List AttrRule} {gen : List AttrRule → Except String α}
    {accepts : α → Bool} {spec : β → Prop} (hnil : ∀ p, gen [] = .ok p → accepts p = true)
    (hgen : ∀ x p, gen (part x) = .ok p → (accepts p = true ↔ spec x)) {entries : List (Option β)}
    {rls : List (List AttrRule)} {ps : List α}
    (hrls : entries.mapM (fun e => do return part (← deref e)) = (.ok rls : Comp (List (List AttrRule))))
    (hps : (if entries = [] then [[]] else rls).mapM gen = .ok ps) :
    ps.any accepts = true ↔ entries = [] ∨ ∃ x, some x ∈ entries ∧ spec x := by
  split at hps
  · rename_i he
    obtain ⟨p, hp, hps⟩ := mapM_ok_mem hps List.mem_cons_self
    exact iff_of_true (List.any_eq_true.mpr ⟨p, hp, hnil p hps⟩) (.inl he)
  · rename_i he
    rw [List.any_eq_true, or_iff_right he]
    constructor
    · rintro ⟨p, hp, ha⟩
      obtain ⟨rl, hrl, hp⟩ := mem_of_mapM_ok hps hp
      obtain ⟨e, he, hrl⟩ := mem_of_mapM_ok hrls hrl
      obtain ⟨x, hx, hrl⟩ := bind_eq_ok.mp hrl
      cases deref_eq_ok.mp hx
      cases hrl
      exact ⟨x, he, (hgen x p hp).mp ha⟩
    · rintro ⟨x, hx, hs⟩
      obtain ⟨rl, hrl, hrl'⟩ := mapM_ok_mem hrls hx
      cases hrl'
      obtain ⟨p, hp, hp'⟩ := mapM_ok_mem hps hrl
      exact ⟨p, hp, (hgen x p hp').mpr hs⟩

/-- What `Generate` returns. -/
theorem generate_eq_ok {action : RbacAction} {m : Model} {g : Policy} (h : m.generate action = .ok g) :
    m.permissions.mapM (generatePermission action) = .ok g.permissions ∧
      m.principals.mapM (generatePrincipal action) = .ok g.principals := by
  obtain ⟨permissions, hperm, h⟩ := bind_eq_ok.mp h
  dsimp only at h
  split at h
  · cases h
  · obtain ⟨principals, hprin, h⟩ := bind_eq_ok.mp h
    split at h <;> cases h
    exact ⟨hperm, hprin⟩

/-- The generated policy accepts what the rule does in the trust domain. -/
theorem Generates.holds_iff {td : TrustDomainBundle} {action : RbacAction} {r : Rule} {g : Policy}
    (h : Generates td action r g) (σ : Leaves) : g.holds σ = true ↔ RuleHoldsIn td σ r := by
  obtain ⟨m, hm, hg⟩ := h
  obtain ⟨froms, hfroms, hm⟩ := bind_eq_ok.mp hm
  obtain ⟨tos, htos, hm⟩ := bind_eq_ok.mp hm
  cases hm
  obtain ⟨hperm, hprin⟩ := generate_eq_ok hg
  rw [Model.migrateTrustDomain, List.mapM_map] at hprin
  have hto0 : ∀ p, generatePermission action (toRules none) = .ok p → p.holds σ = true :=
    fun _ hp => (holds_toRules σ hp).mpr fun _ ho => by cases ho
  have hfrom0 : ∀ p, generatePrincipal action ((fromRules none).map (AttrRule.migrate td)) = .ok p →
      p.holds σ = true := fun _ hp => (holds_fromRules td σ hp).mpr fun _ hs => by cases hs
  have hto := any_entries_iff hto0 (fun _ _ hp => holds_toRules σ hp) htos hperm
  have hfrom := @any_entries_iff _ _ (fun f : RuleFrom => fromRules f.source)
    (fun rl => generatePrincipal action (rl.map (AttrRule.migrate td))) _ _ hfrom0
    (fun _ _ hp => holds_fromRules td σ hp) _ _ _ hfroms hprin
  rw [Policy.holds, Bool.and_eq_true, hto, hfrom]
  exact ⟨fun h => ⟨h.2, h.1⟩, fun h => ⟨h.tos, h.froms⟩⟩

/-- Without aliases, nothing migrates. -/
theorem migrateTrustDomain_id (m : Model) : m.migrateTrustDomain ⟨id⟩ = m := by
  have hrule : AttrRule.migrate ⟨id⟩ = id := by
    funext r
    unfold AttrRule.migrate
    split
    · show { r with values := aliases ⟨id⟩ r.values, notValues := aliases ⟨id⟩ r.notValues } = r
      rw [aliases_id, aliases_id]
    · rfl
  rw [Model.migrateTrustDomain, hrule]
  simp

/-- The rule compiles without error to a policy with the same meaning. -/
def Compiles (action : RbacAction) (r : Rule) : Prop :=
  ∃ m g, Model.new r = .ok (.ok m) ∧ m.generate action = .ok g ∧ ∀ σ, g.holds σ = true ↔ RuleHolds σ r

/-- A rule whose `From` and `To` entries are set compiles to a policy with the
same meaning. -/
theorem compiles_of_set (action : RbacAction) (r : Rule) (h : EntriesSet r) : Compiles action r := by
  obtain ⟨m, hm⟩ := new_ok_iff.mpr h
  obtain ⟨g, hg⟩ := generate_ok action (new_sorted hm)
  have hgen : Generates ⟨id⟩ action r g := ⟨m, hm, by rw [migrateTrustDomain_id]; exact hg⟩
  exact ⟨m, g, hm, hg, fun σ => (hgen.holds_iff σ).trans ruleHoldsIn_id⟩

/-- A rule for the calls from a namespace other than those of one principal, to
all methods but one. -/
def fromWebRule : Rule where
  froms := [some ⟨some { namespaces := ["web"], notPrincipals := ["cluster.local/ns/web/sa/guest"] }⟩]
  tos := [some ⟨some { notMethods := ["drop*"] }⟩]

theorem fromWebRule_compiles : EntriesSet fromWebRule ∧ Compiles .DENY fromWebRule :=
  ⟨by unfold EntriesSet; decide, compiles_of_set .DENY fromWebRule (by unfold EntriesSet; decide)⟩

/-- `New` reads the source of an entry that is nil. -/
theorem nil_from_panics : ¬ Compiles .ALLOW { froms := [none] } := by
  rintro ⟨m, g, hm, -⟩
  exact absurd (new_ok_iff.mp ⟨m, hm⟩).1 (by decide)

end Aeraki.Proof.Dubbo
