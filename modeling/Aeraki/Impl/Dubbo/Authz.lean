import Aeraki.Framework.GoMap

/-!
# Dubbo authorization policies

`DubboAuthorizationPolicy` objects and their translation to Envoy's RBAC
configuration: the matchers (`authz/matcher/string.go`, `metadata.go`), one
rule's model and what it generates (`authz/model`), and the two loops that
collect the policies generated from all rules (`authz/builder`).
-/

namespace Aeraki.Impl.Dubbo

open Go (Comp index deref)

/-! ## The API objects -/

/-- `Source`: the peers a rule applies to. -/
structure Source where
  principals : List String := []
  notPrincipals : List String := []
  namespaces : List String := []
  notNamespaces : List String := []
deriving DecidableEq

/-- `Operation`: the calls a rule applies to. -/
structure Operation where
  interfaces : List String := []
  notInterfaces : List String := []
  methods : List String := []
  notMethods : List String := []
deriving DecidableEq

/-- `Rule_From`. -/
structure RuleFrom where
  source : Option Source
deriving DecidableEq

/-- `Rule_To`. -/
structure RuleTo where
  operation : Option Operation
deriving DecidableEq

/-- `Rule`: its `From` and `To` lists hold pointers. -/
structure Rule where
  froms : List (Option RuleFrom) := []
  tos : List (Option RuleTo) := []
deriving DecidableEq

/-- `DubboAuthorizationPolicy_Action`, with the numbers that are neither. -/
inductive PolicyAction
  | ALLOW
  | DENY
  | unrecognized (n : Int)
deriving DecidableEq

/-- `DubboAuthorizationPolicy`, with the metadata the code reads. -/
structure DubboAuthorizationPolicy where
  namespace_ : String
  name : String
  action : PolicyAction := .ALLOW
  rules : List (Option Rule)
deriving DecidableEq

/-! ## Matchers -/

/-- Envoy's `StringMatcher`. -/
inductive StringMatcher
  | exactMatch (s : String)
  | prefixMatch (s : String)
  | suffixMatch (s : String)
  | safeRegex (regex : String)
deriving DecidableEq

/-- `StringMatcherRegex`. -/
def stringMatcherRegex (regex : String) : StringMatcher := .safeRegex regex

/-- `StringMatcherWithPrefix`: the matcher of `v`, with `pre` put before it
unless `v` is the wildcard. -/
def stringMatcherWithPrefix (v pre : String) : StringMatcher :=
  if v = "*" then stringMatcherRegex ".+"
  else if Go.hasPrefix v "*" then
    if pre = "" then .suffixMatch (String.ofList (v.toList.drop 1))
    else stringMatcherRegex (pre ++ ".*" ++ String.ofList (v.toList.drop 1))
  else if Go.hasSuffix v "*" then .prefixMatch (pre ++ String.ofList v.toList.dropLast)
  else .exactMatch (pre ++ v)

/-- `StringMatcher`. -/
def stringMatcher (v : String) : StringMatcher := stringMatcherWithPrefix v ""

/-- Envoy's `MetadataMatcher`: a filter, a path of keys and a string value. -/
structure MetadataMatcher where
  filter : String
  path : List String
  value : StringMatcher
deriving DecidableEq

/-- `MetadataStringMatcher`. -/
def metadataStringMatcher (filter key : String) (m : StringMatcher) : MetadataMatcher :=
  { filter := filter, path := [key], value := m }

/-! ## Envoy's RBAC -/

/-- `rbacpb.Permission`. -/
inductive Permission
  | any (b : Bool)
  | andRules (rules : List Permission)
  | orRules (rules : List Permission)
  | notRule (rule : Permission)
  | metadata (m : MetadataMatcher)

/-- `rbacpb.Principal`. -/
inductive Principal
  | any (b : Bool)
  | andIds (ids : List Principal)
  | orIds (ids : List Principal)
  | notId (id : Principal)
  | authenticated (principalName : StringMatcher)

mutual

def Permission.decEq : (p q : Permission) → Decidable (p = q)
  | .any b, q => match q with
    | .any c => decidable_of_iff (b = c) (by simp)
    | .andRules _ | .orRules _ | .notRule _ | .metadata _ => isFalse nofun
  | .andRules l, q => match q with
    | .andRules l' => haveI := Permission.decEqList l l'; decidable_of_iff (l = l') (by simp)
    | .any _ | .orRules _ | .notRule _ | .metadata _ => isFalse nofun
  | .orRules l, q => match q with
    | .orRules l' => haveI := Permission.decEqList l l'; decidable_of_iff (l = l') (by simp)
    | .any _ | .andRules _ | .notRule _ | .metadata _ => isFalse nofun
  | .notRule p, q => match q with
    | .notRule p' => haveI := Permission.decEq p p'; decidable_of_iff (p = p') (by simp)
    | .any _ | .andRules _ | .orRules _ | .metadata _ => isFalse nofun
  | .metadata m, q => match q with
    | .metadata m' => decidable_of_iff (m = m') (by simp)
    | .any _ | .andRules _ | .orRules _ | .notRule _ => isFalse nofun

def Permission.decEqList : (l l' : List Permission) → Decidable (l = l')
  | [], [] => isTrue rfl
  | [], _ :: _ => isFalse nofun
  | _ :: _, [] => isFalse nofun
  | p :: l, q :: l' =>
    haveI := Permission.decEq p q
    haveI := Permission.decEqList l l'
    decidable_of_iff (p = q ∧ l = l') (by simp)

end

instance : DecidableEq Permission := Permission.decEq

mutual

def Principal.decEq : (p q : Principal) → Decidable (p = q)
  | .any b, q => match q with
    | .any c => decidable_of_iff (b = c) (by simp)
    | .andIds _ | .orIds _ | .notId _ | .authenticated _ => isFalse nofun
  | .andIds l, q => match q with
    | .andIds l' => haveI := Principal.decEqList l l'; decidable_of_iff (l = l') (by simp)
    | .any _ | .orIds _ | .notId _ | .authenticated _ => isFalse nofun
  | .orIds l, q => match q with
    | .orIds l' => haveI := Principal.decEqList l l'; decidable_of_iff (l = l') (by simp)
    | .any _ | .andIds _ | .notId _ | .authenticated _ => isFalse nofun
  | .notId p, q => match q with
    | .notId p' => haveI := Principal.decEq p p'; decidable_of_iff (p = p') (by simp)
    | .any _ | .andIds _ | .orIds _ | .authenticated _ => isFalse nofun
  | .authenticated m, q => match q with
    | .authenticated m' => decidable_of_iff (m = m') (by simp)
    | .any _ | .andIds _ | .orIds _ | .notId _ => isFalse nofun

def Principal.decEqList : (l l' : List Principal) → Decidable (l = l')
  | [], [] => isTrue rfl
  | [], _ :: _ => isFalse nofun
  | _ :: _, [] => isFalse nofun
  | p :: l, q :: l' =>
    haveI := Principal.decEq p q
    haveI := Principal.decEqList l l'
    decidable_of_iff (p = q ∧ l = l') (by simp)

end

instance : DecidableEq Principal := Principal.decEq

/-- `rbacpb.Policy`. -/
structure Policy where
  permissions : List Permission
  principals : List Principal
deriving DecidableEq

/-- `rbacpb.RBAC_Action`. -/
inductive RbacAction
  | ALLOW
  | DENY
  | LOG
deriving DecidableEq

/-- `rbacpb.RBAC`. -/
structure RBAC where
  action : RbacAction
  policies : GoMap String Policy
deriving DecidableEq

/-! ## The model of one rule -/

/-- The implementations of the `generator` interface. -/
inductive Generator
  | interfaceGenerator
  | methodGenerator
  | srcNamespaceGenerator
  | srcPrincipalGenerator
deriving DecidableEq

/-- `generator.permission`. -/
def Generator.permission (g : Generator) (_key value : String) : Except String Permission :=
  match g with
  | .interfaceGenerator =>
    .ok (.metadata (metadataStringMatcher "envoy.filters.dubbo.rbac" "service" (stringMatcher value)))
  | .methodGenerator =>
    .ok (.metadata (metadataStringMatcher "envoy.filters.dubbo.rbac" "method" (stringMatcher value)))
  | .srcNamespaceGenerator => .error "unimplemented"
  | .srcPrincipalGenerator => .error "unimplemented"

/-- `generator.principal`. -/
def Generator.principal (g : Generator) (_key value : String) : Except String Principal :=
  match g with
  | .interfaceGenerator => .error "unimplemented"
  | .methodGenerator => .error "unimplemented"
  | .srcNamespaceGenerator =>
    .ok (.authenticated (stringMatcherRegex (".*/ns/" ++ Go.replaceAll value '*' ".*" ++ "/.*")))
  | .srcPrincipalGenerator => .ok (.authenticated (stringMatcherWithPrefix value "spiffe://"))

/-- `rule`: the values of one attribute. -/
structure AttrRule where
  key : String
  values : List String
  notValues : List String
  g : Generator
deriving DecidableEq

/-- `Model`: its permissions and principals are `ruleList`s. -/
structure Model where
  permissions : List (List AttrRule)
  principals : List (List AttrRule)
deriving DecidableEq

def attrSrcNamespace : String := "source.namespace"
def attrSrcPrincipal : String := "source.principal"
def dubboInterface : String := "dubboInterface"
def dubboMethod : String := "dubboMethod"

/-- `ruleList.insertFront`. -/
def insertFront (rules : List AttrRule) (g : Generator) (key : String)
    (values notValues : List String) : List AttrRule :=
  if values = [] ∧ notValues = [] then rules
  else { key := key, values := values, notValues := notValues, g := g } :: rules

/-- The `ruleList` of one `From` entry. -/
def fromRules (source : Option Source) : List AttrRule :=
  match source with
  | none => []
  | some s =>
    insertFront
      (insertFront [] .srcNamespaceGenerator attrSrcNamespace s.namespaces s.notNamespaces)
      .srcPrincipalGenerator attrSrcPrincipal s.principals s.notPrincipals

/-- The `ruleList` of one `To` entry. -/
def toRules (operation : Option Operation) : List AttrRule :=
  match operation with
  | none => []
  | some o =>
    insertFront
      (insertFront [] .interfaceGenerator dubboInterface o.interfaces o.notInterfaces)
      .methodGenerator dubboMethod o.methods o.notMethods

/-- `model.New`. It reads `from.Source` and `to.Operation` through pointers it
does not check. -/
def Model.new (r : Rule) : Comp (Except String Model) := do
  let principals ← r.froms.mapM fun f => do return fromRules (← deref f).source
  let principals := if r.froms = [] then [[]] else principals
  let permissions ← r.tos.mapM fun t => do return toRules (← deref t).operation
  let permissions := if r.tos = [] then [[]] else permissions
  return .ok { permissions := permissions, principals := principals }

/-- `trustdomain.Bundle`: what the code uses of it. -/
structure TrustDomainBundle where
  replaceTrustDomainAliases : List String → List String

/-- The rewriting of one rule by `MigrateTrustDomain`. -/
def AttrRule.migrate (tdBundle : TrustDomainBundle) (r : AttrRule) : AttrRule :=
  if r.key = attrSrcPrincipal then
    { r with
      values := if r.values = [] then [] else tdBundle.replaceTrustDomainAliases r.values
      notValues := if r.notValues = [] then [] else tdBundle.replaceTrustDomainAliases r.notValues }
  else r

/-- `Model.MigrateTrustDomain`. -/
def Model.migrateTrustDomain (tdBundle : TrustDomainBundle) (m : Model) : Model :=
  { m with principals := m.principals.map fun rl => rl.map (AttrRule.migrate tdBundle) }

/-- `rule.checkError`: only an ALLOW rule gives up on an error. -/
def checkError (action : RbacAction) (err : String) : Option String :=
  if action = .ALLOW then some err else none

/-- The matchers generated from a list of values: the loop shared by
`rule.permission` and `rule.principal`. -/
def generateValues {α : Type} (gen : String → Except String α) (action : RbacAction) :
    List String → Except String (List α)
  | [] => .ok []
  | v :: vs =>
    match gen v with
    | .ok p => (generateValues gen action vs).map (p :: ·)
    | .error e =>
      match checkError action e with
      | some e => .error e
      | none => generateValues gen action vs

/-- `rule.permission`. -/
def AttrRule.permission (action : RbacAction) (r : AttrRule) : Except String (List Permission) := do
  let values ← generateValues (r.g.permission r.key) action r.values
  let notValues ← generateValues (r.g.permission r.key) action r.notValues
  return (if values.isEmpty then [] else [.orRules values]) ++
    (if notValues.isEmpty then [] else [.notRule (.orRules notValues)])

/-- `rule.principal`. -/
def AttrRule.principal (action : RbacAction) (r : AttrRule) : Except String (List Principal) := do
  let values ← generateValues (r.g.principal r.key) action r.values
  let notValues ← generateValues (r.g.principal r.key) action r.notValues
  return (if values.isEmpty then [] else [.orIds values]) ++
    (if notValues.isEmpty then [] else [.notId (.orIds notValues)])

/-- `generatePermission`. -/
def generatePermission (action : RbacAction) (rl : List AttrRule) : Except String Permission := do
  let and := (← rl.mapM (AttrRule.permission action)).flatten
  return .andRules (if and.isEmpty then [.any true] else and)

/-- `generatePrincipal`. -/
def generatePrincipal (action : RbacAction) (rl : List AttrRule) : Except String Principal := do
  let and := (← rl.mapM (AttrRule.principal action)).flatten
  return .andIds (if and.isEmpty then [.any true] else and)

/-- `Model.Generate`. -/
def Model.generate (action : RbacAction) (m : Model) : Except String Policy := do
  let permissions ← m.permissions.mapM (generatePermission action)
  if permissions.isEmpty then throw "must have at least 1 permission"
  let principals ← m.principals.mapM (generatePrincipal action)
  if principals.isEmpty then throw "must have at least 1 principal"
  return { permissions := permissions, principals := principals }

/-! ## The builder -/

/-- The key of a rule in `RBAC.Policies`. -/
def ruleName (namespace_ name : String) (i : Nat) : String :=
  "ns[" ++ namespace_ ++ "]-policy[" ++ name ++ "]-rule[" ++ Go.itoa i ++ "]"

/-- The body of `build`'s inner loop. Its index `i` shadows the outer loop's:
`policies[i]` is indexed by the position of the *rule*. -/
def buildRule (policies : List DubboAuthorizationPolicy) (tdBundle : TrustDomainBundle)
    (action : RbacAction) (rules : GoMap String Policy) (i : Nat) (rule : Option Rule) :
    Comp (GoMap String Policy) := do
  let p ← index policies i
  let name := ruleName p.namespace_ p.name i
  match rule with
  | none => return rules
  | some rule =>
    match ← Model.new rule with
    | .error _ => return rules
    | .ok m =>
      match (m.migrateTrustDomain tdBundle).generate action with
      | .error _ => return rules
      | .ok generated => return rules.insert name generated

/-- `build`. -/
def build (policies : List DubboAuthorizationPolicy) (tdBundle : TrustDomainBundle)
    (action : RbacAction) : Comp (Option RBAC) := do
  if policies.isEmpty then return none
  let rules ← policies.foldlM (fun rules p =>
    p.rules.zipIdx.foldlM (fun rules r => buildRule policies tdBundle action rules r.2 r.1) rules) ∅
  return some { action := action, policies := rules }

end Aeraki.Impl.Dubbo
