import Aeraki.Proof.Dubbo.Patterns
import Aeraki.Proof.EnvoyFilter.Destinations

/-!
# Dubbo routes and VirtualServices

The meaning of a VirtualService's HTTP routes for Dubbo requests, and of the
routes that `buildRoute` makes of them. It reads the first match entry of a
route, and drops the header conditions without a kind, which ask for presence
(`routeAccepts_eq`). So its routes preserve the VirtualService's if and only if
this makes no difference at the HTTP routes up to the selected one, and the
weights there are not negative (`preserved_iff`); in particular, for requests with a
method of one line, if every HTTP route is read as a whole
(`preserved_of_readWhole`).
-/

namespace Aeraki.Proof.Dubbo

open Aeraki.Impl Aeraki.Impl.Dubbo

/-! ## First matches -/

section

variable {α : Type} {p q : α → Bool}

/-- The two conditions agree on each element that a search for the second one
comes to. -/
def Agree (p q : α → Bool) (xs : List α) : Prop :=
  ∀ (i : Nat) (x : α), xs[i]? = some x → (∀ (j : Nat) (y : α), j < i → xs[j]? = some y → q y = false) → p x = q x

theorem agree_cons {x : α} {xs : List α} : Agree p q (x :: xs) ↔ p x = q x ∧ (q x = false → Agree p q xs) := by
  constructor
  · intro h
    refine ⟨h 0 x rfl fun j _ hj => absurd hj (Nat.not_lt_zero j), fun hq i y hi hbefore => h (i + 1) y hi ?_⟩
    rintro (_ | j) z hj hz
    · cases hz
      exact hq
    · exact hbefore j z (Nat.lt_of_succ_lt_succ hj) hz
  · rintro ⟨hx, hxs⟩ (_ | i) y hi hbefore
    · cases hi
      exact hx
    · refine hxs (hbefore 0 x (Nat.succ_pos i) rfl) i y hi fun j z hj hz => ?_
      exact hbefore (j + 1) z (Nat.succ_lt_succ hj) hz

/-- Searches in two lists find the same place if the conditions agree. -/
theorem findIdx?_eq_of_forall₂ {β : Type} {r : β → Bool} {xs : List α} {ys : List β}
    (h : List.Forall₂ (fun x y => p x = r y) xs ys) : xs.findIdx? p = ys.findIdx? r := by
  induction h with
  | nil => rfl
  | cons hxy _ ih => rw [List.findIdx?_cons, List.findIdx?_cons, hxy, ih]

/-- Two searches find the same place if and only if they agree as far as they go. -/
theorem findIdx?_eq_iff : ∀ {xs : List α}, xs.findIdx? p = xs.findIdx? q ↔ Agree p q xs
  | [] => iff_of_true rfl fun _ _ h => nomatch h
  | x :: xs => by
    rw [List.findIdx?_cons, List.findIdx?_cons, agree_cons, ← findIdx?_eq_iff]
    have hmap : (xs.findIdx? p).map (· + 1) = (xs.findIdx? q).map (· + 1) ↔ xs.findIdx? p = xs.findIdx? q :=
      (Option.map_injective (add_left_injective 1)).eq_iff
    cases p x <;> cases q x <;> simp [hmap, eq_comm]

end

/-! ## Requests -/

/-- A Dubbo request, as far as routes read it. -/
structure DubboRequest where
  method : String
  headers : String → Option String

section

variable (engine : String → String → Bool)

/-- A condition on a string. -/
def typeAccepts : MatchType → String → Bool
  | .exactMatch s, x => x == s
  | .prefixMatch s, x => Go.hasPrefix x s
  | .regexMatch s, x => engine s x

variable (req : DubboRequest)

/-- The method condition of a match entry; none holds always. -/
def methodHolds (method : Option StringMatch) : Bool :=
  match method.bind (·.matchType) with
  | some t => typeAccepts engine t req.method
  | none => true

/-- A header condition; one without a kind asks for presence. -/
def headerHolds (name : String) (value : StringMatch) : Bool :=
  match value.matchType with
  | some t => (req.headers name).any (typeAccepts engine t)
  | none => (req.headers name).isSome

/-- All conditions of a match entry hold. -/
def entryHolds (m : HTTPMatchRequest) : Bool :=
  methodHolds engine req m.method && m.headers.sorted.all fun h => headerHolds engine req h.1 h.2

/-- The HTTP route selects the request: it has no match entries, or one holds. -/
def selects (http : HTTPRoute) : Bool := http.matches_.isEmpty || http.matches_.any (entryHolds engine req)

/-- A header matcher of Envoy. -/
def headerAccepts (h : HeaderMatcher) : Bool :=
  match h.headerMatchSpecifier with
  | .exactMatch s => (req.headers h.name).any (· == s)
  | .prefixMatch s => (req.headers h.name).any (Go.hasPrefix · s)
  | .safeRegexMatch regex => (req.headers h.name).any (engine regex)
  | .presentMatch b => (req.headers h.name).isSome == b

/-- A Dubbo route of Envoy. -/
def routeAccepts (route : DubboRoute) : Bool :=
  route.method.accepts engine req.method && route.headers.all (headerAccepts engine req)

/-- The method has no newline, so that `.*` accepts it. -/
def oneLine : Bool := !req.method.toList.contains '\n'

/-- What the code reads of an HTTP route: the method condition of its first
match entry, and the header conditions that have a kind. -/
def readHolds (http : HTTPRoute) : Bool :=
  match http.matches_ with
  | [] => oneLine req
  | m :: _ =>
    (if (m.method.bind (·.matchType)).isSome then methodHolds engine req m.method else oneLine req) &&
      m.headers.sorted.all fun h => h.2.matchType.isNone || headerHolds engine req h.1 h.2

end

/-! ## What the routes accept -/

section

variable {engine : String → String → Bool} (hengine : Regex.Implements engine) {req : DubboRequest}
include hengine

theorem anyMethod_accepts : anyMethod.accepts engine req.method = oneLine req := by
  show engine ".*" req.method = _
  rw [hengine ".*" req.method (by decide)]
  have h : Regex.accepts [Regex.Item.dotStar] req.method.toList = oneLine req := by
    rw [Bool.eq_iff_iff, Regex.accepts_dotStar]
    simp [oneLine]
  exact h

/-- The method matcher of a route. -/
theorem buildMethodMatch_accepts (http : HTTPRoute) : (buildMethodMatch http).accepts engine req.method =
    match http.matches_ with
    | [] => oneLine req
    | m :: _ => if (m.method.bind (·.matchType)).isSome then methodHolds engine req m.method else oneLine req := by
  unfold buildMethodMatch methodHolds
  rcases http.matches_ with _ | ⟨⟨method, headers⟩, ms⟩
  · exact anyMethod_accepts hengine
  · simp only [List.head?_cons, Option.bind_some]
    cases method.bind (·.matchType) with
    | none => exact anyMethod_accepts hengine
    | some t => cases t <;> rfl

end

/-- The matcher of a header condition, if it has one. -/
theorem headerMatcher_accepts {engine : String → String → Bool} {req : DubboRequest} {name : String}
    {value : StringMatch} : (headerMatcher name value).all (headerAccepts engine req) =
      (value.matchType.isNone || headerHolds engine req name value) := by
  unfold headerMatcher headerHolds
  cases value.matchType with
  | none => rfl
  | some t => cases t <;> rfl

/-- The header matchers of a route, in whatever order the headers come. -/
theorem buildHeaderMatch_accepts {engine : String → String → Bool} {req : DubboRequest} (o : Oracle)
    (http : HTTPRoute) : (buildHeaderMatch o http).all (headerAccepts engine req) =
    match http.matches_ with
    | [] => true
    | m :: _ => m.headers.sorted.all fun h => h.2.matchType.isNone || headerHolds engine req h.1 h.2 := by
  unfold buildHeaderMatch
  cases http.matches_ with
  | nil => rfl
  | cons m ms =>
    rw [Bool.eq_iff_iff, List.all_eq_true, List.all_eq_true]
    simp only [List.mem_filterMap, forall_exists_index, and_imp, Prod.forall, Oracle.range, GoMap.mem_range,
      GoMap.mem_sorted, ← headerMatcher_accepts, Option.all_eq_true]
    constructor
    · exact fun h name value hvalue x hx => h x name value hvalue hx
    · exact fun h x name value hvalue hx => h name value hvalue x hx

/-- A route accepts a request if and only if what the code read of its HTTP route
holds. -/
theorem routeAccepts_eq {engine : String → String → Bool} (hengine : Regex.Implements engine) {req : DubboRequest}
    {o : Oracle} {http : HTTPRoute} {action : ClusterSpecifier} :
    routeAccepts engine req ⟨buildMethodMatch http, buildHeaderMatch o http, action⟩ = readHolds engine req http := by
  unfold routeAccepts readHolds
  rw [buildMethodMatch_accepts hengine, buildHeaderMatch_accepts]
  cases http.matches_ with
  | nil => exact Bool.and_true _
  | cons m ms => rfl

/-! ## What they do -/

/-- The weight a cluster gets is that of its destination unless it is negative. -/
theorem toUInt32_eq_iff (w : Int32) : (w.toUInt32.toNat : Int) = w.toInt ↔ 0 ≤ w.toInt := by
  have h : w.toInt = if 2 * w.toUInt32.toNat < 2 ^ 32 then (w.toUInt32.toNat : Int)
      else (w.toUInt32.toNat : Int) - (2 ^ 32 : Nat) := BitVec.toInt_eq_toNat_cond w.toBitVec
  have hlt : w.toUInt32.toNat < 2 ^ 32 := w.toUInt32.toNat_lt
  split at h <;> omega

section

variable {service : ServiceEntry} {http : HTTPRoute}

/-- The cluster of the subset of a destination. -/
def SubsetCluster (service : ServiceEntry) (r : HTTPRouteDestination) (name : String) : Prop :=
  ∃ d host port, r.destination = some d ∧ service.hosts.head? = some host ∧ service.ports.head? = some port ∧
    name = buildClusterName .outbound d.subset host port.number

/-- The action gives the cluster of the destination's subset, or those of
several with their weights. -/
def Acts (service : ServiceEntry) (http : HTTPRoute) : ClusterSpecifier → Prop
  | .cluster name => ∃ r, http.route = [r] ∧ SubsetCluster service r name
  | .weightedClusters w => 1 < http.route.length ∧
      List.Forall₂ (fun r c => SubsetCluster service r c.name ∧ (c.weight.toNat : Int) = r.weight.toInt)
        http.route w.clusters

/-- Several destinations have weights that are not negative. -/
def Weighted (http : HTTPRoute) : Prop := 1 < http.route.length → ∀ r ∈ http.route, 0 ≤ r.weight.toInt

theorem subsetCluster_of_destinationCluster {r : HTTPRouteDestination} {name : String}
    (h : destinationCluster service r.destination = .ok name) : SubsetCluster service r name := by
  obtain ⟨d, hd, h⟩ := Go.bind_eq_ok.mp h
  obtain ⟨host, hhost, h⟩ := Go.bind_eq_ok.mp h
  obtain ⟨port, hport, h⟩ := Go.bind_eq_ok.mp h
  cases h
  exact ⟨d, host, port, Go.deref_eq_ok.mp hd, List.head?_eq_getElem?.trans (Go.index_eq_ok.mp hhost),
    List.head?_eq_getElem?.trans (Go.index_eq_ok.mp hport), rfl⟩

/-- The clusters of several destinations are those of their subsets. -/
theorem clusterWeights_forall {clusters : List ClusterWeight} (h : clusterWeights http service = .ok clusters) :
    List.Forall₂ (fun r c => SubsetCluster service r c.name ∧ c.weight = r.weight.toUInt32) http.route clusters := by
  refine (Go.mapM_ok_forall h).imp fun r c hc => ?_
  obtain ⟨name, hname, hc⟩ := Go.bind_eq_ok.mp hc
  cases hc
  exact ⟨subsetCluster_of_destinationCluster hname, rfl⟩

/-- They get the weights of the destinations unless those are negative. -/
theorem weights_iff {rs : List HTTPRouteDestination} {clusters : List ClusterWeight}
    (h : List.Forall₂ (fun r c => SubsetCluster service r c.name ∧ c.weight = r.weight.toUInt32) rs clusters) :
    List.Forall₂ (fun r c => SubsetCluster service r c.name ∧ (c.weight.toNat : Int) = r.weight.toInt) rs clusters ↔
      ∀ r ∈ rs, 0 ≤ r.weight.toInt := by
  induction h with
  | nil => simp
  | cons hrc _ ih =>
    rw [List.forall₂_cons, ih, List.forall_mem_cons, ← toUInt32_eq_iff, hrc.2, and_iff_right hrc.1]

/-- The action of an HTTP route is right unless weights are negative. -/
theorem acts_iff {action : ClusterSpecifier} (h : buildRouteAction http service = .ok action) :
    Acts service http action ↔ Weighted http := by
  unfold buildRouteAction at h
  split at h
  · rename_i hlen
    obtain ⟨clusters, hclusters, h⟩ := Go.bind_eq_ok.mp h
    cases h
    have hweights := weights_iff (clusterWeights_forall hclusters)
    exact ⟨fun h _ => hweights.mp h.2, fun h => ⟨hlen, hweights.mpr (h hlen)⟩⟩
  · rename_i hlen
    obtain ⟨r, hr, h⟩ := Go.bind_eq_ok.mp h
    obtain ⟨name, hname, h⟩ := Go.bind_eq_ok.mp h
    cases h
    refine iff_of_true ⟨r, ?_, subsetCluster_of_destinationCluster hname⟩ fun h => absurd h hlen
    generalize http.route = route at hr hlen ⊢
    rcases route with _ | ⟨r', _ | ⟨r'', rs⟩⟩
    · cases hr
    · cases hr
      rfl
    · exact absurd (Nat.succ_lt_succ (Nat.succ_pos _)) hlen

end

/-! ## Preserved matching -/

section

variable {o : Oracle} {service : ServiceEntry} {vs : VirtualService} {routes : List DubboRoute}

/-- The route is the one of the HTTP route, under some order of its headers. -/
def RouteOf (service : ServiceEntry) (http : HTTPRoute) (route : DubboRoute) : Prop :=
  ∃ o action, buildRouteAction http service = .ok action ∧
    route = ⟨buildMethodMatch http, buildHeaderMatch o http, action⟩

theorem buildRoute_forall (h : buildRoute o service vs = .ok routes) :
    List.Forall₂ (RouteOf service) vs.http routes := by
  have hforall : List.Forall₂ (fun h route => RouteOf service h.1 route) vs.http.zipIdx routes := by
    refine (Go.mapM_ok_forall h).imp fun h route hroute => ?_
    obtain ⟨action, haction, hroute⟩ := Go.bind_eq_ok.mp hroute
    cases hroute
    exact ⟨_, action, haction, rfl⟩
  rw [← List.zipIdx_map_fst 0 vs.http, List.forall₂_map_left_iff]
  exact hforall

theorem getElem?_of_forall₂ {α β : Type} {R : α → β → Prop} {xs : List α} {ys : List β} (h : List.Forall₂ R xs ys)
    {i : Nat} {x : α} (hx : xs[i]? = some x) : ∃ y, ys[i]? = some y ∧ R x y := by
  induction h generalizing i with
  | nil => cases hx
  | cons hxy _ ih =>
    cases i with
    | zero =>
      cases hx
      exact ⟨_, rfl, hxy⟩
    | succ i => exact ih hx

variable {engine : String → String → Bool} {req : DubboRequest}

/-- The routes are built, the first that accepts the request is that of the first
HTTP route that selects it, and it acts as that one says. -/
def Preserved (engine : String → String → Bool) (o : Oracle) (service : ServiceEntry) (vs : VirtualService)
    (req : DubboRequest) : Prop :=
  ∃ routes, buildRoute o service vs = .ok routes ∧
    routes.findIdx? (routeAccepts engine req) = vs.http.findIdx? (selects engine req) ∧
    ∀ i route http, vs.http.findIdx? (selects engine req) = some i → routes[i]? = some route →
      vs.http[i]? = some http → Acts service http route.route

theorem findIdx?_routes (hengine : Regex.Implements engine) (h : buildRoute o service vs = .ok routes) :
    routes.findIdx? (routeAccepts engine req) = vs.http.findIdx? (readHolds engine req) := by
  refine (findIdx?_eq_of_forall₂ ((buildRoute_forall h).imp ?_)).symm
  rintro http route ⟨o, action, -, rfl⟩
  exact (routeAccepts_eq hengine).symm

theorem preserved_of_agree (hengine : Regex.Implements engine) (hservice : EnvoyFilter.Located service)
    (hhttp : ∀ http ∈ vs.http, EnvoyFilter.HasDestinations http)
    (hagree : Agree (readHolds engine req) (selects engine req) vs.http)
    (hweighted : ∀ i http, vs.http.findIdx? (selects engine req) = some i → vs.http[i]? = some http → Weighted http) :
    Preserved engine o service vs req := by
  obtain ⟨routes, hroutes⟩ := (EnvoyFilter.returns_dubboRoute (o := o)).mpr fun http h => ⟨hhttp http h, hservice⟩
  refine ⟨routes, hroutes, (findIdx?_routes hengine hroutes).trans (findIdx?_eq_iff.mpr hagree), ?_⟩
  intro i route http hi hroute hget
  obtain ⟨route', hroute', o', action, haction, rfl⟩ := getElem?_of_forall₂ (buildRoute_forall hroutes) hget
  cases hroute.symm.trans hroute'
  exact (acts_iff haction).mpr (hweighted i http hi hget)

/-- All conditions of the HTTP route are read: it has one match entry at most, and
its header conditions have a kind; and its weights are not negative. -/
structure ReadWhole (http : HTTPRoute) : Prop where
  entries : http.matches_.length ≤ 1
  typed : ∀ m ∈ http.matches_, ∀ h ∈ m.headers.sorted, h.2.matchType.isSome
  weighted : Weighted http

theorem ReadWhole.readHolds_eq {http : HTTPRoute} (h : ReadWhole http) (hline : oneLine req = true) :
    readHolds engine req http = selects engine req http := by
  obtain ⟨hentries, htyped, -⟩ := h
  unfold readHolds selects
  generalize http.matches_ = entries at hentries htyped ⊢
  rcases entries with _ | ⟨m, _ | ⟨m', ms⟩⟩
  · exact hline
  · have hmethod : (if (m.method.bind (·.matchType)).isSome then methodHolds engine req m.method else oneLine req) =
        methodHolds engine req m.method := by
      rw [hline, methodHolds]
      cases m.method.bind (·.matchType) <;> rfl
    have hheaders : (m.headers.sorted.all fun h => h.2.matchType.isNone || headerHolds engine req h.1 h.2) =
        m.headers.sorted.all fun h => headerHolds engine req h.1 h.2 := by
      rw [Bool.eq_iff_iff, List.all_eq_true, List.all_eq_true]
      refine forall₂_congr fun h hh => ?_
      obtain ⟨t, ht⟩ := Option.isSome_iff_exists.mp (htyped m List.mem_cons_self h hh)
      rw [ht, Option.isNone_some, Bool.false_or]
    dsimp only
    rw [hmethod, hheaders]
    simp [entryHolds]
  · exact absurd hentries (Nat.not_le_of_lt (Nat.succ_lt_succ (Nat.succ_pos _)))

/-- The routes preserve the matching of all requests with a method of one line, if
every HTTP route is read as a whole. -/
theorem preserved_of_readWhole (hengine : Regex.Implements engine) (hservice : EnvoyFilter.Located service)
    (hhttp : ∀ http ∈ vs.http, EnvoyFilter.HasDestinations http) (hwhole : ∀ http ∈ vs.http, ReadWhole http)
    (hline : oneLine req = true) : Preserved engine o service vs req := by
  refine preserved_of_agree hengine hservice hhttp (fun i http hi _ => ?_) fun i http _ hget => ?_
  · exact (hwhole http (List.mem_of_getElem? hi)).readHolds_eq hline
  · exact (hwhole http (List.mem_of_getElem? hget)).weighted

/-- The routes of a service with a host and a port, for HTTP routes with
destinations, preserve the matching of a request if and only if what is read of
each HTTP route up to the selected one holds just if the route selects the
request, and the selected one has no negative weights. -/
theorem preserved_iff (hengine : Regex.Implements engine) (hservice : EnvoyFilter.Located service)
    (hhttp : ∀ http ∈ vs.http, EnvoyFilter.HasDestinations http) :
    Preserved engine o service vs req ↔ Agree (readHolds engine req) (selects engine req) vs.http ∧
      ∀ i http, vs.http.findIdx? (selects engine req) = some i → vs.http[i]? = some http → Weighted http := by
  refine ⟨?_, fun h => preserved_of_agree hengine hservice hhttp h.1 h.2⟩
  rintro ⟨routes, hroutes, hfind, hacts⟩
  refine ⟨findIdx?_eq_iff.mp ((findIdx?_routes hengine hroutes).symm.trans hfind), fun i http hi hget => ?_⟩
  obtain ⟨route, hroute, o', action, haction, rfl⟩ := getElem?_of_forall₂ (buildRoute_forall hroutes) hget
  exact (acts_iff haction).mp (hacts i _ http hi hroute hget)

end

/-- A condition on the whole of a string. -/
def exactly (s : String) : StringMatch := ⟨some (.exactMatch s)⟩

def demoService : ServiceEntry := { hosts := ["demo.ns"], ports := [⟨20880, "tcp-dubbo"⟩] }

/-- Greetings from the beta go to two subsets, everything else to the first. -/
def canary : VirtualService where
  hosts := ["demo.ns"]
  http := [
    { matches_ := [{ method := some (exactly "sayHello"), headers := Finmap.singleton "stage" (exactly "beta") }]
      route := [{ destination := some { subset := "v1" }, weight := 80 },
        { destination := some { subset := "v2" }, weight := 20 }] },
    { route := [{ destination := some { subset := "v1" } }] }]

def betaHello : DubboRequest := ⟨"sayHello", fun name => if name = "stage" then some "beta" else none⟩

theorem canary_preserved : canary.http.findIdx? (selects modelEngine betaHello) = some 0 ∧
    Preserved modelEngine {} demoService canary betaHello := by
  have hselects : canary.http.findIdx? (selects modelEngine betaHello) = some 0 := by decide
  have hread : canary.http.findIdx? (readHolds modelEngine betaHello) = some 0 := by decide
  have hhttp : ∀ http ∈ canary.http, EnvoyFilter.HasDestinations http := by
    simp [canary, EnvoyFilter.HasDestinations]
  refine ⟨hselects, (preserved_iff implements_modelEngine ⟨by decide, by decide⟩ hhttp).mpr ⟨?_, ?_⟩⟩
  · exact findIdx?_eq_iff.mp (hread.trans hselects.symm)
  · intro i http hi hget
    cases hselects.symm.trans hi
    cases hget
    intro
    decide

/-- Two match entries for one route. -/
def greetings : VirtualService where
  hosts := ["demo.ns"]
  http := [
    { matches_ := [{ method := some (exactly "sayHello") }, { method := some (exactly "sayBye") }]
      route := [{ destination := some { subset := "v1" } }] }]

def bye : DubboRequest := ⟨"sayBye", fun _ => none⟩

/-- The second match entry selects the request, and no route accepts it. -/
theorem second_entry_not_accepted : greetings.http.findIdx? (selects modelEngine bye) = some 0 ∧
    ∃ routes, buildRoute {} demoService greetings = .ok routes ∧
      routes.findIdx? (routeAccepts modelEngine bye) = none :=
  ⟨by decide, _, rfl, by decide⟩

end Aeraki.Proof.Dubbo
