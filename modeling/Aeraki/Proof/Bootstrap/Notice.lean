import Aeraki.Framework.Watch
import Aeraki.Impl.Bootstrap.Routes
import Aeraki.Proof.Bootstrap.EnvoyFilters
import Aeraki.Proof.Xds.Relevance

/-!
# Which changes reach the cache manager

An event goes through two filters, the wrapper's and that of `ConfigUpdated`, both by
the ServiceEntries there are when it is handled. If ServiceEntries have hosts, name
their MetaProtocol ports in one way and do not share a host with others of another
protocol (`ValidEntries`), the two amount to one: an event of a DestinationRule is
sent on if its service is one of MetaProtocol (`updatesRoutes_destinationRule`). So a
change that is not noticed does not change the routes (`routes_of_not_noticed`), and
leaves which events are noticed (`noticesRoutes_of_not_noticed`): the handlers are a
watch of the inputs (`routeWatch`).
-/

namespace Aeraki.Proof.Bootstrap

open Aeraki.Impl Aeraki.Impl.Bootstrap Aeraki.Impl.Istio Aeraki.Impl.Xds Aeraki.Impl.Xds.CacheMgr
open Aeraki.Proof.EnvoyFilter Aeraki.Proof.Istio Aeraki.Proof.Xds
open Go (Comp)

/-! ## Valid ServiceEntries -/

/-- The FQDN of a ServiceEntry's first host. -/
def firstHost (se : Config ServiceEntry) : Option String := se.spec.hosts.head?.map (fqdn · se.namespace_)

theorem related_iff_firstHost {dr : Config DestinationRule} {se : Config ServiceEntry} :
    related dr se = true ↔ firstHost se = some (fqdn dr.spec.host dr.namespace_) := by
  rw [related, firstHost]
  cases se.spec.hosts.head? with
  | none => simp
  | some host => simp [isFQDNEquals, eq_comm]

/-- ServiceEntries have a host, name their MetaProtocol ports with the prefix that
`ConfigUpdated` looks for, and those of one host are all of MetaProtocol or none is. -/
structure ValidEntries (ses : List (Config ServiceEntry)) : Prop where
  hosts : ∀ se ∈ ses, se.spec.hosts ≠ []
  named : ∀ se ∈ ses, isMetaProtocolService se.spec = hasMetaProtocolPort se.spec
  sameHost : ∀ se ∈ ses, ∀ se' ∈ ses, firstHost se = firstHost se' →
    hasMetaProtocolPort se.spec = hasMetaProtocolPort se'.spec

/-- The rule is one of a MetaProtocol service. -/
def ofMetaProtocol (ses : List (Config ServiceEntry)) (dr : Config DestinationRule) : Bool :=
  ses.any fun se => related dr se && hasMetaProtocolPort se.spec

/-- The first ServiceEntry of a host decides for all. -/
theorem ValidEntries.first {ses : List (Config ServiceEntry)} (h : ValidEntries ses) (dr : Config DestinationRule) :
    ((ses.find? (related dr)).any fun se => hasMetaProtocolPort se.spec) = ofMetaProtocol ses dr := by
  cases hf : ses.find? (related dr) with
  | none =>
    refine (List.any_eq_false.mpr fun se hse => ?_).symm
    have hno : related dr se = false := by simpa using List.find?_eq_none.mp hf se hse
    simp [hno]
  | some first =>
    have hfirst := List.mem_of_find?_eq_some hf
    have hrel : related dr first = true := by simpa using List.find?_some hf
    rw [Option.any_some, Bool.eq_iff_iff, ofMetaProtocol, List.any_eq_true]
    constructor
    · exact fun hp => ⟨first, hfirst, by rw [hrel, hp]; rfl⟩
    · rintro ⟨se, hse, hp⟩
      rw [Bool.and_eq_true] at hp
      rw [h.sameHost first hfirst se hse, hp.2]
      rw [related_iff_firstHost.mp hrel, related_iff_firstHost.mp hp.1]

theorem hasSupportedPort_of_metaProtocol {service : ServiceEntry} (h : isMetaProtocolService service = true) :
    hasSupportedPort service = true := by
  obtain ⟨port, hport, hm⟩ := List.any_eq_true.mp h
  refine List.any_eq_true.mpr ⟨port, hport, decide_eq_true fun hu => ?_⟩
  rw [hu] at hm
  cases hm

/-- The wrapper lets the rules of MetaProtocol services through. -/
theorem ValidEntries.wrapper {ses : List (Config ServiceEntry)} (h : ValidEntries ses) {dr : Config DestinationRule}
    (hdr : ofMetaProtocol ses dr = true) : shouldHandleDestinationRule ses dr = true := by
  obtain ⟨se, hse, hp⟩ := List.any_eq_true.mp hdr
  rw [Bool.and_eq_true] at hp
  obtain ⟨host, hhost, hfqdn⟩ := related_iff.mp hp.1
  have hsup := hasSupportedPort_of_metaProtocol ((h.named se hse).trans hp.2)
  refine List.any_eq_true.mpr ⟨se, hse, List.any_eq_true.mpr ⟨host, List.mem_of_mem_head? hhost, ?_⟩⟩
  rw [hsup, Bool.and_true]
  simpa [isFQDNEquals, eq_comm] using hfqdn

/-! ## What the two filters do -/

/-- How the config store lists its objects does not matter if it lists them in
order. -/
theorem updatesRoutes_inOrder {o : Oracle} (ho : InOrder o) (i : Inputs) (e : InputEvent) :
    updatesRoutes i o e = updatesRoutes i {} e := by
  have hdr (c : CacheMgr) (dr : Config DestinationRule) :
      c.shouldUpdateDestinationRule o dr = c.shouldUpdateDestinationRule {} dr := by
    have h₀ : InOrder {} := fun _ => rfl
    rw [shouldUpdateDestinationRule, shouldUpdateDestinationRule, (ho.at _).list, (h₀.at _).list]
  cases e with
  | request => rfl
  | config change =>
    cases change with
    | destinationRule l1 l2 change =>
      simp only [updatesRoutes, configUpdated, funext (hdr i.cacheMgr)]
    | _ => rfl

theorem updatesRoutes_congr {i j : Inputs} (h : i.store.serviceEntries = j.store.serviceEntries) (o : Oracle)
    (e : InputEvent) : updatesRoutes i o e = updatesRoutes j o e := by
  cases e with
  | request => rfl
  | config change =>
    cases change with
    | destinationRule l1 l2 change =>
      have hdr : i.cacheMgr.shouldUpdateDestinationRule o = j.cacheMgr.shouldUpdateDestinationRule o := by
        funext dr
        simp only [shouldUpdateDestinationRule, Inputs.cacheMgr, h]
      simp only [updatesRoutes, configUpdated, h, hdr]
    | _ => simp only [updatesRoutes, configUpdated, h]

/-- Changes of VirtualServices and Gateways send nothing on. -/
theorem updatesRoutes_other {i : Inputs} {o : Oracle} {change : StoreChange}
    (h : (∃ l1 l2 c, change = .virtualService l1 l2 c) ∨ ∃ l1 l2 c, change = .gateway l1 l2 c) :
    updatesRoutes i o (.config change) = .ok false := by
  have hno {σ : Type} (c : Change σ) : updated (fun _ => return false) c = .ok false := by
    rw [show (fun _ => return false : Config σ → Comp Bool) = fun _ => .ok false from rfl, updated_ok]
    cases c.prev <;> rfl
  rcases h with ⟨l1, l2, c, rfl⟩ | ⟨l1, l2, c, rfl⟩
  · simp only [updatesRoutes, configUpdated, hno]
    split <;> rfl
  · simp only [updatesRoutes, configUpdated, hno]
    split <;> rfl

/-- A change of a ServiceEntry is sent on by what the ServiceEntry is. -/
theorem updatesRoutes_serviceEntry {i : Inputs} {o : Oracle} {l1 l2 : List (Config ServiceEntry)}
    {change : Change ServiceEntry} :
    updatesRoutes i o (.config (.serviceEntry l1 l2 change)) =
      .ok (callsHandler shouldHandleServiceEntryChange change &&
        (hasMetaProtocolPort change.curr.spec || change.prev.any (hasMetaProtocolPort ·.spec))) := by
  have hupdated : updated shouldUpdateServiceEntry change = _ := updated_ok (hasMetaProtocolPort ·.spec) change
  simp only [updatesRoutes, wrapperCalls, configUpdated, hupdated]
  cases callsHandler shouldHandleServiceEntryChange change <;> rfl

/-- `ConfigUpdated` looks whether a rule is one of a MetaProtocol service. -/
theorem configUpdated_destinationRule {c : CacheMgr} {o : Oracle} (ho : InOrder o)
    (hv : ValidEntries c.store.serviceEntries) {l1 l2 : List (Config DestinationRule)}
    {change : Change DestinationRule} :
    c.configUpdated o (.destinationRule l1 l2 change) =
      .ok (ofMetaProtocol c.store.serviceEntries change.curr ||
        change.prev.any (ofMetaProtocol c.store.serviceEntries)) := by
  have hfirst : alarm c.store.serviceEntries = ofMetaProtocol c.store.serviceEntries := funext hv.first
  rw [configUpdated_destinationRule_eq hv.hosts, (ho.at _).list, hfirst]

/-- A change of a DestinationRule is sent on if it changes a rule of a MetaProtocol
service. -/
theorem updatesRoutes_destinationRule {i : Inputs} {o : Oracle} (ho : InOrder o)
    (hv : ValidEntries i.store.serviceEntries) {l1 l2 : List (Config DestinationRule)}
    {change : Change DestinationRule} :
    updatesRoutes i o (.config (.destinationRule l1 l2 change)) =
      .ok (!sameSpec change.prev change.curr change.event &&
        (ofMetaProtocol i.store.serviceEntries change.curr ||
          change.prev.any (ofMetaProtocol i.store.serviceEntries))) := by
  have hconfig : i.cacheMgr.configUpdated o (.destinationRule l1 l2 change) =
      .ok (ofMetaProtocol i.store.serviceEntries change.curr ||
        change.prev.any (ofMetaProtocol i.store.serviceEntries)) := configUpdated_destinationRule ho hv
  simp only [updatesRoutes, wrapperCalls, hconfig, callsHandler]
  cases sameSpec change.prev change.curr change.event with
  | true => rfl
  | false =>
    cases hm : ofMetaProtocol i.store.serviceEntries change.curr ||
        change.prev.any (ofMetaProtocol i.store.serviceEntries) with
    | false => simp [pure, Except.pure]
    | true =>
      -- what the second filter lets through, the first one does
      have hwrapper : shouldHandleDestinationRuleChange i.store.serviceEntries change.prev change.curr = true := by
        rw [Bool.or_eq_true] at hm
        rw [shouldHandleDestinationRuleChange, shouldHandleChange, Bool.or_eq_true]
        refine hm.imp hv.wrapper fun hprev => ?_
        cases hp : change.prev with
        | none =>
          rw [hp] at hprev
          cases hprev
        | some prev =>
          rw [hp] at hprev
          exact hv.wrapper hprev
      simp [hwrapper]

/-! ## Changes that are not noticed -/

/-- The change leaves valid ServiceEntries, from valid ones. -/
def ValidChange (i : Inputs) : InputChange → Prop
  | .config change =>
    change.SameObject ∧ ValidEntries i.store.serviceEntries ∧ ValidEntries (change.after i.store).serviceEntries
  | _ => True

/-- Whether the event is sent on, or its handler panics. -/
def noticesRoutes (i : Inputs) (e : InputEvent) : Bool :=
  match updatesRoutes i {} e with
  | .ok b => b
  | .error _ => true

theorem noticesRoutes_eq {o : Oracle} (ho : InOrder o) {i : Inputs} {e : InputEvent} {b : Bool}
    (h : updatesRoutes i o e = .ok b) : noticesRoutes i e = b := by
  rw [updatesRoutes_inOrder ho] at h
  rw [noticesRoutes, h]

theorem updatesRoutes_of_not_noticed {i : Inputs} {e : InputEvent} (h : noticesRoutes i e = false) :
    updatesRoutes i {} e = .ok false := by
  unfold noticesRoutes at h
  split at h
  · rename_i b hb
    rw [hb, h]
  · cases h

theorem update_of_sameSpec {σ : Type} [DecidableEq σ] {change : Change σ}
    (h : sameSpec change.prev change.curr change.event = true) :
    ∃ prev curr, change = .update prev curr ∧ prev.spec = curr.spec := by
  cases change with
  | add curr => simp [sameSpec, Change.event] at h
  | delete prev => simp [sameSpec, Change.event] at h
  | update prev curr => exact ⟨prev, curr, rfl, by simpa [sameSpec, Change.event, Change.prev, Change.curr] using h⟩

theorem involves_cases {σ : Type} {change : Change σ} {x : Config σ} (h : change.Involves x) :
    x = change.curr ∨ change.prev = some x := by
  cases change with
  | add curr => exact .inl (h.elim (fun h => nomatch h) Option.some.inj).symm
  | delete prev => exact .inl (h.elim Option.some.inj fun h => nomatch h).symm
  | update prev curr => exact h.symm.imp (fun h => (Option.some.inj h).symm) id

/-- A ServiceEntry whose change is not noticed is updated with its specification as it
is, or is not one of MetaProtocol. -/
theorem serviceEntry_not_noticed {i : Inputs} {l1 l2 : List (Config ServiceEntry)} {change : Change ServiceEntry}
    (hold : ValidEntries (l1 ++ (change.old.toList ++ l2))) (hnew : ValidEntries (l1 ++ (change.new.toList ++ l2)))
    (hnot : noticesRoutes i (.config (.serviceEntry l1 l2 change)) = false) :
    (∃ prev curr, change = .update prev curr ∧ prev.spec = curr.spec) ∨
      ∀ se, change.Involves se → isMetaProtocolService se.spec = false ∧ hasMetaProtocolPort se.spec = false := by
  have hnamed : ∀ se, change.Involves se → isMetaProtocolService se.spec = hasMetaProtocolPort se.spec := by
    rintro se (hse | hse)
    · exact hold.named se (by simp [hse])
    · exact hnew.named se (by simp [hse])
  have hfilters := Except.ok.inj (updatesRoutes_serviceEntry.symm.trans (updatesRoutes_of_not_noticed hnot))
  rw [Bool.and_eq_false_iff, Bool.or_eq_false_iff] at hfilters
  rcases hfilters with hwrapper | ⟨hcurr, hprev⟩
  · refine (callsHandler_eq_false.mp hwrapper).imp_right fun hunsup se hse => ?_
    have hm : isMetaProtocolService se.spec = false := by
      by_contra hm
      have hsup := hasSupportedPort_of_metaProtocol (Bool.not_eq_false _ ▸ hm)
      cases (hunsup se hse).symm.trans hsup
    exact ⟨hm, (hnamed se hse).symm.trans hm⟩
  · refine .inr fun se hse => ?_
    have hp : hasMetaProtocolPort se.spec = false := by
      rcases involves_cases hse with rfl | h
      · exact hcurr
      · rw [h] at hprev
        exact hprev
    exact ⟨(hnamed se hse).trans hp, hp⟩

/-- It leaves the rules of MetaProtocol services. -/
theorem ofMetaProtocol_of_not_noticed {i : Inputs} {l1 l2 : List (Config ServiceEntry)} {change : Change ServiceEntry}
    (hobj : change.SameObject) (hold : ValidEntries (l1 ++ (change.old.toList ++ l2)))
    (hnew : ValidEntries (l1 ++ (change.new.toList ++ l2)))
    (hnot : noticesRoutes i (.config (.serviceEntry l1 l2 change)) = false) :
    ofMetaProtocol (l1 ++ (change.new.toList ++ l2)) = ofMetaProtocol (l1 ++ (change.old.toList ++ l2)) := by
  funext dr
  unfold ofMetaProtocol
  simp only [List.any_append]
  congr 2
  rcases serviceEntry_not_noticed hold hnew hnot with ⟨prev, curr, rfl, hspec⟩ | hno
  · simp only [Change.new, Change.old, Option.toList_some, List.any_cons, List.any_nil, related, hspec, hobj.2]
  · have hfalse (x : Option (Config ServiceEntry)) (hx : ∀ se, x = some se → change.Involves se) :
        (x.toList.any fun se => related dr se && hasMetaProtocolPort se.spec) = false := by
      refine List.any_eq_false.mpr fun se hse => ?_
      simp [(hno se (hx se (Option.mem_toList.mp hse))).2]
    rw [hfalse _ fun _ => .inr, hfalse _ fun _ => .inl]

/-- So a change that is not noticed leaves which events are. -/
theorem noticesRoutes_of_not_noticed {i : Inputs} {c : InputChange} (happ : c.Applies i) (hv : ValidChange i c)
    (hnot : noticesRoutes (c.after i) c.event = false) (e : InputEvent) :
    noticesRoutes (c.after i) e = noticesRoutes i e := by
  have hsame (h : (c.after i).store.serviceEntries = i.store.serviceEntries) :
      noticesRoutes (c.after i) e = noticesRoutes i e := by
    rw [noticesRoutes, noticesRoutes, updatesRoutes_congr h]
  cases c with
  | config change =>
    cases change with
    | serviceEntry l1 l2 change =>
      obtain ⟨hobj, hold, hnew⟩ := hv
      have hses : i.store.serviceEntries = l1 ++ (change.old.toList ++ l2) := congrArg (·.serviceEntries) happ
      have hrules : ofMetaProtocol (InputChange.after i (.config (.serviceEntry l1 l2 change))).store.serviceEntries =
          ofMetaProtocol i.store.serviceEntries := by
        rw [hses]
        exact ofMetaProtocol_of_not_noticed hobj (hses ▸ hold) hnew hnot
      have h₀ : InOrder {} := fun _ => rfl
      unfold noticesRoutes
      cases e with
      | request => rfl
      | config change' =>
        cases change' with
        | serviceEntry => rw [updatesRoutes_serviceEntry, updatesRoutes_serviceEntry]
        | virtualService =>
          rw [updatesRoutes_other (.inl ⟨_, _, _, rfl⟩), updatesRoutes_other (.inl ⟨_, _, _, rfl⟩)]
        | gateway => rw [updatesRoutes_other (.inr ⟨_, _, _, rfl⟩), updatesRoutes_other (.inr ⟨_, _, _, rfl⟩)]
        | destinationRule =>
          rw [updatesRoutes_destinationRule h₀ hnew, updatesRoutes_destinationRule h₀ hold, hrules]
    | virtualService => exact hsame rfl
    | destinationRule => exact hsame rfl
    | gateway => exact hsame rfl
  | _ => exact hsame rfl

/-! ## The routes -/

/-- Of a DestinationRule only the specification is read. -/
theorem portRoute_congr {o : Oracle} {service : ServiceEntry} {metaRouter : Option MetaRouter}
    {dr dr' : Option (Config DestinationRule)} (h : dr.map (·.spec) = dr'.map (·.spec)) (port : ServicePort) :
    portRoute o service metaRouter dr port = portRoute o service metaRouter dr' port := by
  have hhash : getHashPolicy dr = getHashPolicy dr' := by
    funext subset
    unfold getHashPolicy
    cases dr <;> cases dr' <;> simp_all
  have haction (route : Option MetaRoute) : constructAction port route dr = constructAction port route dr' := by
    unfold constructAction
    rw [hhash]
  unfold portRoute
  cases metaRouter with
  | some metaRouter => simp only [constructRoute, constructMetaRoute, haction]
  | none =>
    unfold defaultRoute
    cases dr <;> cases dr' <;> simp_all

theorem serviceRoutes_bare {c c' : CacheMgr} {o : Oracle} {se se' : Config ServiceEntry} (hse : bare se = bare se')
    (hrouters : c.metaRouters = c'.metaRouters)
    (h : ∀ host, ((c.findRelatedDestinationRule (o.at se.key) host se.namespace_).map bare) =
      (c'.findRelatedDestinationRule (o.at se.key) host se.namespace_).map bare) :
    c.serviceRoutes o se = c'.serviceRoutes o se' := by
  have hspec : se.spec = se'.spec := congrArg (·.spec) hse
  have hns : se.namespace_ = se'.namespace_ := congrArg (·.namespace_) hse
  have hkey : se.key = se'.key := (congrArg (·.key) hse : (bare se).key = (bare se').key)
  have hm : c.findRelatedMetaRouter = c'.findRelatedMetaRouter := by
    funext o host
    rw [findRelatedMetaRouter, findRelatedMetaRouter, hrouters]
  have hrule (host : String) : (c.findRelatedDestinationRule (o.at se.key) host se.namespace_).map (·.spec) =
      (c'.findRelatedDestinationRule (o.at se.key) host se.namespace_).map (·.spec) := by
    have := congrArg (Option.map (·.spec)) (h host)
    simpa [Function.comp_def, bare] using this
  unfold serviceRoutes
  rw [← hspec, ← hkey, ← hns, hm]
  dsimp only
  split
  · rfl
  · split
    · rfl
    · split
      · rfl
      · rename_i host hosts _
        exact Go.mapM_congr fun p _ => portRoute_congr (hrule host) p.1

/-- The routes, however calls end. -/
def routesOf (i : Inputs) (o : { o : Oracle // InOrder o }) : Comp (List MetaProtocolRouteConfiguration) :=
  i.cacheMgr.routes o.1

theorem routes_serviceEntry {i : Inputs} {l1 l2 : List (Config ServiceEntry)} {change : Change ServiceEntry}
    (happ : i.store.serviceEntries = l1 ++ (change.old.toList ++ l2)) (hobj : change.SameObject)
    (hold : ValidEntries (l1 ++ (change.old.toList ++ l2))) (hnew : ValidEntries (l1 ++ (change.new.toList ++ l2)))
    (hnot : noticesRoutes i (.config (.serviceEntry l1 l2 change)) = false) :
    routesOf { i with store := { i.store with serviceEntries := l1 ++ (change.new.toList ++ l2) } } = routesOf i := by
  funext o
  have hcongr (ses : List (Config ServiceEntry)) :
      CacheMgr.generateMetaRoutes ⟨{ i.store with serviceEntries := l1 ++ (change.new.toList ++ l2) },
        i.metaRouters.map (·.object)⟩ o.1 ses = i.cacheMgr.generateMetaRoutes o.1 ses :=
    generateMetaRoutes_congr fun se _ => rfl
  show CacheMgr.generateMetaRoutes _ o.1 _ = CacheMgr.generateMetaRoutes _ o.1 _
  rw [(o.2.at _).list, (o.2.at _).list, show i.cacheMgr.store.serviceEntries = _ from happ]
  refine (hcongr _).trans ?_
  show i.cacheMgr.generateMetaRoutes o.1 (l1 ++ (change.new.toList ++ l2)) = _
  rcases serviceEntry_not_noticed hold hnew hnot with ⟨prev, curr, rfl, hspec⟩ | hno
  · -- the same routes, of a ServiceEntry with other annotations
    simp only [generateMetaRoutes, List.mapM_append, Change.new, Change.old, Option.toList_some, List.mapM_cons,
      serviceRoutes_bare (c := i.cacheMgr) (o := o.1) (bare_eq hobj hspec) rfl fun _ => rfl]
  · have hnil (x : Option (Config ServiceEntry)) (hx : ∀ se, x = some se → change.Involves se) (se : Config ServiceEntry)
        (hse : x = some se) : i.cacheMgr.serviceRoutes o.1 se = .ok [] :=
      serviceRoutes_nil fun hm => by
        rw [(hno se (hx se hse)).1] at hm
        cases hm
    rw [generateMetaRoutes_skip (hnil change.new fun _ => .inr), generateMetaRoutes_skip (hnil change.old fun _ => .inl)]

theorem routes_destinationRule {i : Inputs} {l1 l2 : List (Config DestinationRule)} {change : Change DestinationRule}
    (happ : i.store.destinationRules = l1 ++ (change.old.toList ++ l2)) (hobj : change.SameObject)
    (hv : ValidEntries i.store.serviceEntries)
    (hnot : noticesRoutes i (.config (.destinationRule l1 l2 change)) = false) :
    routesOf { i with store := { i.store with destinationRules := l1 ++ (change.new.toList ++ l2) } } = routesOf i := by
  funext o
  have hfilters := Except.ok.inj ((updatesRoutes_destinationRule (fun _ => rfl) hv).symm.trans
    (updatesRoutes_of_not_noticed hnot))
  rw [Bool.and_eq_false_iff, Bool.not_eq_false'] at hfilters
  rcases hfilters with hsame | hno
  · -- the same rule, with other annotations
    obtain ⟨prev, curr, rfl, hspec⟩ := update_of_sameSpec hsame
    show CacheMgr.generateMetaRoutes _ o.1 _ = CacheMgr.generateMetaRoutes _ o.1 _
    rw [(o.2.at _).list, (o.2.at _).list]
    refine generateMetaRoutes_congr fun se _ => serviceRoutes_bare rfl rfl fun host => ?_
    simp only [findRelatedDestinationRule, ((o.2.at _).at _).list]
    rw [show i.cacheMgr.store.destinationRules = _ from happ]
    refine find?_swap ?_ l1 l2
    simp only [Change.new, Change.old, Option.toList_some, List.find?_singleton, hspec, hobj.2]
    split
    · exact congrArg some (bare_eq hobj hspec).symm
    · rfl
  · have hbefore : (StoreChange.destinationRule l1 l2 change).before i.store = i.store := by
      show { i.store with destinationRules := l1 ++ (change.old.toList ++ l2) } = i.store
      rw [← happ]
    have hsame := @routes_of_unrelated (i.metaRouters.map (·.object)) o.1 i.store l1 l2 change o.2
      fun dr hdr se hse hm => ?_
    · rw [hbefore] at hsame
      exact hsame.symm
    · by_contra hrel
      have hof : ofMetaProtocol i.store.serviceEntries dr = true :=
        List.any_eq_true.mpr ⟨se, hse, by rw [← hv.named se hse, hm, Bool.and_true]; simpa using hrel⟩
      rw [updated_eq_true.mpr ⟨dr, hdr, hof⟩] at hno
      cases hno

/-- A change that is not noticed does not change the routes. -/
theorem routes_of_not_noticed {i : Inputs} {c : InputChange} (happ : c.Applies i) (hv : ValidChange i c)
    (hnot : noticesRoutes (c.after i) c.event = false) : routesOf (c.after i) = routesOf i := by
  have hnot' : noticesRoutes i c.event = false := (noticesRoutes_of_not_noticed happ hv hnot _).symm.trans hnot
  cases c with
  | config change =>
    obtain ⟨hobj, hold, hnew⟩ := hv
    cases change with
    | serviceEntry l1 l2 change =>
      have hses : i.store.serviceEntries = l1 ++ (change.old.toList ++ l2) := congrArg (·.serviceEntries) happ
      exact routes_serviceEntry hses hobj (hses ▸ hold) hnew hnot'
    | destinationRule l1 l2 change =>
      exact routes_destinationRule (congrArg (·.destinationRules) happ) hobj hold hnot'
    | virtualService => exact funext fun o => generateMetaRoutes_congr fun se _ => rfl
    | gateway => exact funext fun o => generateMetaRoutes_congr fun se _ => rfl
  | metaRouter l1 l2 change =>
    have hobjects := objects_of_not_passes hnot l1 l2
    rw [← show i.metaRouters = l1 ++ (change.old.toList ++ l2) from happ] at hobjects
    funext o
    simp only [routesOf, Inputs.cacheMgr, InputChange.after, hobjects]
  | _ => rfl

/-- The handlers as a watch of the inputs. -/
def routeWatch : Watch Inputs InputEvent ({ o : Oracle // InOrder o } → Comp (List MetaProtocolRouteConfiguration)) where
  derive := routesOf
  change i e j := ∃ c : InputChange, c.Applies i ∧ ValidChange i c ∧ e = c.event ∧ j = c.after i
  wakes := noticesRoutes
  missed := by
    rintro i j e ⟨c, happ, hv, rfl, rfl⟩ hnot
    exact routes_of_not_noticed happ hv hnot
  stable := by
    rintro i j e ⟨c, happ, hv, rfl, rfl⟩ hnot e'
    exact noticesRoutes_of_not_noticed happ hv hnot e'

end Aeraki.Proof.Bootstrap
