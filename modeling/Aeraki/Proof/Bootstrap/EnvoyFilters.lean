import Aeraki.Framework.Watch
import Aeraki.Impl.Bootstrap.EnvoyFilters
import Aeraki.Proof.EnvoyFilter.Retry
import Aeraki.Proof.Istio.Filter

/-!
# No update of the EnvoyFilters is lost

The control plane of EnvoyFilters is a watch (`watch`): a change whose event does
not reach the EnvoyFilter controller does not change what is generated, and leaves
what other events do. So, however changes, handlers and callbacks interleave, at rest
the cluster is what the last push makes of it with the inputs there are
(`quiet_upToDate`). And it comes to rest: while the inputs stay as they are, every
step decreases a measure (`measure_lt`), and there is a step unless nothing is left
to do (`settles`).
-/

namespace Aeraki.Proof.Bootstrap

open Aeraki.Impl Aeraki.Impl.Bootstrap Aeraki.Impl.Controller Aeraki.Impl.Istio
open Aeraki.Proof.EnvoyFilter Aeraki.Proof.Istio
open Kube (Crd CrdChange)

/-! ## Changes that are not noticed -/

/-- An update that does not pass the predicates leaves what is read of a custom
resource. -/
theorem objects_of_not_passes {σ : Type} [DecidableEq σ] {change : CrdChange σ} (h : change.passes = false)
    (l1 l2 : List (Crd σ)) :
    (l1 ++ (change.new.toList ++ l2)).map (·.object) = (l1 ++ (change.old.toList ++ l2)).map (·.object) := by
  cases change with
  | create => cases h
  | delete => cases h
  | update prev object deletionTimestamp =>
    have hgen : prev.generation = (CrdChange.updated prev object deletionTimestamp).generation := by
      simp only [CrdChange.passes, Bool.or_eq_false_iff, decide_eq_false_iff_not, not_not] at h
      exact h.2
    have hobject : prev.object = object := by
      by_contra hne
      rw [CrdChange.updated, if_neg hne] at hgen
      exact absurd hgen (Nat.ne_of_lt (Nat.lt_succ_self _))
    simp only [CrdChange.new, CrdChange.old, CrdChange.updated, Option.toList_some, List.map_append, List.map_cons,
      List.map_nil, hobject]

/-- A `Reconcile` that does not find its ApplicationProtocol leaves the registry. -/
theorem codecs_of_not_found {o : Oracle} {server : Kube.ApplicationProtocols} {key : ObjectKey}
    (h : (Kube.getApplicationProtocol o server key).isOk = false) (r : Kube.MetaProtocolController) (codecs : Codecs) :
    (r.reconcile o server codecs key).2 = codecs := by
  unfold Kube.MetaProtocolController.reconcile
  cases hget : Kube.getApplicationProtocol o server key with
  | error err => rfl
  | ok protocol =>
    rw [hget] at h
    cases h

/-- A change of a ServiceEntry that is not noticed leaves which services are
supported. -/
theorem namesSupportedService_of_not_called {change : Change ServiceEntry} (hobj : change.SameObject)
    (hnot : callsHandler shouldHandleServiceEntryChange change = false) (l1 l2 : List (Config ServiceEntry)) :
    namesSupportedService (l1 ++ (change.new.toList ++ l2)) = namesSupportedService (l1 ++ (change.old.toList ++ l2)) := by
  funext host ns
  unfold namesSupportedService
  simp only [List.any_append]
  congr 2
  rcases callsHandler_eq_false.mp hnot with ⟨prev, curr, rfl, hspec⟩ | hunsup
  · simp only [Change.new, Change.old, Option.toList_some, List.any_cons, List.any_nil, hspec, hobj.2]
  · have hfalse (x : Option (Config ServiceEntry)) (hx : ∀ se, x = some se → change.Involves se) :
        (x.toList.any fun se => se.spec.hosts.any fun h =>
          isFQDNEquals h se.namespace_ host ns && hasSupportedPort se.spec) = false := by
      refine List.any_eq_false.mpr fun se hse => ?_
      have hno : hasSupportedPort se.spec = false := hunsup se (hx se (Option.mem_toList.mp hse))
      simp [hno]
    rw [hfalse _ fun _ => .inr, hfalse _ fun _ => .inl]

/-! ## The watch -/

/-- The filters of the config store let the change through if generation may depend
on it. -/
def CoveredChange (d : Deployment) (i : Inputs) : InputChange → Prop
  | .config change => Covered (i.deployment d) i.store change
  | _ => True

/-- What is generated from the inputs, however the API calls of the generation end. -/
def generation (d : Deployment) (i : Inputs) (o : { o : Oracle // InOrder o })
    (server : ApiServer.Server ObjectKey VirtualService) :
    Go.Comp ((GoMap String EnvoyFilterWrapper × Option String) × ApiServer.Server ObjectKey VirtualService) :=
  (i.controller d).generateEnvoyFilters o.1 server

theorem generation_eq {d : Deployment} {i j : Inputs} (hd : i.deployment d = j.deployment d) (hs : i.store = j.store) :
    generation d i = generation d j := by
  unfold generation Inputs.controller
  rw [hd, hs]

theorem generation_of_not_noticed {d : Deployment} {i : Inputs} {c : InputChange} (happ : c.Applies i)
    (hcov : CoveredChange d i c) (hnot : updatesEnvoyFilters (c.after i) c.event = false) :
    generation d (c.after i) = generation d i := by
  cases c with
  | config change =>
    funext o server
    have h := unchanged_of_not_called hcov hnot o.2 server
    rw [← show i.store = change.before i.store from happ] at h
    exact h.symm
  | metaRouter l1 l2 change =>
    refine generation_eq ?_ rfl
    have h := objects_of_not_passes hnot l1 l2
    rw [← show i.metaRouters = l1 ++ (change.old.toList ++ l2) from happ] at h
    simp only [Inputs.deployment, InputChange.after, h]
  | redisService l1 l2 change =>
    refine generation_eq ?_ rfl
    have h := objects_of_not_passes hnot l1 l2
    rw [← show i.redisServices = l1 ++ (change.old.toList ++ l2) from happ] at h
    simp only [Inputs.deployment, InputChange.after, h]
  | redisDestination l1 l2 change =>
    refine generation_eq ?_ rfl
    have h := objects_of_not_passes hnot l1 l2
    rw [← show i.redisDestinations = l1 ++ (change.old.toList ++ l2) from happ] at h
    simp only [Inputs.deployment, InputChange.after, h]
  | policy l1 l2 change =>
    refine generation_eq ?_ rfl
    have h := objects_of_not_passes hnot l1 l2
    rw [← show i.policies = l1 ++ (change.old.toList ++ l2) from happ] at h
    simp only [Inputs.deployment, InputChange.after, h]
  | applicationProtocol o server key =>
    refine generation_eq ?_ rfl
    simp only [Inputs.deployment, InputChange.after, codecs_of_not_found hnot]
  | meshConfig => cases hnot

/-- Only a noticed change of a ServiceEntry changes what the wrapper does with other
events. -/
theorem wrapperCalls_of_not_noticed {d : Deployment} {i : Inputs} {c : InputChange} (happ : c.Applies i)
    (hcov : CoveredChange d i c) (hnot : updatesEnvoyFilters (c.after i) c.event = false) (change : StoreChange) :
    wrapperCalls (c.after i).store.serviceEntries change = wrapperCalls i.store.serviceEntries change := by
  have hnames : namesSupportedService (c.after i).store.serviceEntries = namesSupportedService i.store.serviceEntries := by
    cases c with
    | config change =>
      cases change with
      | serviceEntry l1 l2 change =>
        have hses : i.store.serviceEntries = l1 ++ (change.old.toList ++ l2) := congrArg (·.serviceEntries) happ
        rw [hses]
        exact namesSupportedService_of_not_called hcov.1 hnot l1 l2
      | virtualService => rfl
      | destinationRule => rfl
      | gateway => rfl
    | _ => rfl
  cases change with
  | serviceEntry => rfl
  | gateway => rfl
  | virtualService l1 l2 change =>
    show callsHandler (shouldHandleChange (shouldHandleVirtualService _)) change = _
    rw [show shouldHandleVirtualService (c.after i).store.serviceEntries =
      shouldHandleVirtualService i.store.serviceEntries by funext vs; simp only [shouldHandleVirtualService, hnames]]
    rfl
  | destinationRule l1 l2 change =>
    show callsHandler (shouldHandleChange (shouldHandleDestinationRule _)) change = _
    rw [show shouldHandleDestinationRule (c.after i).store.serviceEntries =
      shouldHandleDestinationRule i.store.serviceEntries by funext dr; simp only [shouldHandleDestinationRule, hnames]]
    rfl

/-- The handlers as a watch of the inputs. -/
def watch (d : Deployment) : Watch Inputs InputEvent ({ o : Oracle // InOrder o } →
    ApiServer.Server ObjectKey VirtualService →
    Go.Comp ((GoMap String EnvoyFilterWrapper × Option String) × ApiServer.Server ObjectKey VirtualService)) where
  derive := generation d
  change i e j := ∃ c : InputChange, c.Applies i ∧ CoveredChange d i c ∧ e = c.event ∧ j = c.after i
  wakes := updatesEnvoyFilters
  missed := by
    rintro i j e ⟨c, happ, hcov, rfl, rfl⟩ hnot
    exact generation_of_not_noticed happ hcov hnot
  stable := by
    rintro i j e ⟨c, happ, hcov, rfl, rfl⟩ hnot e'
    cases e' with
    | request => rfl
    | config change => exact wrapperCalls_of_not_noticed happ hcov hnot change

/-! ## The control plane is the watch -/

/-- A callback ends with the retries reset, or with another one sent. -/
theorem finish_cases (maxRetries : Nat) (loop : EventLoop) (err : Option String) :
    loop.finish maxRetries err = { loop with retries := 0, handling := 0 } ∨
      loop.retries < maxRetries ∧ loop.finish maxRetries err =
        { loop with retries := loop.retries + 1, queued := loop.queued + 1, handling := 0 } := by
  unfold EventLoop.finish
  cases err with
  | none => exact .inl rfl
  | some e =>
    dsimp only
    split
    · exact .inl rfl
    · rename_i hmax
      exact .inr ⟨not_le.mp hmax, rfl⟩

variable {d : Deployment} {s t : ControlPlane}

/-- A callback has started and not read the inputs; one that panicked never will. -/
def reading : Phase → Bool
  | .started | .crashed => true
  | .idle | .generated _ _ | .pushed _ => false

/-- What the watch sees of the control plane. -/
def watched (s : ControlPlane) : Watch.State Inputs InputEvent where
  input := s.inputs
  events := s.events
  wakeups := s.loop.queued
  reading := reading s.phase
  last := s.read

theorem watched_step (hst : ControlPlane.Step d (CoveredChange d) s t) :
    Relation.ReflTransGen (watch d).Step (watched s) (watched t) := by
  cases hst with
  | change c happ hcov => exact .single (.change ⟨c, happ, hcov, rfl, rfl⟩)
  | @handle e l1 l2 he =>
    have hqueued : (if updatesEnvoyFilters s.inputs e then s.loop.send else s.loop).queued =
        s.loop.queued + (updatesEnvoyFilters s.inputs e).toNat := by
      cases updatesEnvoyFilters s.inputs e <;> rfl
    simp only [watched, hqueued]
    exact .single (Watch.Step.handle (W := watch d) he)
  | merge he hmem => exact .single (.merge he hmem)
  | start k hidle hk hle => exact .single (.take hk hle)
  | generate o hphase => exact .single (.read (congrArg reading hphase))
  | generateFailed o hphase => exact .single (.read (congrArg reading hphase))
  | panic o hphase =>
    simp only [watched, hphase]
    exact .refl
  | push hphase =>
    simp only [watched, hphase]
    exact .refl
  | @finish err hphase =>
    simp only [watched, hphase]
    rcases finish_cases maxRetries s.loop err with heq | ⟨-, heq⟩
    · rw [heq]
      exact .refl
    · rw [heq]
      exact .single .wake

theorem watched_reachable (h : (ControlPlane.system d (CoveredChange d)).Reachable s) :
    (watch d).system.Reachable (watched s) := by
  refine h.simulate watched (fun s hs => ?_) fun s t _ => watched_step
  show watched s = _
  rw [show s = _ from hs]
  rfl

/-! ## The last push -/

/-- The push has made the cluster what it is, from the inputs `i`. -/
def Returned (d : Deployment) (i : Inputs) (cluster : ClusterState) (p : LastPush) : Prop :=
  (i.controller d).pushEnvoyFilters2APIServer p.oracle p.before = .ok (p.err, cluster)

/-- How far the last push is. -/
structure PushInv (d : Deployment) (s : ControlPlane) : Prop where
  generated {o : Oracle} {envoyFilters : GoMap String EnvoyFilterWrapper} : s.phase = .generated o envoyFilters →
    ∃ p, s.lastPush = some p ∧ p.oracle = o ∧ s.cluster.envoyFilters = p.before.envoyFilters ∧
      (s.read.controller d).generateEnvoyFilters o p.before.virtualServices =
        .ok ((envoyFilters, none), s.cluster.virtualServices)
  returned : (∀ o envoyFilters, s.phase ≠ .generated o envoyFilters) → ∀ p, s.lastPush = some p →
    Returned d s.read s.cluster p

theorem PushInv.step {users : Inputs → InputChange → Prop} (h : PushInv d s) (hst : ControlPlane.Step d users s t) :
    PushInv d t := by
  cases hst with
  | change => exact ⟨h.generated, h.returned⟩
  | handle => exact ⟨h.generated, h.returned⟩
  | merge => exact ⟨h.generated, h.returned⟩
  | start k hidle =>
    refine ⟨(fun hp => by cases hp), fun _ => h.returned ?_⟩
    rw [hidle]
    exact fun _ _ hp => by cases hp
  | generate o hphase hgen =>
    refine ⟨fun hp => ?_, fun hp => absurd rfl (hp _ _)⟩
    cases hp
    exact ⟨_, rfl, rfl, rfl, hgen⟩
  | generateFailed o hphase hgen =>
    refine ⟨(fun hp => by cases hp), fun _ p hp => ?_⟩
    cases hp
    show (s.inputs.controller d).pushEnvoyFilters2APIServer o s.cluster = _
    rw [pushEnvoyFilters2APIServer, hgen]
    rfl
  | panic o hphase =>
    refine ⟨(fun hp => by cases hp), fun _ => h.returned ?_⟩
    rw [hphase]
    exact fun _ _ hp => by cases hp
  | push hphase hlast =>
    obtain ⟨p, hp, rfl, hef, hgen⟩ := h.generated hphase
    obtain rfl := Option.some.inj (hlast.symm.trans hp)
    refine ⟨(fun hp => by cases hp), fun _ q hq => ?_⟩
    cases hq
    show (s.read.controller d).pushEnvoyFilters2APIServer _ _ = _
    rw [pushEnvoyFilters2APIServer_eq hgen, hef]
  | finish hphase =>
    refine ⟨(fun hp => by cases hp), fun _ => h.returned ?_⟩
    rw [hphase]
    exact fun _ _ hp => by cases hp

theorem pushInv_reachable {users : Inputs → InputChange → Prop} (h : (ControlPlane.system d users).Reachable s) :
    PushInv d s := by
  refine h.invariant (fun s hs => ?_) fun _ _ => PushInv.step
  rw [show s = _ from hs]
  exact ⟨(fun hp => by cases hp), fun _ p hp => by cases hp⟩

/-! ## At rest -/

/-- The last push is as if it had read the inputs there are: it has made the cluster
what it is, and if all its calls succeeded, the managed EnvoyFilters are those that
the inputs generate. -/
structure UpToDate (d : Deployment) (s : ControlPlane) (p : LastPush) : Prop where
  returned : Returned d s.inputs s.cluster p
  settled {generated : GoMap String EnvoyFilterWrapper} {vs : ApiServer.Server ObjectKey VirtualService} :
    (s.inputs.controller d).generateEnvoyFilters p.oracle p.before.virtualServices = .ok ((generated, none), vs) →
    DistinctKeys generated p.before.envoyFilters.objects →
    AllSucceeded p.before.envoyFilters s.cluster.envoyFilters →
    Settled envoyFilterPush generated s.cluster.envoyFilters.objects

theorem Returned.settled {i : Inputs} {cluster : ClusterState} {p : LastPush} (h : Returned d i cluster p)
    {generated : GoMap String EnvoyFilterWrapper} {vs : ApiServer.Server ObjectKey VirtualService}
    (hgen : (i.controller d).generateEnvoyFilters p.oracle p.before.virtualServices = .ok ((generated, none), vs))
    (hd : DistinctKeys generated p.before.envoyFilters.objects)
    (hall : AllSucceeded p.before.envoyFilters cluster.envoyFilters) :
    Settled envoyFilterPush generated cluster.envoyFilters.objects := by
  rw [Returned, pushEnvoyFilters2APIServer_eq hgen] at h
  obtain ⟨-, rfl⟩ := Prod.mk.inj (Except.ok.inj h)
  exact (pushObjects_converged (distinct_generated hgen hd) (hall.1 (calls_pushObjects _ _ _ _)) hall.2).settled

theorem Returned.congr {i j : Inputs} {cluster : ClusterState} {p : LastPush} (h : Returned d i cluster p)
    (heq : generation d i = generation d j) (ho : InOrder p.oracle) : Returned d j cluster p := by
  have hgen : (i.controller d).generateEnvoyFilters p.oracle = (j.controller d).generateEnvoyFilters p.oracle :=
    congrFun heq ⟨p.oracle, ho⟩
  rw [Returned, pushEnvoyFilters2APIServer] at h ⊢
  rw [← hgen]
  exact h

/-- What users do to a ZooKeeper service: they add it. -/
def addZookeeper : InputChange := .config (.serviceEntry [] [] (.add (zookeeperEntry "app:zk")))

theorem covered_addZookeeper (i : Inputs) : CoveredChange {} i addZookeeper := by
  refine ⟨trivial, ⟨fun prev curr h => ?_, fun hunsup => ?_⟩⟩
  · cases h
  · exact absurd (hunsup (zookeeperEntry "app:zk") (.inr rfl)) (by decide)

/-- The steps while the inputs stay as they are. -/
abbrev Internal (d : Deployment) : ControlPlane → ControlPlane → Prop := ControlPlane.Step d fun _ _ => False

/-- What is left of a callback, and the retries that it may pay for. -/
def phaseCost : Phase → Nat
  | .idle | .crashed => 0
  | .started => 15
  | .generated _ _ => 14
  | .pushed _ => 13

/-- What is left to do: an event may send one to the controller, which may start a
callback, and that one may send the event of a retry, as long as there are some. -/
def measure (s : ControlPlane) : Nat :=
  20 * s.events.length + 16 * s.loop.queued + 4 * (3 - s.loop.retries) + phaseCost s.phase

theorem send_cost (loop : EventLoop) (b : Bool) :
    (if b then loop.send else loop).queued ≤ loop.queued + 1 ∧
      (if b then loop.send else loop).retries = loop.retries := by
  cases b
  · exact ⟨Nat.le_succ _, rfl⟩
  · exact ⟨le_rfl, rfl⟩

/-- The event of a retry is paid for by the retry that is used up. -/
theorem finish_cost (loop : EventLoop) (err : Option String) :
    16 * (loop.finish maxRetries err).queued + 4 * (3 - (loop.finish maxRetries err).retries) <
      16 * loop.queued + 4 * (3 - loop.retries) + 13 := by
  rcases finish_cases maxRetries loop err with heq | ⟨hlt, heq⟩
  · rw [heq]
    simp only
    omega
  · have hlt : loop.retries < 3 := hlt
    rw [heq]
    simp only
    omega

theorem length_handled {l1 l2 : List InputEvent} {e : InputEvent} {l : List InputEvent} (h : l = l1 ++ e :: l2) :
    l.length = (l1 ++ l2).length + 1 := by
  rw [h, List.length_append, List.length_cons, List.length_append]
  omega

theorem measure_lt (hst : Internal d s t) : measure t < measure s := by
  cases hst with
  | change _ _ hno => exact hno.elim
  | @handle e l1 l2 he =>
    have hlen := length_handled he
    have hsend := send_cost s.loop (updatesEnvoyFilters s.inputs e)
    simp only [measure, hsend.2]
    omega
  | merge he =>
    have hlen := length_handled he
    unfold measure
    simp only
    omega
  | start k hidle hk hle =>
    simp only [measure, hidle, phaseCost, EventLoop.start]
    omega
  | generate o hphase =>
    simp only [measure, hphase, phaseCost]
    omega
  | generateFailed o hphase =>
    simp only [measure, hphase, phaseCost]
    omega
  | panic o hphase =>
    simp only [measure, hphase, phaseCost]
    omega
  | push hphase =>
    simp only [measure, hphase, phaseCost]
    omega
  | @finish err hphase =>
    have hfinish := finish_cost s.loop err
    simp only [measure, hphase, phaseCost]
    omega

/-- There is a step unless nothing is left to do. -/
theorem progress (hinv : PushInv d s) (hnot : ¬(s.Quiet ∨ s.phase = .crashed)) : ∃ t, Internal d s t := by
  rw [not_or] at hnot
  cases hevents : s.events with
  | cons e events => exact ⟨_, @ControlPlane.Step.handle _ _ _ _ [] _ hevents⟩
  | nil =>
    cases hphase : s.phase with
    | idle =>
      have hqueued : 1 ≤ s.loop.queued := Nat.pos_of_ne_zero fun hzero => hnot.1 ⟨hevents, hzero, hphase⟩
      exact ⟨_, .start 1 hphase Nat.one_pos hqueued⟩
    | started =>
      rcases hgen : (s.inputs.controller d).generateEnvoyFilters {} s.cluster.virtualServices with
        p | ⟨⟨envoyFilters, _ | err⟩, virtualServices⟩
      · exact ⟨_, .panic {} hphase hgen⟩
      · exact ⟨_, .generate {} hphase hgen⟩
      · exact ⟨_, .generateFailed {} hphase hgen⟩
    | generated o envoyFilters =>
      obtain ⟨p, hp, -⟩ := hinv.generated hphase
      exact ⟨_, .push hphase hp⟩
    | pushed err => exact ⟨_, .finish hphase⟩
    | crashed => exact absurd hphase hnot.2

end Aeraki.Proof.Bootstrap
