import Aeraki.Proof.Bootstrap.Notice
import Aeraki.Proof.Xds.Streams

/-!
# Proxies get the current routes

However changes, handlers, updates and streams interleave, at rest every proxy with an
open stream has a snapshot of the routes that the inputs there are generate
(`quiet_served`). Four things are needed. The handlers miss no change that matters
(`routeWatch`). A node has no snapshot without a status entry, so that one that comes
back asks for an update (`NodeInv.orphan`): that holds if no stream ends whose node the
update under way has yet to set (`Calm`). An update that succeeds sets all nodes
(`NodeInv.current`). And streams stay served (`Served`), which needs that a stream that
ends is the last of its node.
-/

namespace Aeraki.Proof.Bootstrap

open Aeraki.Impl Aeraki.Impl.Bootstrap Aeraki.Impl.Xds Aeraki.Impl.Bootstrap.RoutePlane
open Aeraki.Proof.Xds
open Go (bind_eq_ok)

variable {C : SnapshotCache Snapshot} {env : Environment C} {s t : RoutePlane C}

/-! ## The environment -/

/-- No stream ends whose node the update under way has yet to set. -/
def Calm (s : RdsState C) : StreamAction → Prop
  | .closeStream id => ∀ st x nodes, s.streams.lookup id = some st → s.update = .setting x nodes → st.node ∉ nodes
  | _ => True

/-- The MetaRouters can be listed, for every service. -/
def ListsMetaRouters (o : Oracle) : Prop := ∀ key, o.callError [key, "MetaRouters"] = none

/-- Users keep the ServiceEntries valid, streams that end are the last of their node
and not in the way of an update, the config store lists its objects in order, and the
MetaRouters can be listed. -/
structure WellBehaved (env : Environment C) : Prop where
  users {i : Inputs} {c : InputChange} : env.users i c → ValidChange i c
  safe {s : RdsState C} {a : StreamAction} : env.proxies s a → Safe s a.action
  calm {s : RdsState C} {a : StreamAction} : env.proxies s a → Calm s a
  calls {o : Oracle} : env.calls o → InOrder o ∧ ListsMetaRouters o

/-! ## What steps leave -/

theorem stream_push (s : RdsState C) (a : StreamAction) :
    (s.step a.action).update = s.update ∧
      ((s.step a.action).pushChannel = s.pushChannel ∨ (s.step a.action).pushChannel = s.pushChannel + 1) := by
  have hcancel (s : RdsState C) (st : Stream) :
      (s.cancelWatch st).update = s.update ∧ (s.cancelWatch st).pushChannel = s.pushChannel := by
    unfold RdsState.cancelWatch
    split <;> exact ⟨rfl, rfl⟩
  cases a with
  | openStream id =>
    show (s.openStream id).update = _ ∧ ((s.openStream id).pushChannel = _ ∨ _)
    unfold RdsState.openStream
    split <;> exact ⟨rfl, .inl rfl⟩
  | closeStream id =>
    show (s.closeStream id).update = _ ∧ ((s.closeStream id).pushChannel = _ ∨ _)
    unfold RdsState.closeStream
    split
    · exact ⟨(hcancel _ _).1, .inl (hcancel _ _).2⟩
    · exact ⟨rfl, .inl rfl⟩
  | request id node =>
    show (s.request id node).update = _ ∧ ((s.request id node).pushChannel = _ ∨ (s.request id node).pushChannel = _)
    unfold RdsState.request
    split
    · refine ⟨(hcancel _ _).1.trans ?_, ?_⟩
      · unfold RdsState.onStreamRequest
        split <;> rfl
      · show ((s.onStreamRequest _).cancelWatch _).pushChannel = _ ∨ ((s.onStreamRequest _).cancelWatch _).pushChannel = _
        rw [(hcancel _ _).2]
        unfold RdsState.onStreamRequest
        split
        · exact .inl rfl
        · exact .inr rfl
    · exact ⟨rfl, .inl rfl⟩

theorem updateFailed_push (s : RdsState C) :
    s.updateFailed.update = .idle ∧
      (s.updateFailed.pushChannel = s.pushChannel ∨ s.updateFailed.pushChannel = s.pushChannel + 1) := by
  unfold RdsState.updateFailed
  split
  · exact ⟨rfl, .inl rfl⟩
  · exact ⟨rfl, .inr rfl⟩

section

variable {r : RdsState C}

theorem step_startIdle (hidle : r.update = .idle) (hkeys : (C.getStatusKeys r.routeCache).isEmpty = true) :
    r.step .startUpdate = r.updateDone := by
  simp only [RdsState.step, RdsState.startUpdate, hidle, hkeys, if_true]

theorem step_start (hidle : r.update = .idle) (hkeys : (C.getStatusKeys r.routeCache).isEmpty = false) :
    r.step .startUpdate = { r with update := .generating } := by
  simp only [RdsState.step, RdsState.startUpdate, hidle, hkeys, Bool.false_eq_true, if_false]

theorem step_generated (hu : r.update = .generating) (x : Snapshot) :
    r.step (.generated (some x)) = { r with update := .setting x (C.getStatusKeys r.routeCache) } := by
  simp only [RdsState.step, RdsState.generated, hu]

theorem step_generateFailed (hu : r.update = .generating) : r.step (.generated none) = r.updateFailed := by
  simp only [RdsState.step, RdsState.generated, hu]

variable {x : Snapshot} {node : String} {nodes : List String}

theorem step_set (hu : r.update = .setting x (node :: nodes)) :
    r.step (.setNext false) = { r with
      routeCache := C.setSnapshot r.routeCache node x
      answered := r.answered ∪ (C.getStatusInfo r.routeCache node).getD ∅
      update := .setting x nodes } := by
  simp only [RdsState.step, RdsState.setNext, hu, Bool.false_eq_true, if_false]

theorem step_setFailed (hu : r.update = .setting x (node :: nodes)) : r.step (.setNext true) = r.updateFailed := by
  simp only [RdsState.step, RdsState.setNext, hu, if_true]

theorem step_done (hu : r.update = .setting x []) : r.step (.setNext false) = r.updateDone := by
  simp only [RdsState.step, RdsState.setNext, hu]

end

/-! ## Nodes and their snapshots -/

/-- The snapshot is one of the inputs: it is generated from all of them. -/
def From (i : Inputs) (x : Snapshot) : Prop :=
  ∃ o now, InOrder o ∧ ListsMetaRouters o ∧ i.snapshot o now = .ok (.ok x)

/-- The node has a status entry. -/
def HasStatus (cache : C.State) (node : String) : Prop := ∃ ws, C.getStatusInfo cache node = some ws

/-- The node has a snapshot of the inputs. -/
def HasRoutes (i : Inputs) (cache : C.State) (node : String) : Prop :=
  ∃ x, C.getSnapshot cache node = some x ∧ From i x

/-- Where an update is, the node has got its routes or will get them. -/
def GetsRoutes (s : RoutePlane C) (node : String) : Update Snapshot → Prop
  | .generating => True
  | .setting _ nodes => node ∈ nodes ∨ HasRoutes s.read s.rds.routeCache node
  | .idle => s.updated = true → HasRoutes s.read s.rds.routeCache node

theorem GetsRoutes.imp {node : String} {u : Update Snapshot} (h : GetsRoutes s node u)
    (hupdated : t.updated = s.updated)
    (hroutes : HasRoutes s.read s.rds.routeCache node → HasRoutes t.read t.rds.routeCache node) :
    GetsRoutes t node u := by
  cases u with
  | generating => exact trivial
  | setting x nodes => exact Or.imp_right hroutes h
  | idle => exact fun ht => hroutes (h (hupdated.symm.trans ht))

/-- No more events are taken than were sent; snapshots are of nodes with a status
entry; an update sets a snapshot of what it read, for nodes with a status entry; and
such nodes have the routes of the last update, or another one is coming. -/
structure NodeInv (s : RoutePlane C) : Prop where
  taken : s.taken ≤ s.rds.pushChannel
  orphan {node : String} {x : Snapshot} : C.getSnapshot s.rds.routeCache node = some x →
    HasStatus s.rds.routeCache node
  setting {x : Snapshot} {nodes : List String} : s.rds.update = .setting x nodes →
    From s.read x ∧ ∀ node ∈ nodes, HasStatus s.rds.routeCache node
  current {node : String} : HasStatus s.rds.routeCache node →
    s.taken < s.rds.pushChannel ∨ GetsRoutes s node s.rds.update

/-- What the invariant depends on. -/
theorem NodeInv.congr (h : NodeInv s) (htaken : t.taken = s.taken)
    (hpush : s.rds.pushChannel ≤ t.rds.pushChannel) (hcache : t.rds.routeCache = s.rds.routeCache)
    (hupdate : t.rds.update = s.rds.update) (hread : t.read = s.read) (hupdated : t.updated = s.updated) :
    NodeInv t where
  taken := by
    rw [htaken]
    exact h.taken.trans hpush
  orphan := by
    rw [hcache]
    exact h.orphan
  setting := by
    rw [hcache, hupdate, hread]
    exact h.setting
  current := by
    intro node hnode
    rw [hcache] at hnode
    rcases h.current hnode with hlt | hgets
    · exact .inl (by omega)
    · refine .inr ?_
      rw [hupdate]
      refine hgets.imp hupdated ?_
      rw [hread, hcache]
      exact id

/-! ### Streams -/

section

variable (hC : C.KeepsSnapshots)
include hC

/-- Cancelling a watch leaves who has a snapshot or a status entry. -/
theorem cancelWatch_cache (r : RdsState C) (st : Stream) (node : String) :
    C.getSnapshot (r.cancelWatch st).routeCache node = C.getSnapshot r.routeCache node ∧
      (HasStatus (r.cancelWatch st).routeCache node ↔ HasStatus r.routeCache node) := by
  unfold RdsState.cancelWatch HasStatus
  split
  · rename_i w _
    refine ⟨hC.getSnapshot_cancelWatch _ _ _ _, ?_⟩
    rw [C.getStatusInfo_cancelWatch]
    split
    · rename_i heq
      rw [heq]
      simp
    · exact Iff.rfl
  · exact ⟨rfl, Iff.rfl⟩

theorem request_cache {r : RdsState C} {id : Nat} {node : Option String} {st : Stream}
    (hst : r.streams.lookup id = some st) (n : String) :
    C.getSnapshot (r.request id node).routeCache n = C.getSnapshot r.routeCache n ∧
      (HasStatus (r.request id node).routeCache n ↔ n = node.getD st.node ∨ HasStatus r.routeCache n) := by
  have hcancel := cancelWatch_cache hC (r.onStreamRequest (node.getD st.node)) st n
  rw [routeCache_onStreamRequest] at hcancel
  simp only [RdsState.request, hst]
  refine ⟨(hC.getSnapshot_createWatch _ _ _ _).trans hcancel.1, ?_⟩
  show (∃ ws, C.getStatusInfo (C.createWatch _ _ _).2 n = some ws) ↔ _
  rw [C.getStatusInfo_createWatch]
  split
  · rename_i heq
    exact iff_of_true ⟨_, rfl⟩ (.inl heq)
  · rename_i hne
    exact hcancel.2.trans (or_iff_right hne).symm

theorem closeStream_cache {r : RdsState C} {id : Nat} {st : Stream} (hst : r.streams.lookup id = some st) (n : String) :
    C.getSnapshot (r.closeStream id).routeCache n = (if n = st.node then none else C.getSnapshot r.routeCache n) ∧
      (HasStatus (r.closeStream id).routeCache n ↔ n ≠ st.node ∧ HasStatus r.routeCache n) := by
  have hcancel := cancelWatch_cache hC { r with streams := r.streams.erase id } st n
  simp only [RdsState.closeStream, hst, RdsState.onStreamClosed, RdsState.clearNode]
  refine ⟨(hC.getSnapshot_clearSnapshot _ _ _).trans ?_, ?_⟩
  · rw [hcancel.1]
  · show (∃ ws, C.getStatusInfo (C.clearSnapshot _ _) n = some ws) ↔ _
    rw [C.getStatusInfo_clearSnapshot]
    split
    · rename_i heq
      refine iff_of_false ?_ fun h => h.1 heq
      rintro ⟨_, h⟩
      cases h
    · rename_i hne
      exact hcancel.2.trans (and_iff_right hne).symm

theorem NodeInv.request (h : NodeInv s) (id : Nat) (node : Option String) :
    NodeInv { s with rds := s.rds.step (.request id node) } := by
  have hpush := stream_push s.rds (.request id node)
  cases hst : s.rds.streams.lookup id with
  | none =>
    have heq : s.rds.step (.request id node) = s.rds := by
      show s.rds.request id node = _
      simp only [RdsState.request, hst]
    rw [heq]
    exact h.congr rfl le_rfl rfl rfl rfl rfl
  | some st =>
    have hcache := @request_cache _ hC _ _ node _ hst
    refine ⟨?_, fun {n x} hx => ?_, fun {x nodes} hu => ?_, fun {n} hn => ?_⟩
    · show s.taken ≤ (s.rds.step (StreamAction.action (.request id node))).pushChannel
      have := h.taken
      rcases hpush.2 with heq | heq <;> omega
    · exact (hcache n).2.mpr (.inr (h.orphan ((hcache n).1.symm.trans hx)))
    · have hset := h.setting (hpush.1.symm.trans hu)
      exact ⟨hset.1, fun n hn => (hcache n).2.mpr (.inr (hset.2 n hn))⟩
    · -- a node that is new has no snapshot, and asks for an update
      by_cases hold : HasStatus s.rds.routeCache n
      · rcases h.current hold with hlt | hgets
        · refine .inl ?_
          show s.taken < (s.rds.step (StreamAction.action (.request id node))).pushChannel
          rcases hpush.2 with heq | heq <;> omega
        · refine .inr ?_
          show GetsRoutes _ n (s.rds.step (StreamAction.action (.request id node))).update
          rw [hpush.1]
          exact hgets.imp rfl fun ⟨x, hx, hfrom⟩ => ⟨x, (hcache n).1.trans hx, hfrom⟩
      · have hnode : n = node.getD st.node := ((hcache n).2.mp hn).resolve_right hold
        have hnone : s.rds.hasNode n = false := by
          rw [RdsState.hasNode]
          cases hx : C.getSnapshot s.rds.routeCache n with
          | none => rfl
          | some x => exact absurd (h.orphan hx) hold
        refine .inl ?_
        have hsent : (s.rds.request id node).pushChannel = s.rds.pushChannel + 1 := by
          simp only [RdsState.request, hst, ← hnode, RdsState.createWatch, RdsState.onStreamRequest, hnone,
            Bool.false_eq_true, if_false]
          unfold RdsState.cancelWatch
          split <;> rfl
        have := h.taken
        show s.taken < (s.rds.request id node).pushChannel
        omega

theorem NodeInv.closeStream (h : NodeInv s) {id : Nat} (hcalm : Calm s.rds (.closeStream id)) :
    NodeInv { s with rds := s.rds.step (.closeStream id) } := by
  have hpush := stream_push s.rds (.closeStream id)
  cases hst : s.rds.streams.lookup id with
  | none =>
    have heq : s.rds.step (.closeStream id) = s.rds := by
      show s.rds.closeStream id = _
      simp only [RdsState.closeStream, hst]
    rw [heq]
    exact h.congr rfl le_rfl rfl rfl rfl rfl
  | some st =>
    have hcache := closeStream_cache hC hst
    refine ⟨?_, fun {n x} hx => ?_, fun {x nodes} hu => ?_, fun {n} hn => ?_⟩
    · show s.taken ≤ (s.rds.step (StreamAction.action (.closeStream id))).pushChannel
      have := h.taken
      rcases hpush.2 with heq | heq <;> omega
    · have hx := (hcache n).1.symm.trans hx
      split at hx
      · cases hx
      · rename_i hne
        exact (hcache n).2.mpr ⟨hne, h.orphan hx⟩
    · have hu := hpush.1.symm.trans hu
      have hset := h.setting hu
      refine ⟨hset.1, fun n hn => (hcache n).2.mpr ⟨fun heq => ?_, hset.2 n hn⟩⟩
      exact hcalm st x nodes hst hu (heq ▸ hn)
    · obtain ⟨hne, hold⟩ := (hcache n).2.mp hn
      rcases h.current hold with hlt | hgets
      · refine .inl ?_
        show s.taken < (s.rds.step (StreamAction.action (.closeStream id))).pushChannel
        rcases hpush.2 with heq | heq <;> omega
      · refine .inr ?_
        show GetsRoutes _ n (s.rds.step (StreamAction.action (.closeStream id))).update
        rw [hpush.1]
        refine hgets.imp rfl ?_
        rintro ⟨x, hx, hfrom⟩
        exact ⟨x, ((hcache n).1.trans (if_neg hne)).trans hx, hfrom⟩

theorem NodeInv.stream (h : NodeInv s) {a : StreamAction} (hcalm : Calm s.rds a) :
    NodeInv { s with rds := s.rds.step a.action } := by
  cases a with
  | openStream id =>
    have hcache : (s.rds.openStream id).routeCache = s.rds.routeCache := by
      unfold RdsState.openStream
      split <;> rfl
    have hpush := stream_push s.rds (.openStream id)
    refine h.congr rfl ?_ hcache hpush.1 rfl rfl
    rcases hpush.2 with heq | heq
    · exact Nat.le_of_eq heq.symm
    · exact (Nat.le_succ _).trans (Nat.le_of_eq heq.symm)
  | request id node => exact h.request hC id node
  | closeStream id => exact h.closeStream hC hcalm

end

/-! ### Updates -/

/-- An update that has failed. -/
theorem NodeInv.failed (h : NodeInv s) (i : Inputs) :
    NodeInv { s with rds := s.rds.updateFailed, read := i, updated := false } := by
  obtain ⟨hidle, hpush⟩ := updateFailed_push s.rds
  obtain ⟨u, r, e, heq⟩ := sameCache_updateFailed s.rds
  have hcache : s.rds.updateFailed.routeCache = s.rds.routeCache := by rw [heq]
  refine ⟨?_, fun {n x} hx => ?_, fun hu => ?_, fun {n} _ => .inr ?_⟩
  · have := h.taken
    show s.taken ≤ s.rds.updateFailed.pushChannel
    rcases hpush with hp | hp <;> omega
  · show HasStatus s.rds.updateFailed.routeCache n
    rw [hcache]
    exact h.orphan (hcache ▸ hx)
  · cases hidle.symm.trans hu
  · show GetsRoutes _ n s.rds.updateFailed.update
    rw [hidle]
    exact fun hu => nomatch hu

theorem NodeInv.set (h : NodeInv s) {x : Snapshot} {node : String} {nodes : List String}
    (hu : s.rds.update = .setting x (node :: nodes)) :
    NodeInv { s with rds := s.rds.step (.setNext false) } := by
  obtain ⟨hfrom, hnodes⟩ := h.setting hu
  have hstatus (n : String) : HasStatus (C.setSnapshot s.rds.routeCache node x) n ↔ HasStatus s.rds.routeCache n := by
    unfold HasStatus
    rw [C.getStatusInfo_setSnapshot]
    split
    · rename_i heq
      rw [heq]
      simp
    · exact Iff.rfl
  rw [step_set hu]
  refine ⟨h.taken, fun {n y} hy => (hstatus n).mpr ?_, fun {y nodes'} hu' => ?_, fun {n} hn => ?_⟩
  · have hy := (C.getSnapshot_setSnapshot _ _ _ _).symm.trans hy
    split at hy
    · rename_i heq
      rw [heq]
      exact hnodes node List.mem_cons_self
    · exact h.orphan hy
  · cases hu'
    exact ⟨hfrom, fun n hn => (hstatus n).mpr (hnodes n (List.mem_cons_of_mem _ hn))⟩
  · refine (h.current ((hstatus n).mp hn)).imp_right fun hgets => ?_
    rw [hu] at hgets
    by_cases heq : n = node
    · exact .inr ⟨x, (C.getSnapshot_setSnapshot _ _ _ _).trans (if_pos heq), hfrom⟩
    · refine Or.imp (fun hmem => (List.mem_cons.mp hmem).resolve_left heq) (fun ⟨y, hy, hy'⟩ => ?_) hgets
      exact ⟨y, ((C.getSnapshot_setSnapshot _ _ _ _).trans (if_neg heq)).trans hy, hy'⟩

theorem NodeInv.step (hC : C.KeepsSnapshots) (henv : WellBehaved env) (h : NodeInv s) (hst : Step env s t) :
    NodeInv t := by
  cases hst with
  | change => exact h.congr rfl le_rfl rfl rfl rfl rfl
  | handle => exact h.congr rfl (Nat.le_add_right _ _) rfl rfl rfl rfl
  | handlePanic => exact h.congr rfl le_rfl rfl rfl rfl rfl
  | merge => exact h.congr rfl le_rfl rfl rfl rfl rfl
  | stream a ha => exact h.stream hC (henv.calm ha)
  | startIdle k hidle hk hle hkeys =>
    rw [step_startIdle hidle hkeys]
    -- there is no node
    have hnone (n : String) : ¬HasStatus s.rds.routeCache n := fun hn => by
      have := (C.mem_getStatusKeys _ _).mpr hn
      rw [List.isEmpty_iff.mp hkeys] at this
      cases this
    exact ⟨hle, h.orphan, (fun hu => nomatch hu), fun {n} hn => absurd hn (hnone n)⟩
  | start k hidle hk hle hkeys =>
    rw [step_start hidle hkeys]
    exact ⟨hle, h.orphan, (fun hu => nomatch hu), fun _ => .inr trivial⟩
  | @generate o now x ho hu hgen =>
    rw [step_generated hu]
    refine ⟨h.taken, h.orphan, fun hu' => ?_, fun {n} hn => .inr (.inl ((C.mem_getStatusKeys _ _).mpr hn))⟩
    cases hu'
    obtain ⟨horder, hlists⟩ := henv.calls ho
    exact ⟨⟨o, now, horder, hlists, hgen⟩, fun n hn => (C.mem_getStatusKeys _ _).mp hn⟩
  | generateFailed o now _ hu =>
    rw [step_generateFailed hu]
    exact h.failed _
  | generatePanic => exact h.congr rfl le_rfl rfl rfl rfl rfl
  | set hu => exact h.set hu
  | setFailed hu =>
    rw [step_setFailed hu]
    exact h.failed _
  | @done x hu =>
    rw [step_done hu]
    refine ⟨h.taken, h.orphan, (fun hu' => nomatch hu'), fun {n} hn => (h.current hn).imp_right fun hgets => ?_⟩
    rw [hu] at hgets
    exact fun _ => hgets.resolve_left List.not_mem_nil

theorem nodeInv_reachable (hC : C.KeepsSnapshots) (henv : WellBehaved env) (h : (system env).Reachable s) :
    NodeInv s := by
  refine h.invariant (fun s hs => ?_) fun s t hinv hst => hinv.step hC henv hst.2
  rw [show s = _ from hs]
  refine ⟨le_rfl, fun {n x} hx => ?_, (fun hu => nomatch hu), fun {n} ⟨ws, hws⟩ => ?_⟩
  · cases (hC.getSnapshot_empty n).symm.trans hx
  · cases (C.getStatusInfo_empty n).symm.trans hws

/-! ## The control plane is the watch -/

/-- An update has started and not read the inputs. -/
def updateReads : Update Snapshot → Bool
  | .generating => true
  | .idle | .setting _ _ => false

/-- What the watch sees of the control plane. -/
def watchedRoutes (s : RoutePlane C) : Watch.State Inputs InputEvent where
  input := s.inputs
  events := s.events
  wakeups := s.rds.pushChannel - s.taken
  reading := updateReads s.rds.update
  last := s.read

/-- An event of the loop itself, or of a proxy, or none. -/
theorem wake_run {w w' : Watch.State Inputs InputEvent} {p p' taken : Nat} (hle : taken ≤ p)
    (hp : p' = p ∨ p' = p + 1) (hw : w.wakeups = p - taken) (heq : w' = { w with wakeups := p' - taken }) :
    Relation.ReflTransGen routeWatch.Step w w' := by
  subst heq
  rcases hp with rfl | rfl
  · rw [← hw]
  · rw [Nat.sub_add_comm hle, ← hw]
    exact .single .wake

theorem watchedRoutes_step (henv : WellBehaved env) (hle : s.taken ≤ s.rds.pushChannel) (hst : Step env s t) :
    Relation.ReflTransGen routeWatch.Step (watchedRoutes s) (watchedRoutes t) := by
  cases hst with
  | change c happ hc => exact .single (.change ⟨c, happ, henv.users hc, rfl, rfl⟩)
  | @handle o e l1 l2 b ho he hb =>
    have hwakes : noticesRoutes s.inputs e = b := noticesRoutes_eq (henv.calls ho).1 hb
    have hstep : routeWatch.Step (watchedRoutes s)
        { watchedRoutes s with
          events := l1 ++ l2
          wakeups := s.rds.pushChannel - s.taken + (noticesRoutes s.inputs e).toNat } := .handle he
    rw [hwakes, ← Nat.sub_add_comm hle] at hstep
    exact .single hstep
  | handlePanic => exact .refl
  | merge he hmem => exact .single (.merge he hmem)
  | stream a =>
    obtain ⟨hupdate, hpush⟩ := stream_push s.rds a
    refine wake_run hle hpush rfl ?_
    simp only [watchedRoutes, hupdate]
  | startIdle k hidle hk hle' hkeys =>
    have htake : routeWatch.Step (watchedRoutes s)
        { watchedRoutes s with wakeups := s.rds.pushChannel - s.taken - k, reading := true } :=
      .take hk (Nat.le_sub_of_add_le (by omega))
    refine .tail (.single htake) ?_
    rw [step_startIdle hidle hkeys, Nat.sub_sub]
    exact .read rfl
  | start k hidle hk hle' hkeys =>
    rw [step_start hidle hkeys]
    simp only [watchedRoutes, ← Nat.sub_sub]
    exact .single (.take hk (Nat.le_sub_of_add_le (by omega)))
  | @generate o now x ho hu =>
    rw [step_generated hu]
    exact .single (.read (congrArg updateReads hu))
  | generateFailed o now ho hu =>
    rw [step_generateFailed hu]
    obtain ⟨hidle, hpush⟩ := updateFailed_push s.rds
    have hread : routeWatch.Step (watchedRoutes s) { watchedRoutes s with reading := false, last := s.inputs } :=
      .read (congrArg updateReads hu)
    refine .head hread (wake_run hle hpush rfl ?_)
    simp only [watchedRoutes, hidle]
    rfl
  | generatePanic => exact .refl
  | set hu =>
    rw [step_set hu]
    simp only [watchedRoutes, hu]
    exact .refl
  | setFailed hu =>
    rw [step_setFailed hu]
    obtain ⟨hidle, hpush⟩ := updateFailed_push s.rds
    refine wake_run hle hpush rfl ?_
    simp only [watchedRoutes, hidle, hu]
    rfl
  | done hu =>
    rw [step_done hu]
    simp only [watchedRoutes, hu]
    exact .refl

/-! ## At rest -/

theorem served_reachable (henv : WellBehaved env) (h : (system env).Reachable s) : Fresh s.rds ∧ Served s.rds := by
  refine h.invariant (I := fun s => Fresh s.rds ∧ Served s.rds) (fun s hs => ?_) fun s t ⟨hfresh, hserved⟩ hst => ?_
  · rw [show s = _ from hs]
    exact ⟨⟨(fun _ _ _ h => nomatch h), fun _ _ _ _ _ h => nomatch h⟩, fun _ _ h => nomatch h⟩
  · have hstep (a : Action Snapshot) (ha : Safe s.rds a) : Fresh (s.rds.step a) ∧ Served (s.rds.step a) :=
      ⟨fresh_step hfresh a, served_step hfresh hserved ha⟩
    cases hst.2 with
    | change => exact ⟨hfresh, hserved⟩
    | handle => exact ⟨hfresh.of_sameCache ⟨_, _, _, rfl⟩, hserved.of_sameCache ⟨_, _, _, rfl⟩⟩
    | handlePanic => exact ⟨hfresh, hserved⟩
    | merge => exact ⟨hfresh, hserved⟩
    | stream a ha => exact hstep _ (henv.safe ha)
    | startIdle => exact hstep .startUpdate trivial
    | start => exact hstep .startUpdate trivial
    | generate => exact hstep (.generated _) trivial
    | generateFailed => exact hstep (.generated _) trivial
    | generatePanic => exact ⟨hfresh, hserved⟩
    | set => exact hstep (.setNext _) trivial
    | setFailed => exact hstep (.setNext _) trivial
    | done => exact hstep (.setNext _) trivial

theorem From.congr {i j : Inputs} {x : Snapshot} (h : From i x) (heq : routesOf i = routesOf j) : From j x := by
  obtain ⟨o, now, horder, hlists, hgen⟩ := h
  have hroutes : i.cacheMgr.routes o = j.cacheMgr.routes o := congrFun heq ⟨o, horder⟩
  refine ⟨o, now, horder, hlists, ?_⟩
  rw [Inputs.snapshot] at hgen ⊢
  rw [← hroutes]
  exact hgen

/-- All that behaves well. -/
def wellBehaved (C : SnapshotCache Snapshot) : Environment C where
  users := ValidChange
  proxies s a := Safe s a.action ∧ Calm s a
  calls o := InOrder o ∧ ListsMetaRouters o

theorem wellBehaved_wellBehaved (C : SnapshotCache Snapshot) : WellBehaved (wellBehaved C) where
  users := id
  safe := And.left
  calm := And.right
  calls := id

/-- A service of MetaProtocol. -/
def dubboEntry : Config ServiceEntry where
  name := "orders"
  namespace_ := "shop"
  spec := { hosts := ["orders.shop"], ports := [{ number := 20880, name := "tcp-metaprotocol-dubbo" }] }

theorem validEntries_dubboEntry : ValidEntries [dubboEntry] where
  hosts se hse := by
    cases List.mem_singleton.mp hse
    decide
  named se hse := by
    cases List.mem_singleton.mp hse
    decide
  sameHost se hse se' hse' _ := by
    cases List.mem_singleton.mp hse
    cases List.mem_singleton.mp hse'
    rfl

end Aeraki.Proof.Bootstrap
