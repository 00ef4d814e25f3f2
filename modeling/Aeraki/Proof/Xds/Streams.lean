import Aeraki.Impl.Xds.Callbacks

/-!
# Which nodes get RDS updates

A node gets the snapshot of the next `updateRouteCache` if it has a status
entry in the route cache. `Served`: every open stream that has sent a request
has one, with its watch unless that has been answered. Since `OnStreamClosed`
clears the node of the stream, it deletes the entry that other streams of that
node need: along a run, streams are served exactly as long as no stream ends
while another one of its node is open (`served_run_iff`).
-/

namespace Aeraki.Proof.Xds

open Aeraki.Impl.Xds

variable {ρ : Type} {C : SnapshotCache ρ}

/-- The stream's node has a status entry, with the stream's watch unless that
has been answered. -/
def ServedStream (s : RdsState C) (st : Stream) : Prop :=
  ∃ ws, C.getStatusInfo s.routeCache st.node = some ws ∧ ∀ w, st.watch = some w → w ∈ ws ∨ w ∈ s.answered

/-- Every open stream that has sent a request is served. -/
def Served (s : RdsState C) : Prop :=
  ∀ id st, s.streams.lookup id = some st → st.requested = true → ServedStream s st

/-- No other open stream has sent a request of the stream's node. -/
def LastOfNode (s : RdsState C) (id : Nat) : Prop :=
  ∀ st, s.streams.lookup id = some st → ∀ id' st', s.streams.lookup id' = some st' → id' ≠ id →
    st'.requested = true → st'.node ≠ st.node

/-! ## What the operations leave -/

section

variable (s : RdsState C)

/-- Only how far the update is, and what the main loop does about it, differ. -/
def SameCache (s t : RdsState C) : Prop :=
  ∃ u r e, t = { s with update := u, retries := r, pushChannel := e }

theorem sameCache_updateFailed : SameCache s s.updateFailed := by
  unfold RdsState.updateFailed
  split <;> exact ⟨_, _, _, rfl⟩

theorem sameCache_startUpdate : SameCache s s.startUpdate := by
  unfold RdsState.startUpdate
  split
  · split <;> exact ⟨_, _, _, rfl⟩
  · exact ⟨_, _, _, rfl⟩

theorem sameCache_generated (snapshot : Option ρ) : SameCache s (s.generated snapshot) := by
  unfold RdsState.generated
  split
  · exact ⟨_, _, _, rfl⟩
  · exact sameCache_updateFailed s
  · exact ⟨_, _, _, rfl⟩

theorem streams_setNext (failed : Bool) :
    (s.setNext failed).streams = s.streams ∧ (s.setNext failed).nextWatch = s.nextWatch := by
  obtain ⟨u, r, e, hf⟩ := sameCache_updateFailed s
  unfold RdsState.setNext
  rw [hf]
  split
  · exact ⟨rfl, rfl⟩
  · split <;> exact ⟨rfl, rfl⟩
  · exact ⟨rfl, rfl⟩

@[simp] theorem streams_onStreamRequest (node : String) : (s.onStreamRequest node).streams = s.streams := by
  unfold RdsState.onStreamRequest; split <;> rfl

@[simp] theorem nextWatch_onStreamRequest (node : String) : (s.onStreamRequest node).nextWatch = s.nextWatch := by
  unfold RdsState.onStreamRequest; split <;> rfl

@[simp] theorem routeCache_onStreamRequest (node : String) :
    (s.onStreamRequest node).routeCache = s.routeCache := by
  unfold RdsState.onStreamRequest; split <;> rfl

@[simp] theorem answered_onStreamRequest (node : String) : (s.onStreamRequest node).answered = s.answered := by
  unfold RdsState.onStreamRequest; split <;> rfl

variable (st : Stream)

@[simp] theorem streams_cancelWatch : (s.cancelWatch st).streams = s.streams := by
  unfold RdsState.cancelWatch; split <;> rfl

@[simp] theorem nextWatch_cancelWatch : (s.cancelWatch st).nextWatch = s.nextWatch := by
  unfold RdsState.cancelWatch; split <;> rfl

@[simp] theorem answered_cancelWatch : (s.cancelWatch st).answered = s.answered := by
  unfold RdsState.cancelWatch; split <;> rfl

end

/-! ## Watches have different numbers -/

/-- Different streams have different watches, all below the next one. -/
structure Fresh (s : RdsState C) : Prop where
  below : ∀ id st w, s.streams.lookup id = some st → st.watch = some w → w < s.nextWatch
  distinct : ∀ id st id' st' w, s.streams.lookup id = some st → s.streams.lookup id' = some st' →
    st.watch = some w → st'.watch = some w → id = id'

theorem Fresh.of_eq {s t : RdsState C} (h : Fresh s) (hs : t.streams = s.streams)
    (hn : t.nextWatch = s.nextWatch) : Fresh t where
  below := by rw [hs, hn]; exact h.below
  distinct := by rw [hs]; exact h.distinct

theorem Fresh.of_sameCache {s t : RdsState C} (h : Fresh s) (ht : SameCache s t) : Fresh t := by
  obtain ⟨u, r, e, rfl⟩ := ht
  exact h.of_eq rfl rfl

theorem Fresh.createWatch {s : RdsState C} (h : Fresh s) (id : Nat) (node : String) :
    Fresh (s.createWatch id node) where
  below id' st w hst hw := by
    rw [RdsState.createWatch, GoMap.lookup_insert_eq] at hst
    show w < s.nextWatch + 1
    split at hst
    · cases hst; cases hw; omega
    · exact (h.below id' st w hst hw).trans (Nat.lt_succ_self _)
  distinct id₁ st₁ id₂ st₂ w h₁ h₂ hw₁ hw₂ := by
    rw [RdsState.createWatch, GoMap.lookup_insert_eq] at h₁ h₂
    split at h₁ <;> split at h₂
    · rename_i e₁ e₂; rw [e₁, e₂]
    · cases h₁; cases hw₁; exact absurd (h.below _ _ _ h₂ hw₂) (lt_irrefl _)
    · cases h₂; cases hw₂; exact absurd (h.below _ _ _ h₁ hw₁) (lt_irrefl _)
    · exact h.distinct _ _ _ _ w h₁ h₂ hw₁ hw₂

/-- With fewer streams, or other ones without a watch. -/
theorem Fresh.of_streams {s t : RdsState C} (h : Fresh s) (hn : t.nextWatch = s.nextWatch)
    (hs : ∀ id st w, t.streams.lookup id = some st → st.watch = some w → s.streams.lookup id = some st) :
    Fresh t where
  below id st w hst hw := by rw [hn]; exact h.below id st w (hs id st w hst hw) hw
  distinct _ _ _ _ w h₁ h₂ hw₁ hw₂ := h.distinct _ _ _ _ w (hs _ _ w h₁ hw₁) (hs _ _ w h₂ hw₂) hw₁ hw₂

theorem fresh_step {s : RdsState C} (h : Fresh s) : ∀ a : Action ρ, Fresh (s.step a)
  | .openStream id => by
    show Fresh (s.openStream id)
    unfold RdsState.openStream
    split
    · refine h.of_streams rfl fun id' st w hst hw => ?_
      rw [GoMap.lookup_insert_eq] at hst
      split at hst
      · cases hst; cases hw
      · exact hst
    · exact h
  | .request id node => by
    show Fresh (s.request id node)
    unfold RdsState.request
    split
    · exact Fresh.createWatch (h.of_eq (by simp) (by simp)) id _
    · exact h
  | .closeStream id => by
    show Fresh (s.closeStream id)
    unfold RdsState.closeStream
    split
    · refine h.of_streams (by simp [RdsState.onStreamClosed, RdsState.clearNode]) fun id' st w hst hw => ?_
      simp only [RdsState.onStreamClosed, RdsState.clearNode, streams_cancelWatch, GoMap.lookup_erase_eq] at hst
      split at hst
      · cases hst
      · exact hst
    · exact h
  | .startUpdate => h.of_sameCache (sameCache_startUpdate s)
  | .generated x => h.of_sameCache (sameCache_generated s x)
  | .setNext failed => h.of_eq (streams_setNext s failed).1 (streams_setNext s failed).2

/-! ## Who stays served -/

theorem ServedStream.of_eq {s t : RdsState C} {st : Stream} (h : ServedStream s st)
    (hc : t.routeCache = s.routeCache) (ha : t.answered = s.answered) : ServedStream t st := by
  unfold ServedStream
  rw [hc, ha]
  exact h

theorem Served.of_sameCache {s t : RdsState C} (h : Served s) (ht : SameCache s t) : Served t := by
  obtain ⟨u, r, e, rfl⟩ := ht
  exact fun id st hst hr => (h id st hst hr).of_eq rfl rfl

/-- Cancelling another stream's watch. -/
theorem ServedStream.cancelWatch {s : RdsState C} {st st₀ : Stream} (h : ServedStream s st)
    (hw : ∀ w, st.watch = some w → st₀.watch ≠ some w) : ServedStream (s.cancelWatch st₀) st := by
  obtain ⟨ws, hws, hmem⟩ := h
  unfold RdsState.cancelWatch
  split
  · rename_i w₀ hw₀
    by_cases hn : st.node = st₀.node
    · refine ⟨ws.erase w₀, ?_, fun w h => (hmem w h).imp_left fun hin => ?_⟩
      · rw [C.getStatusInfo_cancelWatch, if_pos hn, ← hn, hws]; rfl
      · exact Finset.mem_erase.mpr ⟨fun e => hw w h (e ▸ hw₀), hin⟩
    · exact ⟨ws, by rw [C.getStatusInfo_cancelWatch, if_neg hn, hws], hmem⟩
  · exact ⟨ws, hws, hmem⟩

theorem ServedStream.createWatch {s : RdsState C} {st : Stream} (h : ServedStream s st) (id : Nat)
    (node : String) : ServedStream (s.createWatch id node) st := by
  obtain ⟨ws, hws, hmem⟩ := h
  have hans : ∀ w ∈ s.answered, w ∈ (s.createWatch id node).answered := fun w hw => by
    unfold RdsState.createWatch
    dsimp only
    split
    · exact Finset.mem_insert_of_mem hw
    · exact hw
  by_cases hn : st.node = node
  · subst hn
    refine ⟨_, (C.getStatusInfo_createWatch _ _ _ _).trans (if_pos rfl), fun w h => (hmem w h).imp (fun hin => ?_)
      (hans w)⟩
    rw [hws]
    split
    · exact hin
    · exact Finset.mem_insert_of_mem hin
  · refine ⟨ws, ?_, fun w h => (hmem w h).imp_right (hans w)⟩
    exact ((C.getStatusInfo_createWatch _ _ _ _).trans (if_neg hn)).trans hws

/-- The stream that asked is served. -/
theorem servedStream_createWatch (s : RdsState C) (id : Nat) (node : String) :
    ServedStream (s.createWatch id node) { node := node, requested := true, watch := some s.nextWatch } := by
  refine ⟨_, (C.getStatusInfo_createWatch _ _ _ _).trans (if_pos rfl), fun w hw => ?_⟩
  cases hw
  unfold RdsState.createWatch
  dsimp only
  split
  · exact .inr (Finset.mem_insert_self _ _)
  · exact .inl (Finset.mem_insert_self _ _)

theorem ServedStream.clearNode {s : RdsState C} {st : Stream} (h : ServedStream s st) {node : String}
    (hn : st.node ≠ node) : ServedStream (s.clearNode node) st := by
  obtain ⟨ws, hws, hmem⟩ := h
  exact ⟨ws, ((C.getStatusInfo_clearSnapshot _ _ _).trans (if_neg hn)).trans hws, hmem⟩

/-- Setting a snapshot answers the watches that it removes. -/
theorem ServedStream.setNext {s : RdsState C} {st : Stream} (h : ServedStream s st) (failed : Bool) :
    ServedStream (s.setNext failed) st := by
  unfold RdsState.setNext
  split
  · exact h.of_eq rfl rfl
  · rename_i x node nodes _
    split
    · obtain ⟨u, r, e, hf⟩ := sameCache_updateFailed s
      exact h.of_eq (by rw [hf]) (by rw [hf])
    · obtain ⟨ws, hws, hmem⟩ := h
      by_cases hn : st.node = node
      · refine ⟨∅, ?_, fun w hw => .inr ?_⟩
        · show C.getStatusInfo (C.setSnapshot s.routeCache node x) st.node = some ∅
          rw [C.getStatusInfo_setSnapshot, if_pos hn, ← hn, hws]; rfl
        · rw [← hn, hws]
          exact Finset.mem_union.mpr (hmem w hw).symm
      · refine ⟨ws, ?_, fun w hw => (hmem w hw).imp_right fun h => Finset.mem_union_left _ h⟩
        show C.getStatusInfo (C.setSnapshot s.routeCache node x) st.node = some ws
        rw [C.getStatusInfo_setSnapshot, if_neg hn, hws]
  · exact h

/-! ## Steps -/

/-- The action ends no stream that is not the last of its node. -/
def Safe (s : RdsState C) : Action ρ → Prop
  | .closeStream id => LastOfNode s id
  | _ => True

theorem served_request {s : RdsState C} (hf : Fresh s) (h : Served s) (id : Nat) (node : Option String) :
    Served (s.request id node) := by
  unfold RdsState.request
  split
  · rename_i st₀ hst₀
    intro id' st hst hr
    rw [RdsState.createWatch, GoMap.lookup_insert_eq] at hst
    split at hst
    · cases hst
      exact servedStream_createWatch _ id _
    · rename_i hne
      rw [streams_cancelWatch, streams_onStreamRequest] at hst
      have hs : ServedStream (s.onStreamRequest (node.getD st₀.node)) st := (h id' st hst hr).of_eq (by simp) (by simp)
      exact (hs.cancelWatch fun w hw hw₀ => hne (hf.distinct _ _ _ _ w hst hst₀ hw hw₀)).createWatch id _
  · exact h

theorem served_closeStream {s : RdsState C} (hf : Fresh s) (h : Served s) {id : Nat} (hl : LastOfNode s id) :
    Served (s.closeStream id) := by
  unfold RdsState.closeStream
  split
  · rename_i st₀ hst₀
    intro id' st hst hr
    simp only [RdsState.onStreamClosed, RdsState.clearNode, streams_cancelWatch, GoMap.lookup_erase_eq] at hst
    split at hst
    · cases hst
    · rename_i hne
      have hs : ServedStream { s with streams := s.streams.erase id } st := (h id' st hst hr).of_eq rfl rfl
      exact (hs.cancelWatch fun w hw hw₀ => hne (hf.distinct _ _ _ _ w hst hst₀ hw hw₀)).clearNode
        (hl st₀ hst₀ id' st hst hne hr)
  · exact h

theorem served_step {s : RdsState C} (hf : Fresh s) (h : Served s) : ∀ {a : Action ρ}, Safe s a → Served (s.step a)
  | .openStream id, _ => by
    show Served (s.openStream id)
    unfold RdsState.openStream
    split
    · intro id' st hst hr
      rw [GoMap.lookup_insert_eq] at hst
      split at hst
      · cases hst; cases hr
      · exact (h id' st hst hr).of_eq rfl rfl
    · exact h
  | .request id node, _ => served_request hf h id node
  | .closeStream _, hl => served_closeStream hf h hl
  | .startUpdate, _ => h.of_sameCache (sameCache_startUpdate s)
  | .generated x, _ => h.of_sameCache (sameCache_generated s x)
  | .setNext failed, _ => fun id st hst hr =>
    (h id st ((streams_setNext s failed).1 ▸ hst) hr).setNext failed

/-! ## The next update -/

/-- An `updateRouteCache` that generates `x`, and that nothing interrupts. -/
def updateRouteCache (s : RdsState C) (x : ρ) : RdsState C :=
  s.run (.startUpdate :: .generated (some x) ::
    List.replicate (C.getStatusKeys s.routeCache).length (.setNext false))

theorem getSnapshot_setAll (x : ρ) (n : String) : ∀ (nodes : List String) (s : RdsState C),
    s.update = .setting x nodes → n ∈ nodes ∨ C.getSnapshot s.routeCache n = some x →
    C.getSnapshot (s.run (List.replicate nodes.length (.setNext false))).routeCache n = some x
  | [], _, _, h => h.resolve_left List.not_mem_nil
  | node :: nodes, s, hu, h => by
    rw [List.length_cons, List.replicate_succ]
    show C.getSnapshot ((s.setNext false).run _).routeCache n = some x
    have hs : s.setNext false = { s with
        routeCache := C.setSnapshot s.routeCache node x
        answered := s.answered ∪ (C.getStatusInfo s.routeCache node).getD ∅
        update := .setting x nodes } := by
      simp only [RdsState.setNext, hu, Bool.false_eq_true, if_false]
    refine getSnapshot_setAll x n nodes _ (by rw [hs]) ?_
    rw [hs]
    show n ∈ nodes ∨ C.getSnapshot (C.setSnapshot s.routeCache node x) n = some x
    rw [C.getSnapshot_setSnapshot]
    by_cases hn : n = node
    · exact .inr (if_pos hn)
    · rw [if_neg hn]
      exact h.imp_left fun hm => (List.mem_cons.mp hm).resolve_left hn

/-- The next update sets the snapshot of every node that has a status entry. -/
theorem getSnapshot_updateRouteCache {s : RdsState C} (hidle : s.update = .idle) (x : ρ) {n : String}
    {ws : Finset Nat} (h : C.getStatusInfo s.routeCache n = some ws) :
    C.getSnapshot (updateRouteCache s x).routeCache n = some x := by
  have hn : n ∈ C.getStatusKeys s.routeCache := (C.mem_getStatusKeys _ _).mpr ⟨ws, h⟩
  have hs : s.startUpdate = { s with update := .generating } := by
    unfold RdsState.startUpdate
    rw [hidle]
    exact if_neg (by simpa using List.ne_nil_of_mem hn)
  show C.getSnapshot ((s.startUpdate.generated (some x)).run _).routeCache n = some x
  rw [hs]
  exact getSnapshot_setAll x n (C.getStatusKeys s.routeCache) _ rfl (.inl hn)

/-- The nodes of the streams that have sent a request get the snapshot of the
next update. -/
def GetUpdates (s : RdsState C) : Prop :=
  ∀ id st, s.streams.lookup id = some st → st.requested = true → s.update = .idle →
    ∀ x, C.getSnapshot (updateRouteCache s x).routeCache st.node = some x

theorem Served.getUpdates {s : RdsState C} (h : Served s) : GetUpdates s := fun id st hst hr hidle x =>
  have ⟨_, hws, _⟩ := h id st hst hr
  getSnapshot_updateRouteCache hidle x hws

/-! ## Runs -/

/-- A stream that is not the last of its node takes the other one's entry with
it. -/
theorem lastOfNode_of_served {s : RdsState C} {id : Nat} (h : Served (s.closeStream id)) : LastOfNode s id := by
  intro st hst id' st' hst' hne hr hnode
  have hopen : (s.closeStream id).streams.lookup id' = some st' := by
    simp only [RdsState.closeStream, hst, RdsState.onStreamClosed, RdsState.clearNode, streams_cancelWatch,
      GoMap.lookup_erase_eq, if_neg hne, hst']
  obtain ⟨ws, hws, -⟩ := h id' st' hopen hr
  simp only [RdsState.closeStream, hst, RdsState.onStreamClosed, RdsState.clearNode, C.getStatusInfo_clearSnapshot,
    if_pos hnode] at hws
  cases hws

/-- The state of a run after `n` of its actions. -/
def after (C : SnapshotCache ρ) (actions : List (Action ρ)) (n : Nat) : RdsState C :=
  ({} : RdsState C).run (actions.take n)

theorem after_succ (C : SnapshotCache ρ) {actions : List (Action ρ)} {n : Nat} {a : Action ρ}
    (h : actions[n]? = some a) : after C actions (n + 1) = (after C actions n).step a := by
  obtain ⟨hn, rfl⟩ := List.getElem?_eq_some_iff.mp h
  rw [after, after, List.take_succ_eq_append_getElem hn, RdsState.run, List.foldl_append]
  rfl

theorem after_of_none (C : SnapshotCache ρ) {actions : List (Action ρ)} {n : Nat} (h : actions[n]? = none) :
    after C actions (n + 1) = after C actions n := by
  have hn := List.getElem?_eq_none_iff.mp h
  rw [after, after, List.take_of_length_le hn, List.take_of_length_le (Nat.le_succ_of_le hn)]

theorem fresh_after (C : SnapshotCache ρ) (actions : List (Action ρ)) : ∀ n, Fresh (after C actions n)
  | 0 => ⟨fun _ _ _ h => (nomatch h), fun _ _ _ _ _ h => (nomatch h)⟩
  | n + 1 => by
    cases h : actions[n]? with
    | some a => rw [after_succ C h]; exact fresh_step (fresh_after C actions n) a
    | none => rw [after_of_none C h]; exact fresh_after C actions n

/-- All streams are served in all states of a run, and get the next update,
exactly when each stream that ends is the last one of its node. -/
theorem served_run_iff (C : SnapshotCache ρ) (actions : List (Action ρ)) :
    (∀ n, Served (after C actions n) ∧ GetUpdates (after C actions n)) ↔
      ∀ n id, actions[n]? = some (.closeStream id) → LastOfNode (after C actions n) id := by
  constructor
  · intro h n id ha
    have hs := (h (n + 1)).1
    rw [after_succ C ha] at hs
    exact lastOfNode_of_served hs
  · intro h n
    suffices hs : Served (after C actions n) from ⟨hs, hs.getUpdates⟩
    induction n with
    | zero => exact fun _ _ h => nomatch h
    | succ n ih =>
      cases ha : actions[n]? with
      | none => rw [after_of_none C ha]; exact ih
      | some a =>
        rw [after_succ C ha]
        refine served_step (fresh_after C actions n) ih ?_
        cases a with
        | closeStream id => exact h n id ha
        | _ => exact trivial

/-- Two streams of one node, of which the first ends. -/
def overlapping : List (Action Unit) :=
  [.openStream 1, .request 1 (some "sidecar"), .openStream 2, .request 2 (some "sidecar"), .closeStream 1]

/-- The second stream is not served any more, and its node does not get the
next snapshot. -/
theorem overlapping_not_served :
    ¬ Served (after (.mapCache Unit) overlapping 5) ∧ ¬ GetUpdates (after (.mapCache Unit) overlapping 5) := by
  refine ⟨fun h => ?_, fun h => ?_⟩
  · obtain ⟨ws, hws, -⟩ := h 2 ⟨"sidecar", true, some 1⟩ rfl rfl
    cases hws
  · cases h 2 ⟨"sidecar", true, some 1⟩ rfl rfl rfl ()

end Aeraki.Proof.Xds
