import Aeraki.Impl.EnvoyFilter.MainLoop
import Aeraki.Impl.Xds.Callbacks

/-!
# Retries are bounded

An event can cause a run of the callback, and each of its retries another one. The
invariant of an event loop (`Inv`) pays for them in advance: an event is worth
`maxRetries + 1` runs, and the retries are the runs that have been taken from the
event they have sent. So however events and callbacks interleave, the runs are at
most `maxRetries + 1` for each event that others have sent, in both main loops
(`retries_bounded`). The EnvoyFilter controller's `mainLoop` is such a loop
(`mainLoop_simulated`), and an update of the route cache ends as its callback does
(`updateFailed_finish`, `updateDone_finish`).
-/

namespace Aeraki.Proof.EventLoop

open Aeraki.Impl Aeraki.Impl.EventLoop
open Go (bind_eq_ok)

/-! ## The invariant -/

/-- Retries are bounded and have an event pending, and every run of the callback
is paid for: a running one out of its own events. -/
structure Inv (maxRetries : Nat) (s : EventLoop) : Prop where
  retries_le : s.retries ≤ maxRetries
  pending_pos : 0 < s.retries → 0 < s.pending
  idle : s.handling = 0 → s.runs + (maxRetries + 1) * s.queued ≤ (maxRetries + 1) * s.sent + s.retries
  running : 0 < s.handling →
    s.runs + (maxRetries + 1) * s.queued + maxRetries ≤ (maxRetries + 1) * s.sent + s.retries

variable {maxRetries : Nat} {s t : EventLoop}

theorem inv_init : Inv maxRetries {} where
  retries_le := Nat.zero_le _
  pending_pos := fun h => absurd h (Nat.lt_irrefl 0)
  idle _ := by simp
  running h := absurd h (Nat.lt_irrefl 0)

theorem Inv.send (h : Inv maxRetries s) : Inv maxRetries s.send where
  retries_le := h.retries_le
  pending_pos _ := by
    simp only [EventLoop.pending, EventLoop.send]
    omega
  idle hidle := by
    have := h.idle hidle
    simp only [EventLoop.send, Nat.mul_add]
    omega
  running hrunning := by
    have := h.running hrunning
    simp only [EventLoop.send, Nat.mul_add]
    omega

theorem Inv.start {k : Nat} (h : Inv maxRetries s) (hidle : s.handling = 0) (hk : 0 < k) (hle : k ≤ s.queued) :
    Inv maxRetries (s.start k) where
  retries_le := h.retries_le
  pending_pos _ := Nat.lt_of_lt_of_le hk (Nat.le_add_left k _)
  idle hzero := absurd hzero (Nat.ne_of_gt hk)
  running _ := by
    have hpaid := h.idle hidle
    -- one of the events that the run is for pays for it, and the others are merged
    have hmerged : (maxRetries + 1) * (s.queued - k) + (maxRetries + 1) ≤ (maxRetries + 1) * s.queued := by
      rw [← Nat.mul_succ]
      exact Nat.mul_le_mul_left _ (by omega)
    simp only [EventLoop.start]
    omega

theorem Inv.finish (h : Inv maxRetries s) (hrunning : 0 < s.handling) (err : Option String) :
    Inv maxRetries (s.finish maxRetries err) := by
  have hpaid := h.running hrunning
  have hle := h.retries_le
  have done : Inv maxRetries { s with retries := 0, handling := 0 } := by
    refine ⟨Nat.zero_le _, fun h => absurd h (Nat.lt_irrefl 0), fun _ => ?_, fun h => absurd h (Nat.lt_irrefl 0)⟩
    show s.runs + (maxRetries + 1) * s.queued ≤ (maxRetries + 1) * s.sent + 0
    omega
  unfold EventLoop.finish
  cases err with
  | none => exact done
  | some e =>
    dsimp only
    split
    · exact done
    · refine ⟨?_, fun _ => Nat.succ_pos _, fun _ => ?_, fun h => absurd h (Nat.lt_irrefl 0)⟩
      · show s.retries + 1 ≤ maxRetries
        omega
      · simp only [Nat.mul_add]
        omega

theorem Inv.step (h : Inv maxRetries s) (hstep : Step maxRetries s t) : Inv maxRetries t := by
  cases hstep with
  | send => exact h.send
  | start k hidle hk hle => exact h.start hidle hk hle
  | finish err hrunning => exact h.finish hrunning err

theorem inv_reachable (h : (system maxRetries).Reachable s) : Inv maxRetries s :=
  h.invariant (fun _ hs => hs ▸ inv_init) fun _ _ => Inv.step

theorem Inv.runs_le (h : Inv maxRetries s) : s.runs ≤ (maxRetries + 1) * s.sent := by
  have hle := h.retries_le
  rcases Nat.eq_zero_or_pos s.handling with hidle | hrunning
  · have hpaid := h.idle hidle
    rcases Nat.eq_zero_or_pos s.retries with hzero | hpos
    · omega
    · -- the event of the last retry has not been handled yet
      have hqueued : 0 < s.queued := by
        have hpending := h.pending_pos hpos
        rwa [EventLoop.pending, hidle] at hpending
      have : (maxRetries + 1) * 1 ≤ (maxRetries + 1) * s.queued := Nat.mul_le_mul_left _ hqueued
      omega
  · have hpaid := h.running hrunning
    omega

/-! ## The main loops -/

/-- Retries are at most three, a retry's event is pending, and there are at most
four runs for each event that others have sent. -/
def Bounded (s : EventLoop) : Prop :=
  s.retries ≤ 3 ∧ (0 < s.retries → 0 < s.pending) ∧ s.runs ≤ 4 * s.sent

/-- Retries are bounded, in both main loops. -/
theorem retries_bounded (h : Controller.eventLoop.Reachable s ∨ Xds.CacheMgr.eventLoop.Reachable s) : Bounded s := by
  have hinv : Inv 3 s := h.elim inv_reachable inv_reachable
  exact ⟨hinv.retries_le, hinv.pending_pos, hinv.runs_le⟩

/-- An event whose pushes all fail is handled four times. -/
theorem failing_event_bounded :
    Controller.eventLoop.Reachable { runs := 4, sent := 1 } ∧ Bounded { runs := 4, sent := 1 } := by
  have fails {s : EventLoop} (h : Controller.eventLoop.Reachable s) (hidle : s.handling = 0) (hqueued : 1 ≤ s.queued) :
      Controller.eventLoop.Reachable ((s.start 1).finish 3 (some "conflict")) :=
    (h.step (.start s 1 hidle Nat.one_pos hqueued)).step (.finish _ _ Nat.one_pos)
  have sent : Controller.eventLoop.Reachable { queued := 1, sent := 1 } :=
    (System.Reachable.init rfl).step (.send {})
  have run := fails (fails (fails (fails sent rfl le_rfl) rfl le_rfl) rfl le_rfl) rfl le_rfl
  exact ⟨run, retries_bounded (.inl run)⟩

/-! ## The code of the loops -/

/-- The loop that merges all events is in the state of an event loop between two
callbacks. -/
structure Simulates (s : LoopState) (e : EventLoop) : Prop where
  retries : e.retries = s.retries
  idle : e.handling = 0
  pending : s.pending = true ↔ 0 < e.queued

/-- A callback of the EnvoyFilter controller handles all events of the event
loop. -/
theorem callback_simulated {c : Controller} {o : Oracle} {s s' : LoopState} {e : EventLoop} (hsim : Simulates s e)
    (he : Controller.eventLoop.Reachable e) (hpending : s.pending = true) (h : c.callback o s = .ok s') :
    ∃ e', Controller.eventLoop.Reachable e' ∧ Simulates s' e' := by
  obtain ⟨⟨err, cluster⟩, -, h⟩ := bind_eq_ok.mp h
  have hqueued := hsim.pending.mp hpending
  refine ⟨(e.start e.queued).finish Controller.maxRetries err,
    (he.step (.start e e.queued hsim.idle hqueued le_rfl)).step (.finish _ err hqueued), ?_⟩
  have hnone : (e.start e.queued).queued = 0 := Nat.sub_self _
  have hretries : (e.start e.queued).retries = s.retries := hsim.retries
  unfold EventLoop.finish
  cases err with
  | none =>
    cases h
    exact ⟨rfl, rfl, by simp [hnone]⟩
  | some err =>
    dsimp only at h ⊢
    rw [hretries]
    split at h
    · rename_i hmax
      cases h
      rw [if_pos hmax]
      exact ⟨rfl, rfl, by simp [hnone]⟩
    · rename_i hmax
      cases h
      rw [if_neg hmax]
      exact ⟨rfl, rfl, by simp⟩

/-- Turns of the EnvoyFilter controller's loop are a run of the event loop. -/
theorem mainLoop_simulated {c : Controller} : ∀ {os : List Oracle} {s s' : LoopState} {e : EventLoop},
    Simulates s e → Controller.eventLoop.Reachable e → c.mainLoop os s = .ok s' →
      ∃ e', Controller.eventLoop.Reachable e' ∧ Simulates s' e'
  | [], _, _, e, hsim, he, h => by
    cases h
    exact ⟨e, he, hsim⟩
  | o :: os, s, _, e, hsim, he, h => by
    rw [Controller.mainLoop] at h
    split at h
    · rename_i hpending
      obtain ⟨t, ht, h⟩ := bind_eq_ok.mp h
      obtain ⟨e', he', hsim'⟩ := callback_simulated hsim he hpending ht
      exact mainLoop_simulated hsim' he' h
    · exact mainLoop_simulated hsim he h

section

variable {ρ : Type} {C : SnapshotCache ρ} {s : Xds.RdsState C} {e : EventLoop}

/-- A failed update of the route cache retries as the event loop does. -/
theorem updateFailed_finish (hretries : e.retries = s.retries) (err : String) :
    (e.finish Xds.CacheMgr.maxRetries (some err)).retries = s.updateFailed.retries ∧
      (e.finish Xds.CacheMgr.maxRetries (some err)).queued + s.pushChannel = e.queued + s.updateFailed.pushChannel := by
  simp only [EventLoop.finish, Xds.RdsState.updateFailed, hretries, Xds.CacheMgr.maxRetries]
  split
  · exact ⟨rfl, rfl⟩
  · exact ⟨rfl, by simp only; omega⟩

theorem updateDone_finish :
    (e.finish Xds.CacheMgr.maxRetries none).retries = s.updateDone.retries ∧
      (e.finish Xds.CacheMgr.maxRetries none).queued + s.pushChannel = e.queued + s.updateDone.pushChannel :=
  ⟨rfl, rfl⟩

end

end Aeraki.Proof.EventLoop
