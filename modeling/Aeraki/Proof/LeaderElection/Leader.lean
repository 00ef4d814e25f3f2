import Aeraki.Impl.LeaderElection

/-!
# Who runs the main loop

Each time a replica gets the lock, one goroutine is started that becomes a
`mainLoop`, and none ever ends: the run function passes on the server's channel
instead of the election's, and the loop does not leave its `for` at either. So a
replica has as many of them as it has won elections (`counted_reachable`).
`leaderOnly_iff`: only the leader runs a `mainLoop`, and only one, exactly as
long as no replica has lost the lock.
-/

namespace Aeraki.Proof.LeaderElection

open Aeraki.Impl.LeaderElection Relation

variable {ι : Type} [DecidableEq ι] {s t : State ι}

/-- A replica that does not hold the lock runs no `mainLoop`, and the holder runs
at most one. -/
def LeaderOnly (s : State ι) : Prop :=
  ∀ i, (s.holder ≠ some i → (s.replicas i).mainLoops = 0) ∧ (s.holder = some i → (s.replicas i).mainLoops ≤ 1)

/-- Whether the replica holds the lock, as a number. -/
def holds (s : State ι) (i : ι) : Nat := if s.holder = some i then 1 else 0

/-- Each election a replica has won has left one goroutine, and each was lost
but the one it holds the lock from. -/
structure Counted (s : State ι) : Prop where
  won (i : ι) : (s.replicas i).goroutines.length = s.trace.count (.acquired i)
  lost (i : ι) : s.trace.count (.acquired i) = s.trace.count (.lost i) + holds s i

theorem Goes.length {r : Replica} {g : Goroutine} {gs : List Goroutine} (h : Goes r g gs) : gs.length = 1 := by
  cases h with
  | onStartedLeading => rfl
  | runFunction f => cases f; rfl
  | event => rfl
  | stopped => rfl

/-- A change of a replica that starts and ends no goroutine. -/
theorem Counted.set (h : Counted s) {i : ι} {r : Replica}
    (hr : r.goroutines.length = (s.replicas i).goroutines.length) : Counted (s.set i r) := by
  refine ⟨fun j => ?_, h.lost⟩
  by_cases e : j = i
  · subst e
    rw [State.set_self, hr, h.won, State.set_trace]
  · rw [State.set_of_ne s r e, h.won, State.set_trace]

theorem Counted.scheduled (h : Counted s) (hst : Scheduled s t) : Counted t := by
  cases hst with
  | mk i hg hgs =>
    refine h.set ?_
    simp only [hg, List.length_append, List.length_cons, Goes.length hgs]
    omega

theorem Counted.acquire (h : Counted s) (i : ι) (hfree : s.holder = none) :
    Counted { s.set i (s.replicas i).acquired with holder := some i, trace := .acquired i :: s.trace } := by
  refine ⟨fun j => ?_, fun j => ?_⟩
  · have := h.won j
    by_cases e : j = i
    · subst e
      simp [Replica.acquired, this]
    · simp [e, Ne.symm e, this]
  · have := h.lost j
    rw [holds, hfree] at this
    by_cases e : j = i
    · subst e
      simp_all [holds]
    · simp_all [holds, Ne.symm e]

theorem Counted.lose (h : Counted s) (i : ι) (hh : s.holder = some i) :
    Counted { s.set i (s.replicas i).returns with holder := none, trace := .lost i :: s.trace } := by
  refine ⟨fun j => ?_, fun j => ?_⟩
  · have := (h.set (i := i) (r := (s.replicas i).returns) rfl).won j
    simpa [List.count_cons] using this
  · have := h.lost j
    rw [holds, hh] at this
    by_cases e : j = i
    · subst e
      simp_all [holds]
    · simp_all [holds, Ne.symm e]

theorem counted_reachable {master : ι → Bool} (h : (system master).Reachable s) : Counted s := by
  refine h.invariant ?_ ?_
  · rintro s rfl
    have hstart : ∀ m, (Replica.start m).goroutines = [] := fun m => by cases m <;> rfl
    exact ⟨fun i => by simp [hstart], fun i => rfl⟩
  · intro s t hs hst
    cases hst with
    | acquire i _ hfree => exact hs.acquire i hfree
    | lose i _ hh => exact hs.lose i hh
    | giveUp i => exact hs.set rfl
    | again i =>
      refine hs.set ?_
      unfold Replica.again
      split <;> rfl
    | stop i => exact hs.set rfl
    | schedule hst => exact hs.scheduled hst

/-! ## Scheduling -/

/-- The steps until the goroutine is a `mainLoop`. -/
def steps : Goroutine → Nat
  | .onStartedLeading _ => 2
  | .runFunction _ _ => 1
  | .mainLoop _ => 0

/-- A goroutine that is not yet a `mainLoop` comes closer to being one. -/
theorem exists_goes {r : Replica} {g : Goroutine} (h : ¬ g.isMainLoop = true) :
    ∃ gs, Goes r g gs ∧ (gs.map steps).sum < steps g := by
  cases g with
  | onStartedLeading ctx => exact ⟨_, .onStartedLeading ctx, Nat.lt_succ_self 1⟩
  | runFunction f stop =>
    cases f
    exact ⟨_, .runFunction _ stop, Nat.lt_succ_self 0⟩
  | mainLoop stop => exact absurd rfl h

/-- The goroutines of a replica can be run until they are all `mainLoop`s. -/
theorem exists_scheduled (i : ι) (n : Nat) : ∀ s : State ι, ((s.replicas i).goroutines.map steps).sum = n →
    ∃ t, ReflTransGen Scheduled s t ∧ ∀ g ∈ (t.replicas i).goroutines, g.isMainLoop = true := by
  induction n using Nat.strong_induction_on with
  | _ n ih =>
    intro s hn
    by_cases hall : ∀ g ∈ (s.replicas i).goroutines, g.isMainLoop = true
    · exact ⟨s, .refl, hall⟩
    · simp only [not_forall] at hall
      obtain ⟨g, hg, hm⟩ := hall
      obtain ⟨before, after, hs⟩ := List.append_of_mem hg
      obtain ⟨gs, hgo, hlt⟩ := exists_goes (r := s.replicas i) hm
      have hless : ((before ++ gs ++ after).map steps).sum < n := by
        rw [← hn, hs]
        simp only [List.map_append, List.map_cons, List.sum_append, List.sum_cons]
        omega
      obtain ⟨t, hst, hall⟩ := ih _ hless (s.set i { s.replicas i with goroutines := before ++ gs ++ after })
        (by rw [State.set_self])
      exact ⟨t, .head (.mk s i hs hgo) hst, hall⟩

/-- Scheduling goroutines does nothing to the lock. -/
theorem scheduled_lock (h : ReflTransGen Scheduled s t) : t.holder = s.holder ∧ t.trace = s.trace := by
  induction h with
  | refl => exact ⟨rfl, rfl⟩
  | tail _ hst ih =>
    cases hst
    exact ih

theorem Counted.scheduleds (h : Counted s) (hst : ReflTransGen Scheduled s t) : Counted t := by
  induction hst with
  | refl => exact h
  | tail _ hst ih => exact ih.scheduled hst

/-- However the goroutines are scheduled, only the leader runs a `mainLoop` and
only one, exactly as long as no replica has lost the lock. -/
theorem leaderOnly_iff {master : ι → Bool} (hs : (system master).Reachable s) :
    (∀ t, ReflTransGen Scheduled s t → LeaderOnly t) ↔ ∀ i, LockEvent.lost i ∉ s.trace := by
  have hc := counted_reachable hs
  constructor
  · intro h i hi
    obtain ⟨t, hst, hall⟩ := exists_scheduled i _ s rfl
    obtain ⟨hh, htr⟩ := scheduled_lock hst
    have hct := hc.scheduleds hst
    -- all goroutines of the replica are main loops, one for each election won
    have hloops : (t.replicas i).mainLoops = s.trace.count (.acquired i) := by
      rw [Replica.mainLoops, List.countP_eq_length.mpr hall, hct.won, htr]
    have hlost := List.count_pos_iff.mpr hi
    have hwon := hc.lost i
    obtain ⟨hother, hself⟩ := h t hst i
    by_cases hi : s.holder = some i
    · have := hself (hh.trans hi)
      rw [holds, if_pos hi] at hwon
      omega
    · have := hother (hh ▸ hi)
      omega
  · intro h t hst i
    obtain ⟨hh, htr⟩ := scheduled_lock hst
    have hle : (t.replicas i).mainLoops ≤ holds s i := by
      calc (t.replicas i).mainLoops ≤ (t.replicas i).goroutines.length := List.countP_le_length
        _ = s.trace.count (.acquired i) := by rw [(hc.scheduleds hst).won, htr]
        _ = holds s i := by rw [hc.lost, List.count_eq_zero.mpr (h i), Nat.zero_add]
    rw [holds] at hle
    refine ⟨fun hne => ?_, fun he => ?_⟩
    · rw [if_neg (hh ▸ hne)] at hle
      omega
    · rw [if_pos (hh ▸ he)] at hle
      exact hle

/-- Two replicas, both masters. -/
def start : State Bool := { replicas := fun _ => .start true }

/-- The first of them has got the lock. -/
def elected : State Bool :=
  { start.set true (start.replicas true).acquired with holder := some true, trace := [.acquired true] }

theorem elected_reachable : (system fun _ : Bool => true).Reachable elected :=
  .step (.init rfl) (.acquire start true rfl rfl)

theorem elected_leaderOnly :
    (∀ t, ReflTransGen Scheduled elected t → LeaderOnly t) ∧ ∀ i, LockEvent.lost i ∉ elected.trace :=
  have h : ∀ i, LockEvent.lost i ∉ elected.trace := by decide
  ⟨(leaderOnly_iff elected_reachable).mpr h, h⟩

/-- Its goroutine has called the run function. -/
def called : State Bool :=
  elected.set true { elected.replicas true with goroutines := [.runFunction .envoyFilterCreation (.done 1)] }

/-- The run function has started the loop. -/
def looping : State Bool := called.set true { called.replicas true with goroutines := [.mainLoop .server] }

/-- The lock has been lost. -/
def deposed : State Bool :=
  { looping.set true (looping.replicas true).returns with holder := none, trace := .lost true :: looping.trace }

theorem deposed_not_leaderOnly : (system fun _ : Bool => true).Reachable deposed ∧ ¬ LeaderOnly deposed := by
  have h₁ : Scheduled elected called :=
    .mk elected true (show (elected.replicas true).goroutines = [] ++ _ :: [] from rfl) (.onStartedLeading _)
  have h₂ : Scheduled called looping :=
    .mk called true (show (called.replicas true).goroutines = [] ++ _ :: [] from rfl) (.runFunction _ _)
  refine ⟨.step (.step (.step elected_reachable (.schedule h₁)) (.schedule h₂)) (.lose looping true rfl rfl), ?_⟩
  intro h
  exact absurd ((h true).1 (by decide)) (by decide)

end Aeraki.Proof.LeaderElection
