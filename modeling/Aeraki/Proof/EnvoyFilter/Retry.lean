import Aeraki.Impl.EnvoyFilter.MainLoop
import Aeraki.Proof.EnvoyFilter.Reconcile

/-!
# Failed calls and retries

`mainLoop` pushes again after a push that returned an error (`callback_of_push`), and
stops after one that returned none or after three retries (`mainLoop_stops`). But
a push does not report whether its calls succeeded: a failed List is ignored, and
the error is that of the last write. So failures are reported and retried exactly
if there are none, or the last write is one of them (`unmasked_iff`).
-/

namespace Aeraki.Proof.EnvoyFilter

open Aeraki.Impl Aeraki.Impl.Controller
open ApiServer (Object Server)
open Go (bind_eq_ok)

/-! ## The calls of a push -/

section

variable {σ : Type} (before after : Server ObjectKey σ)

/-- Every write was accepted. -/
def AllWritten : Prop := ∀ w ∈ newWrites before after, w.2 = true

/-- Every call succeeded: the List, which is the first one, and the writes. -/
def AllSucceeded : Prop :=
  (before.calls < after.calls → before.fails before.calls = false) ∧ AllWritten before after

/-- The last call was a write, and it failed. -/
def LastFailed : Prop := ∃ w, (newWrites before after).getLast? = some w ∧ w.2 = false

variable {before after}

theorem LastFailed.not_allWritten (h : LastFailed before after) : ¬AllWritten before after := fun hall => by
  obtain ⟨w, hw, hfailed⟩ := h
  rw [hall w (List.mem_of_getLast? hw)] at hfailed
  cases hfailed

end

/-- A push of objects returns an error exactly if its last call was a failed
write. -/
theorem err_ne_none_iff {ω σ : Type} [DecidableEq σ] (c : PushConfig ω σ) (o : Oracle) (generated : GoMap String ω)
    (server : Server ObjectKey σ) :
    (pushObjects c o generated server).1 ≠ none ↔ LastFailed server (pushObjects c o generated server).2 := by
  rw [Ne, err_pushObjects]
  simp only [Option.mem_def, not_forall, Bool.not_eq_true, exists_prop, LastFailed]

/-- What a push of EnvoyFilters returns: the error of the generation, before any
call about EnvoyFilters, or that of the last write. -/
theorem pushEnvoyFilters2APIServer_ok {c : Controller} {o : Oracle} {cluster cluster' : ClusterState}
    {err : Option String} (h : c.pushEnvoyFilters2APIServer o cluster = .ok (err, cluster')) :
    err ≠ none ∧ cluster'.envoyFilters = cluster.envoyFilters ∨
      (err ≠ none ↔ LastFailed cluster.envoyFilters cluster'.envoyFilters) := by
  obtain ⟨⟨⟨generated, gerr⟩, vs⟩, hgen, h⟩ := bind_eq_ok.mp h
  cases gerr with
  | some e =>
    cases h
    exact .inl ⟨nofun, rfl⟩
  | none =>
    cases h
    exact .inr (err_ne_none_iff _ _ _ _)

theorem allSucceeded_refl {σ : Type} (server : Server ObjectKey σ) : AllSucceeded server server := by
  refine ⟨fun h => absurd h (lt_irrefl _), fun w hw => ?_⟩
  rw [newWrites, List.drop_length] at hw
  cases hw

/-! ## The loop -/

/-- What a callback does after its push: it is called again after an error, unless
it has retried often enough. -/
theorem callback_of_push {c : Controller} {o : Oracle} {s : LoopState} {err : Option String} {cluster : ClusterState}
    (h : c.pushEnvoyFilters2APIServer o s.cluster = .ok (err, cluster)) :
    ∃ s', c.callback o s = .ok s' ∧ s'.cluster = cluster ∧ (s'.pending = true ↔ err ≠ none ∧ s.retries < maxRetries) := by
  unfold Controller.callback
  rw [h]
  cases err with
  | none => exact ⟨_, rfl, rfl, nofun, fun h => absurd rfl h.1⟩
  | some e =>
    show ∃ s', (if s.retries ≥ maxRetries then _ else _) = _ ∧ _
    split
    · rename_i hmax
      exact ⟨_, rfl, rfl, nofun, fun h => absurd h.2 (not_lt.mpr hmax)⟩
    · rename_i hmax
      exact ⟨_, rfl, rfl, fun _ => ⟨nofun, not_le.mp hmax⟩, fun _ => rfl⟩

theorem mainLoop_idle (c : Controller) {s : LoopState} (h : s.pending = false) : ∀ os : List Oracle,
    c.mainLoop os s = .ok s
  | [] => rfl
  | o :: os => by
    rw [mainLoop, if_neg (by rw [h]; exact Bool.false_ne_true)]
    exact mainLoop_idle c h os

/-- The loop stops after a push that returned no error or after three retries. -/
theorem mainLoop_stops {c : Controller} : ∀ {os : List Oracle} {s s' : LoopState}, c.mainLoop os s = .ok s' →
    s.pending = true → s'.pending = false → ∃ o ∈ os, ∃ (t : LoopState) (err : Option String),
      c.pushEnvoyFilters2APIServer o t.cluster = .ok (err, s'.cluster) ∧ (err = none ∨ maxRetries ≤ t.retries)
  | [], s, s', h, hp, hp' => by
    cases h
    cases hp.symm.trans hp'
  | o :: os, s, s', h, hp, hp' => by
    rw [mainLoop, if_pos hp] at h
    obtain ⟨t, ht, h⟩ := bind_eq_ok.mp h
    obtain ⟨⟨err, cluster⟩, hpush, -⟩ := bind_eq_ok.mp ht
    obtain ⟨t', ht', hcluster, hpending⟩ := callback_of_push hpush
    cases ht.symm.trans ht'
    cases hpt : t.pending with
    | true =>
      obtain ⟨o', ho', h⟩ := mainLoop_stops h hpt hp'
      exact ⟨o', List.mem_cons_of_mem _ ho', h⟩
    | false =>
      cases h.symm.trans (mainLoop_idle c hpt os)
      refine ⟨o, List.mem_cons_self, s, err, hcluster ▸ hpush, ?_⟩
      rw [hpt] at hpending
      by_contra hne
      rw [not_or, not_le] at hne
      cases hpending.mpr hne

/-- A push returns no error only if all its calls succeeded, and `mainLoop` pushes
again whenever an EnvoyFilter was not written, exactly if all calls of the push
succeeded, or the last one was a write that failed and there are retries left. -/
theorem unmasked_iff {c : Controller} {o : Oracle} {s : LoopState} {err : Option String} {cluster : ClusterState}
    (h : c.pushEnvoyFilters2APIServer o s.cluster = .ok (err, cluster)) :
    ((err = none → AllSucceeded s.cluster.envoyFilters cluster.envoyFilters) ∧
      (¬AllWritten s.cluster.envoyFilters cluster.envoyFilters → ∃ s', c.callback o s = .ok s' ∧ s'.pending = true)) ↔
    AllSucceeded s.cluster.envoyFilters cluster.envoyFilters ∨
      LastFailed s.cluster.envoyFilters cluster.envoyFilters ∧ s.retries < maxRetries := by
  obtain ⟨s', hs', -, hpending⟩ := callback_of_push h
  have hretry : (∃ s', c.callback o s = .ok s' ∧ s'.pending = true) ↔ err ≠ none ∧ s.retries < maxRetries := by
    rw [← hpending]
    refine ⟨fun ⟨t, ht, hp⟩ => ?_, fun hp => ⟨s', hs', hp⟩⟩
    cases ht.symm.trans hs'
    exact hp
  rw [hretry]
  rcases pushEnvoyFilters2APIServer_ok h with ⟨herr, hsame⟩ | hlast
  · -- no call was made
    have hall : AllSucceeded s.cluster.envoyFilters cluster.envoyFilters := by
      rw [hsame]
      exact allSucceeded_refl _
    exact iff_of_true ⟨fun _ => hall, fun hne => absurd hall.2 hne⟩ (.inl hall)
  · constructor
    · rintro ⟨hnil, hretried⟩
      by_cases hfailed : LastFailed s.cluster.envoyFilters cluster.envoyFilters
      · exact .inr ⟨hfailed, (hretried hfailed.not_allWritten).2⟩
      · exact .inl (hnil (not_not.mp (mt hlast.mp hfailed)))
    · rintro (hall | ⟨hfailed, hretries⟩)
      · exact ⟨fun _ => hall, fun hne => absurd hall.2 hne⟩
      · exact ⟨fun hnil => absurd hnil (hlast.mpr hfailed), fun _ => ⟨hlast.mpr hfailed, hretries⟩⟩

/-- The ZooKeeper service's push with calls that fail. -/
def failing (fails : Nat → Bool) : LoopState where
  pending := true
  cluster := { beforePush with envoyFilters := { beforePush.envoyFilters with fails := fails } }

/-- The last write fails: the push returns an error and is tried again. -/
theorem last_write_retried : ∃ err cluster,
    zookeeper.pushEnvoyFilters2APIServer {} (failing (· = 3)).cluster = .ok (err, cluster) ∧
    ¬AllWritten (failing (· = 3)).cluster.envoyFilters cluster.envoyFilters ∧
    ∃ s', zookeeper.callback {} (failing (· = 3)) = .ok s' ∧ s'.pending = true := by
  obtain ⟨⟨err, cluster⟩, h, hlast⟩ : ∃ r, zookeeper.pushEnvoyFilters2APIServer {} (failing (· = 3)).cluster = .ok r ∧
    LastFailed (failing (· = 3)).cluster.envoyFilters r.2.envoyFilters := ⟨_, rfl, _, rfl, rfl⟩
  refine ⟨err, cluster, h, hlast.not_allWritten, ?_⟩
  exact ((unmasked_iff h).mpr (.inr ⟨hlast, by decide⟩)).2 hlast.not_allWritten

/-- Creating the first of two EnvoyFilters fails: the push returns no error, and
there is no retry. -/
theorem first_create_masked : ∃ cluster s',
    zookeeper.pushEnvoyFilters2APIServer {} (failing (· = 2)).cluster = .ok (none, cluster) ∧
    ¬AllWritten (failing (· = 2)).cluster.envoyFilters cluster.envoyFilters ∧
    zookeeper.callback {} (failing (· = 2)) = .ok s' ∧ s'.pending = false := by
  refine ⟨_, _, rfl, ?_, rfl, rfl⟩
  unfold AllWritten
  decide +kernel

end Aeraki.Proof.EnvoyFilter
