import Mathlib

/-!
# Transition systems and interruptible programs

Two things a proof about a whole system needs of any system. `System`: an
initial condition and a step relation, with the rule that an invariant holds
of every reachable state (`Reachable.invariant`).

`Prog`: a program over a shared state that waits for answers of other parties.
A run of it returns a value, or stops where the next answer has not come yet;
either way it leaves a state, and `Triple` states what holds in both.
-/

/-- A transition system. -/
structure System (σ : Type) where
  init : σ → Prop
  step : σ → σ → Prop

namespace System

variable {σ : Type}

/-- The states that runs of the system reach. -/
inductive Reachable (S : System σ) : σ → Prop
  | init {s : σ} : S.init s → Reachable S s
  | step {s t : σ} : Reachable S s → S.step s t → Reachable S t

/-- What holds initially and is kept by every step holds along every run. -/
theorem Reachable.invariant {S : System σ} {I : σ → Prop} (h₀ : ∀ s, S.init s → I s)
    (hs : ∀ s t, I s → S.step s t → I t) {s : σ} (h : S.Reachable s) : I s := by
  induction h with
  | init hi => exact h₀ _ hi
  | step _ hst ih => exact hs _ _ ih hst

theorem Reachable.run {S : System σ} {s t : σ} (h : S.Reachable s) (hrun : Relation.ReflTransGen S.step s t) :
    S.Reachable t := by
  induction hrun with
  | refl => exact h
  | tail _ hst ih => exact ih.step hst

/-- A system whose steps are runs of `T` under `f`, of no step or of several, stays
with `T`. -/
theorem Reachable.simulate {τ : Type} {S : System σ} {T : System τ} (f : σ → τ) (h₀ : ∀ s, S.init s → T.init (f s))
    (hs : ∀ s t, S.Reachable s → S.step s t → Relation.ReflTransGen T.step (f s) (f t)) {s : σ}
    (h : S.Reachable s) : T.Reachable (f s) := by
  induction h with
  | init hi => exact .init (h₀ _ hi)
  | step hr hst ih => exact ih.run (hs _ _ hr hst)

end System

/-- Runs of `n` steps. -/
inductive Steps {σ : Type} (R : σ → σ → Prop) : Nat → σ → σ → Prop
  | refl (s : σ) : Steps R 0 s s
  | tail {n : Nat} {s t u : σ} : Steps R n s t → R t u → Steps R (n + 1) s u

namespace Steps

variable {σ : Type} {R : σ → σ → Prop} {I : σ → Prop}

theorem head {n : Nat} {s t u : σ} (h : Steps R n t u) (hst : R s t) : Steps R (n + 1) s u := by
  induction h with
  | refl => exact .tail (.refl s) hst
  | tail _ hR ih => exact (ih hst).tail hR

theorem invariant (hI : ∀ s t, I s → R s t → I t) {n : Nat} {s t : σ} (h : Steps R n s t) (hs : I s) : I t := by
  induction h with
  | refl => exact hs
  | tail _ hst ih => exact hI _ _ (ih hs) hst

/-- A measure that every step decreases bounds the runs. -/
theorem le_measure (hI : ∀ s t, I s → R s t → I t) {m : σ → Nat} (hm : ∀ s t, I s → R s t → m t < m s) {n : Nat}
    {s t : σ} (h : Steps R n s t) (hs : I s) : n + m t ≤ m s := by
  induction h with
  | refl => exact Nat.le_of_eq (Nat.zero_add _)
  | tail h hst ih =>
    have hle := ih hs
    have hlt := hm _ _ (h.invariant hI hs) hst
    omega

/-- Where every step decreases, no run goes on for ever. -/
theorem acc {W : Type} {r : W → W → Prop} (hwf : WellFounded r) (hI : ∀ s t, I s → R s t → I t) {m : σ → W}
    (hm : ∀ s t, I s → R s t → r (m t) (m s)) {s : σ} (hs : I s) : Acc (fun t s => R s t) s := by
  have h : ∀ w s, m s = w → I s → Acc (fun t s => R s t) s := fun w => by
    induction w using hwf.induction with
    | h w ih => exact fun s hw hs => .intro s fun t hst => ih (m t) (hw ▸ hm s t hs hst) t rfl (hI s t hs hst)
  exact h (m s) s rfl hs

/-- So a run that goes on where it can ends where it cannot. -/
theorem ends (hI : ∀ s t, I s → R s t → I t) {D : σ → Prop} (hD : ∀ s, I s → ¬D s → ∃ t, R s t) {s : σ}
    (hacc : Acc (fun t s => R s t) s) (hs : I s) : ∃ n t, Steps R n s t ∧ D t := by
  induction hacc with
  | intro s _ ih =>
    by_cases hd : D s
    · exact ⟨0, s, .refl s, hd⟩
    · obtain ⟨t, hst⟩ := hD s hs hd
      obtain ⟨n, u, hsteps, hu⟩ := ih t hst (hI s t hs hst)
      exact ⟨n + 1, u, hsteps.head hst, hu⟩

end Steps

/-- A program over a state `σ`: it returns a value, or stops (`none`) where it
waits for an answer; either way it leaves a state. -/
def Prog (σ α : Type) : Type := σ → Option α × σ

namespace Prog

variable {σ α β : Type}

instance : Monad (Prog σ) where
  pure a := fun s => (some a, s)
  bind m f := fun s =>
    match m s with
    | (some a, t) => f a t
    | (none, t) => (none, t)

/-- The state. -/
def state : Prog σ σ := fun s => (some s, s)

/-- A change of the state. -/
def update (f : σ → σ) : Prog σ Unit := fun s => (some (), f s)

/-- Waiting for an answer that has not come. -/
def stop : Prog σ α := fun s => (none, s)

/-- From a state satisfying `P`, the program returns a value and leaves a
state satisfying `Q`, or stops in a state satisfying `E`. -/
def Triple (P : σ → Prop) (m : Prog σ α) (Q : α → σ → Prop) (E : σ → Prop) : Prop :=
  ∀ s, P s → match m s with
    | (some a, t) => Q a t
    | (none, t) => E t

namespace Triple

variable {P P' : σ → Prop} {Q Q' : α → σ → Prop} {E : σ → Prop}

theorem pure {a : α} (h : ∀ s, P s → Q a s) : Triple P (Pure.pure a : Prog σ α) Q E := h

theorem bind {m : Prog σ α} {f : α → Prog σ β} {R : β → σ → Prop} (hm : Triple P m Q E)
    (hf : ∀ a, Triple (Q a) (f a) R E) : Triple P (m >>= f) R E := by
  intro s hs
  have h := hm s hs
  show match (match m s with | (some a, t) => f a t | (none, t) => (none, t)) with
    | (some b, t) => R b t
    | (none, t) => E t
  rcases hr : m s with ⟨_ | a, t⟩ <;> rw [hr] at h
  · exact h
  · exact hf a t h

theorem state {Q : σ → σ → Prop} (h : ∀ s, P s → Q s s) :
    Triple P (Prog.state : Prog σ σ) Q E := h

/-- What follows a read runs from the state that was read. -/
theorem read {f : σ → Prog σ α} (h : ∀ s, P s → Triple (fun t => t = s) (f s) Q E) :
    Triple P (Prog.state >>= f) Q E := fun s hs => h s hs s rfl

theorem update {f : σ → σ} {Q : Unit → σ → Prop} (h : ∀ s, P s → Q () (f s)) :
    Triple P (Prog.update f) Q E := h

theorem stop (h : ∀ s, P s → E s) : Triple P (Prog.stop : Prog σ α) Q E := h

/-- Consequence. -/
theorem conseq {m : Prog σ α} (h : Triple P' m Q' E) (hP : ∀ s, P s → P' s)
    (hQ : ∀ a s, Q' a s → Q a s) : Triple P m Q E := by
  intro s hs
  have := h s (hP s hs)
  rcases hm : m s with ⟨_ | a, t⟩ <;> rw [hm] at this
  · exact this
  · exact hQ a t this

/-- Less is asked of where the program stops. -/
theorem stops {E' : σ → Prop} {m : Prog σ α} (h : Triple P m Q E') (hE : ∀ s, E' s → E s) : Triple P m Q E := by
  intro s hs
  have := h s hs
  rcases hm : m s with ⟨_ | a, t⟩ <;> rw [hm] at this
  · exact hE t this
  · exact this

/-- A program that nowhere stops returns. -/
theorem returns {m : Prog σ α} (h : Triple P m Q fun _ => False) {s : σ} (hs : P s) :
    ∃ a t, m s = (some a, t) ∧ Q a t := by
  have := h s hs
  rcases hm : m s with ⟨_ | a, t⟩ <;> rw [hm] at this
  · exact this.elim
  · exact ⟨a, t, rfl, this⟩

/-- A fact that does not depend on the state. -/
theorem fact {p : Prop} {m : Prog σ α} (h : p → Triple P m Q E) : Triple (fun s => P s ∧ p) m Q E :=
  fun s hs => h hs.2 s hs.1

end Triple

end Prog
