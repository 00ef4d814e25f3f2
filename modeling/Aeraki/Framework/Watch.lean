import Aeraki.Framework.Run

/-!
# Watching inputs

A consumer derives a value from inputs that others change. It does not read them
all the time: a change leaves an event, a handler looks at the event later, by the
inputs there are then, and wakes the consumer or does not; wake-ups are merged; and
the consumer reads the inputs some time after it has been woken. Nothing of this is
synchronised: inputs change between any two of these steps.

Two laws are enough for no change to be lost (`Watch`): an event that does not wake
the consumer is of a change that does not change the derived value, and such a
change leaves what other events do. Then, whenever nothing is left to do, the value
derived from the inputs that were read last is that of the inputs there are
(`current`).
-/

/-- How changes of inputs `ι` lead to events `ε`, and which of these wake a consumer
that derives a `δ`. -/
structure Watch (ι ε δ : Type) where
  derive : ι → δ
  change : ι → ε → ι → Prop
  wakes : ι → ε → Bool
  /-- A change that wakes nobody does not matter. -/
  missed {i j : ι} {e : ε} : change i e j → wakes j e = false → derive j = derive i
  /-- And it leaves the fate of other events. -/
  stable {i j : ι} {e : ε} : change i e j → wakes j e = false → ∀ e', wakes j e' = wakes i e'

namespace Watch

variable {ι ε δ : Type}

/-- The inputs; the events that no handler has looked at; the wake-ups that the
consumer has not taken; whether it has taken some and not read the inputs yet; and
the inputs that it has read last. -/
structure State (ι ε : Type) where
  input : ι
  events : List ε := []
  wakeups : Nat := 0
  reading : Bool := false
  last : ι

/-- What can happen next. Events are looked at in any order, an event may be merged
with an equal one, and wake-ups may also come from elsewhere. -/
inductive Step (W : Watch ι ε δ) (s : State ι ε) : State ι ε → Prop
  | change {e : ε} {j : ι} : W.change s.input e j → Step W s { s with input := j, events := s.events ++ [e] }
  | handle {e : ε} {l1 l2 : List ε} : s.events = l1 ++ e :: l2 →
    Step W s { s with events := l1 ++ l2, wakeups := s.wakeups + (W.wakes s.input e).toNat }
  | merge {e : ε} {l1 l2 : List ε} : s.events = l1 ++ e :: l2 → e ∈ l1 ++ l2 →
    Step W s { s with events := l1 ++ l2 }
  | wake : Step W s { s with wakeups := s.wakeups + 1 }
  | take {k : Nat} : 0 < k → k ≤ s.wakeups → Step W s { s with wakeups := s.wakeups - k, reading := true }
  | read : s.reading = true → Step W s { s with reading := false, last := s.input }

/-- The pipeline, with its initial inputs as read. -/
def system (W : Watch ι ε δ) : System (State ι ε) where
  init s := s = { input := s.input, last := s.input }
  step := Step W

/-- The consumer will read the inputs again, or need not. -/
def Inv (W : Watch ι ε δ) (s : State ι ε) : Prop :=
  0 < s.wakeups ∨ s.reading = true ∨ (∃ e ∈ s.events, W.wakes s.input e = true) ∨ W.derive s.last = W.derive s.input

theorem Inv.change {W : Watch ι ε δ} {s : State ι ε} {e : ε} {j : ι} (h : W.Inv s) (hc : W.change s.input e j) :
    W.Inv { s with input := j, events := s.events ++ [e] } := by
  cases hw : W.wakes j e with
  | true => exact .inr (.inr (.inl ⟨e, List.mem_append_right _ (List.mem_singleton_self e), hw⟩))
  | false =>
    rcases h with h | h | ⟨e', he', hw'⟩ | h
    · exact .inl h
    · exact .inr (.inl h)
    · exact .inr (.inr (.inl ⟨e', List.mem_append_left _ he', (W.stable hc hw e').trans hw'⟩))
    · exact .inr (.inr (.inr (h.trans (W.missed hc hw).symm)))

theorem Inv.handle {W : Watch ι ε δ} {s : State ι ε} {e : ε} {l1 l2 : List ε} (h : W.Inv s)
    (he : s.events = l1 ++ e :: l2) :
    W.Inv { s with events := l1 ++ l2, wakeups := s.wakeups + (W.wakes s.input e).toNat } := by
  cases hw : W.wakes s.input e with
  | true => exact .inl (Nat.succ_pos _)
  | false =>
    rcases h with h | h | ⟨e', he', hw'⟩ | h
    · exact .inl h
    · exact .inr (.inl h)
    · -- the event that will wake the consumer is another one
      have hne : e' ≠ e := fun heq => by
        rw [heq, hw] at hw'
        cases hw'
      refine .inr (.inr (.inl ⟨e', ?_, hw'⟩))
      rw [he] at he'
      simpa [hne] using he'
    · exact .inr (.inr (.inr h))

theorem Inv.merge {W : Watch ι ε δ} {s : State ι ε} {e : ε} {l1 l2 : List ε} (h : W.Inv s)
    (he : s.events = l1 ++ e :: l2) (hmem : e ∈ l1 ++ l2) : W.Inv { s with events := l1 ++ l2 } := by
  refine h.imp_right (.imp_right (.imp_left ?_))
  rintro ⟨e', he', hw⟩
  refine ⟨e', ?_, hw⟩
  rw [he, List.mem_append, List.mem_cons] at he'
  rcases he' with he' | rfl | he'
  · exact List.mem_append_left _ he'
  · exact hmem
  · exact List.mem_append_right _ he'

theorem Inv.step {W : Watch ι ε δ} {s t : State ι ε} (h : W.Inv s) (hst : W.Step s t) : W.Inv t := by
  cases hst with
  | change hc => exact h.change hc
  | handle he => exact h.handle he
  | merge he hmem => exact h.merge he hmem
  | wake => exact .inl (Nat.succ_pos _)
  | take => exact .inr (.inl rfl)
  | read => exact .inr (.inr (.inr rfl))

/-- Nothing is left to do. -/
structure Quiet (s : State ι ε) : Prop where
  events : s.events = []
  wakeups : s.wakeups = 0
  reading : s.reading = false

/-- Then the value of the inputs that were read last is the current one. -/
theorem current {W : Watch ι ε δ} {s : State ι ε} (h : W.system.Reachable s) (hq : Quiet s) :
    W.derive s.last = W.derive s.input := by
  have hinv : W.Inv s := h.invariant (fun s hs => .inr (.inr (.inr (by rw [hs])))) fun _ _ => Inv.step
  rcases hinv with h | h | ⟨e, he, -⟩ | h
  · exact absurd hq.wakeups (Nat.ne_of_gt h)
  · cases hq.reading.symm.trans h
  · rw [hq.events] at he
    cases he
  · exact h

end Watch
