import Aeraki.Framework.Go

/-!
# Computations that return

A computation that returns does not panic (`Returns`). A loop over a list
returns if and only if each of its steps does (`returns_mapM`); a loop that
stops at the first error returns if and only if each step that panics comes
after one with an error (`returns_run_mapM`, `returns_run_foldlM`).
-/

namespace Go

variable {ε η α β : Type}

/-- The computation returns: it does not panic. -/
def Returns (x : Except ε α) : Prop := ∃ r, x = .ok r

theorem returns_pure (a : α) : Returns (pure a : Except ε α) := ⟨a, rfl⟩

theorem not_returns_error (e : ε) : ¬ Returns (.error e : Except ε α) := by
  rintro ⟨r, h⟩
  cases h

theorem returns_bind {x : Except ε α} {f : α → Except ε β} : Returns (x >>= f) ↔ ∃ a, x = .ok a ∧ Returns (f a) := by
  constructor
  · rintro ⟨r, h⟩
    obtain ⟨a, ha, hr⟩ := bind_eq_ok.mp h
    exact ⟨a, ha, r, hr⟩
  · rintro ⟨a, ha, r, hr⟩
    exact ⟨r, bind_eq_ok.mpr ⟨a, ha, hr⟩⟩

/-- What follows returns. -/
theorem returns_bind_iff {x : Except ε α} {f : α → Except ε β} (hf : ∀ a, Returns (f a)) :
    Returns (x >>= f) ↔ Returns x :=
  returns_bind.trans ⟨fun ⟨a, ha, _⟩ => ⟨a, ha⟩, fun ⟨a, ha⟩ => ⟨a, ha, hf a⟩⟩

theorem returns_mapM {f : α → Except ε β} {xs : List α} : Returns (xs.mapM f) ↔ ∀ x ∈ xs, Returns (f x) := by
  constructor
  · rintro ⟨ys, h⟩ x hx
    obtain ⟨y, -, hy⟩ := mapM_ok_mem h hx
    exact ⟨y, hy⟩
  · exact mapM_ok

/-- A loop returns results in a relation with its elements if and only if each
step does. -/
theorem mapM_forall₂_iff {f : α → Except ε β} {R : α → β → Prop} : ∀ {xs : List α},
    (∃ ys, xs.mapM f = .ok ys ∧ List.Forall₂ R xs ys) ↔ ∀ x ∈ xs, ∃ y, f x = .ok y ∧ R x y
  | [] => iff_of_true ⟨[], rfl, .nil⟩ fun _ h => nomatch h
  | x :: xs => by
    rw [List.forall_mem_cons, ← mapM_forall₂_iff]
    constructor
    · rintro ⟨zs, h, hall⟩
      rw [List.mapM_cons] at h
      obtain ⟨y, hy, h⟩ := bind_eq_ok.mp h
      obtain ⟨ys, hys, h⟩ := bind_eq_ok.mp h
      cases h
      obtain ⟨hxy, hrest⟩ := List.forall₂_cons.mp hall
      exact ⟨⟨y, hy, hxy⟩, ys, hys, hrest⟩
    · rintro ⟨⟨y, hy, hxy⟩, ys, hys, hrest⟩
      refine ⟨y :: ys, ?_, .cons hxy hrest⟩
      rw [List.mapM_cons, hy, hys]
      rfl

/-- A loop whose steps return what satisfies `P`. -/
theorem mapM_ok_all {f : α → Except ε β} {P : β → Prop} {xs : List α} (h : ∀ x ∈ xs, ∃ y, f x = .ok y ∧ P y) :
    ∃ ys, xs.mapM f = .ok ys ∧ ∀ y ∈ ys, P y := by
  obtain ⟨ys, hys⟩ := mapM_ok fun x hx => (h x hx).imp fun _ hy => hy.1
  refine ⟨ys, hys, fun y hy => ?_⟩
  obtain ⟨x, hx, hxy⟩ := mem_of_mapM_ok hys hy
  obtain ⟨y', hy', hP⟩ := h x hx
  cases hxy.symm.trans hy'
  exact hP

theorem returns_index_zero {xs : List α} : Returns (index xs 0) ↔ xs ≠ [] := by
  cases xs with
  | nil => exact iff_of_false (not_returns_error _) (fun h => h rfl)
  | cons x xs => exact iff_of_true ⟨x, rfl⟩ (List.cons_ne_nil x xs)

/-! ## Errors that stop a loop -/

/-- The computation returns an error. -/
def Rejects (x : ExceptT η (Except ε) α) : Prop := ∃ e, x.run = .ok (.error e)

theorem Rejects.returns {x : ExceptT η (Except ε) α} (h : Rejects x) : Returns x.run :=
  h.elim fun _ h => ⟨_, h⟩

theorem not_rejects_error (e : ε) : ¬ Rejects (ExceptT.mk (.error e) : ExceptT η (Except ε) α) := by
  rintro ⟨_, h⟩
  cases h

theorem not_rejects_ok (a : α) : ¬ Rejects (ExceptT.mk (.ok (.ok a)) : ExceptT η (Except ε) α) := by
  rintro ⟨_, h⟩
  cases h

theorem returns_run_bind {x : ExceptT η (Except ε) α} {f : α → ExceptT η (Except ε) β} :
    Returns (x >>= f).run ↔ Returns x.run ∧ (Rejects x ∨ ∃ a, x.run = .ok (.ok a) ∧ Returns (f a).run) := by
  rcases x with p | (e | a)
  · exact iff_of_false (not_returns_error p) fun h => not_returns_error p h.1
  · exact iff_of_true ⟨.error e, rfl⟩ ⟨⟨.error e, rfl⟩, .inl ⟨e, rfl⟩⟩
  · constructor
    · exact fun h => ⟨⟨.ok a, rfl⟩, .inr ⟨a, rfl, h⟩⟩
    · rintro ⟨-, ⟨e, h⟩ | ⟨a', h, hr⟩⟩
      · cases h
      · cases h
        exact hr

/-- What follows returns. -/
theorem returns_run_bind_iff {x : ExceptT η (Except ε) α} {f : α → ExceptT η (Except ε) β}
    (hf : ∀ a, Returns (f a).run) : Returns (x >>= f).run ↔ Returns x.run := by
  rw [returns_run_bind]
  constructor
  · exact And.left
  · rintro ⟨e | a, h⟩
    · exact ⟨⟨_, h⟩, .inl ⟨e, h⟩⟩
    · exact ⟨⟨_, h⟩, .inr ⟨a, h, hf a⟩⟩

/-- Each element with `P` comes after one with `R`. -/
def Guarded (P R : α → Prop) (xs : List α) : Prop :=
  ∀ (i : Nat) (x : α), xs[i]? = some x → P x → ∃ (j : Nat) (y : α), j < i ∧ xs[j]? = some y ∧ R y

theorem guarded_nil {P R : α → Prop} : Guarded P R [] := fun _ _ h => nomatch h

theorem guarded_cons {P R : α → Prop} {x : α} {xs : List α} :
    Guarded P R (x :: xs) ↔ ¬ P x ∧ (R x ∨ Guarded P R xs) := by
  constructor
  · intro h
    refine ⟨fun hx => ?_, or_iff_not_imp_left.mpr fun hR i y hi hy => ?_⟩
    · obtain ⟨j, -, hj, -⟩ := h 0 x rfl hx
      exact Nat.not_lt_zero j hj
    · obtain ⟨_ | j, z, hj, hz, hr⟩ := h (i + 1) y hi hy
      · cases hz
        exact absurd hr hR
      · exact ⟨j, z, Nat.lt_of_succ_lt_succ hj, hz, hr⟩
  · rintro ⟨hx, h⟩ (_ | i) y hi hy
    · cases hi
      exact absurd hy hx
    · rcases h with hR | h
      · exact ⟨0, x, Nat.succ_pos i, rfl, hR⟩
      · obtain ⟨j, z, hj, hz, hr⟩ := h i y hi hy
        exact ⟨j + 1, z, Nat.succ_lt_succ hj, hz, hr⟩

/-- One turn of such a loop, and the turns after it. -/
theorem returns_turn {x : ExceptT η (Except ε) α} {f : α → ExceptT η (Except ε) β} {P R Q : Prop}
    (hP : Returns x.run ↔ ¬ P) (hR : Rejects x ↔ R) (hf : ∀ a, Returns (f a).run ↔ Q) :
    Returns (x >>= f).run ↔ ¬ P ∧ (R ∨ Q) := by
  rw [returns_run_bind, hP, hR]
  refine and_congr_right fun hp => ?_
  constructor
  · rintro (h | ⟨a, -, h⟩)
    · exact .inl h
    · exact .inr ((hf a).mp h)
  · rintro (h | h)
    · exact .inl h
    · obtain ⟨e | a, hr⟩ := hP.mpr hp
      · exact .inl (hR.mp ⟨e, hr⟩)
      · exact .inr ⟨a, hr, (hf a).mpr h⟩

theorem returns_run_mapM {f : α → ExceptT η (Except ε) β} {P R : α → Prop} : ∀ {xs : List α},
    (∀ x ∈ xs, Returns (f x).run ↔ ¬ P x) → (∀ x ∈ xs, Rejects (f x) ↔ R x) →
    (Returns (xs.mapM f).run ↔ Guarded P R xs)
  | [], _, _ => iff_of_true ⟨_, rfl⟩ guarded_nil
  | x :: xs, hP, hR => by
    have ih := returns_run_mapM (fun y hy => hP y (List.mem_cons_of_mem _ hy))
      (fun y hy => hR y (List.mem_cons_of_mem _ hy))
    rw [List.mapM_cons, guarded_cons]
    refine returns_turn (hP x List.mem_cons_self) (hR x List.mem_cons_self) fun y => ?_
    exact (returns_run_bind_iff fun _ => ⟨_, rfl⟩).trans ih

theorem returns_run_foldlM {step : β → α → ExceptT η (Except ε) β} {P R : α → Prop} : ∀ {xs : List α} (acc : β),
    (∀ acc, ∀ x ∈ xs, Returns (step acc x).run ↔ ¬ P x) → (∀ acc, ∀ x ∈ xs, Rejects (step acc x) ↔ R x) →
    (Returns (xs.foldlM step acc).run ↔ Guarded P R xs)
  | [], _, _, _ => iff_of_true ⟨_, rfl⟩ guarded_nil
  | x :: xs, acc, hP, hR => by
    rw [List.foldlM_cons, guarded_cons]
    refine returns_turn (hP acc x List.mem_cons_self) (hR acc x List.mem_cons_self) fun b => ?_
    exact returns_run_foldlM b (fun a y hy => hP a y (List.mem_cons_of_mem _ hy))
      (fun a y hy => hR a y (List.mem_cons_of_mem _ hy))

end Go
