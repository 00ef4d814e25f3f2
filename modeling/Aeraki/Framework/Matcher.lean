import Mathlib.Data.List.Basic

/-!
# Matchers with connectives

A configuration language whose matchers are closed under conjunction,
disjunction and negation, with its meaning. Code that compiles lists of allowed
and excluded values to such a language leaves out the part of an empty list
(`Connectives.parts`) and falls back to the matcher that accepts all
(`Connectives.all`); `holds_parts` and `holds_all` say what the result means.
-/

/-- The connectives of a matcher language and the meaning of its matchers. -/
structure Connectives (α : Type) where
  any : α
  and : List α → α
  or : List α → α
  not : α → α
  holds : α → Bool
  holds_any : holds any = true
  holds_and (ps : List α) : holds (and ps) = ps.all holds
  holds_or (ps : List α) : holds (or ps) = ps.any holds
  holds_not (p : α) : holds (not p) = !holds p

namespace Connectives

variable {α : Type} (L : Connectives α)

/-- The matchers of some values and of some excluded values: an empty list has
no part. -/
def parts (values notValues : List α) : List α :=
  (if values.isEmpty then [] else [L.or values]) ++
    (if notValues.isEmpty then [] else [L.not (L.or notValues)])

/-- The conjunction of some parts; without parts, the matcher that accepts all. -/
def all (ps : List α) : α := L.and (if ps.isEmpty then [L.any] else ps)

@[simp] theorem parts_nil : L.parts [] [] = [] := rfl

theorem holds_parts (values notValues : List α) :
    (∀ p ∈ L.parts values notValues, L.holds p = true) ↔
      (values = [] ∨ ∃ v ∈ values, L.holds v = true) ∧ ∀ v ∈ notValues, L.holds v = false := by
  have hpos : (∀ p ∈ if values.isEmpty then [] else [L.or values], L.holds p = true) ↔
      values = [] ∨ ∃ v ∈ values, L.holds v = true := by
    cases values with
    | nil => simp
    | cons v vs => simp [L.holds_or]
  have hneg : (∀ p ∈ if notValues.isEmpty then [] else [L.not (L.or notValues)], L.holds p = true) ↔
      ∀ v ∈ notValues, L.holds v = false := by
    cases notValues with
    | nil => simp
    | cons v vs => simp [L.holds_or, L.holds_not]
  rw [parts, List.forall_mem_append, hpos, hneg]

theorem holds_all (ps : List α) : L.holds (L.all ps) = true ↔ ∀ p ∈ ps, L.holds p = true := by
  rw [all, L.holds_and, List.all_eq_true]
  cases ps with
  | nil => simp [L.holds_any]
  | cons p ps => rfl

end Connectives
