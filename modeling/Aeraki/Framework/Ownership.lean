import Mathlib.Logic.Function.Basic

/-!
# Ownership tables

A table gives some resources an owner, and some parties claim a resource. The
table is consistent with the claims if every claimed resource is its
claimant's; then no two parties claim the same (`Consistent.unique`). The
table may hold more than the claims: an owner that has given up its resource
may still be in it. A resource may be given to another party, or dropped from
the table, unless its owner there claims it (`Consistent.reassign`), and may
be claimed by its owner (`Consistent.claim`).
-/

namespace Ownership

variable {ρ κ : Type} {owner : ρ → Option κ} {claims claims' : κ → Option ρ}

/-- Every claimed resource is its claimant's. -/
def Consistent (owner : ρ → Option κ) (claims : κ → Option ρ) : Prop :=
  ∀ k r, claims k = some r → owner r = some k

namespace Consistent

/-- No two parties claim the same resource. -/
theorem unique (h : Consistent owner claims) {k k' : κ} {r : ρ} (hk : claims k = some r)
    (hk' : claims k' = some r) : k = k' :=
  Option.some.inj ((h k r hk).symm.trans (h k' r hk'))

/-- Claims may be given up. -/
theorem mono (h : Consistent owner claims) (hc : ∀ k r, claims' k = some r → claims k = some r) :
    Consistent owner claims' := fun k r hk => h k r (hc k r hk)

/-- A resource is given away or dropped, unless its owner in the table claims
it. -/
theorem reassign [DecidableEq ρ] (h : Consistent owner claims) {r : ρ} (v : Option κ)
    (hr : ∀ k, owner r = some k → claims k ≠ some r) :
    Consistent (Function.update owner r v) claims := by
  intro k r' hk
  by_cases e : r' = r
  · subst e; exact absurd hk (hr k (h k r' hk))
  · rw [Function.update_of_ne e]; exact h k r' hk

/-- A party changes its claim to a resource it owns. -/
theorem claim (h : Consistent owner claims) {k : κ}
    (hc : ∀ k' ≠ k, ∀ r, claims' k' = some r → claims k' = some r)
    (hk : ∀ r, claims' k = some r → owner r = some k) : Consistent owner claims' := by
  intro k' r hr
  rcases Classical.em (k' = k) with e | e
  · subst e; exact hk r hr
  · exact h k' r (hc k' e r hr)

end Consistent

end Ownership
