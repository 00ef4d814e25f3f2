import Aeraki.Framework.GoMap

/-!
# A snapshot cache

What an xDS server keeps for its nodes, as its documentation describes it: for
each node a snapshot of resources, and a status entry with the watches that
wait for an answer. Creating a watch creates the node's status entry,
clearing a snapshot deletes the node's snapshot and status entry, and setting a
snapshot answers the node's watches. `SnapshotCache` is any cache with these
laws; `mapCache` is one.
-/

/-- A snapshot cache: its operations, and what they do to the snapshots and
status entries. -/
structure SnapshotCache (ρ : Type) where
  State : Type
  empty : State
  getSnapshot : State → String → Option ρ
  /-- The status entry of a node: its watches. -/
  getStatusInfo : State → String → Option (Finset Nat)
  getStatusKeys : State → List String
  /-- Whether the watch is answered at once, and the cache then. -/
  createWatch : State → String → Nat → Bool × State
  cancelWatch : State → String → Nat → State
  clearSnapshot : State → String → State
  setSnapshot : State → String → ρ → State
  getStatusInfo_empty : ∀ n, getStatusInfo empty n = none
  mem_getStatusKeys : ∀ s n, n ∈ getStatusKeys s ↔ ∃ ws, getStatusInfo s n = some ws
  getStatusInfo_createWatch : ∀ s n w n', getStatusInfo (createWatch s n w).2 n' =
    if n' = n then
      some (if (createWatch s n w).1 then (getStatusInfo s n).getD ∅ else insert w ((getStatusInfo s n).getD ∅))
    else getStatusInfo s n'
  getStatusInfo_cancelWatch : ∀ s n w n', getStatusInfo (cancelWatch s n w) n' =
    if n' = n then (getStatusInfo s n).map (·.erase w) else getStatusInfo s n'
  getStatusInfo_clearSnapshot : ∀ s n n', getStatusInfo (clearSnapshot s n) n' =
    if n' = n then none else getStatusInfo s n'
  getStatusInfo_setSnapshot : ∀ s n x n', getStatusInfo (setSnapshot s n x) n' =
    if n' = n then (getStatusInfo s n).map fun _ => ∅ else getStatusInfo s n'
  getSnapshot_setSnapshot : ∀ s n x n', getSnapshot (setSnapshot s n x) n' =
    if n' = n then some x else getSnapshot s n'

namespace SnapshotCache

/-- A cache of two maps. A watch is answered at once if the node has a
snapshot. -/
def mapCache (ρ : Type) : SnapshotCache ρ where
  State := GoMap String ρ × GoMap String (Finset Nat)
  empty := (∅, ∅)
  getSnapshot s n := s.1.lookup n
  getStatusInfo s n := s.2.lookup n
  getStatusKeys s := s.2.sorted.map Prod.fst
  createWatch s n w :=
    let answered := (s.1.lookup n).isSome
    let watches := (s.2.lookup n).getD ∅
    (answered, s.1, s.2.insert n (if answered then watches else insert w watches))
  cancelWatch s n w :=
    match s.2.lookup n with
    | some watches => (s.1, s.2.insert n (watches.erase w))
    | none => s
  clearSnapshot s n := (s.1.erase n, s.2.erase n)
  setSnapshot s n x :=
    match s.2.lookup n with
    | some _ => (s.1.insert n x, s.2.insert n ∅)
    | none => (s.1.insert n x, s.2)
  getStatusInfo_empty _ := rfl
  mem_getStatusKeys s n := by
    rw [List.mem_map]
    constructor
    · rintro ⟨⟨_, ws⟩, h, rfl⟩; exact ⟨ws, GoMap.mem_sorted.mp h⟩
    · rintro ⟨ws, h⟩; exact ⟨(n, ws), GoMap.mem_sorted.mpr h, rfl⟩
  getStatusInfo_createWatch _ _ _ _ := GoMap.lookup_insert_eq _ _ _ _
  getStatusInfo_cancelWatch s n w n' := by
    cases h : s.2.lookup n with
    | some ws => simp [GoMap.lookup_insert_eq]
    | none =>
      by_cases e : n' = n
      · subst e; simpa using h
      · simp [e]
  getStatusInfo_clearSnapshot _ _ _ := GoMap.lookup_erase_eq _ _ _
  getStatusInfo_setSnapshot s n x n' := by
    cases h : s.2.lookup n with
    | some ws => simp [GoMap.lookup_insert_eq]
    | none =>
      by_cases e : n' = n
      · subst e; simpa using h
      · simp [e]
  getSnapshot_setSnapshot s n x n' := by
    cases h : s.2.lookup n <;> simp [GoMap.lookup_insert_eq]

/-- What the operations on watches and clearing do to the snapshots. -/
structure KeepsSnapshots {ρ : Type} (C : SnapshotCache ρ) : Prop where
  getSnapshot_empty : ∀ n, C.getSnapshot C.empty n = none
  getSnapshot_createWatch : ∀ s n w n', C.getSnapshot (C.createWatch s n w).2 n' = C.getSnapshot s n'
  getSnapshot_cancelWatch : ∀ s n w n', C.getSnapshot (C.cancelWatch s n w) n' = C.getSnapshot s n'
  getSnapshot_clearSnapshot : ∀ s n n', C.getSnapshot (C.clearSnapshot s n) n' =
    if n' = n then none else C.getSnapshot s n'

theorem keepsSnapshots_mapCache (ρ : Type) : (mapCache ρ).KeepsSnapshots where
  getSnapshot_empty _ := rfl
  getSnapshot_createWatch _ _ _ _ := rfl
  getSnapshot_cancelWatch s n w n' := by
    simp only [mapCache]
    split <;> rfl
  getSnapshot_clearSnapshot _ _ _ := GoMap.lookup_erase_eq _ _ _

end SnapshotCache
