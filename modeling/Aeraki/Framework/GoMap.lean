import Aeraki.Framework.Go

/-!
# Go maps

A Go map is a finite map (Mathlib's `Finmap`): two maps are equal if they have
the same value under every key. `writeAll` is a run of assignments
`m[k] = v`: the last write of a key wins (`lookup_writeAll`), and no write is
lost exactly when the keys written are distinct (`card_keys_writeAll_iff`).

Go ranges over a map in any order, another one each time. `shuffle n` is one
reordering of a list for each `n`, and every reordering is one of them
(`exists_shuffle`); `range n m` lists the entries of a map in the `n`-th order.
-/

/-- A Go `map[κ]ν`. -/
abbrev GoMap (κ ν : Type) : Type := Finmap fun _ : κ => ν

namespace GoMap

variable {κ ν : Type}

section

variable [DecidableEq κ]

theorem lookup_insert_eq (m : GoMap κ ν) (k k' : κ) (v : ν) :
    (m.insert k v).lookup k' = if k' = k then some v else m.lookup k' := by
  split
  · rename_i h; subst h; exact Finmap.lookup_insert m
  · rename_i h; exact Finmap.lookup_insert_of_ne m h

theorem lookup_erase_eq (m : GoMap κ ν) (k k' : κ) :
    (m.erase k).lookup k' = if k' = k then none else m.lookup k' := by
  split
  · rename_i h; subst h; exact Finmap.lookup_erase k' m
  · rename_i h; exact Finmap.lookup_erase_ne h

theorem mem_keys_iff {m : GoMap κ ν} {k : κ} : k ∈ m.keys ↔ ∃ v, m.lookup k = some v :=
  Finmap.mem_keys.trans Finmap.mem_iff

/-! ## Runs of assignments -/

/-- `m[k] = v` for each of the writes, in order. -/
def writeAll (m : GoMap κ ν) (ws : List (κ × ν)) : GoMap κ ν :=
  ws.foldl (fun m w => m.insert w.1 w.2) m

@[simp] theorem writeAll_nil (m : GoMap κ ν) : writeAll m [] = m := rfl

@[simp] theorem writeAll_cons (m : GoMap κ ν) (w : κ × ν) (ws : List (κ × ν)) :
    writeAll m (w :: ws) = writeAll (m.insert w.1 w.2) ws := rfl

theorem writeAll_append (m : GoMap κ ν) (ws ws' : List (κ × ν)) :
    writeAll m (ws ++ ws') = writeAll (writeAll m ws) ws' := List.foldl_append

/-- A loop whose turns write what does not depend on the map. -/
theorem foldlM_writeAll {ε α : Type} (f : α → Except ε (List (κ × ν))) : ∀ (xs : List α) (m : GoMap κ ν),
    xs.foldlM (fun m x => (f x).map (writeAll m)) m = (xs.mapM f).map fun wss => writeAll m wss.flatten
  | [], _ => rfl
  | x :: xs, m => by
    rw [List.foldlM_cons, List.mapM_cons]
    cases f x with
    | error e => rfl
    | ok ws =>
      show xs.foldlM (fun m x => (f x).map (writeAll m)) (writeAll m ws) = _
      rw [foldlM_writeAll f xs]
      cases xs.mapM f with
      | error e => rfl
      | ok wss =>
        show Except.ok _ = Except.ok (writeAll m (ws ++ wss.flatten))
        rw [writeAll_append]

/-- The last value written under `k`. -/
def lastWrite : List (κ × ν) → κ → Option ν
  | [], _ => none
  | w :: ws, k => (lastWrite ws k).or (if w.1 = k then some w.2 else none)

/-- The last write of a key wins. -/
theorem lookup_writeAll (m : GoMap κ ν) (ws : List (κ × ν)) (k : κ) :
    (writeAll m ws).lookup k = (lastWrite ws k).or (m.lookup k) := by
  induction ws generalizing m with
  | nil => simp [lastWrite]
  | cons w ws ih =>
    rw [writeAll_cons, ih, lookup_insert_eq, lastWrite]
    by_cases h : w.1 = k
    · cases lastWrite ws k <;> simp [h]
    · cases lastWrite ws k <;> simp [h, Ne.symm h]

theorem lastWrite_append (ws ws' : List (κ × ν)) (k : κ) :
    lastWrite (ws ++ ws') k = (lastWrite ws' k).or (lastWrite ws k) := by
  induction ws with
  | nil => simp [lastWrite]
  | cons w ws ih => rw [List.cons_append, lastWrite, ih, lastWrite, Option.or_assoc]

theorem lastWrite_eq_none_iff {ws : List (κ × ν)} {k : κ} :
    lastWrite ws k = none ↔ k ∉ ws.map Prod.fst := by
  induction ws with
  | nil => simp [lastWrite]
  | cons w ws ih =>
    rw [lastWrite, Option.or_eq_none_iff, ih, List.map_cons, List.mem_cons, not_or, and_comm]
    simp [eq_comm]

theorem mem_of_lastWrite {ws : List (κ × ν)} {k : κ} {v : ν} (h : lastWrite ws k = some v) :
    (k, v) ∈ ws := by
  induction ws with
  | nil => simp [lastWrite] at h
  | cons w ws ih =>
    rw [lastWrite] at h
    cases h' : lastWrite ws k with
    | some v' =>
      rw [h', Option.some_or] at h
      cases h
      exact List.mem_cons_of_mem _ (ih h')
    | none =>
      simp only [h', Option.none_or, Option.ite_none_right_eq_some, Option.some.injEq] at h
      obtain ⟨rfl, rfl⟩ := h
      exact List.mem_cons_self

theorem lastWrite_map_const (ks : List κ) (v : ν) (k : κ) :
    lastWrite (ks.map fun k' => (k', v)) k = if k ∈ ks then some v else none := by
  induction ks with
  | nil => rfl
  | cons k' ks ih =>
    rw [List.map_cons, lastWrite, ih]
    by_cases hk : k ∈ ks
    · simp [hk]
    · rw [if_neg hk, Option.none_or]
      by_cases hk' : k' = k
      · simp [hk']
      · simp [hk, hk', Ne.symm hk']

/-- Writes in blocks that agree: the last one is that of any block. -/
theorem lastWrite_flatMap {α : Type} {f : α → List (κ × ν)} {k : κ} {v : ν} : ∀ {l : List α},
    (∀ a ∈ l, ∀ b ∈ l, ∀ v w, lastWrite (f a) k = some v → lastWrite (f b) k = some w → v = w) →
      (lastWrite (l.flatMap f) k = some v ↔ ∃ a ∈ l, lastWrite (f a) k = some v)
  | [], _ => by simp [lastWrite]
  | a :: l, h => by
    have ih {v : ν} := @lastWrite_flatMap α f k v l fun a ha b hb =>
      h a (List.mem_cons_of_mem _ ha) b (List.mem_cons_of_mem _ hb)
    rw [List.flatMap_cons, lastWrite_append]
    cases hl : lastWrite (l.flatMap f) k with
    | some v' =>
      obtain ⟨b, hb, hv'⟩ := ih.mp hl
      rw [Option.some_or, Option.some.injEq]
      constructor
      · rintro rfl
        exact ⟨b, List.mem_cons_of_mem _ hb, hv'⟩
      · rintro ⟨c, hc, hv⟩
        exact h b (List.mem_cons_of_mem _ hb) c hc v' v hv' hv
    | none =>
      rw [Option.none_or]
      refine ⟨fun hv => ⟨a, List.mem_cons_self, hv⟩, ?_⟩
      rintro ⟨c, hc, hv⟩
      rcases List.mem_cons.mp hc with rfl | hc
      · exact hv
      · cases hl.symm.trans (ih.mpr ⟨c, hc, hv⟩)

/-- The order of such blocks does not matter. -/
theorem lastWrite_flatMap_perm {α : Type} {f : α → List (κ × ν)} {k : κ} {l l' : List α} (hp : l.Perm l')
    (h : ∀ a ∈ l, ∀ b ∈ l, ∀ v w, lastWrite (f a) k = some v → lastWrite (f b) k = some w → v = w) :
    lastWrite (l.flatMap f) k = lastWrite (l'.flatMap f) k := by
  refine Option.ext fun v => (lastWrite_flatMap h).trans (Iff.trans ?_ (lastWrite_flatMap fun a ha b hb =>
    h a (hp.mem_iff.mpr ha) b (hp.mem_iff.mpr hb)).symm)
  simp only [hp.mem_iff]

theorem writeAll_flatMap_perm {α : Type} {f : α → List (κ × ν)} {l l' : List α} (hp : l.Perm l')
    (h : ∀ a ∈ l, ∀ b ∈ l, ∀ k v w, lastWrite (f a) k = some v → lastWrite (f b) k = some w → v = w)
    (m : GoMap κ ν) : writeAll m (l.flatMap f) = writeAll m (l'.flatMap f) := by
  refine Finmap.ext_lookup fun k => ?_
  rw [lookup_writeAll, lookup_writeAll, lastWrite_flatMap_perm hp fun a ha b hb => h a ha b hb k]

theorem lastWrite_map {μ : Type} (f : ν → μ) (k : κ) : ∀ ws : List (κ × ν),
    (lastWrite ws k).map f = lastWrite (ws.map fun w => (w.1, f w.2)) k
  | [] => rfl
  | w :: ws => by
    rw [lastWrite, Option.map_or, lastWrite_map f k ws, List.map_cons, lastWrite]
    congr 1
    split <;> rfl

/-- With distinct keys, every write is the last of its key. -/
theorem lastWrite_of_nodup {ws : List (κ × ν)} (hn : (ws.map Prod.fst).Nodup) {k : κ} {v : ν}
    (h : (k, v) ∈ ws) : lastWrite ws k = some v := by
  induction ws with
  | nil => cases h
  | cons w ws ih =>
    rw [List.map_cons, List.nodup_cons] at hn
    rw [lastWrite]
    rcases List.mem_cons.mp h with rfl | h
    · rw [lastWrite_eq_none_iff.mpr hn.1]; simp
    · rw [ih hn.2 h, Option.some_or]

theorem mem_keys_writeAll {ws : List (κ × ν)} {k : κ} :
    k ∈ (writeAll (∅ : GoMap κ ν) ws).keys ↔ k ∈ ws.map Prod.fst := by
  rw [mem_keys_iff, lookup_writeAll, Finmap.lookup_empty, Option.or_none, ← Option.isSome_iff_exists,
    ← Option.ne_none_iff_isSome, ne_eq, lastWrite_eq_none_iff, not_not]

/-- No write is lost, exactly when the keys written are distinct. -/
theorem card_keys_writeAll_iff {ws : List (κ × ν)} :
    (writeAll (∅ : GoMap κ ν) ws).keys.card = ws.length ↔ (ws.map Prod.fst).Nodup := by
  have hs : (writeAll (∅ : GoMap κ ν) ws).keys = (ws.map Prod.fst).toFinset := by
    ext k; rw [List.mem_toFinset, mem_keys_writeAll]
  rw [hs, ← List.length_map (f := Prod.fst)]
  exact Multiset.toFinset_card_eq_card_iff_nodup (m := (ws.map Prod.fst : Multiset κ))

/-- `delete(m, k)` for each of the keys. -/
def eraseAll (m : GoMap κ ν) (ks : List κ) : GoMap κ ν := ks.foldl (fun m k => m.erase k) m

@[simp] theorem eraseAll_cons (m : GoMap κ ν) (k : κ) (ks : List κ) :
    eraseAll m (k :: ks) = eraseAll (m.erase k) ks := rfl

theorem lookup_eraseAll (k : κ) : ∀ (ks : List κ) (m : GoMap κ ν),
    (eraseAll m ks).lookup k = if k ∈ ks then none else m.lookup k
  | [], _ => by simp [eraseAll]
  | k' :: ks, m => by
    rw [eraseAll_cons, lookup_eraseAll k ks, lookup_erase_eq]
    by_cases h : k = k' <;> by_cases h' : k ∈ ks <;> simp [h, h']

theorem erase_of_lookup_none {m : GoMap κ ν} {k : κ} (h : m.lookup k = none) : m.erase k = m :=
  Finmap.ext_lookup fun k' => by
    rw [lookup_erase_eq]
    split
    · rename_i e; rw [e, h]
    · rfl

end

/-! ## Iteration -/

/-- One reordering of a list for each `n`: the digits of `n`, in the factorial
number system, say where each element is inserted. -/
def shuffle {α : Type} : Nat → List α → List α
  | _, [] => []
  | n, a :: l => (shuffle (n / (l.length + 1)) l).insertIdx (n % (l.length + 1)) a

theorem shuffle_perm {α : Type} : ∀ (n : Nat) (l : List α), (shuffle n l).Perm l
  | _, [] => .nil
  | n, a :: l => by
    have ih := shuffle_perm (n / (l.length + 1)) l
    have hn : n % (l.length + 1) < l.length + 1 := Nat.mod_lt _ (Nat.succ_pos _)
    exact (List.perm_insertIdx a _ (by rw [ih.length_eq]; omega)).trans (ih.cons a)

/-- The first element that is looked for, as far as all of them agree, does not depend
on the order. -/
theorem find?_perm {α β : Type} {l l' : List α} (hp : l.Perm l') {p : α → Bool} {f : α → β}
    (h : ∀ a ∈ l, ∀ b ∈ l, p a = true → p b = true → f a = f b) : (l.find? p).map f = (l'.find? p).map f := by
  cases hl : l.find? p with
  | none =>
    have hnone : l'.find? p = none :=
      List.find?_eq_none.mpr fun a ha => List.find?_eq_none.mp hl a (hp.mem_iff.mpr ha)
    rw [hnone]
  | some a =>
    have ha := List.mem_of_find?_eq_some hl
    obtain ⟨b, hb⟩ := Option.isSome_iff_exists.mp (List.find?_isSome.mpr ⟨a, hp.mem_iff.mp ha, List.find?_some hl⟩)
    rw [hb, Option.map_some, Option.map_some,
      h a ha b (hp.mem_iff.mpr (List.mem_of_find?_eq_some hb)) (List.find?_some hl) (List.find?_some hb)]

theorem insertIdx_length {α : Type} (a : α) (t : List α) : ∀ s : List α,
    (s ++ t).insertIdx s.length a = s ++ a :: t
  | [] => rfl
  | b :: s => congrArg (b :: ·) (insertIdx_length a t s)

/-- Every reordering is one of them. -/
theorem exists_shuffle {α : Type} : ∀ {l l' : List α}, l'.Perm l → ∃ n, shuffle n l = l'
  | [], l', h => ⟨0, (List.perm_nil.mp h).symm⟩
  | a :: l, l', h => by
    obtain ⟨s, t, rfl⟩ := List.append_of_mem (h.mem_iff.mpr List.mem_cons_self)
    have hst : (s ++ t).Perm l := (List.perm_middle.symm.trans h).cons_inv
    obtain ⟨m, hm⟩ := exists_shuffle hst
    have hlen : s.length < l.length + 1 := by
      have := hst.length_eq; rw [List.length_append] at this; omega
    refine ⟨(l.length + 1) * m + s.length, ?_⟩
    rw [shuffle, Nat.mul_add_mod, Nat.mod_eq_of_lt hlen, Nat.mul_add_div (Nat.succ_pos _),
      Nat.div_eq_of_lt hlen, Nat.add_zero, hm, insertIdx_length]

@[simp] theorem shuffle_zero {α : Type} : ∀ l : List α, shuffle 0 l = l
  | [] => rfl
  | a :: l => by rw [shuffle, Nat.zero_div, Nat.zero_mod, shuffle_zero l, List.insertIdx_zero]

theorem nodup_keys_entries (l : AList fun _ : κ => ν) :
    ((l.entries.map fun e => (e.1, e.2)).map Prod.fst).Nodup := by
  rw [List.map_map]; exact l.nodupKeys

section

variable [LinearOrder κ]

/-- The list by key. -/
def sortByKey (l : List (κ × ν)) : List (κ × ν) := l.insertionSort fun a b => a.1 ≤ b.1

theorem sortByKey_perm (l : List (κ × ν)) : (sortByKey l).Perm l := List.perm_insertionSort _ _

/-- With distinct keys, the list by key does not depend on the order. -/
theorem sortByKey_eq {l l' : List (κ × ν)} (h : l.Perm l') (hn : (l.map Prod.fst).Nodup) :
    sortByKey l = sortByKey l' := by
  have : Std.Total fun a b : κ × ν => a.1 ≤ b.1 := ⟨fun a b => le_total a.1 b.1⟩
  have : IsTrans (κ × ν) fun a b => a.1 ≤ b.1 := ⟨fun _ _ _ => le_trans⟩
  refine List.Perm.eq_of_pairwise ?_ (List.pairwise_insertionSort _ _) (List.pairwise_insertionSort _ _)
    (((sortByKey_perm l).trans h).trans (sortByKey_perm l').symm)
  intro a b ha hb hab hba
  exact List.inj_on_of_nodup_map hn ((sortByKey_perm l).mem_iff.mp ha)
    (h.mem_iff.mpr ((sortByKey_perm l').mem_iff.mp hb)) (le_antisymm hab hba)

/-- The entries of a map, by key. -/
def sorted (m : GoMap κ ν) : List (κ × ν) :=
  m.liftOn (fun l => sortByKey (l.entries.map fun e => (e.1, e.2))) fun l _ h =>
    sortByKey_eq (h.map _) (nodup_keys_entries l)

theorem nodup_sorted (m : GoMap κ ν) : (m.sorted.map Prod.fst).Nodup := by
  induction m using Finmap.induction_on with
  | _ l => exact ((sortByKey_perm _).map Prod.fst).nodup_iff.mpr (nodup_keys_entries l)

theorem mem_sorted {m : GoMap κ ν} {k : κ} {v : ν} : (k, v) ∈ m.sorted ↔ m.lookup k = some v := by
  induction m using Finmap.induction_on with
  | _ l =>
    refine (sortByKey_perm _).mem_iff.trans (Iff.trans ?_ (AList.mem_lookup_iff (s := l)).symm)
    simp

/-- The entries of a map, in the `n`-th order: one run of `for k, v := range m`. -/
def range (n : Nat) (m : GoMap κ ν) : List (κ × ν) := shuffle n m.sorted

/-- A map with one entry is ranged over in one order. -/
theorem range_of_length_le_one {m : GoMap κ ν} (h : m.sorted.length ≤ 1) (n n' : Nat) : m.range n = m.range n' := by
  have hone (n : Nat) : shuffle n m.sorted = m.sorted := by
    match m.sorted, h with
    | [], _ => rfl
    | [a], _ => rw [shuffle, List.length_nil, Nat.mod_one]; rfl
  rw [range, range, hone, hone]

theorem nodup_range (n : Nat) (m : GoMap κ ν) : ((m.range n).map Prod.fst).Nodup :=
  ((shuffle_perm n m.sorted).map Prod.fst).nodup_iff.mpr m.nodup_sorted

theorem mem_range {n : Nat} {m : GoMap κ ν} {k : κ} {v : ν} : (k, v) ∈ m.range n ↔ m.lookup k = some v :=
  (shuffle_perm n m.sorted).mem_iff.trans mem_sorted

end

end GoMap
