import Aeraki.Framework.GoMap

/-!
# A server of versioned objects

The object store of an API server, for one kind of object: each object has
labels, a specification and a resource version that every write changes. A
write is accepted if the server is up and its condition holds: creating needs
absence, deleting presence, and an update the stored resource version
(`Admits`). Every request is logged with its outcome.

What a run of writes leaves: keys that no request names are untouched
(`lookup_execAll_of_notMem`), and if each key is named once and all requests
are accepted, each was admitted by the state before the run and has its effect
(`execAll_accepted`). If the server is up, it accepts those that the state
before the run admits (`outcomes_eq_admits`).
-/

namespace ApiServer

/-- A stored object. -/
structure Object (σ : Type) where
  labels : GoMap String String
  spec : σ
  resourceVersion : Nat
deriving DecidableEq

/-- A write. -/
inductive Request (κ σ : Type)
  | create (key : κ) (labels : GoMap String String) (spec : σ)
  | update (key : κ) (labels : GoMap String String) (spec : σ) (resourceVersion : Nat)
  | delete (key : κ)
deriving DecidableEq

variable {κ σ : Type}

def Request.key : Request κ σ → κ
  | .create key _ _ => key
  | .update key _ _ _ => key
  | .delete key => key

/-- A server: its objects, the next resource version, which of its calls fail
whatever they ask for, the number of calls so far, and the writes it was asked
for, each with whether it was accepted. -/
structure Server (κ σ : Type) where
  objects : AList fun _ : κ => Object σ
  nextVersion : Nat := 1
  fails : Nat → Bool := fun _ => false
  calls : Nat := 0
  log : List (Request κ σ × Bool) := []

/-- The objects that satisfy `sel`, in the `n`-th order. -/
def Server.selected (s : Server κ σ) (n : Nat) (sel : Object σ → Bool) : List (κ × Object σ) :=
  GoMap.shuffle n ((s.objects.entries.map fun e => (e.1, e.2)).filter fun e => sel e.2)

/-- Asks for the objects that satisfy `sel`. -/
def Server.list (s : Server κ σ) (n : Nat) (sel : Object σ → Bool) :
    Option (List (κ × Object σ)) × Server κ σ :=
  (if s.fails s.calls then none else some (s.selected n sel), { s with calls := s.calls + 1 })

theorem nodup_selected (s : Server κ σ) (n : Nat) (sel : Object σ → Bool) :
    ((s.selected n sel).map Prod.fst).Nodup := by
  refine ((GoMap.shuffle_perm _ _).map Prod.fst).nodup_iff.mpr ?_
  exact (GoMap.nodup_keys_entries s.objects).sublist (List.filter_sublist.map _)

section

variable [DecidableEq κ]

/-- The objects meet the condition of the request. -/
def Admits (objects : AList fun _ : κ => Object σ) (r : Request κ σ) : Bool :=
  match r with
  | .create key _ _ => (objects.lookup key).isNone
  | .update key _ _ v => (objects.lookup key).map (·.resourceVersion) = some v
  | .delete key => (objects.lookup key).isSome

/-- The objects after the request. -/
def Request.apply (r : Request κ σ) (version : Nat) (objects : AList fun _ : κ => Object σ) :
    AList fun _ : κ => Object σ :=
  match r with
  | .create key labels spec => objects.insert key ⟨labels, spec, version⟩
  | .update key labels spec _ => objects.insert key ⟨labels, spec, version⟩
  | .delete key => objects.erase key

/-- Asks the server for a write: whether it is accepted, and the server then. -/
def Server.exec (s : Server κ σ) (r : Request κ σ) : Bool × Server κ σ :=
  if !s.fails s.calls && Admits s.objects r then
    (true, { s with
      objects := r.apply s.nextVersion s.objects
      nextVersion := s.nextVersion + 1
      calls := s.calls + 1
      log := s.log ++ [(r, true)] })
  else (false, { s with calls := s.calls + 1, log := s.log ++ [(r, false)] })

/-- Asks for the writes, in order. -/
def Server.execAll (s : Server κ σ) (rs : List (Request κ σ)) : Server κ σ :=
  rs.foldl (fun s r => (s.exec r).2) s

/-- Whether each of the writes is accepted. -/
def Server.outcomes (s : Server κ σ) : List (Request κ σ) → List Bool
  | [] => []
  | r :: rs => (s.exec r).1 :: (s.exec r).2.outcomes rs

/-- The selected objects are those stored that satisfy `sel`. -/
theorem mem_selected {s : Server κ σ} {n : Nat} {sel : Object σ → Bool} {e : κ × Object σ} :
    e ∈ s.selected n sel ↔ s.objects.lookup e.1 = some e.2 ∧ sel e.2 = true := by
  rw [Server.selected, (GoMap.shuffle_perm _ _).mem_iff, List.mem_filter]
  refine and_congr_left fun _ => Iff.trans ?_ (AList.mem_lookup_iff (s := s.objects)).symm
  simp [Prod.ext_iff]

/-- What an accepted request leaves under its key. -/
def Request.result : Request κ σ → Option (GoMap String String × σ)
  | .create _ labels spec => some (labels, spec)
  | .update _ labels spec _ => some (labels, spec)
  | .delete _ => none

@[simp] theorem execAll_nil (s : Server κ σ) : s.execAll [] = s := rfl

@[simp] theorem execAll_cons (s : Server κ σ) (r : Request κ σ) (rs : List (Request κ σ)) :
    s.execAll (r :: rs) = (s.exec r).2.execAll rs := rfl

theorem execAll_append (s : Server κ σ) (rs rs' : List (Request κ σ)) :
    s.execAll (rs ++ rs') = (s.execAll rs).execAll rs' := List.foldl_append

theorem log_exec (s : Server κ σ) (r : Request κ σ) : (s.exec r).2.log = s.log ++ [(r, (s.exec r).1)] := by
  unfold Server.exec; split <;> rfl

/-- Every request is logged with its outcome. -/
theorem log_execAll : ∀ (rs : List (Request κ σ)) (s : Server κ σ),
    (s.execAll rs).log = s.log ++ rs.zip (s.outcomes rs)
  | [], s => by simp [Server.outcomes]
  | r :: rs, s => by
    rw [execAll_cons, log_execAll rs, log_exec, Server.outcomes, List.zip_cons_cons, List.append_assoc]
    rfl

theorem length_outcomes : ∀ (rs : List (Request κ σ)) (s : Server κ σ), (s.outcomes rs).length = rs.length
  | [], _ => rfl
  | _ :: rs, _ => congrArg (· + 1) (length_outcomes rs _)

theorem lookup_apply_ne {r : Request κ σ} {v : Nat} {objects : AList fun _ : κ => Object σ} {k : κ}
    (h : k ≠ r.key) : (r.apply v objects).lookup k = objects.lookup k := by
  cases r with
  | create => exact AList.lookup_insert_ne h
  | update => exact AList.lookup_insert_ne h
  | delete => exact AList.lookup_erase_ne h

theorem lookup_apply_key (r : Request κ σ) (v : Nat) (objects : AList fun _ : κ => Object σ) :
    ((r.apply v objects).lookup r.key).map (fun o => (o.labels, o.spec)) = r.result := by
  cases r with
  | create => simp [Request.apply, Request.key, Request.result]
  | update => simp [Request.apply, Request.key, Request.result]
  | delete => simp [Request.apply, Request.key, Request.result]

theorem lookup_exec_ne {s : Server κ σ} {r : Request κ σ} {k : κ} (h : k ≠ r.key) :
    (s.exec r).2.objects.lookup k = s.objects.lookup k := by
  unfold Server.exec
  split
  · exact lookup_apply_ne h
  · rfl

theorem exec_accepted {s : Server κ σ} {r : Request κ σ} (h : (s.exec r).1 = true) :
    Admits s.objects r = true ∧ ((s.exec r).2.objects.lookup r.key).map (fun o => (o.labels, o.spec)) = r.result := by
  unfold Server.exec at h ⊢
  split
  · rename_i hc
    rw [Bool.and_eq_true] at hc
    exact ⟨hc.2, lookup_apply_key r _ _⟩
  · rename_i hc
    rw [if_neg hc] at h
    cases h

/-- A condition is about the object under the request's key. -/
theorem admits_congr {objects objects' : AList fun _ : κ => Object σ} {r : Request κ σ}
    (h : objects.lookup r.key = objects'.lookup r.key) : Admits objects r = Admits objects' r := by
  cases r <;> (simp only [Request.key] at h; simp only [Admits, h])

/-- Keys that no request names are untouched. -/
theorem lookup_execAll_of_notMem {k : κ} : ∀ {rs : List (Request κ σ)} (s : Server κ σ), k ∉ rs.map Request.key →
    (s.execAll rs).objects.lookup k = s.objects.lookup k
  | [], _, _ => rfl
  | r :: rs, s, h => by
    rw [List.map_cons, List.mem_cons, not_or] at h
    rw [execAll_cons, lookup_execAll_of_notMem _ h.2, lookup_exec_ne h.1]

/-- With each key named once and all requests accepted, each was admitted by
the state before the run and has its effect. -/
theorem execAll_accepted : ∀ {rs : List (Request κ σ)} {s : Server κ σ}, (rs.map Request.key).Nodup →
    (∀ b ∈ s.outcomes rs, b = true) → ∀ r ∈ rs, Admits s.objects r = true ∧
      ((s.execAll rs).objects.lookup r.key).map (fun o => (o.labels, o.spec)) = r.result
  | [], _, _, _ => nofun
  | r :: rs, s, hn, ha => by
    rw [List.map_cons, List.nodup_cons] at hn
    have hr := exec_accepted (ha _ List.mem_cons_self)
    have ih := execAll_accepted hn.2 fun b hb => ha b (List.mem_cons_of_mem _ hb)
    intro r' hr'
    rw [execAll_cons]
    rcases List.mem_cons.mp hr' with rfl | hm
    · rw [lookup_execAll_of_notMem _ hn.1]; exact hr
    · have hne : r'.key ≠ r.key := fun e => hn.1 (e ▸ List.mem_map_of_mem hm)
      rw [admits_congr (lookup_exec_ne hne).symm]
      exact ih r' hm

/-- With each key named once, a server that is up accepts the requests that the
state before the run admits. -/
theorem outcomes_eq_admits : ∀ {rs : List (Request κ σ)} {s : Server κ σ}, (rs.map Request.key).Nodup →
    (∀ n, s.fails n = false) → s.outcomes rs = rs.map (Admits s.objects)
  | [], _, _, _ => rfl
  | r :: rs, s, hn, hup => by
    rw [List.map_cons, List.nodup_cons] at hn
    have hr : (s.exec r).1 = Admits s.objects r := by
      unfold Server.exec
      rw [hup]
      cases Admits s.objects r <;> rfl
    have hup' : ∀ n, (s.exec r).2.fails n = false := by
      unfold Server.exec
      split <;> exact hup
    rw [Server.outcomes, outcomes_eq_admits hn.2 hup', List.map_cons, hr]
    refine congrArg _ (List.map_congr_left fun r' hm => ?_)
    exact admits_congr (lookup_exec_ne fun e => hn.1 (e ▸ List.mem_map_of_mem hm))

/-- With each key named once, a request that the state before the run does not
admit leaves what is under its key. -/
theorem lookup_execAll_of_not_admits : ∀ {rs : List (Request κ σ)} {s : Server κ σ}, (rs.map Request.key).Nodup →
    ∀ r ∈ rs, Admits s.objects r = false → (s.execAll rs).objects.lookup r.key = s.objects.lookup r.key
  | [], _, _ => nofun
  | r :: rs, s, hn => by
    rw [List.map_cons, List.nodup_cons] at hn
    intro r' hr' hadm
    rw [execAll_cons]
    rcases List.mem_cons.mp hr' with rfl | hm
    · rw [lookup_execAll_of_notMem _ hn.1]
      simp [Server.exec, hadm]
    · have hne : r'.key ≠ r.key := fun e => hn.1 (e ▸ List.mem_map_of_mem hm)
      rw [lookup_execAll_of_not_admits hn.2 r' hm ((admits_congr (lookup_exec_ne hne)).trans hadm),
        lookup_exec_ne hne]

end

end ApiServer
