import Aeraki.Framework.ApiServer
import Aeraki.Framework.Run

/-!
# Writers with one goal

Several writers work on one server at the same time. Each looks at the objects,
plans writes, and then asks for them one by one; the objects may have been
changed by the others in between. All have the same goal: what is to be stored
under each key.

If each planned write leaves under its key what is to be stored there, whatever
the others do (`Protocol.rightful`), then a key that is as it should be stays so
and each accepted write makes its key so (`safe`). If moreover the plans are
complete for the objects they were made from (`Protocol.complete`), then with a
server that is up all keys are as they should be once one of the writers has
worked off its plan (`settled`): a write that the server did not admit was made
unnecessary by another writer's.
-/

namespace ApiServer

variable {ι κ σ : Type} [DecidableEq κ]

/-- What a write depends on of the object under a key: labels and specification. -/
def content (objects : AList fun _ : κ => Object σ) (k : κ) : Option (GoMap String String × σ) :=
  (objects.lookup k).map fun o => (o.labels, o.spec)

/-- The writes that are planned for the objects bring all keys to the goal. -/
structure Plan (goal : κ → Option (GoMap String String × σ) → Prop) (objects : AList fun _ : κ => Object σ)
    (rs : List (Request κ σ)) : Prop where
  admitted : ∀ r ∈ rs, Admits objects r = true
  rest : ∀ k, k ∉ rs.map Request.key → goal k (content objects k)

def Request.isCreate : Request κ σ → Bool
  | .create .. => true
  | _ => false

/-- Writers with one goal: how they plan, what their plans rely on, and the
objects of others, which they must leave alone. -/
structure Protocol (κ σ : Type) [DecidableEq κ] where
  goal : κ → Option (GoMap String String × σ) → Prop
  valid : (AList fun _ : κ => Object σ) → Prop
  foreign : Object σ → Prop
  /-- What a writer may plan when it looks at the server. -/
  plan : Server κ σ → List (Request κ σ) → Prop
  /-- A planned write has its goal as effect, whatever has happened since. -/
  rightful {s : Server κ σ} {rs : List (Request κ σ)} : plan s rs → ∀ r ∈ rs, goal r.key r.result
  /-- Writes towards the goal keep what the plans rely on. -/
  keeps {objects : AList fun _ : κ => Object σ} {r : Request κ σ} (version : Nat) : valid objects →
    goal r.key r.result → valid (r.apply version objects)
  /-- Nothing but a creation, which is not admitted, is asked for where there is
  an object of others. -/
  respects {s : Server κ σ} {rs : List (Request κ σ)} {r : Request κ σ} {ob : Object σ} : valid s.objects → plan s rs →
    r ∈ rs → s.objects.lookup r.key = some ob → foreign ob → r.isCreate = true
  /-- The plan is complete, if the server is up and the objects of others are
  not in the way. -/
  complete {s : Server κ σ} {rs : List (Request κ σ)} : valid s.objects → s.fails s.calls = false →
    (∀ k ob, s.objects.lookup k = some ob → foreign ob → goal k (content s.objects k)) → plan s rs →
    Plan goal s.objects rs

/-- The server, and what each writer has left of its plan, if it has one. -/
structure Writers (ι κ σ : Type) where
  server : Server κ σ
  todo : ι → Option (List (Request κ σ)) := fun _ => none

section

variable {P : Protocol κ σ} {objects : AList fun _ : κ => Object σ} {s : Server κ σ} {r : Request κ σ} {k : κ}

theorem content_congr {objects' : AList fun _ : κ => Object σ} (h : objects.lookup k = objects'.lookup k) :
    content objects k = content objects' k := congrArg (Option.map _) h

/-- What a write leaves, under each key. -/
theorem lookup_exec_cases (s : Server κ σ) (r : Request κ σ) (k : κ) :
    (s.exec r).2.objects.lookup k = s.objects.lookup k ∨
      (k = r.key ∧ (s.exec r).1 = true ∧ content (s.exec r).2.objects k = r.result) := by
  by_cases hk : k = r.key
  · subst hk
    cases hb : (s.exec r).1 with
    | true => exact .inr ⟨rfl, rfl, (exec_accepted hb).2⟩
    | false =>
      refine .inl ?_
      unfold Server.exec at hb ⊢
      split
      · rename_i hc
        rw [if_pos hc] at hb
        cases hb
      · rfl
  · exact .inl (lookup_exec_ne hk)

/-- A key that is as it should be stays so. -/
theorem goal_exec (hr : P.goal r.key r.result) (h : P.goal k (content s.objects k)) :
    P.goal k (content (s.exec r).2.objects k) := by
  rcases lookup_exec_cases s r k with hsame | ⟨rfl, -, hres⟩
  · rw [content_congr hsame]; exact h
  · rw [hres]; exact hr

/-- An accepted write makes its key as it should be. -/
theorem goal_accepted (hr : P.goal r.key r.result) (h : (s.exec r).1 = true) :
    P.goal r.key (content (s.exec r).2.objects r.key) := by
  have hres : content (s.exec r).2.objects r.key = r.result := (exec_accepted h).2
  rw [hres]; exact hr

theorem valid_exec (hv : P.valid s.objects) (hr : P.goal r.key r.result) : P.valid (s.exec r).2.objects := by
  unfold Server.exec
  split
  · exact P.keeps _ hv hr
  · exact hv

theorem fails_exec (s : Server κ σ) (r : Request κ σ) : (s.exec r).2.fails = s.fails := by
  unfold Server.exec; split <;> rfl

end

namespace Writers

variable [DecidableEq ι]

/-- What can happen next. -/
inductive Step (P : Protocol κ σ) (w : Writers ι κ σ) : Writers ι κ σ → Prop
  | look {i : ι} {rs : List (Request κ σ)} : w.todo i = none → P.plan w.server rs →
    Step P w ⟨{ w.server with calls := w.server.calls + 1 }, Function.update w.todo i (some rs)⟩
  | write {i : ι} {r : Request κ σ} {rs : List (Request κ σ)} : w.todo i = some (r :: rs) →
    Step P w ⟨(w.server.exec r).2, Function.update w.todo i (some rs)⟩
  | done {i : ι} : w.todo i = some [] → Step P w ⟨w.server, Function.update w.todo i none⟩

/-- Writers at a server, none of which has a plan yet. -/
def system (ι : Type) [DecidableEq ι] (P : Protocol κ σ) (server : Server κ σ) : System (Writers ι κ σ) where
  init w := w = { server := server }
  step := Step P

variable {P : Protocol κ σ} {server : Server κ σ} {w t : Writers ι κ σ}

/-! ## Safety -/

/-- What plans rely on holds, plans are rightful, and leave alone the objects of
others. -/
structure Inv (P : Protocol κ σ) (server : Server κ σ) (w : Writers ι κ σ) : Prop where
  valid : P.valid w.server.objects
  rightful : ∀ i rs, w.todo i = some rs → ∀ r ∈ rs, P.goal r.key r.result
  foreign : ∀ k ob, server.objects.lookup k = some ob → P.foreign ob → w.server.objects.lookup k = some ob
  creates : ∀ i rs, w.todo i = some rs → ∀ r ∈ rs, ∀ ob, server.objects.lookup r.key = some ob → P.foreign ob →
    r.isCreate = true
  kept : ∀ k, P.goal k (content server.objects k) → P.goal k (content w.server.objects k)
  logged : ∃ l, w.server.log = server.log ++ l ∧
    ∀ e ∈ l, e.2 = true → P.goal e.1.key (content w.server.objects e.1.key)

omit [DecidableEq κ] in
/-- A statement on all plans, where one of them changes. -/
theorem forall_update {p : List (Request κ σ) → Prop} {i : ι} {new : Option (List (Request κ σ))}
    (h : ∀ j rs, w.todo j = some rs → p rs) (hnew : ∀ rs, new = some rs → p rs) :
    ∀ j rs, Function.update w.todo i new j = some rs → p rs := by
  intro j rs hj
  by_cases hji : j = i
  · rw [hji, Function.update_self] at hj; exact hnew rs hj
  · rw [Function.update_of_ne hji] at hj; exact h j rs hj

theorem Inv.step (h : Inv P server w) (hst : Step P w t) : Inv P server t := by
  cases hst with
  | look hi hplan =>
    refine ⟨h.valid, forall_update h.rightful ?_, h.foreign, forall_update h.creates ?_, h.kept, h.logged⟩
    · rintro _ ⟨⟩; exact P.rightful hplan
    · rintro _ ⟨⟩ r hr ob hob hf
      exact P.respects h.valid hplan hr (h.foreign _ ob hob hf) hf
  | @write i r rs hi =>
    have hr := h.rightful i _ hi r List.mem_cons_self
    refine ⟨valid_exec h.valid hr, forall_update h.rightful ?_, fun k ob hob hf => ?_, forall_update h.creates ?_,
      fun k hk => goal_exec hr (h.kept k hk), ?_⟩
    · rintro _ ⟨⟩ r' hr'; exact h.rightful i _ hi r' (List.mem_cons_of_mem _ hr')
    · have hnow := h.foreign k ob hob hf
      by_cases hk : k = r.key
      · -- Only a creation is asked for here, and the object is there.
        subst hk
        have hc := h.creates i _ hi r List.mem_cons_self ob hob hf
        cases r with
        | create key labels spec =>
          have hadm : Admits w.server.objects (.create key labels spec) = false := by
            simp only [Request.key] at hnow
            simp [Admits, hnow]
          simpa [Server.exec, hadm] using hnow
        | update => cases hc
        | delete => cases hc
      · exact (lookup_exec_ne hk).trans hnow
    · rintro _ ⟨⟩ r' hr'; exact h.creates i _ hi r' (List.mem_cons_of_mem _ hr')
    · obtain ⟨l, hlog, hl⟩ := h.logged
      refine ⟨l ++ [(r, (w.server.exec r).1)], by rw [log_exec, hlog, List.append_assoc], fun e he ha => ?_⟩
      rcases List.mem_append.mp he with he | he
      · exact goal_exec hr (hl e he ha)
      · rw [List.mem_singleton.mp he] at ha ⊢
        exact goal_accepted hr ha
  | done hi =>
    exact ⟨h.valid, forall_update h.rightful (fun _ e => by cases e), h.foreign,
      forall_update h.creates (fun _ e => by cases e), h.kept, h.logged⟩

/-- Along every run: what is as it should be stays so, every accepted write
makes its key so, and the objects of others are left alone. -/
theorem safe (hv : P.valid server.objects) (h : (system ι P server).Reachable w) : Inv P server w := by
  refine h.invariant (fun s hs => ?_) fun _ _ => Inv.step
  subst hs
  exact ⟨hv, (fun _ _ e => nomatch e), fun _ _ hob _ => hob, (fun _ _ e => nomatch e), fun _ => id,
    [], (List.append_nil _).symm, (fun _ he => nomatch he)⟩

/-- A key that is as it should be stays so from then on. -/
theorem kept_run (hv : P.valid server.objects) (h : (system ι P server).Reachable w)
    (hrun : Relation.ReflTransGen (Step P) w t) {k : κ} (hk : P.goal k (content w.server.objects k)) :
    P.goal k (content t.server.objects k) := by
  induction hrun with
  | refl => exact hk
  | tail hwu hst ih =>
    have hinv := safe hv (h.run hwu)
    cases hst with
    | look => exact ih
    | write hi => exact goal_exec (hinv.rightful _ _ hi _ List.mem_cons_self) ih
    | done => exact ih

/-! ## Convergence -/

/-- A writer that planned for the objects `seen` has asked for `before`: since
then a key was changed only to be as it should be, and those asked for are. -/
structure Progress (P : Protocol κ σ) (objects seen : AList fun _ : κ => Object σ) (before rs : List (Request κ σ)) :
    Prop where
  plan : Plan P.goal seen (before ++ rs)
  since : ∀ k, objects.lookup k = seen.lookup k ∨ P.goal k (content objects k)
  asked : ∀ r ∈ before, P.goal r.key (content objects r.key)

variable {seen : AList fun _ : κ => Object σ} {before rs : List (Request κ σ)} {r : Request κ σ}

/-- Another writer's request. -/
theorem Progress.exec {s : Server κ σ} (h : Progress P s.objects seen before rs) (hr : P.goal r.key r.result) :
    Progress P (s.exec r).2.objects seen before rs := by
  refine ⟨h.plan, fun k => ?_, fun r' hr' => goal_exec hr (h.asked r' hr')⟩
  rcases h.since k with hk | hk
  · rcases lookup_exec_cases s r k with hsame | ⟨rfl, ha, -⟩
    · exact .inl (hsame.trans hk)
    · exact .inr (goal_accepted hr ha)
  · exact .inr (goal_exec hr hk)

/-- The writer's own next request. -/
theorem Progress.own {s : Server κ σ} (hup : ∀ n, s.fails n = false) (h : Progress P s.objects seen before (r :: rs))
    (hr : P.goal r.key r.result) : Progress P (s.exec r).2.objects seen (before ++ [r]) rs := by
  have hexec := h.exec hr
  refine ⟨by simpa using hexec.plan, hexec.since, fun r' hr' => ?_⟩
  rcases List.mem_append.mp hr' with hr' | hr'
  · exact hexec.asked r' hr'
  · rw [List.mem_singleton.mp hr']
    by_cases hadm : Admits s.objects r = true
    · exact goal_accepted hr (by simp [Server.exec, hup, hadm])
    · -- The plan was made for objects that admit it: they were changed since.
      refine goal_exec hr ((h.since r.key).resolve_left fun hsame => hadm ?_)
      rw [admits_congr hsame]
      exact h.plan.admitted r (List.mem_append_right _ List.mem_cons_self)

theorem Progress.settled {objects : AList fun _ : κ => Object σ} (h : Progress P objects seen before []) (k : κ) :
    P.goal k (content objects k) := by
  by_cases hk : k ∈ before.map Request.key
  · obtain ⟨r, hr, rfl⟩ := List.mem_map.mp hk
    exact h.asked r hr
  · rcases h.since k with hsame | hgoal
    · rw [content_congr hsame]
      exact h.plan.rest k (by rwa [List.append_nil])
    · exact hgoal

/-- Each writer that has a plan has made progress with it, and nothing is in the
way of the next. -/
structure Converging (P : Protocol κ σ) (w : Writers ι κ σ) : Prop where
  up : ∀ n, w.server.fails n = false
  clear : ∀ k ob, w.server.objects.lookup k = some ob → P.foreign ob → P.goal k (content w.server.objects k)
  progress : ∀ i rs, w.todo i = some rs → ∃ seen before, Progress P w.server.objects seen before rs

theorem Converging.step (hinv : Inv P server w) (h : Converging P w) (hst : Step P w t) : Converging P t := by
  cases hst with
  | look hi hplan =>
    refine ⟨h.up, h.clear, forall_update h.progress ?_⟩
    rintro _ ⟨⟩
    exact ⟨w.server.objects, [], P.complete hinv.valid (h.up _) h.clear hplan, fun _ => .inl rfl, fun _ hr => nomatch hr⟩
  | @write i r rs hi =>
    have hr := hinv.rightful i _ hi r List.mem_cons_self
    refine ⟨fun n => by rw [fails_exec]; exact h.up n, fun k ob hob hf => ?_, ?_⟩
    · rcases lookup_exec_cases w.server r k with hsame | ⟨rfl, ha, -⟩
      · rw [content_congr hsame]; exact h.clear k ob (hsame ▸ hob) hf
      · exact goal_accepted hr ha
    · refine forall_update (fun j rs hj => ?_) ?_
      · obtain ⟨seen, before, hp⟩ := h.progress j rs hj
        exact ⟨seen, before, hp.exec hr⟩
      · rintro _ ⟨⟩
        obtain ⟨seen, before, hp⟩ := h.progress i _ hi
        exact ⟨seen, _, hp.own h.up hr⟩
  | done hi => exact ⟨h.up, h.clear, forall_update h.progress (fun _ e => nomatch e)⟩

/-- With a server that is up, all is as it should be when one of the writers has
worked off its plan. -/
theorem settled (hv : P.valid server.objects) (hup : ∀ n, server.fails n = false)
    (hclear : ∀ k ob, server.objects.lookup k = some ob → P.foreign ob → P.goal k (content server.objects k))
    (h : (system ι P server).Reachable w) {i : ι} (hi : w.todo i = some []) (k : κ) :
    P.goal k (content w.server.objects k) := by
  have hconv : Inv P server w ∧ Converging P w := by
    refine h.invariant (I := fun w => Inv P server w ∧ Converging P w) (fun s hs => ?_) fun _ _ hI hst =>
      ⟨hI.1.step hst, hI.2.step hI.1 hst⟩
    subst hs
    exact ⟨safe hv (.init rfl), hup, hclear, fun _ _ e => nomatch e⟩
  obtain ⟨seen, before, hp⟩ := hconv.2.progress i [] hi
  exact hp.settled k

end Writers

end ApiServer
