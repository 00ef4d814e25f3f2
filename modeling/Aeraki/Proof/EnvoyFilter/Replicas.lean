import Aeraki.Framework.Writers
import Aeraki.Impl.EnvoyFilter.Replicas
import Aeraki.Proof.EnvoyFilter.Reconcile

/-!
# Pushes that overlap

Several replicas may push at the same time: one that has lost its leadership
goes on (`LeaderElection`). A replica that pushes alone does what `pushObjects`
does (`alone`). If all push the same objects, then whatever the order of their
calls, and whichever fail, an EnvoyFilter that is as generated stays so, every
accepted write makes its EnvoyFilter so, and those that Aeraki does not manage
are untouched (`replicas_safe`). If no call fails at the server, the managed
EnvoyFilters are the generated ones once one of the pushes has come to its end,
whatever the others are doing, and they stay so (`replicas_converge`). So a
request that was refused because another replica had been faster does no harm.

A push is a plan of requests (`planned`) that a writer works off
(`ApiServer.Writers`): each turn of a loop asks for the next one or for nothing
(`turn_todo`).
-/

namespace Aeraki.Proof.EnvoyFilter

open Aeraki.Impl Aeraki.Impl.Controller
open ApiServer (Object Request Admits Writers content)

variable {ι ω σ : Type} [DecidableEq ι] [DecidableEq σ]

/-! ## The plan of a push -/

/-- The requests of the second loop, which erases what it has found. -/
def updateRequests (c : PushConfig ω σ) : GoMap String ω → List (ObjectKey × Object σ) → List (Request ObjectKey σ)
  | _, [] => []
  | m, old :: rest => (updateRequest c m old).toList ++ updateRequests c (m.erase (oldKey c old)) rest

/-- The requests of the third loop. -/
def createRequests (c : PushConfig ω σ) (o : Oracle) (m : GoMap String ω) : List (Request ObjectKey σ) :=
  ((o.at "new").range m).map fun e => createRequest c e.2

/-- What a push asks for, if `List` returned `olds`. -/
def planned (c : PushConfig ω σ) (o : Oracle) (m : GoMap String ω) (olds : List (ObjectKey × Object σ)) :
    List (Request ObjectKey σ) :=
  olds.filterMap (deleteRequest c m) ++ (updateRequests c m olds ++ createRequests c o (left c m olds))

/-- What `List` returns. -/
def listing (o : Oracle) (server : ApiServer.Server ObjectKey σ) : List (ObjectKey × Object σ) :=
  (server.list (o.listOrder ["existing"]) isManaged).1.getD []

/-- What is left of a push. -/
def todo (c : PushConfig ω σ) (p : Pusher ω σ) : Option (List (Request ObjectKey σ)) :=
  match p.phase with
  | .idle => none
  | .deleting existing rest => some (rest.filterMap (deleteRequest c p.generated) ++
      (updateRequests c p.generated existing ++ createRequests c p.oracle (left c p.generated existing)))
  | .updating rest => some (updateRequests c p.generated rest ++ createRequests c p.oracle (left c p.generated rest))
  | .creating rest => some (rest.map (createRequest c))

section

variable {c : PushConfig ω σ} {o : Oracle} {m : GoMap String ω} {olds : List (ObjectKey × Object σ)}
  {server : ApiServer.Server ObjectKey σ} {r : Request ObjectKey σ}

omit [DecidableEq σ] in
theorem listing_up (hup : server.fails server.calls = false) : listing o server = existing o server := by
  simp [listing, ApiServer.Server.list, hup, existing]

omit [DecidableEq σ] in
theorem listing_down (hdown : server.fails server.calls = true) : listing o server = [] := by
  simp [listing, ApiServer.Server.list, hdown]

/-- With different keys, erasing makes no difference. -/
theorem updateRequests_eq : ∀ {olds : List (ObjectKey × Object σ)} {m : GoMap String ω},
    (olds.map (oldKey c)).Nodup → updateRequests c m olds = olds.filterMap (updateRequest c m)
  | [], _, _ => rfl
  | old :: rest, m, hn => by
    rw [List.map_cons, List.nodup_cons] at hn
    have hsame : rest.filterMap (updateRequest c (m.erase (oldKey c old))) = rest.filterMap (updateRequest c m) :=
      List.filterMap_congr fun old' hm => by
        have hne : oldKey c old' ≠ oldKey c old := fun e => hn.1 (e ▸ List.mem_map_of_mem hm)
        rw [updateRequest, GoMap.lookup_erase_eq, if_neg hne, updateRequest]
    rw [updateRequests, updateRequests_eq hn.2, hsame, List.filterMap_cons]
    cases updateRequest c m old <;> rfl

omit [DecidableEq σ] in
/-- One turn of the first loop. -/
theorem deleteStep_eq (c : PushConfig ω σ) (st : PushState ω σ) (old : ObjectKey × Object σ) :
    (deleteStep c st old).server = st.server.execAll (deleteRequest c st.generated old).toList ∧
      (deleteStep c st old).generated = st.generated := by
  unfold deleteStep deleteRequest oldKey
  cases st.generated.lookup (c.mapKey old.1.name old.1.namespace_) with
  | none => exact ⟨rfl, rfl⟩
  | some value => exact ⟨rfl, rfl⟩

/-- A turn of a push: the next request, or none. -/
inductive Turn (todo todo' : Option (List (Request ObjectKey σ))) (server server' : ApiServer.Server ObjectKey σ) : Prop
  | silent : todo' = todo → server' = server → Turn todo todo' server server'
  | write {r : Request ObjectKey σ} {rs : List (Request ObjectKey σ)} : todo = some (r :: rs) → todo' = some rs →
    server' = (server.exec r).2 → Turn todo todo' server server'
  | done : todo = some [] → todo' = none → server' = server → Turn todo todo' server server'

omit [DecidableEq σ] in
/-- A turn that asks for what an optional request is. -/
theorem Turn.of_toList {x : Option (Request ObjectKey σ)} (rs : List (Request ObjectKey σ))
    {server server' : ApiServer.Server ObjectKey σ} (h : server' = server.execAll x.toList) :
    Turn (some (x.toList ++ rs)) (some rs) server server' := by
  cases x with
  | none => exact .silent rfl h
  | some r => exact .write rfl rfl h

theorem turn_todo (p : Pusher ω σ) (hp : p.phase ≠ .idle) (server : ApiServer.Server ObjectKey σ) :
    Turn (todo c p) (todo c (p.turn c server).1) server (p.turn c server).2 := by
  rcases p with ⟨phase, o, err, m⟩
  cases phase with
  | idle => exact absurd rfl hp
  | deleting existing rest =>
    cases rest with
    | nil => exact .silent rfl rfl
    | cons old rest =>
      obtain ⟨hs, hg⟩ := deleteStep_eq c ⟨err, m, server⟩ old
      have h := Turn.of_toList (rest.filterMap (deleteRequest c m) ++
        (updateRequests c m existing ++ createRequests c o (left c m existing))) hs
      simp only [todo, Pusher.turn, Pusher.after, hg, List.filterMap_cons] at h ⊢
      cases hx : deleteRequest c m old <;> simpa [hx] using h
  | updating rest =>
    cases rest with
    | nil =>
      refine .silent ?_ rfl
      simp only [todo, Pusher.turn, Pusher.after, updateRequests, createRequests, left, List.map_map, List.nil_append]
      rfl
    | cons old rest =>
      obtain ⟨hs, hg⟩ := updateStep_eq c ⟨err, m, server⟩ old
      have h := Turn.of_toList (updateRequests c (m.erase (oldKey c old)) rest ++
        createRequests c o (left c (m.erase (oldKey c old)) rest)) hs
      simpa only [todo, Pusher.turn, Pusher.after, hg, updateRequests, List.append_assoc, left, List.map_cons,
        GoMap.eraseAll_cons] using h
  | creating rest =>
    cases rest with
    | nil => exact .done rfl rfl rfl
    | cons value rest => exact .write rfl rfl rfl

/-! ## A replica alone -/

/-- A loop, turn by turn, is the fold. -/
theorem iterate_loop {α : Type} (step : PushState ω σ → α → PushState ω σ) (phase : List α → PushPhase ω σ)
    (hturn : ∀ (p : Pusher ω σ) x xs server, p.phase = phase (x :: xs) →
      p.turn c server = p.after (phase xs) (step ⟨p.err, p.generated, server⟩ x)) :
    ∀ (xs : List α) (p : Pusher ω σ) (st : PushState ω σ),
      (fun x => x.1.turn c x.2)^[xs.length] (p.after (phase xs) st) = p.after (phase []) (xs.foldl step st)
  | [], _, _ => rfl
  | x :: xs, p, st => by
    rw [List.length_cons, Function.iterate_succ_apply, hturn _ x xs _ rfl]
    exact iterate_loop step phase hturn xs p (step st x)

/-- A replica that pushes alone does what `pushObjects` does. -/
theorem alone (c : PushConfig ω σ) (o : Oracle) (generated : GoMap String ω)
    (server : ApiServer.Server ObjectKey σ) : ∃ n rest,
      (fun x => x.1.turn c x.2)^[n] (Pusher.start o generated server) =
        ({ oracle := o, err := (pushObjects c o generated server).1, generated := rest },
          (pushObjects c o generated server).2) := by
  set olds := listing o server
  set p : Pusher ω σ := { oracle := o }
  set st : PushState ω σ := ⟨none, generated, (server.list (o.listOrder ["existing"]) isManaged).2⟩
  set st₁ := olds.foldl (deleteStep c) st
  set st₂ := olds.foldl (updateStep c) st₁
  set values := ((o.at "new").range st₂.generated).map Prod.snd
  have h₁ := iterate_loop (c := c) (deleteStep c) (.deleting olds) (fun p x xs s h => by simp only [Pusher.turn, h])
    olds p st
  have h₂ := iterate_loop (c := c) (updateStep c) .updating (fun p x xs s h => by simp only [Pusher.turn, h])
    olds p st₁
  have h₃ := iterate_loop (c := c) (createStep c) .creating (fun p x xs s h => by simp only [Pusher.turn, h])
    values p st₂
  refine ⟨1 + (values.length + (1 + (olds.length + (1 + olds.length)))), (values.foldl (createStep c) st₂).generated, ?_⟩
  have hstart : Pusher.start o generated server = p.after (.deleting olds olds) st := rfl
  simp only [Function.iterate_add_apply, hstart, h₁]
  rw [show (fun x : Pusher ω σ × ApiServer.Server ObjectKey σ => x.1.turn c x.2)^[1] (p.after (.deleting olds []) st₁) =
    p.after (.updating olds) st₁ from rfl, h₂]
  rw [show (fun x : Pusher ω σ × ApiServer.Server ObjectKey σ => x.1.turn c x.2)^[1] (p.after (.updating []) st₂) =
    p.after (.creating values) st₂ from rfl, h₃]
  rfl

end

/-! ## The goal of the pushes -/

/-- An object is generated. -/
def Desires (c : PushConfig ω σ) (generated : GoMap String ω) (d : Desired σ) : Prop :=
  ∃ mk v, generated.lookup mk = some v ∧ c.object v = d

/-- The labels of managed objects. -/
def ManagedLabels (labels : GoMap String String) : Prop := labels.lookup "manager" = some "Aeraki"

/-- What is to be stored under a key: the object that is generated for it, and
nothing managed else. -/
structure Goal (c : PushConfig ω σ) (generated : GoMap String ω) (k : ObjectKey)
    (x : Option (GoMap String String × σ)) : Prop where
  managed : ∀ labels spec, x = some (labels, spec) → ManagedLabels labels →
    ∃ d, Desires c generated d ∧ d.key = k ∧ d.spec = spec
  generated : ∀ d, Desires c generated d → d.key = k → ∃ labels, x = some (labels, d.spec) ∧ ManagedLabels labels

section

variable {c : PushConfig ω σ} {o : Oracle} {generated m : GoMap String ω} {olds : List (ObjectKey × Object σ)}
  {server : ApiServer.Server ObjectKey σ} {objects : AList fun _ : ObjectKey => Object σ} {r : Request ObjectKey σ}

omit [DecidableEq σ] in
theorem isManaged_iff {ob : Object σ} : isManaged ob = true ↔ ManagedLabels ob.labels := by
  simp [isManaged, ManagedLabels]

omit [DecidableEq σ] in
theorem content_eq_some {k : ObjectKey} {labels : GoMap String String} {spec : σ} :
    content objects k = some (labels, spec) ↔ ∃ ob, objects.lookup k = some ob ∧ ob.labels = labels ∧ ob.spec = spec := by
  simp [content, Option.map_eq_some_iff]

omit [DecidableEq σ] in
/-- All keys are as they should be if and only if the managed objects are the
generated ones. -/
theorem settled_iff_goal : Settled c generated objects ↔ ∀ k, Goal c generated k (content objects k) := by
  refine ⟨fun h k => ⟨fun labels spec hx hl => ?_, fun d hd hk => ?_⟩, fun h => ⟨fun k ob hob hm => ?_, fun mk v hv => ?_⟩⟩
  · obtain ⟨ob, hob, rfl, rfl⟩ := content_eq_some.mp hx
    obtain ⟨mk, v, hv, hkey, hspec⟩ := h.managed k ob hob (isManaged_iff.mpr hl)
    exact ⟨c.object v, ⟨mk, v, hv, rfl⟩, hkey, hspec.symm⟩
  · obtain ⟨mk, v, hv, rfl⟩ := hd
    obtain ⟨ob, hob, hm, hspec⟩ := h.generated mk v hv
    exact ⟨ob.labels, content_eq_some.mpr ⟨ob, hk ▸ hob, rfl, hspec⟩, isManaged_iff.mp hm⟩
  · obtain ⟨d, ⟨mk, v, hv, rfl⟩, hkey, hspec⟩ :=
      (h k).managed _ _ (content_eq_some.mpr ⟨ob, hob, rfl, rfl⟩) (isManaged_iff.mp hm)
    exact ⟨mk, v, hv, hkey, hspec.symm⟩
  · obtain ⟨labels, hx, hl⟩ := (h _).generated _ ⟨mk, v, hv, rfl⟩ rfl
    obtain ⟨ob, hob, rfl, hspec⟩ := content_eq_some.mp hx
    exact ⟨ob, hob, isManaged_iff.mpr hl, hspec⟩

omit [DecidableEq σ] in
theorem desires_congr (hs : SameObjects c generated m) {d : Desired σ} : Desires c generated d ↔ Desires c m d := by
  have hiff : ∀ (a b : GoMap String ω), SameObjects c a b → Desires c a d → Desires c b d := by
    rintro a b hab ⟨mk, v, hv, rfl⟩
    have hmk := hab mk
    rw [hv, Option.map_some] at hmk
    obtain ⟨v', hv', hobj⟩ := Option.map_eq_some_iff.mp hmk.symm
    exact ⟨mk, v', hv', hobj⟩
  exact ⟨hiff _ _ hs, hiff _ _ fun mk => (hs mk).symm⟩

/-- Generated values are under their own keys. -/
def UnderOwnKeys (c : PushConfig ω σ) (generated : GoMap String ω) : Prop :=
  ∀ mk v, generated.lookup mk = some v → mk = c.mapKey (c.object v).name (c.object v).namespace_

omit [DecidableEq σ] in
/-- So each generated object is found under the key of its name. -/
theorem UnderOwnKeys.lookup (hkeyed : UnderOwnKeys c generated) {d : Desired σ} (hd : Desires c generated d) :
    ∃ v, generated.lookup (c.mapKey d.name d.namespace_) = some v ∧ c.object v = d := by
  obtain ⟨mk, v, hv, rfl⟩ := hd
  exact ⟨v, hkeyed mk v hv ▸ hv, rfl⟩

omit [DecidableEq σ] in
theorem UnderOwnKeys.congr (hkeyed : UnderOwnKeys c generated) (hs : SameObjects c generated m) : UnderOwnKeys c m := by
  intro mk v hv
  have hmk := hs mk
  rw [hv, Option.map_some] at hmk
  obtain ⟨v', hv', hobj⟩ := Option.map_eq_some_iff.mp hmk
  rw [← hobj]
  exact hkeyed mk v' hv'

omit [DecidableEq σ] in
/-- Writing a generated object is towards the goal: there is one for its key. -/
theorem goal_desired (hkeyed : UnderOwnKeys c generated) {d : Desired σ} (hd : Desires c generated d) :
    Goal c generated d.key (some (managerLabels, d.spec)) := by
  refine ⟨fun labels spec hx _ => ⟨d, hd, rfl, ?_⟩, fun d' hd' hkey => ⟨managerLabels, ?_, Finmap.lookup_singleton_eq⟩⟩
  · cases hx; rfl
  · obtain ⟨v, hv, rfl⟩ := hkeyed.lookup hd
    obtain ⟨v', hv', rfl⟩ := hkeyed.lookup hd'
    have hname : (c.object v').name = (c.object v).name := congrArg ObjectKey.name hkey
    have hns : (c.object v').namespace_ = (c.object v).namespace_ := congrArg ObjectKey.namespace_ hkey
    rw [hname, hns, hv] at hv'
    rw [Option.some.inj hv']

omit [DecidableEq σ] in
/-- Deleting what has no generated value is towards the goal. -/
theorem goal_deleted (hkeyed : UnderOwnKeys c generated) {k : ObjectKey}
    (hk : generated.lookup (c.mapKey k.name k.namespace_) = none) : Goal c generated k none := by
  refine ⟨(fun _ _ hx => nomatch hx), fun d hd hkey => ?_⟩
  obtain ⟨v, hv, -⟩ := hkeyed.lookup hd
  subst hkey
  exact nomatch hk.symm.trans hv

theorem mem_updateRequests : ∀ {olds : List (ObjectKey × Object σ)} {m : GoMap String ω},
    r ∈ updateRequests c m olds → ∃ mk v version, m.lookup mk = some v ∧
      r = .update (c.object v).key managerLabels (c.object v).spec version
  | [], _, h => nomatch h
  | old :: rest, m, h => by
    rcases List.mem_append.mp h with h | h
    · obtain ⟨v, hv, hr⟩ := Option.bind_eq_some_iff.mp (Option.mem_toList.mp h)
      split at hr
      · cases hr
      · exact ⟨_, v, _, hv, (Option.some.inj hr).symm⟩
    · obtain ⟨mk, v, version, hv, hr⟩ := mem_updateRequests h
      rw [GoMap.lookup_erase_eq] at hv
      split at hv
      · cases hv
      · exact ⟨mk, v, version, hv, hr⟩

omit [DecidableEq σ] in
theorem mem_createRequests (h : r ∈ createRequests c o m) : ∃ mk v, m.lookup mk = some v ∧ r = createRequest c v := by
  obtain ⟨⟨mk, v⟩, he, hr⟩ := List.mem_map.mp h
  exact ⟨mk, v, GoMap.mem_range.mp he, hr.symm⟩

/-- Whatever `List` returned, every request of a push is towards the goal. -/
theorem goal_planned (hkeyed : UnderOwnKeys c generated) (hs : SameObjects c generated m) (hr : r ∈ planned c o m olds) :
    Goal c generated r.key r.result := by
  have hdes : ∀ {mk v}, m.lookup mk = some v → Desires c generated (c.object v) :=
    fun hv => (desires_congr hs).mpr ⟨_, _, hv, rfl⟩
  rcases List.mem_append.mp hr with hr | hr
  · obtain ⟨old, -, hold⟩ := List.mem_filterMap.mp hr
    unfold deleteRequest at hold
    split at hold
    · rename_i hnone
      cases hold
      refine goal_deleted hkeyed ?_
      have hmk := hs (oldKey c old)
      rw [Option.isNone_iff_eq_none.mp hnone] at hmk
      exact Option.map_eq_none_iff.mp hmk
    · cases hold
  · rcases List.mem_append.mp hr with hr | hr
    · obtain ⟨mk, v, version, hv, rfl⟩ := mem_updateRequests hr
      exact goal_desired hkeyed (hdes hv)
    · obtain ⟨mk, v, hv, rfl⟩ := mem_createRequests hr
      rw [left, GoMap.lookup_eraseAll] at hv
      split at hv
      · cases hv
      · exact goal_desired hkeyed (hdes hv)

/-! ## What the plans rely on -/

omit [DecidableEq σ] in
/-- Maps of the same objects are about the same keys. -/
theorem Distinct.congr (hd : Distinct c generated objects) (hs : SameObjects c generated m) : Distinct c m objects := by
  have hinv : ∀ k, Involved c m objects k → Involved c generated objects k := by
    rintro k (h | ⟨mk, v, hv, hk⟩)
    · exact .inl h
    · obtain ⟨mk', v', hv', hobj⟩ := (desires_congr hs).mpr ⟨mk, v, hv, rfl⟩
      exact .inr ⟨mk', v', hv', by rw [hobj, hk]⟩
  exact ⟨UnderOwnKeys.congr hd.keyed hs, fun a b ha hb => hd.inj a b (hinv a ha) (hinv b hb)⟩

omit [DecidableEq σ] in
/-- Requests towards the goal keep the keys distinct: what they write is generated. -/
theorem Distinct.apply (hd : Distinct c generated objects) (hr : Goal c generated r.key r.result) (version : Nat) :
    Distinct c generated (r.apply version objects) := by
  have hinv : ∀ k, Involved c generated (r.apply version objects) k → Involved c generated objects k := by
    rintro k (⟨ob, hob, hm⟩ | h)
    · by_cases hk : k = r.key
      · subst hk
        have hres := ApiServer.lookup_apply_key r version objects
        rw [hob, Option.map_some] at hres
        obtain ⟨d, ⟨mk, v, hv, rfl⟩, hkey, -⟩ := hr.managed _ _ hres.symm (isManaged_iff.mp hm)
        exact .inr ⟨mk, v, hv, hkey⟩
      · exact .inl ⟨ob, (ApiServer.lookup_apply_ne hk).symm.trans hob, hm⟩
    · exact .inr h
  exact ⟨hd.keyed, fun a b ha hb => hd.inj a b (hinv a ha) (hinv b hb)⟩

theorem planned_eq (hd : Distinct c m server.objects) (hup : server.fails server.calls = false) :
    planned c o m (listing o server) = requests c o m (existing o server) := by
  rw [listing_up hup, planned, updateRequests_eq (nodup_oldKeys hd)]
  rfl

/-- A request for an object that is not managed is a creation. -/
theorem isCreate_planned (hd : Distinct c m server.objects) (hr : r ∈ planned c o m (listing o server)) {ob : Object σ}
    (hob : server.objects.lookup r.key = some ob) (hm : isManaged ob = false) : r.isCreate = true := by
  have hnot : ∀ old ∈ existing o server, server.objects.lookup old.1 ≠ some ob := fun old hold h => by
    obtain ⟨hl, hmo⟩ := mem_existing.mp hold
    rw [hl, Option.some.injEq] at h
    rw [h, hm] at hmo
    cases hmo
  cases hup : server.fails server.calls with
  | false =>
    rw [planned_eq hd hup] at hr
    rcases (mem_requests hd).mp hr with ⟨old, hold, -, rfl⟩ | ⟨old, hold, v, -, -, rfl⟩ | ⟨mk, v, -, rfl⟩
    · exact absurd hob (hnot old hold)
    · exact absurd hob (hnot old hold)
    · rfl
  | true =>
    rw [listing_down hup] at hr
    obtain ⟨mk, v, -, rfl⟩ := mem_createRequests hr
    rfl

/-- The plan of a push whose `List` succeeded is complete. -/
theorem plan_planned (hv : c.carriesVersion = true) (hd : Distinct c m server.objects)
    (hup : server.fails server.calls = false)
    (hclear : ∀ k ob, server.objects.lookup k = some ob → isManaged ob = false →
      Goal c m k (content server.objects k)) :
    ApiServer.Plan (Goal c m) server.objects (planned c o m (listing o server)) := by
  rw [planned_eq hd hup]
  have named : ∀ {r}, r ∈ requests c o m (existing o server) →
      r.key ∈ (requests c o m (existing o server)).map Request.key := List.mem_map_of_mem
  refine ⟨fun r hr => ?_, fun k hk => ⟨fun labels spec hx hl => ?_, fun d hdes hkey => ?_⟩⟩
  · rcases (mem_requests hd).mp hr with ⟨old, hold, -, rfl⟩ | ⟨old, hold, v, -, -, rfl⟩ | ⟨mk, v, ⟨hg, hnot⟩, rfl⟩
    · simp [Admits, (mem_existing.mp hold).1]
    · simp [Admits, (mem_existing.mp hold).1, hv]
    · -- What is under the key of a new object is neither managed nor foreign.
      rw [createRequest, Admits]
      cases hob : server.objects.lookup (c.object v).key with
      | none => rfl
      | some ob =>
        cases hm : isManaged ob with
        | true => exact absurd (List.mem_map.mpr ⟨(_, ob), mem_existing.mpr ⟨hob, hm⟩, rfl⟩) hnot
        | false =>
          obtain ⟨labels, hx, hl⟩ := (hclear _ ob hob hm).generated _ ⟨mk, v, hg, rfl⟩ rfl
          obtain ⟨ob', hob', rfl, -⟩ := content_eq_some.mp hx
          rw [hob, Option.some.injEq] at hob'
          rw [hob', isManaged_iff.mpr hl] at hm
          cases hm
  · obtain ⟨ob, hob, rfl, rfl⟩ := content_eq_some.mp hx
    have hold : (k, ob) ∈ existing o server := mem_existing.mpr ⟨hob, isManaged_iff.mpr hl⟩
    cases hg : m.lookup (oldKey c (k, ob)) with
    | none => exact absurd (named ((mem_requests hd).mpr (.inl ⟨_, hold, hg, rfl⟩))) hk
    | some v =>
      refine ⟨c.object v, ⟨_, v, hg, rfl⟩, object_key hd hold hg, ?_⟩
      by_contra hne
      exact hk (named ((mem_requests hd).mpr (.inr (.inl ⟨_, hold, v, hg, hne, rfl⟩))))
  · obtain ⟨mk, v, hg, rfl⟩ := hdes
    subst hkey
    by_cases hin : (c.object v).key ∈ (existing o server).map Prod.fst
    · obtain ⟨old, hold, hkey⟩ := List.mem_map.mp hin
      obtain ⟨hob, hm⟩ := mem_existing.mp hold
      have hg' : m.lookup (oldKey c old) = some v := by rw [oldKey, hkey, ← hg, hd.keyed mk v hg]; rfl
      rw [hkey] at hob
      refine ⟨old.2.labels, content_eq_some.mpr ⟨old.2, hob, rfl, ?_⟩, isManaged_iff.mp hm⟩
      by_contra hne
      refine hk (hkey ▸ named ((mem_requests hd).mpr (.inr (.inl ⟨old, hold, v, hg', fun e => hne e.symm, rfl⟩))))
    · exact absurd (named ((mem_requests hd).mpr (.inr (.inr ⟨mk, v, ⟨hg, hin⟩, rfl⟩)))) hk

end

/-! ## The replicas -/

section

variable {c : PushConfig ω σ} {generated : GoMap String ω} {server : ApiServer.Server ObjectKey σ}

omit [DecidableEq σ] in
theorem goal_congr {m : GoMap String ω} (hs : SameObjects c generated m) {k : ObjectKey}
    {x : Option (GoMap String String × σ)} (h : Goal c generated k x) : Goal c m k x := by
  refine ⟨fun labels spec hx hl => ?_, fun d hd => h.generated d ((desires_congr hs).mpr hd)⟩
  obtain ⟨d, hd, hkey⟩ := h.managed labels spec hx hl
  exact ⟨d, (desires_congr hs).mp hd, hkey⟩

/-- The pushes of maps with the generated objects, as writers with one goal. -/
def protocol (c : PushConfig ω σ) (generated : GoMap String ω) (hkeyed : UnderOwnKeys c generated)
    (hv : c.carriesVersion = true) : ApiServer.Protocol ObjectKey σ where
  goal := Goal c generated
  valid := Distinct c generated
  foreign ob := isManaged ob = false
  plan server rs := ∃ o m, SameObjects c generated m ∧ rs = planned c o m (listing o server)
  rightful := by
    rintro s _ ⟨o, m, hs, rfl⟩ r hr
    exact goal_planned hkeyed hs hr
  keeps version hd hr := hd.apply hr version
  respects := by
    rintro s _ r ob hd ⟨o, m, hs, rfl⟩ hr hob hm
    exact isCreate_planned (hd.congr hs) hr hob hm
  complete := by
    rintro s _ hd hup hclear ⟨o, m, hs, rfl⟩
    have hplan := @plan_planned _ _ _ _ o _ _ hv (hd.congr hs) hup fun k ob hob hm => goal_congr hs (hclear k ob hob hm)
    exact ⟨hplan.admitted, fun k hk => goal_congr (fun mk => (hs mk).symm) (hplan.rest k hk)⟩

/-- What the replicas have left to do. -/
def writers (c : PushConfig ω σ) (s : Replicas ι ω σ) : Writers ι ObjectKey σ :=
  ⟨s.server, fun i => todo c (s.pushers i)⟩

theorem writers_update (s : Replicas ι ω σ) (i : ι) (p : Pusher ω σ) (server : ApiServer.Server ObjectKey σ) :
    writers c ⟨server, Function.update s.pushers i p⟩ = ⟨server, Function.update (writers c s).todo i (todo c p)⟩ :=
  congrArg (Writers.mk server) (Function.comp_update (todo c) s.pushers i p)

/-- A step of the replicas is a step of the writers, or none. -/
theorem writers_step {hkeyed : UnderOwnKeys c generated} {hv : c.carriesVersion = true} {s t : Replicas ι ω σ}
    (hst : Replicas.Step c (SameObjects c generated) s t) :
    Relation.ReflTransGen (Writers.Step (protocol c generated hkeyed hv)) (writers c s) (writers c t) := by
  cases hst with
  | start i o hidle hs =>
    rw [Replicas.start, writers_update]
    refine .single (.look ?_ ⟨o, _, hs, rfl⟩)
    simp only [writers, todo, hidle]
  | turn i hphase =>
    rw [Replicas.turn, writers_update]
    rcases turn_todo (c := c) (s.pushers i) hphase s.server with ⟨htodo, hserver⟩ | ⟨htodo, htodo', hserver⟩ |
      ⟨htodo, htodo', hserver⟩
    · have hsame : Function.update (writers c s).todo i (todo c (s.pushers i)) = (writers c s).todo :=
        Function.update_eq_self i _
      rw [htodo, hserver, hsame]
      exact .refl
    · rw [htodo', hserver]
      exact .single (.write htodo)
    · rw [htodo', hserver]
      exact .single (.done htodo)

theorem writers_reachable (hkeyed : UnderOwnKeys c generated) (hv : c.carriesVersion = true) {s : Replicas ι ω σ}
    (h : (Replicas.system ι c (SameObjects c generated) server).Reachable s) :
    (Writers.system ι (protocol c generated hkeyed hv) server).Reachable (writers c s) := by
  refine h.simulate (writers c) (fun s hs => ?_) fun _ _ _ hst => writers_step hst
  subst hs
  rfl

end

/-! ## EnvoyFilters -/

/-- No EnvoyFilter of others is under the key of a generated one. -/
def FreeKeys (generated : GoMap String EnvoyFilterWrapper) (objects : AList fun _ : ObjectKey => Object EnvoyFilter) :
    Prop :=
  ∀ k ob, objects.lookup k = some ob → isManaged ob = false →
    ∀ mk wrapper, generated.lookup mk = some wrapper → (toEnvoyFilterCRD wrapper).key ≠ k

instance (generated : GoMap String EnvoyFilterWrapper) (objects : AList fun _ : ObjectKey => Object EnvoyFilter) :
    Decidable (FreeKeys generated objects) :=
  decidable_of_iff (∀ e ∈ objects.entries, isManaged e.2 = false →
      ∀ g ∈ generated.sorted, (toEnvoyFilterCRD g.2).key ≠ e.1)
    ⟨fun h k ob hob hm mk w hw => h ⟨k, ob⟩ (AList.mem_lookup_iff.mp hob) hm (mk, w) (GoMap.mem_sorted.mpr hw),
      fun h e he hm g hg => h e.1 e.2 (AList.mem_lookup_iff.mpr he) hm g.1 g.2 (GoMap.mem_sorted.mp hg)⟩

section

variable {c : Controller} {o : Oracle} {vs vs' : ApiServer.Server ObjectKey VirtualService}
  {generated : GoMap String EnvoyFilterWrapper} {server : ApiServer.Server ObjectKey EnvoyFilter}
  (hgen : c.generateEnvoyFilters o vs = .ok ((generated, none), vs'))
  (hd : DistinctKeys generated server.objects)
include hgen hd

/-- Replicas that push the EnvoyFilters of one generation: whatever the order of
their calls and whichever fail, an EnvoyFilter that is as it should be stays so,
every accepted write makes its EnvoyFilter so, and those that are not managed
are untouched. -/
theorem replicas_safe {s : Replicas ι EnvoyFilterWrapper EnvoyFilter}
    (hs : (Replicas.system ι envoyFilterPush (SameObjects envoyFilterPush generated) server).Reachable s) :
    (∀ k, Goal envoyFilterPush generated k (content server.objects k) →
      Goal envoyFilterPush generated k (content s.server.objects k)) ∧
    (∀ w ∈ newWrites server s.server, w.2 = true →
      Goal envoyFilterPush generated w.1.key (content s.server.objects w.1.key)) ∧
    ∀ k ob, server.objects.lookup k = some ob → isManaged ob = false → s.server.objects.lookup k = some ob := by
  have hdist := distinct_generated hgen hd
  have hinv := Writers.safe hdist (writers_reachable hdist.keyed rfl hs)
  refine ⟨hinv.kept, fun w hw ha => ?_, hinv.foreign⟩
  obtain ⟨l, hlog, hl⟩ := hinv.logged
  have hlog : s.server.log = server.log ++ l := hlog
  rw [newWrites, hlog, List.drop_left] at hw
  exact hl w hw ha

/-- If no call fails at the server, and no EnvoyFilter of others is under the
key of a generated one, then the managed EnvoyFilters are the generated ones
once one of the replicas is at the end of its last loop, and they stay so. -/
theorem replicas_converge (hup : ∀ n, server.fails n = false) (hfree : FreeKeys generated server.objects)
    {s t : Replicas ι EnvoyFilterWrapper EnvoyFilter}
    (hs : (Replicas.system ι envoyFilterPush (SameObjects envoyFilterPush generated) server).Reachable s)
    {i : ι} (hi : (s.pushers i).phase = .creating [])
    (hrun : Relation.ReflTransGen (Replicas.Step envoyFilterPush (SameObjects envoyFilterPush generated)) s t) :
    Settled envoyFilterPush generated t.server.objects := by
  have hdist := distinct_generated hgen hd
  have hreach := writers_reachable hdist.keyed rfl hs
  have htodo : (writers envoyFilterPush s).todo i = some [] := by
    simp only [writers, todo, hi, List.map_nil]
  have hclear : ∀ k ob, server.objects.lookup k = some ob → isManaged ob = false →
      Goal envoyFilterPush generated k (content server.objects k) := by
    refine fun k ob hob hm => ⟨fun labels spec hx hl => ?_, ?_⟩
    · obtain ⟨ob', hob', rfl, -⟩ := content_eq_some.mp hx
      rw [hob, Option.some.injEq] at hob'
      rw [hob', isManaged_iff.mpr hl] at hm
      cases hm
    · rintro _ ⟨mk, wrapper, hg, rfl⟩ hkey
      exact absurd hkey (hfree k ob hob hm mk wrapper hg)
  refine settled_iff_goal.mpr fun k => ?_
  have hk := Writers.settled hdist hup hclear hreach htodo k
  exact Writers.kept_run hdist hreach (hrun.lift' (writers envoyFilterPush) fun _ _ => writers_step) hk

end

/-- Two replicas: both list, then the first pushes to the end of its loops. -/
def firstDone (generated : GoMap String EnvoyFilterWrapper) : Replicas Bool EnvoyFilterWrapper EnvoyFilter :=
  [true, true, true, true, true, true].foldl (Replicas.turn envoyFilterPush)
    ((Replicas.start { server := beforePush.envoyFilters } false {} generated).start true {} generated)

theorem reachable_firstDone {generated : GoMap String EnvoyFilterWrapper}
    {vs : ApiServer.Server ObjectKey VirtualService}
    (h : zookeeper.generateEnvoyFilters {} beforePush.virtualServices = .ok ((generated, none), vs)) :
    (Replicas.system Bool envoyFilterPush (SameObjects envoyFilterPush generated) beforePush.envoyFilters).Reachable
      (firstDone generated) := by
  have h₀ : (Replicas.system Bool envoyFilterPush (SameObjects envoyFilterPush generated) beforePush.envoyFilters).Reachable
    { server := beforePush.envoyFilters } := .init rfl
  have h₁ := h₀.step (.start false {} rfl fun _ => rfl)
  have h₂ := h₁.step (.start true {} rfl fun _ => rfl)
  cases h
  have h₃ := h₂.step (.turn true (by decide +kernel))
  have h₄ := h₃.step (.turn true (by decide +kernel))
  have h₅ := h₄.step (.turn true (by decide +kernel))
  have h₆ := h₅.step (.turn true (by decide +kernel))
  have h₇ := h₆.step (.turn true (by decide +kernel))
  exact h₇.step (.turn true (by decide +kernel))

theorem firstDone_safe : ∃ generated vs,
    zookeeper.generateEnvoyFilters {} beforePush.virtualServices = .ok ((generated, none), vs) ∧
    (newWrites beforePush.envoyFilters (firstDone generated).server).length = 3 ∧
    ∀ w ∈ newWrites beforePush.envoyFilters (firstDone generated).server, w.2 = true →
      Goal envoyFilterPush generated w.1.key (content (firstDone generated).server.objects w.1.key) := by
  refine ⟨_, _, rfl, by decide +kernel, ?_⟩
  exact (@replicas_safe Bool _ zookeeper {} beforePush.virtualServices _ _ _ rfl (by decide +kernel) _
    (reachable_firstDone rfl)).2.1

/-- The second then asks for what the first has done already. -/
theorem two_replicas_converge : ∃ generated vs,
    zookeeper.generateEnvoyFilters {} beforePush.virtualServices = .ok ((generated, none), vs) ∧
    newWrites (firstDone generated).server ((firstDone generated).turn envoyFilterPush false).server =
      [(.delete ⟨"istio-system", "aeraki-outbound-gone"⟩, false)] ∧
    Settled envoyFilterPush generated ((firstDone generated).turn envoyFilterPush false).server.objects := by
  refine ⟨_, _, rfl, by decide +kernel, ?_⟩
  exact @replicas_converge Bool _ zookeeper {} beforePush.virtualServices _ _ _ rfl (by decide +kernel)
    (fun _ => rfl) (by decide +kernel) _ _ (reachable_firstDone rfl) true (by decide +kernel)
    (.single (.turn false (by decide +kernel)))

end Aeraki.Proof.EnvoyFilter
