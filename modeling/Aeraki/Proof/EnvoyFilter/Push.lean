import Aeraki.Impl.EnvoyFilter.Push

/-!
# The push converges

The writes of the three loops do not depend on their outcomes: they are the
requests `deletes`, `updates` and `creates` (`server_pushObjects`). If
different objects have different map keys (`Distinct`), each object is named
by one of them at most (`nodup_requests`). So if all are accepted, the managed
objects are then the generated ones, and the others are untouched
(`pushObjects_converged`); and an object that is as generated is not written
(`pushObjects_no_write`). Nothing is written if and only if the managed objects
are the generated ones already (`pushObjects_silent_iff`). The error that a push
returns is that of its last write (`err_pushObjects`).
-/

namespace Aeraki.Proof.EnvoyFilter

open Aeraki.Impl
open ApiServer (Object Request Admits)

variable {ω σ : Type}

/-! ## The requests -/

/-- The key of a stored object in the map. -/
def oldKey (c : PushConfig ω σ) (old : ObjectKey × Object σ) : String := c.mapKey old.1.name old.1.namespace_

theorem oldKey_congr (c : PushConfig ω σ) {old old' : ObjectKey × Object σ} (h : old.1 = old'.1) :
    oldKey c old = oldKey c old' := by unfold oldKey; rw [h]

/-- The request of the first loop for an object, if there is one. -/
def deleteRequest (c : PushConfig ω σ) (generated : GoMap String ω) (old : ObjectKey × Object σ) :
    Option (Request ObjectKey σ) :=
  if (generated.lookup (oldKey c old)).isNone then some (.delete old.1) else none

/-- The request of the third loop. -/
def createRequest (c : PushConfig ω σ) (value : ω) : Request ObjectKey σ :=
  .create (c.object value).key managerLabels (c.object value).spec

theorem server_deletes (c : PushConfig ω σ) : ∀ (olds : List (ObjectKey × Object σ)) (st : PushState ω σ),
    (olds.foldl (deleteStep c) st).server = st.server.execAll (olds.filterMap (deleteRequest c st.generated)) ∧
      (olds.foldl (deleteStep c) st).generated = st.generated
  | [], _ => ⟨rfl, rfl⟩
  | old :: olds, st => by
    have hs : (deleteStep c st old).generated = st.generated := by
      unfold deleteStep; split <;> rfl
    obtain ⟨h, hg⟩ := server_deletes c olds (deleteStep c st old)
    rw [hs] at h hg
    refine ⟨?_, hg⟩
    rw [List.foldl_cons, h, List.filterMap_cons]
    unfold deleteStep deleteRequest oldKey
    cases st.generated.lookup (c.mapKey old.1.name old.1.namespace_) <;> rfl

theorem server_creates (c : PushConfig ω σ) : ∀ (values : List ω) (st : PushState ω σ),
    (values.foldl (createStep c) st).server = st.server.execAll (values.map (createRequest c))
  | [], _ => rfl
  | _ :: values, _ => server_creates c values _

/-- What the third loop finds left: the generated values of no existing object. -/
def left (c : PushConfig ω σ) (generated : GoMap String ω) (olds : List (ObjectKey × Object σ)) : GoMap String ω :=
  GoMap.eraseAll generated (olds.map (oldKey c))

/-- The managed objects, as listed. -/
def existing (o : Oracle) (server : ApiServer.Server ObjectKey σ) : List (ObjectKey × Object σ) :=
  server.selected (o.listOrder ["existing"]) isManaged

/-! ## Different objects have different keys -/

/-- The objects that a push is about: the managed and the generated ones. -/
def Involved (c : PushConfig ω σ) (generated : GoMap String ω) (objects : AList fun _ : ObjectKey => Object σ)
    (k : ObjectKey) : Prop :=
  (∃ o, objects.lookup k = some o ∧ isManaged o = true) ∨
    ∃ mk v, generated.lookup mk = some v ∧ (c.object v).key = k

/-- They can be listed. -/
def involvedKeys (c : PushConfig ω σ) (generated : GoMap String ω) (objects : AList fun _ : ObjectKey => Object σ) :
    List ObjectKey :=
  (objects.entries.filter fun e => isManaged e.2).map Sigma.fst ++
    generated.sorted.map fun e => (c.object e.2).key

theorem involved_iff {c : PushConfig ω σ} {generated : GoMap String ω}
    {objects : AList fun _ : ObjectKey => Object σ} {k : ObjectKey} :
    Involved c generated objects k ↔ k ∈ involvedKeys c generated objects := by
  simp only [Involved, involvedKeys, List.mem_append, List.mem_map, List.mem_filter, Prod.exists, Sigma.exists,
    ← AList.mem_lookup_iff, Option.mem_def, GoMap.mem_sorted]
  refine or_congr ⟨?_, ?_⟩ Iff.rfl
  · rintro ⟨ob, hob⟩; exact ⟨k, ob, hob, rfl⟩
  · rintro ⟨_, ob, hob, rfl⟩; exact ⟨ob, hob⟩

/-- Generated values are under their own keys, and different objects have
different keys. -/
structure Distinct (c : PushConfig ω σ) (generated : GoMap String ω)
    (objects : AList fun _ : ObjectKey => Object σ) : Prop where
  keyed : ∀ mk v, generated.lookup mk = some v → mk = c.mapKey (c.object v).name (c.object v).namespace_
  inj : ∀ a b, Involved c generated objects a → Involved c generated objects b →
    c.mapKey a.name a.namespace_ = c.mapKey b.name b.namespace_ → a = b

theorem mem_existing {o : Oracle} {server : ApiServer.Server ObjectKey σ} {old : ObjectKey × Object σ} :
    old ∈ existing o server ↔ server.objects.lookup old.1 = some old.2 ∧ isManaged old.2 = true :=
  ApiServer.mem_selected

section

variable {c : PushConfig ω σ} {o : Oracle} {generated : GoMap String ω}
  {server : ApiServer.Server ObjectKey σ} (hd : Distinct c generated server.objects)

theorem involved_existing {old : ObjectKey × Object σ} (h : old ∈ existing o server) :
    Involved c generated server.objects old.1 := .inl ⟨old.2, mem_existing.mp h⟩

theorem mem_deletes {r : Request ObjectKey σ} :
    r ∈ (existing o server).filterMap (deleteRequest c generated) ↔
      ∃ old ∈ existing o server, generated.lookup (oldKey c old) = none ∧ r = .delete old.1 := by
  rw [List.mem_filterMap]
  refine exists_congr fun old => and_congr_right fun _ => ?_
  unfold deleteRequest
  cases generated.lookup (oldKey c old) <;> simp [eq_comm]

include hd

theorem nodup_oldKeys : ((existing o server).map (oldKey c)).Nodup := by
  have h : ((existing o server).map Prod.fst).Nodup := ApiServer.nodup_selected _ _ _
  have hm : (existing o server).map (oldKey c) =
      ((existing o server).map Prod.fst).map fun k => c.mapKey k.name k.namespace_ := by
    rw [List.map_map]; rfl
  rw [hm]
  refine h.map_on fun a ha b hb e => ?_
  obtain ⟨x, hx, rfl⟩ := List.mem_map.mp ha
  obtain ⟨y, hy, rfl⟩ := List.mem_map.mp hb
  exact hd.inj _ _ (involved_existing hx) (involved_existing hy) e

/-- The generated value under an existing object's key is for this object. -/
theorem object_key {old : ObjectKey × Object σ} (h : old ∈ existing o server) {v : ω}
    (hv : generated.lookup (oldKey c old) = some v) : (c.object v).key = old.1 :=
  (hd.inj _ _ (involved_existing h) (.inr ⟨_, v, hv, rfl⟩) (hd.keyed _ v hv)).symm

/-- What is left was generated, for no existing object. -/
theorem lookup_left {mk : String} {v : ω} :
    (left c generated (existing o server)).lookup mk = some v ↔
      generated.lookup mk = some v ∧ (c.object v).key ∉ (existing o server).map Prod.fst := by
  rw [left, GoMap.lookup_eraseAll]
  refine ⟨fun h => ?_, fun ⟨h, hne⟩ => ?_⟩
  · split at h
    · cases h
    · rename_i hmk
      refine ⟨h, fun hm => hmk ?_⟩
      obtain ⟨old, hold, he⟩ := List.mem_map.mp hm
      refine List.mem_map.mpr ⟨old, hold, ?_⟩
      rw [oldKey, he, hd.keyed mk v h]; rfl
  · rw [if_neg, h]
    intro hm
    obtain ⟨old, hold, rfl⟩ := List.mem_map.mp hm
    exact hne (List.mem_map.mpr ⟨old, hold, (object_key hd hold h).symm⟩)

theorem mem_creates {r : Request ObjectKey σ} :
    (r ∈ ((o.at "new").range (left c generated (existing o server))).map fun e => createRequest c e.2) ↔
      ∃ mk v, (generated.lookup mk = some v ∧ (c.object v).key ∉ (existing o server).map Prod.fst) ∧
        r = createRequest c v := by
  rw [List.mem_map]
  refine ⟨fun ⟨e, he, hr⟩ => ⟨e.1, e.2, (lookup_left hd).mp (GoMap.mem_range.mp he), hr.symm⟩,
    fun ⟨mk, v, h, hr⟩ => ⟨(mk, v), GoMap.mem_range.mpr ((lookup_left hd).mpr h), hr.symm⟩⟩

end

variable [DecidableEq σ]

/-- The request of the second loop for an object, if there is one. -/
def updateRequest (c : PushConfig ω σ) (generated : GoMap String ω) (old : ObjectKey × Object σ) :
    Option (Request ObjectKey σ) :=
  (generated.lookup (oldKey c old)).bind fun value =>
    if (c.object value).spec = old.2.spec then none
    else some (.update (c.object value).key managerLabels (c.object value).spec
      (if c.carriesVersion then old.2.resourceVersion else 0))

/-- One turn of the second loop. -/
theorem updateStep_eq (c : PushConfig ω σ) (st : PushState ω σ) (old : ObjectKey × Object σ) :
    (updateStep c st old).server = st.server.execAll (updateRequest c st.generated old).toList ∧
      (updateStep c st old).generated = st.generated.erase (oldKey c old) := by
  unfold updateStep updateRequest oldKey
  dsimp only
  cases h : st.generated.lookup (c.mapKey old.1.name old.1.namespace_) with
  | none => exact ⟨rfl, (GoMap.erase_of_lookup_none h).symm⟩
  | some value =>
    by_cases he : (c.object value).spec = old.2.spec
    · simp [he]
    · simp [he, PushState.write]

theorem server_updates (c : PushConfig ω σ) : ∀ (olds : List (ObjectKey × Object σ)) (st : PushState ω σ),
    (olds.map (oldKey c)).Nodup →
    (olds.foldl (updateStep c) st).server = st.server.execAll (olds.filterMap (updateRequest c st.generated)) ∧
      (olds.foldl (updateStep c) st).generated = GoMap.eraseAll st.generated (olds.map (oldKey c))
  | [], _, _ => ⟨rfl, rfl⟩
  | old :: olds, st, hn => by
    rw [List.map_cons, List.nodup_cons] at hn
    obtain ⟨hs, hg⟩ := updateStep_eq c st old
    obtain ⟨h, hg'⟩ := server_updates c olds (updateStep c st old) hn.2
    -- The objects that follow have other keys: they find what they found before.
    have hsame : olds.filterMap (updateRequest c (updateStep c st old).generated) =
        olds.filterMap (updateRequest c st.generated) := List.filterMap_congr fun old' hm => by
      have hne : oldKey c old' ≠ oldKey c old := fun e => hn.1 (e ▸ List.mem_map_of_mem hm)
      rw [updateRequest, hg, GoMap.lookup_erase_eq, if_neg hne, updateRequest]
    refine ⟨?_, by rw [List.foldl_cons, hg', hg, List.map_cons, GoMap.eraseAll_cons]⟩
    rw [List.foldl_cons, h, hsame, hs, ← ApiServer.execAll_append, List.filterMap_cons]
    cases updateRequest c st.generated old <;> rfl

/-- The second loop deletes nothing. -/
theorem updates_no_delete (c : PushConfig ω σ) : ∀ (olds : List (ObjectKey × Object σ)) (st : PushState ω σ),
    ∃ rs, (olds.foldl (updateStep c) st).server = st.server.execAll rs ∧ ∀ k, Request.delete k ∉ rs
  | [], _ => ⟨[], rfl, fun _ h => nomatch h⟩
  | old :: olds, st => by
    obtain ⟨rs, hs, hrs⟩ := updates_no_delete c olds (updateStep c st old)
    refine ⟨(updateRequest c st.generated old).toList ++ rs, ?_, fun k hk => ?_⟩
    · rw [List.foldl_cons, hs, (updateStep_eq c st old).1, ApiServer.execAll_append]
    · rcases List.mem_append.mp hk with hk | hk
      · obtain ⟨value, -, hv⟩ := Option.bind_eq_some_iff.mp (Option.mem_toList.mp hk)
        split at hv <;> cases hv
      · exact hrs k hk

/-- The requests of the three loops. -/
def requests (c : PushConfig ω σ) (o : Oracle) (generated : GoMap String ω)
    (olds : List (ObjectKey × Object σ)) : List (Request ObjectKey σ) :=
  olds.filterMap (deleteRequest c generated) ++ (olds.filterMap (updateRequest c generated) ++
    ((o.at "new").range (left c generated olds)).map fun e => createRequest c e.2)

theorem server_pushObjects {c : PushConfig ω σ} {o : Oracle} {generated : GoMap String ω}
    {server : ApiServer.Server ObjectKey σ} (hup : server.fails server.calls = false)
    (hn : ((existing o server).map (oldKey c)).Nodup) :
    (pushObjects c o generated server).2 =
      { server with calls := server.calls + 1 }.execAll (requests c o generated (existing o server)) := by
  have hl : (server.list (o.listOrder ["existing"]) isManaged).1.getD [] = existing o server := by
    simp [ApiServer.Server.list, hup, existing]
  unfold pushObjects requests
  simp only [hl]
  set st : PushState ω σ := ⟨none, generated, (server.list (o.listOrder ["existing"]) isManaged).2⟩
  obtain ⟨hs, hg⟩ := server_deletes c (existing o server) st
  obtain ⟨hs', hg'⟩ := server_updates c (existing o server) ((existing o server).foldl (deleteStep c) st) hn
  rw [server_creates, hs', hg', hs, hg, ← ApiServer.execAll_append, ← ApiServer.execAll_append, List.map_map]
  rfl

/-! ## Each object is named once -/

section

variable {c : PushConfig ω σ} {o : Oracle} {generated : GoMap String ω}
  {server : ApiServer.Server ObjectKey σ}

variable (hd : Distinct c generated server.objects)
include hd

theorem mem_updates {r : Request ObjectKey σ} :
    r ∈ (existing o server).filterMap (updateRequest c generated) ↔
      ∃ old ∈ existing o server, ∃ v, generated.lookup (oldKey c old) = some v ∧
        (c.object v).spec ≠ old.2.spec ∧ r = .update old.1 managerLabels (c.object v).spec
          (if c.carriesVersion then old.2.resourceVersion else 0) := by
  rw [List.mem_filterMap]
  refine exists_congr fun old => and_congr_right fun hold => ?_
  unfold updateRequest
  cases hv : generated.lookup (oldKey c old) with
  | none => simp
  | some v =>
    by_cases he : (c.object v).spec = old.2.spec
    · simp [he]
    · rw [Option.bind_some, if_neg he, object_key hd hold hv]
      refine ⟨fun h => ⟨v, rfl, he, (Option.some.inj h).symm⟩, fun ⟨v', e, _, hr⟩ => ?_⟩
      rw [hr, Option.some.inj e]

omit [DecidableEq σ] hd in
theorem keys_deletes_sublist :
    (((existing o server).filterMap (deleteRequest c generated)).map Request.key).Sublist
      ((existing o server).map Prod.fst) := by
  rw [List.map_filterMap]
  refine Go.filterMap_sublist_map fun old _ => ?_
  unfold deleteRequest
  split
  · exact .inr rfl
  · exact .inl rfl

theorem keys_updates_sublist :
    (((existing o server).filterMap (updateRequest c generated)).map Request.key).Sublist
      ((existing o server).map Prod.fst) := by
  rw [List.map_filterMap]
  refine Go.filterMap_sublist_map fun old hold => ?_
  unfold updateRequest
  cases hv : generated.lookup (oldKey c old) with
  | none => exact .inl rfl
  | some v =>
    rw [Option.bind_some]
    split
    · exact .inl rfl
    · exact .inr (congrArg some (object_key hd hold hv))

omit [DecidableEq σ] in
theorem nodup_creates :
    ((((o.at "new").range (left c generated (existing o server))).map
      fun e => createRequest c e.2).map Request.key).Nodup := by
  refine List.Nodup.of_map (fun k : ObjectKey => c.mapKey k.name k.namespace_) ?_
  rw [List.map_map, List.map_map]
  refine (List.map_congr_left fun e he => ?_) ▸ GoMap.nodup_range _ (left c generated (existing o server))
  exact hd.keyed _ _ ((lookup_left hd).mp (GoMap.mem_range.mp he)).1

omit [DecidableEq σ] in
/-- Only objects that do not exist are created. -/
theorem creates_fresh : ∀ k ∈ (existing o server).map Prod.fst,
    k ∉ (((o.at "new").range (left c generated (existing o server))).map
      fun e => createRequest c e.2).map Request.key := by
  intro k hk hk'
  obtain ⟨r, hr, rfl⟩ := List.mem_map.mp hk'
  obtain ⟨mk, v, ⟨-, hne⟩, rfl⟩ := (mem_creates hd).mp hr
  exact hne hk

theorem nodup_requests : ((requests c o generated (existing o server)).map Request.key).Nodup := by
  have hk : ((existing o server).map Prod.fst).Nodup := ApiServer.nodup_selected _ _ _
  have hdel := @keys_deletes_sublist _ _ c o generated server
  have hupd := keys_updates_sublist (o := o) hd
  rw [requests, List.map_append, List.map_append]
  refine List.Nodup.append (hk.sublist hdel) (List.Nodup.append (hk.sublist hupd) (nodup_creates hd) ?_) ?_
  · exact fun k hk hk' => creates_fresh hd k (hupd.subset hk) hk'
  · intro k hk hk'
    rcases List.mem_append.mp hk' with hk' | hk'
    · -- A deleted object was not generated, an updated one was.
      obtain ⟨r, hr, rfl⟩ := List.mem_map.mp hk
      obtain ⟨old, -, hnone, rfl⟩ := mem_deletes.mp hr
      obtain ⟨r', hr', he⟩ := List.mem_map.mp hk'
      obtain ⟨old', -, v, hsome, -, rfl⟩ := (mem_updates hd).mp hr'
      rw [oldKey_congr c he, hnone] at hsome
      cases hsome
    · exact creates_fresh hd k (hdel.subset hk) hk'

end

theorem mem_requests {c : PushConfig ω σ} {o : Oracle} {generated : GoMap String ω}
    {server : ApiServer.Server ObjectKey σ} (hd : Distinct c generated server.objects)
    {r : Request ObjectKey σ} :
    r ∈ requests c o generated (existing o server) ↔
      (∃ old ∈ existing o server, generated.lookup (oldKey c old) = none ∧ r = .delete old.1) ∨
      (∃ old ∈ existing o server, ∃ v, generated.lookup (oldKey c old) = some v ∧
        (c.object v).spec ≠ old.2.spec ∧ r = .update old.1 managerLabels (c.object v).spec
          (if c.carriesVersion then old.2.resourceVersion else 0)) ∨
      ∃ mk v, (generated.lookup mk = some v ∧ (c.object v).key ∉ (existing o server).map Prod.fst) ∧
        r = createRequest c v := by
  rw [requests, List.mem_append, List.mem_append, mem_deletes, mem_updates hd, mem_creates hd]

/-- An object that is as generated is not named. -/
theorem not_named {c : PushConfig ω σ} {o : Oracle} {generated : GoMap String ω}
    {server : ApiServer.Server ObjectKey σ} (hd : Distinct c generated server.objects)
    {old : ObjectKey × Object σ} (hold : old ∈ existing o server) {v : ω}
    (hv : generated.lookup (oldKey c old) = some v) (he : (c.object v).spec = old.2.spec) :
    old.1 ∉ (requests c o generated (existing o server)).map Request.key := by
  intro hn
  obtain ⟨r, hr, hk⟩ := List.mem_map.mp hn
  rcases (mem_requests hd).mp hr with ⟨old', -, hnone, rfl⟩ | ⟨old', hold', v', hv', hne, rfl⟩ | ⟨mk, v', ⟨-, hnot⟩, rfl⟩
  · rw [oldKey_congr c hk, hv] at hnone
    cases hnone
  · have hk : old'.1 = old.1 := hk
    have h2 : old'.2 = old.2 := by
      have := (mem_existing.mp hold').1
      rw [hk, (mem_existing.mp hold).1] at this
      exact (Option.some.inj this).symm
    rw [oldKey_congr c hk, hv] at hv'
    exact hne (by rw [h2, ← Option.some.inj hv', he])
  · exact hnot (List.mem_map.mpr ⟨old, hold, hk.symm⟩)

/-! ## Convergence -/

theorem isManaged_of_labels {σ : Type} {ob : Object σ} (h : ob.labels = managerLabels) : isManaged ob = true := by
  unfold isManaged; rw [h]; decide

/-- After the push: the managed objects are the generated ones, with the
generated specifications, and the other objects are what they were. -/
structure Converged (c : PushConfig ω σ) (generated : GoMap String ω)
    (before after : AList fun _ : ObjectKey => Object σ) : Prop where
  managed : ∀ k o, after.lookup k = some o → isManaged o = true →
    ∃ mk v, generated.lookup mk = some v ∧ (c.object v).key = k ∧ o.spec = (c.object v).spec
  generated : ∀ mk v, generated.lookup mk = some v →
    ∃ o, after.lookup (c.object v).key = some o ∧ isManaged o = true ∧ o.spec = (c.object v).spec
  unmanaged : ∀ k o, isManaged o = false → (after.lookup k = some o ↔ before.lookup k = some o)

/-- The writes asked for between two states of a server. -/
def newWrites (before after : ApiServer.Server ObjectKey σ) : List (Request ObjectKey σ × Bool) :=
  after.log.drop before.log.length

/-- What a push deletes was not generated. -/
theorem not_generated_of_delete {c : PushConfig ω σ} {o : Oracle} {generated : GoMap String ω}
    {server : ApiServer.Server ObjectKey σ} {k : ObjectKey} {accepted : Bool}
    (h : (Request.delete k, accepted) ∈ newWrites server (pushObjects c o generated server).2) :
    generated.lookup (c.mapKey k.name k.namespace_) = none := by
  unfold pushObjects at h
  simp only at h
  generalize hl : (server.list (o.listOrder ["existing"]) isManaged).1.getD [] = olds at h
  set st : PushState ω σ := ⟨none, generated, (server.list (o.listOrder ["existing"]) isManaged).2⟩ with hst
  obtain ⟨rs, hs, hrs⟩ := updates_no_delete c olds (olds.foldl (deleteStep c) st)
  rw [newWrites, server_creates, hs, (server_deletes c olds st).1, ← ApiServer.execAll_append,
    ← ApiServer.execAll_append, ApiServer.log_execAll, show st.server.log = server.log from rfl,
    List.drop_left] at h
  rcases List.mem_append.mp (List.of_mem_zip h).1 with h | h
  · obtain ⟨old, -, hold⟩ := List.mem_filterMap.mp h
    unfold deleteRequest at hold
    split at hold
    · cases hold; exact Option.isNone_iff_eq_none.mp ‹_›
    · cases hold
  · rcases List.mem_append.mp h with h | h
    · exact absurd h (hrs k)
    · obtain ⟨value, -, hv⟩ := List.mem_map.mp h
      cases hv

section

variable {c : PushConfig ω σ} {o : Oracle} {generated : GoMap String ω}
  {server : ApiServer.Server ObjectKey σ} (hd : Distinct c generated server.objects)
  (hup : server.fails server.calls = false)
include hd hup

theorem newWrites_pushObjects :
    newWrites server (pushObjects c o generated server).2 =
      (requests c o generated (existing o server)).zip
        ({ server with calls := server.calls + 1 }.outcomes (requests c o generated (existing o server))) := by
  rw [newWrites, server_pushObjects hup (nodup_oldKeys hd), ApiServer.log_execAll]
  exact List.drop_left

theorem outcomes_accepted
    (hok : ∀ w ∈ newWrites server (pushObjects c o generated server).2, w.2 = true) :
    ∀ b ∈ { server with calls := server.calls + 1 }.outcomes (requests c o generated (existing o server)),
      b = true := by
  rw [newWrites_pushObjects hd hup] at hok
  have hzip := List.map_snd_zip (ApiServer.length_outcomes (requests c o generated (existing o server))
    { server with calls := server.calls + 1 }).le
  intro b hb
  rw [← hzip, List.mem_map] at hb
  obtain ⟨w, hw, rfl⟩ := hb
  exact hok w hw

variable (hok : ∀ w ∈ newWrites server (pushObjects c o generated server).2, w.2 = true)
include hok

/-- Each request was admitted by the objects before, and has its effect. -/
theorem request_done {r : Request ObjectKey σ} (hr : r ∈ requests c o generated (existing o server)) :
    Admits server.objects r = true ∧
      ((pushObjects c o generated server).2.objects.lookup r.key).map (fun o => (o.labels, o.spec)) = r.result := by
  rw [server_pushObjects hup (nodup_oldKeys hd)]
  exact ApiServer.execAll_accepted (nodup_requests hd) (outcomes_accepted hd hup hok) r hr

omit hok in
theorem lookup_unnamed {k : ObjectKey}
    (hk : k ∉ (requests c o generated (existing o server)).map Request.key) :
    (pushObjects c o generated server).2.objects.lookup k = server.objects.lookup k := by
  rw [server_pushObjects hup (nodup_oldKeys hd)]
  exact ApiServer.lookup_execAll_of_notMem _ hk

theorem managed_after {k : ObjectKey} {ob : Object σ}
    (hk : (pushObjects c o generated server).2.objects.lookup k = some ob) (hm : isManaged ob = true) :
    ∃ mk v, generated.lookup mk = some v ∧ (c.object v).key = k ∧ ob.spec = (c.object v).spec := by
  by_cases hn : k ∈ (requests c o generated (existing o server)).map Request.key
  · obtain ⟨r, hr, rfl⟩ := List.mem_map.mp hn
    have hres := (request_done hd hup hok hr).2
    rw [hk, Option.map_some] at hres
    rcases (mem_requests hd).mp hr with ⟨old, -, -, rfl⟩ | ⟨old, hold, v, hv, -, rfl⟩ | ⟨mk, v, ⟨hv, -⟩, rfl⟩
    · cases hres
    · exact ⟨_, v, hv, object_key hd hold hv, (Prod.ext_iff.mp (Option.some.inj hres)).2⟩
    · exact ⟨mk, v, hv, rfl, (Prod.ext_iff.mp (Option.some.inj hres)).2⟩
  · -- A managed object that no request names was generated as it is.
    have hold : (k, ob) ∈ existing o server := mem_existing.mpr ⟨(lookup_unnamed hd hup hn).symm.trans hk, hm⟩
    cases hv : generated.lookup (oldKey c (k, ob)) with
    | none => exact absurd (List.mem_map_of_mem ((mem_requests hd).mpr (.inl ⟨_, hold, hv, rfl⟩))) hn
    | some v =>
      by_cases he : (c.object v).spec = ob.spec
      · exact ⟨_, v, hv, object_key hd hold hv, he.symm⟩
      · exact absurd (List.mem_map_of_mem ((mem_requests hd).mpr (.inr (.inl ⟨_, hold, v, hv, he, rfl⟩)))) hn

theorem written_after {r : Request ObjectKey σ} (hr : r ∈ requests c o generated (existing o server)) {spec : σ}
    (hres : r.result = some (managerLabels, spec)) :
    ∃ ob, (pushObjects c o generated server).2.objects.lookup r.key = some ob ∧ isManaged ob = true ∧
      ob.spec = spec := by
  have h := (request_done hd hup hok hr).2
  rw [hres] at h
  obtain ⟨ob, hob, heq⟩ := Option.map_eq_some_iff.mp h
  obtain ⟨hl, hs⟩ := Prod.ext_iff.mp heq
  exact ⟨ob, hob, isManaged_of_labels hl, hs⟩

theorem generated_after {mk : String} {v : ω} (hv : generated.lookup mk = some v) :
    ∃ ob, (pushObjects c o generated server).2.objects.lookup (c.object v).key = some ob ∧
      isManaged ob = true ∧ ob.spec = (c.object v).spec := by
  by_cases hin : (c.object v).key ∈ (existing o server).map Prod.fst
  · obtain ⟨old, hold, hk⟩ := List.mem_map.mp hin
    have hv' : generated.lookup (oldKey c old) = some v := by
      rw [oldKey, hk, ← hv, hd.keyed mk v hv]; rfl
    rw [← hk]
    by_cases he : (c.object v).spec = old.2.spec
    · refine ⟨old.2, ?_, (mem_existing.mp hold).2, he.symm⟩
      rw [lookup_unnamed hd hup (not_named hd hold hv' he)]
      exact (mem_existing.mp hold).1
    · exact written_after hd hup hok ((mem_requests hd).mpr (.inr (.inl ⟨old, hold, v, hv', he, rfl⟩))) rfl
  · exact written_after hd hup hok ((mem_requests hd).mpr (.inr (.inr ⟨mk, v, ⟨hv, hin⟩, rfl⟩))) rfl

/-- A request leaves no unmanaged object, and was admitted where there was none. -/
theorem not_unmanaged {r : Request ObjectKey σ} (hr : r ∈ requests c o generated (existing o server))
    {ob : Object σ} (hm : isManaged ob = false) :
    (pushObjects c o generated server).2.objects.lookup r.key ≠ some ob ∧ server.objects.lookup r.key ≠ some ob := by
  obtain ⟨hadm, hres⟩ := request_done hd hup hok hr
  have hold : ∀ old ∈ existing o server, server.objects.lookup old.1 ≠ some ob := fun old hold h => by
    obtain ⟨hl, hmo⟩ := mem_existing.mp hold
    rw [hl, Option.some.injEq] at h
    rw [h, hm] at hmo; cases hmo
  have hlabels : ∀ spec, r.result = some (managerLabels, spec) →
      (pushObjects c o generated server).2.objects.lookup r.key ≠ some ob := fun spec hspec h => by
    rw [h, hspec] at hres
    rw [isManaged_of_labels (Prod.ext_iff.mp (Option.some.inj hres)).1] at hm; cases hm
  rcases (mem_requests hd).mp hr with ⟨old, ho, -, rfl⟩ | ⟨old, ho, v, -, -, rfl⟩ | ⟨mk, v, -, rfl⟩
  · exact ⟨fun h => (by rw [h] at hres; cases hres), hold old ho⟩
  · exact ⟨hlabels _ rfl, hold old ho⟩
  · refine ⟨hlabels _ rfl, fun h => ?_⟩
    rw [createRequest, Admits] at hadm
    rw [createRequest, Request.key] at h
    rw [h] at hadm; cases hadm

/-- If all calls of a push succeed, it converges. -/
theorem pushObjects_converged : Converged c generated server.objects (pushObjects c o generated server).2.objects where
  managed _ _ := managed_after hd hup hok
  generated _ _ := generated_after hd hup hok
  unmanaged k ob hm := by
    by_cases hn : k ∈ (requests c o generated (existing o server)).map Request.key
    · obtain ⟨r, hr, rfl⟩ := List.mem_map.mp hn
      obtain ⟨h, h'⟩ := not_unmanaged hd hup hok hr hm
      exact ⟨fun e => absurd e h, fun e => absurd e h'⟩
    · rw [lookup_unnamed hd hup hn]

/-- No write is asked for of an object whose stored specification is the
generated one. -/
theorem pushObjects_no_write {w : Request ObjectKey σ × Bool}
    (hw : w ∈ newWrites server (pushObjects c o generated server).2) {ob : Object σ}
    (hob : server.objects.lookup w.1.key = some ob) {mk : String} {v : ω} (hv : generated.lookup mk = some v)
    (hk : (c.object v).key = w.1.key) : ob.spec ≠ (c.object v).spec := by
  have hr : w.1 ∈ requests c o generated (existing o server) := by
    rw [newWrites_pushObjects hd hup] at hw
    exact (List.of_mem_zip hw).1
  have hadm := (request_done hd hup hok hr).1
  have hmk : mk = c.mapKey w.1.key.name w.1.key.namespace_ := by rw [← hk]; exact hd.keyed mk v hv
  rcases (mem_requests hd).mp hr with ⟨old, -, hnone, e⟩ | ⟨old, hold, v', hv', hne, e⟩ | ⟨mk', v', -, e⟩
  · have hmk : mk = oldKey c old := by rw [hmk, e]; rfl
    rw [hmk, hnone] at hv; cases hv
  · have hmk : mk = oldKey c old := by rw [hmk, e]; rfl
    rw [e] at hob
    rw [hmk, hv', Option.some.injEq] at hv
    have h2 : old.2 = ob := Option.some.inj ((mem_existing.mp hold).1.symm.trans hob)
    exact fun h => hne (by rw [h2, h, hv])
  · rw [e, createRequest, Admits] at hadm
    rw [e, createRequest, Request.key] at hob
    rw [hob] at hadm; cases hadm

end

/-! ## Nothing to write -/

/-- The managed objects are the generated ones. -/
structure Settled (c : PushConfig ω σ) (generated : GoMap String ω)
    (objects : AList fun _ : ObjectKey => Object σ) : Prop where
  managed : ∀ k o, objects.lookup k = some o → isManaged o = true →
    ∃ mk v, generated.lookup mk = some v ∧ (c.object v).key = k ∧ o.spec = (c.object v).spec
  generated : ∀ mk v, generated.lookup mk = some v →
    ∃ o, objects.lookup (c.object v).key = some o ∧ isManaged o = true ∧ o.spec = (c.object v).spec

omit [DecidableEq σ] in
theorem Converged.settled {c : PushConfig ω σ} {generated : GoMap String ω}
    {before after : AList fun _ : ObjectKey => Object σ} (h : Converged c generated before after) :
    Settled c generated after := ⟨h.managed, h.generated⟩

/-- A push writes nothing if and only if the managed objects are the generated
ones. -/
theorem pushObjects_silent_iff {c : PushConfig ω σ} {o : Oracle} {generated : GoMap String ω}
    {server : ApiServer.Server ObjectKey σ} (hd : Distinct c generated server.objects)
    (hup : server.fails server.calls = false) :
    newWrites server (pushObjects c o generated server).2 = [] ↔ Settled c generated server.objects := by
  have hlen := ApiServer.length_outcomes (requests c o generated (existing o server))
    { server with calls := server.calls + 1 }
  rw [newWrites_pushObjects hd hup, ← List.length_eq_zero_iff, List.length_zip, hlen, min_self,
    List.length_eq_zero_iff, List.eq_nil_iff_forall_not_mem]
  refine ⟨fun h => ⟨fun k ob hk hm => ?_, fun mk v hv => ?_⟩, fun h r hr => ?_⟩
  · have hold : (k, ob) ∈ existing o server := mem_existing.mpr ⟨hk, hm⟩
    cases hv : generated.lookup (oldKey c (k, ob)) with
    | none => exact absurd ((mem_requests hd).mpr (.inl ⟨_, hold, hv, rfl⟩)) (h _)
    | some v =>
      refine ⟨_, v, hv, object_key hd hold hv, ?_⟩
      by_contra hne
      exact h _ ((mem_requests hd).mpr (.inr (.inl ⟨_, hold, v, hv, fun e => hne e.symm, rfl⟩)))
  · by_cases hin : (c.object v).key ∈ (existing o server).map Prod.fst
    · obtain ⟨old, hold, hk⟩ := List.mem_map.mp hin
      have hv' : generated.lookup (oldKey c old) = some v := by
        rw [oldKey, hk, ← hv, hd.keyed mk v hv]; rfl
      obtain ⟨hl, hm⟩ := mem_existing.mp hold
      refine ⟨old.2, hk ▸ hl, hm, ?_⟩
      by_contra hne
      exact h _ ((mem_requests hd).mpr (.inr (.inl ⟨old, hold, v, hv', fun e => hne e.symm, rfl⟩)))
    · exact absurd ((mem_requests hd).mpr (.inr (.inr ⟨mk, v, ⟨hv, hin⟩, rfl⟩))) (h _)
  · rcases (mem_requests hd).mp hr with ⟨old, hold, hnone, rfl⟩ | ⟨old, hold, v, hv, hne, rfl⟩ | ⟨mk, v, ⟨hv, hnot⟩, rfl⟩
    · obtain ⟨hl, hm⟩ := mem_existing.mp hold
      obtain ⟨mk, v, hv, hk, -⟩ := h.managed _ _ hl hm
      have hmk : mk = oldKey c old := by rw [oldKey, ← hk]; exact hd.keyed mk v hv
      rw [← hmk, hv] at hnone
      cases hnone
    · obtain ⟨hl, hm⟩ := mem_existing.mp hold
      obtain ⟨ob, hob, -, hspec⟩ := h.generated _ v hv
      rw [object_key hd hold hv, hl, Option.some.injEq] at hob
      exact hne (by rw [hob, hspec])
    · obtain ⟨ob, hob, hm, -⟩ := h.generated mk v hv
      exact hnot (List.mem_map.mpr ⟨((c.object v).key, ob), mem_existing.mpr ⟨hob, hm⟩, rfl⟩)

/-- Two maps generate the same objects. -/
def SameObjects (c : PushConfig ω σ) (m m' : GoMap String ω) : Prop :=
  ∀ mk, (m.lookup mk).map c.object = (m'.lookup mk).map c.object

section

variable {c : PushConfig ω σ} {m m' : GoMap String ω} {objects : AList fun _ : ObjectKey => Object σ}

omit [DecidableEq σ] in
theorem Desired.eq_of_key {d d' : Desired σ} (hkey : d.key = d'.key) (hspec : d.spec = d'.spec) : d = d' := by
  rcases d with ⟨ns, name, spec⟩
  rcases d' with ⟨ns', name', spec'⟩
  cases hkey
  cases hspec
  rfl

omit [DecidableEq σ] in
/-- Each object of one map is managed, so the other map has it. -/
theorem Settled.lookup_eq (h : Settled c m objects) (h' : Settled c m' objects) (hd : Distinct c m objects)
    (hd' : Distinct c m' objects) {mk : String} {v : ω} (hv : m.lookup mk = some v) :
    (m'.lookup mk).map c.object = some (c.object v) := by
  obtain ⟨ob, hob, hm, hspec⟩ := h.generated mk v hv
  obtain ⟨mk', v', hv', hkey, hspec'⟩ := h'.managed _ ob hob hm
  have hobj : c.object v' = c.object v := Desired.eq_of_key hkey (hspec'.symm.trans hspec)
  have hmk : mk = mk' := by rw [hd.keyed mk v hv, hd'.keyed mk' v' hv', hobj]
  rw [hmk, hv', Option.map_some, hobj]

omit [DecidableEq σ] in
theorem Settled.congr (h : Settled c m objects) (hs : SameObjects c m m') : Settled c m' objects := by
  refine ⟨fun k ob hk hm => ?_, fun mk v' hv' => ?_⟩
  · obtain ⟨mk, v, hv, hkey, hspec⟩ := h.managed k ob hk hm
    have hmk := hs mk
    rw [hv, Option.map_some] at hmk
    obtain ⟨v', hv', hobj⟩ := Option.map_eq_some_iff.mp hmk.symm
    exact ⟨mk, v', hv', by rw [hobj, hkey], by rw [hobj, hspec]⟩
  · have hmk := hs mk
    rw [hv', Option.map_some] at hmk
    obtain ⟨v, hv, hobj⟩ := Option.map_eq_some_iff.mp hmk
    rw [← hobj]
    exact h.generated mk v hv

omit [DecidableEq σ] in
/-- The managed objects are those of one map only. -/
theorem settled_iff (hd : Distinct c m objects) (hd' : Distinct c m' objects) (h : Settled c m objects) :
    Settled c m' objects ↔ SameObjects c m m' := by
  refine ⟨fun h' mk => ?_, h.congr⟩
  cases hv : m.lookup mk with
  | some v => exact (h.lookup_eq h' hd hd' hv).symm
  | none =>
    cases hv' : m'.lookup mk with
    | none => rfl
    | some v' =>
      have hback := h'.lookup_eq h hd' hd hv'
      rw [hv] at hback
      cases hback

end

/-! ## The error -/

/-- What every write keeps, a push keeps. -/
theorem pushObjects_invariant (c : PushConfig ω σ) (o : Oracle) (generated : GoMap String ω)
    {server : ApiServer.Server ObjectKey σ} {P : Option String → ApiServer.Server ObjectKey σ → Prop}
    (h0 : P none (server.list (o.listOrder ["existing"]) isManaged).2)
    (hwrite : ∀ (st : PushState ω σ) r, P st.err st.server → P (st.write r).err (st.write r).server) :
    P (pushObjects c o generated server).1 (pushObjects c o generated server).2 := by
  have loop {α : Type} {step : PushState ω σ → α → PushState ω σ} (xs : List α) {st : PushState ω σ}
      (h : P st.err st.server) (hstep : ∀ st x, P st.err st.server → P (step st x).err (step st x).server) :
      P (xs.foldl step st).err (xs.foldl step st).server :=
    List.foldlRecOn xs step (motive := fun st => P st.err st.server) h fun st h x _ => hstep st x h
  refine loop _ (loop _ (loop _ h0 fun st old h => ?_) fun st old h => ?_) fun st v h => hwrite st _ h
  · unfold deleteStep
    split
    · exact hwrite st _ h
    · exact h
  · unfold updateStep
    dsimp only
    split
    · exact h
    · split
      · exact h
      · exact hwrite st _ h

/-- A push calls the server. -/
theorem calls_pushObjects (c : PushConfig ω σ) (o : Oracle) (generated : GoMap String ω)
    (server : ApiServer.Server ObjectKey σ) : server.calls < (pushObjects c o generated server).2.calls := by
  refine pushObjects_invariant c o generated (P := fun _ s => server.calls < s.calls) (Nat.lt_succ_self _)
    fun st r h => Nat.lt_trans h ?_
  show st.server.calls < (st.server.exec r).2.calls
  unfold ApiServer.Server.exec
  split <;> exact Nat.lt_succ_self _

/-- A push returns the error of its last write. -/
theorem err_pushObjects (c : PushConfig ω σ) (o : Oracle) (generated : GoMap String ω)
    (server : ApiServer.Server ObjectKey σ) :
    (pushObjects c o generated server).1 = none ↔
      ∀ w ∈ (newWrites server (pushObjects c o generated server).2).getLast?, w.2 = true := by
  refine (pushObjects_invariant c o generated (P := fun err s => server.log.length ≤ s.log.length ∧
    (err = none ↔ ∀ w ∈ (s.log.drop server.log.length).getLast?, w.2 = true)) ?_ fun st r h => ?_).2
  · exact ⟨le_refl _, by simp [ApiServer.Server.list]⟩
  · have hlog : (st.write r).server.log = st.server.log ++ [(r, (st.server.exec r).1)] := ApiServer.log_exec _ _
    refine ⟨by rw [hlog, List.length_append]; exact Nat.le_add_right_of_le h.1, ?_⟩
    rw [hlog, List.drop_append_of_le_length h.1, List.getLast?_concat]
    simp only [PushState.write, Option.mem_def, Option.some.injEq, forall_eq']
    cases (st.server.exec r).1 <;> simp

end Aeraki.Proof.EnvoyFilter
