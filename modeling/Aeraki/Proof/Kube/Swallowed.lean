import Aeraki.Proof.Kube.Vip

/-!
# Calls of `Reconcile` that return no error

`autoAllocateIP` logs the failure of a call to the API server and returns, and
`Reconcile` then returns no error, so that nothing is tried again. A call that
returns no error leaves its ServiceEntry with an address, and a VIP in the
table, if and only if the last call it made to the API server did not fail
(`addressed_iff`): the failures before the last one are those of
`nextAvailableIP`, which goes on to the next address.
-/

namespace Aeraki.Proof.Kube

open Aeraki.Impl (ObjectKey)
open Aeraki.Impl.Kube

/-- The ServiceEntry has a first address, and if that is a VIP the table gives
it to the key. -/
def HoldsAddress (key : ObjectKey) (f : String → Option ObjectKey) (se : ServiceEntry) : Prop :=
  ∃ ip, se.addresses.head? = some ip ∧ (Go.hasPrefix ip "240.240" = true → f ip = some key)

/-- The same of the controller's table. -/
def Addressed (key : ObjectKey) (serviceIPs : GoMap String ObjectKey) (se : ServiceEntry) : Prop :=
  HoldsAddress key (fun ip => serviceIPs.lookup ip) se

theorem Addressed.of_erase {key : ObjectKey} {serviceIPs : GoMap String ObjectKey} {se : ServiceEntry} {ip : String}
    (h : Addressed key (serviceIPs.erase ip) se) : Addressed key serviceIPs se := by
  obtain ⟨r, hr, h⟩ := h
  refine ⟨r, hr, fun hp => ?_⟩
  have he : (serviceIPs.erase ip).lookup r = some key := h hp
  rw [GoMap.lookup_erase_eq] at he
  split at he
  · cases he
  · exact he

/-- Of the answers `turns`, the last one that was given fails, or does not. -/
def Last (turns : List Turn) (fails : Bool) (w : World) : Prop :=
  ∃ past t, turns = past ++ t :: w.turns ∧ t.fails = fails

theorem Last.unique {turns : List Turn} {b b' : Bool} {w : World} (h : Last turns b w) (h' : Last turns b' w) :
    b = b' := by
  obtain ⟨past, t, rfl, rfl⟩ := h
  obtain ⟨past', t', he, rfl⟩ := h'
  rw [List.append_cons, List.append_cons past', List.append_left_inj] at he
  obtain ⟨-, ht⟩ := List.append_inj' he rfl
  cases ht
  rfl

section

variable {turns : List Turn} {key : ObjectKey}

/-- While a call runs: no user acts on its object, the stored object is `st`,
and `T` holds of the table. -/
structure Held (turns : List Turn) (key : ObjectKey) (st : Option ServiceEntry)
    (T : GoMap String ObjectKey → Prop) (w : World) : Prop where
  others : ∀ t ∈ w.turns, ∀ op ∈ t.users, op.key ≠ key
  stored : w.objects.lookup key = st
  table : T w.ctrl.serviceIPs
  rest : ∃ past, turns = past ++ w.turns

variable {st : Option ServiceEntry} {T : GoMap String ObjectKey → Prop}

theorem users_other : ∀ (ops : List UserOp) (w : World), (∀ op ∈ ops, op.key ≠ key) →
    (w.users ops).objects.lookup key = w.objects.lookup key ∧ (w.users ops).ctrl = w.ctrl
  | [], _, _ => ⟨rfl, rfl⟩
  | op :: ops, w, h => by
    obtain ⟨hop, hops⟩ := List.forall_mem_cons.mp h
    obtain ⟨ho, hc⟩ := users_other ops (w.user op) hops
    have hstep : (w.user op).objects.lookup key = w.objects.lookup key := by
      rcases user_cases w op with e | ⟨-, -, -, hl⟩
      · rw [e]
      · exact hl key hop.symm
    exact ⟨ho.trans hstep, hc.trans (user_ctrl w op)⟩

theorem answer_held :
    Prog.Triple (Held turns key st T) answer (fun b w => Held turns key st T w ∧ Last turns (!b) w) fun _ => True := by
  intro w h
  rcases w with ⟨ob, n, c, _ | ⟨⟨ops, fails⟩, ts⟩, tr⟩
  · trivial
  · obtain ⟨hops, hts⟩ := List.forall_mem_cons.mp h.others
    obtain ⟨past, hpast⟩ := h.rest
    obtain ⟨ho, hc⟩ := users_other ops ⟨ob, n, c, ⟨ops, fails⟩ :: ts, tr⟩ hops
    have hrest : turns = (past ++ [⟨ops, fails⟩]) ++ ts := by rw [hpast, List.append_assoc]; rfl
    have hkept : ∀ tr', Held turns key st T { World.users ⟨ob, n, c, ⟨ops, fails⟩ :: ts, tr⟩ ops with
        turns := ts, trace := tr' } := fun _ => ⟨hts, ho.trans h.stored, hc ▸ h.table, _, hrest⟩
    cases fails with
    | true => exact ⟨hkept _, past, _, hpast, rfl⟩
    | false => exact ⟨hkept _, past, _, hpast, rfl⟩

theorem get_held (k : ObjectKey) :
    Prog.Triple (Held turns key st T) (get k)
      (fun r w => (Held turns key st T w ∧ Last turns (decide (r = .failed)) w) ∧
        (k = key → r ≠ .failed → r = st.elim .notFound .found)) fun _ => True := by
  refine get_rule answer_held (fun se w h hl => ⟨h, ?_⟩) (fun w h hl => ⟨h, ?_⟩) fun w h => ⟨h, fun _ hf => absurd rfl hf⟩
  · rintro rfl -
    rw [← h.1.stored, hl]
    rfl
  · rintro rfl -
    rw [← h.1.stored, hl]
    rfl

/-- An update of the object that was read fails if the API server says so. -/
theorem update_held {old : ServiceEntry} (se : ServiceEntry) (hv : old.resourceVersion = se.resourceVersion) :
    Prog.Triple (Held turns key (some old) T) (update key se)
      (fun b w => (∃ v, Held turns key (some (if b then { se with resourceVersion := v } else old)) T w) ∧
        Last turns (!b) w) fun _ => True := by
  refine update_rule answer_held (fun w h => ?_) (fun w h hc => absurd hv (hc old h.1.stored)) fun w h => ⟨⟨0, h.1⟩, h.2⟩
  exact ⟨⟨w.nextVersion, h.1.others, Finmap.lookup_insert _, h.1.table, h.1.rest⟩, h.2⟩

theorem nextAvailableIP_held (hT : ∀ m ip, T m → T (m.erase ip)) :
    Prog.Triple (Held turns key st T) nextAvailableIP (fun _ => Held turns key st T) fun _ => True := by
  have hnext : Prog.Triple (Held turns key st T) getNextIP (fun _ => Held turns key st T) fun _ => True :=
    fun w h => ⟨h.others, h.stored, h.table, h.rest⟩
  have hlookup (ip : String) : Prog.Triple (Held turns key st T) (lookupIP ip) (fun _ => Held turns key st T)
      fun _ => True := fun w h => h
  have hget (k : ObjectKey) : Prog.Triple (Held turns key st T) (get k) (fun _ => Held turns key st T) fun _ => True :=
    (get_held k).conseq (fun _ h => h) fun _ _ h => h.1.1
  refine nextAvailableIP_rule (fun _ _ => trivial) hnext hlookup (fun _ _ h => h) (fun _ => hget)
    (fun ip => .update fun w h => ?_) (fun _ _ _ h => h) fun _ _ h => h
  exact ⟨h.others, h.stored, hT _ _ h.table, h.rest⟩

/-- The stored object, unless its resolution is NONE, is addressed if and only
if the last call did not fail. -/
def Done (turns : List Turn) (key : ObjectKey) (w : World) : Prop :=
  ∀ se, w.objects.lookup key = some se → se.resolution ≠ .NONE →
    (Addressed key w.ctrl.serviceIPs se ↔ Last turns false w)

theorem Done.answered {se : ServiceEntry} {w : World} (hs : w.objects.lookup key = some se)
    (ha : Addressed key w.ctrl.serviceIPs se) (hl : Last turns false w) : Done turns key w := by
  intro se' hs' _
  rw [hs, Option.some.injEq] at hs'
  exact ⟨fun _ => hl, fun _ => hs' ▸ ha⟩

theorem Done.failed {se : ServiceEntry} {w : World} (hs : w.objects.lookup key = some se)
    (ha : ¬ Addressed key w.ctrl.serviceIPs se) (hl : Last turns true w) : Done turns key w := by
  intro se' hs' _
  rw [hs, Option.some.injEq] at hs'
  exact ⟨fun h => absurd (hs' ▸ h) ha, fun h => absurd (h.unique hl) (by decide)⟩

theorem addressed_setIP {serviceIPs : GoMap String ObjectKey} {se : ServiceEntry} {ip : String} {rest : List String}
    (ha : se.addresses = ip :: rest) : Addressed key (serviceIPs.insert ip key) se :=
  ⟨ip, by rw [ha]; rfl, fun _ => Finmap.lookup_insert _⟩

/-- A new address is allocated for an object without one, or with another's. -/
theorem allocate_held {se : ServiceEntry} (rest : List String) :
    Prog.Triple (Held turns key (some se) fun m => ¬ Addressed key m se) (allocate key se rest)
      (fun _ => Done turns key) fun _ => True := by
  refine (nextAvailableIP_held fun _ _ h h' => h h'.of_erase).bind fun ip => ?_
  have hupdate := @update_held turns key (fun m => ¬ Addressed key m se) se { se with addresses := ip :: rest } rfl
  refine hupdate.bind fun b => ?_
  cases b with
  | false => exact .pure fun w ⟨⟨_, h⟩, hlast⟩ => .failed h.stored h.table hlast
  | true => exact .update fun w ⟨⟨_, h⟩, hlast⟩ => .answered h.stored (addressed_setIP rfl) hlast

/-- The world after the object was read. -/
def Read (turns : List Turn) (key : ObjectKey) (se : ServiceEntry) (w : World) : Prop :=
  Held turns key (some se) (fun _ => True) w ∧ Last turns false w

theorem autoAllocateIP_held (se : ServiceEntry) :
    Prog.Triple (Read turns key se) (autoAllocateIP key se) (fun _ => Done turns key) fun _ => True := by
  refine autoAllocateIP_rule (fun hr w h se' hs hr' => ?_) (fun hr ha => ?_) (fun ip rest hr ha hp w h => ?_)
    fun ip rest hr ha hp => ?_
  · rw [h.1.stored, Option.some.injEq] at hs
    exact absurd (hs ▸ hr) hr'
  · have hnone : ∀ m, ¬ Addressed key m se := by
      rintro m ⟨ip, hip, -⟩
      rw [ha] at hip
      cases hip
    exact (allocate_held []).conseq (fun w h => ⟨h.1.others, h.1.stored, hnone _, h.1.rest⟩) fun _ _ h => h
  · exact .answered h.1.stored ⟨ip, by rw [ha]; rfl, fun h => absurd h hp⟩ h.2
  · have hlookup : Prog.Triple (Read turns key se) (lookupIP ip)
        (fun found w => Read turns key se w ∧ w.ctrl.serviceIPs.lookup ip = found) fun _ => True :=
      fun w h => ⟨h, rfl⟩
    -- another object has the address, until this one gets it or a new one
    have htaken (k : ObjectKey) (he : k ≠ key) (m : GoMap String ObjectKey) (hm : m.lookup ip = some k) :
        ¬ Addressed key m se := by
      rintro ⟨r, hr, h⟩
      rw [ha] at hr
      cases hr
      exact he (Option.some.inj (hm.symm.trans (h hp)))
    have hget (k : ObjectKey) (he : k ≠ key) :=
      (@get_held turns key (some se) (fun m => ¬ Addressed key m se) k).conseq
        (fun w (h : Read turns key se w ∧ w.ctrl.serviceIPs.lookup ip = some k) =>
          ⟨h.1.1.others, h.1.1.stored, htaken k he _ h.2, h.1.1.rest⟩) fun _ _ h => h.1
    refine claimVip_rule hlookup (.update fun w h => ?_) (fun w h => ?_) hget (fun k _ => .update fun w h => ?_)
      (fun k se' _ => ?_) fun k _ w h => ?_
    · exact .answered h.1.1.stored (addressed_setIP ha) h.1.2
    · exact .answered h.1.1.stored ⟨ip, by rw [ha]; rfl, fun _ => h.2⟩ h.1.2
    · exact .answered h.1.stored (addressed_setIP ha) h.2
    · exact (allocate_held rest).conseq (fun _ h => h.1) fun _ _ h => h
    · exact .failed h.1.stored h.1.table h.2

/-- A call that returns no error. -/
theorem reconcile_held (key : ObjectKey) :
    Prog.Triple (Held turns key st fun _ => True) (reconcile key)
      (fun err w => err = none → Done turns key w) fun _ => True := by
  refine reconcile_rule (get_held key) (fun w h _ se hs _ => ?_) (fun _ _ h => nomatch h) (R := Read turns key)
    (fun se w h => ⟨⟨h.1.1.others, h.1.1.stored.trans ?_, trivial, h.1.1.rest⟩, h.1.2⟩) autoAllocateIP_held
    fun w h _ => h
  · have hst := h.2 rfl (by decide)
    rw [h.1.1.stored] at hs
    rw [hs] at hst
    cases hst
  · have hst := h.2 rfl (by simp)
    cases st with
    | none => cases hst
    | some se' =>
      cases hst
      rfl

end

/-- A call that returns no error, during which no user acts on its object,
leaves the object with an address, and its VIP in the table, if and only if the
last call to the API server did not fail. -/
theorem addressed_iff {key : ObjectKey} {w w' : World} {se : ServiceEntry}
    (hothers : ∀ t ∈ w.turns, ∀ op ∈ t.users, op.key ≠ key) (hret : reconcile key w = (some none, w'))
    (hse : w'.objects.lookup key = some se) (hr : se.resolution ≠ .NONE) :
    Addressed key w'.ctrl.serviceIPs se ↔ Last w.turns false w' := by
  have h := @reconcile_held w.turns (w.objects.lookup key) key w ⟨hothers, rfl, trivial, [], rfl⟩
  rw [hret] at h
  exact h rfl se hse hr

/-- A ServiceEntry without an address, a controller that has just started, and
the answers to a call. -/
def unaddressed (turns : List Turn) : World where
  objects := Finmap.singleton ⟨"ns", "demo"⟩ { resolution := .STATIC, addresses := [], resourceVersion := 1 }
  nextVersion := 2
  ctrl := {}
  turns := turns

/-- The world after a call. -/
def reconciled (turns : List Turn) : World := (reconcile ⟨"ns", "demo"⟩ (unaddressed turns)).2

theorem update_answered_addressed : ∃ se, (reconciled [{}, {}]).objects.lookup ⟨"ns", "demo"⟩ = some se ∧
    Addressed ⟨"ns", "demo"⟩ (reconciled [{}, {}]).ctrl.serviceIPs se := by
  obtain ⟨se, hse⟩ : ∃ se, (reconciled [{}, {}]).objects.lookup ⟨"ns", "demo"⟩ = some se := ⟨_, rfl⟩
  refine ⟨se, hse, ?_⟩
  have hothers : ∀ t ∈ (unaddressed [{}, {}]).turns, ∀ op ∈ t.users, op.key ≠ ⟨"ns", "demo"⟩ := by decide
  have hret : reconcile ⟨"ns", "demo"⟩ (unaddressed [{}, {}]) = (some none, reconciled [{}, {}]) := rfl
  refine (addressed_iff hothers hret hse ?_).mpr ⟨[{}], {}, rfl, rfl⟩
  cases hse
  decide

/-- The update fails: the call returns no error, and leaves no address. -/
theorem update_fails_unaddressed :
    (reconcile ⟨"ns", "demo"⟩ (unaddressed [{}, { fails := true }])).1 = some none ∧
      ∃ se, (reconciled [{}, { fails := true }]).objects.lookup ⟨"ns", "demo"⟩ = some se ∧
        se.resolution ≠ .NONE ∧
        ¬ Addressed ⟨"ns", "demo"⟩ (reconciled [{}, { fails := true }]).ctrl.serviceIPs se := by
  refine ⟨by decide +kernel, _, rfl, by decide, ?_⟩
  rintro ⟨ip, hip, -⟩
  cases hip

end Aeraki.Proof.Kube
