import Aeraki.Framework.Ownership
import Aeraki.Proof.Kube.Rules

/-!
# VIPs are unique

A ServiceEntry is settled if it has been reconciled, with all calls to the API
server succeeding, since a user last created or edited it (`settled`, read off
the trace). A settled ServiceEntry claims its VIP (`claim`), and `serviceIPs`
is an ownership table for these claims (`Owned`). Users only give up claims
(`owned_user`); the controller gives an address away only when the table has
no live owner for it (`autoAllocateIP_ok`). So no two settled ServiceEntries
have one VIP, in any reachable state (`vip_unique`).
-/

namespace Aeraki.Proof.Kube

open Aeraki.Impl (ObjectKey)
open Aeraki.Impl.Kube Ownership

/-! ## Reading the trace -/

/-- The call of `Reconcile` that is still clean: it has read its object, no
call has failed since, and no user has touched that object. -/
def current : List Event → Option ObjectKey
  | [] => none
  | .user k :: es => if current es = some k then none else current es
  | .read k :: _ => some k
  | .failed :: _ => none
  | .returned _ :: _ => none

/-- The object has been reconciled, with all calls to the API server
succeeding, since a user last created or edited it. -/
def settled (key : ObjectKey) : List Event → Bool
  | [] => false
  | .user k :: es => if k = key then false else settled key es
  | .read _ :: es => settled key es
  | .failed :: es => settled key es
  | .returned k :: es => if k = key ∧ current es = some key then true else settled key es

/-- The VIP of a ServiceEntry: its first address, if it is in 240.240.0.0/16
and the resolution is not NONE. -/
def vip (se : ServiceEntry) : Option String :=
  if se.resolution = .NONE then none else se.addresses.head?.filter (Go.hasPrefix · "240.240")

theorem vip_eq_some {se : ServiceEntry} {ip : String} :
    vip se = some ip ↔
      se.resolution ≠ .NONE ∧ se.addresses.head? = some ip ∧ Go.hasPrefix ip "240.240" = true := by
  unfold vip
  split
  · rename_i h; simp [h]
  · rename_i h; simp [h, Option.filter_eq_some_iff]

/-- What a live and settled ServiceEntry claims. -/
def claim (w : World) (key : ObjectKey) : Option String :=
  if settled key w.trace then (w.objects.lookup key).bind vip else none

/-- The table knows who owns the claimed VIPs. -/
def Owned (w : World) : Prop := Consistent (fun ip => w.ctrl.serviceIPs.lookup ip) (claim w)

theorem claim_eq_some {w : World} {key : ObjectKey} {ip : String} :
    claim w key = some ip ↔ settled key w.trace = true ∧ ∃ se, w.objects.lookup key = some se ∧ vip se = some ip := by
  unfold claim
  split
  · rename_i h; simp [h, Option.bind_eq_some_iff]
  · rename_i h; simp [h]

/-- A `Reconcile` of `key` has read `se`, and nothing else has happened to it
if the call is still clean. -/
structure Reading (key : ObjectKey) (se : ServiceEntry) (w : World) : Prop where
  owned : Owned w
  stored : current w.trace = some key → w.objects.lookup key = some se

/-- If the call is still clean, the table has the VIP of the stored object. -/
structure Finishing (key : ObjectKey) (w : World) : Prop where
  owned : Owned w
  owns : current w.trace = some key → ∀ se ip, w.objects.lookup key = some se → vip se = some ip →
    w.ctrl.serviceIPs.lookup ip = some key

/-! ## Users -/

/-- What a user's request does: nothing, or it touches one object and is seen. -/
theorem user_cases (w : World) (op : UserOp) :
    w.user op = w ∨ ((w.user op).ctrl = w.ctrl ∧ (w.user op).turns = w.turns ∧
      (w.user op).trace = .user op.key :: w.trace ∧
      ∀ k ≠ op.key, (w.user op).objects.lookup k = w.objects.lookup k) := by
  cases op with
  | create key r as =>
    cases h : w.objects.lookup key with
    | none =>
      refine .inr ?_
      simp only [World.user, h, World.put, UserOp.key, true_and]
      exact fun k hk => Finmap.lookup_insert_of_ne _ hk
    | some se => exact .inl (by simp only [World.user, h])
  | edit key r as =>
    cases h : w.objects.lookup key with
    | none => exact .inl (by simp only [World.user, h])
    | some se =>
      refine .inr ?_
      simp only [World.user, h, World.put, UserOp.key, true_and]
      exact fun k hk => Finmap.lookup_insert_of_ne _ hk
  | delete key =>
    cases h : w.objects.lookup key with
    | none => exact .inl (by simp only [World.user, h])
    | some se =>
      refine .inr ?_
      simp only [World.user, h, UserOp.key, true_and]
      exact fun k hk => Finmap.lookup_erase_ne hk

theorem user_ctrl (w : World) (op : UserOp) : (w.user op).ctrl = w.ctrl := by
  rcases user_cases w op with h | h
  · rw [h]
  · exact h.1

/-- A user only gives up claims. -/
theorem claim_user {w : World} {op : UserOp} {k : ObjectKey} {ip : String}
    (h : claim (w.user op) k = some ip) : claim w k = some ip := by
  rcases user_cases w op with e | ⟨-, -, ht, ho⟩
  · rwa [e] at h
  · rw [claim_eq_some, ht, settled] at h
    obtain ⟨hs, se, hse, hv⟩ := h
    have hk : op.key ≠ k := fun e => by rw [if_pos e] at hs; cases hs
    rw [if_neg hk] at hs
    exact claim_eq_some.mpr ⟨hs, se, (ho k (Ne.symm hk)).symm.trans hse, hv⟩

theorem owned_user {w : World} (h : Owned w) (op : UserOp) : Owned (w.user op) := by
  unfold Owned
  rw [user_ctrl]
  exact h.mono fun _ _ => claim_user

theorem reading_user {key : ObjectKey} {se : ServiceEntry} {w : World} (h : Reading key se w)
    (op : UserOp) : Reading key se (w.user op) := by
  refine ⟨owned_user h.owned op, fun hc => ?_⟩
  rcases user_cases w op with e | ⟨-, -, ht, ho⟩
  · rw [e] at hc ⊢; exact h.stored hc
  · rw [ht, current] at hc
    split at hc
    · cases hc
    · rename_i hne
      rw [hc] at hne
      rw [ho key fun e => hne (by rw [e])]
      exact h.stored hc

/-! ## What the API server does between two steps of the controller -/

/-- Kept by users, by failing calls, and whatever answers are still to come. -/
structure Stable (P : World → Prop) : Prop where
  user : ∀ w op, P w → P (w.user op)
  turns : ∀ w ts, P w → P { w with turns := ts }
  failed : ∀ w, P w → P { w with trace := .failed :: w.trace }

theorem Stable.and {P Q : World → Prop} (hP : Stable P) (hQ : Stable Q) : Stable fun w => P w ∧ Q w where
  user w op h := ⟨hP.user w op h.1, hQ.user w op h.2⟩
  turns w ts h := ⟨hP.turns w ts h.1, hQ.turns w ts h.2⟩
  failed w h := ⟨hP.failed w h.1, hQ.failed w h.2⟩

/-- The controller's fields are its own. -/
theorem stable_ctrl (P : ServiceEntryController → Prop) : Stable fun w => P w.ctrl where
  user w op h := by rw [user_ctrl]; exact h
  turns _ _ h := h
  failed _ h := h

theorem stable_owned : Stable Owned where
  user _ op h := owned_user h op
  turns _ _ h := h
  failed _ h := h

theorem stable_reading (key : ObjectKey) (se : ServiceEntry) : Stable (Reading key se) where
  user _ op h := reading_user h op
  turns _ _ h := ⟨h.owned, h.stored⟩
  failed _ h := ⟨h.owned, fun hc => by cases hc⟩

theorem Stable.users {P : World → Prop} (hP : Stable P) : ∀ (ops : List UserOp) (w : World), P w → P (w.users ops)
  | [], _, h => h
  | op :: ops, w, h => hP.users ops (w.user op) (hP.user w op h)

theorem Stable.answer {P E : World → Prop} (hP : Stable P) (hE : ∀ w, P w → E w) :
    Prog.Triple P answer (fun b w => P w ∧ (b = false → current w.trace = none)) E := by
  intro w h
  rcases w with ⟨o, n, c, _ | ⟨⟨ops, fails⟩, ts⟩, tr⟩
  · exact hE _ h
  · have hu := hP.turns _ ts (hP.users ops _ h)
    cases fails with
    | true => exact ⟨hP.failed _ hu, fun _ => rfl⟩
    | false => exact ⟨hu, fun e => by cases e⟩

/-- What `client.Get` tells. -/
def Tells (key : ObjectKey) (w : World) : GetResult → Prop
  | .found se => w.objects.lookup key = some se
  | .notFound => w.objects.lookup key = none
  | .failed => current w.trace = none

theorem Stable.get {P E : World → Prop} (hP : Stable P) (hE : ∀ w, P w → E w) (key : ObjectKey) :
    Prog.Triple P (get key) (fun r w => P w ∧ Tells key w r) E :=
  get_rule (hP.answer hE) (fun _ _ h hl => ⟨h.1, hl⟩) (fun _ h hl => ⟨h.1, hl⟩) fun _ h => ⟨h.1, h.2 rfl⟩

/-- After `client.Update`: the object has been put, or the call has failed. -/
def Updated (P : World → Prop) (key : ObjectKey) (se : ServiceEntry) (b : Bool) (w : World) : Prop :=
  if b then ∃ w₀, P w₀ ∧ w = w₀.put key se else P w ∧ current w.trace = none

theorem Stable.update {P E : World → Prop} (hP : Stable P) (hE : ∀ w, P w → E w) (key : ObjectKey)
    (se : ServiceEntry) : Prog.Triple P (update key se) (Updated P key se) E :=
  update_rule (hP.answer hE) (fun w h => ⟨w, h.1, rfl⟩) (fun w h _ => ⟨hP.failed w h.1, rfl⟩)
    fun _ h => ⟨h.1, h.2 rfl⟩

/-! ## The controller -/

/-- The table has no live owner for the address. -/
def Unowned (o : GoMap ObjectKey ServiceEntry) (f : String → Option ObjectKey) (ip : String) : Prop :=
  ∀ k, f ip = some k → o.lookup k = none

/-- No live object has the address in the table. -/
def Free (w : World) (ip : String) : Prop := Unowned w.objects (fun ip => w.ctrl.serviceIPs.lookup ip) ip

theorem free_of_unmapped {w : World} {ip : String} (h : w.ctrl.serviceIPs.lookup ip = none) : Free w ip :=
  fun k hk => by cases h.symm.trans hk

/-- The entry of a free address may change. -/
theorem owned_write {w : World} (h : Owned w) {ip : String} (hf : Free w ip) {v : Option ObjectKey}
    {m : GoMap String ObjectKey} (hm : ∀ r, m.lookup r = if r = ip then v else w.ctrl.serviceIPs.lookup r) :
    Owned { w with ctrl := { w.ctrl with serviceIPs := m } } := by
  have hc := h.reassign (r := ip) v fun k hk hcl => by
    obtain ⟨-, se, hse, -⟩ := claim_eq_some.mp hcl
    rw [hf k hk] at hse; cases hse
  intro k r hk
  rw [← hc k r hk, Function.update_apply]
  exact hm r

theorem setIP_ok (ip : String) (key : ObjectKey) {se : ServiceEntry} (hip : vip se = some ip)
    {E : World → Prop} :
    Prog.Triple (fun w => Reading key se w ∧ Free w ip) (setIP ip key) (fun _ => Finishing key) E := by
  refine .update fun w ⟨h, hf⟩ => ⟨owned_write h.owned hf fun r => GoMap.lookup_insert_eq _ _ _ _, ?_⟩
  intro hc se' ip' hse hv
  have e : se' = se := Option.some.inj (hse.symm.trans (h.stored hc))
  rw [e, hip, Option.some.injEq] at hv
  rw [← hv]
  exact Finmap.lookup_insert _

theorem getNextIP_ok {E : World → Prop} : Prog.Triple Owned getNextIP (fun _ => Owned) E :=
  fun _ h => h

theorem lookupIP_ok {P E : World → Prop} (ip : String) :
    Prog.Triple P (lookupIP ip) (fun found w => P w ∧ w.ctrl.serviceIPs.lookup ip = found) E :=
  fun _ h => ⟨h, rfl⟩

theorem nextAvailableIP_ok :
    Prog.Triple Owned nextAvailableIP (fun ip w => Owned w ∧ w.ctrl.serviceIPs.lookup ip = none) Owned := by
  refine nextAvailableIP_rule (fun _ h => h) getNextIP_ok lookupIP_ok (fun _ _ h => h)
    (G := fun ip r w => Owned w ∧ (r = .notFound → Free w ip)) (fun ip k => ?_) (fun ip => ?_)
    (fun _ _ _ h => h.1) fun _ _ h => h.1
  · have hs := stable_owned.and (stable_ctrl fun c => c.serviceIPs.lookup ip = some k)
    refine (hs.get (fun _ h => h.1) k).conseq (fun _ h => h) fun r w ⟨⟨h, hk⟩, hr⟩ => ⟨h, ?_⟩
    rintro rfl k' hk'
    exact Option.some.inj (hk.symm.trans hk') ▸ hr
  · -- the owner is gone: its entry goes too
    refine .update fun w ⟨h, hf⟩ => ⟨owned_write h (hf rfl) fun r => GoMap.lookup_erase_eq _ _ _, ?_⟩
    exact Finmap.lookup_erase _ _

/-- The object is stored with an address that was unmapped, and that is
written to the table: the object may claim it. -/
theorem finishing_put {w : World} (h : Owned w) {ip : String} (hip : w.ctrl.serviceIPs.lookup ip = none)
    {se : ServiceEntry} {rest : List String} (has : se.addresses = ip :: rest) (key : ObjectKey) :
    Finishing key { w.put key se with ctrl := { w.ctrl with serviceIPs := w.ctrl.serviceIPs.insert ip key } } := by
  have hv : ∀ se' ip', (w.put key se).objects.lookup key = some se' → vip se' = some ip' → ip' = ip := by
    intro se' ip' hse hv
    rw [World.put, Finmap.lookup_insert, Option.some.injEq] at hse
    have hh := (vip_eq_some.mp hv).2.1
    rw [← hse, has] at hh
    exact (Option.some.inj hh).symm
  have hw := owned_write h (free_of_unmapped hip) fun r => GoMap.lookup_insert_eq w.ctrl.serviceIPs ip r key
  refine ⟨hw.claim (k := key) (fun k hk r hc => ?_) fun r hc => ?_, ?_⟩
  · rw [claim_eq_some] at hc ⊢
    obtain ⟨hs, se', hse, hv⟩ := hc
    exact ⟨hs, se', (Finmap.lookup_insert_of_ne _ hk).symm.trans hse, hv⟩
  · obtain ⟨-, se', hse, hv'⟩ := claim_eq_some.mp hc
    rw [hv se' r hse hv']
    exact Finmap.lookup_insert _
  · intro _ se' r hse hv'
    rw [hv se' r hse hv']
    exact Finmap.lookup_insert _

theorem updateServiceEntry_ok {se : ServiceEntry} {ip : String} {rest : List String}
    (has : se.addresses = ip :: rest) (key : ObjectKey) :
    Prog.Triple (fun w => Owned w ∧ w.ctrl.serviceIPs.lookup ip = none) (updateServiceEntry se key)
      (fun _ => Finishing key) Owned := by
  have hs := stable_owned.and (stable_ctrl fun c => c.serviceIPs.lookup ip = none)
  refine (hs.update (fun _ h => h.1) key se).bind fun b => ?_
  cases b with
  | false => exact .pure fun w h => ⟨h.1.1, fun hc => by rw [h.2] at hc; cases hc⟩
  | true =>
    simp only [has]
    exact .update fun w ⟨w₀, ⟨h, hip⟩, e⟩ => e ▸ finishing_put h hip has key

/-- An object without a VIP is left as it is. -/
theorem reading_finishing {key : ObjectKey} {se : ServiceEntry} {w : World} (h : Reading key se w)
    (hip : ∀ ip, vip se = some ip → w.ctrl.serviceIPs.lookup ip = some key) : Finishing key w :=
  ⟨h.owned, fun hc se' ip hse hv => hip ip (by
    rw [h.stored hc, Option.some.injEq] at hse
    rw [hse]; exact hv)⟩

theorem allocate_ok (key : ObjectKey) (se : ServiceEntry) (rest : List String) :
    Prog.Triple Owned (allocate key se rest) (fun _ => Finishing key) Owned :=
  nextAvailableIP_ok.bind fun _ => updateServiceEntry_ok rfl key

/-- A clean call of `autoAllocateIP` leaves the VIP of its object in the table. -/
theorem autoAllocateIP_ok (key : ObjectKey) (se : ServiceEntry) :
    Prog.Triple (Reading key se) (autoAllocateIP key se) (fun _ => Finishing key) Owned := by
  have hdone (hv : vip se = none) (w : World) (h : Reading key se w) : Finishing key w :=
    reading_finishing h fun ip hip => by rw [hv] at hip; cases hip
  refine autoAllocateIP_rule (fun hr => hdone (if_pos hr)) (fun _ _ => ?_) (fun ip rest _ ha hp => hdone ?_)
    fun ip rest hr ha hp => ?_
  · exact (allocate_ok key se []).conseq (fun _ h => h.owned) fun _ _ h => h
  · rw [Option.eq_none_iff_forall_ne_some]
    intro ip' h
    obtain ⟨-, hh, hp'⟩ := vip_eq_some.mp h
    rw [ha] at hh
    exact hp (Option.some.inj hh ▸ hp')
  · have hip : vip se = some ip := vip_eq_some.mpr ⟨hr, by rw [ha]; rfl, hp⟩
    have hget (k : ObjectKey) := ((stable_reading key se).and
      (stable_ctrl fun c => c.serviceIPs.lookup ip = some k)).get (fun _ h => h.1.owned) k
    refine claimVip_rule (lookupIP_ok ip) ?_ (fun w h => ?_) (fun k _ => hget k) (fun k _ => ?_) (fun k se' _ => ?_)
      fun k _ w h => ?_
    · exact (setIP_ok ip key hip).conseq (fun _ h => ⟨h.1, free_of_unmapped h.2⟩) fun _ _ h => h
    · refine reading_finishing h.1 fun ip' hip' => ?_
      rw [← Option.some.inj (hip.symm.trans hip')]
      exact h.2
    · refine (setIP_ok ip key hip).conseq (fun w h => ⟨h.1.1, fun k' hk' => ?_⟩) fun _ _ h => h
      exact Option.some.inj (h.1.2.symm.trans hk') ▸ h.2
    · exact (allocate_ok key se rest).conseq (fun _ h => h.1.1.owned) fun _ _ h => h
    · exact ⟨h.1.1.owned, fun hc => by rw [h.2] at hc; cases hc⟩

/-- The call returns: its object is settled if the call is clean. -/
theorem owned_returned {key : ObjectKey} {w : World} (h : Finishing key w) :
    Owned { w with trace := .returned key :: w.trace } := by
  intro k ip hk
  obtain ⟨hs, se, hse, hv⟩ := claim_eq_some.mp hk
  rw [settled] at hs
  split at hs
  · rename_i hc
    obtain ⟨rfl, hc⟩ := hc
    exact h.owns hc se ip hse hv
  · exact h.owned k ip (claim_eq_some.mpr ⟨hs, se, hse, hv⟩)

/-- A call of `Reconcile` keeps the table consistent with the claims, to
wherever it gets. -/
theorem reconcile_ok (key : ObjectKey) : Prog.Triple Owned (reconcile key) (fun _ => Owned) Owned :=
  reconcile_rule (stable_owned.get (fun _ h => h) key) (fun _ h => h.1) (fun _ h => h.1)
    (fun _ _ h => ⟨h.1, fun _ => h.2⟩) (autoAllocateIP_ok key) fun _ => owned_returned

/-! ## Runs -/

theorem owned_init {s : State} (h : Init s) : Owned s.world := by
  intro k ip hk
  rw [claim_eq_some, h.2.1] at hk
  cases hk.1

theorem owned_step {s t : State} (h : Owned s.world) (hst : Step s t) : Owned t.world := by
  cases hst with
  | user op => exact owned_user h op
  | reconcile key turns hb =>
    have := reconcile_ok key { s.world with turns := turns } h
    show Owned (reconcile key { s.world with turns := turns }).2
    rcases hr : reconcile key { s.world with turns := turns } with ⟨_ | r, w⟩ <;> rw [hr] at this
    · exact this
    · exact this

theorem owned_reachable {s : State} (h : system.Reachable s) : Owned s.world :=
  h.invariant (fun _ => owned_init) fun _ _ => owned_step

/-- In every reachable state, of two different live ServiceEntries with
resolution other than NONE and the same first address in 240.240, one has not
been reconciled, all calls succeeding, since a user last touched it. -/
theorem vip_unique {s : State} (h : system.Reachable s) {key key' : ObjectKey} (hne : key ≠ key')
    {se se' : ServiceEntry} (hse : s.world.objects.lookup key = some se)
    (hse' : s.world.objects.lookup key' = some se') (hr : se.resolution ≠ .NONE)
    (hr' : se'.resolution ≠ .NONE) {ip : String} (hip : se.addresses.head? = some ip)
    (hip' : se'.addresses.head? = some ip) (hp : Go.hasPrefix ip "240.240" = true) :
    settled key s.world.trace = false ∨ settled key' s.world.trace = false := by
  by_contra hn
  rw [not_or, Bool.not_eq_false, Bool.not_eq_false] at hn
  have hc := claim_eq_some.mpr ⟨hn.1, se, hse, vip_eq_some.mpr ⟨hr, hip, hp⟩⟩
  have hc' := claim_eq_some.mpr ⟨hn.2, se', hse', vip_eq_some.mpr ⟨hr', hip', hp⟩⟩
  exact hne ((owned_reachable h).unique hc hc')

/-- Two ServiceEntries start with the same VIP; one is reconciled. -/
def sharedVip : State where
  world :=
    let se : ServiceEntry := { resolution := .STATIC, addresses := ["240.240.0.1"] }
    { objects := (Finmap.insert ⟨"ns", "b"⟩ se ∅).insert ⟨"ns", "a"⟩ se, nextVersion := 1, ctrl := {} }
  busy := false

theorem vip_unique_sharedVip :
    let w := (reconcile ⟨"ns", "a"⟩ { sharedVip.world with turns := [{}] }).2
    settled ⟨"ns", "a"⟩ w.trace = true ∧
      (settled ⟨"ns", "a"⟩ w.trace = false ∨ settled ⟨"ns", "b"⟩ w.trace = false) :=
  ⟨by decide, vip_unique (s := ⟨(reconcile ⟨"ns", "a"⟩ { sharedVip.world with turns := [{}] }).2, _⟩)
    (.step (.init ⟨rfl, rfl, rfl⟩) (.reconcile sharedVip ⟨"ns", "a"⟩ [{}] rfl)) (by decide) rfl rfl
    (by decide) (by decide) rfl rfl (by decide)⟩

end Aeraki.Proof.Kube
