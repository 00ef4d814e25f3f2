import Aeraki.Proof.Kube.Calls

/-!
# VIPs after a restart

A controller starts over ServiceEntries that are stored already, with an empty
table, and learns their VIPs only as they are reconciled. It may therefore give
the VIP of one that has not been reconciled yet to another. `freshWrites_iff`
states for which stored ServiceEntries this cannot happen, in whatever order
they are reconciled: those where no object needs an address as long as there is
another with an address the controller may allocate.
-/

namespace Aeraki.Proof.Kube

open Aeraki.Impl (ObjectKey)
open Aeraki.Impl.Kube

/-! ## Runs of a restarted controller -/

/-- The runs of a controller started over the objects: calls of `Reconcile`, in
any order. -/
def restarted (objects : GoMap ObjectKey ServiceEntry) : System State where
  init s := Init s ∧ s.world.objects = objects
  step s t := ∃ key, Call key s t

/-- An address that the call wrote into its object is not the first address of
any other. -/
def FreshWrite (key : ObjectKey) (s t : State) : Prop :=
  ∀ se, t.world.objects.lookup key = some se → s.world.objects.lookup key ≠ some se →
    ∀ ip, se.addresses.head? = some ip →
      ∀ k ≠ key, ∀ se', t.world.objects.lookup k = some se' → se'.addresses.head? ≠ some ip

/-- All addresses that the calls write are fresh. -/
def FreshWrites (objects : GoMap ObjectKey ServiceEntry) : Prop :=
  ∀ s, (restarted objects).Reachable s → ∀ key t, Call key s t → FreshWrite key s t

/-- If an object has an allocatable address that is not in the table, then no
other object needs an address: each has one, and does not share a VIP, other
than that address, with a third. -/
def NoNeed (o : GoMap ObjectKey ServiceEntry) (f : String → Option ObjectKey) : Prop :=
  ∀ a b sa sb ip, a ≠ b → o.lookup a = some sa → o.lookup b = some sb →
    sa.addresses.head? = some ip → Allocatable ip → f ip = none → sb.resolution ≠ .NONE →
    sb.addresses ≠ [] ∧
      ∀ ip', vip sb = some ip' → ip' ≠ ip → ∀ c ≠ b, ∀ sc, o.lookup c = some sc → vip sc ≠ some ip'

/-! ## Writes are fresh -/

/-- What the calls keep: the table has the VIPs of live objects, and no object
needs an address that another has. -/
structure Tracked (o : GoMap ObjectKey ServiceEntry) (f : String → Option ObjectKey) : Prop where
  owner : ∀ ip k, f ip = some k → ∃ se, o.lookup k = some se ∧ vip se = some ip
  noNeed : NoNeed o f

section

variable {o o' : GoMap ObjectKey ServiceEntry} {f f' : String → Option ObjectKey} {key : ObjectKey}

/-- As all owners live, only an address that is not in the table has none. -/
theorem Tracked.unmapped (h : Tracked o f) {ip : String} (hu : Unowned o f ip) : f ip = none := by
  cases hf : f ip with
  | none => rfl
  | some k =>
    obtain ⟨se, hse, -⟩ := h.owner ip k hf
    rw [hu k hf] at hse
    cases hse

theorem head_of_vip {se : ServiceEntry} {ip : String} (h : vip se = some ip) : se.addresses.head? = some ip :=
  (vip_eq_some.mp h).2.1

theorem hasPrefix_ipOf (n : Nat) : Go.hasPrefix (ipOf n) "240.240" = true := by
  simp [Go.hasPrefix, ipOf]

/-- The address for an object that needs one is fresh. -/
theorem Tracked.fresh (h : Tracked o f) {se : ServiceEntry} {rest : List String} {ip : String}
    (hse : o.lookup key = some se) (hr : se.resolution ≠ .NONE) (hn : Needs o f key se rest)
    (hip : Allocatable ip) (hf : f ip = none) :
    ∀ k ≠ key, ∀ se', o.lookup k = some se' → se'.addresses.head? ≠ some ip := by
  intro k hk se' hse' hhead
  obtain ⟨hne, hshared⟩ := h.noNeed k key se' se ip hk hse' hse hhead hip hf hr
  cases hn with
  | unset ha => exact hne ha
  | @taken ip' _ c ha hp hf' hc _ =>
    have hv : vip se = some ip' := vip_eq_some.mpr ⟨hr, by rw [ha]; rfl, hp⟩
    obtain ⟨sc, hsc, hvc⟩ := h.owner ip' c hf'
    refine hshared ip' hv ?_ c hc sc hsc hvc
    rintro rfl
    rw [hf] at hf'
    cases hf'

/-- The owners have their addresses. -/
theorem Tracked.head (h : Tracked o f) {ip : String} {se : ServiceEntry} (hf : f ip = some key)
    (hse : o.lookup key = some se) : se.addresses.head? = some ip := by
  obtain ⟨se', hse', hv⟩ := h.owner ip key hf
  cases hse.symm.trans hse'
  exact head_of_vip hv

theorem Tracked.record (h : Tracked o f) {se : ServiceEntry} {ip : String} (hse : o.lookup key = some se)
    (hv : vip se = some ip) : Tracked o (Function.update f ip (some key)) := by
  refine ⟨fun r k hr => ?_, fun a b sa sb r hab ha hb hhead hr hfr hres => ?_⟩
  · rw [Function.update_apply] at hr
    split at hr
    · rename_i e
      cases hr
      exact ⟨se, hse, e ▸ hv⟩
    · exact h.owner r k hr
  · rw [Function.update_apply] at hfr
    split at hfr
    · cases hfr
    · exact h.noNeed a b sa sb r hab ha hb hhead hr hfr hres

section

variable {se : ServiceEntry} {rest : List String} {ip : String} {v : Nat}

/-- An object after the write: the written one, or another as it was. -/
theorem lookup_stored {k : ObjectKey} {s : ServiceEntry}
    (hs : (o.insert key { se with addresses := ip :: rest, resourceVersion := v }).lookup k = some s) :
    k = key ∧ s.addresses.head? = some ip ∨ k ≠ key ∧ o.lookup k = some s := by
  by_cases hk : k = key
  · subst hk
    rw [Finmap.lookup_insert] at hs
    cases hs
    exact .inl ⟨rfl, rfl⟩
  · rw [Finmap.lookup_insert_of_ne _ hk] at hs
    exact .inr ⟨hk, hs⟩

/-- Whoever has the new address is the written object. -/
theorem holder_stored (hfresh : ∀ k ≠ key, ∀ s, o.lookup k = some s → s.addresses.head? ≠ some ip) {k : ObjectKey}
    {s : ServiceEntry} (hs : (o.insert key { se with addresses := ip :: rest, resourceVersion := v }).lookup k = some s)
    (hh : s.addresses.head? = some ip) : k = key := by
  rcases lookup_stored hs with ⟨rfl, -⟩ | ⟨hk, hs⟩
  · rfl
  · exact absurd hh (hfresh k hk s hs)

theorem Tracked.owner_store (h : Tracked o f) (hse : o.lookup key = some se) (hr : se.resolution ≠ .NONE)
    (hn : Needs o f key se rest) (hip : Allocatable ip) (r : String) (k : ObjectKey)
    (hk : Function.update f ip (some key) r = some k) :
    ∃ s, (o.insert key { se with addresses := ip :: rest, resourceVersion := v }).lookup k = some s ∧ vip s = some r := by
  rw [Function.update_apply] at hk
  split at hk
  · rename_i e
    cases hk
    obtain ⟨n, -, rfl⟩ := hip
    exact ⟨_, Finmap.lookup_insert _, vip_eq_some.mpr ⟨hr, by rw [e]; rfl, e ▸ hasPrefix_ipOf n⟩⟩
  · obtain ⟨s, hs, hv⟩ := h.owner r k hk
    have hne : k ≠ key := fun e => hn.not_owner (fun hf => h.head hf hse) (e ▸ hk)
    exact ⟨s, (Finmap.lookup_insert_of_ne _ hne).trans hs, hv⟩

theorem NoNeed.store (h : NoNeed o f)
    (hfresh : ∀ k ≠ key, ∀ s, o.lookup k = some s → s.addresses.head? ≠ some ip) :
    NoNeed (o.insert key { se with addresses := ip :: rest, resourceVersion := v }) (Function.update f ip (some key)) := by
  intro a b sa sb r hab ha hb hhead har hfr hres
  rw [Function.update_apply] at hfr
  split at hfr
  · cases hfr
  rename_i hne
  rcases lookup_stored ha with ⟨-, haa⟩ | ⟨hak, ha⟩
  · rw [haa] at hhead
    exact absurd (Option.some.inj hhead).symm hne
  rcases lookup_stored hb with ⟨rfl, hba⟩ | ⟨hbk, hb'⟩
  · have hset : sb.addresses ≠ [] := fun hnil => by
      rw [hnil] at hba
      cases hba
    refine ⟨hset, fun ip' hv' _ c hc sc hsc hvc => ?_⟩
    have e : ip = ip' := Option.some.inj (hba.symm.trans (head_of_vip hv'))
    exact hc (holder_stored hfresh hsc (e ▸ head_of_vip hvc))
  · obtain ⟨hne', hshared⟩ := h a b sa sb r hab ha hb' hhead har hfr hres
    refine ⟨hne', fun ip' hv' hip' c hc sc hsc hvc => ?_⟩
    rcases lookup_stored hsc with ⟨rfl, hh⟩ | ⟨-, hsc⟩
    · have e : ip = ip' := Option.some.inj (hh.symm.trans (head_of_vip hvc))
      exact hbk (holder_stored hfresh hb (e ▸ head_of_vip hv'))
    · exact hshared ip' hv' hip' c hc sc hsc hvc

theorem Tracked.store (h : Tracked o f) (v : Nat) (hse : o.lookup key = some se) (hr : se.resolution ≠ .NONE)
    (hn : Needs o f key se rest) (hip : Allocatable ip) (hf : f ip = none) :
    Tracked (o.insert key { se with addresses := ip :: rest, resourceVersion := v })
      (Function.update f ip (some key)) :=
  ⟨h.owner_store hse hr hn hip, h.noNeed.store (h.fresh hse hr hn hip hf)⟩

end

theorem Tracked.outcome (h : Tracked o f) (ho : Outcome o f key o' f') : Tracked o' f' := by
  cases ho with
  | same => exact h
  | recorded hse hv _ => exact h.record hse hv
  | @taken ip hu =>
    have e : Function.update f ip none = f := Function.update_eq_self_iff.mpr (h.unmapped hu).symm
    rw [e]
    exact h
  | stored v hse hr hn hip hu => exact h.store v hse hr hn hip (h.unmapped hu)

/-- An outcome other than a new address leaves the objects as they are; a new
address is fresh. -/
theorem Tracked.freshWrite (h : Tracked o f) (ho : Outcome o f key o' f') {se : ServiceEntry}
    (hse : o'.lookup key = some se) (hne : o.lookup key ≠ some se) {ip : String} (hip : se.addresses.head? = some ip)
    {k : ObjectKey} (hk : k ≠ key) {se' : ServiceEntry} (hse' : o'.lookup k = some se') :
    se'.addresses.head? ≠ some ip := by
  cases ho with
  | same => exact absurd hse hne
  | recorded => exact absurd hse hne
  | taken => exact absurd hse hne
  | stored v hold hr hn ha hu =>
    rw [Finmap.lookup_insert] at hse
    cases hse
    cases hip
    rw [Finmap.lookup_insert_of_ne _ hk] at hse'
    exact h.fresh hold hr hn ha (h.unmapped hu) k hk se' hse'

end

theorem tracked_reachable {objects : GoMap ObjectKey ServiceEntry} (h : NoNeed objects fun _ => none) {s : State}
    (hs : (restarted objects).Reachable s) : Tracked s.world.objects (tableOf s) := by
  refine hs.invariant (I := fun s => Tracked s.world.objects (tableOf s)) ?_ ?_
  · rintro s ⟨⟨hc, -, -⟩, rfl⟩
    have e : tableOf s = fun _ => none := funext fun ip => by rw [tableOf, hc]; rfl
    rw [e]
    exact ⟨fun _ _ hf => (nomatch hf), h⟩
  · rintro s t hst ⟨key, hcall⟩
    obtain ⟨o', f', ho, hat⟩ := hcall.after
    have e : tableOf t = f' := funext hat.table
    rw [e, hat.objects]
    exact hst.outcome ho

/-! ## A write that is not fresh -/

section

variable {objects o : GoMap ObjectKey ServiceEntry} {f : String → Option ObjectKey} {key : ObjectKey}

/-- A run comes to a state with these objects, table and counter. -/
def Comes (objects : GoMap ObjectKey ServiceEntry) (o : GoMap ObjectKey ServiceEntry)
    (f : String → Option ObjectKey) (m : Nat) : Prop :=
  ∃ s ts, (restarted objects).Reachable s ∧ s.busy = false ∧ Ready o f m ts s.world

/-- A call that returns leads on. -/
theorem comes_call {m : Nat} (h : Comes objects o f m) (key : ObjectKey) {turns : List Turn}
    (hq : ∀ u ∈ turns, u.users = []) {Q : World → Prop} (hcall : Returns (Ready o f m turns) (reconcile key) fun _ => Q) :
    ∃ s t, (restarted objects).Reachable s ∧ s.world.objects = o ∧ Call key s t ∧ t.busy = false ∧ Q t.world := by
  obtain ⟨s, ts, hs, hb, hready⟩ := h
  obtain ⟨t, hst, htb, hQ⟩ := exists_call hb hready hq hcall
  exact ⟨s, t, hs, hready.objects, hst, htb, hQ⟩

/-- While updates for an object that needs an address fail, the counter comes to
every address that is not in the table. -/
theorem comes_firstFree {se : ServiceEntry} {rest : List String} (hse : o.lookup key = some se)
    (hr : se.resolution ≠ .NONE) (hn : Needs o f key se rest) (hlive : ∀ ip k, f ip = some k → o.lookup k ≠ none)
    {n : Nat} (hf : f (ipOf n) = none) (j : Nat) : ∀ m, next^[j] (nextCounter m) = n → Comes objects o f m →
    ∃ m', Comes objects o f m' ∧ FirstFree o f m' n := by
  have hu : ∀ ip, Unowned o f ip → f ip = none := fun ip hu => by
    cases h : f ip with
    | none => rfl
    | some k => exact absurd (hu k h) (hlive ip k h)
  induction j using Nat.strong_induction_on with
  | _ j ih =>
    intro m hj h
    classical
    have hex : ∃ i, Unowned o f (ipOf (next^[i] (nextCounter m))) :=
      ⟨j, by rw [hj]; exact fun k hk => by rw [hf] at hk; cases hk⟩
    have hfree : FirstFree o f m (next^[Nat.find hex] (nextCounter m)) :=
      ⟨Nat.find hex, rfl, fun i hi => Nat.find_min hex hi, Nat.find_spec hex⟩
    have hle : Nat.find hex ≤ j := Nat.find_min' hex (by rw [hj]; exact fun k hk => by rw [hf] at hk; cases hk)
    rcases Nat.eq_or_lt_of_le hle with e | hlt
    · rw [e, hj] at hfree
      exact ⟨m, h, hfree⟩
    · obtain ⟨l, hcall⟩ := reconcile_passes hse hr hn hfree
      obtain ⟨s, t, hs, -, hst, hb, hready⟩ := comes_call h key (quiet_answers l true) hcall
      rw [show Function.update f (ipOf (next^[Nat.find hex] (nextCounter m))) none = f from
        Function.update_eq_self_iff.mpr (hu _ (Nat.find_spec hex)).symm] at hready
      obtain ⟨d, hd⟩ : ∃ d, j = d + (Nat.find hex + 1) := ⟨j - (Nat.find hex + 1), by omega⟩
      refine ih d (by omega) _ ?_ ⟨t, _, hs.step ⟨key, hst⟩, hb, hready⟩
      rw [hd, Function.iterate_add_apply, Function.iterate_succ_apply'] at hj
      exact hj

/-- Reconciling an object whose VIP is not in the table records it. -/
theorem reconcile_records {m : Nat} {se : ServiceEntry} {ip : String} (hse : o.lookup key = some se)
    (hv : vip se = some ip) (hf : f ip = none) :
    Returns (Ready o f m [{}]) (reconcile key) fun _ => Ready o (Function.update f ip (some key)) m [] := by
  obtain ⟨hr, hhead, hp⟩ := vip_eq_some.mp hv
  obtain ⟨rest, ha⟩ : ∃ rest, se.addresses = ip :: rest := List.head?_eq_some_iff.mp hhead
  refine (get_ready key).bind fun r => .fact ?_
  rintro rfl
  rw [hse]
  refine (Prog.Triple.update (Q := fun _ => Ready o f m []) fun w h => ⟨h.objects, h.table, h.counter, h.turns⟩).bind
    fun _ => ?_
  have hauto : Returns (Ready o f m []) (autoAllocateIP key se)
      fun _ => Ready o (Function.update f ip (some key)) m [] := by
    unfold autoAllocateIP
    rw [if_neg hr, ha]
    simp only [hp, Bool.not_true, Bool.false_eq_true, if_false]
    refine (lookupIP_ready ip).bind fun found => .fact ?_
    rintro rfl
    rw [hf]
    exact .update fun w h => ⟨h.objects, fun r => by
      rw [Function.update_apply, ← h.table r]; exact GoMap.lookup_insert_eq _ _ _ _, h.counter, h.turns⟩
  exact hauto.bind fun _ => (Prog.Triple.update (Q := fun _ => Ready o (Function.update f ip (some key)) m [])
    fun w h => ⟨h.objects, h.table, h.counter, h.turns⟩).bind fun _ => .pure fun _ h => h

/-- If an object needs an address and another has an allocatable one that is not
in the table, a run writes that address. -/
theorem not_freshWrites {se sa : ServiceEntry} {rest : List String} (hcomes : Comes objects o f 0)
    (hse : o.lookup key = some se) (hr : se.resolution ≠ .NONE) (hn : Needs o f key se rest)
    (hlive : ∀ ip k, f ip = some k → o.lookup k ≠ none) {a : ObjectKey} (hak : a ≠ key) (ha : o.lookup a = some sa)
    {ip : String} (hhead : sa.addresses.head? = some ip) (hip : Allocatable ip) (hf : f ip = none) :
    ¬ FreshWrites objects := by
  intro hfresh
  obtain ⟨n, hrange, rfl⟩ := hip
  obtain ⟨j, hj⟩ := exists_iterate 0 hrange
  obtain ⟨m, hcomes, hfree⟩ := comes_firstFree hse hr hn hlive hf j 0 hj hcomes
  obtain ⟨l, hcall⟩ := reconcile_stores hse hr hn hfree
  obtain ⟨s, t, hs, ho, hst, -, v, ht⟩ := comes_call hcomes key (quiet_answers l false) hcall
  refine hfresh s hs key t hst _ (by rw [ht]; exact Finmap.lookup_insert _) ?_ (ipOf n) rfl a hak sa ?_ hhead
  · -- the address is new to the object
    rw [ho, hse]
    intro e
    have e := congrArg ServiceEntry.addresses (Option.some.inj e)
    cases hn with
    | unset hu => rw [hu] at e; cases e
    | taken hu _ hf' _ _ =>
      rw [hu] at e
      cases e
      rw [hf] at hf'
      cases hf'
  · rw [ht, Finmap.lookup_insert_of_ne _ hak, ha]

end

/-- All addresses written after a restart are fresh, for all orders of
`Reconcile` calls and all failures of API calls, exactly when no stored object
needs an address as long as another has an allocatable one. -/
theorem freshWrites_iff (objects : GoMap ObjectKey ServiceEntry) :
    FreshWrites objects ↔ NoNeed objects fun _ => none := by
  constructor
  · intro h a b sa sb ip hab ha hb hhead hip _ hres
    have hstart : Comes objects objects (fun _ => none) 0 :=
      ⟨⟨⟨objects, 0, {}, [], []⟩, false⟩, [], .init ⟨⟨rfl, rfl, rfl⟩, rfl⟩, rfl, rfl, fun _ => rfl, rfl, rfl⟩
    refine ⟨fun hnil => ?_, fun ip' hv hne c hc sc hsc hvc => ?_⟩
    · exact not_freshWrites hstart hb hres (.unset hnil) (fun _ _ hf => (nomatch hf)) hab ha hhead hip rfl h
    · -- the third object is reconciled first and takes the shared VIP
      obtain ⟨s, t, hs, -, hst, hbusy, hready⟩ :=
        comes_call hstart c (by simp) (reconcile_records hsc hvc rfl)
      obtain ⟨rest, hrest⟩ : ∃ rest, sb.addresses = ip' :: rest := List.head?_eq_some_iff.mp (head_of_vip hv)
      refine not_freshWrites (f := Function.update (fun _ => none) ip' (some c))
        ⟨t, _, hs.step ⟨c, hst⟩, hbusy, hready⟩ hb hres
        (.taken hrest (vip_eq_some.mp hv).2.2 (Function.update_self ..) hc (by rw [hsc]; simp)) ?_ hab ha hhead hip
        (Function.update_of_ne (Ne.symm hne) ..) h
      intro r k hk
      rw [Function.update_apply] at hk
      split at hk
      · cases hk
        rw [hsc]
        simp
      · cases hk
  · intro h s hs key t hst se hse hne ip hip k hk se' hse'
    obtain ⟨o', f', ho, hat⟩ := hst.after
    rw [hat.objects] at hse hse'
    exact (tracked_reachable h hs).freshWrite ho hse hne hip hk hse'

/-- A ServiceEntry with a VIP, and one without an address. -/
def allocatedAndNew : GoMap ObjectKey ServiceEntry :=
  (Finmap.insert ⟨"ns", "new"⟩ { resolution := .STATIC, addresses := [] } ∅).insert ⟨"ns", "old"⟩
    { resolution := .STATIC, addresses := ["240.240.0.1"] }

/-- The new one is reconciled first. -/
theorem restart_shares_vip : ¬ FreshWrites allocatedAndNew := by
  intro h
  have hw := h ⟨⟨allocatedAndNew, 7, {}, [], []⟩, false⟩ (.init ⟨⟨rfl, rfl, rfl⟩, rfl⟩) ⟨"ns", "new"⟩ _
    ⟨rfl, [{}, {}], by simp, rfl⟩
    { resolution := .STATIC, addresses := ["240.240.0.1"], resourceVersion := 7 } (by decide) (by decide)
    "240.240.0.1" rfl ⟨"ns", "old"⟩ (by decide) { resolution := .STATIC, addresses := ["240.240.0.1"] } (by decide)
  exact hw rfl

end Aeraki.Proof.Kube
