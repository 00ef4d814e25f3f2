import Aeraki.Proof.Kube.Calls

/-!
# Which VIPs are stable

Reconciling a ServiceEntry whose VIP no other has should leave it alone. The
controller judges by its table, though, and an entry of the table outlives the
address of its owner: it is stale once the owner, still live, has another
address. `stableAt_iff` states when such a VIP is not rewritten, `vipStable_iff` in
which states none is, and `careful_vipStable` that these are all states of a run in
which users do not change an address the table has.
-/

namespace Aeraki.Proof.Kube

open Aeraki.Impl (ObjectKey)
open Aeraki.Impl.Kube

/-- The object is stored with a VIP that is the first address of no other. -/
structure Alone (s : State) (key : ObjectKey) (se : ServiceEntry) (ip : String) : Prop where
  stored : s.world.objects.lookup key = some se
  vip : vip se = some ip
  alone : ∀ k ≠ key, ∀ se', s.world.objects.lookup k = some se' → se'.addresses.head? ≠ some ip

/-- A call of `Reconcile` leaves the addresses of the object unchanged. -/
def StableAt (s : State) (key : ObjectKey) (se : ServiceEntry) : Prop :=
  ∀ t, Call key s t → (t.world.objects.lookup key).map (·.addresses) = some se.addresses

/-- The addresses of all objects with such a VIP are left unchanged. -/
def VipStable (s : State) : Prop := ∀ key se ip, Alone s key se ip → StableAt s key se

/-- The table has no other live object for the address. -/
def NotStale (s : State) (key : ObjectKey) (ip : String) : Prop :=
  ∀ k, tableOf s ip = some k → k = key ∨ s.world.objects.lookup k = none

/-- It has none for any such VIP. -/
def NoStale (s : State) : Prop := ∀ key se ip, Alone s key se ip → NotStale s key ip

/-- Every address that could be allocated has a live owner: the search for a new
one goes on forever. -/
def Exhausted (s : State) : Prop := ∀ ip, Allocatable ip → ¬ Unowned s.world.objects (tableOf s) ip

section

variable {s : State} {key : ObjectKey} {se : ServiceEntry} {ip : String}

/-- A stale entry makes `Reconcile` rewrite the VIP. -/
theorem rewrites_of_stale (hb : s.busy = false) (hx : ¬ Exhausted s) (h : Alone s key se ip) {k : ObjectKey}
    (hk : tableOf s ip = some k) (hne : k ≠ key) (hl : s.world.objects.lookup k ≠ none) : ¬ StableAt s key se := by
  intro hstable
  obtain ⟨hr, hhead, hp⟩ := vip_eq_some.mp h.vip
  obtain ⟨rest, ha⟩ : ∃ rest, se.addresses = ip :: rest := List.head?_eq_some_iff.mp hhead
  simp only [Exhausted, not_forall, not_not] at hx
  obtain ⟨_, ⟨n, hn, rfl⟩, hu⟩ := hx
  obtain ⟨c, hc⟩ := exists_firstFree s.world.ctrl.maxIP hn hu
  obtain ⟨l, hcall⟩ := reconcile_stores h.stored hr (.taken ha hp hk hne hl) hc
  obtain ⟨t, hst, -, v, ht⟩ := exists_call hb ⟨rfl, fun _ => rfl, rfl, rfl⟩ (quiet_answers l false) hcall
  have he := hstable t hst
  rw [ht, Finmap.lookup_insert, ha] at he
  -- the new address has no live owner, the old one has
  obtain ⟨i, -, -, hfree⟩ := hc
  have hip : ipOf c = ip := by simpa using he
  exact hl (hfree k (hip ▸ hk))

/-- Only a stale entry makes it do so. -/
theorem stableAt_of (ha : Alone s key se ip) (h : s.busy = true ∨ NotStale s key ip ∨ Exhausted s) :
    StableAt s key se := by
  intro t hst
  obtain ⟨o', f', ho, hat⟩ := hst.after
  rw [hat.objects]
  have hsame : (s.world.objects.lookup key).map (·.addresses) = some se.addresses := by rw [ha.stored]; rfl
  cases ho with
  | same => exact hsame
  | recorded => exact hsame
  | taken => exact hsame
  | stored v hse hr hn hip hu =>
    exfalso
    cases ha.stored.symm.trans hse
    have hhead := (vip_eq_some.mp ha.vip).2.1
    rcases h with hb | hstale | hx
    · rw [hst.1] at hb
      cases hb
    · cases hn with
      | unset hnil => rw [hnil] at hhead; cases hhead
      | @taken ip' _ k hcons hp hf hk hl =>
        rw [hcons] at hhead
        cases hhead
        exact (hstale k hf).elim hk hl
    · exact hx _ hip hu

/-- A VIP that no other object has is not rewritten exactly when a call is still
waiting, the table has no stale entry for it, or there is no address left to
allocate. -/
theorem stableAt_iff (ha : Alone s key se ip) :
    StableAt s key se ↔ s.busy = true ∨ NotStale s key ip ∨ Exhausted s := by
  refine ⟨fun h => ?_, stableAt_of ha⟩
  by_contra hn
  simp only [not_or, Bool.not_eq_true] at hn
  obtain ⟨hb, hstale, hx⟩ := hn
  refine hstale fun k hk => ?_
  by_contra hkk
  rw [not_or] at hkk
  exact rewrites_of_stale hb hx ha hk hkk.1 hkk.2 h

end

/-- No VIP is rewritten exactly when a call is still waiting, the table has no
stale entry for a VIP in use, or there is no address left to allocate. -/
theorem vipStable_iff (s : State) : VipStable s ↔ s.busy = true ∨ NoStale s ∨ Exhausted s := by
  constructor
  · intro h
    by_contra hn
    simp only [not_or] at hn
    obtain ⟨hb, hstale, hx⟩ := hn
    exact hstale fun key se ip ha =>
      (((stableAt_iff ha).mp (h key se ip ha)).resolve_left hb).resolve_right hx
  · intro h key se ip ha
    exact stableAt_of ha (h.imp_right (Or.imp_left fun hs => hs key se ip ha))

/-- A ServiceEntry with a VIP. -/
def oneVip : State where
  world :=
    { objects := Finmap.insert ⟨"ns", "a"⟩ { resolution := .STATIC, addresses := ["240.240.0.1"] } ∅
      nextVersion := 1, ctrl := {} }
  busy := false

/-- It has been reconciled. -/
def recordedVip : State where
  world := (reconcile ⟨"ns", "a"⟩ { oneVip.world with turns := [{}] }).2
  busy := (reconcile ⟨"ns", "a"⟩ { oneVip.world with turns := [{}] }).1.isNone

/-- It gives up its VIP, and another takes it. -/
def givenUp : State :=
  let edited := { recordedVip with world := recordedVip.world.user (.edit ⟨"ns", "a"⟩ .STATIC ["10.0.0.1"]) }
  { edited with world := edited.world.user (.create ⟨"ns", "b"⟩ .STATIC ["240.240.0.1"]) }

theorem givenUp_not_stable : system.Reachable givenUp ∧ ¬ VipStable givenUp := by
  have hr : system.Reachable givenUp :=
    .step (.step (.step (.init ⟨rfl, rfl, rfl⟩) (.reconcile oneVip ⟨"ns", "a"⟩ [{}] rfl)) (.user recordedVip _))
      (.user _ _)
  refine ⟨hr, ?_⟩
  intro h
  have ho : givenUp.world.objects =
      (Finmap.insert ⟨"ns", "a"⟩ { resolution := .STATIC, addresses := ["10.0.0.1"], resourceVersion := 1 } ∅).insert
        ⟨"ns", "b"⟩ { resolution := .STATIC, addresses := ["240.240.0.1"], resourceVersion := 2 } := by decide
  have hb : Alone givenUp ⟨"ns", "b"⟩
      { resolution := .STATIC, addresses := ["240.240.0.1"], resourceVersion := 2 } "240.240.0.1" := by
    refine ⟨by decide, by decide, fun k hk se hse => ?_⟩
    rw [ho, Finmap.lookup_insert_of_ne _ hk] at hse
    by_cases e : k = ⟨"ns", "a"⟩
    · rw [e, Finmap.lookup_insert] at hse
      cases hse
      decide
    · rw [Finmap.lookup_insert_of_ne _ e] at hse
      cases hse
  exact absurd (h _ _ _ hb _ ⟨rfl, [{}, {}, {}, {}], by simp, rfl⟩) (by decide)

/-! ## Runs in which no address of the table is given up -/

/-- The user gives the object an address other than one the table has for it. -/
def GivesUp (s : State) : UserOp → Prop
  | .create key _ addresses => ∃ ip, tableOf s ip = some key ∧ addresses.head? ≠ some ip
  | .edit key _ addresses => ∃ ip, tableOf s ip = some key ∧ addresses.head? ≠ some ip
  | .delete _ => False

/-- Users, who give up no address of the table, and calls of `Reconcile`. -/
def careful : System State where
  init := Init
  step s t := (∃ op, ¬ GivesUp s op ∧ t = { s with world := s.world.user op }) ∨ ∃ key, Call key s t

/-- The live owners have their addresses. -/
def Fits (o : GoMap ObjectKey ServiceEntry) (f : String → Option ObjectKey) : Prop :=
  ∀ ip k se, f ip = some k → o.lookup k = some se → se.addresses.head? = some ip

theorem Fits.insert {o : GoMap ObjectKey ServiceEntry} {f : String → Option ObjectKey} (h : Fits o f)
    {key : ObjectKey} {se : ServiceEntry} (hse : ∀ ip, f ip = some key → se.addresses.head? = some ip) :
    Fits (o.insert key se) f := by
  intro ip k se' hk hse'
  by_cases e : k = key
  · subst e
    rw [Finmap.lookup_insert] at hse'
    cases hse'
    exact hse ip hk
  · rw [Finmap.lookup_insert_of_ne _ e] at hse'
    exact h ip k se' hk hse'

theorem Fits.update {o : GoMap ObjectKey ServiceEntry} {f : String → Option ObjectKey} (h : Fits o f) {ip : String}
    {v : Option ObjectKey} (hv : ∀ k se, v = some k → o.lookup k = some se → se.addresses.head? = some ip) :
    Fits o (Function.update f ip v) := by
  intro r k se hk hse
  rw [Function.update_apply] at hk
  split at hk
  · rename_i e
    rw [e]
    exact hv k se hk hse
  · exact h r k se hk hse

theorem Fits.outcome {o o' : GoMap ObjectKey ServiceEntry} {f f' : String → Option ObjectKey} {key : ObjectKey}
    (h : Fits o f) (ho : Outcome o f key o' f') : Fits o' f' := by
  cases ho with
  | same => exact h
  | recorded hse hv _ =>
    refine h.update fun k se' hk hse' => ?_
    cases hk
    cases hse.symm.trans hse'
    exact (vip_eq_some.mp hv).2.1
  | taken => exact h.update fun _ _ hk => (nomatch hk)
  | stored v hse hr hn hip hu =>
    refine (h.insert fun r hr => absurd hr (hn.not_owner fun hf => h r key _ hf hse)).update fun k se' hk hse' => ?_
    cases hk
    rw [Finmap.lookup_insert] at hse'
    cases hse'
    rfl

theorem Fits.user {s : State} (h : Fits s.world.objects (tableOf s)) {op : UserOp} (hop : ¬ GivesUp s op) :
    Fits (s.world.user op).objects (tableOf s) := by
  have hput : ∀ key (addresses : List String), (¬∃ ip, tableOf s ip = some key ∧ addresses.head? ≠ some ip) →
      ∀ ip, tableOf s ip = some key → addresses.head? = some ip := fun key addresses hn ip hip => by
    by_contra hne
    exact hn ⟨ip, hip, hne⟩
  cases op with
  | create key r as =>
    cases hl : s.world.objects.lookup key with
    | some _ => simpa only [World.user, hl] using h
    | none => simpa only [World.user, hl, World.put] using h.insert (hput key as hop)
  | edit key r as =>
    cases hl : s.world.objects.lookup key with
    | none => simpa only [World.user, hl] using h
    | some _ => simpa only [World.user, hl, World.put] using h.insert (hput key as hop)
  | delete key =>
    cases hl : s.world.objects.lookup key with
    | none => simpa only [World.user, hl] using h
    | some _ =>
      simp only [World.user, hl]
      intro ip k se hk hse
      by_cases e : k = key
      · subst e
        rw [Finmap.lookup_erase] at hse
        cases hse
      · rw [Finmap.lookup_erase_ne e] at hse
        exact h ip k se hk hse

theorem fits_reachable {s : State} (h : careful.Reachable s) : Fits s.world.objects (tableOf s) := by
  refine h.invariant (I := fun s => Fits s.world.objects (tableOf s)) ?_ ?_
  · intro s hs ip k se hk
    rw [tableOf, hs.1] at hk
    cases hk
  · rintro s t hst (⟨op, hop, rfl⟩ | ⟨key, hcall⟩)
    · have e : tableOf { s with world := s.world.user op } = tableOf s := funext fun ip => by
        simp only [tableOf, user_ctrl]
      rw [e]
      exact hst.user hop
    · obtain ⟨o', f', ho, hat⟩ := hcall.after
      have e : tableOf t = f' := funext hat.table
      rw [e, hat.objects]
      exact hst.outcome ho

/-- As long as users give up no address of the table, VIPs are stable. -/
theorem careful_vipStable {s : State} (h : careful.Reachable s) : VipStable s := by
  refine fun key se ip ha => stableAt_of ha (.inr (.inl fun k hk => ?_))
  by_contra hn
  rw [not_or] at hn
  obtain ⟨se', hse'⟩ := Option.ne_none_iff_exists'.mp hn.2
  exact ha.alone k hn.1 se' hse' (fits_reachable h ip k se' hk hse')

end Aeraki.Proof.Kube
