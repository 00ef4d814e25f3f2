import Aeraki.Proof.Kube.Vip

/-!
# What a call of `Reconcile` does

The calls during which no user acts. `Outcome` says once what such a call may
do to the stored ServiceEntries and to the table, whatever calls to the API
server fail (`reconcile_quiet`); `reconcile_stores` and `reconcile_passes` give
the answers with which it allocates the next address that has no live owner.
-/

namespace Aeraki.Proof.Kube

open Aeraki.Impl (ObjectKey)
open Aeraki.Impl.Kube

/-- The counters that `getNextIP` prints. -/
def InRange (n : Nat) : Prop := n < 255 * 255 ∧ (n % 255 = 0 → n = 0)

/-- The addresses that `getNextIP` returns. -/
def Allocatable (ip : String) : Prop := ∃ n, InRange n ∧ ip = ipOf n

theorem inRange_nextCounter (m : Nat) : InRange (nextCounter m) := by
  simp only [nextCounter, InRange]
  split <;> split <;> omega

section

variable (o : GoMap ObjectKey ServiceEntry) (f : String → Option ObjectKey) (key : ObjectKey)

/-- `autoAllocateIP` allocates an address, to be put before `rest`: the object
has none, or another live object owns it. -/
inductive Needs (se : ServiceEntry) : List String → Prop
  | unset (ha : se.addresses = []) : Needs se []
  | taken {ip : String} {rest : List String} {k : ObjectKey} (ha : se.addresses = ip :: rest)
    (hp : Go.hasPrefix ip "240.240" = true) (hf : f ip = some k) (hk : k ≠ key) (hl : o.lookup k ≠ none) :
    Needs se rest

/-- What a call of `Reconcile` does: nothing; or it records the VIP of its
object; or it takes an address that it does not manage to store; or it stores a
new address. -/
inductive Outcome : GoMap ObjectKey ServiceEntry → (String → Option ObjectKey) → Prop
  | same : Outcome o f
  | recorded {se : ServiceEntry} {ip : String} (hse : o.lookup key = some se) (hv : vip se = some ip)
    (hu : Unowned o f ip) : Outcome o (Function.update f ip (some key))
  | taken {ip : String} (hu : Unowned o f ip) : Outcome o (Function.update f ip none)
  | stored {se : ServiceEntry} {rest : List String} {ip : String} (v : Nat) (hse : o.lookup key = some se)
    (hr : se.resolution ≠ .NONE) (hn : Needs o f key se rest) (hip : Allocatable ip) (hu : Unowned o f ip) :
    Outcome (o.insert key { se with addresses := ip :: rest, resourceVersion := v })
      (Function.update f ip (some key))

/-- The stored objects and the table, when no user is going to act. -/
structure At (w : World) : Prop where
  quiet : ∀ t ∈ w.turns, t.users = []
  objects : w.objects = o
  table : ∀ ip, w.ctrl.serviceIPs.lookup ip = f ip

/-- The world after an outcome. -/
def After (w : World) : Prop := ∃ o' f', Outcome o f key o' f' ∧ At o' f' w

end

/-- An object that needs an address does not own its first one. -/
theorem Needs.not_owner {o : GoMap ObjectKey ServiceEntry} {f : String → Option ObjectKey} {key : ObjectKey}
    {se : ServiceEntry} {rest : List String} (hn : Needs o f key se rest) {ip : String}
    (h : f ip = some key → se.addresses.head? = some ip) : f ip ≠ some key := by
  intro hf
  have hhead := h hf
  cases hn with
  | unset ha => rw [ha] at hhead; cases hhead
  | taken ha _ hf' hk _ =>
    rw [ha] at hhead
    cases hhead
    rw [hf] at hf'
    exact hk (Option.some.inj hf').symm

/-! ## One call, whatever fails -/

section

variable {o : GoMap ObjectKey ServiceEntry} {f : String → Option ObjectKey} {key : ObjectKey}

theorem answer_quiet : Prog.Triple (At o f) answer (fun _ => At o f) (At o f) := by
  intro w h
  rcases w with ⟨ob, n, c, _ | ⟨⟨ops, fails⟩, ts⟩, tr⟩
  · exact h
  · obtain ⟨hq, ho, ht⟩ := h
    obtain ⟨rfl, hts⟩ := List.forall_mem_cons.mp hq
    cases fails with
    | true => exact ⟨hts, ho, ht⟩
    | false => exact ⟨hts, ho, ht⟩

/-- What `client.Get` answers about the stored objects. -/
def Answers (o : GoMap ObjectKey ServiceEntry) (key : ObjectKey) : GetResult → Prop
  | .found se => o.lookup key = some se
  | .notFound => o.lookup key = none
  | .failed => True

theorem get_quiet (k : ObjectKey) :
    Prog.Triple (At o f) (get k) (fun r w => At o f w ∧ Answers o k r) (At o f) := by
  refine get_rule answer_quiet (fun se w h hl => ⟨h, ?_⟩) (fun w h hl => ⟨h, ?_⟩) fun w h => ⟨h, trivial⟩
  · exact h.objects ▸ hl
  · exact h.objects ▸ hl

theorem update_quiet (k : ObjectKey) (se : ServiceEntry) :
    Prog.Triple (At o f) (update k se)
      (fun b w => if b then ∃ v, At (o.insert k { se with resourceVersion := v }) f w else At o f w) (At o f) := by
  refine update_rule answer_quiet (fun w h => ⟨w.nextVersion, h.quiet, ?_, h.table⟩) (fun w h _ => ?_) fun w h => h
  · exact congrArg (Finmap.insert k _) h.objects
  · exact ⟨h.quiet, h.objects, h.table⟩

theorem setIP_quiet (ip : String) (k : ObjectKey) {E : World → Prop} :
    Prog.Triple (At o f) (setIP ip k) (fun _ => At o (Function.update f ip (some k))) E :=
  .update fun w h => ⟨h.quiet, h.objects, fun r => by
    rw [Function.update_apply, ← h.table r]; exact GoMap.lookup_insert_eq _ _ _ _⟩

theorem deleteIP_quiet (ip : String) {E : World → Prop} :
    Prog.Triple (At o f) (deleteIP ip) (fun _ => At o (Function.update f ip none)) E :=
  .update fun w h => ⟨h.quiet, h.objects, fun r => by
    rw [Function.update_apply, ← h.table r]; exact GoMap.lookup_erase_eq _ _ _⟩

theorem lookupIP_quiet (ip : String) {E : World → Prop} :
    Prog.Triple (At o f) (lookupIP ip) (fun found w => At o f w ∧ found = f ip) E :=
  fun _ h => ⟨h, h.table ip⟩

theorem getNextIP_quiet {E : World → Prop} :
    Prog.Triple (At o f) getNextIP (fun ip w => At o f w ∧ Allocatable ip) E :=
  fun w h => ⟨⟨h.quiet, h.objects, h.table⟩, _, inRange_nextCounter w.ctrl.maxIP, rfl⟩

/-- The address is one without a live owner, and a dead one is forgotten. -/
theorem nextAvailableIP_quiet :
    Prog.Triple (At o f) nextAvailableIP
      (fun ip w => At o (Function.update f ip none) w ∧ Allocatable ip ∧ Unowned o f ip) (At o f) := by
  refine nextAvailableIP_rule (fun _ h => h) getNextIP_quiet
    (F := fun ip found w => (At o f w ∧ found = f ip) ∧ Allocatable ip)
    (G := fun ip r w => At o f w ∧ Allocatable ip ∧ (r = .notFound → Unowned o f ip))
    (fun ip => .fact fun hip => ?_) (fun ip w ⟨⟨h, hf⟩, hip⟩ => ⟨?_, hip, ?_⟩)
    (fun ip k => .fact fun hip => .fact fun hf => ?_) (fun ip => .fact fun ⟨hip, hu⟩ => ?_)
    (fun _ _ _ h => h.1) fun _ _ h => h.1
  · exact (lookupIP_quiet ip).conseq (fun _ h => h) fun _ _ h => ⟨h, hip⟩
  · rwa [Function.update_eq_self_iff.mpr hf]
  · intro k hk
    rw [← hf] at hk
    cases hk
  · refine (get_quiet k).conseq (fun _ h => h) fun r w ⟨h, ha⟩ => ⟨h, hip, ?_⟩
    rintro rfl k' hk'
    rw [← hf, Option.some.injEq] at hk'
    exact hk' ▸ ha
  · exact (deleteIP_quiet ip).conseq (fun _ h => h) fun _ _ h => ⟨h, hip, hu rfl⟩

theorem after_same {w : World} (h : At o f w) : After o f key w := ⟨o, f, .same, h⟩

/-- A new address is allocated and stored. -/
theorem allocate_quiet {se : ServiceEntry} {rest : List String} (hse : o.lookup key = some se)
    (hr : se.resolution ≠ .NONE) (hn : Needs o f key se rest) :
    Prog.Triple (At o f) (allocate key se rest) (fun _ => After o f key) (After o f key) := by
  refine (nextAvailableIP_quiet.stops fun _ => after_same).bind fun ip => .fact fun ⟨hip, hu⟩ => ?_
  have htaken : ∀ w, At o (Function.update f ip none) w → After o f key w := fun w h => ⟨_, _, .taken hu, h⟩
  refine ((update_quiet key _).stops htaken).bind fun b => ?_
  cases b with
  | false => exact .pure htaken
  | true =>
    refine .update fun w ⟨v, h⟩ => ⟨_, _, .stored v hse hr hn hip hu, h.quiet, h.objects, fun r => ?_⟩
    rw [Function.update_apply]
    refine (GoMap.lookup_insert_eq _ _ _ _).trans ?_
    split
    · rfl
    · rename_i hne
      rw [h.table r, Function.update_of_ne hne]

/-- A call of `autoAllocateIP` on the stored object. -/
theorem autoAllocateIP_quiet {se : ServiceEntry} (hse : o.lookup key = some se) :
    Prog.Triple (At o f) (autoAllocateIP key se) (fun _ => After o f key) (After o f key) := by
  have hrecord (ip : String) (hv : vip se = some ip) (hu : Unowned o f ip) :
      Prog.Triple (At o f) (setIP ip key) (fun _ => After o f key) (After o f key) :=
    (setIP_quiet ip key).conseq (fun _ h => h) fun _ _ h => ⟨_, _, .recorded hse hv hu, h⟩
  refine autoAllocateIP_rule (fun _ _ => after_same) (fun hr ha => allocate_quiet hse hr (.unset ha))
    (fun _ _ _ _ _ _ => after_same) fun ip rest hr ha hp => ?_
  have hv : vip se = some ip := vip_eq_some.mpr ⟨hr, by rw [ha]; rfl, hp⟩
  have hget (k : ObjectKey) : Prog.Triple (fun w => At o f w ∧ some k = f ip) (get k)
      (fun r w => (At o f w ∧ Answers o k r) ∧ some k = f ip) (After o f key) :=
    .fact fun hf => ((get_quiet k).stops fun _ => after_same).conseq (fun _ h => h) fun _ _ h => ⟨h, hf⟩
  refine claimVip_rule (lookupIP_quiet ip) (.fact fun hf => hrecord ip hv ?_) (fun w h => after_same h.1)
    (fun k _ => hget k) (fun k _ => .fact fun hf => .fact fun hg => hrecord ip hv ?_)
    (fun k se' he => .fact fun hf => .fact fun hg => allocate_quiet hse hr ?_) fun k _ w h => after_same h.1.1
  · intro k hk
    rw [← hf] at hk
    cases hk
  · intro k' hk'
    rw [← hf, Option.some.injEq] at hk'
    exact hk' ▸ hg
  · exact .taken ha hp hf.symm he (by rw [show o.lookup k = _ from hg]; simp)

/-- A call of `Reconcile` with users quiet has one of the outcomes, wherever it
gets. -/
theorem reconcile_quiet (key : ObjectKey) :
    Prog.Triple (At o f) (reconcile key) (fun _ => After o f key) (After o f key) := by
  refine reconcile_rule ((get_quiet key).stops fun _ => after_same) (fun _ h => after_same h.1)
    (fun _ h => after_same h.1) (R := fun se w => At o f w ∧ o.lookup key = some se)
    (fun se w h => ⟨⟨h.1.quiet, h.1.objects, h.1.table⟩, h.2⟩) (fun se => .fact fun hse => autoAllocateIP_quiet hse) ?_
  rintro w ⟨o', f', ho, hw⟩
  exact ⟨o', f', ho, hw.quiet, hw.objects, hw.table⟩

end

/-! ## The addresses in turn -/

/-- The counter after `n`. -/
def next (n : Nat) : Nat := nextCounter (n + 1)

theorem next_eq (n : Nat) : next n =
    if 255 * 255 ≤ (if (n + 1) % 255 = 0 then n + 2 else n + 1) then 0
    else if (n + 1) % 255 = 0 then n + 2 else n + 1 := by
  simp only [next, nextCounter]

theorem iterate_to_zero {c : Nat} (h : c < 255 * 255) : ∃ j, next^[j] c = 0 := by
  have hn : next c = 0 ∨ c < next c ∧ next c < 255 * 255 := by
    rw [next_eq]
    split <;> split <;> omega
  rcases hn with hn | ⟨hlt, hn⟩
  · exact ⟨1, hn⟩
  · obtain ⟨j, hj⟩ := iterate_to_zero hn
    exact ⟨j + 1, hj⟩
termination_by 255 * 255 - c

theorem iterate_from_zero : ∀ {n : Nat}, InRange n → ∃ j, next^[j] 0 = n
  | 0, _ => ⟨0, rfl⟩
  | 1, _ => ⟨1, by decide⟩
  | n + 2, h => by
    obtain ⟨hlt, h0⟩ := h
    by_cases hm : (n + 1) % 255 = 0
    · obtain ⟨j, hj⟩ := iterate_from_zero (n := n) ⟨by omega, by omega⟩
      refine ⟨j + 1, ?_⟩
      rw [Function.iterate_succ_apply', hj, next_eq, if_pos hm, if_neg (by omega)]
    · obtain ⟨j, hj⟩ := iterate_from_zero (n := n + 1) ⟨by omega, by omega⟩
      refine ⟨j + 1, ?_⟩
      rw [Function.iterate_succ_apply', hj, next_eq, if_neg (by omega : ¬(n + 1 + 1) % 255 = 0), if_neg (by omega)]

/-- The counter comes to every number in range. -/
theorem exists_iterate (m : Nat) {n : Nat} (h : InRange n) : ∃ j, next^[j] (nextCounter m) = n := by
  obtain ⟨i, hi⟩ := iterate_to_zero (inRange_nextCounter m).1
  obtain ⟨j, hj⟩ := iterate_from_zero h
  exact ⟨j + i, by rw [Function.iterate_add_apply, hi, hj]⟩

/-! ## One call, with given answers -/

/-- The world with the counter and the answers to come. -/
structure Ready (o : GoMap ObjectKey ServiceEntry) (f : String → Option ObjectKey) (m : Nat) (ts : List Turn)
    (w : World) : Prop where
  objects : w.objects = o
  table : ∀ ip, w.ctrl.serviceIPs.lookup ip = f ip
  counter : w.ctrl.maxIP = m
  turns : w.turns = ts

/-- The call of a program returns, in a world satisfying `Q`. -/
abbrev Returns {α : Type} (P : World → Prop) (m : Ctrl α) (Q : α → World → Prop) : Prop :=
  Prog.Triple P m Q fun _ => False

section

variable {o : GoMap ObjectKey ServiceEntry} {f : String → Option ObjectKey} {key : ObjectKey} {m : Nat}
  {ts : List Turn}

theorem answer_ready (fails : Bool) :
    Returns (Ready o f m ({ fails := fails } :: ts)) answer fun b w => Ready o f m ts w ∧ b = !fails := by
  rintro ⟨ob, n, c, _, tr⟩ ⟨ho, ht, hc, rfl⟩
  cases fails with
  | true => exact ⟨⟨ho, ht, hc, rfl⟩, rfl⟩
  | false => exact ⟨⟨ho, ht, hc, rfl⟩, rfl⟩

theorem get_ready (k : ObjectKey) :
    Returns (Ready o f m ({} :: ts)) (get k) fun r w =>
      Ready o f m ts w ∧ r = (o.lookup k).elim .notFound .found := by
  refine get_rule (answer_ready false) (fun se w h hl => ⟨h.1, ?_⟩) (fun w h hl => ⟨h.1, ?_⟩) fun w h => nomatch h.2
  · rw [← h.1.objects, hl]
    rfl
  · rw [← h.1.objects, hl]
    rfl

/-- An update that the API server accepts. -/
theorem update_ready {old : ServiceEntry} (se : ServiceEntry) (hold : o.lookup key = some old)
    (hv : old.resourceVersion = se.resourceVersion) :
    Returns (Ready o f m ({} :: ts)) (update key se) fun b w =>
      (∃ v, Ready (o.insert key { se with resourceVersion := v }) f m ts w) ∧ b = true := by
  refine update_rule (answer_ready false) (fun w h => ⟨⟨w.nextVersion, ?_, h.1.table, h.1.counter, h.1.turns⟩, rfl⟩)
    (fun w h hc => absurd hv (hc old ?_)) fun w h => nomatch h.2
  · exact congrArg (Finmap.insert key _) h.1.objects
  · rw [h.1.objects, hold]

/-- An update that fails. -/
theorem update_fails {se : ServiceEntry} :
    Returns (Ready o f m ({ fails := true } :: ts)) (update key se) fun b w => Ready o f m ts w ∧ b = false := by
  exact update_rule (answer_ready true) (fun w h => nomatch h.2) (fun w h _ => nomatch h.2) fun w h => ⟨h.1, rfl⟩

theorem getNextIP_ready :
    Returns (Ready o f m ts) getNextIP fun ip w =>
      Ready o f (nextCounter m + 1) ts w ∧ ip = ipOf (nextCounter m) := by
  intro w h
  have hc : w.ctrl.maxIP = m := h.counter
  subst hc
  exact ⟨⟨h.objects, h.table, rfl, h.turns⟩, rfl⟩

theorem lookupIP_ready (ip : String) :
    Returns (Ready o f m ts) (lookupIP ip) fun found w => Ready o f m ts w ∧ found = f ip :=
  fun _ h => ⟨h, h.table ip⟩

theorem deleteIP_ready (ip : String) :
    Returns (Ready o f m ts) (deleteIP ip) fun _ => Ready o (Function.update f ip none) m ts :=
  .update fun w h => ⟨h.objects, fun r => by
    rw [Function.update_apply, ← h.table r]; exact GoMap.lookup_erase_eq _ _ _, h.counter, h.turns⟩

/-- Answers to `n` calls. -/
def answers (n : Nat) : List Turn := List.replicate n {}

/-- One turn of the loop. -/
theorem nextAvailableIPLoop_turn {fuel : Nat} {Q : String → World → Prop}
    (h : Returns (Ready o f (nextCounter m + 1) ts)
      (match f (ipOf (nextCounter m)) with
      | some key => do
        match ← get key with
        | .notFound =>
          deleteIP (ipOf (nextCounter m))
          return ipOf (nextCounter m)
        | _ => nextAvailableIPLoop fuel
      | none => return ipOf (nextCounter m)) Q) :
    Returns (Ready o f m ts) (nextAvailableIPLoop (fuel + 1)) Q := by
  refine getNextIP_ready.bind fun ip => .fact ?_
  rintro rfl
  refine (lookupIP_ready _).bind fun found => .fact ?_
  rintro rfl
  exact h

/-- The loop passes the addresses with a live owner and returns the first
without one, if it gets enough answers. -/
theorem nextAvailableIPLoop_ready : ∀ (i m : Nat),
    (∀ j < i, ¬ Unowned o f (ipOf (next^[j] (nextCounter m)))) → Unowned o f (ipOf (next^[i] (nextCounter m))) →
    ∃ n, i ≤ n ∧ ∀ fuel, i ≤ fuel → ∀ ts,
      Returns (Ready o f m (answers n ++ ts)) (nextAvailableIPLoop (fuel + 1)) fun ip w =>
        Ready o (Function.update f ip none) (next^[i] (nextCounter m) + 1) ts w ∧
          ip = ipOf (next^[i] (nextCounter m))
  | 0, m, _, hu => by
    rw [Function.iterate_zero, id_eq] at hu ⊢
    cases hf : f (ipOf (nextCounter m)) with
    | none =>
      refine ⟨0, le_rfl, fun fuel _ ts => nextAvailableIPLoop_turn ?_⟩
      rw [hf]
      have hsame : Function.update f (ipOf (nextCounter m)) none = f := Function.update_eq_self_iff.mpr hf.symm
      exact .pure fun w h => ⟨hsame.symm ▸ h, rfl⟩
    | some k =>
      -- the dead owner is looked up, and forgotten
      refine ⟨1, Nat.zero_le 1, fun fuel _ ts => nextAvailableIPLoop_turn ?_⟩
      rw [hf]
      refine (get_ready k).bind fun r => .fact ?_
      rintro rfl
      rw [hu k hf]
      exact (deleteIP_ready _).bind fun _ => .pure fun w h => ⟨h, rfl⟩
  | i + 1, m, hbusy, hu => by
    have h0 := hbusy 0 (Nat.succ_pos i)
    simp only [Function.iterate_zero, id_eq, Unowned, not_forall] at h0
    obtain ⟨k, hf, hk⟩ := h0
    obtain ⟨se, hse⟩ := Option.ne_none_iff_exists'.mp hk
    obtain ⟨n, hin, hn⟩ := nextAvailableIPLoop_ready i (nextCounter m + 1)
      (fun j hj => hbusy (j + 1) (Nat.succ_lt_succ hj)) hu
    refine ⟨n + 1, Nat.succ_le_succ hin, fun fuel hfuel ts => nextAvailableIPLoop_turn ?_⟩
    rw [hf]
    refine (get_ready k).bind fun r => .fact ?_
    rintro rfl
    rw [hse]
    obtain ⟨fuel, rfl⟩ : ∃ k, fuel = k + 1 := ⟨fuel - 1, by omega⟩
    exact hn fuel (Nat.le_of_succ_le_succ hfuel) ts

end

section

variable (o : GoMap ObjectKey ServiceEntry) (f : String → Option ObjectKey)

/-- `c` is the first counter, from `maxIP = m`, whose address has no live owner. -/
def FirstFree (m c : Nat) : Prop :=
  ∃ i, c = next^[i] (nextCounter m) ∧ (∀ j < i, ¬ Unowned o f (ipOf (next^[j] (nextCounter m)))) ∧
    Unowned o f (ipOf c)

variable {o f}

theorem exists_firstFree (m : Nat) {n : Nat} (hn : InRange n) (hu : Unowned o f (ipOf n)) :
    ∃ c, FirstFree o f m c := by
  classical
  have h : ∃ j, Unowned o f (ipOf (next^[j] (nextCounter m))) := by
    obtain ⟨j, hj⟩ := exists_iterate m hn
    exact ⟨j, hj ▸ hu⟩
  exact ⟨_, Nat.find h, rfl, fun j hj => Nat.find_min h hj, Nat.find_spec h⟩

variable {key : ObjectKey} {se : ServiceEntry} {rest : List String} {m c : Nat}

theorem nextAvailableIP_ready (h : FirstFree o f m c) : ∃ n, ∀ ts,
    Returns (Ready o f m (answers n ++ ts)) nextAvailableIP fun ip w =>
      Ready o (Function.update f ip none) (c + 1) ts w ∧ ip = ipOf c := by
  obtain ⟨i, rfl, hbusy, hu⟩ := h
  obtain ⟨n, hin, hn⟩ := nextAvailableIPLoop_ready i m hbusy hu
  refine ⟨n, fun ts => ?_⟩
  refine (Prog.Triple.state (Q := fun v w => Ready o f m (answers n ++ ts) w ∧ v.turns = answers n ++ ts)
    fun w h => ⟨h, h.turns⟩).bind fun v => .fact fun hv => hn _ ?_ ts
  rw [hv, List.length_append, answers, List.length_replicate]
  omega

/-- An object that needs an address gets to the allocation. -/
theorem autoAllocateIP_ready (hr : se.resolution ≠ .NONE) (hn : Needs o f key se rest) : ∃ n, ∀ ts Q,
    Returns (Ready o f m ts) (allocate key se rest) Q →
    Returns (Ready o f m (answers n ++ ts)) (autoAllocateIP key se) Q := by
  unfold autoAllocateIP
  rw [if_neg hr]
  cases hn with
  | unset ha => exact ⟨0, fun ts Q h => by rw [ha]; exact h⟩
  | @taken ip _ k ha hp hf hk hl =>
    refine ⟨1, fun ts Q h => ?_⟩
    rw [ha]
    simp only [hp, Bool.not_true, Bool.false_eq_true, if_false]
    refine (lookupIP_ready ip).bind fun found => .fact ?_
    rintro rfl
    rw [hf]
    simp only [hk, ne_eq, not_false_eq_true, if_true]
    refine (get_ready k).bind fun r => .fact ?_
    rintro rfl
    obtain ⟨se', hse'⟩ := Option.ne_none_iff_exists'.mp hl
    rw [hse']
    exact h

/-- The answers with which `Reconcile` gets to store the next address for an
object that needs one, where `t` answers the update. -/
theorem reconcile_allocates (hse : o.lookup key = some se) (hr : se.resolution ≠ .NONE)
    (hn : Needs o f key se rest) (hc : FirstFree o f m c) : ∃ n, ∀ (t : Turn) (Q : World → Prop),
      Returns (Ready o (Function.update f (ipOf c) none) (c + 1) [t])
        (updateServiceEntry { se with addresses := ipOf c :: rest } key) (fun _ => Q) →
      (∀ w e, Q w → Q { w with trace := e :: w.trace }) →
      Returns (Ready o f m (answers n ++ [t])) (reconcile key) fun _ => Q := by
  obtain ⟨n₁, h₁⟩ := autoAllocateIP_ready (m := m) hr hn
  obtain ⟨n₂, h₂⟩ := nextAvailableIP_ready hc
  refine ⟨1 + (n₁ + n₂), fun t Q h hQ => ?_⟩
  have hts : answers (1 + (n₁ + n₂)) ++ [t] = {} :: (answers n₁ ++ (answers n₂ ++ [t])) := by
    simp only [answers, List.replicate_add, List.replicate_one, List.append_assoc, List.cons_append, List.nil_append]
  rw [hts]
  refine (get_ready key).bind fun r => .fact ?_
  rintro rfl
  rw [hse]
  refine (Prog.Triple.update (Q := fun _ => Ready o f m _) fun w h => ⟨h.objects, h.table, h.counter, h.turns⟩).bind
    fun _ => ?_
  refine (h₁ _ (fun _ => Q) ((h₂ [t]).bind fun ip => .fact ?_)).bind fun _ => ?_
  · rintro rfl
    exact h
  · exact (Prog.Triple.update (Q := fun _ => Q) fun w hw => hQ w _ hw).bind fun _ => .pure fun _ h => h

/-- If the update is answered, the address is stored. -/
theorem reconcile_stores (hse : o.lookup key = some se) (hr : se.resolution ≠ .NONE) (hn : Needs o f key se rest)
    (hc : FirstFree o f m c) : ∃ n, Returns (Ready o f m (answers n ++ [{ fails := false }])) (reconcile key)
      fun _ w => ∃ v, w.objects = o.insert key { se with addresses := ipOf c :: rest, resourceVersion := v } := by
  obtain ⟨n, hn⟩ := reconcile_allocates hse hr hn hc
  refine ⟨n, hn {} _ ?_ fun _ _ h => h⟩
  refine (update_ready { se with addresses := ipOf c :: rest } hse rfl).bind fun b => .fact ?_
  rintro rfl
  exact .update fun w ⟨v, h⟩ => ⟨v, h.objects⟩

/-- If the update fails, the counter has moved on. -/
theorem reconcile_passes (hse : o.lookup key = some se) (hr : se.resolution ≠ .NONE) (hn : Needs o f key se rest)
    (hc : FirstFree o f m c) : ∃ n, Returns (Ready o f m (answers n ++ [{ fails := true }])) (reconcile key)
      fun _ => Ready o (Function.update f (ipOf c) none) (c + 1) [] := by
  obtain ⟨n, hn⟩ := reconcile_allocates hse hr hn hc
  refine ⟨n, hn _ _ ?_ fun _ _ h => ⟨h.objects, h.table, h.counter, h.turns⟩⟩
  refine update_fails.bind fun b => .fact ?_
  rintro rfl
  exact .pure fun _ h => h

end

/-! ## Calls as steps -/

/-- A call of `Reconcile` during which no user acts. -/
def Call (key : ObjectKey) (s t : State) : Prop :=
  s.busy = false ∧ ∃ turns : List Turn, (∀ u ∈ turns, u.users = []) ∧
    t = { world := (reconcile key { s.world with turns := turns }).2
          busy := (reconcile key { s.world with turns := turns }).1.isNone }

/-- The table of the controller. -/
def tableOf (s : State) (ip : String) : Option ObjectKey := s.world.ctrl.serviceIPs.lookup ip

/-- A call has one of the outcomes. -/
theorem Call.after {key : ObjectKey} {s t : State} (h : Call key s t) :
    After s.world.objects (tableOf s) key t.world := by
  obtain ⟨-, turns, hq, rfl⟩ := h
  have := reconcile_quiet key { s.world with turns := turns } ⟨hq, rfl, fun _ => rfl⟩
  rcases hr : reconcile key { s.world with turns := turns } with ⟨_ | r, w⟩ <;> rw [hr] at this
  · exact this
  · exact this

/-- A call that returns is a step. -/
theorem exists_call {o : GoMap ObjectKey ServiceEntry} {f : String → Option ObjectKey} {key : ObjectKey} {m : Nat}
    {s : State} {ts turns : List Turn} (hb : s.busy = false) (h : Ready o f m ts s.world)
    (hq : ∀ u ∈ turns, u.users = []) {Q : World → Prop}
    (hcall : Returns (Ready o f m turns) (reconcile key) fun _ => Q) :
    ∃ t, Call key s t ∧ t.busy = false ∧ Q t.world := by
  obtain ⟨r, w, hr, hQ⟩ := hcall.returns (s := { s.world with turns := turns }) ⟨h.objects, h.table, h.counter, rfl⟩
  refine ⟨⟨w, false⟩, ⟨hb, turns, hq, ?_⟩, rfl, hQ⟩
  rw [hr]
  rfl

theorem quiet_answers (n : Nat) (fails : Bool) : ∀ u ∈ answers n ++ [{ fails := fails }], u.users = [] := by
  intro u hu
  rcases List.mem_append.mp hu with hu | hu
  · rw [List.eq_of_mem_replicate hu]
  · rw [List.mem_singleton.mp hu]

end Aeraki.Proof.Kube
