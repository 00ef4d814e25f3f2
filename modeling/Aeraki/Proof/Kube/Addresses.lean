import Aeraki.Proof.Kube.Calls

/-!
# The addresses that are allocated

`getNextIP` counts through the host addresses of 240.240.0.0/16, from 240.240.0.1
to 240.240.254.254 (`next_counterAt`). When it starts again it forgets to skip the
first number, so that every 64771st call returns 240.240.0.0 (`host_iff`). It
comes to each host address nevertheless, so that `nextAvailableIP` finds a free
one if there is any (`nextAvailableIP_finds`).
-/

namespace Aeraki.Proof.Kube

open Aeraki.Impl.Kube

/-- The address 240.240.`t`.`f`. -/
def address (t f : Nat) : String := "240.240." ++ Go.itoa t ++ "." ++ Go.itoa f

/-- The host addresses of the pool. -/
def Host (ip : String) : Prop := ∃ t f, t ≤ 254 ∧ 1 ≤ f ∧ f ≤ 254 ∧ ip = address t f

theorem address_inj {t f t' f' : Nat} : address t f = address t' f' ↔ t = t' ∧ f = f' := by
  unfold address
  rw [Go.append_itoa_inj rfl rfl, String.append_right_inj, Go.itoa_inj]

/-- Of the counters in range, only 0 is not that of a host address. -/
theorem host_ipOf_iff {n : Nat} (h : InRange n) : Host (ipOf n) ↔ n ≠ 0 := by
  obtain ⟨hlt, hzero⟩ := h
  constructor
  · rintro ⟨t, f, -, hf, -, hip⟩ rfl
    obtain ⟨-, hf0⟩ := address_inj.mp (show address (0 / 255) (0 % 255) = address t f from hip)
    omega
  · intro hn
    exact ⟨n / 255, n % 255, by omega, by omega, by omega, rfl⟩

/-! ## The calls in turn -/

/-- The world after `k` calls of `getNextIP`. -/
def afterCalls (k : Nat) (w : World) : World := (fun w => (getNextIP w).2)^[k] w

theorem nextCounter_afterCalls (w : World) : ∀ k,
    nextCounter (afterCalls k w).ctrl.maxIP = next^[k] (nextCounter w.ctrl.maxIP)
  | 0 => rfl
  | k + 1 => by
    rw [Function.iterate_succ_apply', ← nextCounter_afterCalls w k, afterCalls, Function.iterate_succ_apply']
    rfl

/-- The address that the call after these returns. -/
theorem getNextIP_afterCalls (w : World) (k : Nat) :
    (getNextIP (afterCalls k w)).1 = some (ipOf (next^[k] (nextCounter w.ctrl.maxIP))) := by
  rw [← nextCounter_afterCalls]
  rfl

/-- The counter of the `k`-th call, from 1. There are 254 calls to 255 numbers,
since the multiples of 255 are skipped, except for 0. -/
def counterAt (k : Nat) : Nat := if k % 64771 = 0 then 0 else k % 64771 + (k % 64771 - 1) / 254

theorem counterAt_eq_zero_iff {k : Nat} : counterAt k = 0 ↔ 64771 ∣ k := by
  rw [counterAt, Nat.dvd_iff_mod_eq_zero]
  split <;> omega

theorem next_counterAt (k : Nat) : next (counterAt k) = counterAt (k + 1) := by
  have hlt : k % 64771 < 64771 := Nat.mod_lt k (by decide)
  have hsucc : (k + 1) % 64771 = if k % 64771 = 64770 then 0 else k % 64771 + 1 := by
    split <;> omega
  rw [next_eq, counterAt, counterAt, hsucc]
  generalize k % 64771 = r at hlt
  by_cases hzero : r = 0
  · subst hzero
    rfl
  by_cases hlast : r = 64770
  · subst hlast
    rfl
  rw [if_neg hzero, if_neg hlast, if_neg (Nat.succ_ne_zero r), Nat.add_sub_cancel]
  -- the last of 254 calls is followed by one that skips a number
  by_cases hskip : (r + (r - 1) / 254 + 1) % 255 = 0
  · rw [if_pos hskip, if_neg (by omega)]
    omega
  · rw [if_neg hskip, if_neg (by omega)]
    omega

theorem iterate_next_one : ∀ k, next^[k] 1 = counterAt (k + 1)
  | 0 => rfl
  | k + 1 => by rw [Function.iterate_succ_apply', iterate_next_one k, next_counterAt]

variable {w : World}

theorem getNextIP_counterAt (hw : w.ctrl.maxIP = 0) (k : Nat) :
    (getNextIP (afterCalls k w)).1 = some (ipOf (counterAt (k + 1))) := by
  rw [getNextIP_afterCalls, hw, ← iterate_next_one]
  rfl

theorem inRange_counterAt (k : Nat) : InRange (counterAt k) := by
  cases k with
  | zero => exact ⟨by decide, fun _ => rfl⟩
  | succ k =>
    rw [← next_counterAt]
    exact inRange_nextCounter _

/-- From `maxIP = 0`, a call of `getNextIP` returns a host address if and only if its
number is no multiple of 64771. -/
theorem host_iff (hw : w.ctrl.maxIP = 0) (k : Nat) :
    (∃ ip, (getNextIP (afterCalls k w)).1 = some ip ∧ Host ip) ↔ ¬64771 ∣ k + 1 := by
  rw [getNextIP_counterAt hw, ← counterAt_eq_zero_iff, ← ne_eq, ← host_ipOf_iff (inRange_counterAt _)]
  simp only [Option.some.injEq, exists_eq_left']

/-- A controller that starts. -/
def freshWorld : World where
  objects := ∅
  nextVersion := 0
  ctrl := {}

theorem first_host : ∃ ip, (getNextIP (afterCalls 0 freshWorld)).1 = some ip ∧ Host ip :=
  (host_iff rfl 0).mpr (by decide)

/-- The first call after the last host address. -/
theorem wrapped_zero : (getNextIP (afterCalls 64770 freshWorld)).1 = some "240.240.0.0" := by
  rw [getNextIP_counterAt rfl]
  decide +kernel

/-! ## Free addresses -/

/-- If a host address is free, `nextAvailableIP` returns with a free address, which is no
longer in the table, given enough answers. -/
theorem nextAvailableIP_finds {ip : String} (hip : Host ip) (hfree : Free w ip) : ∃ n, ∀ turns, ∃ found w',
    nextAvailableIP { w with turns := answers n ++ turns } = (some found, w') ∧
      Free w found ∧ w'.ctrl.serviceIPs.lookup found = none ∧
      ∀ other ≠ found, w'.ctrl.serviceIPs.lookup other = w.ctrl.serviceIPs.lookup other := by
  obtain ⟨t, f, ht, hf, hf', rfl⟩ := hip
  have hip : address t f = ipOf (255 * t + f) := by
    rw [ipOf, Nat.mul_add_div (by decide), Nat.mul_add_mod, Nat.div_eq_of_lt (by omega), Nat.mod_eq_of_lt (by omega)]
    rfl
  rw [hip] at hfree
  obtain ⟨c, hc⟩ := exists_firstFree (o := w.objects) (f := fun ip => w.ctrl.serviceIPs.lookup ip) w.ctrl.maxIP
    (n := 255 * t + f) ⟨by omega, by omega⟩ hfree
  obtain ⟨n, hn⟩ := nextAvailableIP_ready hc
  refine ⟨n, fun turns => ?_⟩
  obtain ⟨found, w', hrun, hw', rfl⟩ := (hn turns).returns (s := { w with turns := answers n ++ turns })
    ⟨rfl, fun _ => rfl, rfl, rfl⟩
  obtain ⟨i, rfl, -, hunowned⟩ := hc
  refine ⟨_, w', hrun, hunowned, ?_, fun other hne => ?_⟩
  · rw [hw'.table, Function.update_self]
  · rw [hw'.table, Function.update_of_ne hne]

/-- A controller whose table has an address of a ServiceEntry that is gone. -/
def recyclingWorld : World :=
  { freshWorld with ctrl := { serviceIPs := Finmap.insert "240.240.0.1" ⟨"ns", "gone"⟩ ∅ } }

theorem address_recycled : ∃ n, ∀ turns, ∃ found w',
    nextAvailableIP { recyclingWorld with turns := answers n ++ turns } = (some found, w') ∧
      Free recyclingWorld found ∧ w'.ctrl.serviceIPs.lookup found = none ∧
      ∀ other ≠ found, w'.ctrl.serviceIPs.lookup other = recyclingWorld.ctrl.serviceIPs.lookup other :=
  nextAvailableIP_finds (show Host "240.240.0.1" from ⟨0, 1, by decide, by decide, by decide, rfl⟩) fun _ _ => rfl

end Aeraki.Proof.Kube
