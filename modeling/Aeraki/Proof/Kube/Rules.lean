import Aeraki.Impl.Kube.ServiceEntry

/-!
# Rules for the controller's programs

One rule for each program of the ServiceEntry controller: what has to hold at
its calls and its returns for a triple about it. `get_rule` and `update_rule`
take a triple about the answer of the API server, `nextAvailableIP_rule` an
invariant of the loop, and `autoAllocateIP_rule`, `claimVip_rule` and
`reconcile_rule` follow the branches of the code.
-/

namespace Aeraki.Proof.Kube

open Aeraki.Impl (ObjectKey)
open Aeraki.Impl.Kube

section

variable {P E : World → Prop} {key : ObjectKey} {se : ServiceEntry}

/-! ## Calls to the API server -/

theorem get_rule {A : Bool → World → Prop} {Q : GetResult → World → Prop} (hanswer : Prog.Triple P answer A E)
    (hfound : ∀ se w, A true w → w.objects.lookup key = some se → Q (.found se) w)
    (hmissing : ∀ w, A true w → w.objects.lookup key = none → Q .notFound w)
    (hfailed : ∀ w, A false w → Q .failed w) : Prog.Triple P (get key) Q E := by
  refine hanswer.bind fun b => ?_
  cases b with
  | false => exact .pure hfailed
  | true =>
    refine .read fun v hv => ?_
    split <;> rename_i hl
    · exact .pure fun w e => e ▸ hfound _ v hv hl
    · exact .pure fun w e => e ▸ hmissing v hv hl

/-- The stored object has another resource version, or is gone. -/
def Conflicts (key : ObjectKey) (se : ServiceEntry) (w : World) : Prop :=
  ∀ old, w.objects.lookup key = some old → old.resourceVersion ≠ se.resourceVersion

theorem update_rule {A : Bool → World → Prop} {Q : Bool → World → Prop} (hanswer : Prog.Triple P answer A E)
    (hstored : ∀ w, A true w → Q true (w.put key se))
    (hconflict : ∀ w, A true w → Conflicts key se w → Q false { w with trace := .failed :: w.trace })
    (hfailed : ∀ w, A false w → Q false w) : Prog.Triple P (update key se) Q E := by
  refine hanswer.bind fun b => ?_
  cases b with
  | false => exact .pure hfailed
  | true =>
    refine .read fun v hv => ?_
    have hfail (hc : Conflicts key se v) : Prog.Triple (fun w => w = v)
        (do Prog.update fun w => { w with trace := .failed :: w.trace }; return false) Q E :=
      fun w e => e ▸ hconflict v hv hc
    split <;> rename_i hl
    · split <;> rename_i hver
      · exact fun w e => e ▸ hstored v hv
      · refine hfail fun old ho => ?_
        cases hl.symm.trans ho
        exact hver
    · refine hfail fun old ho => ?_
      cases hl.symm.trans ho

/-! ## Allocation -/

/-- The loop keeps `P` while it passes addresses. -/
theorem nextAvailableIP_rule {N : String → World → Prop} {F : String → Option ObjectKey → World → Prop}
    {G : String → GetResult → World → Prop} {Q : String → World → Prop} (hstop : ∀ w, P w → E w)
    (hnext : Prog.Triple P getNextIP N E) (hlookup : ∀ ip, Prog.Triple (N ip) (lookupIP ip) (F ip) E)
    (hfree : ∀ ip w, F ip none w → Q ip w) (hget : ∀ ip k, Prog.Triple (F ip (some k)) (get k) (G ip) E)
    (hgone : ∀ ip, Prog.Triple (G ip .notFound) (deleteIP ip) (fun _ => Q ip) E)
    (hfound : ∀ ip se w, G ip (.found se) w → P w) (hfailed : ∀ ip w, G ip .failed w → P w) :
    Prog.Triple P nextAvailableIP Q E := by
  have hloop (fuel : Nat) : Prog.Triple P (nextAvailableIPLoop fuel) Q E := by
    induction fuel with
    | zero => exact .stop hstop
    | succ fuel ih =>
      refine hnext.bind fun ip => (hlookup ip).bind fun found => ?_
      cases found with
      | none => exact .pure (hfree ip)
      | some k =>
        refine (hget ip k).bind fun r => ?_
        cases r with
        | notFound => exact (hgone ip).bind fun _ => .pure fun _ h => h
        | found se => exact ih.conseq (hfound ip se) fun _ _ h => h
        | failed => exact ih.conseq (hfailed ip) fun _ _ h => h
  exact (Prog.Triple.state (Q := fun _ => P) fun _ h => h).bind fun _ => hloop _

/-- A new address for the object. -/
def allocate (key : ObjectKey) (se : ServiceEntry) (rest : List String) : Ctrl Unit := do
  let newIP ← nextAvailableIP
  updateServiceEntry { se with addresses := newIP :: rest } key

/-- The branch of `autoAllocateIP` for an object with a VIP. -/
def claimVip (key : ObjectKey) (se : ServiceEntry) (ip : String) (rest : List String) : Ctrl Unit := do
  match ← lookupIP ip with
  | some existingKey =>
    if existingKey ≠ key then
      match ← get existingKey with
      | .found _ => allocate key se rest
      | .notFound => setIP ip key
      | .failed => return
  | none => setIP ip key

variable {Q : Unit → World → Prop}

theorem autoAllocateIP_rule (hnone : se.resolution = .NONE → ∀ w, P w → Q () w)
    (hunset : se.resolution ≠ .NONE → se.addresses = [] → Prog.Triple P (allocate key se []) Q E)
    (hforeign : ∀ ip rest, se.resolution ≠ .NONE → se.addresses = ip :: rest → ¬ Go.hasPrefix ip "240.240" = true →
      ∀ w, P w → Q () w)
    (hvip : ∀ ip rest, se.resolution ≠ .NONE → se.addresses = ip :: rest → Go.hasPrefix ip "240.240" = true →
      Prog.Triple P (claimVip key se ip rest) Q E) : Prog.Triple P (autoAllocateIP key se) Q E := by
  unfold autoAllocateIP
  by_cases hr : se.resolution = .NONE
  · rw [if_pos hr]
    exact .pure (hnone hr)
  rw [if_neg hr]
  cases ha : se.addresses with
  | nil => exact hunset hr ha
  | cons ip rest =>
    by_cases hp : Go.hasPrefix ip "240.240" = true
    · simp only [hp, Bool.not_true, Bool.false_eq_true, if_false]
      exact hvip ip rest hr ha hp
    · simp only [hp, Bool.not_false, if_true]
      exact .pure (hforeign ip rest hr ha hp)

theorem claimVip_rule {ip : String} {rest : List String} {F : Option ObjectKey → World → Prop}
    {G : ObjectKey → GetResult → World → Prop} (hlookup : Prog.Triple P (lookupIP ip) F E)
    (hfree : Prog.Triple (F none) (setIP ip key) Q E) (hown : ∀ w, F (some key) w → Q () w)
    (hget : ∀ k, k ≠ key → Prog.Triple (F (some k)) (get k) (G k) E)
    (hgone : ∀ k, k ≠ key → Prog.Triple (G k .notFound) (setIP ip key) Q E)
    (htaken : ∀ k se', k ≠ key → Prog.Triple (G k (.found se')) (allocate key se rest) Q E)
    (hfailed : ∀ k, k ≠ key → ∀ w, G k .failed w → Q () w) : Prog.Triple P (claimVip key se ip rest) Q E := by
  refine hlookup.bind fun found => ?_
  cases found with
  | none => exact hfree
  | some k =>
    by_cases he : k = key
    · simp only [he, ne_eq, not_true_eq_false, if_false]
      exact .pure hown
    · simp only [he, ne_eq, not_false_eq_true, if_true]
      refine (hget k he).bind fun r => ?_
      cases r with
      | found se' => exact htaken k se' he
      | notFound => exact hgone k he
      | failed => exact .pure (hfailed k he)

/-! ## A call of `Reconcile` -/

theorem reconcile_rule {G : GetResult → World → Prop} {R : ServiceEntry → World → Prop} {D : World → Prop}
    {Q : Option String → World → Prop} (hget : Prog.Triple P (get key) G E)
    (hgone : ∀ w, G .notFound w → Q none w)
    (hfailed : ∀ w, G .failed w → Q (some "could not fetch ServiceEntry") w)
    (hread : ∀ se w, G (.found se) w → R se { w with trace := .read key :: w.trace })
    (hallocate : ∀ se, Prog.Triple (R se) (autoAllocateIP key se) (fun _ => D) E)
    (hreturned : ∀ w, D w → Q none { w with trace := .returned key :: w.trace }) :
    Prog.Triple P (reconcile key) Q E := by
  refine hget.bind fun r => ?_
  cases r with
  | notFound => exact .pure hgone
  | failed => exact .pure hfailed
  | found se =>
    refine (Prog.Triple.update (hread se)).bind fun _ => (hallocate se).bind fun _ => ?_
    exact (Prog.Triple.update (Q := fun _ => Q none) hreturned).bind fun _ => .pure fun _ h => h

end

end Aeraki.Proof.Kube
