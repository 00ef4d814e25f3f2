import Aeraki.Impl.Kube.MetaProtocol

/-!
# The registry of codecs

A Reconcile stores the codec of a live ApplicationProtocol (`step_cases`), so the
registry has the codecs of all of them (`registered_run`) and, for other protocols,
what was stored last (`codecs_foldl`): nothing undoes what a resource has registered
before it was renamed or deleted. And the Reconcile of a deleted resource fails
each time (`requeued_of_deleted`). So the registry follows the resources exactly if
none is deleted and no resource gives up a protocol, but for the codecs that are
built in (`follows_iff`).
-/

namespace Aeraki.Proof.Kube

open Aeraki.Impl
open Aeraki.Impl.Kube

variable {r : MetaProtocolController} {w : ProtocolWorld} {op : ProtocolOp × Oracle}
  {history : List (ProtocolOp × Oracle)}

/-! ## One change -/

/-- The call of `Get` after the change has been answered. -/
def Answered (op : ProtocolOp × Oracle) : Prop := op.2.callError ["Get"] = none

/-- A Reconcile of a live resource stores its codec. -/
theorem reconcile_live {o : Oracle} {server : ApplicationProtocols} {key : ObjectKey} {ap : ApplicationProtocol}
    (ho : o.callError ["Get"] = none) (h : server.lookup key = some ap) (codecs : Codecs) :
    (r.reconcile o server codecs key).2 = codecs.insert ap.protocol ap.codec := by
  have hget : getApplicationProtocol o server key = .ok ap := by
    unfold getApplicationProtocol
    rw [ho]
    dsimp only
    rw [h]
  unfold MetaProtocolController.reconcile
  rw [hget]
  dsimp only
  split
  · split <;> rfl
  · rfl

/-- A Reconcile of a resource that is not there fails, and changes nothing. -/
theorem reconcile_missing {server : ApplicationProtocols} {key : ObjectKey} (h : server.lookup key = none) (o : Oracle)
    (codecs : Codecs) : ∃ err, r.reconcile o server codecs key = ({ requeue := true, err := some err }, codecs) := by
  have hget : ∃ err, getApplicationProtocol o server key = .error err := by
    unfold getApplicationProtocol
    cases o.callError ["Get"] with
    | some err => exact ⟨err, rfl⟩
    | none =>
      rw [h]
      exact ⟨_, rfl⟩
  obtain ⟨err, hget⟩ := hget
  refine ⟨err, ?_⟩
  unfold MetaProtocolController.reconcile
  rw [hget]

/-- An update whose event does not pass has not changed the spec. -/
theorem spec_of_filtered {old : ApplicationProtocol} {protocol codec : String} {deletionTimestamp : Option Nat}
    (h : updateFunc old (ProtocolOp.updated old protocol codec deletionTimestamp) = false) :
    protocol = old.protocol ∧ codec = old.codec := by
  have hgeneration : old.generation = (ProtocolOp.updated old protocol codec deletionTimestamp).generation :=
    of_not_not (of_decide_eq_false (Bool.or_eq_false_iff.mp h).2)
  unfold ProtocolOp.updated at hgeneration
  dsimp only at hgeneration
  split at hgeneration
  · rename_i hspec
    exact ⟨hspec.1.symm, hspec.2.symm⟩
  · omega

/-- What a change can do: it is rejected, writes an object, writes one in a way that
the predicates filter, or deletes one. -/
theorem apply_cases (server : ApplicationProtocols) (op : ProtocolOp) :
    op.apply server = none ∨
    (∃ ap, op.apply server = some (server.insert op.key ap, true)) ∨
    (∃ old ap, server.lookup op.key = some old ∧ ap.protocol = old.protocol ∧ ap.codec = old.codec ∧
      op.apply server = some (server.insert op.key ap, false)) ∨
    ∃ key old, op = .delete key ∧ server.lookup key = some old ∧ op.apply server = some (server.erase key, true) := by
  cases op with
  | create key protocol codec =>
    cases hold : server.lookup key with
    | some old => exact .inl (by rw [ProtocolOp.apply, hold])
    | none => exact .inr (.inl ⟨_, by rw [ProtocolOp.apply, hold]; rfl⟩)
  | update key protocol codec deletionTimestamp =>
    cases hold : server.lookup key with
    | none => exact .inl (by rw [ProtocolOp.apply, hold])
    | some old =>
      have happly : (ProtocolOp.update key protocol codec deletionTimestamp).apply server =
          some (server.insert key (ProtocolOp.updated old protocol codec deletionTimestamp),
            updateFunc old (ProtocolOp.updated old protocol codec deletionTimestamp)) := by
        rw [ProtocolOp.apply, hold]
      cases hpasses : updateFunc old (ProtocolOp.updated old protocol codec deletionTimestamp) with
      | true => exact .inr (.inl ⟨_, hpasses ▸ happly⟩)
      | false =>
        obtain ⟨hprotocol, hcodec⟩ := spec_of_filtered hpasses
        exact .inr (.inr (.inl ⟨old, _, hold, hprotocol, hcodec, hpasses ▸ happly⟩))
  | delete key =>
    cases hold : server.lookup key with
    | none => exact .inl (by rw [ProtocolOp.apply, hold])
    | some old => exact .inr (.inr (.inr ⟨key, old, rfl, hold, by rw [ProtocolOp.apply, hold]⟩))

/-- What a change and its Reconcile store in the registry. -/
def stored (w : ProtocolWorld) (op : ProtocolOp × Oracle) : List (String × String) :=
  match op.1.apply w.server with
  | some (server, true) => ((server.lookup op.1.key).map fun ap => (ap.protocol, ap.codec)).toList
  | _ => []

/-- What a change and its Reconcile do. -/
inductive Change (w : ProtocolWorld) : ProtocolOp → List (String × String) → ProtocolWorld → Prop
  /-- The API server rejects the change. -/
  | rejected {op : ProtocolOp} : op.apply w.server = none → Change w op [] w
  /-- An object is written, and its codec stored. -/
  | stored {op : ProtocolOp} (ap : ApplicationProtocol) : Change w op [(ap.protocol, ap.codec)]
      ⟨w.server.insert op.key ap, w.codecs.insert ap.protocol ap.codec⟩
  /-- The event of an update does not pass: the spec is the one before. -/
  | filtered {op : ProtocolOp} (old ap : ApplicationProtocol) : w.server.lookup op.key = some old →
      ap.protocol = old.protocol → ap.codec = old.codec → Change w op [] ⟨w.server.insert op.key ap, w.codecs⟩
  /-- An object is deleted. -/
  | deleted {key : ObjectKey} (old : ApplicationProtocol) : w.server.lookup key = some old →
      Change w (.delete key) [] ⟨w.server.erase key, w.codecs⟩

theorem step_cases (r : MetaProtocolController) (w : ProtocolWorld) {op : ProtocolOp × Oracle} (hop : Answered op) :
    Change w op.1 (stored w op) (r.step w op) := by
  unfold MetaProtocolController.step stored
  rcases apply_cases w.server op.1 with h | ⟨ap, h⟩ | ⟨old, ap, hold, hprotocol, hcodec, h⟩ | ⟨key, old, hkey, hold, h⟩
  · rw [h]
    exact .rejected h
  · have hlookup : (w.server.insert op.1.key ap).lookup op.1.key = some ap := Finmap.lookup_insert _
    rw [h]
    dsimp only
    rw [if_pos rfl, reconcile_live hop hlookup, hlookup]
    exact .stored ap
  · rw [h]
    exact .filtered old ap hold hprotocol hcodec
  · have hlookup : (w.server.erase key).lookup key = none := Finmap.lookup_erase key _
    obtain ⟨op, o⟩ := op
    subst hkey
    rw [h]
    dsimp only [ProtocolOp.key]
    obtain ⟨err, herr⟩ := reconcile_missing (r := r) hlookup o w.codecs
    rw [if_pos rfl, herr, hlookup]
    exact .deleted old hold

theorem Change.codecs_eq {op : ProtocolOp} {writes : List (String × String)} {w' : ProtocolWorld}
    (h : Change w op writes w') : w'.codecs = GoMap.writeAll w.codecs writes := by
  cases h <;> rfl

/-- A change is one of its own object only. -/
theorem Change.lookup_of_ne {op : ProtocolOp} {writes : List (String × String)} {w' : ProtocolWorld}
    (h : Change w op writes w') {key : ObjectKey} (hkey : key ≠ op.key) :
    w'.server.lookup key = w.server.lookup key := by
  cases h with
  | rejected => rfl
  | stored | filtered => rw [GoMap.lookup_insert_eq, if_neg hkey]
  | deleted =>
    rw [ProtocolOp.key] at hkey
    rw [GoMap.lookup_erase_eq, if_neg hkey]

/-! ## Live resources -/

/-- No two resources have the same protocol. -/
def DistinctProtocols (server : ApplicationProtocols) : Prop :=
  ∀ key key' ap ap', server.lookup key = some ap → server.lookup key' = some ap' → ap.protocol = ap'.protocol → key = key'

/-- The registry has the codecs of all live resources. -/
def Registered (w : ProtocolWorld) : Prop :=
  ∀ key ap, w.server.lookup key = some ap → w.codecs.lookup ap.protocol = some ap.codec

theorem Registered.change {op : ProtocolOp} {writes : List (String × String)} {w' : ProtocolWorld} (h : Registered w)
    (hw : Change w op writes w') (hdistinct : DistinctProtocols w'.server) : Registered w' := by
  intro key ap hap
  cases hw with
  | rejected => exact h key ap hap
  | stored new =>
    by_cases hkey : key = op.key
    · subst hkey
      cases (Finmap.lookup_insert _).symm.trans hap
      exact Finmap.lookup_insert _
    · -- the protocol that is stored is not that of another resource
      have hne : ap.protocol ≠ new.protocol := fun hp => hkey (hdistinct _ _ _ _ hap (Finmap.lookup_insert _) hp)
      rw [GoMap.lookup_insert_eq, if_neg hkey] at hap
      rw [GoMap.lookup_insert_eq, if_neg hne]
      exact h key ap hap
  | filtered old new hold hprotocol hcodec =>
    by_cases hkey : key = op.key
    · subst hkey
      cases (Finmap.lookup_insert _).symm.trans hap
      rw [hprotocol, hcodec]
      exact h _ old hold
    · rw [GoMap.lookup_insert_eq, if_neg hkey] at hap
      exact h key ap hap
  | deleted =>
    rw [GoMap.lookup_erase_eq] at hap
    split at hap
    · cases hap
    · exact h key ap hap

/-! ## Histories -/

/-- What the Reconciles of a history store in the registry. -/
def registrations (r : MetaProtocolController) (w : ProtocolWorld) :
    List (ProtocolOp × Oracle) → List (String × String)
  | [] => []
  | op :: history => stored w op ++ registrations r (r.step w op) history

/-- Nothing but Reconciles writes the registry. -/
theorem codecs_foldl : ∀ {history : List (ProtocolOp × Oracle)} (w : ProtocolWorld), (∀ op ∈ history, Answered op) →
    (history.foldl r.step w).codecs = GoMap.writeAll w.codecs (registrations r w history)
  | [], _, _ => rfl
  | op :: history, w, h => by
    obtain ⟨hop, h⟩ := List.forall_mem_cons.mp h
    rw [List.foldl_cons, codecs_foldl _ h, (step_cases r w hop).codecs_eq, registrations, GoMap.writeAll_append]

/-- An object that no change is about is as it was. -/
theorem lookup_foldl_of_ne {key : ObjectKey} : ∀ {history : List (ProtocolOp × Oracle)} (w : ProtocolWorld),
    (∀ op ∈ history, Answered op ∧ key ≠ op.1.key) → (history.foldl r.step w).server.lookup key = w.server.lookup key
  | [], _, _ => rfl
  | op :: history, w, h => by
    obtain ⟨⟨hop, hkey⟩, h⟩ := List.forall_mem_cons.mp h
    rw [List.foldl_cons, lookup_foldl_of_ne _ h, (step_cases r w hop).lookup_of_ne hkey]

theorem run_concat (r : MetaProtocolController) (history : List (ProtocolOp × Oracle)) (op : ProtocolOp × Oracle) :
    r.run (history ++ [op]) = r.step (r.run history) op := by
  rw [MetaProtocolController.run, List.foldl_append]
  rfl

theorem registered_run (hanswered : ∀ op ∈ history, Answered op)
    (hdistinct : ∀ before, before <+: history → DistinctProtocols (r.run before).server) :
    Registered (r.run history) := by
  induction history using List.reverseRecOn with
  | nil => exact fun key ap hap => nomatch hap
  | append_singleton history op ih =>
    obtain ⟨hanswered, hop⟩ := List.forall_mem_append.mp hanswered
    have hbefore := ih hanswered fun before h => hdistinct before (h.trans (List.prefix_append _ _))
    have hafter := hdistinct _ (List.prefix_refl _)
    rw [run_concat] at hafter ⊢
    exact hbefore.change (step_cases r _ (hop op (List.mem_singleton_self op))) hafter

/-! ## The registry and the resources -/

/-- A live resource has the protocol. -/
def Live (server : ApplicationProtocols) (protocol : String) : Prop :=
  ∃ key ap, server.lookup key = some ap ∧ ap.protocol = protocol

/-- The registry is the built-in one, overlaid with the codecs of the live
resources. -/
def Overlaid (w : ProtocolWorld) : Prop :=
  ∀ protocol,
    (∀ key ap, w.server.lookup key = some ap → ap.protocol = protocol → w.codecs.lookup protocol = some ap.codec) ∧
    (¬Live w.server protocol → w.codecs.lookup protocol = builtinCodecs.lookup protocol)

/-- Every Reconcile of the resource returns an error, which requeues it. -/
def RequeuedForever (r : MetaProtocolController) (server : ApplicationProtocols) (key : ObjectKey) : Prop :=
  ∀ o codecs, (r.reconcile o server codecs key).1.err ≠ none

/-- The registry follows the resources, and the Reconcile of no deleted resource
is requeued forever. -/
def Follows (r : MetaProtocolController) (history : List (ProtocolOp × Oracle)) : Prop :=
  Overlaid (r.run history) ∧
    ∀ before key o after, history = before ++ (.delete key, o) :: after →
      (r.run before).server.lookup key ≠ none → ¬RequeuedForever r (r.run (before ++ [(.delete key, o)])).server key

theorem requeued_of_deleted {key : ObjectKey} {o : Oracle} (h : w.server.lookup key ≠ none) :
    RequeuedForever r (r.step w (.delete key, o)).server key := by
  obtain ⟨old, hold⟩ := Option.ne_none_iff_exists'.mp h
  have happly : ProtocolOp.apply w.server (.delete key) = some (w.server.erase key, true) := by
    rw [ProtocolOp.apply, hold]
  intro o' codecs
  unfold MetaProtocolController.step
  rw [happly]
  obtain ⟨err, herr⟩ := reconcile_missing (r := r) (Finmap.lookup_erase key w.server) o' codecs
  rw [herr]
  exact Option.some_ne_none err

theorem overlaid_iff (hanswered : ∀ op ∈ history, Answered op)
    (hdistinct : ∀ before, before <+: history → DistinctProtocols (r.run before).server) :
    Overlaid (r.run history) ↔ ∀ protocol codec, ¬Live (r.run history).server protocol →
      GoMap.lastWrite (registrations r {} history) protocol = some codec →
        builtinCodecs.lookup protocol = some codec := by
  have hlookup (protocol : String) : (r.run history).codecs.lookup protocol =
      (GoMap.lastWrite (registrations r {} history) protocol).or (builtinCodecs.lookup protocol) := by
    rw [MetaProtocolController.run, codecs_foldl _ hanswered, GoMap.lookup_writeAll]
  constructor
  · intro h protocol codec hlive hlast
    rw [← (h protocol).2 hlive, hlookup, hlast, Option.some_or]
  · intro h protocol
    refine ⟨?_, fun hlive => ?_⟩
    · rintro key ap hap rfl
      exact registered_run hanswered hdistinct key ap hap
    · rw [hlookup]
      cases hlast : GoMap.lastWrite (registrations r {} history) protocol with
      | none => exact Option.none_or
      | some codec => exact (h protocol codec hlive hlast).symm

/-- The registry follows the ApplicationProtocols, which have distinct protocols at all
times, exactly if no resource is deleted, and each protocol that is no longer that of
a resource was last stored with its built-in codec. -/
theorem follows_iff (hanswered : ∀ op ∈ history, Answered op)
    (hdistinct : ∀ before, before <+: history → DistinctProtocols (r.run before).server) :
    Follows r history ↔
      (∀ before key o after, history = before ++ (.delete key, o) :: after →
        (r.run before).server.lookup key = none) ∧
      ∀ protocol codec, ¬Live (r.run history).server protocol →
        GoMap.lastWrite (registrations r {} history) protocol = some codec →
          builtinCodecs.lookup protocol = some codec := by
  unfold Follows
  rw [overlaid_iff hanswered hdistinct, and_comm]
  refine and_congr_left fun _ => ?_
  constructor
  · intro h before key o after heq
    by_contra hlive
    refine h before key o after heq hlive ?_
    rw [run_concat]
    exact requeued_of_deleted hlive
  · intro h before key o after heq hlive
    exact absurd (h before key o after heq) hlive

/-- The key of a resource. -/
def fooKey : ObjectKey := ⟨"", "foo"⟩

/-- A codec is changed. -/
def codecChanged : List (ProtocolOp × Oracle) :=
  [(.create fooKey "foo" "codec.old", {}), (.update fooKey "foo" "codec.new" none, {})]

theorem codecChanged_follows : Follows {} codecChanged := by
  have hops : ∀ op ∈ codecChanged, Answered op ∧ op.1.key = fooKey := by
    intro op hop
    fin_cases hop <;> exact ⟨rfl, rfl⟩
  have honly {before : List (ProtocolOp × Oracle)} (hbefore : before <+: codecChanged) {key : ObjectKey}
      {ap : ApplicationProtocol} (hap : (MetaProtocolController.run {} before).server.lookup key = some ap) :
      key = fooKey := by
    by_contra hkey
    have hnone := lookup_foldl_of_ne (r := {}) {} fun op hop =>
      ⟨(hops op (hbefore.subset hop)).1, (hops op (hbefore.subset hop)).2 ▸ hkey⟩
    cases hap.symm.trans (hnone.trans (Finmap.lookup_empty key))
  refine (follows_iff (fun op hop => (hops op hop).1) fun before hbefore key key' ap ap' hap hap' _ =>
    (honly hbefore hap).trans (honly hbefore hap').symm).mpr ⟨fun before key o after h => ?_, fun protocol codec hlive hlast => ?_⟩
  · have hmem : (ProtocolOp.delete key, o) ∈ codecChanged := h ▸ List.mem_append_right _ List.mem_cons_self
    simp [codecChanged] at hmem
  · have hmem := GoMap.mem_of_lastWrite hlast
    rw [show registrations {} {} codecChanged = [("foo", "codec.old"), ("foo", "codec.new")] by decide +kernel] at hmem
    refine absurd ⟨fooKey, { protocol := "foo", codec := "codec.new", generation := 2 }, by decide +kernel, ?_⟩ hlive
    simp only [List.mem_cons, Prod.mk.injEq, List.not_mem_nil, or_false] at hmem
    rcases hmem with ⟨rfl, -⟩ | ⟨rfl, -⟩ <;> rfl

/-- A deleted resource stays in the registry, and its Reconcile is requeued. -/
theorem deleted_kept :
    let w := MetaProtocolController.run {} [(.create fooKey "foo" "codec.foo", {}), (.delete fooKey, {})]
    w.server.lookup fooKey = none ∧ w.codecs.lookup "foo" = some "codec.foo" ∧ RequeuedForever {} w.server fooKey := by
  have hlive : (MetaProtocolController.run {} [(.create fooKey "foo" "codec.foo", {})]).server.lookup fooKey ≠ none := by
    decide +kernel
  exact ⟨by decide +kernel, by decide +kernel, requeued_of_deleted hlive⟩

end Aeraki.Proof.Kube
