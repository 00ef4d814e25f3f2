import Aeraki.Proof.EnvoyFilter.Idempotent

/-!
# The VirtualServices of gateways

`generateListenerForGateway` makes the managed VirtualServices equal to the
generated ones, with the loops that push EnvoyFilters, but its updates carry no
resource version, and no server accepts them. So on a server that accepts every
well-formed request it converges if and only if it has nothing to update:
whatever is stored under a generated name is managed and as generated
(`listeners_converge_iff`).
-/

namespace Aeraki.Proof.EnvoyFilter

open Aeraki.Impl
open Aeraki.Impl.Controller
open ApiServer (Object Request Admits)

/-! ## Updates without a version -/

section

variable {ω σ : Type} [DecidableEq σ]

/-- What is stored under a generated name is managed and as generated. -/
def AsGenerated (c : PushConfig ω σ) (generated : GoMap String ω)
    (objects : AList fun _ : ObjectKey => Object σ) : Prop :=
  ∀ mk v ob, generated.lookup mk = some v → objects.lookup (c.object v).key = some ob →
    isManaged ob = true ∧ ob.spec = (c.object v).spec

/-- The stored objects have resource versions. -/
def Versioned (objects : AList fun _ : ObjectKey => Object σ) : Prop :=
  ∀ k ob, objects.lookup k = some ob → ob.resourceVersion ≠ 0

variable {c : PushConfig ω σ} {o : Oracle} {generated : GoMap String ω} {server : ApiServer.Server ObjectKey σ}
  (hd : Distinct c generated server.objects)
include hd

/-- If what is stored is as generated, nothing is updated, and all requests are
admitted. -/
theorem AsGenerated.admits (h : AsGenerated c generated server.objects) :
    ∀ r ∈ requests c o generated (existing o server), Admits server.objects r = true := by
  intro r hr
  rcases (mem_requests hd).mp hr with ⟨old, hold, -, rfl⟩ | ⟨old, hold, v, hv, hne, -⟩ | ⟨mk, v, ⟨hv, hnot⟩, rfl⟩
  · simp [Admits, (mem_existing.mp hold).1]
  · have hkey := object_key hd hold hv
    exact absurd (h _ v old.2 hv (hkey ▸ (mem_existing.mp hold).1)).2.symm hne
  · cases hob : server.objects.lookup (c.object v).key with
    | none => simp [createRequest, Admits, hob]
    | some ob =>
      have hm := (h mk v ob hv hob).1
      exact absurd (List.mem_map.mpr ⟨((c.object v).key, ob), mem_existing.mpr ⟨hob, hm⟩, rfl⟩) hnot

/-- An object that is not as generated, under a generated name, is named by a
request that is not admitted: an update without its version, or a creation. -/
theorem exists_not_admitted (hc : c.carriesVersion = false) (hv : Versioned server.objects) {mk : String} {v : ω}
    {ob : Object σ} (hgen : generated.lookup mk = some v) (hob : server.objects.lookup (c.object v).key = some ob)
    (hne : ¬ (isManaged ob = true ∧ ob.spec = (c.object v).spec)) :
    ∃ r ∈ requests c o generated (existing o server),
      r.key = (c.object v).key ∧ Admits server.objects r = false := by
  cases hm : isManaged ob with
  | true =>
    have hold : ((c.object v).key, ob) ∈ existing o server := mem_existing.mpr ⟨hob, hm⟩
    have hspec : (c.object v).spec ≠ ob.spec := fun e => hne ⟨hm, e.symm⟩
    have hgen' : generated.lookup (oldKey c ((c.object v).key, ob)) = some v := by
      rw [← hgen, hd.keyed mk v hgen]; rfl
    refine ⟨_, (mem_requests hd).mpr (.inr (.inl ⟨_, hold, v, hgen', hspec, rfl⟩)), rfl, ?_⟩
    simp [Admits, hob, hc, hv _ _ hob]
  | false =>
    have hnot : (c.object v).key ∉ (existing o server).map Prod.fst := fun h => by
      obtain ⟨old, hold, hk⟩ := List.mem_map.mp h
      obtain ⟨hl, hmo⟩ := mem_existing.mp hold
      rw [hk, hob, Option.some.injEq] at hl
      rw [← hl, hm] at hmo
      cases hmo
    refine ⟨_, (mem_requests hd).mpr (.inr (.inr ⟨mk, v, ⟨hgen, hnot⟩, rfl⟩)), rfl, ?_⟩
    simp [createRequest, Admits, hob]

variable (hup : ∀ n, server.fails n = false)
include hup

/-- If what is stored is as generated, all writes are accepted. -/
theorem AsGenerated.accepted (h : AsGenerated c generated server.objects) :
    ∀ w ∈ newWrites server (pushObjects c o generated server).2, w.2 = true := by
  have houts : { server with calls := server.calls + 1 }.outcomes (requests c o generated (existing o server)) =
      (requests c o generated (existing o server)).map (Admits server.objects) :=
    ApiServer.outcomes_eq_admits (nodup_requests hd) hup
  rw [newWrites_pushObjects hd (hup _), houts]
  intro w hw
  obtain ⟨r, hr, he⟩ := List.mem_map.mp (List.of_mem_zip hw).2
  rw [← he]
  exact h.admits hd r hr

/-- A push whose updates carry no version, on a server that is up, converges
without an error if and only if it has nothing to update. -/
theorem unversioned_push_converges_iff (hc : c.carriesVersion = false) (hv : Versioned server.objects) :
    ((pushObjects c o generated server).1 = none ∧
      Settled c generated (pushObjects c o generated server).2.objects) ↔
      AsGenerated c generated server.objects := by
  constructor
  · rintro ⟨-, hs⟩ mk v ob hgen hob
    by_contra hne
    obtain ⟨r, hr, hk, hadm⟩ := exists_not_admitted (o := o) hd hc hv hgen hob hne
    have hafter : (pushObjects c o generated server).2.objects.lookup (c.object v).key = some ob := by
      rw [server_pushObjects (hup _) (nodup_oldKeys hd), ← hk]
      rw [← hk] at hob
      have hkeep := ApiServer.lookup_execAll_of_not_admits (s := { server with calls := server.calls + 1 })
        (nodup_requests hd) r hr hadm
      exact hkeep.trans hob
    obtain ⟨ob', hob', h⟩ := hs.generated mk v hgen
    rw [hafter, Option.some.injEq] at hob'
    exact hne (hob' ▸ h)
  · intro h
    have hok := h.accepted (o := o) hd hup
    exact ⟨(err_pushObjects c o generated server).mpr fun w hw => hok w (List.mem_of_mem_getLast? hw),
      (pushObjects_converged hd (hup _) hok).settled⟩

end

/-! ## The listeners of gateways -/

/-- A server that accepts every well-formed request: no call fails, stored
objects have versions, and no name has a slash. -/
structure Accepting (ctxs : List EnvoyFilterContext) (server : ApiServer.Server ObjectKey VirtualService) :
    Prop where
  up : ∀ n, server.fails n = false
  versioned : Versioned server.objects
  segment : ∀ k, Involved virtualServicePush (generatedVirtualServices ctxs) server.objects k →
    '/' ∉ k.name.toList

theorem virtualServiceMapKey_inj {a b : ObjectKey} (ha : '/' ∉ a.name.toList) (hb : '/' ∉ b.name.toList)
    (h : virtualServiceMapKey a.name a.namespace_ = virtualServiceMapKey b.name b.namespace_) : a = b := by
  obtain ⟨hns, hname⟩ := (Go.append_sep_inj rfl ha hb).mp h
  cases a
  cases b
  cases hns
  cases hname
  rfl

theorem Accepting.distinct {ctxs : List EnvoyFilterContext} {server : ApiServer.Server ObjectKey VirtualService}
    (h : Accepting ctxs server) :
    Distinct virtualServicePush (generatedVirtualServices ctxs) server.objects where
  keyed _ _ := keyed_generatedVirtualServices
  inj a b ha hb := virtualServiceMapKey_inj (h.segment a ha) (h.segment b hb)

/-- The managed VirtualServices are the generated ones, with the generated
specifications, and the function returns no error. -/
def ListenersConverge (o : Oracle) (ctxs : List EnvoyFilterContext)
    (server : ApiServer.Server ObjectKey VirtualService) : Prop :=
  (generateListenerForGateway o ctxs server).1 = none ∧
    Settled virtualServicePush (generatedVirtualServices ctxs) (generateListenerForGateway o ctxs server).2.objects

/-- On a server that accepts every well-formed request, the VirtualServices of
gateways converge if and only if none has to be updated: what is stored under
a generated name is managed and as generated. -/
theorem listeners_converge_iff (o : Oracle) {ctxs : List EnvoyFilterContext}
    {server : ApiServer.Server ObjectKey VirtualService} (h : Accepting ctxs server) :
    ListenersConverge o ctxs server ↔
      AsGenerated virtualServicePush (generatedVirtualServices ctxs) server.objects :=
  unversioned_push_converges_iff h.distinct h.up rfl h.versioned

/-- A gateway's context for a host at a port. -/
def hostContext (host : String) : EnvoyFilterContext where
  meshConfig := {}
  serviceEntry := { name := "", namespace_ := "", spec := { hosts := [host] } }
  virtualService := some (buildVirtualServiceWrapper 20880 "gw" "ns" host)

/-- A server with the VirtualService of a host. -/
def storedListener (host : String) : ApiServer.Server ObjectKey VirtualService where
  objects := AList.singleton ⟨"ns", "aeraki-vs-ns.gw-20880"⟩
    { labels := managerLabels, spec := (buildVirtualServiceWrapper 20880 "gw" "ns" host).spec, resourceVersion := 1 }
  nextVersion := 2

theorem lookup_storedListener {host : String} {k : ObjectKey} {ob : Object VirtualService}
    (h : (storedListener host).objects.lookup k = some ob) :
    k = ⟨"ns", "aeraki-vs-ns.gw-20880"⟩ ∧ ob.resourceVersion = 1 := by
  have hmem : (⟨k, ob⟩ : Sigma _) ∈ (storedListener host).objects.entries := AList.mem_lookup_iff.mp h
  cases List.mem_singleton.mp hmem
  exact ⟨rfl, rfl⟩

theorem lookup_hostContext {host mk : String} {v : Config VirtualService}
    (h : (generatedVirtualServices [hostContext host]).lookup mk = some v) :
    v = buildVirtualServiceWrapper 20880 "gw" "ns" host := by
  have he : generatedVirtualServices [hostContext host] =
    Finmap.singleton "ns/aeraki-vs-ns.gw-20880" (buildVirtualServiceWrapper 20880 "gw" "ns" host) := rfl
  rw [he] at h
  have hmk := (Finmap.mem_singleton _ _ _).mp (Finmap.mem_of_lookup_eq_some h)
  rw [hmk, Finmap.lookup_singleton_eq, Option.some.injEq] at h
  exact h.symm

theorem storedListener_accepting (host host' : String) : Accepting [hostContext host] (storedListener host') where
  up _ := rfl
  versioned k ob h := by
    rw [(lookup_storedListener h).2]
    decide
  segment k h := by
    have hk : k = ⟨"ns", "aeraki-vs-ns.gw-20880"⟩ := by
      rcases h with ⟨ob, hob, -⟩ | ⟨mk, v, hv, rfl⟩
      · exact (lookup_storedListener hob).1
      · rw [lookup_hostContext hv]
        rfl
    rw [hk]
    decide

/-- The VirtualService of the host is there: nothing is written. -/
theorem storedListener_converges : ListenersConverge {} [hostContext "a"] (storedListener "a") := by
  refine (listeners_converge_iff {} (storedListener_accepting "a" "a")).mpr fun mk v ob hv hob => ?_
  cases lookup_hostContext hv
  cases hob
  exact ⟨rfl, rfl⟩

/-- The gateway's host is another one: its VirtualService is to be updated, the
update is refused, and the VirtualService stays what it was. -/
theorem changed_listener_not_updated : Accepting [hostContext "b"] (storedListener "a") ∧
    ¬ ListenersConverge {} [hostContext "b"] (storedListener "a") := by
  refine ⟨storedListener_accepting "b" "a", ?_⟩
  rintro ⟨herr, -⟩
  exact absurd herr (by decide +kernel)

end Aeraki.Proof.EnvoyFilter
