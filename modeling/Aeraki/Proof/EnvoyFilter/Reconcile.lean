import Aeraki.Proof.EnvoyFilter.Generate
import Aeraki.Proof.EnvoyFilter.Push

/-!
# Reconciliation of EnvoyFilters

`pushEnvoyFilters2APIServer` generates the EnvoyFilters and pushes them. If all
its calls to the API server succeed, the managed EnvoyFilters are then the
generated ones (`pushEnvoyFilters2APIServer_converges`).
-/

namespace Aeraki.Proof.EnvoyFilter

open Aeraki.Impl Aeraki.Impl.Controller
open ApiServer (Object Request)

/-- What a push that generated without an error returns. -/
theorem pushEnvoyFilters2APIServer_eq {c : Controller} {o : Oracle} {cluster : ClusterState}
    {generated : GoMap String EnvoyFilterWrapper} {vs : ApiServer.Server ObjectKey VirtualService}
    (h : c.generateEnvoyFilters o cluster.virtualServices = .ok ((generated, none), vs)) :
    c.pushEnvoyFilters2APIServer o cluster =
      .ok ((pushObjects envoyFilterPush (o.at "EnvoyFilters") generated cluster.envoyFilters).1,
        { envoyFilters := (pushObjects envoyFilterPush (o.at "EnvoyFilters") generated cluster.envoyFilters).2
          virtualServices := vs }) := by
  rw [pushEnvoyFilters2APIServer, h]
  rfl

/-- Different EnvoyFilters, of those managed and those generated, have different
keys. -/
def DistinctKeys (generated : GoMap String EnvoyFilterWrapper)
    (objects : AList fun _ : ObjectKey => Object EnvoyFilter) : Prop :=
  ∀ a b, Involved envoyFilterPush generated objects a → Involved envoyFilterPush generated objects b →
    envoyFilterMapKey a.name a.namespace_ = envoyFilterMapKey b.name b.namespace_ → a = b

instance (generated : GoMap String EnvoyFilterWrapper) (objects : AList fun _ : ObjectKey => Object EnvoyFilter) :
    Decidable (DistinctKeys generated objects) :=
  decidable_of_iff (∀ a ∈ involvedKeys envoyFilterPush generated objects,
      ∀ b ∈ involvedKeys envoyFilterPush generated objects,
        envoyFilterMapKey a.name a.namespace_ = envoyFilterMapKey b.name b.namespace_ → a = b)
    ⟨fun h a b ha hb => h a (involved_iff.mp ha) b (involved_iff.mp hb),
      fun h a ha b hb => h a b (involved_iff.mpr ha) (involved_iff.mpr hb)⟩

/-- The generated map, with keys that are distinct. -/
theorem distinct_generated {c : Controller} {o : Oracle} {server vs : ApiServer.Server ObjectKey VirtualService}
    {generated : GoMap String EnvoyFilterWrapper} {err : Option String}
    (h : c.generateEnvoyFilters o server = .ok ((generated, err), vs))
    {objects : AList fun _ : ObjectKey => Object EnvoyFilter} (hd : DistinctKeys generated objects) :
    Distinct envoyFilterPush generated objects where
  keyed _ _ := keyed_generateEnvoyFilters h
  inj := hd

/-- If all calls succeed, the managed EnvoyFilters are the generated ones after
the push, the others are untouched, and no EnvoyFilter is written whose stored
specification is the generated one. -/
theorem pushEnvoyFilters2APIServer_converges (c : Controller) (o : Oracle) (cluster : ClusterState)
    {generated : GoMap String EnvoyFilterWrapper} {vs : ApiServer.Server ObjectKey VirtualService}
    {err : Option String} {cluster' : ClusterState}
    (hgen : c.generateEnvoyFilters o cluster.virtualServices = .ok ((generated, none), vs))
    (hd : DistinctKeys generated cluster.envoyFilters.objects)
    (hrun : c.pushEnvoyFilters2APIServer o cluster = .ok (err, cluster'))
    (hlist : cluster.envoyFilters.fails cluster.envoyFilters.calls = false)
    (hok : ∀ w ∈ newWrites cluster.envoyFilters cluster'.envoyFilters, w.2 = true) :
    Converged envoyFilterPush generated cluster.envoyFilters.objects cluster'.envoyFilters.objects ∧
      ∀ w ∈ newWrites cluster.envoyFilters cluster'.envoyFilters, ∀ key wrapper ob,
        generated.lookup key = some wrapper → w.1.key = ⟨wrapper.namespace_, wrapper.name⟩ →
        cluster.envoyFilters.objects.lookup w.1.key = some ob → ob.spec ≠ wrapper.envoyfilter := by
  rw [pushEnvoyFilters2APIServer_eq hgen] at hrun
  cases hrun
  have hdist := distinct_generated hgen hd
  refine ⟨pushObjects_converged hdist hlist hok, fun w hw key wrapper ob hg hk hob => ?_⟩
  exact pushObjects_no_write hdist hlist hok hw hob hg hk.symm

/-- A ZooKeeper service. -/
def zookeeper : Controller where
  store := { serviceEntries := [{ name := "zk", namespace_ := "db", spec := {
    hosts := ["zk.db"], addresses := ["10.0.0.1"], ports := [{ number := 2181, name := "tcp-zookeeper" }] } }] }
  generators := generators {} {}

/-- A managed EnvoyFilter of a service that is gone, and one of a user. -/
def beforePush : ClusterState where
  envoyFilters := {
    objects := ((∅ : AList fun _ : ObjectKey => Object EnvoyFilter).insert ⟨"istio-system", "aeraki-outbound-gone"⟩
      { labels := managerLabels, spec := { configPatches := [] }, resourceVersion := 1 }).insert
      ⟨"istio-system", "user"⟩ { labels := ∅, spec := { configPatches := [] }, resourceVersion := 2 }
    nextVersion := 3 }
  virtualServices := { objects := ∅ }

theorem zookeeper_converges : ∃ generated vs err cluster',
    zookeeper.generateEnvoyFilters {} beforePush.virtualServices = .ok ((generated, none), vs) ∧
    zookeeper.pushEnvoyFilters2APIServer {} beforePush = .ok (err, cluster') ∧
    (newWrites beforePush.envoyFilters cluster'.envoyFilters).length = 3 ∧
    Converged envoyFilterPush generated beforePush.envoyFilters.objects cluster'.envoyFilters.objects := by
  refine ⟨_, _, _, _, rfl, rfl, ?_,
    (pushEnvoyFilters2APIServer_converges zookeeper {} beforePush rfl ?_ rfl rfl ?_).1⟩
  · decide +kernel
  · decide +kernel
  · decide +kernel

end Aeraki.Proof.EnvoyFilter
