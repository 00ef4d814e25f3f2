import Aeraki.Framework.Returns
import Aeraki.Impl.Plugin.Redis

/-!
# Where Redis mirrors go

`buildPrefixRoute` looks the port of a mirror up with the main route's host and
port, and names the mirror's own host with it. So each mirror goes where it says
if and only if the main route's port is the one of every mirror
(`mirrors_iff`).
-/

namespace Aeraki.Proof.Redis

open Aeraki.Impl Aeraki.Impl.Redis
open Go (Comp Returns)

theorem outboundClusterName_inj {host : String} {port port' : Nat} :
    outboundClusterName host port = outboundClusterName host port' ↔ port = port' := by
  unfold outboundClusterName buildClusterName buildSubsetKey
  rw [String.append_left_inj, String.append_left_inj, String.append_left_inj, String.append_left_inj,
    String.append_right_inj, Go.itoa_inj]

section

variable (hostServices : GoMap String ServiceEntry) (listenPort : Nat) (listenPortName : String)

/-- The policy's cluster is that of the mirror's own host, at its own port. -/
def GoesToOwn (mirror : Option Mirror) (policy : RedisMirrorPolicy) : Prop :=
  ∃ m d, mirror = some m ∧ m.route = some d ∧
    policy.cluster = outboundClusterName d.host (destinationPort hostServices listenPort listenPortName d)

/-- The route is built, with a policy for each mirror that goes where it says. -/
def MirrorsOwn (r : Route) : Prop :=
  ∃ route all, buildPrefixRoute (some r) hostServices listenPort listenPortName = .ok (route, all) ∧
    List.Forall₂ (GoesToOwn hostServices listenPort listenPortName) r.mirror route.requestMirrorPolicy

end

section

variable {hostServices : GoMap String ServiceEntry} {listenPort : Nat} {listenPortName : String}

/-- The policy of a mirror, with the port of the main route. -/
def mirrorPolicy (port : Nat) (mirror : Option Mirror) : Comp RedisMirrorPolicy := do
  let mirror ← Go.deref mirror
  let fraction ← translatePercentToFractionalPercent mirror.percentage
  let mirrorDest ← Go.deref mirror.route
  return {
    cluster := outboundClusterName mirrorDest.host port
    runtimeFraction := fraction
    excludeReadCommands := mirror.excludeReadCommands }

theorem mirrorPolicy_iff {port : Nat} {mirror : Option Mirror} :
    (∃ policy, mirrorPolicy port mirror = .ok policy ∧ GoesToOwn hostServices listenPort listenPortName mirror policy) ↔
      ∃ m d, mirror = some m ∧ m.percentage ≠ none ∧ m.route = some d ∧
        destinationPort hostServices listenPort listenPortName d = port := by
  constructor
  · rintro ⟨policy, h, m, d, rfl, hd, hcluster⟩
    obtain ⟨fraction, hfraction, h⟩ := Go.bind_eq_ok.mp (show translatePercentToFractionalPercent _ >>= _ = _ from h)
    rw [hd] at h
    cases h
    refine ⟨m, d, rfl, fun hnone => ?_, hd, (outboundClusterName_inj.mp hcluster).symm⟩
    rw [translatePercentToFractionalPercent, hnone] at hfraction
    cases hfraction
  · rintro ⟨m, d, rfl, hp, hd, rfl⟩
    obtain ⟨percentage, hp⟩ := Option.ne_none_iff_exists'.mp hp
    unfold mirrorPolicy translatePercentToFractionalPercent
    simp only [Go.deref_some, bind, Except.bind, hp, hd]
    exact ⟨_, rfl, m, d, rfl, hd, rfl⟩

/-- A route is built, with these mirrors, if it has a destination whose port they
are built for. -/
theorem buildPrefixRoute_iff {r : Route} {mirrors : List RedisMirrorPolicy} :
    (∃ route all, buildPrefixRoute (some r) hostServices listenPort listenPortName = .ok (route, all) ∧
      route.requestMirrorPolicy = mirrors) ↔
    ∃ dest, r.route = some dest ∧
      r.mirror.mapM (mirrorPolicy (destinationPort hostServices listenPort listenPortName dest)) = .ok mirrors := by
  constructor
  · rintro ⟨route, all, h, rfl⟩
    obtain ⟨dest, hdest, h⟩ := Go.bind_eq_ok.mp (show Go.deref r.route >>= _ = _ from h)
    obtain ⟨mirrors, hmirrors, h⟩ := Go.bind_eq_ok.mp h
    refine ⟨dest, Go.deref_eq_ok.mp hdest, ?_⟩
    split at h
    · cases h
      exact hmirrors
    · cases h
      exact hmirrors
  · rintro ⟨dest, hdest, h⟩
    have hdest := Go.deref_eq_ok.mpr hdest
    let route : RedisRoute :=
      { cluster := outboundClusterName dest.host (destinationPort hostServices listenPort listenPortName dest)
        requestMirrorPolicy := mirrors }
    cases hkey : r.match_.bind (·.key) with
    | none =>
      refine ⟨route, true, Go.bind_eq_ok.mpr ⟨r, rfl, Go.bind_eq_ok.mpr ⟨dest, hdest, Go.bind_eq_ok.mpr ⟨mirrors, h, ?_⟩⟩⟩,
        rfl⟩
      rw [hkey]
      rfl
    | some key =>
      refine ⟨{ route with keyPrefix := key.keyPrefix, removePrefix := key.removePrefix }, false, Go.bind_eq_ok.mpr
        ⟨r, rfl, Go.bind_eq_ok.mpr ⟨dest, hdest, Go.bind_eq_ok.mpr ⟨mirrors, h, ?_⟩⟩⟩, rfl⟩
      rw [hkey]
      rfl

/-- The mirrors of a route go where they say if and only if the route has a
destination, nothing that is read of the mirrors is nil, and the port of each
mirror is that of the route. -/
theorem mirrors_iff (r : Route) : MirrorsOwn hostServices listenPort listenPortName r ↔
    ∃ dest, r.route = some dest ∧ ∀ mirror ∈ r.mirror, ∃ m d, mirror = some m ∧ m.percentage ≠ none ∧
      m.route = some d ∧ destinationPort hostServices listenPort listenPortName d =
        destinationPort hostServices listenPort listenPortName dest := by
  simp only [← mirrorPolicy_iff, ← Go.mapM_forall₂_iff]
  constructor
  · rintro ⟨route, all, hroute, hall⟩
    obtain ⟨dest, hdest, hmirrors⟩ := buildPrefixRoute_iff.mp ⟨route, all, hroute, rfl⟩
    exact ⟨dest, hdest, route.requestMirrorPolicy, hmirrors, hall⟩
  · rintro ⟨dest, hdest, mirrors, hmirrors, hall⟩
    obtain ⟨route, all, hroute, rfl⟩ := buildPrefixRoute_iff.mpr ⟨dest, hdest, hmirrors⟩
    exact ⟨route, all, hroute, hall⟩

end

/-- A route with a mirror, each to a service with one port. -/
def mirrored : Route where
  route := some { host := "redis.ns" }
  mirror := [some { route := some { host := "shadow.ns" }, percentage := some 0 }]

def twoServices : GoMap String ServiceEntry :=
  GoMap.writeAll ∅ [("redis.ns", { hosts := ["redis.ns"], ports := [⟨6379, "tcp-redis"⟩] }),
    ("shadow.ns", { hosts := ["shadow.ns"], ports := [⟨7000, "tcp-redis"⟩] })]

/-- The mirror's service has port 7000, and the mirror goes to port 6379. -/
theorem mirror_at_main_port : findServicePort (twoServices.lookup "shadow.ns") 6379 "tcp-redis" = 7000 ∧
    ∃ route all, buildPrefixRoute (some mirrored) twoServices 6379 "tcp-redis" = .ok (route, all) ∧
      route.requestMirrorPolicy.map (·.cluster) = ["outbound|6379||shadow.ns"] :=
  ⟨by decide, _, _, rfl, by decide⟩

end Aeraki.Proof.Redis
