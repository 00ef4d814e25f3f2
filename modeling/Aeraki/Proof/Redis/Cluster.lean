import Aeraki.Impl.Plugin.Redis

/-!
# The clusters of RedisDestinations

What `buildOutboundCluster` does with the connection pool of the target
RedisDestination (`buildOutboundCluster_eq`). It writes keepalive values through
pointers that nothing has set, so it panics at each of them (`keepalive_iff`).
And it takes the ports of the discovery endpoints as they come, whatever they
are, and their hosts with brackets if there is no port (`endpoints_iff`).
-/

namespace Aeraki.Proof.Redis

open Aeraki.Impl Aeraki.Impl.Redis
open Go (Comp)

/-! ## The connection pool -/

section

variable (g : Redis.Generator) (o : Oracle) (c : EnvoyFilterContext) (listenPort : Nat)

/-- The target RedisDestination and its connection pool. -/
def target : Option (RedisDestination × ConnectionPoolSettings) := do
  let d ← targetDestination (g.redisDestinations.filter (inNamespace c.serviceEntry.namespace_ ·.namespace_))
    c.serviceEntry.spec.hosts
  let pool ← d.trafficPolicy.bind (·.connectionPool)
  return (d, pool)

/-- The cluster with the Redis settings of the pool, if they can be applied. -/
def withRedis (host : String) (d : RedisDestination) (pool : ConnectionPoolSettings) : Option Cluster :=
  match pool.redis with
  | some settings => g.applyRedis (o.at "cluster") (defaultCluster (outboundClusterName host listenPort))
      c.serviceEntry.namespace_ d.host listenPort settings
  | none => some (defaultCluster (outboundClusterName host listenPort))

/-- The cluster with the TCP settings of the pool. -/
def withTcp (pool : ConnectionPoolSettings) (cl : Cluster) : Comp Cluster :=
  match pool.tcp with
  | some tcp => applyTcp cl tcp
  | none => .ok cl

/-- The cluster with what every target RedisDestination adds. -/
def finished (d : RedisDestination) (cl : Cluster) : Cluster :=
  { addIstioFilter cl listenPort d.host c.serviceEntry.name c.serviceEntry.namespace_ with
    transportSocketMatches := [("tlsMode-disabled", "envoy.transport_sockets.raw_buffer")] }

end

section

variable {g : Redis.Generator} {o : Oracle} {c : EnvoyFilterContext} {listenPort : Nat} {host : String} {hosts : List String}

theorem buildOutboundCluster_eq (hhosts : c.serviceEntry.spec.hosts = host :: hosts) :
    g.buildOutboundCluster o c listenPort =
      if (o.callError ["RedisDestinations"]).isSome then .ok none
      else match target g c with
        | none => .ok (some (defaultCluster (outboundClusterName host listenPort)))
        | some (d, pool) => match withRedis g o c listenPort host d pool with
          | none => .ok none
          | some cl => (withTcp pool cl).map fun cl => some (finished c listenPort d cl) := by
  unfold Generator.buildOutboundCluster target withRedis withTcp
  simp only [hhosts, Go.index_zero_cons, bind, Except.bind, pure]
  split
  · rfl
  cases targetDestination _ _ with
  | none => rfl
  | some d =>
    simp only [Option.bind_some]
    cases d.trafficPolicy.bind (·.connectionPool) with
    | none => rfl
    | some pool =>
      simp only [Option.bind_some]
      cases pool.redis with
      | none =>
        dsimp only
        cases pool.tcp with
        | none => rfl
        | some tcp => cases applyTcp (defaultCluster (outboundClusterName host listenPort)) tcp <;> rfl
      | some settings =>
        dsimp only
        cases g.applyRedis _ _ _ _ _ settings with
        | none => rfl
        | some cl =>
          dsimp only
          cases pool.tcp with
          | none => rfl
          | some tcp => cases applyTcp cl tcp <;> rfl

/-! ## Keepalive values -/

/-- The keepalive settings of the target RedisDestination. -/
def givenKeepalive (g : Redis.Generator) (c : EnvoyFilterContext) : Option Keepalive :=
  (target g c).bind fun t => t.2.tcp.bind (·.tcpKeepalive)

/-- The cluster carries exactly these keepalive values. -/
structure Carries (cl : Cluster) (k : Keepalive) : Prop where
  probes : cl.upstreamConnectionOptions.join.bind (·.keepaliveProbes) = if k.probes > 0 then some k.probes else none
  time : (cl.upstreamConnectionOptions.join.bind (·.keepaliveTime)).map (fun s => (s.toNat : Int)) =
    k.time.map (·.seconds)
  interval : (cl.upstreamConnectionOptions.join.bind (·.keepaliveInterval)).map (fun s => (s.toNat : Int)) =
    k.interval.map (·.seconds)

/-- The cluster is built or not, without a nil dereference, and carries the
keepalive values that are given. -/
def KeepaliveKept (g : Redis.Generator) (o : Oracle) (c : EnvoyFilterContext) (listenPort : Nat) : Prop :=
  ∃ r, g.buildOutboundCluster o c listenPort = .ok r ∧ ∀ cl ∈ r, ∀ k ∈ givenKeepalive g c, Carries cl k

/-- The cluster is given up before the TCP settings are read: the
RedisDestinations cannot be listed, or the Redis settings not applied. -/
def GivenUp (g : Redis.Generator) (o : Oracle) (c : EnvoyFilterContext) (listenPort : Nat) (host : String) : Prop :=
  (o.callError ["RedisDestinations"]).isSome = true ∨
    ∃ t ∈ target g c, withRedis g o c listenPort host t.1 t.2 = none

/-- Nothing has set the options that the values are written to. -/
theorem setKeepAliveSettings_eq {cl : Cluster} (k : Keepalive) (hcl : cl.upstreamConnectionOptions = none) :
    setKeepAliveSettings cl k = if k = {} then .ok cl else .error .nilDereference := by
  rcases k with ⟨probes, time, interval⟩
  unfold setKeepAliveSettings
  simp only [hcl, Go.deref, bind, Except.bind, pure, Except.pure]
  by_cases hp : probes > 0
  · have hne : probes ≠ 0 := fun h => by simp [h] at hp
    simp [hp, hne]
  · have h0 : probes = 0 := by simpa using hp
    simp only [h0]
    cases time with
    | some d => simp
    | none =>
      cases interval with
      | some d => simp
      | none => simp

theorem carries_nothing {cl : Cluster} (hcl : cl.upstreamConnectionOptions = none) : Carries cl {} := by
  refine ⟨?_, ?_, ?_⟩ <;> rw [hcl] <;> rfl

theorem carries_finished {d : RedisDestination} {cl : Cluster} {k : Keepalive} :
    Carries (finished c listenPort d cl) k ↔ Carries cl k := ⟨fun h => ⟨h.1, h.2, h.3⟩, fun h => ⟨h.1, h.2, h.3⟩⟩

/-- The TCP settings can be applied if they give no keepalive value. -/
theorem applyTcp_eq {cl : Cluster} (tcp : TCPSettings) (hcl : cl.upstreamConnectionOptions = none) :
    ∃ cl' : Cluster, cl'.upstreamConnectionOptions = none ∧ cl'.loadAssignment = cl.loadAssignment ∧
      applyTcp cl tcp = if ∀ k ∈ tcp.tcpKeepalive, k = {} then .ok cl' else .error .nilDereference := by
  obtain ⟨cl', hcl', hload, htcp⟩ : ∃ cl' : Cluster, cl'.upstreamConnectionOptions = none ∧
      cl'.loadAssignment = cl.loadAssignment ∧
        applyTcp cl tcp = tcp.tcpKeepalive.elim (.ok cl') (setKeepAliveSettings cl') := by
    unfold applyTcp
    cases tcp.tcpKeepalive with
    | none => exact ⟨_, by split <;> exact hcl, by split <;> rfl, rfl⟩
    | some k => exact ⟨_, by split <;> exact hcl, by split <;> rfl, rfl⟩
  refine ⟨cl', hcl', hload, htcp.trans ?_⟩
  cases tcp.tcpKeepalive with
  | none => exact (if_pos fun _ h => nomatch h).symm
  | some k => simp only [Option.elim_some, setKeepAliveSettings_eq k hcl', Option.mem_some, forall_eq']

theorem withTcp_eq {cl : Cluster} (pool : ConnectionPoolSettings) (hcl : cl.upstreamConnectionOptions = none) :
    ∃ cl' : Cluster, cl'.upstreamConnectionOptions = none ∧ cl'.loadAssignment = cl.loadAssignment ∧
      withTcp pool cl = if ∀ k ∈ pool.tcp.bind (·.tcpKeepalive), k = {} then .ok cl' else .error .nilDereference := by
  unfold withTcp
  cases pool.tcp with
  | none => exact ⟨cl, hcl, rfl, (if_pos fun _ h => nomatch h).symm⟩
  | some tcp => exact applyTcp_eq tcp hcl

/-- The cluster with the credentials of the Redis settings. -/
def withAuth (g : Redis.Generator) (o : Oracle) (ns : String) (settings : RedisSettings) (cl : Cluster) : Option Cluster :=
  match settings.auth with
  | none => some cl
  | some auth =>
    match g.password o ns (some auth) with
    | .error _ => none
    | .ok (username, password) =>
      some { cl with redisProtocolOptions := some (inlineString password, inlineString username) }

theorem withAuth_keeps {cl cl' : Cluster} {ns : String} {settings : RedisSettings}
    (h : withAuth g o ns settings cl = some cl') :
    cl'.upstreamConnectionOptions = cl.upstreamConnectionOptions ∧ cl'.loadAssignment = cl.loadAssignment := by
  unfold withAuth at h
  split at h
  · cases h
    exact ⟨rfl, rfl⟩
  · split at h
    · cases h
    · cases h
      exact ⟨rfl, rfl⟩

/-- What the Redis settings leave alone, and the endpoints that they set. -/
theorem applyRedis_some {cl cl' : Cluster} {ns : String} {settings : RedisSettings}
    (h : g.applyRedis o cl ns host listenPort settings = some cl') :
    cl'.upstreamConnectionOptions = cl.upstreamConnectionOptions ∧
      (settings.cluster = true → ∃ hostports, discoveryHostPorts settings host listenPort = some hostports ∧
        cl'.loadAssignment = some hostports) := by
  unfold Generator.applyRedis at h
  dsimp only at h
  split at h
  · obtain ⟨hostports, hhp, h⟩ := Option.bind_eq_some_iff.mp h
    obtain ⟨hoptions, hload⟩ := withAuth_keeps h
    exact ⟨hoptions, fun _ => ⟨hostports, hhp, hload⟩⟩
  · rename_i hmode
    exact ⟨(withAuth_keeps h).1, fun h => absurd h hmode⟩

/-- The cluster that the TCP settings are applied to has no such options. -/
theorem withRedis_options {d : RedisDestination} {pool : ConnectionPoolSettings} {cl : Cluster}
    (h : withRedis g o c listenPort host d pool = some cl) : cl.upstreamConnectionOptions = none := by
  unfold withRedis at h
  split at h
  · exact (applyRedis_some h).1
  · cases h
    rfl

theorem GivenUp.built (hhosts : c.serviceEntry.spec.hosts = host :: hosts) (h : GivenUp g o c listenPort host) :
    g.buildOutboundCluster o c listenPort = .ok none := by
  rw [buildOutboundCluster_eq hhosts]
  rcases h with hcall | ⟨⟨d, pool⟩, ht, hredis⟩
  · exact if_pos hcall
  · rw [Option.mem_def.mp ht]
    dsimp only at hredis ⊢
    rw [hredis]
    exact ite_self _

/-- If the cluster is not given up, there is one, or a nil dereference at a
keepalive value. -/
theorem built_of_not_givenUp (hhosts : c.serviceEntry.spec.hosts = host :: hosts) {d : RedisDestination}
    {pool : ConnectionPoolSettings} (ht : target g c = some (d, pool)) (h : ¬GivenUp g o c listenPort host) :
    ∃ cl cl' : Cluster, withRedis g o c listenPort host d pool = some cl ∧ cl'.upstreamConnectionOptions = none ∧
      cl'.loadAssignment = cl.loadAssignment ∧ g.buildOutboundCluster o c listenPort =
        if ∀ k ∈ givenKeepalive g c, k = {} then .ok (some (finished c listenPort d cl')) else .error .nilDereference := by
  obtain ⟨hcall, hnone⟩ := not_or.mp h
  obtain ⟨cl, hredis⟩ := Option.ne_none_iff_exists'.mp fun hredis => hnone ⟨_, ht, hredis⟩
  obtain ⟨cl', hcl', hload, htcp⟩ := withTcp_eq pool (withRedis_options hredis)
  refine ⟨cl, cl', hredis, hcl', hload, ?_⟩
  rw [buildOutboundCluster_eq hhosts, if_neg hcall, givenKeepalive, ht]
  dsimp only [Option.bind_some]
  rw [hredis]
  dsimp only
  rw [htcp, apply_ite (Except.map _)]
  rfl

/-- For a ServiceEntry with a host, the keepalive values that are given are kept
if and only if there are none, or the cluster is given up before they are read. -/
theorem keepalive_iff (hhosts : c.serviceEntry.spec.hosts = host :: hosts) :
    KeepaliveKept g o c listenPort ↔
      GivenUp g o c listenPort host ∨ ∀ k ∈ givenKeepalive g c, k = {} := by
  unfold KeepaliveKept
  by_cases hup : GivenUp g o c listenPort host
  · exact iff_of_true ⟨none, hup.built hhosts, fun _ h => nomatch h⟩ (.inl hup)
  rw [or_iff_right hup]
  cases ht : target g c with
  | none =>
    have hgiven : givenKeepalive g c = none := by rw [givenKeepalive, ht, Option.bind_none]
    rw [buildOutboundCluster_eq hhosts, if_neg (not_or.mp hup).1, ht, hgiven]
    exact iff_of_true ⟨_, rfl, fun _ _ _ h => nomatch h⟩ fun _ h => nomatch h
  | some t =>
    obtain ⟨cl, cl', -, hcl', -, hbuilt⟩ := built_of_not_givenUp hhosts ht hup
    rw [hbuilt]
    by_cases hempty : ∀ k ∈ givenKeepalive g c, k = {}
    · rw [if_pos hempty]
      refine iff_of_true ⟨_, rfl, fun r hr k hk => ?_⟩ hempty
      cases hr
      rw [hempty k hk, carries_finished]
      exact carries_nothing hcl'
    · rw [if_neg hempty]
      exact iff_of_false (fun ⟨_, h, _⟩ => nomatch h) hempty

end

/-- A service with a RedisDestination for its host. -/
def destinationFor (pool : ConnectionPoolSettings) : Redis.Generator where
  redisDestinations := [{ namespace_ := "ns", host := "redis.ns", trafficPolicy := some ⟨some pool⟩ }]
  store := {}

def clusterContext : EnvoyFilterContext where
  meshConfig := {}
  serviceEntry := {
    name := "redis", namespace_ := "ns", spec := { hosts := ["redis.ns"], ports := [⟨6379, "tcp-redis"⟩] } }

theorem no_values_kept : KeepaliveKept (destinationFor { tcp := some { tcpKeepalive := some {} } }) {} clusterContext 6379 := by
  refine (keepalive_iff rfl).mpr (.inr fun k hk => ?_)
  cases hk
  rfl

/-- Keepalive probes are written through a nil pointer. -/
theorem probes_panic : (destinationFor { tcp := some { tcpKeepalive := some { probes := 3 } } }).buildOutboundCluster {}
    clusterContext 6379 = .error .nilDereference := by decide +kernel

/-! ## Discovery endpoints -/

section

/-- The number written in digits. -/
def digits? (cs : List Char) : Option Nat :=
  if cs ≠ [] ∧ cs.all Char.isDigit then some (cs.foldl (fun n c => 10 * n + (c.toNat - '0'.toNat)) 0) else none

/-- The decimal number written, with its sign if it has one. -/
def number? (s : String) : Option Int :=
  match s.toList with
  | '-' :: cs => (digits? cs).map fun n : Nat => -(n : Int)
  | '+' :: cs => (digits? cs).map fun n : Nat => (n : Int)
  | cs => (digits? cs).map fun n : Nat => (n : Int)

/-- The number is read as it is written if it is in range. -/
theorem atoi_eq {s : String} {n : Int} (h : number? s = some n) (hlow : -2 ^ 63 ≤ n) (hhigh : n < 2 ^ 63) :
    Go.atoi s = n := by
  have hatoi : Go.atoi s = match s.toList with
      | '-' :: cs => (digits? cs).elim 0 fun n => max (-n : Int) (-2 ^ 63)
      | '+' :: cs => (digits? cs).elim 0 fun n => min (n : Int) (2 ^ 63 - 1)
      | cs => (digits? cs).elim 0 fun n => min (n : Int) (2 ^ 63 - 1) := rfl
  rw [hatoi]
  unfold number? at h
  split at h
  · obtain ⟨m, hm, rfl⟩ := Option.map_eq_some_iff.mp h
    rw [hm]
    exact max_eq_left hlow
  · obtain ⟨m, hm, rfl⟩ := Option.map_eq_some_iff.mp h
    rw [hm]
    exact min_eq_left (Int.le_sub_one_of_lt hhigh)
  · obtain ⟨m, hm, rfl⟩ := Option.map_eq_some_iff.mp h
    rw [hm]
    exact min_eq_left (Int.le_sub_one_of_lt hhigh)

/-- A host with a port that has none, by `SplitHostPort`. -/
def hostAlone (ep host : String) : Prop := Go.splitHostPort (ep ++ ":0") = .ok (host, "0")

/-- The address is the host and the port of the string, the listening port if it
has none, and a port that is given is the number written, from 1 to 65535. -/
def Parsed (listenPort : Nat) (ep : String) (hp : HostPort) : Prop :=
  match Go.splitHostPort ep with
  | .ok (host, port) => hp.host = host ∧ number? port = some (hp.port : Int) ∧ 1 ≤ hp.port ∧ hp.port ≤ 65535
  | .error _ => hostAlone ep hp.host ∧ hp.port = listenPort

/-- The string has a port from 1 to 65535, or is a host that needs no brackets. -/
def WellFormed (ep : String) : Prop :=
  match Go.splitHostPort ep with
  | .ok (_, port) => ∃ n : Nat, number? port = some (n : Int) ∧ 1 ≤ n ∧ n ≤ 65535
  | .error _ => hostAlone ep ep

variable {listenPort : Nat}

theorem parsed_iff {ep : String} {hp : HostPort} (h : discoveryHostPort listenPort ep = some hp) :
    Parsed listenPort ep hp ↔ WellFormed ep := by
  unfold Parsed WellFormed
  unfold discoveryHostPort at h
  cases hsplit : Go.splitHostPort ep with
  | error e =>
    rw [hsplit] at h
    cases e with
    | missingPort =>
      cases h
      exact and_iff_left rfl
    | tooManyColons => cases h
    | missingBracket => cases h
    | unexpectedBracket => cases h
  | ok hostport =>
    obtain ⟨host, port⟩ := hostport
    rw [hsplit] at h
    cases h
    dsimp only
    constructor
    · rintro ⟨-, hn, hlow, hhigh⟩
      exact ⟨_, hn, hlow, hhigh⟩
    · rintro ⟨n, hn, hlow, hhigh⟩
      have hport : (Go.atoi port % 2 ^ 32).toNat = n := by
        rw [atoi_eq hn (by omega) (by omega), Int.emod_eq_of_lt (by omega) (by omega), Int.toNat_natCast]
      rw [hport]
      exact ⟨rfl, hn, hlow, hhigh⟩

theorem forall₂_parsed_iff : ∀ {eps : List String} {hostports : List HostPort},
    eps.mapM (discoveryHostPort listenPort) = some hostports →
    (List.Forall₂ (Parsed listenPort) eps hostports ↔ ∀ ep ∈ eps, WellFormed ep)
  | [], _, h => by
    cases h
    exact iff_of_true .nil fun _ h => nomatch h
  | ep :: eps, _, h => by
    rw [List.mapM_cons] at h
    obtain ⟨hp, hhp, h⟩ := Option.bind_eq_some_iff.mp h
    obtain ⟨hps, hhps, h⟩ := Option.bind_eq_some_iff.mp h
    cases h
    rw [List.forall₂_cons, List.forall_mem_cons, parsed_iff hhp, forall₂_parsed_iff hhps]

/-- The endpoints of the strings, if none is rejected; without strings there is
one of the host. -/
theorem discoveryHostPorts_iff {settings : RedisSettings} {host : String} {hostports : List HostPort}
    (h : discoveryHostPorts settings host listenPort = some hostports) :
    List.Forall₂ (Parsed listenPort) settings.discoveryEndpoints hostports ↔
      settings.discoveryEndpoints ≠ [] ∧ ∀ ep ∈ settings.discoveryEndpoints, WellFormed ep := by
  unfold discoveryHostPorts at h
  split at h
  · rename_i hempty
    rw [List.isEmpty_iff.mp hempty]
    cases h
    exact iff_of_false (fun h => nomatch h) fun h => h.1 rfl
  · rename_i hempty
    have hne : settings.discoveryEndpoints ≠ [] := fun h => hempty (List.isEmpty_iff.mpr h)
    rw [forall₂_parsed_iff h, and_iff_right hne]

variable {g : Redis.Generator} {o : Oracle} {c : EnvoyFilterContext} {d : RedisDestination} {pool : ConnectionPoolSettings}
  {settings : RedisSettings} {host : String} {hosts : List String}

/-- The cluster is built or not, and then has an endpoint for each of the
strings, in order, that is what the string says. -/
def EndpointsParsed (g : Redis.Generator) (o : Oracle) (c : EnvoyFilterContext) (listenPort : Nat) (eps : List String) :
    Prop :=
  ∃ r, g.buildOutboundCluster o c listenPort = .ok r ∧
    ∀ cl ∈ r, ∃ hostports, cl.loadAssignment = some hostports ∧ List.Forall₂ (Parsed listenPort) eps hostports

/-- For a cluster of Redis nodes, the endpoints are those of the strings if and
only if the cluster is given up, or there are strings, all are well-formed, and
there is no keepalive value to panic at. -/
theorem endpoints_iff (hhosts : c.serviceEntry.spec.hosts = host :: hosts) (htarget : target g c = some (d, pool))
    (hredis : pool.redis = some settings) (hmode : settings.cluster = true) :
    EndpointsParsed g o c listenPort settings.discoveryEndpoints ↔
      GivenUp g o c listenPort host ∨ (∀ k ∈ givenKeepalive g c, k = {}) ∧
        settings.discoveryEndpoints ≠ [] ∧ ∀ ep ∈ settings.discoveryEndpoints, WellFormed ep := by
  unfold EndpointsParsed
  by_cases hup : GivenUp g o c listenPort host
  · exact iff_of_true ⟨none, hup.built hhosts, fun _ h => nomatch h⟩ (.inl hup)
  rw [or_iff_right hup]
  obtain ⟨cl, cl', happlied, -, hload, hbuilt⟩ := built_of_not_givenUp hhosts htarget hup
  rw [withRedis, hredis] at happlied
  obtain ⟨hostports, hhp, hload₀⟩ := (applyRedis_some happlied).2 hmode
  have hload' : (finished c listenPort d cl').loadAssignment = some hostports := hload.trans hload₀
  rw [hbuilt, ← discoveryHostPorts_iff hhp]
  by_cases hempty : ∀ k ∈ givenKeepalive g c, k = {}
  · rw [if_pos hempty, and_iff_right hempty]
    simp only [Except.ok.injEq, exists_eq_left', Option.mem_some, forall_eq', hload', Option.some.injEq]
  · rw [if_neg hempty]
    exact iff_of_false (fun ⟨_, h, _⟩ => nomatch h) fun h => hempty h.1

end

/-- A cluster of Redis nodes with these discovery endpoints. -/
def discovering (eps : List String) : Redis.Generator :=
  destinationFor { redis := some { cluster := true, discoveryEndpoints := eps } }

theorem endpoints_parsed :
    (∃ cl, (discovering ["10.0.0.1:7000", "node"]).buildOutboundCluster {} clusterContext 6379 = .ok (some cl)) ∧
      EndpointsParsed (discovering ["10.0.0.1:7000", "node"]) {} clusterContext 6379 ["10.0.0.1:7000", "node"] := by
  refine ⟨⟨_, rfl⟩, (endpoints_iff (g := discovering ["10.0.0.1:7000", "node"]) (c := clusterContext)
    rfl rfl rfl rfl).mpr (.inr ⟨fun _ h => ?_, ?_, ?_⟩)⟩
  · cases h
  · exact List.cons_ne_nil _ _
  have hport : WellFormed "10.0.0.1:7000" := by
    rw [WellFormed, show Go.splitHostPort "10.0.0.1:7000" = .ok ("10.0.0.1", "7000") by decide +kernel]
    exact ⟨7000, by decide +kernel, by decide, by decide⟩
  have halone : WellFormed "node" := by
    rw [WellFormed, show Go.splitHostPort "node" = .error .missingPort by decide +kernel]
    show Go.splitHostPort _ = _
    decide +kernel
  intro ep hep
  rcases List.mem_pair.mp hep with rfl | rfl
  · exact hport
  · exact halone

/-- A negative port becomes one that is not written, and that is out of range. -/
theorem negative_port_wraps : ∃ cl, (discovering ["10.0.0.1:-1"]).buildOutboundCluster {} clusterContext 6379 =
      .ok (some cl) ∧ cl.loadAssignment = some [⟨"10.0.0.1", 4294967295⟩] := ⟨_, rfl, by decide +kernel⟩

end Aeraki.Proof.Redis
