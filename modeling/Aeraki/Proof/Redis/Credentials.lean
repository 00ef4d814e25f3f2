import Aeraki.Impl.Plugin.Redis

/-!
# Redis credentials

What `password` reads of a secret: the default key of the user name is never
used, so a secret gives the documented credentials if and only if the user
name's field is set or makes no difference (`credentials_iff`). And what
becomes of them: an error of `password` ends in the fallback for services
without a RedisService, so the proxy asks for a password if and only if one
that is not empty was obtained (`authenticated_iff`).
-/

namespace Aeraki.Proof.Redis

open Aeraki.Impl Aeraki.Impl.Redis
open Go (Comp)

/-! ## The documented credentials -/

/-- The trimmed value of a key; a missing one gives the empty string. -/
def trimmed (data : GoMap String String) (key : String) : String :=
  match data.lookup key with
  | some value => Go.trimSpace value
  | none => ""

/-- The documented user name: the value of the field, or of `username`. -/
def documentedUsername (data : GoMap String String) (usernameField : String) : String :=
  trimmed data (if usernameField = "" then "username" else usernameField)

/-- The documented password: the value of the field, or of `password` if there
is one, or of `token`. -/
def documentedPassword (data : GoMap String String) (passwordField : String) : String :=
  trimmed data (if passwordField = "" then if (data.lookup "password").isSome then "password" else "token"
    else passwordField)

theorem trimSpace_getD (data : GoMap String String) (key : String) :
    Go.trimSpace ((data.lookup key).getD "") = trimmed data key := by
  unfold trimmed
  cases data.lookup key with
  | none => decide
  | some value => rfl

theorem documentedPassword_eq (data : GoMap String String) (passwordField : String) :
    documentedPassword data passwordField = trimmed data (passwordKey data passwordField) := by
  unfold documentedPassword passwordKey
  split
  · cases data.lookup "password" <;> rfl
  · rfl

theorem passwordKey_ne_empty (data : GoMap String String) (passwordField : String) :
    passwordKey data passwordField ≠ "" := by
  unfold passwordKey
  split
  · split <;> decide
  · assumption

section

variable {g : Redis.Generator} {o : Oracle} {ns name usernameField passwordField : String} {data : GoMap String String}

/-- What a secret that is read gives. -/
theorem password_secret (h : g.getSecret o ns name = .ok data) :
    g.password o ns (some (.secret name usernameField passwordField)) =
      .ok (trimmed data usernameField, documentedPassword data passwordField) := by
  unfold Generator.password
  simp only [h, bind, Except.bind, pure, Except.pure, if_neg (passwordKey_ne_empty data passwordField),
    trimSpace_getD, documentedPassword_eq]

/-- A secret gives the documented credentials if and only if the field of the
user name is set, or the key it is left empty for has the value of `username`. -/
theorem credentials_iff (h : g.getSecret o ns name = .ok data) :
    g.password o ns (some (.secret name usernameField passwordField)) =
        .ok (documentedUsername data usernameField, documentedPassword data passwordField) ↔
      usernameField ≠ "" ∨ trimmed data "" = trimmed data "username" := by
  rw [password_secret h, Except.ok.injEq, Prod.mk.injEq, and_iff_left rfl, documentedUsername]
  split
  · rename_i he
    rw [he, or_iff_right fun h => h rfl]
  · rename_i hne
    exact iff_of_true rfl (.inl hne)

end

/-- A secret with a user name and a password. -/
def secretOf (username password : String) : Redis.Generator where
  secrets := [⟨"ns", "redis-auth", GoMap.writeAll ∅ [("username", username), ("password", password)]⟩]
  store := {}

theorem named_field_read : (secretOf "app" "pw").password {} "ns" (some (.secret "redis-auth" "username" "")) =
    .ok ("app", "pw") := by
  have h : (secretOf "app" "pw").getSecret {} "ns" "redis-auth" =
      .ok (GoMap.writeAll ∅ [("username", "app"), ("password", "pw")]) := rfl
  refine ((@credentials_iff _ _ _ _ "username" "" _ h).mpr (.inl (by decide))).trans ?_
  decide

/-- Without a field, the user name is not read. -/
theorem default_username_not_read :
    (secretOf "app" "pw").password {} "ns" (some (.secret "redis-auth" "" "")) = .ok ("", "pw") ∧
      documentedUsername (GoMap.writeAll ∅ [("username", "app"), ("password", "pw")]) "" = "app" :=
  ⟨by decide, by decide⟩

/-! ## The proxy's password -/

section

variable {g : Redis.Generator} {o : Oracle}

/-- A password that is not empty is obtained. -/
def Obtained (g : Redis.Generator) (o : Oracle) (ns : String) : Auth → Prop
  | .plain _ password => password ≠ ""
  | .secret name _ passwordField =>
    ∃ data, g.getSecret o ns name = .ok data ∧ documentedPassword data passwordField ≠ ""
  | .unset => False

theorem obtained_iff {ns : String} {auth : Auth} :
    Obtained g o ns auth ↔ ∃ username password, g.password o ns (some auth) = .ok (username, password) ∧ password ≠ "" := by
  cases auth with
  | plain username password =>
    refine ⟨fun h => ⟨username, password, rfl, h⟩, ?_⟩
    rintro ⟨_, _, h, hne⟩
    cases h
    exact hne
  | unset =>
    refine iff_of_false id ?_
    rintro ⟨_, _, h, hne⟩
    cases h
    exact hne rfl
  | secret name usernameField passwordField =>
    constructor
    · rintro ⟨data, hdata, hne⟩
      exact ⟨_, _, password_secret hdata, hne⟩
    · rintro ⟨username, password, h, hne⟩
      cases hdata : g.getSecret o ns name with
      | error err =>
        rw [Generator.password, hdata] at h
        cases h
      | ok data =>
        rw [password_secret hdata] at h
        cases h
        exact ⟨data, hdata, hne⟩

theorem inlineString_ne_none {s : String} : inlineString s ≠ none ↔ s ≠ "" := by
  unfold inlineString
  split
  · rename_i h
    exact iff_of_false (fun h => h rfl) (fun hne => hne h)
  · rename_i h
    exact iff_of_true (Option.some_ne_none s) h

/-- The password a proxy asks for after `buildAuth`. -/
theorem buildAuth_password {proxy proxy' : RedisProxy} {rs : RedisService} {auth : Auth}
    (h : g.buildAuth o proxy rs auth = .ok proxy') (hnone : proxy.downstreamAuthPassword = none) :
    ∃ username password, g.password o rs.namespace_ (some auth) = .ok (username, password) ∧
      proxy'.downstreamAuthPassword = inlineString password := by
  obtain ⟨⟨username, password⟩, hp, h⟩ := Go.bind_eq_ok.mp h
  refine ⟨username, password, hp, ?_⟩
  cases h
  by_cases hpassword : password = ""
  · subst hpassword
    split <;> exact hnone
  · rw [if_pos hpassword]
    split <;> rfl

theorem buildSettings_password {proxy proxy' : RedisProxy} {rs : RedisService} {settings : Settings} {auth : Auth}
    (hauth : settings.auth = some auth) (h : g.buildSettings o proxy rs settings = .ok proxy')
    (hnone : proxy.downstreamAuthPassword = none) :
    proxy'.downstreamAuthPassword ≠ none ↔ Obtained g o rs.namespace_ auth := by
  unfold Generator.buildSettings at h
  rw [hauth] at h
  obtain ⟨authed, hbuild, h⟩ := Go.bind_eq_ok.mp h
  cases h
  obtain ⟨username, password, hp, hpassword⟩ := buildAuth_password hbuild hnone
  dsimp only
  rw [hpassword, inlineString_ne_none, obtained_iff, hp]
  constructor
  · exact fun hne => ⟨username, password, rfl, hne⟩
  · rintro ⟨_, _, h, hne⟩
    cases h
    exact hne

/-- An error of `buildSettings` is one of `password`. -/
theorem buildSettings_error {proxy : RedisProxy} {rs : RedisService} {settings : Settings} {auth : Auth} {err : String}
    (hauth : settings.auth = some auth) (h : g.buildSettings o proxy rs settings = .error err) :
    ¬ Obtained g o rs.namespace_ auth := by
  rw [obtained_iff]
  rintro ⟨username, password, hp, -⟩
  simp only [Generator.buildSettings, hauth, Generator.buildAuth, hp, bind, Except.bind, pure, Except.pure] at h
  cases h

theorem addRoute_password (routes : List (RedisRoute × Bool)) (proxy : RedisProxy) :
    (routes.foldl addRoute proxy).downstreamAuthPassword = proxy.downstreamAuthPassword := by
  induction routes generalizing proxy with
  | nil => rfl
  | cons route routes ih =>
    rw [List.foldl_cons, ih, addRoute]
    split <;> rfl

variable {c : EnvoyFilterContext} {listenPort : Nat} {listenPortName targetHost : String} {rs : RedisService}
  {settings : Settings} {auth : Auth} {proxy : RedisProxy}

/-- If the RedisService of a ServiceEntry's hosts sets `auth`, a proxy that is
returned asks for a password if and only if one that is not empty was obtained. -/
theorem authenticated_iff
    (hchosen : g.findTargetHostAndRedisService o c.serviceEntry.namespace_ c.serviceEntry.spec.hosts =
      .ok (some (targetHost, rs)))
    (hsettings : rs.settings = some settings) (hauth : settings.auth = some auth)
    (h : g.buildOutboundProxyWithFallback o c listenPort listenPortName = .ok proxy) :
    proxy.downstreamAuthPassword ≠ none ↔ Obtained g o rs.namespace_ auth := by
  obtain ⟨r, hr, h⟩ := Go.bind_eq_ok.mp h
  unfold Generator.buildOutboundProxy at hr
  rw [hchosen] at hr
  dsimp only at hr
  obtain ⟨faults, hfaults, hr⟩ := Go.bind_eq_ok.mp hr
  simp only [hsettings] at hr
  split at hr
  · rename_i err hbuild
    cases hr
    obtain ⟨host, -, h⟩ := Go.bind_eq_ok.mp h
    cases h
    exact iff_of_false (fun h => h rfl) (buildSettings_error hauth hbuild)
  · rename_i built hbuild
    rw [← buildSettings_password hauth hbuild rfl]
    split at hr
    · cases hr
      cases h
      rfl
    · obtain ⟨routes, -, hr⟩ := Go.bind_eq_ok.mp hr
      cases hr
      cases h
      rw [addRoute_password]

end

/-- A service whose RedisService takes its password from a secret. -/
def secured (secrets : List Secret) : Redis.Generator where
  secrets := secrets
  redisServices := [{
    name := "redis", namespace_ := "ns", host := ["redis.ns"]
    settings := some { auth := some (.secret "redis-auth" "" "") } }]
  store := {}

def redisContext : EnvoyFilterContext where
  meshConfig := {}
  serviceEntry := {
    name := "redis", namespace_ := "ns"
    spec := { hosts := ["redis.ns"], addresses := ["10.0.0.1"], ports := [⟨6379, "tcp-redis"⟩] } }

theorem secret_read_authenticated : ∃ proxy,
    (secured (secretOf "app" "pw").secrets).buildOutboundProxyWithFallback {} redisContext 6379 "tcp-redis" = .ok proxy ∧
      proxy.downstreamAuthPassword ≠ none := by
  obtain ⟨proxy, h⟩ : ∃ proxy, (secured (secretOf "app" "pw").secrets).buildOutboundProxyWithFallback {} redisContext
      6379 "tcp-redis" = .ok proxy := ⟨_, rfl⟩
  have hobtained : Obtained (secured (secretOf "app" "pw").secrets) {} "ns" (.secret "redis-auth" "" "") :=
    ⟨_, rfl, by decide⟩
  exact ⟨proxy, h, (authenticated_iff rfl rfl rfl h).mpr hobtained⟩

/-- Without the secret, an open proxy is returned. -/
theorem secret_missing_open : (∃ rs, (secured []).findTargetHostAndRedisService {} "ns" ["redis.ns"] =
      .ok (some ("redis.ns", rs)) ∧ rs.settings.bind (·.auth) = some (.secret "redis-auth" "" "")) ∧
    ∃ proxy, (secured []).buildOutboundProxyWithFallback {} redisContext 6379 "tcp-redis" = .ok proxy ∧
      proxy.downstreamAuthPassword = none := ⟨⟨_, rfl, rfl⟩, _, rfl, rfl⟩

end Aeraki.Proof.Redis
