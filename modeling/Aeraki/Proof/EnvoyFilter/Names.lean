import Aeraki.Framework.Dns
import Aeraki.Impl.EnvoyFilter.Controller
import Aeraki.Proof.EnvoyFilter.NetworkFilter

/-!
# The names and keys of EnvoyFilters

The name of an EnvoyFilter says what it patches, as long as addresses have no dash
(`names_determine`). The key of an EnvoyFilter in the map puts a dash between its
namespace and its name, and both have dashes of their own: the EnvoyFilters of two
namespaces can share a key if and only if one namespace goes on from the other like
the name of an EnvoyFilter (`keys_identify_iff`).
-/

namespace Aeraki.Proof.EnvoyFilter

open Aeraki.Impl
open Controller (envoyFilterMapKey)

/-! ## Names -/

section

variable {host host' vip vip' : String} {port port' : Nat}

theorem outboundEnvoyFilterName_eq_iff (hvip : '-' ∉ vip.toList) (hvip' : '-' ∉ vip'.toList) :
    outboundEnvoyFilterName host vip port = outboundEnvoyFilterName host' vip' port' ↔
      host = host' ∧ vip = vip' ∧ port = port' := by
  unfold outboundEnvoyFilterName
  rw [Go.append_itoa_inj rfl rfl, Go.append_sep_inj rfl hvip hvip', String.append_right_inj, and_assoc]

theorem inboundEnvoyFilterName_eq_iff :
    inboundEnvoyFilterName host port = inboundEnvoyFilterName host' port' ↔ host = host' ∧ port = port' := by
  unfold inboundEnvoyFilterName
  rw [Go.append_itoa_inj rfl rfl, String.append_right_inj]

theorem outboundEnvoyFilterName_eq : outboundEnvoyFilterName host vip port =
    "aeraki" ++ "-" ++ ("outbound" ++ "-" ++ (host ++ "-" ++ vip ++ "-" ++ Go.itoa port)) := by
  have haeraki : "aeraki-outbound-" = "aeraki" ++ "-" ++ ("outbound" ++ "-") := by decide +kernel
  unfold outboundEnvoyFilterName
  simp only [haeraki, String.append_assoc]

theorem inboundEnvoyFilterName_eq : inboundEnvoyFilterName host port =
    "aeraki" ++ "-" ++ ("inbound" ++ "-" ++ (host ++ "-" ++ Go.itoa port)) := by
  have haeraki : "aeraki-inbound-" = "aeraki" ++ "-" ++ ("inbound" ++ "-") := by decide +kernel
  unfold inboundEnvoyFilterName
  simp only [haeraki, String.append_assoc]

theorem outbound_ne_inbound : outboundEnvoyFilterName host vip port ≠ inboundEnvoyFilterName host' port' := by
  rw [outboundEnvoyFilterName_eq, inboundEnvoyFilterName_eq, ne_eq, String.append_right_inj]
  intro h
  have hletter := congrArg (fun name : String => name.toList.head?) h
  simp only [String.toList_append, List.head?_append] at hletter
  cases hletter

end

/-- What an EnvoyFilter patches. -/
def patched (w : EnvoyFilterWrapper) : List (Option ObjectMatch) := w.envoyfilter.configPatches.map (·.match_)

/-- An EnvoyFilter of a proxy, for a service whose addresses have no dash. -/
inductive Generated (w : EnvoyFilterWrapper) : Prop
  | mk {service : Config ServiceEntry} {port : ServicePort} {outboundProxy inboundProxy : Option Proxy}
    {filterName filterType : String} {operation : PatchOperation} {ws : List EnvoyFilterWrapper}
    (haddresses : ∀ address ∈ service.spec.addresses, '-' ∉ address.toList)
    (hws : generateNetworkFilter service port outboundProxy inboundProxy filterName filterType operation = .ok ws)
    (hw : w ∈ ws) : Generated w

/-- An EnvoyFilter of a proxy is an outbound or an inbound one. -/
theorem Generated.cases {w : EnvoyFilterWrapper} (h : Generated w) :
    (∃ host address port, '-' ∉ address.toList ∧ w.name = outboundEnvoyFilterName host address port ∧
      patched w = [some (.listener (outboundListenerName address port) none tcpProxy)]) ∨
    ∃ host port, w.name = inboundEnvoyFilterName host port ∧
      patched w = [some (.listener "virtualInbound" (some port) tcpProxy)] := by
  obtain ⟨haddresses, hws, hw⟩ := h
  obtain ⟨out, hout, hws⟩ := generateNetworkFilter_ok hws
  have houtbound (hw : w ∈ out) : ∃ host address port, '-' ∉ address.toList ∧
      w.name = outboundEnvoyFilterName host address port ∧
      patched w = [some (.listener (outboundListenerName address port) none tcpProxy)] := by
    obtain ⟨proxy, host, address, haddress, rfl⟩ := hout w hw
    exact ⟨host, address, _, haddresses address haddress, rfl, rfl⟩
  rcases hws with ⟨-, rfl⟩ | ⟨proxy, host, -, rfl⟩
  · exact .inl (houtbound hw)
  · rcases List.mem_append.mp hw with hw | hw
    · exact .inl (houtbound hw)
    · rw [List.mem_singleton.mp hw]
      exact .inr ⟨host, _, rfl, rfl⟩

/-- For addresses without a dash, the name of an EnvoyFilter determines its
direction, host, address and port, so that EnvoyFilters of one name patch the same
listeners. -/
theorem names_determine :
    (∀ {host host' vip vip' : String} {port port' : Nat}, '-' ∉ vip.toList → '-' ∉ vip'.toList →
      outboundEnvoyFilterName host vip port = outboundEnvoyFilterName host' vip' port' →
        host = host' ∧ vip = vip' ∧ port = port') ∧
    (∀ {host host' : String} {port port' : Nat},
      inboundEnvoyFilterName host port = inboundEnvoyFilterName host' port' → host = host' ∧ port = port') ∧
    (∀ {host vip host' : String} {port port' : Nat},
      outboundEnvoyFilterName host vip port ≠ inboundEnvoyFilterName host' port') ∧
    ∀ {w w' : EnvoyFilterWrapper}, Generated w → Generated w' → w.name = w'.name → patched w = patched w' := by
  refine ⟨fun hvip hvip' => (outboundEnvoyFilterName_eq_iff hvip hvip').mp, inboundEnvoyFilterName_eq_iff.mp,
    outbound_ne_inbound, fun h h' hname => ?_⟩
  rcases h.cases with ⟨host, address, port, hdash, hw, hp⟩ | ⟨host, port, hw, hp⟩ <;>
    rcases h'.cases with ⟨host', address', port', hdash', hw', hp'⟩ | ⟨host', port', hw', hp'⟩ <;>
    rw [hw, hw'] at hname
  · obtain ⟨-, rfl, rfl⟩ := (outboundEnvoyFilterName_eq_iff hdash hdash').mp hname
    exact hp.trans hp'.symm
  · exact absurd hname outbound_ne_inbound
  · exact absurd hname.symm outbound_ne_inbound
  · obtain ⟨-, rfl⟩ := inboundEnvoyFilterName_eq_iff.mp hname
    exact hp.trans hp'.symm

/-- A service with two addresses. -/
def twoAddresses : Config ServiceEntry where
  name := "svc"
  namespace_ := "ns"
  spec := { hosts := ["svc-1.ns"], addresses := ["10.0.0.1", "10.0.0.2"], ports := [⟨80, "tcp-thrift"⟩] }

/-- Its EnvoyFilter for an address. -/
def twoAddressesFilter (address : String) : EnvoyFilterWrapper :=
  outboundFilter "svc-1.ns" address 80 .REPLACE (generateValue .empty "" "")

theorem generated_twoAddresses {address : String} (h : address ∈ twoAddresses.spec.addresses) :
    Generated (twoAddressesFilter address) := by
  have haddresses : ∀ address ∈ twoAddresses.spec.addresses, '-' ∉ address.toList := by decide
  have hhosts : twoAddresses.spec.hosts = ["svc-1.ns"] := rfl
  refine .mk haddresses (generateNetworkFilter_eq hhosts ⟨80, "tcp-thrift"⟩ "" "" .REPLACE (some .empty) none) ?_
  exact List.mem_append_left _ (List.mem_map.mpr ⟨address, h, rfl⟩)

theorem listeners_have_names :
    Generated (twoAddressesFilter "10.0.0.1") ∧ Generated (twoAddressesFilter "10.0.0.2") ∧
      (twoAddressesFilter "10.0.0.1").name ≠ (twoAddressesFilter "10.0.0.2").name := by
  have h := generated_twoAddresses (show "10.0.0.1" ∈ twoAddresses.spec.addresses by decide)
  have h' := generated_twoAddresses (show "10.0.0.2" ∈ twoAddresses.spec.addresses by decide)
  refine ⟨h, h', fun hname => ?_⟩
  have hpatched := names_determine.2.2.2 h h' hname
  exact absurd hpatched (by decide +kernel)

/-! ## Keys -/

/-- What host names are valid: those of RFC 1123 are, and none starts with a dash. Others
may be too, such as names in upper case and with wildcards. -/
structure HostNames where
  Valid : String → Prop
  of_isName : ∀ host, Dns.IsName Dns.lowerAlnum host → Valid host
  first : ∀ host, Valid host → ∃ c, host.toList.head? = some c ∧ c ≠ '-'

/-- The names of RFC 1123 only. -/
def rfc1123 : HostNames where
  Valid := Dns.IsName Dns.lowerAlnum
  of_isName _ h := h
  first _ h := by
    obtain ⟨c, hc, hcalnum⟩ := h.first
    refine ⟨c, hc, fun hdash => ?_⟩
    rw [hdash] at hcalnum
    cases hcalnum

/-- The names of EnvoyFilters, for valid host names. -/
inductive FilterName (hostNames : HostNames) : String → Prop
  | outbound {host : String} (vip : String) (port : Nat) (h : hostNames.Valid host) :
    FilterName hostNames (outboundEnvoyFilterName host vip port)
  | inbound {host : String} (port : Nat) (h : hostNames.Valid host) :
    FilterName hostNames (inboundEnvoyFilterName host port)

/-- The directions in names. -/
def directions : List String := ["outbound", "inbound"]

/-- The second namespace is the first one, followed by a dash and how the name of an
EnvoyFilter starts: `aeraki`, a direction, and maybe a label. -/
def GoesOn (ns ns' : String) : Prop :=
  ∃ d ∈ directions, ns' = ns ++ "-" ++ ("aeraki" ++ "-" ++ d) ∨
    ∃ label, Dns.IsLabel Dns.lowerAlnum label ∧ ns' = ns ++ "-" ++ ("aeraki" ++ "-" ++ d ++ "-" ++ label)

/-- A name starts with `aeraki`, a direction and a host. -/
theorem FilterName.shape {hostNames : HostNames} {name : String} (h : FilterName hostNames name) :
    ∃ d ∈ directions, ∃ body, name = "aeraki" ++ "-" ++ (d ++ "-" ++ body) ∧
      ∃ c, body.toList.head? = some c ∧ c ≠ '-' := by
  cases h with
  | outbound vip port h =>
    obtain ⟨c, hc, hne⟩ := hostNames.first _ h
    refine ⟨"outbound", List.mem_cons_self, _, outboundEnvoyFilterName_eq, c, ?_, hne⟩
    simp only [String.toList_append, List.append_assoc, List.head?_append, hc, Option.some_or]
  | inbound port h =>
    obtain ⟨c, hc, hne⟩ := hostNames.first _ h
    refine ⟨"inbound", List.mem_cons_of_mem _ List.mem_cons_self, _, inboundEnvoyFilterName_eq, c, ?_, hne⟩
    simp only [String.toList_append, List.append_assoc, List.head?_append, hc, Option.some_or]

theorem directions_spec : ∀ d ∈ directions, '-' ∉ d.toList ∧ d ≠ "" ∧ d.toList.head? ≠ some 'a' := by decide

theorem head?_append_of_ne_empty {s t : String} (h : s ≠ "") : (s ++ t).toList.head? = s.toList.head? := by
  rw [String.toList_append, List.head?_append_of_ne_nil]
  exact fun hnil => h (String.toList_eq_nil_iff.mp hnil)

theorem mem_append_dash {s t : String} : '-' ∈ (s ++ "-" ++ t).toList := by
  rw [String.toList_append, String.toList_append]
  exact List.mem_append_left _ (List.mem_append_right _ List.mem_cons_self)

section

variable {hostNames : HostNames} {ns ns' name name' : String}

/-- No name of an EnvoyFilter follows a part of how a name starts. -/
theorem not_cut_start {d z y body : String} (hd : d ∈ directions) (hname' : FilterName hostNames name')
    (hy : "aeraki" ++ "-" ++ d = z ++ "-" ++ y) : name' ≠ y ++ "-" ++ body := by
  obtain ⟨hdash, hne, hhead⟩ := directions_spec d hd
  rcases (Go.append_sep_eq_iff rfl).mp hy with ⟨-, rfl⟩ | ⟨x, -, rfl⟩ | ⟨x, haeraki, -⟩
  · obtain ⟨d', -, body', rfl, -⟩ := hname'.shape
    intro h
    have hletter := congrArg (fun s : String => s.toList.head?) h
    simp only [String.append_assoc] at hletter
    rw [head?_append_of_ne_empty (by decide), head?_append_of_ne_empty hne] at hletter
    exact absurd hletter.symm hhead
  · exact absurd mem_append_dash hdash
  · have hmem : '-' ∈ "aeraki".toList := haeraki ▸ mem_append_dash
    exact absurd hmem (by decide)

/-- If a name goes on after a part of the other namespace, that part is how a name
starts. -/
theorem goesOn_of_cut (hns' : Dns.IsLabel Dns.lowerAlnum ns') (hname : FilterName hostNames name)
    (hname' : FilterName hostNames name') {z : String} (hz : ns' = ns ++ "-" ++ z)
    (hcut : name = z ++ "-" ++ name') : GoesOn ns ns' := by
  obtain ⟨d, hd, body, rfl, c, hc, hdash⟩ := hname.shape
  have hcut : "aeraki" ++ "-" ++ d ++ "-" ++ body = z ++ "-" ++ name' := by
    rw [← hcut]
    simp only [String.append_assoc]
  rcases (Go.append_sep_eq_iff rfl).mp hcut with ⟨rfl, -⟩ | ⟨label, rfl, rfl⟩ | ⟨y, hy, hname'y⟩
  · exact ⟨d, hd, .inl hz⟩
  · -- the namespace goes on as the host starts
    have hne : label ≠ "" := by
      rintro rfl
      rw [String.append_assoc, String.empty_append, head?_append_of_ne_empty (by decide)] at hc
      exact hdash (Option.some.inj hc).symm
    rw [String.append_assoc, head?_append_of_ne_empty hne] at hc
    have hwhole : Dns.IsLabel Dns.lowerAlnum (ns ++ "-" ++ ("aeraki" ++ "-" ++ d ++ "-") ++ label) := by
      rw [hz] at hns'
      simpa only [String.append_assoc] using hns'
    have hmem : c ∈ (ns ++ "-" ++ ("aeraki" ++ "-" ++ d ++ "-") ++ label).toList := by
      rw [String.toList_append]
      exact List.mem_append_right _ (List.mem_of_head? hc)
    have hcalnum : Dns.lowerAlnum c = true := (hwhole.chars c hmem).resolve_right hdash
    exact ⟨d, hd, .inr ⟨label, hwhole.suffix ⟨c, hc, hcalnum⟩, hz⟩⟩
  · exact absurd hname'y (not_cut_start hd hname' hy)

/-- There are names of each direction, for any host. -/
theorem exists_filterName (hostNames : HostNames) {d : String} (hd : d ∈ directions) : ∃ rest, ∀ host,
    Dns.IsName Dns.lowerAlnum host → FilterName hostNames ("aeraki" ++ "-" ++ (d ++ "-" ++ (host ++ rest))) := by
  rcases List.mem_pair.mp hd with rfl | rfl
  · refine ⟨"-" ++ "10.0.0.1" ++ "-" ++ Go.itoa 80, fun host h => ?_⟩
    have hname := FilterName.outbound "10.0.0.1" 80 (hostNames.of_isName _ h)
    rw [outboundEnvoyFilterName_eq] at hname
    simpa only [String.append_assoc] using hname
  · refine ⟨"-" ++ Go.itoa 80, fun host h => ?_⟩
    have hname := FilterName.inbound 80 (hostNames.of_isName _ h)
    rw [inboundEnvoyFilterName_eq] at hname
    simpa only [String.append_assoc] using hname

/-- How a name starts, with a host, is a label. -/
theorem isLabel_start : ∀ d ∈ directions, Dns.IsLabel Dns.lowerAlnum ("aeraki" ++ "-" ++ d ++ "-" ++ "h") := by
  decide +kernel

/-- A name with a label before its host, in the namespace that it goes on from. -/
theorem isLabel_host {d label : String} (hd : d ∈ directions) (hns : Dns.IsLabel Dns.lowerAlnum ns)
    (hlabel : Dns.IsLabel Dns.lowerAlnum label)
    (hns' : Dns.IsLabel Dns.lowerAlnum (ns ++ "-" ++ ("aeraki" ++ "-" ++ d ++ "-" ++ label))) :
    Dns.IsLabel Dns.lowerAlnum (label ++ "-" ++ ("aeraki" ++ "-" ++ d ++ "-" ++ "h")) := by
  refine hlabel.append (isLabel_start d hd) ?_
  have hlength := hns'.length
  have hpos : 0 < ns.length := Nat.pos_of_ne_zero fun h => hns.ne_empty (String.length_eq_zero_iff.mp h)
  have hh : "h".length = 1 := rfl
  simp only [String.length_append] at hlength ⊢
  omega

/-- The EnvoyFilters of such namespaces can share a key. -/
theorem GoesOn.exists_shared (hostNames : HostNames) (hns : Dns.IsLabel Dns.lowerAlnum ns)
    (hns' : Dns.IsLabel Dns.lowerAlnum ns') (h : GoesOn ns ns') :
    ∃ name name', FilterName hostNames name ∧ FilterName hostNames name' ∧
      envoyFilterMapKey name ns = envoyFilterMapKey name' ns' := by
  obtain ⟨d, hd, hgoes⟩ := h
  obtain ⟨rest, hrest⟩ := exists_filterName hostNames hd
  have hh : Dns.IsName Dns.lowerAlnum "h" := (show Dns.IsLabel Dns.lowerAlnum "h" by decide).isName rfl
  unfold envoyFilterMapKey
  rcases hgoes with rfl | ⟨label, hlabel, rfl⟩
  · refine ⟨_, _, hrest _ ((isLabel_start d hd).isName rfl), hrest _ hh, ?_⟩
    simp only [String.append_assoc]
  · refine ⟨_, _, hrest _ ((isLabel_host hd hns hlabel hns').isName rfl), hrest _ hh, ?_⟩
    simp only [String.append_assoc]

theorem GoesOn.ne (h : GoesOn ns ns') : ns ≠ ns' := by
  rintro rfl
  obtain ⟨d, -, hgoes⟩ := h
  have hdash : "-".length = 1 := rfl
  rcases hgoes with hns | ⟨label, -, hns⟩
  · have hlength := congrArg String.length hns
    simp only [String.length_append, hdash] at hlength
    omega
  · have hlength := congrArg String.length hns
    simp only [String.length_append, hdash] at hlength
    omega

/-- The keys of EnvoyFilters in two namespaces identify their namespaces and
names if and only if neither namespace goes on from the other like a name. -/
theorem keys_identify_iff (hostNames : HostNames) (hns : Dns.IsLabel Dns.lowerAlnum ns)
    (hns' : Dns.IsLabel Dns.lowerAlnum ns') :
    (∀ name name', FilterName hostNames name → FilterName hostNames name' →
      envoyFilterMapKey name ns = envoyFilterMapKey name' ns' → ns = ns' ∧ name = name') ↔
    ¬GoesOn ns ns' ∧ ¬GoesOn ns' ns := by
  constructor
  · intro h
    refine ⟨fun hgoes => ?_, fun hgoes => ?_⟩
    · obtain ⟨name, name', hname, hname', hkey⟩ := hgoes.exists_shared hostNames hns hns'
      exact hgoes.ne (h name name' hname hname' hkey).1
    · obtain ⟨name, name', hname, hname', hkey⟩ := hgoes.exists_shared hostNames hns' hns
      exact hgoes.ne (h name' name hname' hname hkey.symm).1.symm
  · rintro ⟨hnot, hnot'⟩ name name' hname hname' hkey
    rcases (Go.append_sep_eq_iff rfl).mp hkey with hsame | ⟨z, hz, hcut⟩ | ⟨z, hz, hcut⟩
    · exact hsame
    · exact absurd (goesOn_of_cut hns' hname hname' hz hcut) hnot
    · exact absurd (goesOn_of_cut hns hname' hname hz hcut) hnot'

end

theorem GoesOn.isPrefix {ns ns' : String} (h : GoesOn ns ns') : ns.toList <+: ns'.toList := by
  obtain ⟨d, -, rfl | ⟨label, -, rfl⟩⟩ := h <;> simp only [String.toList_append, List.append_assoc] <;>
    exact List.prefix_append _ _

theorem separate_namespaces :
    (Dns.IsLabel Dns.lowerAlnum "shop" ∧ Dns.IsLabel Dns.lowerAlnum "istio-system") ∧
    ∀ name name', FilterName rfc1123 name → FilterName rfc1123 name' →
      envoyFilterMapKey name "shop" = envoyFilterMapKey name' "istio-system" → "shop" = "istio-system" ∧ name = name' :=
  ⟨by decide, (keys_identify_iff rfc1123 (by decide) (by decide)).mpr
    ⟨fun h => absurd h.isPrefix (by decide), fun h => absurd h.isPrefix (by decide)⟩⟩

/-- EnvoyFilters of valid hosts, in two namespaces, with one key. -/
theorem key_shared :
    (Dns.IsLabel Dns.lowerAlnum "shop" ∧ Dns.IsLabel Dns.lowerAlnum "shop-aeraki-outbound") ∧
    (FilterName rfc1123 (outboundEnvoyFilterName "aeraki-outbound-redis" "10.0.0.1" 6379) ∧
      FilterName rfc1123 (outboundEnvoyFilterName "redis" "10.0.0.1" 6379)) ∧
    envoyFilterMapKey (outboundEnvoyFilterName "aeraki-outbound-redis" "10.0.0.1" 6379) "shop" =
      envoyFilterMapKey (outboundEnvoyFilterName "redis" "10.0.0.1" 6379) "shop-aeraki-outbound" := by
  have hhost : Dns.IsLabel Dns.lowerAlnum "aeraki-outbound-redis" := by decide
  have hhost' : Dns.IsLabel Dns.lowerAlnum "redis" := by decide
  exact ⟨by decide, ⟨.outbound _ _ (hhost.isName rfl), .outbound _ _ (hhost'.isName rfl)⟩, by decide +kernel⟩

end Aeraki.Proof.EnvoyFilter
