import Aeraki.Framework.Regex
import Aeraki.Impl.Dubbo.Authz

/-!
# What the patterns of a policy match

The matchers that `matcher/string.go` and `model/generator.go` build for the
namespaces and principals of a policy, as Envoy reads them
(`StringMatcher.accepts`).

The expression for a namespace finds its pattern after any `/ns/` of an
identity and before any later `/`, and an asterisk of the pattern passes over
slashes. So it accepts an identity for another string than the namespace
(`Identity.crossings`), and is right if and only if the pattern matches none of
these or matches the namespace too (`namespace_iff`).

A pattern for principals with an asterisk in front is put into an expression
unquoted if there is a prefix; the other forms are matched literally. So the
matcher means what the pattern does if and only if the text after the asterisk
is neutral in an expression (`principal_iff`).
-/

namespace Aeraki.Impl.Dubbo

/-- What a matcher accepts, where `engine` is a full match of regular
expressions. -/
def StringMatcher.accepts (engine : String → String → Bool) : StringMatcher → String → Bool
  | .exactMatch s, x => x == s
  | .prefixMatch s, x => Go.hasPrefix x s
  | .suffixMatch s, x => Go.hasSuffix x s
  | .safeRegex regex, x => engine regex x

end Aeraki.Impl.Dubbo

namespace Aeraki.Proof.Dubbo

open Aeraki.Impl.Dubbo
open Regex (glob globItem Item)

/-! ## Identities -/

/-- The parts of a SPIFFE identity. -/
structure Identity where
  td : String
  ns : String
  sa : String
  td_ne : td ≠ ""
  ns_ne : ns ≠ ""
  sa_ne : sa ≠ ""
  td_slash : '/' ∉ td.toList
  ns_slash : '/' ∉ ns.toList
  sa_slash : '/' ∉ sa.toList

namespace Identity

variable (i : Identity)

def uri : String := "spiffe://" ++ i.td ++ "/ns/" ++ i.ns ++ "/sa/" ++ i.sa

/-- What stands between a `/ns/` of the identity and a later slash, besides the
namespace. -/
def crossings : List (List Char) :=
  (i.ns.toList ++ "/sa".toList) ::
    (if i.td = "ns" then ["ns".toList, "ns/".toList ++ i.ns.toList, "ns/".toList ++ i.ns.toList ++ "/sa".toList]
      else []) ++
    (if i.ns = "ns" then ["sa".toList] else [])

theorem mem_crossings {w : List Char} : w ∈ i.crossings ↔ w = i.ns.toList ++ "/sa".toList ∨
    (i.td = "ns" ∧ (w = "ns".toList ∨ w = "ns/".toList ++ i.ns.toList ∨
      w = "ns/".toList ++ i.ns.toList ++ "/sa".toList)) ∨ (i.ns = "ns" ∧ w = "sa".toList) := by
  unfold crossings
  by_cases htd : i.td = "ns" <;> by_cases hns : i.ns = "ns" <;> simp [htd, hns, or_assoc]

/-- The characters of the identity, by its slashes. -/
theorem toList_uri : i.uri.toList = "spiffe:".toList ++ '/' :: ([] ++ '/' :: (i.td.toList ++ '/' ::
    ("ns".toList ++ '/' :: (i.ns.toList ++ '/' :: ("sa".toList ++ '/' :: i.sa.toList))))) := by
  unfold uri
  simp only [String.toList_append]
  rw [show "spiffe://".toList = "spiffe:".toList ++ ['/', '/'] from rfl,
    show "/ns/".toList = '/' :: ("ns".toList ++ ['/']) from rfl,
    show "/sa/".toList = '/' :: ("sa".toList ++ ['/']) from rfl]
  simp only [List.append_assoc, List.cons_append, List.nil_append]

end Identity

/-- The parts between slashes. -/
def segments (w : List Char) : List (List Char) := w.splitOn '/'

theorem segments_append (u v : List Char) : segments (u ++ '/' :: v) = segments u ++ segments v :=
  List.splitOnP_append_cons u v rfl

theorem segments_eq {w : List Char} (h : '/' ∉ w) : segments w = [w] :=
  List.splitOnP_eq_singleton fun _ hc => beq_false_of_ne fun e => h (e ▸ hc)

theorem segments_ne_nil (w : List Char) : segments w ≠ [] := List.splitOnP_ne_nil _ w

theorem eq_of_segments {w : List Char} {ss : List (List Char)} (h : segments w = ss) : w = ['/'].intercalate ss := by
  rw [← h, segments, List.intercalate_splitOn]

theorem Identity.segments_uri (i : Identity) : segments i.uri.toList =
    ["spiffe:".toList, [], i.td.toList, "ns".toList, i.ns.toList, "sa".toList, i.sa.toList] := by
  rw [i.toList_uri]
  simp only [segments_append]
  rw [segments_eq i.td_slash, segments_eq i.ns_slash, segments_eq i.sa_slash]
  rfl

theorem eq_take_of_append {α : Type} {l ys zs : List α} (h : l = ys ++ zs) (hy : ys ≠ []) (hz : zs ≠ []) :
    ∃ k, ys = l.take k ∧ 0 < k ∧ k < l.length := by
  refine ⟨ys.length, by rw [h, List.take_left], List.length_pos_iff.mpr hy, ?_⟩
  rw [h, List.length_append]
  exact Nat.lt_add_of_pos_right (List.length_pos_iff.mpr hz)

/-- The parts of the identity after one that is `ns`, up to a later one. -/
theorem Identity.parts_cases (i : Identity) {xs ys zs : List (List Char)} (hx : xs ≠ []) (hy : ys ≠ []) (hz : zs ≠ [])
    (h : ["spiffe:".toList, [], i.td.toList, "ns".toList, i.ns.toList, "sa".toList, i.sa.toList] =
      xs ++ "ns".toList :: (ys ++ zs)) :
    ys = [i.ns.toList] ∨ ys = [i.ns.toList, "sa".toList] ∨
      (i.td.toList = "ns".toList ∧ (ys = ["ns".toList] ∨ ys = ["ns".toList, i.ns.toList] ∨
        ys = ["ns".toList, i.ns.toList, "sa".toList])) ∨
      (i.ns.toList = "ns".toList ∧ ys = ["sa".toList]) := by
  rcases xs with _ | ⟨x₁, _ | ⟨x₂, _ | ⟨x₃, _ | ⟨x₄, _ | ⟨x₅, xs⟩⟩⟩⟩⟩
  · exact absurd rfl hx
  all_goals simp only [List.cons_append, List.nil_append, List.cons.injEq] at h
  · exact absurd h.2.1 (by decide)
  · obtain ⟨-, -, htd, h⟩ := h
    obtain ⟨k, hk, h0, hl⟩ := eq_take_of_append h hy hz
    have hl : k < 4 := hl
    interval_cases k
    · exact .inr (.inr (.inl ⟨htd, .inl hk⟩))
    · exact .inr (.inr (.inl ⟨htd, .inr (.inl hk)⟩))
    · exact .inr (.inr (.inl ⟨htd, .inr (.inr hk)⟩))
  · obtain ⟨-, -, -, -, h⟩ := h
    obtain ⟨k, hk, h0, hl⟩ := eq_take_of_append h hy hz
    have hl : k < 3 := hl
    interval_cases k
    · exact .inl hk
    · exact .inr (.inl hk)
  · obtain ⟨-, -, -, -, hns, h⟩ := h
    obtain ⟨k, hk, h0, hl⟩ := eq_take_of_append h hy hz
    have hl : k < 2 := hl
    interval_cases k
    exact .inr (.inr (.inr ⟨hns, hk⟩))
  · -- fewer than three parts are left
    obtain ⟨-, -, -, -, -, h⟩ := h
    have hlen := congrArg List.length h
    simp only [List.length_cons, List.length_nil, List.length_append] at hlen
    have := List.length_pos_iff.mpr hy
    have := List.length_pos_iff.mpr hz
    omega

/-- Where `/ns/` stands in the identity, with a slash after it. -/
theorem Identity.aligned_iff (i : Identity) {P : List Char → Prop} :
    (∃ a w b, i.uri.toList = a ++ '/' :: ("ns".toList ++ '/' :: (w ++ '/' :: b)) ∧ P w) ↔
      P i.ns.toList ∨ ∃ w ∈ i.crossings, P w := by
  constructor
  · rintro ⟨a, w, b, h, hw⟩
    have hs := congrArg segments h
    rw [i.segments_uri, segments_append, segments_append, segments_append, segments_eq (w := "ns".toList) (by decide),
      List.singleton_append] at hs
    rcases i.parts_cases (segments_ne_nil a) (segments_ne_nil w) (segments_ne_nil b) hs with
      hw' | hw' | ⟨htd, hw' | hw' | hw'⟩ | ⟨hns, hw'⟩
    all_goals (have hw' := eq_of_segments hw'; subst hw')
    · exact .inl (by simpa using hw)
    all_goals refine .inr ⟨_, i.mem_crossings.mpr ?_, hw⟩
    · exact .inl (by simp)
    · exact .inr (.inl ⟨String.toList_inj.mp htd, .inl (by simp)⟩)
    · exact .inr (.inl ⟨String.toList_inj.mp htd, .inr (.inl (by simp))⟩)
    · exact .inr (.inl ⟨String.toList_inj.mp htd, .inr (.inr (by simp))⟩)
    · exact .inr (.inr ⟨String.toList_inj.mp hns, by simp⟩)
  · simp only [i.mem_crossings, i.toList_uri]
    rintro (hw | ⟨w, rfl | ⟨htd, rfl | rfl | rfl⟩ | ⟨hns, rfl⟩, hw⟩)
    · exact ⟨"spiffe://".toList ++ i.td.toList, _, "sa/".toList ++ i.sa.toList, by simp, hw⟩
    · exact ⟨"spiffe://".toList ++ i.td.toList, _, i.sa.toList, by simp, hw⟩
    · exact ⟨"spiffe:/".toList, _, i.ns.toList ++ "/sa/".toList ++ i.sa.toList, by simp [htd], hw⟩
    · exact ⟨"spiffe:/".toList, _, "sa/".toList ++ i.sa.toList, by simp [htd], hw⟩
    · exact ⟨"spiffe:/".toList, _, i.sa.toList, by simp [htd], hw⟩
    · exact ⟨"spiffe://".toList ++ i.td.toList ++ "/ns".toList, _, i.sa.toList, by simp [hns], hw⟩

/-! ## Namespaces -/

/-- The characters of the patterns for namespaces. -/
def PatternChar (c : Char) : Prop := c.isLower = true ∨ c.isDigit = true ∨ c = '-' ∨ c = '*'

theorem PatternChar.not_special {c : Char} (h : PatternChar c) (hs : c ≠ '*') : c ∉ Regex.special := by
  rcases h with h | h | rfl | h
  · exact Regex.not_special_of_isLower h
  · exact Regex.not_special_of_isDigit h
  · decide
  · exact absurd h hs

theorem PatternChar.ne_newline {c : Char} (h : PatternChar c) : c ≠ '\n' := by
  rintro rfl
  revert h
  unfold PatternChar
  decide

/-- The characters of an expression for a character of a pattern. -/
def globChar (c : Char) : List Char := if c = '*' then ['.', '*'] else [c]

theorem not_startsRepeat_globbed {v w : List Char} (h : ∀ c ∈ v, PatternChar c) :
    ¬ Regex.StartsRepeat (v.flatMap globChar ++ '/' :: w) := by
  cases v with
  | nil => exact Regex.not_startsRepeat_cons (by decide) (by decide)
  | cons c v =>
    by_cases hc : c = '*'
    · rw [List.flatMap_cons, globChar, if_pos hc]
      exact Regex.not_startsRepeat_cons (by decide) (by decide)
    · rw [List.flatMap_cons, globChar, if_neg hc]
      have hplus := (h c List.mem_cons_self).not_special hc
      exact Regex.not_startsRepeat_cons hc (by rintro rfl; exact hplus (by decide))

/-- An expression that is built from a pattern has the pattern's items. -/
theorem parse_globbed {w : List Char} {items : List Item} (hw : Regex.parse ('/' :: w) = some items) :
    ∀ {v : List Char}, (∀ c ∈ v, PatternChar c) →
      Regex.parse (v.flatMap globChar ++ '/' :: w) = some (v.map globItem ++ items)
  | [], _ => hw
  | c :: v, h => by
    obtain ⟨hc, hv⟩ := List.forall_mem_cons.mp h
    by_cases hs : c = '*'
    · rw [List.flatMap_cons, globChar, if_pos hs, List.map_cons, globItem, if_pos hs]
      exact (Regex.parse_dotStar (v.flatMap globChar ++ '/' :: w)).trans (by rw [parse_globbed hw hv]; rfl)
    · rw [List.flatMap_cons, globChar, if_neg hs, List.map_cons, globItem, if_neg hs]
      exact (Regex.parse_char (hc.not_special hs) (not_startsRepeat_globbed hv)).trans
        (by rw [parse_globbed hw hv]; rfl)

/-- The expression for the namespaces of a pattern. -/
def namespaceRegex (v : String) : String := ".*/ns/" ++ Go.replaceAll v '*' ".*" ++ "/.*"

theorem toList_namespaceRegex (v : String) : (namespaceRegex v).toList =
    '.' :: '*' :: ("/ns/".toList ++ (v.toList.flatMap globChar ++ '/' :: ['.', '*'])) := by
  unfold namespaceRegex Go.replaceAll
  simp only [String.toList_append, String.toList_ofList]
  rfl

theorem supported_namespaceRegex {v : String} (h : ∀ c ∈ v.toList, PatternChar c) :
    Regex.Supported (namespaceRegex v).toList := by
  have hglob : Regex.Supported (v.toList.flatMap globChar) := by
    intro c hc hs
    obtain ⟨d, hd, hc⟩ := List.mem_flatMap.mp hc
    unfold globChar at hc
    split at hc
    · rcases List.mem_pair.mp hc with rfl | rfl <;> decide
    · rename_i hne
      cases List.mem_singleton.mp hc
      exact absurd hs ((h c hd).not_special hne)
  have hhead : Regex.Supported ".*/ns/".toList := by decide
  rw [toList_namespaceRegex]
  exact hhead.append (hglob.append (by decide))

theorem parse_namespaceRegex {v : String} (h : ∀ c ∈ v.toList, PatternChar c) :
    Regex.parse (namespaceRegex v).toList = some (.dotStar :: ("/ns/".toList.map Item.char ++
      (v.toList.map globItem ++ [.char '/', .dotStar]))) := by
  rw [toList_namespaceRegex, Regex.parse_dotStar,
    Regex.parse_plain_append (by decide) (not_startsRepeat_globbed h), parse_globbed rfl h]
  rfl

/-- The expression finds the pattern after a `/ns/` and before a slash. -/
theorem accepts_namespaceItems {v : List Char} (hv : '\n' ∉ v) {x : List Char} :
    Regex.accepts (.dotStar :: ("/ns/".toList.map Item.char ++ (v.map globItem ++ [.char '/', .dotStar]))) x = true ↔
      '\n' ∉ x ∧ ∃ a w b, x = a ++ '/' :: ("ns".toList ++ '/' :: (w ++ '/' :: b)) ∧ glob v w = true := by
  have htail {t : List Char} : Regex.accepts [.char '/', .dotStar] t = true ↔ ∃ b, t = '/' :: b ∧ '\n' ∉ b := by
    rw [show [Item.char '/', .dotStar] = ['/'].map Item.char ++ [.dotStar] from rfl, Regex.accepts_append]
    simp only [Regex.accepts_literal, Regex.accepts_dotStar]
    constructor
    · rintro ⟨_, b, rfl, rfl, hb⟩
      exact ⟨b, rfl, hb⟩
    · rintro ⟨b, rfl, hb⟩
      exact ⟨['/'], b, rfl, rfl, hb⟩
  constructor
  · intro h
    obtain ⟨a, _, rfl, ha, h⟩ := Regex.accepts_cons.mp h
    obtain ⟨_, _, rfl, hns, h⟩ := Regex.accepts_append.mp h
    obtain ⟨w, _, rfl, hw, h⟩ := Regex.accepts_append.mp h
    obtain ⟨b, rfl, hb⟩ := htail.mp h
    obtain ⟨hg, hw⟩ := (Regex.accepts_globItems hv).mp hw
    cases Regex.accepts_literal.mp hns
    have ha := Regex.takes_dotStar.mp ha
    refine ⟨?_, a, w, b, by simp, hg⟩
    simp [ha, hw, hb]
  · rintro ⟨hx, a, w, b, rfl, hg⟩
    simp only [List.mem_append, List.mem_cons, not_or] at hx
    obtain ⟨ha, -, -, -, hw, -, hb⟩ := hx
    refine Regex.accepts_cons.mpr ⟨a, _, rfl, Regex.takes_dotStar.mpr ha, Regex.accepts_append.mpr ?_⟩
    refine ⟨"/ns/".toList, w ++ '/' :: b, rfl, Regex.accepts_literal.mpr rfl, Regex.accepts_append.mpr ?_⟩
    exact ⟨w, _, rfl, (Regex.accepts_globItems hv).mpr ⟨hg, hw⟩, htail.mpr ⟨b, rfl, hb⟩⟩

/-- What the matcher for a pattern accepts of identities. -/
theorem accepts_namespaceRegex {engine : String → String → Bool} (hengine : Regex.Implements engine) {v : String}
    (hv : ∀ c ∈ v.toList, PatternChar c) (i : Identity) :
    engine (namespaceRegex v) i.uri = true ↔ '\n' ∉ i.uri.toList ∧
      (glob v.toList i.ns.toList = true ∨ ∃ w ∈ i.crossings, glob v.toList w = true) := by
  have hnl : '\n' ∉ v.toList := fun h => (hv _ h).ne_newline rfl
  rw [hengine _ _ (supported_namespaceRegex hv), Regex.fullMatch, parse_namespaceRegex hv,
    ← i.aligned_iff (P := fun w => glob v.toList w = true)]
  exact accepts_namespaceItems hnl

/-- The matcher that the code generates for a pattern accepts an identity if and
only if its namespace matches the pattern, exactly where the pattern matches no
crossing, or matches the namespace too; and not the namespace, if there is a
newline in the identity. -/
theorem namespace_iff {engine : String → String → Bool} (hengine : Regex.Implements engine) {key v : String}
    (hv : ∀ c ∈ v.toList, PatternChar c) {m : StringMatcher}
    (hm : Generator.srcNamespaceGenerator.principal key v = .ok (.authenticated m)) (i : Identity) :
    (m.accepts engine i.uri = true ↔ glob v.toList i.ns.toList = true) ↔
      if '\n' ∈ i.uri.toList then glob v.toList i.ns.toList = false
      else glob v.toList i.ns.toList = true ∨ ∀ w ∈ i.crossings, glob v.toList w = false := by
  have h : m.accepts engine i.uri = engine (namespaceRegex v) i.uri := by cases hm; rfl
  rw [h, accepts_namespaceRegex hengine hv i]
  split
  · rename_i hn
    simp [hn]
  · rename_i hn
    cases hg : glob v.toList i.ns.toList <;> simp [hn]

/-- An engine that matches the modelled expressions. -/
def modelEngine (regex w : String) : Bool := Regex.fullMatch regex.toList w.toList

theorem implements_modelEngine : Regex.Implements modelEngine := fun _ _ _ => rfl

/-- An identity of the namespace `ns`. -/
def identityOf (ns : String) (hne : ns ≠ "") (hslash : '/' ∉ ns.toList) : Identity where
  td := "cluster.local"
  ns := ns
  sa := "default"
  td_ne := by decide
  ns_ne := hne
  sa_ne := by decide
  td_slash := by decide
  ns_slash := hslash
  sa_slash := by decide

/-- An identity of a namespace that the pattern `prod-*` matches. -/
def prodIdentity : Identity := identityOf "prod-a" (by decide) (by decide)

theorem prod_namespace :
    (stringMatcherRegex (namespaceRegex "prod-*")).accepts modelEngine prodIdentity.uri = true ↔
      glob "prod-*".toList "prod-a".toList = true := by
  have hv : ∀ c ∈ "prod-*".toList, PatternChar c := by simp [PatternChar]
  have hm : Generator.srcNamespaceGenerator.principal "source.namespace" "prod-*" =
    .ok (.authenticated (stringMatcherRegex (namespaceRegex "prod-*"))) := rfl
  refine (namespace_iff implements_modelEngine hv hm prodIdentity).mpr ?_
  rw [if_neg (by decide +kernel)]
  exact .inl (by decide +kernel)

/-- An identity of the namespace `b`. -/
def otherIdentity : Identity := identityOf "b" (by decide) (by decide)

/-- The pattern `*a` does not match the namespace `b`, and an identity of that
namespace is accepted: the asterisk passes over a slash, to the end of `b/sa`. -/
theorem suffix_pattern_accepts_other :
    Generator.srcNamespaceGenerator.principal "source.namespace" "*a" =
        .ok (.authenticated (stringMatcherRegex (namespaceRegex "*a"))) ∧
      (stringMatcherRegex (namespaceRegex "*a")).accepts modelEngine otherIdentity.uri = true ∧
      glob "*a".toList otherIdentity.ns.toList = false :=
  ⟨rfl, by decide +kernel, by decide +kernel⟩

/-! ## Principals -/

/-- What a pattern for principals stands for, after `lead`: any principal, a
suffix, a prefix, or itself. -/
inductive Denotes (lead : List Char) : List Char → List Char → Prop
  | wildcard {x : List Char} (hx : x ≠ []) : Denotes lead ['*'] x
  | trailing {s x : List Char} (hs : s ≠ []) (hx : Regex.Between lead s x) : Denotes lead ('*' :: s) x
  | leading {p x : List Char} (hp : (p ++ ['*']).head? ≠ some '*') (hx : lead ++ p <+: x) : Denotes lead (p ++ ['*']) x
  | itself {v : List Char} (hf : v.head? ≠ some '*') (hl : v.getLast? ≠ some '*') : Denotes lead v (lead ++ v)

section

variable {lead x : List Char}

theorem denotes_wildcard_iff : Denotes lead ['*'] x ↔ x ≠ [] := by
  refine ⟨fun h => ?_, .wildcard⟩
  generalize hv : ['*'] = v at h
  cases h with
  | wildcard hx => exact hx
  | trailing hs => cases hv; exact absurd rfl hs
  | leading hp => rw [← hv] at hp; exact absurd rfl hp
  | itself hf => rw [← hv] at hf; exact absurd rfl hf

theorem denotes_trailing_iff {s : List Char} (hs : s ≠ []) : Denotes lead ('*' :: s) x ↔ Regex.Between lead s x := by
  refine ⟨fun h => ?_, .trailing hs⟩
  generalize hv : '*' :: s = v at h
  cases h with
  | wildcard => cases hv; exact absurd rfl hs
  | trailing _ hx => cases hv; exact hx
  | leading hp => rw [← hv] at hp; exact absurd rfl hp
  | itself hf => rw [← hv] at hf; exact absurd rfl hf

theorem denotes_leading_iff {p : List Char} (hp : (p ++ ['*']).head? ≠ some '*') :
    Denotes lead (p ++ ['*']) x ↔ lead ++ p <+: x := by
  refine ⟨fun h => ?_, .leading hp⟩
  generalize hv : p ++ ['*'] = v at h
  cases h with
  | wildcard => rw [hv] at hp; exact absurd rfl hp
  | trailing => rw [hv] at hp; exact absurd rfl hp
  | leading _ hx => cases List.append_cancel_right hv; exact hx
  | itself _ hl => rw [← hv] at hl; exact absurd List.getLast?_concat hl

theorem denotes_itself_iff {v : List Char} (hf : v.head? ≠ some '*') (hl : v.getLast? ≠ some '*') :
    Denotes lead v x ↔ x = lead ++ v := by
  refine ⟨fun h => ?_, fun h => h ▸ .itself hf hl⟩
  cases h with
  | wildcard => exact absurd rfl hf
  | trailing => exact absurd rfl hf
  | leading => exact absurd List.getLast?_concat hl
  | itself => rfl

end

theorem hasPrefix_star {v : String} : Go.hasPrefix v "*" = true ↔ ∃ s, v.toList = '*' :: s := by
  rw [Go.hasPrefix, List.isPrefixOf_iff_prefix]
  exact ⟨fun ⟨s, h⟩ => ⟨s, h.symm⟩, fun ⟨s, h⟩ => ⟨s, h.symm⟩⟩

theorem hasSuffix_star {v : String} : Go.hasSuffix v "*" = true ↔ ∃ p, v.toList = p ++ ['*'] := by
  rw [Go.hasSuffix, List.isSuffixOf_iff_suffix]
  exact ⟨fun ⟨p, h⟩ => ⟨p, h.symm⟩, fun ⟨p, h⟩ => ⟨p, h.symm⟩⟩

/-- The matchers that the code builds, by the form of the pattern. -/
theorem stringMatcherWithPrefix_cases (v pre : String) :
    (v.toList = ['*'] ∧ stringMatcherWithPrefix v pre = .safeRegex ".+") ∨
    (∃ s, s ≠ [] ∧ v.toList = '*' :: s ∧ stringMatcherWithPrefix v pre =
      if pre = "" then .suffixMatch (String.ofList s) else .safeRegex (pre ++ ".*" ++ String.ofList s)) ∨
    (∃ p, v.toList = p ++ ['*'] ∧ v.toList.head? ≠ some '*' ∧
      stringMatcherWithPrefix v pre = .prefixMatch (pre ++ String.ofList p)) ∨
    (v.toList.head? ≠ some '*' ∧ v.toList.getLast? ≠ some '*' ∧
      stringMatcherWithPrefix v pre = .exactMatch (pre ++ v)) := by
  unfold stringMatcherWithPrefix
  by_cases hstar : v = "*"
  · exact .inl ⟨by rw [hstar]; rfl, if_pos hstar⟩
  rw [if_neg hstar]
  by_cases hfront : Go.hasPrefix v "*" = true
  · obtain ⟨s, hs⟩ := hasPrefix_star.mp hfront
    refine .inr (.inl ⟨s, ?_, hs, ?_⟩)
    · rintro rfl
      exact hstar (String.toList_inj.mp hs)
    · rw [if_pos hfront, hs]
      rfl
  rw [if_neg hfront]
  have hhead : v.toList.head? ≠ some '*' := fun h => by
    obtain ⟨s, hs⟩ := List.head?_eq_some_iff.mp h
    exact hfront (hasPrefix_star.mpr ⟨s, hs⟩)
  by_cases hend : Go.hasSuffix v "*" = true
  · obtain ⟨p, hp⟩ := hasSuffix_star.mp hend
    refine .inr (.inr (.inl ⟨p, hp, hhead, ?_⟩))
    rw [if_pos hend, hp, List.dropLast_concat]
  · refine .inr (.inr (.inr ⟨hhead, fun h => ?_, if_neg hend⟩))
    obtain ⟨p, hp⟩ := List.getLast?_eq_some_iff.mp h
    exact hend (hasSuffix_star.mpr ⟨p, hp⟩)

/-- `.+` matches what is not empty. -/
theorem engine_dotPlus {engine : String → String → Bool} (hengine : Regex.Implements engine) {x : String}
    (hx : '\n' ∉ x.toList) : engine ".+" x = true ↔ x.toList ≠ [] := by
  rw [hengine ".+" x (by decide)]
  show Regex.accepts [⟨.any, .plus⟩] x.toList = true ↔ _
  rw [Regex.accepts_cons]
  constructor
  · rintro ⟨u, v, he, ⟨-, hu⟩, -⟩ h0
    rw [h0] at he
    exact hu (List.append_eq_nil_iff.mp he.symm).1
  · intro hne
    refine ⟨x.toList, [], (List.append_nil _).symm, ⟨fun c hc => bne_iff_ne.mpr fun e => hx (e ▸ hc), hne⟩, rfl⟩

/-- The matchers that are not built from an expression with the pattern in it
mean what the pattern does. -/
theorem accepts_literally {engine : String → String → Bool} (hengine : Regex.Implements engine) {v pre : String}
    (h : pre = "" ∨ v.toList.head? ≠ some '*' ∨ v.toList = ['*']) {x : String} (hx : '\n' ∉ x.toList) :
    (stringMatcherWithPrefix v pre).accepts engine x = true ↔ Denotes pre.toList v.toList x.toList := by
  rcases stringMatcherWithPrefix_cases v pre with ⟨hv, hm⟩ | ⟨s, hs, hv, hm⟩ | ⟨p, hv, hhead, hm⟩ | ⟨hhead, hlast, hm⟩
  · rw [hm, hv, denotes_wildcard_iff]
    exact engine_dotPlus hengine hx
  · have hpre : pre = "" := by
      rcases h with h | h | h
      · exact h
      · exact absurd (by rw [hv]; rfl) h
      · rw [hv] at h
        exact absurd (List.cons.inj h).2 hs
    rw [hm, hv, if_pos hpre, hpre, denotes_trailing_iff hs]
    show Go.hasSuffix x (String.ofList s) = true ↔ _
    rw [Go.hasSuffix, String.toList_ofList, List.isSuffixOf_iff_suffix]
    exact ⟨fun h => ⟨List.nil_prefix, h, by simpa using h.length_le⟩, fun h => h.2.1⟩
  · rw [hm, hv, denotes_leading_iff (hv ▸ hhead)]
    show Go.hasPrefix x (pre ++ String.ofList p) = true ↔ _
    rw [Go.hasPrefix, String.toList_append, String.toList_ofList, List.isPrefixOf_iff_prefix]
  · rw [hm, denotes_itself_iff hhead hlast]
    show (x == pre ++ v) = true ↔ _
    rw [beq_iff_eq, ← String.toList_inj, String.toList_append]

/-- The text after an asterisk in front, which stands in an expression. -/
theorem accepts_spliced {engine : String → String → Bool} (hengine : Regex.Implements engine) {v pre : String}
    {s : List Char} (hs : s ≠ []) (hv : v.toList = '*' :: s) (hpre : pre ≠ "") (hsup : Regex.Supported pre.toList)
    (hsup' : Regex.Supported s) (x : String) :
    (stringMatcherWithPrefix v pre).accepts engine x = Regex.fullMatch (pre.toList ++ '.' :: '*' :: s) x.toList := by
  rcases stringMatcherWithPrefix_cases v pre with ⟨hv', -⟩ | ⟨s', -, hv', hm⟩ | ⟨p, -, hhead, -⟩ | ⟨hhead, -⟩
  · rw [hv] at hv'
    exact absurd (List.cons.inj hv').2 hs
  · rw [hv] at hv'
    cases hv'
    have hl : (pre ++ ".*" ++ String.ofList s).toList = pre.toList ++ '.' :: '*' :: s := by
      simp only [String.toList_append, String.toList_ofList, List.append_assoc]
      rfl
    rw [hm, if_neg hpre]
    show engine (pre ++ ".*" ++ String.ofList s) x = _
    have hdot : Regex.Supported ['.', '*'] := by decide
    rw [hengine _ _ (by rw [hl]; exact hsup.append (hdot.append hsup')), hl]
  · exact absurd (by rw [hv]; rfl) hhead
  · exact absurd (by rw [hv]; rfl) hhead

/-- The matcher for a pattern of principals means what the pattern does, of
subjects without newlines, if and only if nothing is put in an expression that
is not neutral there: the text after an asterisk in front of the pattern, if
there is a prefix. -/
theorem principal_iff {engine : String → String → Bool} (hengine : Regex.Implements engine) {v pre : String}
    (hpre : pre = "" ∨ pre = "spiffe://")
    (hsup : pre ≠ "" → ∀ s, v.toList = '*' :: s → Regex.Supported s) :
    (∀ x : String, '\n' ∉ x.toList →
      ((stringMatcherWithPrefix v pre).accepts engine x = true ↔ Denotes pre.toList v.toList x.toList)) ↔
      (pre ≠ "" → ∀ s ≠ [], v.toList = '*' :: s → Regex.Neutral s) := by
  by_cases h : pre = "" ∨ v.toList.head? ≠ some '*' ∨ v.toList = ['*']
  · refine iff_of_true (fun x hx => accepts_literally hengine h hx) fun hne s hs hv => ?_
    rcases h with h | h | h
    · exact absurd h hne
    · exact absurd (by rw [hv]; rfl) h
    · rw [hv] at h
      exact absurd (List.cons.inj h).2 hs
  · simp only [not_or, not_not] at h
    obtain ⟨hne, hhead, hstar⟩ := h
    obtain ⟨s, hv⟩ := List.head?_eq_some_iff.mp hhead
    have hs : s ≠ [] := by
      rintro rfl
      exact hstar hv
    have hpre := hpre.resolve_left hne
    have hspliced : Regex.Plain pre.toList ∧ Regex.Supported pre.toList ∧ '\n' ∉ pre.toList := by
      rw [hpre]
      decide
    have hx (x : String) : ((stringMatcherWithPrefix v pre).accepts engine x = true ↔
        Denotes pre.toList v.toList x.toList) ↔
        (Regex.fullMatch (pre.toList ++ '.' :: '*' :: s) x.toList = true ↔ Regex.Between pre.toList s x.toList) := by
      rw [accepts_spliced hengine hs hv hne hspliced.2.1 (hsup hne s hv), hv, denotes_trailing_iff hs]
    simp only [hx]
    refine Iff.trans ?_ ((Regex.spliced_iff (s := s) hspliced.1 hspliced.2.2).trans ?_)
    · refine ⟨fun h x hn => ?_, fun h x => h x.toList⟩
      simpa using h (String.ofList x) (by simpa using hn)
    · refine ⟨fun h _ s' _ hv' => ?_, fun h => h hne s hs hv⟩
      rw [hv] at hv'
      cases hv'
      exact h

theorem suffix_principal :
    (stringMatcherWithPrefix "*/sa/default" "spiffe://").accepts modelEngine "spiffe://td/ns/a/sa/default" = true := by
  have hsup : "spiffe://" ≠ "" → ∀ s, "*/sa/default".toList = '*' :: s → Regex.Supported s := by
    rintro - s ⟨⟩
    decide
  refine ((principal_iff implements_modelEngine (.inr rfl) hsup).mpr ?_ _ (by decide)).mpr ?_
  · rintro - s - ⟨⟩
    exact .inl (by decide)
  · exact .trailing (by decide) ⟨by decide, by decide, by decide⟩

/-- The pattern `*.b` stands for the principals that end in `.b`, and its matcher
accepts one that ends in `ab`. -/
theorem dot_accepts_other : (stringMatcherWithPrefix "*.b" "spiffe://").accepts modelEngine "spiffe://ab" = true ∧
    ¬ Denotes "spiffe://".toList "*.b".toList "spiffe://ab".toList := by
  refine ⟨by decide +kernel, fun h => ?_⟩
  have hs := ((denotes_trailing_iff (s := ['.', 'b']) (by decide)).mp h).2.1
  exact absurd hs (by decide)

end Aeraki.Proof.Dubbo
