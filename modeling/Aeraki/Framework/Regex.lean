import Mathlib

/-!
# Regular expressions of literals, dots and repetitions

The part of RE2's language that has characters, `.`, `*` and `+`: its parser,
and what a full match is. `.` does not accept a newline. An engine is a
parameter of whoever uses one: `Implements` says that it agrees with the full
match where an expression has no other operator. Glob patterns, in which `*`
stands for any string, are compared with the expressions that code builds from
them (`accepts_globItems`).
-/

namespace Regex

/-- What one character is compared with. -/
inductive Atom
  | char (c : Char)
  | any
deriving DecidableEq

def Atom.test : Atom → Char → Bool
  | .char c, d => c == d
  | .any, d => d != '\n'

/-- How often an atom is repeated. -/
inductive Quantifier
  | one
  | star
  | plus
deriving DecidableEq

structure Item where
  atom : Atom
  quantifier : Quantifier := .one
deriving DecidableEq

abbrev Item.char (c : Char) : Item := { atom := .char c }

abbrev Item.dotStar : Item := { atom := .any, quantifier := .star }

/-! ## The full match -/

/-- Some characters that satisfy `p`, then what `k` accepts. -/
def starThen (p : Char → Bool) (k : List Char → Bool) : List Char → Bool
  | [] => k []
  | c :: cs => k (c :: cs) || (p c && starThen p k cs)

/-- One character that satisfies `p`, then what `k` accepts. -/
def oneThen (p : Char → Bool) (k : List Char → Bool) : List Char → Bool
  | [] => false
  | c :: cs => p c && k cs

/-- The items, one after the other, match the whole list. -/
def accepts : List Item → List Char → Bool
  | [] => List.isEmpty
  | ⟨a, .one⟩ :: items => oneThen a.test (accepts items)
  | ⟨a, .star⟩ :: items => starThen a.test (accepts items)
  | ⟨a, .plus⟩ :: items => oneThen a.test (starThen a.test (accepts items))

theorem starThen_iff {p : Char → Bool} {k : List Char → Bool} : ∀ {w : List Char},
    starThen p k w = true ↔ ∃ u v, w = u ++ v ∧ (∀ c ∈ u, p c = true) ∧ k v = true
  | [] => by simp [starThen]
  | c :: cs => by
    rw [starThen, Bool.or_eq_true, Bool.and_eq_true, starThen_iff]
    constructor
    · rintro (h | ⟨hc, u, v, rfl, hu, hk⟩)
      · exact ⟨[], c :: cs, rfl, by simp, h⟩
      · exact ⟨c :: u, v, rfl, List.forall_mem_cons.mpr ⟨hc, hu⟩, hk⟩
    · rintro ⟨_ | ⟨d, u⟩, v, he, hu, hk⟩
      · rw [List.nil_append] at he
        exact .inl (he ▸ hk)
      · cases he
        obtain ⟨hd, hu⟩ := List.forall_mem_cons.mp hu
        exact .inr ⟨hd, u, v, rfl, hu, hk⟩

theorem oneThen_iff {p : Char → Bool} {k : List Char → Bool} {w : List Char} :
    oneThen p k w = true ↔ ∃ c v, w = c :: v ∧ p c = true ∧ k v = true := by
  cases w with
  | nil => simp [oneThen]
  | cons c cs => simp [oneThen, and_assoc]

/-- The characters that an item takes. -/
def Item.Takes (i : Item) (u : List Char) : Prop :=
  (∀ c ∈ u, i.atom.test c = true) ∧
    match i.quantifier with
    | .one => ∃ c, u = [c]
    | .star => True
    | .plus => u ≠ []

theorem accepts_cons {i : Item} {items : List Item} {w : List Char} :
    accepts (i :: items) w = true ↔ ∃ u v, w = u ++ v ∧ i.Takes u ∧ accepts items v = true := by
  obtain ⟨a, q⟩ := i
  cases q with
  | one =>
    rw [accepts, oneThen_iff]
    constructor
    · rintro ⟨c, v, rfl, hc, hv⟩
      exact ⟨[c], v, rfl, ⟨by simpa using hc, c, rfl⟩, hv⟩
    · rintro ⟨_, v, rfl, ⟨hc, c, rfl⟩, hv⟩
      exact ⟨c, v, rfl, hc c List.mem_cons_self, hv⟩
  | star =>
    rw [accepts, starThen_iff]
    simp [Item.Takes]
  | plus =>
    rw [accepts, oneThen_iff]
    simp only [starThen_iff]
    constructor
    · rintro ⟨c, _, rfl, hc, u, v, rfl, hu, hv⟩
      exact ⟨c :: u, v, rfl, ⟨List.forall_mem_cons.mpr ⟨hc, hu⟩, by simp⟩, hv⟩
    · rintro ⟨_ | ⟨c, u⟩, v, rfl, ⟨hu, hne⟩, hv⟩
      · exact absurd rfl hne
      · obtain ⟨hc, hu⟩ := List.forall_mem_cons.mp hu
        exact ⟨c, u ++ v, rfl, hc, u, v, rfl, hu, hv⟩

theorem accepts_nil {w : List Char} : accepts [] w = true ↔ w = [] := by
  rw [accepts, List.isEmpty_iff]

/-- Items in a row match parts in a row. -/
theorem accepts_append : ∀ {items items' : List Item} {w : List Char},
    accepts (items ++ items') w = true ↔
      ∃ u v, w = u ++ v ∧ accepts items u = true ∧ accepts items' v = true
  | [], items', w => by simp [accepts_nil]
  | i :: items, items', w => by
    rw [List.cons_append, accepts_cons]
    constructor
    · rintro ⟨u, v, rfl, hu, hv⟩
      obtain ⟨v₁, v₂, rfl, h₁, h₂⟩ := accepts_append.mp hv
      exact ⟨u ++ v₁, v₂, (List.append_assoc ..).symm, accepts_cons.mpr ⟨u, v₁, rfl, hu, h₁⟩, h₂⟩
    · rintro ⟨_, v, rfl, h, hv⟩
      obtain ⟨u, v₁, rfl, hu, h₁⟩ := accepts_cons.mp h
      exact ⟨u, v₁ ++ v, List.append_assoc .., hu, accepts_append.mpr ⟨v₁, v, rfl, h₁, hv⟩⟩

/-- Literal characters match themselves. -/
theorem accepts_literal : ∀ {cs w : List Char}, accepts (cs.map Item.char) w = true ↔ w = cs
  | [], _ => accepts_nil
  | c :: cs, w => by
    rw [List.map_cons, accepts, oneThen_iff]
    constructor
    · rintro ⟨d, v, rfl, hd, hv⟩
      rw [accepts_literal.mp hv, show c = d from eq_of_beq hd]
    · rintro rfl
      exact ⟨c, cs, rfl, beq_self_eq_true c, accepts_literal.mpr rfl⟩

/-- `.*` matches what has no newline. -/
theorem takes_dotStar {u : List Char} : Item.dotStar.Takes u ↔ '\n' ∉ u := by
  simp only [Item.Takes, Atom.test, bne_iff_ne, and_true]
  exact ⟨fun h hn => h _ hn rfl, fun h c hc e => h (e ▸ hc)⟩

theorem accepts_dotStar {w : List Char} : accepts [Item.dotStar] w = true ↔ '\n' ∉ w := by
  rw [accepts_cons]
  constructor
  · rintro ⟨u, v, rfl, hu, hv⟩
    rw [accepts_nil.mp hv, List.append_nil]
    exact takes_dotStar.mp hu
  · intro h
    exact ⟨w, [], (List.append_nil w).symm, takes_dotStar.mpr h, rfl⟩

/-- An item that is not starred takes a character. -/
theorem exists_taken : ∀ {items : List Item} {w : List Char}, accepts items w = true →
    ∀ i ∈ items, i.quantifier ≠ .star → ∃ c ∈ w, i.atom.test c = true
  | [], _, _ => fun _ hi => nomatch hi
  | i :: items, w, h => by
    obtain ⟨u, v, rfl, ⟨hu, hq⟩, hv⟩ := accepts_cons.mp h
    intro j hj hne
    rcases List.mem_cons.mp hj with rfl | hj
    · obtain ⟨c, u, rfl⟩ : ∃ c u', u = c :: u' := by
        cases u with
        | cons c u => exact ⟨c, u, rfl⟩
        | nil =>
          obtain ⟨a, q⟩ := j
          cases q with
          | one => obtain ⟨c, hc⟩ := hq; cases hc
          | star => exact absurd rfl hne
          | plus => exact absurd rfl hq
      exact ⟨c, List.mem_append_left _ List.mem_cons_self, hu c List.mem_cons_self⟩
    · obtain ⟨c, hc, ht⟩ := exists_taken hv j hj hne
      exact ⟨c, List.mem_append_right _ hc, ht⟩

/-! ## The parser -/

/-- The characters that are not literal in an expression. -/
def special : List Char := ['\\', '.', '+', '*', '?', '(', ')', '|', '[', ']', '\x7b', '\x7d', '^', '$']

/-- Those of an expression whose meaning is given here. -/
def operators : List Char := ['.', '+', '*']

theorem not_special_of {p : Char → Bool} (hall : (special.all fun c => !p c) = true) {c : Char} (h : p c = true) :
    c ∉ special := fun hc => by
  have hp := List.all_eq_true.mp hall c hc
  rw [h] at hp
  cases hp

theorem not_special_of_isLower {c : Char} (h : c.isLower = true) : c ∉ special := not_special_of (by decide) h

theorem not_special_of_isDigit {c : Char} (h : c.isDigit = true) : c ∉ special := not_special_of (by decide) h

def parseAtom (c : Char) : Option Atom :=
  if c = '.' then some .any else if c ∈ special then none else some (.char c)

/-- The items of an expression; none if a repetition has nothing to repeat. -/
def parse : List Char → Option (List Item)
  | [] => some []
  | c :: '*' :: cs => return { atom := ← parseAtom c, quantifier := .star } :: (← parse cs)
  | c :: '+' :: cs => return { atom := ← parseAtom c, quantifier := .plus } :: (← parse cs)
  | c :: cs => return { atom := ← parseAtom c } :: (← parse cs)

theorem parsed_cons {q : Quantifier} {atom : Option Atom} {rest : Option (List Item)} {items : List Item}
    (h : (do return ({ atom := ← atom, quantifier := q } : Item) :: (← rest)) = some items) :
    ∃ a r, atom = some a ∧ rest = some r ∧ items = ⟨a, q⟩ :: r := by
  cases atom with
  | none => cases h
  | some a =>
    cases rest with
    | none => cases h
    | some r =>
      cases h
      exact ⟨a, r, rfl, rfl, rfl⟩

/-- The expression matches the whole string. One that does not parse matches
nothing. -/
def fullMatch (regex w : List Char) : Bool :=
  match parse regex with
  | some items => accepts items w
  | none => false

/-- The expression has no operators but the modelled ones. -/
def Supported (regex : List Char) : Prop := ∀ c ∈ regex, c ∈ special → c ∈ operators

instance (regex : List Char) : Decidable (Supported regex) :=
  List.decidableBAll (fun c => c ∈ special → c ∈ operators) regex

theorem Supported.append {u v : List Char} (hu : Supported u) (hv : Supported v) : Supported (u ++ v) :=
  List.forall_mem_append.mpr ⟨hu, hv⟩

/-- The engine's full match is that of RE2, for supported expressions. -/
def Implements (engine : String → String → Bool) : Prop :=
  ∀ regex w, Supported regex.toList → engine regex w = fullMatch regex.toList w.toList

/-- The list starts with a repetition operator. -/
def StartsRepeat (cs : List Char) : Prop := ∃ ds, cs = '*' :: ds ∨ cs = '+' :: ds

theorem not_startsRepeat {cs : List Char} (hs : ∀ ds, cs = '*' :: ds → False) (hp : ∀ ds, cs = '+' :: ds → False) :
    ¬ StartsRepeat cs
  | ⟨ds, .inl h⟩ => hs ds h
  | ⟨ds, .inr h⟩ => hp ds h

theorem parse_cons {c : Char} {cs : List Char} (h : ¬ StartsRepeat cs) :
    parse (c :: cs) = (do return { atom := ← parseAtom c } :: (← parse cs)) := by
  rw [parse]
  · rintro ds rfl; exact h ⟨ds, .inl rfl⟩
  · rintro ds rfl; exact h ⟨ds, .inr rfl⟩

/-- A literal character that is not repeated. -/
theorem parse_char {c : Char} {cs : List Char} (hc : c ∉ special) (h : ¬ StartsRepeat cs) :
    parse (c :: cs) = (parse cs).map (Item.char c :: ·) := by
  have hdot : c ≠ '.' := by rintro rfl; exact hc (by decide)
  rw [parse_cons h, parseAtom, if_neg hdot, if_neg hc]
  cases parse cs <;> rfl

theorem parse_dotStar (cs : List Char) : parse ('.' :: '*' :: cs) = (parse cs).map (Item.dotStar :: ·) := by
  rw [parse]
  cases parse cs <;> rfl

theorem not_startsRepeat_cons {c : Char} {cs : List Char} (hs : c ≠ '*') (hp : c ≠ '+') : ¬ StartsRepeat (c :: cs) := by
  rintro ⟨ds, h | h⟩
  · exact hs (List.cons.inj h).1
  · exact hp (List.cons.inj h).1

/-- The characters are literal. -/
def Plain (cs : List Char) : Prop := ∀ c ∈ cs, c ∉ special

instance (cs : List Char) : Decidable (Plain cs) := List.decidableBAll (· ∉ special) cs

theorem Plain.not_startsRepeat {cs ds : List Char} (h : Plain cs) (hd : ¬ StartsRepeat ds) :
    ¬ StartsRepeat (cs ++ ds) := by
  cases cs with
  | nil => exact hd
  | cons c cs =>
    have hc := h c List.mem_cons_self
    exact not_startsRepeat_cons (by rintro rfl; exact hc (by decide)) (by rintro rfl; exact hc (by decide))

theorem parse_plain_append : ∀ {cs : List Char}, Plain cs → ∀ {ds : List Char}, ¬ StartsRepeat ds →
    parse (cs ++ ds) = (parse ds).map (cs.map Item.char ++ ·)
  | [], _, ds, _ => by cases hp : parse ds <;> simp [hp]
  | c :: cs, h, ds, hd => by
    have hcs : Plain cs := fun d hm => h d (List.mem_cons_of_mem _ hm)
    rw [List.cons_append, parse_char (h c List.mem_cons_self) (hcs.not_startsRepeat hd), parse_plain_append hcs hd,
      Option.map_map]
    rfl

theorem parse_plain {cs : List Char} (h : Plain cs) : parse cs = some (cs.map Item.char) := by
  have hnil : ¬ StartsRepeat [] := by rintro ⟨ds, h | h⟩ <;> cases h
  simpa [parse] using parse_plain_append h hnil

/-! ## The shortest match -/

/-- A character that the atom accepts. -/
def Atom.sample : Atom → Char
  | .char c => c
  | .any => 'a'

theorem Atom.test_sample (a : Atom) : a.test a.sample = true := by
  cases a with
  | char c => exact beq_self_eq_true c
  | any => decide

theorem not_special_of_sample {c : Char} {a : Atom} (h : parseAtom c = some a) (hc : a.sample = c) : c ∉ special := by
  unfold parseAtom at h
  split at h
  · cases h
    subst hc
    rename_i he
    exact absurd he (by decide)
  · split at h
    · cases h
    · assumption

/-- Of each item as little as it takes. -/
def shortest : List Item → List Char
  | [] => []
  | ⟨a, .one⟩ :: items => a.sample :: shortest items
  | ⟨_, .star⟩ :: items => shortest items
  | ⟨a, .plus⟩ :: items => a.sample :: shortest items

theorem accepts_shortest : ∀ items : List Item, accepts items (shortest items) = true
  | [] => rfl
  | ⟨a, .one⟩ :: items => by
    simp [shortest, accepts, oneThen, a.test_sample, accepts_shortest items]
  | ⟨a, .star⟩ :: items => by
    rw [shortest, accepts, starThen_iff]
    exact ⟨[], _, rfl, by simp, accepts_shortest items⟩
  | ⟨a, .plus⟩ :: items => by
    rw [shortest, accepts, oneThen_iff]
    exact ⟨_, _, rfl, a.test_sample, starThen_iff.mpr ⟨[], _, rfl, by simp, accepts_shortest items⟩⟩

theorem mem_shortest : ∀ {items : List Item} {c : Char}, c ∈ shortest items →
    ∃ i ∈ items, i.quantifier ≠ .star ∧ c = i.atom.sample
  | [], _, h => nomatch h
  | ⟨a, .one⟩ :: items, c, h => by
    rcases List.mem_cons.mp h with rfl | h
    · exact ⟨_, List.mem_cons_self, by simp, rfl⟩
    · obtain ⟨i, hi, hq⟩ := mem_shortest h
      exact ⟨i, List.mem_cons_of_mem _ hi, hq⟩
  | ⟨a, .star⟩ :: items, c, h => by
    obtain ⟨i, hi, hq⟩ := @mem_shortest items c h
    exact ⟨i, List.mem_cons_of_mem _ hi, hq⟩
  | ⟨a, .plus⟩ :: items, c, h => by
    rcases List.mem_cons.mp h with rfl | h
    · exact ⟨_, List.mem_cons_self, by simp, rfl⟩
    · obtain ⟨i, hi, hq⟩ := mem_shortest h
      exact ⟨i, List.mem_cons_of_mem _ hi, hq⟩

/-- It is no longer than the expression, and is the expression only if that is
literal. -/
theorem shortest_parse {regex : List Char} : ∀ {items : List Item}, parse regex = some items →
    (shortest items).length ≤ regex.length ∧ (shortest items = regex → Plain regex) := by
  induction regex using parse.induct with
  | case1 =>
    rintro _ ⟨⟩
    exact ⟨Nat.le_refl _, fun _ _ h => nomatch h⟩
  | case2 c cs ih =>
    intro items h
    obtain ⟨a, rest, -, hrest, rfl⟩ := parsed_cons h
    have hlen : (shortest rest).length < (c :: '*' :: cs).length := Nat.lt_add_right 1 (Nat.lt_succ_of_le (ih hrest).1)
    exact ⟨Nat.le_of_lt hlen, fun he => absurd (congrArg List.length he) (Nat.ne_of_lt hlen)⟩
  | case3 c cs ih =>
    intro items h
    obtain ⟨a, rest, -, hrest, rfl⟩ := parsed_cons h
    have hlen : (a.sample :: shortest rest).length < (c :: '+' :: cs).length :=
      Nat.succ_lt_succ (Nat.lt_succ_of_le (ih hrest).1)
    exact ⟨Nat.le_of_lt hlen, fun he => absurd (congrArg List.length he) (Nat.ne_of_lt hlen)⟩
  | case4 c cs hs hp ih =>
    intro items h
    rw [parse_cons (not_startsRepeat hs hp)] at h
    obtain ⟨a, rest, ha, hrest, rfl⟩ := parsed_cons h
    refine ⟨Nat.succ_le_succ (ih hrest).1, fun he => List.forall_mem_cons.mpr ?_⟩
    obtain ⟨hc, he⟩ := List.cons.inj he
    exact ⟨not_special_of_sample ha hc, (ih hrest).2 he⟩

theorem eq_of_parseAtom {c d : Char} (h : parseAtom c = some (.char d)) : d = c := by
  unfold parseAtom at h
  split at h
  · cases h
  · split at h <;> cases h
    rfl

/-- The characters of the items are those of the expression. -/
theorem mem_of_parse {regex : List Char} : ∀ {items : List Item}, parse regex = some items →
    ∀ i ∈ items, ∀ d, i.atom = .char d → d ∈ regex := by
  have hcons {q : Quantifier} {c : Char} {cs : List Char} {items : List Item}
      (h : (do return ({ atom := ← parseAtom c, quantifier := q } : Item) :: (← parse cs)) = some items)
      (ih : ∀ {items : List Item}, parse cs = some items → ∀ i ∈ items, ∀ d, i.atom = .char d → d ∈ cs) :
      ∀ i ∈ items, ∀ d, i.atom = .char d → d = c ∨ d ∈ cs := by
    obtain ⟨a, rest, ha, hrest, rfl⟩ := parsed_cons h
    intro i hi d hd
    rcases List.mem_cons.mp hi with rfl | hi
    · exact .inl (eq_of_parseAtom (ha.trans (congrArg some hd)))
    · exact .inr (ih hrest i hi d hd)
  induction regex using parse.induct with
  | case1 =>
    rintro _ ⟨⟩ i hi
    cases hi
  | case2 c cs ih =>
    intro items h i hi d hd
    rcases hcons h ih i hi d hd with rfl | hd <;> simp [*]
  | case3 c cs ih =>
    intro items h i hi d hd
    rcases hcons h ih i hi d hd with rfl | hd <;> simp [*]
  | case4 c cs hs hp ih =>
    intro items h i hi d hd
    rw [parse_cons (not_startsRepeat hs hp)] at h
    rcases hcons h ih i hi d hd with rfl | hd <;> simp [*]

/-! ## A literal in an expression -/

/-- `lead`, then anything, then `s`: not overlapping. -/
def Between (lead s x : List Char) : Prop := lead <+: x ∧ s <:+ x ∧ lead.length + s.length ≤ x.length

theorem between_iff {lead s x : List Char} : Between lead s x ↔ ∃ u, x = lead ++ (u ++ s) := by
  constructor
  · rintro ⟨⟨t, rfl⟩, hs, hlen⟩
    rw [List.length_append] at hlen
    obtain ⟨u, rfl⟩ : s <:+ t := List.suffix_of_suffix_length_le hs (List.suffix_append lead t) (by omega)
    exact ⟨u, rfl⟩
  · rintro ⟨u, rfl⟩
    refine ⟨List.prefix_append _ _, ⟨lead ++ u, List.append_assoc ..⟩, ?_⟩
    simp only [List.length_append]
    omega

/-- As an expression, `s` matches only with a newline. -/
def NeedsNewline (s : List Char) : Prop :=
  ∀ items, parse s = some items → ∃ i ∈ items, i.quantifier ≠ .star ∧ i.atom = .char '\n'

/-- What stands for itself where no newlines are: literal characters, or a text
with a newline that, as an expression, needs one too. -/
def Neutral (s : List Char) : Prop := Plain s ∨ ('\n' ∈ s ∧ NeedsNewline s)

theorem fullMatch_spliced {lead s x : List Char} (hl : Plain lead) :
    fullMatch (lead ++ '.' :: '*' :: s) x = true ↔
      ∃ items u t, parse s = some items ∧ x = lead ++ (u ++ t) ∧ '\n' ∉ u ∧ accepts items t = true := by
  have hp : parse (lead ++ '.' :: '*' :: s) = (parse s).map (lead.map Item.char ++ Item.dotStar :: ·) := by
    rw [parse_plain_append hl (not_startsRepeat_cons (by decide) (by decide)), parse_dotStar, Option.map_map]
    rfl
  unfold fullMatch
  rw [hp]
  cases parse s with
  | none => simp
  | some items =>
    show accepts (lead.map Item.char ++ Item.dotStar :: items) x = true ↔ _
    rw [accepts_append]
    constructor
    · rintro ⟨l, v, rfl, hlit, hv⟩
      obtain ⟨u, t, rfl, hu, ht⟩ := accepts_cons.mp hv
      rw [accepts_literal.mp hlit]
      exact ⟨items, u, t, rfl, rfl, takes_dotStar.mp hu, ht⟩
    · rintro ⟨_, u, t, ⟨⟩, rfl, hu, ht⟩
      exact ⟨lead, u ++ t, rfl, accepts_literal.mpr rfl, accepts_cons.mpr ⟨u, t, rfl, takes_dotStar.mpr hu, ht⟩⟩

/-- The shortest match has no newline, unless the text has one and needs it. -/
theorem not_mem_shortest {s : List Char} {items : List Item} (hp : parse s = some items)
    (h : '\n' ∉ s ∨ ¬NeedsNewline s) : '\n' ∉ shortest items := fun hm => by
  obtain ⟨i, hi, hq, hc⟩ := mem_shortest hm
  have ha : i.atom = .char '\n' := by
    cases ha : i.atom with
    | any => rw [ha] at hc; exact absurd hc (by decide)
    | char c => rw [ha] at hc; rw [show '\n' = c from hc]
  rcases h with hs | hneeds
  · exact hs (mem_of_parse hp i hi _ ha)
  · refine hneeds fun items' hi' => ?_
    rw [hp, Option.some.injEq] at hi'
    exact ⟨i, hi' ▸ hi, hq, ha⟩

/-- A shortest match that ends in the text is the text. -/
theorem plain_of_shortest {s u : List Char} {items : List Item} (hp : parse s = some items)
    (hu : shortest items = u ++ s) : Plain s := by
  obtain ⟨hlen, heq⟩ := shortest_parse hp
  have hnil : u = [] := by
    rw [hu, List.length_append] at hlen
    exact List.length_eq_zero_iff.mp (by omega)
  rw [hnil, List.nil_append] at hu
  exact heq hu

theorem neutral_of_spliced {lead s : List Char} (hl : Plain lead) (hn : '\n' ∉ lead)
    (h : ∀ x, '\n' ∉ x → (fullMatch (lead ++ '.' :: '*' :: s) x = true ↔ Between lead s x)) : Neutral s := by
  by_contra hneu
  rw [Neutral, not_or, not_and_or] at hneu
  obtain ⟨hplain, hneeds⟩ := hneu
  cases hp : parse s with
  | none =>
    -- the text itself is not matched
    have hs : '\n' ∉ s := hneeds.resolve_right fun h => h fun items hi => by rw [hp] at hi; cases hi
    have hx : '\n' ∉ lead ++ ([] ++ s) := by simp [hn, hs]
    obtain ⟨items, -, -, hi, -⟩ := (fullMatch_spliced hl).mp ((h _ hx).mpr (between_iff.mpr ⟨[], rfl⟩))
    rw [hp] at hi
    cases hi
  | some items =>
    -- the shortest match is, and is another text
    have hx : '\n' ∉ lead ++ ([] ++ shortest items) := by simp [hn, not_mem_shortest hp hneeds]
    have hbetween := (h _ hx).mp ((fullMatch_spliced hl).mpr
      ⟨items, [], _, hp, rfl, List.not_mem_nil, accepts_shortest items⟩)
    obtain ⟨u, hu⟩ := between_iff.mp hbetween
    exact hplain (plain_of_shortest hp (List.append_cancel_left hu))

theorem Plain.spliced {lead s x : List Char} (hs : Plain s) (hl : Plain lead) (hx : '\n' ∉ x) :
    fullMatch (lead ++ '.' :: '*' :: s) x = true ↔ Between lead s x := by
  rw [fullMatch_spliced hl, between_iff, parse_plain hs]
  constructor
  · rintro ⟨_, u, t, ⟨⟩, rfl, -, ht⟩
    exact ⟨u, by rw [accepts_literal.mp ht]⟩
  · rintro ⟨u, rfl⟩
    simp only [List.mem_append, not_or] at hx
    exact ⟨_, u, s, rfl, rfl, hx.2.1, accepts_literal.mpr rfl⟩

theorem NeedsNewline.not_spliced {lead s x : List Char} (hs : NeedsNewline s) (hl : Plain lead) (hx : '\n' ∉ x) :
    ¬fullMatch (lead ++ '.' :: '*' :: s) x = true := fun h => by
  obtain ⟨items, u, t, hp, rfl, -, ht⟩ := (fullMatch_spliced hl).mp h
  obtain ⟨i, hi, hq, ha⟩ := hs items hp
  obtain ⟨c, hc, hb⟩ := exists_taken ht i hi hq
  rw [ha] at hb
  have hc' : '\n' ∈ t := (eq_of_beq hb : '\n' = c) ▸ hc
  exact hx (List.mem_append_right _ (List.mem_append_right _ hc'))

/-- An expression into which `s` is put unquoted matches, of the strings without
newlines, those that end in `s` if and only if `s` is neutral. -/
theorem spliced_iff {lead s : List Char} (hl : Plain lead) (hn : '\n' ∉ lead) :
    (∀ x, '\n' ∉ x → (fullMatch (lead ++ '.' :: '*' :: s) x = true ↔ Between lead s x)) ↔ Neutral s := by
  refine ⟨neutral_of_spliced hl hn, ?_⟩
  rintro (hplain | ⟨hs, hneeds⟩) x hx
  · exact hplain.spliced hl hx
  · exact iff_of_false (hneeds.not_spliced hl hx) fun h => hx (h.2.1.subset hs)

/-! ## Glob patterns -/

/-- The pattern matches, with `*` for any string. -/
def glob : List Char → List Char → Bool
  | [] => List.isEmpty
  | c :: v => if c = '*' then fun w => w.tails.any (glob v) else oneThen (c == ·) (glob v)

/-- The item for a character of a pattern. -/
def globItem (c : Char) : Item := if c = '*' then .dotStar else .char c

theorem glob_star {v w : List Char} : glob ('*' :: v) w = true ↔ ∃ u t, w = u ++ t ∧ glob v t = true := by
  rw [glob, if_pos rfl, List.any_eq_true]
  simp only [List.mem_tails]
  constructor
  · rintro ⟨t, ⟨u, rfl⟩, ht⟩
    exact ⟨u, t, rfl, ht⟩
  · rintro ⟨u, t, rfl, ht⟩
    exact ⟨t, ⟨u, rfl⟩, ht⟩

theorem glob_cons {c : Char} {v w : List Char} (hc : c ≠ '*') :
    glob (c :: v) w = true ↔ ∃ t, w = c :: t ∧ glob v t = true := by
  rw [glob, if_neg hc, oneThen_iff]
  simp only [beq_iff_eq]
  constructor
  · rintro ⟨d, t, rfl, rfl, ht⟩
    exact ⟨t, rfl, ht⟩
  · rintro ⟨t, rfl, ht⟩
    exact ⟨c, t, rfl, rfl, ht⟩

/-- The items of a pattern match as the pattern does, where there are no
newlines. -/
theorem accepts_globItems : ∀ {v : List Char}, '\n' ∉ v → ∀ {w : List Char},
    accepts (v.map globItem) w = true ↔ glob v w = true ∧ '\n' ∉ w
  | [], _, w => by
    rw [List.map_nil, accepts_nil, glob, List.isEmpty_iff]
    exact ⟨fun h => ⟨h, by rw [h]; exact List.not_mem_nil⟩, fun h => h.1⟩
  | c :: v, hn, w => by
    rw [List.mem_cons, not_or] at hn
    by_cases hc : c = '*'
    · subst hc
      rw [List.map_cons, globItem, if_pos rfl, accepts_cons, glob_star]
      constructor
      · rintro ⟨u, t, rfl, hu, ht⟩
        obtain ⟨hg, hnt⟩ := (accepts_globItems hn.2).mp ht
        exact ⟨⟨u, t, rfl, hg⟩, by rw [List.mem_append, not_or]; exact ⟨takes_dotStar.mp hu, hnt⟩⟩
      · rintro ⟨⟨u, t, rfl, hg⟩, hw⟩
        rw [List.mem_append, not_or] at hw
        exact ⟨u, t, rfl, takes_dotStar.mpr hw.1, (accepts_globItems hn.2).mpr ⟨hg, hw.2⟩⟩
    · rw [List.map_cons, globItem, if_neg hc, accepts, oneThen_iff, glob_cons hc]
      constructor
      · rintro ⟨d, t, rfl, hd, ht⟩
        obtain ⟨hg, hnt⟩ := (accepts_globItems hn.2).mp ht
        have hd : c = d := eq_of_beq hd
        exact ⟨⟨t, by rw [hd], hg⟩, by rw [List.mem_cons, not_or]; exact ⟨hd ▸ hn.1, hnt⟩⟩
      · rintro ⟨⟨t, rfl, hg⟩, hw⟩
        rw [List.mem_cons, not_or] at hw
        exact ⟨c, t, rfl, beq_self_eq_true c, (accepts_globItems hn.2).mpr ⟨hg, hw.2⟩⟩

end Regex
