import Mathlib

/-!
# Go's run-time behaviour

What a model of Go code has to keep of the language: a computation returns or
panics (`Comp`), indexing a slice and dereferencing a pointer panic (`index`,
`deref`), and the functions of `strings` and `strconv` that the code calls.
Slices are lists, pointers are options, strings are `String`s read by their
characters.
-/

namespace Go

/-! ## Panics -/

/-- Why a computation panics. -/
inductive Panic
  | indexOutOfRange
  | nilDereference
deriving DecidableEq

/-- A computation that returns a value or panics. -/
abbrev Comp (α : Type) : Type := Except Panic α

/-- `xs[i]`. -/
def index {α : Type} (xs : List α) (i : Nat) : Comp α :=
  match xs[i]? with
  | some x => .ok x
  | none => .error .indexOutOfRange

/-- `*p`, or reading a field through `p`. -/
def deref {α : Type} : Option α → Comp α
  | some x => .ok x
  | none => .error .nilDereference

variable {ε α β : Type}

theorem bind_eq_ok {x : Except ε α} {f : α → Except ε β} {r : β} :
    x >>= f = .ok r ↔ ∃ a, x = .ok a ∧ f a = .ok r := by
  cases x with
  | error e => simp [bind, Except.bind]
  | ok a => simp [bind, Except.bind]

theorem index_eq_ok {xs : List α} {i : Nat} {x : α} : index xs i = .ok x ↔ xs[i]? = some x := by
  unfold index
  split
  · rename_i y h; simp [h]
  · rename_i h; simp [h]

theorem index_of_lt {xs : List α} {i : Nat} (h : i < xs.length) : index xs i = .ok xs[i] :=
  index_eq_ok.mpr (List.getElem?_eq_getElem h)

@[simp] theorem index_zero_cons (x : α) (xs : List α) : index (x :: xs) 0 = .ok x := rfl

@[simp] theorem deref_some (x : α) : deref (some x) = .ok x := rfl

theorem deref_eq_ok {p : Option α} {x : α} : deref p = .ok x ↔ p = some x := by
  cases p <;> simp [deref]

/-- A loop over a slice returns when each of its steps does. -/
theorem mapM_ok {f : α → Except ε β} {xs : List α} (h : ∀ x ∈ xs, ∃ y, f x = .ok y) :
    ∃ ys, xs.mapM f = .ok ys := by
  induction xs with
  | nil => exact ⟨[], rfl⟩
  | cons x xs ih =>
    obtain ⟨y, hy⟩ := h x List.mem_cons_self
    obtain ⟨ys, hys⟩ := ih fun z hz => h z (List.mem_cons_of_mem _ hz)
    exact ⟨y :: ys, by rw [List.mapM_cons, hy, hys]; rfl⟩

/-- Two programs that go on alike from what the first step returns. -/
theorem bind_congr_ok {x : Except ε α} {f f' : α → Except ε β} (h : ∀ a, x = .ok a → f a = f' a) :
    (x >>= f) = (x >>= f') := by
  cases x with
  | error e => rfl
  | ok a => exact h a rfl

/-- The loop reads its step at the elements only. -/
theorem mapM_congr {f f' : α → Except ε β} : ∀ {xs : List α}, (∀ x ∈ xs, f x = f' x) →
    xs.mapM f = xs.mapM f'
  | [], _ => rfl
  | x :: xs, h => by
    rw [List.mapM_cons, List.mapM_cons, h x List.mem_cons_self,
      mapM_congr fun y hy => h y (List.mem_cons_of_mem _ hy)]

/-- A loop each of whose steps returns. -/
theorem mapM_eq_map {f : α → Except ε β} {g : α → β} (h : ∀ x, f x = .ok (g x)) :
    ∀ xs : List α, xs.mapM f = .ok (xs.map g)
  | [] => rfl
  | x :: xs => by
    rw [List.mapM_cons, h, mapM_eq_map h xs]
    rfl

/-- A loop that undoes `f` at each element. -/
theorem mapM_of_inverse {f : α → β} {g : β → Except ε α} (h : ∀ x, g (f x) = .ok x) :
    ∀ xs : List α, (xs.map f).mapM g = .ok xs
  | [] => rfl
  | x :: xs => by
    rw [List.map_cons, List.mapM_cons, h, mapM_of_inverse h xs]
    rfl

/-- A loop whose steps apply `g` to what they return. -/
theorem mapM_map {γ : Type} (f : α → Except ε β) (g : β → γ) : ∀ xs : List α,
    xs.mapM (fun x => (f x).map g) = (xs.mapM f).map (List.map g)
  | [] => rfl
  | x :: xs => by
    rw [List.mapM_cons, List.mapM_cons, mapM_map f g xs]
    cases f x with
    | error e => rfl
    | ok y => cases xs.mapM f <;> rfl

/-- If the loop returned, so did each of its steps. -/
theorem mapM_ok_forall {f : α → Except ε β} {xs : List α} {ys : List β} (h : xs.mapM f = .ok ys) :
    List.Forall₂ (fun x y => f x = .ok y) xs ys := by
  induction xs generalizing ys with
  | nil =>
    simp only [List.mapM_nil, pure, Except.pure, Except.ok.injEq] at h
    subst h; exact .nil
  | cons x xs ih =>
    rw [List.mapM_cons] at h
    obtain ⟨y, hy, h⟩ := bind_eq_ok.mp h
    obtain ⟨zs, hz, h⟩ := bind_eq_ok.mp h
    simp only [pure, Except.pure, Except.ok.injEq] at h
    subst h
    exact .cons hy (ih hz)

theorem exists_of_forall₂_left {R : α → β → Prop} {xs : List α} {ys : List β} (h : List.Forall₂ R xs ys) {x : α}
    (hx : x ∈ xs) : ∃ y ∈ ys, R x y := by
  induction h with
  | nil => cases hx
  | cons hxy _ ih =>
    rcases List.mem_cons.mp hx with rfl | hx
    · exact ⟨_, List.mem_cons_self, hxy⟩
    · obtain ⟨y, hm, hy⟩ := ih hx
      exact ⟨y, List.mem_cons_of_mem _ hm, hy⟩

theorem exists_of_forall₂_right {R : α → β → Prop} {xs : List α} {ys : List β} (h : List.Forall₂ R xs ys) {y : β}
    (hy : y ∈ ys) : ∃ x ∈ xs, R x y := exists_of_forall₂_left h.flip hy

/-- If the loop returned, the step of each element did. -/
theorem mapM_ok_mem {f : α → Except ε β} {xs : List α} {ys : List β} (h : xs.mapM f = .ok ys) {x : α}
    (hx : x ∈ xs) : ∃ y ∈ ys, f x = .ok y := exists_of_forall₂_left (mapM_ok_forall h) hx

/-- Each element the loop returned came from a step. -/
theorem mem_of_mapM_ok {f : α → Except ε β} {xs : List α} {ys : List β} (h : xs.mapM f = .ok ys) {y : β}
    (hy : y ∈ ys) : ∃ x ∈ xs, f x = .ok y := exists_of_forall₂_right (mapM_ok_forall h) hy

/-! ## Errors that a computation returns -/

section

variable {η : Type}

theorem run_bind_eq_ok {x : ExceptT η (Except ε) α} {f : α → ExceptT η (Except ε) β} {r : β} :
    (x >>= f).run = .ok (.ok r) ↔ ∃ a, x.run = .ok (.ok a) ∧ (f a).run = .ok (.ok r) := by
  rcases x with p | (e | a)
  · exact ⟨fun h => (nomatch h), fun ⟨_, h, _⟩ => (nomatch h)⟩
  · exact ⟨fun h => (nomatch h), fun ⟨_, h, _⟩ => (nomatch h)⟩
  · exact ⟨fun h => ⟨a, rfl, h⟩, fun ⟨_, h, h'⟩ => by cases h; exact h'⟩

theorem run_bind_eq_error {x : ExceptT η (Except ε) α} {f : α → ExceptT η (Except ε) β} {e : η} :
    (x >>= f).run = .ok (.error e) ↔
      x.run = .ok (.error e) ∨ ∃ a, x.run = .ok (.ok a) ∧ (f a).run = .ok (.error e) := by
  rcases x with p | (e' | a)
  · exact ⟨fun h => (nomatch h), fun h => h.elim (fun h => (nomatch h)) fun ⟨_, h, _⟩ => (nomatch h)⟩
  · exact ⟨fun h => .inl (by cases h; rfl), fun h => h.elim (fun h => by cases h; rfl) fun ⟨_, h, _⟩ => (nomatch h)⟩
  · exact ⟨fun h => .inr ⟨a, rfl, h⟩, fun h => h.elim (fun h => (nomatch h)) fun ⟨_, h, h'⟩ => by cases h; exact h'⟩

/-- If a loop returned without an error, so did each of its steps. -/
theorem run_mapM_forall {f : α → ExceptT η (Except ε) β} : ∀ {xs : List α} {ys : List β},
    (xs.mapM f).run = .ok (.ok ys) → List.Forall₂ (fun x y => (f x).run = .ok (.ok y)) xs ys
  | [], _, h => by cases h; exact .nil
  | x :: xs, _, h => by
    rw [List.mapM_cons] at h
    obtain ⟨y, hy, h⟩ := run_bind_eq_ok.mp h
    obtain ⟨ys, hys, h⟩ := run_bind_eq_ok.mp h
    cases h
    exact .cons hy (run_mapM_forall hys)

end

/-- A loop that skips some elements. -/
theorem filterMap_sublist_map {f : α → β} {g : α → Option β} : ∀ {xs : List α},
    (∀ x ∈ xs, g x = none ∨ g x = some (f x)) → (xs.filterMap g).Sublist (xs.map f)
  | [], _ => .refl _
  | x :: xs, h => by
    have ih := filterMap_sublist_map fun y hy => h y (List.mem_cons_of_mem _ hy)
    rw [List.filterMap_cons, List.map_cons]
    rcases h x List.mem_cons_self with e | e <;> rw [e]
    · exact ih.cons _
    · exact ih.cons_cons _

/-! ## `strings` and `strconv` -/

/-- `strings.HasPrefix`. -/
def hasPrefix (s p : String) : Bool := p.toList.isPrefixOf s.toList

/-- `strings.HasSuffix`. -/
def hasSuffix (s p : String) : Bool := p.toList.isSuffixOf s.toList

/-- `strings.Contains` of a one-character string. -/
def containsChar (s : String) (c : Char) : Bool := s.toList.contains c

/-- `strings.Split` at a one-character separator. -/
def split (s : String) (sep : Char) : List String :=
  (s.toList.splitOnP (· == sep)).map String.ofList

/-- `strings.ReplaceAll` of a one-character string. -/
def replaceAll (s : String) (old : Char) (new : String) : String :=
  String.ofList (s.toList.flatMap fun c => if c = old then new.toList else [c])

/-- `unicode.ToLower`, where its value is an ASCII letter: besides `A`–`Z`,
only `İ` (U+0130) and the Kelvin sign (U+212A) are mapped to one. Every other
character is kept: `unicode.ToLower` maps it to a non-ASCII one too. -/
def lowerChar (c : Char) : Char :=
  if c = Char.ofNat 0x130 then 'i' else if c = Char.ofNat 0x212a then 'k' else c.toLower

/-- `strings.ToLower`. -/
def toLower (s : String) : String := String.ofList (s.toList.map lowerChar)

/-- `strings.TrimPrefix`. -/
def trimPrefix (s p : String) : String :=
  if hasPrefix s p then String.ofList (s.toList.drop p.toList.length) else s

/-- `unicode.IsSpace`. -/
def isSpace (c : Char) : Bool :=
  [0x9, 0xa, 0xb, 0xc, 0xd, 0x20, 0x85, 0xa0, 0x1680, 0x2028, 0x2029, 0x202f, 0x205f, 0x3000].contains c.toNat ||
    (0x2000 ≤ c.toNat && c.toNat ≤ 0x200a)

/-- `strings.TrimSpace`. -/
def trimSpace (s : String) : String :=
  String.ofList ((s.toList.dropWhile isSpace).reverse.dropWhile isSpace).reverse

/-- `strconv.Atoi` with its error ignored: 0 for what is no number, and the
nearest 64-bit number for one out of range. -/
def atoi (s : String) : Int :=
  let magnitude (cs : List Char) : Option Nat :=
    if cs ≠ [] ∧ cs.all Char.isDigit then some (cs.foldl (fun n c => 10 * n + (c.toNat - '0'.toNat)) 0) else none
  match s.toList with
  | '-' :: cs => (magnitude cs).elim 0 fun n => max (-n : Int) (-2 ^ 63)
  | '+' :: cs => (magnitude cs).elim 0 fun n => min (n : Int) (2 ^ 63 - 1)
  | cs => (magnitude cs).elim 0 fun n => min (n : Int) (2 ^ 63 - 1)

/-- Whether `strconv.Atoi` returns no error: an optional sign and digits, in the
range of 64 bits. -/
def isInt (s : String) : Bool :=
  let inRange (cs : List Char) (bound : Nat) : Bool :=
    cs ≠ [] ∧ cs.all Char.isDigit ∧ cs.foldl (fun n c => 10 * n + (c.toNat - '0'.toNat)) 0 ≤ bound
  match s.toList with
  | '-' :: cs => inRange cs (2 ^ 63)
  | '+' :: cs => inRange cs (2 ^ 63 - 1)
  | cs => inRange cs (2 ^ 63 - 1)

/-- The number that digits write. -/
def decimal (cs : List Char) : Nat := cs.foldl (fun n c => 10 * n + (c.toNat - '0'.toNat)) 0

/-- `strconv.Atoi` of a string without a sign. -/
theorem isInt_iff {s : String} (hminus : s.toList.head? ≠ some '-') (hplus : s.toList.head? ≠ some '+') :
    isInt s = true ↔ s.toList ≠ [] ∧ (∀ c ∈ s.toList, c.isDigit = true) ∧ decimal s.toList < 2 ^ 63 := by
  unfold isInt decimal
  dsimp only
  split
  · rename_i cs h
    exact absurd (congrArg List.head? h) hminus
  · rename_i cs h
    exact absurd (congrArg List.head? h) hplus
  · rw [decide_eq_true_eq, List.all_eq_true, Nat.le_sub_one_iff_lt (by decide)]

/-- Why `net.SplitHostPort` fails. -/
inductive AddrError
  | missingPort
  | tooManyColons
  | missingBracket
  | unexpectedBracket
deriving DecidableEq

/-- `net.SplitHostPort`. A host in brackets ends at the first `]`, just before
the last colon. -/
def splitHostPort (hostport : String) : Except AddrError (String × String) :=
  let cs := hostport.toList
  -- What follows the last colon, and what precedes it.
  let port := (cs.reverse.takeWhile (· ≠ ':')).reverse
  let before := cs.take (cs.length - port.length - 1)
  if !cs.contains ':' then .error .missingPort
  else
    match cs with
    | '[' :: rest =>
      if !cs.contains ']' then .error .missingBracket
      else
        let host := rest.takeWhile (· ≠ ']')
        match rest.drop (host.length + 1) with
        | [] => .error .missingPort
        | c :: after =>
          if host.length + 2 = before.length then
            if rest.contains '[' || (c :: after).contains ']' then .error .unexpectedBracket
            else .ok (String.ofList host, String.ofList port)
          else if c = ':' then .error .tooManyColons
          else .error .missingPort
    | _ =>
      if before.contains ':' then .error .tooManyColons
      else if cs.contains '[' || cs.contains ']' then .error .unexpectedBracket
      else .ok (String.ofList before, String.ofList port)

/-- `strconv.Itoa`, and `%d`, of a number that is not negative. -/
def itoa (n : Nat) : String := n.repr

theorem itoa_inj {m n : Nat} : itoa m = itoa n ↔ m = n := Nat.repr_inj

/-- A number is printed in digits. -/
theorem isDigit_of_mem_itoa {n : Nat} {c : Char} (h : c ∈ (itoa n).toList) : c.isDigit = true := by
  rw [itoa, Nat.toList_repr] at h
  exact Nat.isDigit_of_mem_toDigits (by decide) (by decide) h

theorem not_mem_itoa {n : Nat} {c : Char} (hc : c.isDigit = false) : c ∉ (itoa n).toList := fun h => by
  rw [isDigit_of_mem_itoa h] at hc; cases hc

/-- Two ways to cut a list at a separator: at the same one, or one after the other. -/
theorem append_cons_eq_iff {c : α} {xs ys us vs : List α} :
    xs ++ c :: us = ys ++ c :: vs ↔
      xs = ys ∧ us = vs ∨ (∃ zs, ys = xs ++ c :: zs ∧ us = zs ++ c :: vs) ∨
        ∃ zs, xs = ys ++ c :: zs ∧ vs = zs ++ c :: us := by
  constructor
  · intro h
    rcases List.append_eq_append_iff.mp h with ⟨as, hys, hus⟩ | ⟨as, hxs, hvs⟩
    · cases as with
      | nil =>
        rw [List.append_nil] at hys
        exact .inl ⟨hys.symm, (List.cons.inj hus).2⟩
      | cons a as =>
        obtain ⟨rfl, htail⟩ := List.cons.inj hus
        exact .inr (.inl ⟨as, hys, htail⟩)
    · cases as with
      | nil =>
        rw [List.append_nil] at hxs
        exact .inl ⟨hxs, (List.cons.inj hvs).2.symm⟩
      | cons a as =>
        obtain ⟨rfl, htail⟩ := List.cons.inj hvs
        exact .inr (.inr ⟨as, hxs, htail⟩)
  · rintro (⟨rfl, rfl⟩ | ⟨zs, rfl, rfl⟩ | ⟨zs, rfl, rfl⟩)
    · rfl
    · rw [List.append_assoc, List.cons_append]
    · rw [List.append_assoc, List.cons_append]

theorem append_sep_eq_iff {a b sep u v : String} {c : Char} (hs : sep.toList = [c]) :
    a ++ sep ++ u = b ++ sep ++ v ↔
      a = b ∧ u = v ∨ (∃ z, b = a ++ sep ++ z ∧ u = z ++ sep ++ v) ∨ ∃ z, a = b ++ sep ++ z ∧ v = z ++ sep ++ u := by
  have hcut {a u : String} : (a ++ sep ++ u).toList = a.toList ++ c :: u.toList := by
    rw [String.toList_append, String.toList_append, hs, List.append_assoc, List.singleton_append]
  have hmiddle {a b u v : String} : (∃ zs, b.toList = a.toList ++ c :: zs ∧ u.toList = zs ++ c :: v.toList) ↔
      ∃ z, b = a ++ sep ++ z ∧ u = z ++ sep ++ v := by
    constructor
    · rintro ⟨zs, hb, hu⟩
      refine ⟨String.ofList zs, String.toList_inj.mp ?_, String.toList_inj.mp ?_⟩
      · rw [hcut, String.toList_ofList, hb]
      · rw [hcut, String.toList_ofList, hu]
    · rintro ⟨z, rfl, rfl⟩
      exact ⟨z.toList, hcut, hcut⟩
  rw [← String.toList_inj, hcut, hcut, append_cons_eq_iff, hmiddle, hmiddle, String.toList_inj, String.toList_inj]

/-- What follows the last separator of a string is determined by the string. -/
theorem append_sep_inj {a b sep u v : String} {c : Char} (hs : sep.toList = [c]) (hu : c ∉ u.toList) (hv : c ∉ v.toList) :
    a ++ sep ++ u = b ++ sep ++ v ↔ a = b ∧ u = v := by
  have hmem {z w : String} : c ∈ (z ++ sep ++ w).toList := by
    rw [String.toList_append, String.toList_append, hs]
    simp
  rw [append_sep_eq_iff hs]
  refine or_iff_left ?_
  rintro (⟨z, -, rfl⟩ | ⟨z, -, rfl⟩)
  · exact hu hmem
  · exact hv hmem

theorem append_itoa_inj {a b sep : String} {c : Char} {m n : Nat} (hs : sep.toList = [c]) (hc : c.isDigit = false) :
    a ++ sep ++ itoa m = b ++ sep ++ itoa n ↔ a = b ∧ m = n := by
  rw [append_sep_inj hs (not_mem_itoa hc) (not_mem_itoa hc), itoa_inj]

/-! ## The parts of a string -/

section

variable {s sep : String} {c : Char}

theorem toList_split : (split s c).map String.toList = s.toList.splitOn c := by
  rw [split, List.map_map]
  exact List.map_id'' (fun _ => String.toList_ofList) _

theorem split_ne_nil : split s c ≠ [] := by
  rw [split, ne_eq, List.map_eq_nil_iff]
  exact List.splitOnP_ne_nil _ _

theorem intercalate_split (hs : sep.toList = [c]) : sep.intercalate (split s c) = s := by
  rw [← String.toList_inj, String.toList_intercalate, toList_split, hs, List.intercalate_splitOn]

theorem split_intercalate (hs : sep.toList = [c]) {parts : List String} (hparts : ∀ p ∈ parts, c ∉ p.toList)
    (hne : parts ≠ []) : split (sep.intercalate parts) c = parts := by
  have hlist : ∀ l ∈ parts.map String.toList, c ∉ l := fun l hl => by
    obtain ⟨p, hp, rfl⟩ := List.mem_map.mp hl
    exact hparts p hp
  apply List.map_injective_iff.mpr fun _ _ => String.toList_inj.mp
  rw [toList_split, String.toList_intercalate, hs, List.splitOn_intercalate c hlist fun h => hne (List.map_eq_nil_iff.mp h)]

end

end Go
