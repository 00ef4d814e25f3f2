import Aeraki.Framework.Go

/-!
# Labels and names of DNS

The labels of RFC 1123 over the letters that are allowed (`IsLabel`), and the names
made of them (`IsName`): what they start and end with, the parts of a label, and how
labels are joined.
-/

namespace Dns

/-- The lower-case letters and the digits. -/
def lowerAlnum (c : Char) : Bool := c.isLower || c.isDigit

/-- A label over the letters and digits `alnum`: no dash at an end, and at most 63
characters. -/
structure IsLabel (alnum : Char → Bool) (s : String) : Prop where
  first : ∃ c, s.toList.head? = some c ∧ alnum c = true
  last : ∃ c, s.toList.getLast? = some c ∧ alnum c = true
  chars : ∀ c ∈ s.toList, alnum c = true ∨ c = '-'
  length : s.length ≤ 63

/-- Whether the string is a label. -/
def isLabel (alnum : Char → Bool) (s : String) : Bool :=
  s.toList.head?.any alnum && s.toList.getLast?.any alnum && s.toList.all (fun c => alnum c || c == '-') &&
    s.length ≤ 63

/-- A name: labels that are separated by dots, in at most 253 characters. -/
structure IsName (alnum : Char → Bool) (s : String) : Prop where
  labels : ∀ l ∈ Go.split s '.', IsLabel alnum l
  length : s.length ≤ 253

variable {alnum : Char → Bool} {s u v : String} {c : Char}

theorem isLabel_iff : isLabel alnum s = true ↔ IsLabel alnum s := by
  simp only [isLabel, Bool.and_eq_true, Option.any_eq_true, List.all_eq_true, Bool.or_eq_true, beq_iff_eq,
    decide_eq_true_eq]
  constructor
  · rintro ⟨⟨⟨hfirst, hlast⟩, hchars⟩, hlength⟩
    exact ⟨hfirst, hlast, hchars, hlength⟩
  · rintro ⟨hfirst, hlast, hchars, hlength⟩
    exact ⟨⟨⟨hfirst, hlast⟩, hchars⟩, hlength⟩

instance : Decidable (IsLabel alnum s) := decidable_of_iff _ isLabel_iff

theorem IsLabel.ne_empty (h : IsLabel alnum s) : s ≠ "" := by
  rintro rfl
  obtain ⟨c, hc, -⟩ := h.first
  cases hc

theorem IsLabel.not_mem (h : IsLabel alnum s) (hc : alnum c = false) (hne : c ≠ '-') : c ∉ s.toList := fun hmem => by
  rcases h.chars c hmem with halnum | hdash
  · rw [hc] at halnum
    cases halnum
  · exact hne hdash

/-- What follows in a label, from a letter or digit on. -/
theorem IsLabel.suffix (h : IsLabel alnum (u ++ v)) (hv : ∃ c, v.toList.head? = some c ∧ alnum c = true) :
    IsLabel alnum v := by
  obtain ⟨d, hd, hdalnum⟩ := h.last
  have hne : v.toList ≠ [] := fun hnil => by
    obtain ⟨c, hc, -⟩ := hv
    rw [hnil] at hc
    cases hc
  refine ⟨hv, ⟨d, ?_, hdalnum⟩, fun e he => h.chars e ?_, ?_⟩
  · rwa [String.toList_append, List.getLast?_append_of_ne_nil _ hne] at hd
  · rw [String.toList_append]
    exact List.mem_append_right _ he
  · have := h.length
    rw [String.length_append] at this
    omega

/-- Two labels and a dash between them. -/
theorem IsLabel.append (hu : IsLabel alnum u) (hv : IsLabel alnum v) (hlen : (u ++ "-" ++ v).length ≤ 63) :
    IsLabel alnum (u ++ "-" ++ v) := by
  obtain ⟨c, hc, hcalnum⟩ := hu.first
  obtain ⟨d, hd, hdalnum⟩ := hv.last
  refine ⟨⟨c, ?_, hcalnum⟩, ⟨d, ?_, hdalnum⟩, fun e he => ?_, hlen⟩
  · rw [String.toList_append, String.toList_append, List.append_assoc, List.head?_append, hc]
    rfl
  · rw [String.toList_append, List.getLast?_append, hd]
    rfl
  · rw [String.toList_append, String.toList_append, List.mem_append, List.mem_append] at he
    rcases he with (he | he) | he
    · exact hu.chars e he
    · exact .inr (List.mem_singleton.mp he)
    · exact hv.chars e he

theorem toList_dot : ".".toList = ['.'] := rfl

theorem IsLabel.isName (h : IsLabel alnum s) (hdot : alnum '.' = false) : IsName alnum s := by
  have hsplit := Go.split_intercalate toList_dot (List.forall_mem_singleton.mpr (h.not_mem hdot (by decide)))
    (List.cons_ne_nil s [])
  rw [String.intercalate_singleton] at hsplit
  refine ⟨?_, h.length.trans (by decide)⟩
  rw [hsplit]
  exact List.forall_mem_singleton.mpr h

/-- A name starts with a letter or a digit. -/
theorem IsName.first (h : IsName alnum s) : ∃ c, s.toList.head? = some c ∧ alnum c = true := by
  obtain ⟨l, ls, hsplit⟩ := List.exists_cons_of_ne_nil (Go.split_ne_nil (s := s) (c := '.'))
  obtain ⟨c, hc, halnum⟩ := (h.labels l (hsplit ▸ List.mem_cons_self)).first
  refine ⟨c, ?_, halnum⟩
  rw [← Go.intercalate_split (s := s) toList_dot, hsplit]
  cases ls with
  | nil => rwa [String.intercalate_singleton]
  | cons l' ls =>
    rw [String.intercalate_cons_cons, String.toList_append, String.toList_append, List.append_assoc,
      List.head?_append, hc]
    rfl

end Dns
