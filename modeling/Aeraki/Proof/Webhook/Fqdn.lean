import Aeraki.Framework.Dns
import Aeraki.Impl.Webhook.Validation

/-!
# Fully-qualified domain names

What `ValidateFQDN` accepts: labels separated by dots, maybe with a dot at the end
(`Reads`), in at most 255 bytes (`validateFQDN_iff`). The last label should not be
made of digits only. It is tested by `strconv.Atoi`, which fails for large numbers,
and it is not tested if there is a dot at the end (`fqdn_iff`).
-/

namespace Aeraki.Proof.Webhook

open Aeraki.Impl Aeraki.Impl.Webhook
open Dns (toList_dot)

section

variable (lib : Libraries)

/-- The string is these labels, `top` the last of them, with dots between them and
maybe one at the end. -/
structure Reads (s : String) (labels : List String) (top : String) (trailing : Bool) : Prop where
  valid : ∀ l ∈ labels ++ [top], lib.isDNS1123Label l = true
  text : s = ".".intercalate (labels ++ [top]) ++ if trailing then "." else ""

/-- The label is made of digits only. -/
def Numeric (label : String) : Prop := label.toList.all Char.isDigit = true

instance (label : String) : Decidable (Numeric label) := inferInstanceAs (Decidable (_ = true))

/-- The documented grammar: from 1 to 255 bytes, and the last label is not made of
digits only. -/
def Fqdn (s : String) : Prop :=
  (1 ≤ s.utf8ByteSize ∧ s.utf8ByteSize ≤ 255) ∧ ∃ labels top trailing, Reads lib s labels top trailing ∧ ¬Numeric top

end

/-- What the library accepts are labels. -/
def AcceptsLabels (lib : Libraries) : Prop := ∀ l, lib.isDNS1123Label l = true → Dns.IsLabel Char.isAlphanum l

variable {lib : Libraries} {s top top' : String} {labels labels' : List String} {trailing trailing' : Bool}

/-! ## Parts -/

theorem intercalate_trailing (hne : labels ≠ []) : ".".intercalate (labels ++ [""]) = ".".intercalate labels ++ "." := by
  rw [String.intercalate_append_of_ne_nil hne (List.cons_ne_nil _ _), String.intercalate_singleton, String.append_empty]

theorem AcceptsLabels.ne_empty (hlib : AcceptsLabels lib) (h : lib.isDNS1123Label top = true) : top ≠ "" :=
  (hlib top h).ne_empty

theorem AcceptsLabels.not_mem_dot (hlib : AcceptsLabels lib) (h : lib.isDNS1123Label top = true) : '.' ∉ top.toList :=
  (hlib top h).not_mem (by decide) (by decide)

theorem Reads.top_valid (h : Reads lib s labels top trailing) : lib.isDNS1123Label top = true :=
  h.valid top (List.mem_append_right _ List.mem_cons_self)

/-- The parts of the string are the labels, and an empty part after a dot at the end. -/
theorem Reads.split (hlib : AcceptsLabels lib) (h : Reads lib s labels top trailing) :
    Go.split s '.' = labels ++ [top] ++ if trailing then [""] else [] := by
  have hne : labels ++ [top] ≠ [] := List.append_ne_nil_of_right_ne_nil _ (List.cons_ne_nil _ _)
  have hdots : ∀ l ∈ labels ++ [top], '.' ∉ l.toList := fun l hl => hlib.not_mem_dot (h.valid l hl)
  rw [h.text]
  cases trailing with
  | false =>
    rw [if_neg Bool.false_ne_true, if_neg Bool.false_ne_true, String.append_empty, List.append_nil]
    exact Go.split_intercalate toList_dot hdots hne
  | true =>
    rw [if_pos rfl, if_pos rfl, ← intercalate_trailing hne]
    refine Go.split_intercalate toList_dot (fun l hl => ?_) (List.append_ne_nil_of_left_ne_nil hne _)
    rcases List.mem_append.mp hl with hl | hl
    · exact hdots l hl
    · rw [List.mem_singleton.mp hl]
      exact List.not_mem_nil

/-- There is one way to read a string. -/
theorem Reads.unique (hlib : AcceptsLabels lib) (h : Reads lib s labels top trailing)
    (h' : Reads lib s labels' top' trailing') : top = top' ∧ trailing = trailing' := by
  have hsplit := (h.split hlib).symm.trans (h'.split hlib)
  have hlast {xs ys : List String} {x y : String} (heq : xs ++ [x] = ys ++ [y]) : x = y :=
    List.singleton_inj.mp (List.append_inj' heq rfl).2
  cases trailing with
  | false =>
    rw [if_neg Bool.false_ne_true, List.append_nil] at hsplit
    cases trailing' with
    | false =>
      rw [if_neg Bool.false_ne_true, List.append_nil] at hsplit
      exact ⟨hlast hsplit, rfl⟩
    | true => exact absurd (hlast hsplit) (hlib.ne_empty h.top_valid)
  | true =>
    cases trailing' with
    | false =>
      rw [if_neg Bool.false_ne_true, List.append_nil] at hsplit
      exact absurd (hlast hsplit).symm (hlib.ne_empty h'.top_valid)
    | true => exact ⟨hlast (List.append_inj' hsplit rfl).1, rfl⟩

theorem Reads.pos (hlib : AcceptsLabels lib) (h : Reads lib s labels top trailing) : 1 ≤ s.utf8ByteSize := by
  by_contra hzero
  have hempty : s = "" := String.utf8ByteSize_eq_zero_iff.mp (Nat.lt_one_iff.mp (Nat.lt_of_not_le hzero))
  subst hempty
  have hlast : top ∈ Go.split "" '.' := by
    rw [h.split hlib]
    exact List.mem_append_left _ (List.mem_append_right _ List.mem_cons_self)
  exact hlib.ne_empty h.top_valid (List.mem_singleton.mp hlast)

/-! ## The code -/

/-- The loop over the parts: the last one may be empty. -/
theorem validateLabels_iff (domain : String) : ∀ (parts : List String) (last : String),
    validateLabels lib domain (parts ++ [last]) = [] ↔
      (∀ l ∈ parts, lib.isDNS1123Label l = true) ∧ (last = "" ∨ lib.isDNS1123Label last = true)
  | [], last => by
    simp only [List.nil_append, validateLabels, true_and]
    by_cases hempty : last = ""
    · simp [hempty]
    · simp [hempty]
  | part :: parts, last => by
    have hne : parts ++ [last] ≠ [] := List.append_ne_nil_of_right_ne_nil _ (List.cons_ne_nil _ _)
    rw [List.cons_append, validateLabels, if_neg fun h => hne h.1, List.forall_mem_cons, and_assoc,
      ← validateLabels_iff domain parts]
    cases lib.isDNS1123Label part <;> simp

theorem validateFQDN_eq_nil : validateFQDN lib s = [] ↔
    (1 ≤ s.utf8ByteSize ∧ s.utf8ByteSize ≤ 255) ∧ validateDNS1123Labels lib s = [] := by
  have hempty : s = "" ↔ s.utf8ByteSize = 0 := String.utf8ByteSize_eq_zero_iff.symm
  unfold validateFQDN checkDNS1123Preconditions
  by_cases hlong : s.utf8ByteSize > 255
  · rw [if_pos hlong]
    exact iff_of_false (List.cons_ne_nil _ _) fun h => by omega
  rw [if_neg hlong]
  by_cases hzero : s.utf8ByteSize = 0
  · rw [if_pos (hempty.mpr hzero)]
    exact iff_of_false (List.cons_ne_nil _ _) fun h => by omega
  · rw [if_neg (mt hempty.mp hzero)]
    exact (and_iff_right ⟨by omega, by omega⟩).symm

theorem validateDNS1123Labels_eq_nil {parts : List String} {last : String} (h : Go.split s '.' = parts ++ [last]) :
    validateDNS1123Labels lib s = [] ↔ Go.isInt last = false ∧
      (∀ l ∈ parts, lib.isDNS1123Label l = true) ∧ (last = "" ∨ lib.isDNS1123Label last = true) := by
  unfold validateDNS1123Labels
  simp only [h, List.getLastD_concat]
  cases Go.isInt last with
  | true => simp
  | false => simp only [Bool.false_eq_true, if_false, true_and, validateLabels_iff]

/-- `ValidateFQDN` accepts labels whose last one is followed by a dot, or not taken for
a number. -/
theorem validateFQDN_iff (hlib : AcceptsLabels lib) : validateFQDN lib s = [] ↔
    (1 ≤ s.utf8ByteSize ∧ s.utf8ByteSize ≤ 255) ∧
      ∃ labels top trailing, Reads lib s labels top trailing ∧ (trailing = true ∨ Go.isInt top = false) := by
  rw [validateFQDN_eq_nil, and_congr_right_iff]
  rintro ⟨hsize, -⟩
  constructor
  · intro h
    obtain ⟨parts, last, hsplit⟩ := (List.eq_nil_or_concat' (Go.split s '.')).resolve_left Go.split_ne_nil
    obtain ⟨hint, hparts, hlast⟩ := (validateDNS1123Labels_eq_nil hsplit).mp h
    have htext : s = ".".intercalate (parts ++ [last]) := by rw [← hsplit, Go.intercalate_split toList_dot]
    by_cases hempty : last = ""
    · subst hempty
      -- a dot at the end: there is a label before it, since the string is not empty
      rcases List.eq_nil_or_concat' parts with rfl | ⟨labels, top, rfl⟩
      · rw [htext] at hsize
        exact absurd hsize (by decide)
      · rw [intercalate_trailing (List.append_ne_nil_of_right_ne_nil _ (List.cons_ne_nil _ _))] at htext
        exact ⟨labels, top, true, ⟨hparts, htext⟩, .inl rfl⟩
    · refine ⟨parts, last, false, ⟨fun l hl => ?_, htext.trans String.append_empty.symm⟩, .inr hint⟩
      rcases List.mem_append.mp hl with hl | hl
      · exact hparts l hl
      · rw [List.mem_singleton.mp hl]
        exact hlast.resolve_left hempty
  · rintro ⟨labels, top, trailing, h, hint⟩
    have hsplit := h.split hlib
    cases trailing with
    | false =>
      rw [if_neg Bool.false_ne_true, List.append_nil] at hsplit
      have hlabels : ∀ l ∈ labels, lib.isDNS1123Label l = true := fun l hl => h.valid l (List.mem_append_left _ hl)
      exact (validateDNS1123Labels_eq_nil hsplit).mpr
        ⟨hint.resolve_left Bool.false_ne_true, hlabels, .inr h.top_valid⟩
    | true => exact (validateDNS1123Labels_eq_nil hsplit).mpr ⟨rfl, h.valid, .inl rfl⟩

/-- Of the labels, `strconv.Atoi` takes those for numbers that are made of digits, up to
the largest one. -/
theorem isInt_label_iff (hlib : AcceptsLabels lib) (h : lib.isDNS1123Label top = true) :
    Go.isInt top = true ↔ Numeric top ∧ Go.decimal top.toList < 2 ^ 63 := by
  obtain ⟨c, hc, halnum⟩ := (hlib top h).first
  have hne : top.toList ≠ [] := fun hnil => by
    rw [hnil] at hc
    cases hc
  have hsign {sign : Char} (hs : sign.isAlphanum = false) : top.toList.head? ≠ some sign := fun hhead => by
    rw [hc] at hhead
    cases hhead
    rw [hs] at halnum
    cases halnum
  rw [Go.isInt_iff (hsign (by decide)) (hsign (by decide)), and_iff_right hne, Numeric, List.all_eq_true]

/-- `ValidateFQDN` decides the documented grammar of domain names at every string but
those whose last label is made of digits, and either is followed by a dot or writes a
number of more than 63 bits. -/
theorem fqdn_iff (hlib : AcceptsLabels lib) (s : String) :
    (validateFQDN lib s = [] ↔ Fqdn lib s) ↔
      ∀ labels top trailing, Reads lib s labels top trailing → s.utf8ByteSize ≤ 255 → Numeric top →
        trailing = false ∧ Go.decimal top.toList < 2 ^ 63 := by
  rw [validateFQDN_iff hlib, Fqdn]
  constructor
  · intro h labels top trailing hreads hsize hnumeric
    have hrejected := mt h.mp fun ⟨_, labels', top', trailing', hreads', hnot⟩ =>
      hnot ((hreads.unique hlib hreads').1 ▸ hnumeric)
    by_contra hcon
    refine hrejected ⟨⟨hreads.pos hlib, hsize⟩, labels, top, trailing, hreads, ?_⟩
    cases trailing with
    | true => exact .inl rfl
    | false =>
      refine .inr (Bool.eq_false_iff.mpr fun hint => hcon ⟨rfl, ?_⟩)
      exact ((isInt_label_iff hlib hreads.top_valid).mp hint).2
  · intro h
    refine and_congr_right fun ⟨_, hsize⟩ => exists_congr fun labels => exists_congr fun top => exists_congr fun trailing =>
      and_congr_right fun hreads => ⟨fun hint hnumeric => ?_, fun hnot => .inr ?_⟩
    · obtain ⟨rfl, hdecimal⟩ := h labels top trailing hreads hsize hnumeric
      have hint := hint.resolve_left Bool.false_ne_true
      rw [(isInt_label_iff hlib hreads.top_valid).mpr ⟨hnumeric, hdecimal⟩] at hint
      cases hint
    · exact Bool.eq_false_iff.mpr fun hint => hnot ((isInt_label_iff hlib hreads.top_valid).mp hint).1

/-- The libraries, with what labels are. -/
def strict : Libraries where
  regexpCompile _ := none
  visibilityValidate _ := none
  isDNS1123Label := Dns.isLabel Char.isAlphanum
  quote := id
  formatFloat _ := ""

theorem acceptsLabels_strict : AcceptsLabels strict := fun _ h => Dns.isLabel_iff.mp h

/-- A name with a dot at the end is read. -/
theorem decided_trailing : validateFQDN strict "svc.ns." = [] ↔ Fqdn strict "svc.ns." := by
  refine (fqdn_iff acceptsLabels_strict _).mpr fun labels top trailing hreads _ hnumeric => ?_
  have hsvc : Reads strict "svc.ns." ["svc"] "ns" true := ⟨by decide, by decide +kernel⟩
  obtain ⟨rfl, -⟩ := hreads.unique acceptsLabels_strict hsvc
  exact absurd hnumeric (by decide)

/-- With a dot at the end, a name may end in digits. -/
theorem digits_accepted : validateFQDN strict "svc.1." = [] ∧ ¬Fqdn strict "svc.1." := by
  refine ⟨by decide +kernel, fun ⟨_, labels, top, trailing, hreads, hnot⟩ => ?_⟩
  have hsvc : Reads strict "svc.1." ["svc"] "1" true := ⟨by decide, by decide +kernel⟩
  obtain ⟨rfl, -⟩ := hreads.unique acceptsLabels_strict hsvc
  exact hnot (by decide)

end Aeraki.Proof.Webhook
