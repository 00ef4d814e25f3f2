import Aeraki.Proof.EnvoyFilter.NetworkFilter

/-!
# The selectors of inbound EnvoyFilters

`inboundEnvoyFilterWorkloadSelector` takes its labels from the ServiceEntry's
selector or else from an annotation, and an absent annotation gives the label
`app` with an empty value, which is a selector to `hasInboundWorkloadSelector`.
So an inbound EnvoyFilter has a declared selector if and only if the
ServiceEntry has labels, or the annotation is a value, a key and a value, or
has too many parts to be a label (`declared_iff`).
-/

namespace Aeraki.Proof.EnvoyFilter

open Aeraki.Impl

/-- The labels of the ServiceEntry's selector. -/
def specLabels (service : Config ServiceEntry) : GoMap String String := service.spec.workloadSelector.getD ∅

/-- The annotation, without its spaces. -/
def selectorLabel (service : Config ServiceEntry) : String :=
  Go.replaceAll ((service.annotations.lookup "workloadSelector").getD "") ' ' ""

/-- The inbound EnvoyFilters, those with a selector, have one that is declared:
by the ServiceEntry, or by an annotation whose label has a key and a value. -/
def Declared (service : Config ServiceEntry) (filters : List EnvoyFilterWrapper) : Prop :=
  ∀ w ∈ filters, ∀ labels, w.envoyfilter.workloadSelector = some labels →
    (specLabels service ≠ ∅ ∨ selectorLabel service ≠ "") ∧
      (specLabels service = ∅ → ∀ key value, labels.lookup key = some value → key ≠ "" ∧ value ≠ "")

/-- The parts of an annotation are those of a label with a key and a value, or
of no label. -/
def LabelParts : List String → Prop
  | [value] => value ≠ ""
  | [key, value] => key ≠ "" ∧ value ≠ ""
  | _ => True

/-! ## The selector -/

/-- The selector of an annotation's parts. -/
def partsSelector (label : String) : List String → GoMap String String
  | [_] => Finmap.insert "app" label ∅
  | [key, value] => Finmap.insert key value ∅
  | _ => ∅

theorem inboundEnvoyFilterWorkloadSelector_eq (service : Config ServiceEntry) :
    inboundEnvoyFilterWorkloadSelector service =
      if specLabels service = ∅ then
        partsSelector (selectorLabel service) (Go.split (selectorLabel service) ':')
      else specLabels service := by
  unfold inboundEnvoyFilterWorkloadSelector specLabels selectorLabel
  dsimp only
  generalize Go.replaceAll ((service.annotations.lookup "workloadSelector").getD "") ' ' "" = label
  generalize Go.split label ':' = parts
  split
  · rename_i h
    rw [h]
    rcases parts with _ | ⟨a, _ | ⟨b, _ | ⟨c, parts⟩⟩⟩ <;> rfl
  · rfl

/-- What `generateNetworkFilter` returns has the selector in an inbound
EnvoyFilter, if it is one. -/
theorem exists_selector_iff {service : Config ServiceEntry} {port : ServicePort} {outbound : Option Proxy}
    {inbound : Proxy} {filterName filterType : String} {operation : PatchOperation} {filters : List EnvoyFilterWrapper}
    (h : generateNetworkFilter service port outbound (some inbound) filterName filterType operation = .ok filters)
    {labels : GoMap String String} :
    (∃ w ∈ filters, w.envoyfilter.workloadSelector = some labels) ↔
      labels = inboundEnvoyFilterWorkloadSelector service ∧ labels ≠ ∅ := by
  obtain ⟨out, hout, hfilters⟩ := generateNetworkFilter_ok h
  have hnone : ∀ w ∈ out, w.envoyfilter.workloadSelector ≠ some labels := fun w hw hs => by
    obtain ⟨proxy, host, address, -, rfl⟩ := hout w hw
    cases hs
  rcases hfilters with ⟨hempty, rfl⟩ | ⟨proxy, host, hsel, rfl⟩
  · exact iff_of_false (fun ⟨w, hw, hs⟩ => hnone w hw hs) fun ⟨he, hne⟩ => hne (he.trans (hempty rfl))
  · constructor
    · rintro ⟨w, hw, hs⟩
      rcases List.mem_append.mp hw with hw | hw
      · exact absurd hs (hnone w hw)
      · cases List.mem_singleton.mp hw
        cases hs
        exact ⟨rfl, hsel⟩
    · rintro ⟨rfl, -⟩
      exact ⟨_, List.mem_append_right _ (List.mem_singleton_self _), rfl⟩

/-! ## Declared selectors -/

theorem split_singleton {s : String} {sep : Char} {part : String} (h : Go.split s sep = [part]) : part = s := by
  rw [← Go.intercalate_split (s := s) (String.toList_singleton sep), h, String.intercalate_singleton]

theorem ne_empty_of_split {s : String} {sep : Char} {a b : String} (h : Go.split s sep = [a, b]) : s ≠ "" := by
  rintro rfl
  cases h

theorem lookup_insert_empty {k v key value : String} :
    (Finmap.insert k v (∅ : GoMap String String)).lookup key = some value ↔ key = k ∧ value = v := by
  rw [GoMap.lookup_insert_eq]
  split
  · rename_i h
    simp [h, eq_comm]
  · rename_i h
    simp [h]

/-- A selector of one label is declared if and only if it has a key and a value. -/
theorem oneLabel_iff {label k v : String} (ha : k ≠ "" → v ≠ "" → label ≠ "") :
    (Finmap.insert k v (∅ : GoMap String String) ≠ ∅ → label ≠ "" ∧
      ∀ key value, (Finmap.insert k v (∅ : GoMap String String)).lookup key = some value → key ≠ "" ∧ value ≠ "") ↔
      k ≠ "" ∧ v ≠ "" := by
  have hk : (Finmap.insert k v (∅ : GoMap String String)).lookup k = some v := lookup_insert_empty.mpr ⟨rfl, rfl⟩
  have hne : Finmap.insert k v (∅ : GoMap String String) ≠ ∅ := fun h => by
    rw [h] at hk
    cases hk
  constructor
  · exact fun h => (h hne).2 k v hk
  · rintro ⟨h₁, h₂⟩ -
    refine ⟨ha h₁ h₂, fun key value hl => ?_⟩
    obtain ⟨rfl, rfl⟩ := lookup_insert_empty.mp hl
    exact ⟨h₁, h₂⟩

/-- The selector of an annotation is declared if and only if the parts are those
of a label, or of none. -/
theorem partsSelector_iff {label : String} :
    (partsSelector label (Go.split label ':') ≠ ∅ → label ≠ "" ∧
      ∀ key value, (partsSelector label (Go.split label ':')).lookup key = some value →
        key ≠ "" ∧ value ≠ "") ↔ LabelParts (Go.split label ':') := by
  rcases hs : Go.split label ':' with _ | ⟨a, _ | ⟨b, _ | ⟨c, parts⟩⟩⟩
  · simp [partsSelector, LabelParts]
  · rw [split_singleton hs]
    exact (oneLabel_iff fun _ hv => hv).trans (and_iff_right (by decide))
  · exact oneLabel_iff fun _ _ => ne_empty_of_split hs
  · simp [partsSelector, LabelParts]

/-- The inbound EnvoyFilters of a service have declared selectors if and only if
the ServiceEntry has labels, or the parts of the annotation are those of a
label with a key and a value, or of none. -/
theorem declared_iff {service : Config ServiceEntry} {port : ServicePort} {outbound : Option Proxy}
    {inbound : Proxy} {filterName filterType : String} {operation : PatchOperation} {filters : List EnvoyFilterWrapper}
    (h : generateNetworkFilter service port outbound (some inbound) filterName filterType operation = .ok filters) :
    Declared service filters ↔ specLabels service ≠ ∅ ∨ LabelParts (Go.split (selectorLabel service) ':') := by
  by_cases hspec : specLabels service = ∅
  · have hsel := inboundEnvoyFilterWorkloadSelector_eq service
    rw [if_pos hspec] at hsel
    rw [← partsSelector_iff, ← hsel, or_iff_right (not_not.mpr hspec)]
    constructor
    · intro hd hne
      obtain ⟨w, hw, hs⟩ := (exists_selector_iff h).mpr ⟨rfl, hne⟩
      obtain ⟨hann, hlabels⟩ := hd w hw _ hs
      exact ⟨hann.resolve_left (not_not.mpr hspec), hlabels hspec⟩
    · intro hd w hw labels hs
      obtain ⟨rfl, hne⟩ := (exists_selector_iff h).mp ⟨w, hw, hs⟩
      exact ⟨.inr (hd hne).1, fun _ => (hd hne).2⟩
  · refine iff_of_true (fun w _ labels _ => ⟨.inl hspec, fun he => absurd he hspec⟩) (.inl hspec)

/-- A service with the annotation, or with none. -/
def annotatedService (label : Option String) : Config ServiceEntry where
  name := "demo"
  namespace_ := "ns"
  annotations := label.elim ∅ fun a => Finmap.singleton "workloadSelector" a
  spec := { hosts := ["demo.ns"], ports := [⟨20880, "tcp-dubbo"⟩] }

/-- The EnvoyFilters of an inbound proxy. -/
def inboundFilters (label : Option String) : Go.Comp (List EnvoyFilterWrapper) :=
  generateNetworkFilter (annotatedService label) ⟨20880, "tcp-dubbo"⟩ none (some .empty) "" "" .REPLACE

theorem annotated_declared : ∃ filters, inboundFilters (some "version: v1") = .ok filters ∧
    Declared (annotatedService (some "version: v1")) filters := by
  obtain ⟨filters, h⟩ : ∃ filters, inboundFilters (some "version: v1") = .ok filters := ⟨_, rfl⟩
  refine ⟨filters, h, (declared_iff h).mpr (.inr ?_)⟩
  have hs : Go.split (selectorLabel (annotatedService (some "version: v1"))) ':' = ["version", "v1"] := by
    decide +kernel
  rw [hs]
  exact ⟨by decide, by decide⟩

/-- A service without the annotation has an inbound EnvoyFilter, for the
workloads with an empty label `app`. -/
theorem unannotated_undeclared : ∃ filters, inboundFilters none = .ok filters ∧
    ¬ Declared (annotatedService none) filters := by
  obtain ⟨filters, h⟩ : ∃ filters, inboundFilters none = .ok filters := ⟨_, rfl⟩
  refine ⟨filters, h, fun hd => ?_⟩
  have hsel : inboundEnvoyFilterWorkloadSelector (annotatedService none) ≠ ∅ := by decide +kernel
  obtain ⟨w, hw, hs⟩ := (exists_selector_iff h).mpr ⟨rfl, hsel⟩
  have hann : selectorLabel (annotatedService none) = "" := by decide +kernel
  exact (hd w hw _ hs).1.elim (fun h => h rfl) fun h => h hann

end Aeraki.Proof.EnvoyFilter
