import Aeraki.Impl.EnvoyFilter.Controller
import Aeraki.Proof.Webhook.Admission

/-!
# Exported EnvoyFilters

Admission looks for duplicates in `exportTo` with `.` replaced by the MetaRouter's
namespace, and accepts `*` only alone (`exportTo_accepted`). The controller replaces
`*` by the root namespace as well, so the namespaces that it exports to are
pairwise different, and no EnvoyFilter overwrites another (`exported_all`).
-/

namespace Aeraki.Proof.EnvoyFilter

open Aeraki.Impl Aeraki.Impl.Controller Aeraki.Impl.Webhook
open Aeraki.Proof.Webhook (exportKey exportTo_accepted lenient)

/-- The namespace that an entry of `exportTo` exports to. -/
def exportedNS (root ns e : String) : String := if e = "." then ns else if e = "*" then root else e

/-- The namespaces of accepted entries are different. -/
theorem nodup_exportedNS {lib : Libraries} {ns : String} {exportTo : List String}
    (h : validateExportTo lib ns exportTo = []) (root : String) : (exportTo.map (exportedNS root ns)).Nodup := by
  obtain ⟨hnodup, hpublic⟩ := exportTo_accepted h
  by_cases hmem : "*" ∈ exportTo
  · -- a list with one entry has no duplicates, whatever the root namespace is
    have hlength := hpublic hmem
    exact List.nodup_iff_count_le_one.mpr fun a => List.count_le_length.trans (by rwa [List.length_map])
  · have hsame : exportTo.map (exportedNS root ns) = exportTo.map (exportKey ns) :=
      List.map_congr_left fun e he => by
        have hne : e ≠ "*" := fun h => hmem (h ▸ he)
        rw [exportedNS, exportKey, if_neg hne]
    rwa [hsame]

variable {c : Controller} {ctx : EnvoyFilterContext} {metaRouter : MetaRouter}

theorem exportNSs_eq (hctx : ctx.metaRouter = some metaRouter) (hne : metaRouter.exportTo ≠ []) :
    c.exportNSs ctx = metaRouter.exportTo.map (exportedNS c.namespace_ metaRouter.namespace_) := by
  unfold exportNSs
  rw [hctx]
  exact if_neg (by rwa [List.isEmpty_iff])

theorem envoyFilterMapKey_injective (name : String) : Function.Injective (envoyFilterMapKey name) := fun ns ns' h => by
  rwa [envoyFilterMapKey, envoyFilterMapKey, String.append_left_inj, String.append_left_inj] at h

/-- The key of the EnvoyFilter that an entry of `exportTo` stands for. -/
def exportedKey (c : Controller) (metaRouter : MetaRouter) (wrapper : EnvoyFilterWrapper) (e : String) : String :=
  envoyFilterMapKey wrapper.name (exportedNS c.namespace_ metaRouter.namespace_ e)

/-- An accepted `exportTo` puts the EnvoyFilter into the map once for each
of its entries, in the entry's namespace, and changes nothing else. -/
theorem exported_all {lib : Libraries} (hctx : ctx.metaRouter = some metaRouter) (hne : metaRouter.exportTo ≠ [])
    (haccepted : validateExportTo lib metaRouter.namespace_ metaRouter.exportTo = [])
    (envoyFilters : GoMap String EnvoyFilterWrapper) (wrapper : EnvoyFilterWrapper) :
    (metaRouter.exportTo.map (exportedKey c metaRouter wrapper)).Nodup ∧
    (∀ e ∈ metaRouter.exportTo,
      (c.createEnvoyFiltersOnExportNSs ctx envoyFilters wrapper).lookup (exportedKey c metaRouter wrapper e) =
        some { name := wrapper.name
               namespace_ := exportedNS c.namespace_ metaRouter.namespace_ e
               envoyfilter := wrapper.envoyfilter }) ∧
    ∀ k ∉ metaRouter.exportTo.map (exportedKey c metaRouter wrapper),
      (c.createEnvoyFiltersOnExportNSs ctx envoyFilters wrapper).lookup k = envoyFilters.lookup k := by
  have hkeys : (metaRouter.exportTo.map (exportedKey c metaRouter wrapper)).Nodup := by
    have hnodup := (nodup_exportedNS haccepted c.namespace_).map (envoyFilterMapKey_injective wrapper.name)
    rwa [List.map_map] at hnodup
  have hwrites : ((c.exportNSs ctx).map fun ns => entry { wrapper with namespace_ := ns }).map Prod.fst =
      metaRouter.exportTo.map (exportedKey c metaRouter wrapper) := by
    rw [exportNSs_eq hctx hne, List.map_map, List.map_map]
    rfl
  refine ⟨hkeys, fun e he => ?_, fun k hk => ?_⟩
  · rw [createEnvoyFiltersOnExportNSs, GoMap.lookup_writeAll, GoMap.lastWrite_of_nodup (hwrites ▸ hkeys), Option.some_or]
    refine List.mem_map.mpr ⟨_, ?_, rfl⟩
    rw [exportNSs_eq hctx hne]
    exact List.mem_map.mpr ⟨e, he, rfl⟩
  · rw [createEnvoyFiltersOnExportNSs, GoMap.lookup_writeAll, GoMap.lastWrite_eq_none_iff.mpr (hwrites ▸ hk), Option.none_or]

/-- A service with a MetaRouter in `ns` that is exported to `ns` and `other`. -/
def exportedRouter : MetaRouter where
  name := "router"
  namespace_ := "ns"
  hosts := ["svc.ns"]
  exportTo := [".", "other"]

def exportedContext : EnvoyFilterContext where
  meshConfig := {}
  serviceEntry := { name := "svc", namespace_ := "ns", spec := { hosts := ["svc.ns"] } }
  metaRouter := some exportedRouter

/-- An EnvoyFilter in a namespace. -/
def filterIn (ns : String) : EnvoyFilterWrapper where
  name := "f"
  namespace_ := ns
  envoyfilter := { configPatches := [] }

theorem exported_own_and_other :
    let exported := Controller.createEnvoyFiltersOnExportNSs { store := {}, generators := fun _ => none } exportedContext ∅
      (filterIn "")
    exported.lookup "ns-f" = some (filterIn "ns") ∧ exported.lookup "other-f" = some (filterIn "other") := by
  have haccepted : validateExportTo lenient "ns" [".", "other"] = [] := by decide
  have hctx : exportedContext.metaRouter = some exportedRouter := rfl
  obtain ⟨-, hall, -⟩ := exported_all hctx (List.cons_ne_nil _ _) haccepted ∅ (filterIn "")
  exact ⟨hall "." (by decide), hall "other" (by decide)⟩

end Aeraki.Proof.EnvoyFilter
