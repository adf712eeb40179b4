import Counterpart.Correspondence.Namespace
import Counterpart.Proofs.Text.Cuts
import Mathlib.Data.List.Nodup

/-!
# The mapping that decides on a package

A mapping applies to a package if its start covers the package: it is the package, or the package
goes on behind it with a dot.  Of the mappings that apply, the first of the longest decides on the
namespace.  Two mappings of the same length that both apply have the same start, so with distinct
starts the order of the mappings does not matter.

* `remainder?_eq_some_iff`, `appliesTo_iff`: which packages a mapping covers.
* `exists_split_of_longest?_eq_some`: where the deciding mapping stands.
* `targetNamespace_eq_of_perm`: mappings with distinct starts may be listed in any order.
-/

namespace Counterpart
namespace PackageMapping

/-- A mapping covers a package if its start is not empty and ends on a segment boundary of the
package; this is what is left behind the start. -/
structure Covers (mapping : PackageMapping) (package rest : String) : Prop where
  nonempty : mapping.referencePrefix ≠ ""
  split : package = mapping.referencePrefix ++ rest
  boundary : rest = "" ∨ ∃ below, rest = "." ++ below

theorem remainder?_eq_some_iff
    {mapping : PackageMapping} {package rest : String} :
    mapping.remainder? package = some rest ↔ mapping.Covers package rest := by
  have hboundary :
      (rest == "" || rest.toList.head? == some '.') = true ↔
        rest = "" ∨ ∃ below, rest = "." ++ below := by
    rw [Bool.or_eq_true, beq_iff_eq, beq_iff_eq, Text.head?_eq_some_iff]
    rfl
  unfold remainder?
  by_cases hempty : mapping.referencePrefix = ""
  · rw [if_pos hempty]
    exact ⟨fun h => absurd h (by simp), fun h => absurd hempty h.nonempty⟩
  · rw [if_neg hempty, Option.filter_eq_some_iff, Text.afterStart?_eq_some_iff, hboundary]
    exact ⟨fun ⟨hsplit, hends⟩ => ⟨hempty, hsplit, hends⟩, fun h => ⟨h.split, h.boundary⟩⟩

theorem appliesTo_iff
    {mapping : PackageMapping} {package : String} :
    mapping.appliesTo package = true ↔ ∃ rest, mapping.Covers package rest := by
  simp only [appliesTo, Option.isSome_iff_exists, remainder?_eq_some_iff]

theorem longest?_eq_none_iff
    {mappings : List PackageMapping} :
    longest? mappings = none ↔ mappings = [] := by
  cases mappings with
  | nil =>
      simp [longest?]
  | cons mapping rest =>
      cases hrest : longest? rest with
      | none =>
          simp [longest?, hrest]
      | some best =>
          simp only [longest?, hrest, reduceCtorEq, iff_false]
          split <;> simp

/-- The mapping chosen is longer than those listed before it, and as long as those after it. -/
theorem exists_split_of_longest?_eq_some
    {mappings : List PackageMapping} {chosen : PackageMapping}
    (h : longest? mappings = some chosen) :
    ∃ before after,
      mappings = before ++ chosen :: after ∧
        (∀ other ∈ before, other.referencePrefix.length < chosen.referencePrefix.length) ∧
        ∀ other ∈ after, other.referencePrefix.length ≤ chosen.referencePrefix.length := by
  induction mappings generalizing chosen with
  | nil =>
      simp [longest?] at h
  | cons mapping rest ih =>
      cases hrest : longest? rest with
      | none =>
          obtain rfl := longest?_eq_none_iff.mp hrest
          obtain rfl : mapping = chosen := by
            simpa [longest?] using h
          exact ⟨[], [], rfl, by simp, by simp⟩
      | some best =>
          obtain ⟨before, after, rfl, hbefore, hafter⟩ := ih hrest
          simp only [longest?, hrest] at h
          split at h
          · rename_i hshorter
            obtain rfl := Option.some.inj h
            refine ⟨mapping :: before, after, rfl, ?_, hafter⟩
            intro other hother
            rcases List.mem_cons.mp hother with rfl | hother
            · exact hshorter
            · exact hbefore other hother
          · rename_i hlonger
            obtain rfl := Option.some.inj h
            refine ⟨[], before ++ best :: after, rfl, by simp, ?_⟩
            intro other hother
            rcases List.mem_append.mp hother with hother | hother
            · have := hbefore other hother
              omega
            · rcases List.mem_cons.mp hother with rfl | hother
              · omega
              · have := hafter other hother
                omega

theorem mem_of_longest?_eq_some
    {mappings : List PackageMapping} {chosen : PackageMapping}
    (h : longest? mappings = some chosen) :
    chosen ∈ mappings := by
  obtain ⟨before, after, rfl, _⟩ := exists_split_of_longest?_eq_some h
  simp

theorem length_le_of_longest?_eq_some
    {mappings : List PackageMapping} {chosen other : PackageMapping}
    (h : longest? mappings = some chosen)
    (hother : other ∈ mappings) :
    other.referencePrefix.length ≤ chosen.referencePrefix.length := by
  obtain ⟨before, after, rfl, hbefore, hafter⟩ := exists_split_of_longest?_eq_some h
  rcases List.mem_append.mp hother with hother | hother
  · exact Nat.le_of_lt (hbefore other hother)
  · rcases List.mem_cons.mp hother with rfl | hother
    · exact Nat.le_refl _
    · exact hafter other hother

/-- A mapping that applies to a package has a start of the package as its own. -/
theorem prefix_of_appliesTo
    {mapping : PackageMapping} {package : String}
    (h : mapping.appliesTo package = true) :
    mapping.referencePrefix.toList <+: package.toList := by
  obtain ⟨rest, hcovers⟩ := appliesTo_iff.mp h
  rw [hcovers.split, String.toList_append]
  exact List.prefix_append _ _

/-- Of the mappings that apply to a package, those of one length have the same start. -/
theorem referencePrefix_eq_of_length_eq
    {first second : PackageMapping} {package : String}
    (hfirst : first.appliesTo package = true) (hsecond : second.appliesTo package = true)
    (same : first.referencePrefix.length = second.referencePrefix.length) :
    first.referencePrefix = second.referencePrefix := by
  have hlength : first.referencePrefix.toList.length = second.referencePrefix.toList.length := by
    rw [String.length_toList, String.length_toList, same]
  have hstart := List.prefix_of_prefix_length_le (prefix_of_appliesTo hfirst)
    (prefix_of_appliesTo hsecond) (Nat.le_of_eq hlength)
  exact String.toList_injective (hstart.eq_of_length hlength)

/-- The deciding mapping is the same in any order of mappings with distinct starts. -/
theorem longest?_eq_of_perm
    {mappings mappings' : List PackageMapping}
    (distinct : (mappings.map referencePrefix).Nodup)
    (h : mappings'.Perm mappings)
    (package : String) :
    longest? (mappings'.filter (·.appliesTo package)) =
      longest? (mappings.filter (·.appliesTo package)) := by
  have hfilter := h.filter (·.appliesTo package)
  cases hchosen : longest? (mappings.filter (·.appliesTo package)) with
  | none =>
      rw [longest?_eq_none_iff] at hchosen ⊢
      rw [hchosen] at hfilter
      exact hfilter.eq_nil
  | some chosen =>
      cases hchosen' : longest? (mappings'.filter (·.appliesTo package)) with
      | none =>
          rw [longest?_eq_none_iff] at hchosen'
          rw [hchosen'] at hfilter
          rw [hfilter.symm.eq_nil] at hchosen
          simp [longest?] at hchosen
      | some chosen' =>
          have hmem := mem_of_longest?_eq_some hchosen
          have hmem' := hfilter.mem_iff.mp (mem_of_longest?_eq_some hchosen')
          have hle := length_le_of_longest?_eq_some hchosen hmem'
          have hle' := length_le_of_longest?_eq_some hchosen' (hfilter.mem_iff.mpr hmem)
          rw [List.mem_filter] at hmem hmem'
          have same := referencePrefix_eq_of_length_eq hmem'.2 hmem.2 (by omega)
          rw [List.inj_on_of_nodup_map distinct hmem'.1 hmem.1 same]

end PackageMapping

/-- Mappings with distinct starts lead to the same namespaces in any order. -/
theorem targetNamespace_eq_of_perm
    {mappings mappings' : List PackageMapping}
    (distinct : (mappings.map PackageMapping.referencePrefix).Nodup)
    (h : mappings'.Perm mappings)
    (package : String) :
    targetNamespace package mappings' = targetNamespace package mappings := by
  unfold targetNamespace
  rw [PackageMapping.longest?_eq_of_perm distinct h]

end Counterpart
