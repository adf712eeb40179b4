import Counterpart.Proofs.Correspondence.Port
import Counterpart.Proofs.Difference.Bare
import Counterpart.Proofs.Matching.Conservation
import Counterpart.Proofs.Matching.Owned

/-!
# A conventional port has nothing to reconcile

A target surface made by the naming rules is found to be the counterpart of its reference surface.
If no type is nested or generic and no two names agree up to case, every type only meets its own
port, so all types are paired, and bare types that are paired do not differ.

* `matching_of_ported`: every type is matched with its port.
* `report_on_conventional_port`: the report is clean.
-/

namespace Counterpart

/-- The target types of a scope are the ports of its reference types, in some order. -/
structure Scope.Ported (scope : Scope) : Prop where
  overrides : scope.settings.overrides = []
  prefixes :
    ∀ mapping ∈ scope.settings.mappings,
      Side.target.separator ∉ mapping.targetPrefix.toList
  conventional : ∀ decl ∈ scope.reference, decl.Conventional
  target : scope.target.Perm (scope.reference.map scope.settings.port)
  distinct :
    (scope.reference.map scope.settings.port).Pairwise fun first second =>
      Text.sameIgnoringCase first.fullName second.fullName = false

/-- The pair of a reference type and its port. -/
def Settings.portPairing (settings : Settings) (decl : TypeDecl) : Pairing :=
  ⟨decl, settings.port decl, .heuristic decl.plainRule⟩

namespace Scope.Ported

variable {scope : Scope} (h : scope.Ported)
include h

/-- In the order in which they are visited, types do not meet the ports of later ones. -/
theorem refused :
    (Pool.ofTypes.sortByName scope.reference).Pairwise fun decl other =>
      scope.namedReason decl (scope.settings.port other) = none := by
  have hperm := Pool.sortByName_perm scope.reference
  have hsorted :=
    (hperm.map scope.settings.port).symm.pairwise h.distinct fun {first second} same =>
      (Naming.sameIgnoringCase_comm second.fullName first.fullName).trans same
  refine (List.pairwise_map.mp hsorted).imp_of_mem ?_
  intro decl other hdecl hother hdistinct
  exact namedReason_port_eq_none h.prefixes (h.conventional decl (hperm.mem_iff.mp hdecl))
    (h.conventional other (hperm.mem_iff.mp hother)) hdistinct

theorem free_perm :
    (Pool.ofTypes.sortByName scope.target).Perm
      ((Pool.ofTypes.sortByName scope.reference).map scope.settings.port) :=
  (Pool.sortByName_perm scope.target).trans
    (h.target.trans ((Pool.sortByName_perm scope.reference).map _).symm)

theorem overridden_eq :
    scope.overridden = (Pool.ofTypes scope.reference scope.target, []) := by
  rw [overridden, h.overrides]
  rfl

/-- No port declares an equivalent, so the first step leaves all types to the second. -/
theorem advance_declaredReason_eq :
    (Pool.ofTypes scope.reference scope.target).advance declaredReason =
      Pool.ofTypes scope.reference scope.target := by
  have hrefused :
      ∀ entry ∈ (Pool.ofTypes scope.reference scope.target).pending,
        ∀ target ∈ (Pool.ofTypes scope.reference scope.target).free,
          declaredReason entry.decl target = none := by
    intro entry _ target htarget
    obtain ⟨decl, _, rfl⟩ := List.mem_map.mp (h.free_perm.mem_iff.mp htarget)
    simp [declaredReason, declares, Settings.declaredEquivalent_port]
  rw [Pool.advance, Pool.settle_of_refused hrefused]
  rfl

theorem settled_eq :
    scope.settled =
      ⟨[], [], (Pool.ofTypes.sortByName scope.reference).map scope.settings.portPairing⟩ := by
  have haccepted :
      ∀ decl ∈ Pool.ofTypes.sortByName scope.reference,
        scope.namedReason decl (scope.settings.port decl) = some (.heuristic decl.plainRule) :=
    fun decl hdecl =>
      namedReason_port_self h.prefixes
        (h.conventional decl ((Pool.sortByName_perm scope.reference).mem_iff.mp hdecl))
  rw [settled, h.overridden_eq, h.advance_declaredReason_eq, Pool.advance, Pool.ofTypes,
    Pool.settle_of_owned h.free_perm haccepted h.refused]
  rfl

theorem matching_of_ported :
    scope.matching =
      { matched := (Pool.ofTypes.sortByName scope.reference).map scope.settings.portPairing
        unmatchedReference := []
        unmatchedTarget := []
        warnings := [] } := by
  rw [matching, h.settled_eq, h.overridden_eq]
  rfl

theorem pairEntry_of_ported
    {pairing : Pairing} (hpairing : pairing ∈ scope.matching.matched) :
    scope.pairEntry pairing =
      .ok
        { reference := pairing.reference.entry .reference
          target := pairing.target.entry .target
          reason := pairing.reason
          difference := {} } := by
  rw [h.matching_of_ported] at hpairing
  obtain ⟨decl, hdecl, rfl⟩ := List.mem_map.mp hpairing
  have hconventional := h.conventional decl ((Pool.sortByName_perm _).mem_iff.mp hdecl)
  have hreference : decl.Bare := by
    rw [hconventional.named]
    exact TypeDecl.bare_named ..
  have htarget : (scope.settings.port decl).Bare :=
    TypeDecl.bare_named ..
  have hbase : scope.baseTypeDifference? decl (scope.settings.port decl) = none := by
    have hnone : decl.baseType = none := by
      rw [hconventional.named]
      rfl
    simp [baseTypeDifference?, hnone, Settings.port, TypeDecl.named, baseTypesAgree]
  rw [Settings.portPairing, scope.pairEntry_of_bare hreference htarget, hbase]

end Scope.Ported

section Sample

/-- One type of every kind that has a port, and a class without a package. -/
def portSampleReference : Surface :=
  { library := "reference"
    types :=
      [.named .reference .classType "com.acme.WidgetImpl",
        .named .reference .interfaceType "com.acme.Widget",
        .named .reference .enumType "com.acme.ui.Color",
        .named .reference .classType "Main"] }

def portSampleTarget : Surface :=
  { library := "target"
    types :=
      [.named .target .classType "Main",
        .named .target .enumType "Acme.Ui.Color",
        .named .target .interfaceType "Acme.IWidget",
        .named .target .classType "Acme.Widget"] }

def portSampleSettings : Settings :=
  { mappings := [⟨"com.acme", "Acme", none⟩] }

theorem ported_portSample :
    Scope.Ported ⟨portSampleSettings, portSampleReference.types, portSampleTarget.types⟩ where
  overrides := rfl
  prefixes := by
    decide +kernel
  conventional := by
    have hunnested (l : List Char) (h : '$' ∉ l ∧ '+' ∉ l) (side : Side) :
        side.separator ∉ l := by
      cases side
      · exact h.1
      · exact h.2
    rintro decl (_ | ⟨_, _ | ⟨_, _ | ⟨_, _ | ⟨_, ⟨⟩⟩⟩⟩⟩) <;>
      exact ⟨by decide, rfl, by decide +kernel, hunnested _ (by decide +kernel),
        by decide +kernel⟩
  target := by
    decide +kernel
  distinct := by
    decide +kernel

end Sample

/-- A conventional port sets no type aside. -/
theorem Scope.between_eq_of_ported
    {reference target : Surface} {settings : Settings}
    (h : Scope.Ported ⟨settings, reference.types, target.types⟩) :
    Scope.between reference target settings = ⟨settings, reference.types, target.types⟩ := by
  have hreference : reference.types.filter TypeDecl.isPublic = reference.types := by
    rw [List.filter_eq_self]
    intro decl hdecl
    rw [(h.conventional decl hdecl).named]
    exact TypeDecl.isPublic_named ..
  have htarget :
      (target.types.filter fun decl => !decl.withoutReference) = target.types := by
    rw [List.filter_eq_self]
    intro decl hdecl
    obtain ⟨other, _, rfl⟩ := List.mem_map.mp (h.target.mem_iff.mp hdecl)
    rfl
  rw [between, Selection.scope, Selection.ofSurfaces, hreference, htarget]

/-- If the types of a target surface are the ports of reference types that are neither nested nor
generic, without overrides, without nesting separators in the prefixes of mappings, and no two
names agree up to case, then all ports are matched with their own types and there is nothing to
reconcile. -/
theorem report_on_conventional_port
    (name : String) {reference target : Surface} {settings : Settings}
    (h : Scope.Ported ⟨settings, reference.types, target.types⟩) :
    (∀ decl ∈ reference.types, ∀ rule : Rule, rule.flattens = false →
      (Scope.between reference target settings).expectedName? decl rule =
        if rule = decl.plainRule then some (settings.port decl).fullName else none) ∧
      (∀ decl ∈ reference.types,
        decl.plainRule = .exactName ∨ decl.plainRule = .implementationSuffix) ∧
      ∃ report,
        LibraryReport.ofSurfaces name reference target settings = .ok report ∧
          report.matched.Perm
            (reference.types.map fun decl =>
              { reference := decl.entry .reference
                target := (settings.port decl).entry .target
                reason := .heuristic decl.plainRule
                difference := {} }) ∧
          report.unmatchedReference = [] ∧
          report.unmatchedTarget = [] ∧
          report.warnings = [] ∧
          report.summary.diverges = false := by
  have hported : (Scope.between reference target settings).Ported := by
    rw [Scope.between_eq_of_ported h]
    exact h
  have hreference : (Scope.between reference target settings).reference = reference.types := by
    rw [Scope.between_eq_of_ported h]
  refine ⟨fun decl _ rule hrule => Scope.expectedName?_of_not_flattens _ decl hrule, ?_, _,
    LibraryReport.ofSurfaces_eq_ok fun pairing hpairing => hported.pairEntry_of_ported hpairing,
    ?_, ?_⟩
  · intro decl _
    unfold TypeDecl.plainRule
    split
    · exact Or.inr rfl
    · exact Or.inl rfl
  · refine (List.mergeSort_perm _ _).trans ?_
    rw [hported.matching_of_ported, hreference, List.map_map]
    exact (Pool.sortByName_perm reference.types).map _
  · rw [LibraryReport.diverges_assembled_eq_false_iff, hported.matching_of_ported]
    simp [LibraryReport.assembled, TypeDifference.isClean, MemberDifference.isEmpty]

theorem report_on_conventional_port_acme :
    ∃ report,
      LibraryReport.ofSurfaces "acme" portSampleReference portSampleTarget portSampleSettings =
          .ok report ∧
        (report.matched.map fun pair =>
            (pair.reference.fullName, pair.target.fullName, pair.reason)).Perm
          [("com.acme.WidgetImpl", "Acme.Widget", .heuristic .implementationSuffix),
            ("com.acme.Widget", "Acme.IWidget", .heuristic .exactName),
            ("com.acme.ui.Color", "Acme.Ui.Color", .heuristic .exactName),
            ("Main", "Main", .heuristic .exactName)] ∧
        report.summary.diverges = false := by
  obtain ⟨_, _, report, hreport, hmatched, _, _, _, hclean⟩ :=
    report_on_conventional_port "acme" ported_portSample
  refine ⟨report, hreport, ?_, hclean⟩
  refine (hmatched.map _).trans (List.Perm.of_eq ?_)
  decide +kernel

end Counterpart
