import Counterpart.Proofs.Report.Assembly

/-!
# Differences of bare types

A bare type is public and declares no contracts and no members; a type known by its name alone is
bare.  Two bare types can only differ in their base types.
-/

namespace Counterpart

/-- A public type without contracts and members. -/
structure TypeDecl.Bare (decl : TypeDecl) : Prop where
  modifiers : decl.modifiers = ["public"]
  contracts : decl.contracts = []
  members : decl.members = []

theorem TypeDecl.bare_named
    (side : Side) (kind : TypeDecl.Kind) (fullName : String) :
    (named side kind fullName).Bare :=
  ⟨rfl, rfl, rfl⟩

theorem TypeDecl.Bare.group_eq_nil
    {decl : TypeDecl} (h : decl.Bare) (kind : Member.Kind) :
    decl.group kind = [] := by
  have hmembers := h.members
  simp only [members_eq, List.append_eq_nil_iff] at hmembers
  cases kind <;> simp [group, hmembers]

namespace Scope

variable (scope : Scope) {reference target : TypeDecl}
  (hreference : reference.Bare) (htarget : target.Bare)
include hreference htarget

theorem memberDifference_of_bare :
    scope.memberDifference reference target = {} := by
  have hpairing : scope.pairMembers reference target = fun _ => ⟨[], [], []⟩ := by
    funext kind
    rw [pairMembers, hreference.group_eq_nil, htarget.group_eq_nil]
    rfl
  simp [memberDifference, hpairing, MemberEntry.sort, ValueTypeMismatch.sort, Member.Kind.all]

/-- Two bare types differ in their base types or not at all. -/
theorem difference_of_bare :
    scope.difference reference target =
      .ok { baseType := scope.baseTypeDifference? reference target } := by
  have hmodifiers : modifierDifference? reference target = .ok none := by
    have hsame : Modifier.agreeOnTypes ["public"] ["public"] = .ok true := by
      rfl
    simp [modifierDifference?, hreference.modifiers, htarget.modifiers, hsame]
  have hcontracts : scope.contractDifference? [] [] = none :=
    rfl
  simp [difference, hmodifiers, hreference.contracts, htarget.contracts, hcontracts,
    scope.memberDifference_of_bare hreference htarget, Except.map]

theorem pairEntry_of_bare
    (reason : Reason) :
    scope.pairEntry ⟨reference, target, reason⟩ =
      .ok
        { reference := reference.entry .reference
          target := target.entry .target
          reason
          difference := { baseType := scope.baseTypeDifference? reference target } } := by
  rw [pairEntry, scope.difference_of_bare hreference htarget]
  rfl

end Scope

/-- A comparison of bare types does not fail. -/
theorem exists_report_of_bare
    (name : String) {reference target : Surface} {settings : Settings}
    (bare : ∀ pairing ∈ (Scope.between reference target settings).matching.matched,
      pairing.reference.Bare ∧ pairing.target.Bare) :
    ∃ report, LibraryReport.ofSurfaces name reference target settings = .ok report :=
  ⟨_, LibraryReport.ofSurfaces_eq_ok fun pairing hpairing =>
    Scope.pairEntry_of_bare _ (bare pairing hpairing).1 (bare pairing hpairing).2 pairing.reason⟩

/-- A comparison of bare types counts the pairs with different base types. -/
theorem matchedWithDifferences_of_bare
    {name : String} {reference target : Surface} {settings : Settings}
    (bare : ∀ pairing ∈ (Scope.between reference target settings).matching.matched,
      pairing.reference.Bare ∧ pairing.target.Bare) :
    (LibraryReport.ofSurfaces name reference target settings).map
        (fun report => report.summary.matchedWithDifferences) =
      .ok ((Scope.between reference target settings).matching.matched.countP fun pairing =>
        ((Scope.between reference target settings).baseTypeDifference?
          pairing.reference pairing.target).isSome) := by
  rw [LibraryReport.ofSurfaces_eq_ok fun pairing hpairing =>
    Scope.pairEntry_of_bare _ (bare pairing hpairing).1 (bare pairing hpairing).2 pairing.reason]
  simp only [Except.map, LibraryReport.matchedWithDifferences_assembled, List.countP_map]
  congr 2
  funext pairing
  simp [TypeDifference.isClean, MemberDifference.isEmpty]

end Counterpart
