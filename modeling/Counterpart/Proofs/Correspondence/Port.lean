import Counterpart.Matching.Types
import Counterpart.Proofs.Naming.Namespace
import Counterpart.Proofs.Naming.Qualified

/-!
# Conventional ports

To every reference type applies one naming rule without flattening, and the name that it expects
is that of the port of the type.  The port of a type that is neither nested nor generic is read as
it was made: it has the namespace and the name expected of it.  So it meets its own type under that
rule, and no type whose port has another name.

* `expectedName?_of_not_flattens`: the rule that applies, and the name that it expects.
* `follows_port_iff`: which ports meet a type.
-/

namespace Counterpart

namespace TypeDecl

/-- The counterpart of a reference type loses the implementation suffix. -/
def losesSuffix (decl : TypeDecl) : Bool :=
  Naming.dropImplementationSuffix decl.referencePath.innermost decl.kind !=
    decl.referencePath.innermost

/-- The innermost name expected of the counterpart of a reference type. -/
def expectedInnermost (decl : TypeDecl) : String :=
  if decl.kind = .interfaceType then
    String.singleton Naming.interfaceLetter ++ decl.referencePath.innermost
  else Naming.dropImplementationSuffix decl.referencePath.innermost decl.kind

/-- The rule without flattening that applies to a reference type. -/
def plainRule (decl : TypeDecl) : Rule :=
  if decl.losesSuffix then .implementationSuffix else .exactName

theorem dropsSuffix_eq_losesSuffix_iff
    {decl : TypeDecl} {rule : Rule} (h : rule.flattens = false) :
    rule.dropsSuffix = decl.losesSuffix ↔ rule = decl.plainRule := by
  cases rule <;> cases hloses : decl.losesSuffix <;>
    simp_all [Rule.flattens, Rule.dropsSuffix, plainRule]

theorem flattens_plainRule
    (decl : TypeDecl) :
    decl.plainRule.flattens = false := by
  unfold plainRule
  split <;> rfl

theorem isSimple_expectedInnermost
    {decl : TypeDecl} (h : Naming.IsSimple decl.referencePath.innermost) :
    Naming.IsSimple decl.expectedInnermost := by
  unfold expectedInnermost
  split
  · exact h.marked
  · exact h.dropImplementationSuffix decl.kind

/-- All kinds of reference types may be met by types of their own kind. -/
theorem Kind.compatible_self
    {kind : TypeDecl.Kind} (h : kind ≠ .structType) :
    compatible kind kind = true := by
  cases kind with
  | structType =>
      contradiction
  | classType | interfaceType | enumType =>
      rfl

/-- A reference type known by its name alone that is neither nested nor generic. -/
structure Conventional (decl : TypeDecl) : Prop where
  kind : decl.kind ≠ .structType
  named : decl = named .reference decl.kind decl.fullName
  topLevel : Naming.IsTopLevel decl.fullName

end TypeDecl

theorem expectedPath?_eq
    (decl : TypeDecl) (rule : Rule) :
    expectedPath? decl rule =
      if rule.dropsSuffix = decl.losesSuffix then
        some (decl.referencePath.rename decl.expectedInnermost)
      else none := by
  have hopen :
      expectedPath? decl rule =
        if rule.dropsSuffix != decl.losesSuffix then none
        else if decl.kind = .interfaceType then
          some (decl.referencePath.rename
            (String.singleton Naming.interfaceLetter ++ decl.referencePath.innermost))
        else
          some (decl.referencePath.rename
            (Naming.dropImplementationSuffix decl.referencePath.innermost decl.kind)) :=
    rfl
  rw [hopen]
  by_cases hsuffix : rule.dropsSuffix = decl.losesSuffix
  · rw [if_neg (by simp [hsuffix]), if_pos hsuffix, TypeDecl.expectedInnermost]
    split <;> rfl
  · rw [if_pos (by simpa using hsuffix), if_neg hsuffix]

/-- The target type made from a reference type by the name expected of it. -/
def Settings.port (settings : Settings) (decl : TypeDecl) : TypeDecl :=
  .named .target decl.kind ((Scope.expectedName? ⟨settings, [], []⟩ decl decl.plainRule).getD "")

theorem Settings.kind_port
    (settings : Settings) (decl : TypeDecl) :
    (settings.port decl).kind = decl.kind := by
  rw [port, TypeDecl.kind_named]

theorem Settings.declaredEquivalent_port
    (settings : Settings) (decl : TypeDecl) :
    (settings.port decl).declaredEquivalent = none := by
  rw [port, TypeDecl.named]

namespace Scope

theorem expectedName?_eq
    (scope : Scope) (decl : TypeDecl) (rule : Rule) :
    scope.expectedName? decl rule =
      (expectedPath? decl rule).map fun path =>
        Naming.qualified (scope.targetNamespace decl.package) path.dotted :=
  rfl

theorem fullName_port
    (scope : Scope) (decl : TypeDecl) :
    (scope.settings.port decl).fullName =
      Naming.qualified (scope.targetNamespace decl.package)
        (decl.referencePath.rename decl.expectedInnermost).dotted := by
  have happlies := TypeDecl.dropsSuffix_eq_losesSuffix_iff decl.flattens_plainRule |>.mpr rfl
  simp only [Settings.port, TypeDecl.fullName_named, expectedName?_eq, expectedPath?_eq, happlies,
    if_true, Option.map_some, Option.getD_some]
  rfl

/-- Of the rules without flattening one applies to a reference type, and it expects the name of the
port. -/
theorem expectedName?_of_not_flattens
    (scope : Scope) (decl : TypeDecl)
    {rule : Rule} (h : rule.flattens = false) :
    scope.expectedName? decl rule =
      if rule = decl.plainRule then some (scope.settings.port decl).fullName else none := by
  rw [expectedName?_eq, expectedPath?_eq, fullName_port]
  simp only [TypeDecl.dropsSuffix_eq_losesSuffix_iff h]
  split <;> rfl

end Scope

theorem Naming.Path.dotted_nil
    (name : String) :
    (Naming.Path.mk [] name).dotted = name := by
  simp [dotted, segments, Text.join]

/-- Of two paths of one level, a rule only asks that they are the same. -/
theorem Rule.meets_of_one_level
    (rule : Rule) (expected actual : String) :
    rule.meets ⟨[], expected⟩ ⟨[], actual⟩ = (!rule.flattens && expected == actual) := by
  cases hflattens : rule.flattens <;>
    simp [meets, hflattens, Naming.Path.isNested, Naming.Path.dotted_nil]

namespace TypeDecl.Conventional

variable {decl : TypeDecl} (h : decl.Conventional)
include h

theorem package_and_path :
    (∀ side : Side, side.separator ∉ decl.package.toList) ∧
      ∃ name, Naming.IsSimple name ∧ decl.referencePath = ⟨[], name⟩ := by
  obtain ⟨package, name, hfull, hunnested, hsimple⟩ := h.topLevel.exists_qualified
  have hundotted := hsimple.undotted_before .reference
  have hdecl : decl = .named .reference decl.kind (Naming.qualified package name) := by
    rw [← hfull]
    exact h.named
  constructor
  · rw [hdecl, TypeDecl.package_named,
      Naming.packagePart_qualified (hunnested .reference) hundotted]
    exact hunnested
  · refine ⟨name, hsimple, ?_⟩
    rw [hdecl, TypeDecl.referencePath,
      Naming.localName_named_qualified (hunnested .reference) hundotted, hsimple.ofText]

theorem isSimple_expectedInnermost :
    Naming.IsSimple decl.expectedInnermost := by
  obtain ⟨_, name, hsimple, hpath⟩ := h.package_and_path
  apply TypeDecl.isSimple_expectedInnermost
  rw [hpath]
  exact hsimple

theorem expectedPath?_eq
    (rule : Rule) :
    expectedPath? decl rule =
      if rule.dropsSuffix = decl.losesSuffix then some ⟨[], decl.expectedInnermost⟩ else none := by
  obtain ⟨_, name, _, hpath⟩ := h.package_and_path
  rw [Counterpart.expectedPath?_eq, hpath]
  rfl

section Port

variable {scope : Scope}
  (prefixes : ∀ mapping ∈ scope.settings.mappings,
    Side.target.separator ∉ mapping.targetPrefix.toList)

theorem fullName_port_eq :
    (scope.settings.port decl).fullName =
      Naming.qualified (scope.targetNamespace decl.package) decl.expectedInnermost := by
  obtain ⟨_, name, _, hpath⟩ := h.package_and_path
  rw [Scope.fullName_port, hpath]
  exact congrArg _ (Naming.Path.dotted_nil _)

include prefixes

/-- A port is read as it was made. -/
theorem package_and_path_port :
    (scope.settings.port decl).package = scope.targetNamespace decl.package ∧
      (scope.settings.port decl).targetPath = ⟨[], decl.expectedInnermost⟩ := by
  have hsimple := h.isSimple_expectedInnermost
  have hundotted := hsimple.undotted_before .target
  have hunnested : Side.target.separator ∉ (scope.targetNamespace decl.package).toList :=
    separator_not_mem_targetNamespace (h.package_and_path.1 .target) prefixes
  have hport :
      scope.settings.port decl =
        .named .target decl.kind
          (Naming.qualified (scope.targetNamespace decl.package) decl.expectedInnermost) := by
    rw [← h.fullName_port_eq]
    rfl
  rw [hport, TypeDecl.package_named, Naming.packagePart_qualified hunnested hundotted,
    TypeDecl.targetPath, Naming.localName_named_qualified hunnested hundotted, hsimple.ofText]
  exact ⟨rfl, rfl⟩

/-- A port meets the types of a kind that may stand for its own whose expected namespace and name
are its own. -/
theorem follows_port_iff
    {other : TypeDecl} (hother : other.Conventional)
    {rule : Rule} :
    scope.follows rule decl (scope.settings.port other) = true ↔
      rule = decl.plainRule ∧
        TypeDecl.Kind.compatible decl.kind other.kind = true ∧
        Text.sameIgnoringCase (scope.targetNamespace decl.package)
          (scope.targetNamespace other.package) = true ∧
        decl.expectedInnermost = other.expectedInnermost := by
  obtain ⟨hpackage, hpath⟩ := hother.package_and_path_port prefixes
  rw [Scope.follows, hpackage, hpath, Settings.kind_port, h.expectedPath?_eq]
  cases hflattens : rule.flattens with
  | true =>
      have hother : rule ≠ decl.plainRule := by
        rintro rfl
        simp [decl.flattens_plainRule] at hflattens
      split <;> simp [Rule.meets_of_one_level, hflattens, hother]
  | false =>
      have hrule : rule.dropsSuffix = decl.losesSuffix ↔ rule = decl.plainRule :=
        TypeDecl.dropsSuffix_eq_losesSuffix_iff hflattens
      by_cases happlies : rule = decl.plainRule
      · subst happlies
        simp [hrule.mpr rfl, Rule.meets_of_one_level, hflattens, and_assoc]
      · simp [hrule, happlies]

end Port

end TypeDecl.Conventional

namespace Scope

variable {scope : Scope}
  (prefixes : ∀ mapping ∈ scope.settings.mappings,
    Side.target.separator ∉ mapping.targetPrefix.toList)
  {decl : TypeDecl} (h : decl.Conventional)
include prefixes h

/-- A type meets its own port, under the rule that applies to it. -/
theorem namedReason_port_self :
    scope.namedReason decl (scope.settings.port decl) = some (.heuristic decl.plainRule) := by
  have hfollows : scope.follows decl.plainRule decl (scope.settings.port decl) = true :=
    (h.follows_port_iff prefixes h).mpr
      ⟨rfl, TypeDecl.Kind.compatible_self h.kind, Naming.sameIgnoringCase_refl _, rfl⟩
  obtain ⟨rule, hrule⟩ := Option.isSome_iff_exists.mp (rule?_isSome_iff.mpr ⟨_, hfollows⟩)
  have happlies := ((h.follows_port_iff prefixes h).mp (follows_of_rule?_eq_some hrule)).1
  simp [namedReason, Settings.declaredEquivalent_port, hrule, happlies]

/-- A type does not meet a port of another name. -/
theorem namedReason_port_eq_none
    {other : TypeDecl} (hother : other.Conventional)
    (distinct :
      Text.sameIgnoringCase (scope.settings.port decl).fullName
        (scope.settings.port other).fullName = false) :
    scope.namedReason decl (scope.settings.port other) = none := by
  have hnone : scope.rule? decl (scope.settings.port other) = none := by
    by_contra hsome
    obtain ⟨rule, hfollows⟩ := rule?_isSome_iff.mp (Option.isSome_iff_ne_none.mpr hsome)
    obtain ⟨_, _, hnamespace, hinnermost⟩ := (h.follows_port_iff prefixes hother).mp hfollows
    rw [h.fullName_port_eq, hother.fullName_port_eq, hinnermost,
      Naming.sameIgnoringCase_qualified hnamespace] at distinct
    exact Bool.noConfusion distinct
  simp [namedReason, Settings.declaredEquivalent_port, hnone]

end Scope
end Counterpart
