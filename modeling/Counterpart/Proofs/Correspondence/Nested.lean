import Counterpart.Proofs.Correspondence.Exclusion
import Counterpart.Proofs.Naming.Nesting
import Counterpart.Validation

/-!
# Names expected of nested types

The name that a rule expects of the counterpart of a reference type joins the levels of a nesting
path with dots, which no rule reads.  It still is the name of a match: the target type that nests
the same levels meets the reference type under this rule, and the single names that the levels are
flattened to meet it under the rule that flattens.

* `TypeDecl.PlainlyNested`: reference types whose nesting paths have plain levels.
* `Scope.follows_counterpart`: when a type meets the target type of a given name.
* `expected_name_is_met`: what meets the name that is expected of a type.
-/

namespace Counterpart

/-- The rule that flattens the paths which a given rule compares as they are. -/
def Rule.flattening (rule : Rule) : Rule :=
  if rule.dropsSuffix then .flattenedImplementationSuffix else .flattenedNesting

theorem Rule.flattens_flattening
    (rule : Rule) :
    rule.flattening.flattens = true := by
  cases rule <;> rfl

theorem Rule.dropsSuffix_flattening
    (rule : Rule) :
    rule.flattening.dropsSuffix = rule.dropsSuffix := by
  cases rule <;> rfl

namespace TypeDecl

/-- A reference type whose nesting path is one of plain levels, below a package that could stand on
the target side. -/
structure PlainlyNested (decl : TypeDecl) : Prop where
  kind : decl.kind ≠ .structType
  package : Side.target.separator ∉ decl.package.toList
  nonempty : ∀ level ∈ Text.pieces Side.reference.separator decl.localName, level ≠ ""
  undotted : ∀ level ∈ Text.pieces Side.reference.separator decl.localName, '.' ∉ level.toList
  unmarked :
    ∀ level ∈ Text.pieces Side.reference.separator decl.localName,
      Naming.arityMark ∉ level.toList
  unnested :
    ∀ level ∈ Text.pieces Side.reference.separator decl.localName,
      Side.target.separator ∉ level.toList

namespace PlainlyNested

variable {decl : TypeDecl} (h : decl.PlainlyNested)
include h

theorem isSimple
    {level : String} (hlevel : level ∈ Text.pieces Side.reference.separator decl.localName) :
    Naming.IsSimple level :=
  Naming.isSimple_of_mem_pieces hlevel (h.nonempty level hlevel) (h.undotted level hlevel)
    (h.unmarked level hlevel) (h.unnested level hlevel)

theorem segments_referencePath :
    decl.referencePath.segments = Text.pieces Side.reference.separator decl.localName := by
  have hlevels :
      Naming.Path.levels .reference decl.localName =
        Text.pieces Side.reference.separator decl.localName :=
    Naming.Path.levels_eq_pieces fun _ hlevel => (h.isSimple hlevel).isLevel .reference
  rw [referencePath, Naming.Path.segments_ofText_of_levels_ne_nil, hlevels]
  rw [hlevels]
  exact Text.pieces_ne_nil _ _

theorem isSimple_expectedInnermost :
    Naming.IsSimple decl.expectedInnermost := by
  apply TypeDecl.isSimple_expectedInnermost
  apply h.isSimple
  rw [← h.segments_referencePath]
  simp [Naming.Path.segments]

/-- The levels expected of a counterpart are plain. -/
theorem isSimple_expected
    {level : String}
    (hlevel : level ∈ (decl.referencePath.rename decl.expectedInnermost).segments) :
    Naming.IsSimple level := by
  rw [Naming.Path.segments_rename, List.mem_append, List.mem_singleton] at hlevel
  rcases hlevel with henclosing | rfl
  · apply h.isSimple
    rw [← h.segments_referencePath]
    exact List.mem_append_left _ henclosing
  · exact h.isSimple_expectedInnermost

end PlainlyNested
end TypeDecl

namespace Scope

/-- The target type of a name in the namespace expected for a reference type, and of its kind. -/
def counterpart (scope : Scope) (decl : TypeDecl) (name : String) : TypeDecl :=
  .named .target decl.kind (Naming.qualified (scope.targetNamespace decl.package) name)

/-- The name expected of the counterpart of a reference type is the name of a type that meets it. -/
structure MeetsExpectation
    (scope : Scope) (decl : TypeDecl) (rule : Rule) (path : Naming.Path) : Prop where
  /-- Of the rules without flattening, no other applies to the type. -/
  only : ∀ other : Rule, other.flattens = false →
    ((scope.expectedName? decl other).isSome = true ↔ other = rule)
  plain : rule.flattens = false
  levels :
    path.segments =
      (Text.pieces Side.reference.separator decl.localName).dropLast ++ [decl.expectedInnermost]
  name :
    scope.expectedName? decl rule =
      some (Naming.qualified (scope.targetNamespace decl.package) path.dotted)
  /-- The type that nests the levels is met as it is. -/
  nested :
    scope.follows rule decl
        (scope.counterpart decl
          (Text.join (String.singleton Side.target.separator) path.segments)) =
      true
  /-- The types that nest nothing are met by flattening. -/
  joined :
    path.isNested = true →
      scope.follows rule.flattening decl
          (scope.counterpart decl (Text.join "_" path.segments)) =
        true
  alone :
    path.isNested = true →
      scope.follows rule.flattening decl (scope.counterpart decl path.innermost) = true
  /-- What the rule accepts has the expected namespace and path. -/
  accepted :
    ∀ target, scope.follows rule decl target = true →
      Text.sameIgnoringCase (scope.targetNamespace decl.package) target.package = true ∧
        target.targetPath.dotted = path.dotted

/-- A type is met by the target types whose names are read as a path that meets what is expected of
the type. -/
theorem follows_counterpart
    {scope : Scope} {decl : TypeDecl} {rule : Rule} {name : String} {expected actual : Naming.Path}
    (kind : decl.kind ≠ .structType)
    (unnested : Side.target.separator ∉ (scope.targetNamespace decl.package).toList)
    (undotted : '.' ∉ name.toList)
    (hexpected : expectedPath? decl rule = some expected)
    (hactual : Naming.Path.ofText .target name = actual)
    (hmeets : rule.meets expected actual = true) :
    scope.follows rule decl (scope.counterpart decl name) = true := by
  have hundotted : '.' ∉ (Text.before Side.target.separator name).toList :=
    Text.lacks_before undotted
  rw [follows, counterpart, TypeDecl.kind_named, TypeDecl.package_named,
    Naming.packagePart_qualified unnested hundotted, TypeDecl.targetPath,
    Naming.localName_named_qualified unnested hundotted, hexpected, hactual,
    TypeDecl.Kind.compatible_self kind, Naming.sameIgnoringCase_refl]
  simpa using hmeets

end Scope

/-- The name expected of the counterpart of a plainly nested type is the name of a type that meets
it. -/
theorem expected_name_is_met
    {scope : Scope}
    (prefixes : ∀ mapping ∈ scope.settings.mappings,
      Side.target.separator ∉ mapping.targetPrefix.toList)
    {decl : TypeDecl} (h : decl.PlainlyNested) :
    ∃ rule path, scope.MeetsExpectation decl rule path := by
  have hexpected {rule : Rule} (hsuffix : rule.dropsSuffix = decl.losesSuffix) :
      expectedPath? decl rule = some (decl.referencePath.rename decl.expectedInnermost) := by
    rw [expectedPath?_eq, if_pos hsuffix]
  have hsuffix : decl.plainRule.dropsSuffix = decl.losesSuffix :=
    (TypeDecl.dropsSuffix_eq_losesSuffix_iff decl.flattens_plainRule).mpr rfl
  have hunnested : Side.target.separator ∉ (scope.targetNamespace decl.package).toList :=
    separator_not_mem_targetNamespace h.package prefixes
  have hsimple :
      ∀ level ∈ (decl.referencePath.rename decl.expectedInnermost).segments,
        Naming.IsSimple level :=
    fun level => h.isSimple_expected
  have hflattened {name : String} (hname : Naming.IsSimple name)
      (hmem : name ∈ (decl.referencePath.rename decl.expectedInnermost).flattened) :
      scope.follows decl.plainRule.flattening decl (scope.counterpart decl name) = true := by
    refine Scope.follows_counterpart h.kind hunnested hname.undotted
      (hexpected (decl.plainRule.dropsSuffix_flattening.trans hsuffix)) (hname.ofText .target) ?_
    exact (Rule.meets_iff_of_flattens decl.plainRule.flattens_flattening).mpr (Or.inl ⟨rfl, hmem⟩)
  refine ⟨decl.plainRule, decl.referencePath.rename decl.expectedInnermost, ?_⟩
  constructor
  case only =>
    intro other hother
    rw [Scope.expectedName?_of_not_flattens scope decl hother]
    split <;> simp [*]
  case plain =>
    exact decl.flattens_plainRule
  case levels =>
    rw [Naming.Path.segments_rename, ← h.segments_referencePath, Naming.Path.segments,
      List.dropLast_concat]
  case name =>
    rw [Scope.expectedName?_eq, hexpected hsuffix]
    rfl
  case nested =>
    refine Scope.follows_counterpart h.kind hunnested ?_ (hexpected hsuffix)
      (Naming.Path.ofText_join hsimple .target) ?_
    · exact Naming.Path.lacks_dot_join hsimple (by decide)
    · exact (Rule.meets_iff_of_not_flattens decl.flattens_plainRule).mpr rfl
  case joined =>
    intro hnested
    apply hflattened (Naming.Path.isSimple_join hsimple)
    exact Naming.Path.mem_flattened_iff.mpr ⟨hnested, Or.inl rfl⟩
  case alone =>
    intro hnested
    apply hflattened h.isSimple_expectedInnermost
    exact Naming.Path.mem_flattened_iff.mpr ⟨hnested, Or.inr rfl⟩
  case accepted =>
    intro target hfollows
    rw [Scope.follows, hexpected hsuffix] at hfollows
    simp only [Bool.and_eq_true, Option.any_some] at hfollows
    obtain ⟨⟨_, hnamespace⟩, hmeets⟩ := hfollows
    rw [Rule.meets_iff_of_not_flattens decl.flattens_plainRule] at hmeets
    exact ⟨hnamespace, hmeets.symm⟩

section Acme

/-- A scope without types, in which packages of one vendor are mapped. -/
def acme : Scope :=
  { settings := { mappings := [{ referencePrefix := "org.acme", targetPrefix := "Acme" }] }
    reference := []
    target := [] }

theorem expected_name_is_met_thing :
    (TypeDecl.named .reference .interfaceType "org.acme.store.Outer$Middle$Thing").defect?
        .reference = none ∧
      ∃ rule path,
        acme.MeetsExpectation
          (.named .reference .interfaceType "org.acme.store.Outer$Middle$Thing") rule path :=
  ⟨by decide +kernel,
    expected_name_is_met (by decide +kernel)
      ⟨by decide, by decide +kernel, by decide +kernel, by decide +kernel, by decide +kernel,
        by decide +kernel⟩⟩

end Acme

end Counterpart
