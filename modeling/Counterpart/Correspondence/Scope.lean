import Counterpart.Correspondence.Expected
import Counterpart.Correspondence.Namespace
import Counterpart.Naming.TypeName

/-!
# Correspondence of types within a scope

A scope holds the settings and the types of a comparison.  It decides whether two declared
types could be the same one, and whether two written type names denote the same type, without
matching all types against each other.
-/

namespace Counterpart

/-- What the correspondence of two types or names may depend on. -/
structure Scope where
  settings : Settings
  reference : List TypeDecl
  target : List TypeDecl

namespace Scope

/-- The reference type of a full name, the last one listed. -/
def reference? (scope : Scope) (fullName : String) : Option TypeDecl :=
  scope.reference.findRev? (fun decl => decl.fullName == fullName)

/-- The target type of a full name, the last one listed. -/
def target? (scope : Scope) (fullName : String) : Option TypeDecl :=
  scope.target.findRev? (fun decl => decl.fullName == fullName)

/-- The table entry of a platform type, the last one listed. -/
def platformType? (scope : Scope) (target : String) : Option PlatformType :=
  scope.settings.platformTypes.findRev? (fun entry => entry.target == target)

def override? (scope : Scope) (reference : String) : Option Override :=
  scope.settings.overrides.find? (fun entry => entry.reference == reference)

def targetNamespace (scope : Scope) (package : String) : String :=
  Counterpart.targetNamespace package scope.settings.mappings

/-- The full target name expected for a reference type under a rule that applies to it. -/
def expectedName? (scope : Scope) (reference : TypeDecl) (rule : Rule) : Option String :=
  (expectedPath? reference rule).map fun path =>
    let expected := scope.targetNamespace reference.package
    if expected = "" then path.dotted else expected ++ "." ++ path.dotted

/-- Whether a target type meets a reference type under a naming rule. -/
def follows (scope : Scope) (rule : Rule) (reference target : TypeDecl) : Bool :=
  TypeDecl.Kind.compatible reference.kind target.kind &&
    Text.sameIgnoringCase (scope.targetNamespace reference.package) target.package &&
    (expectedPath? reference rule).any (fun expected => rule.meets expected target.targetPath)

/-- The first naming rule under which a target type meets a reference type. -/
def rule? (scope : Scope) (reference target : TypeDecl) : Option Rule :=
  Rule.all.find? (fun rule => scope.follows rule reference target)

/-- Whether a target type declares a reference type as its equivalent. -/
def declares (reference target : TypeDecl) : Bool :=
  match target.declaredEquivalent with
  | some declared =>
    declared.package == reference.package && declared.name == reference.referencePath.dotted
  | none => false

/-- Whether two types correspond: an override of the reference type decides alone, else a
declared equivalent of the target type, else the naming rules. -/
def typesAgree (scope : Scope) (reference target : TypeDecl) : Bool :=
  match scope.override? reference.fullName with
  | some entry => entry.target == target.fullName
  | none =>
    if target.declaredEquivalent.isSome then declares reference target
    else (scope.rule? reference target).isSome

/-- Whether two names correspond by the naming rules, as classes or as interfaces. -/
def namesMeet (scope : Scope) (reference target : String) : Bool :=
  [TypeDecl.Kind.classType, TypeDecl.Kind.interfaceType].any fun kind =>
    (scope.rule? (.named .reference kind reference) (.named .target kind target)).isSome

/-- Whether two element names denote the same type.

The table of platform types decides alone on the targets it lists; equal names denote the
same type; two types of the scope are compared as declared, other names by the rules. -/
def elementsAgree (scope : Scope) (reference target : String) : Bool :=
  match scope.platformType? (Naming.Path.ofText .target target).dotted with
  | some entry => entry.references.contains reference
  | none =>
    if reference = target then true
    else
      match scope.reference? reference, scope.target? target with
      | some r, some t => scope.typesAgree r t
      | _, _ => scope.namesMeet reference target

/-- Whether two written types denote the same type: equal array ranks and corresponding
element names. -/
def namesAgree (scope : Scope) (reference target : String) : Bool :=
  let reference := Naming.TypeName.ofText reference
  let target := Naming.TypeName.ofText target
  reference.rank == target.rank && scope.elementsAgree reference.element target.element

/-- A target type declares the package and the dotted path of its equivalent. -/
theorem declares_iff
    {reference target : TypeDecl} :
    declares reference target = true ↔
      target.declaredEquivalent = some ⟨reference.package, reference.referencePath.dotted⟩ := by
  unfold declares
  rcases target.declaredEquivalent with _ | ⟨package, name⟩ <;> simp

theorem follows_of_rule?_eq_some
    {scope : Scope} {reference target : TypeDecl} {rule : Rule}
    (h : scope.rule? reference target = some rule) :
    scope.follows rule reference target = true := by
  simpa using List.find?_some h

theorem rule?_isSome_iff
    {scope : Scope} {reference target : TypeDecl} :
    (scope.rule? reference target).isSome = true ↔
      ∃ rule, scope.follows rule reference target = true := by
  simp only [rule?, List.find?_isSome]
  exact ⟨fun ⟨rule, _, h⟩ => ⟨rule, h⟩, fun ⟨rule, h⟩ => ⟨rule, Rule.mem_all rule, h⟩⟩

end Scope

end Counterpart
