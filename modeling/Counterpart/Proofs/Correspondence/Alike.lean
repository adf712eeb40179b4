import Counterpart.Difference.Structure
import Counterpart.Matching.Types

/-!
# Scopes that answer alike

What two declarations have to do with each other is read off a scope through a few look-ups: the
namespace of a package, the types and platform types of a name, the override of a type.  Scopes
with the same answers find the same correspondences, and so the same differences, whatever the
lists behind the answers look like.

* `Alike.namesAgree_eq`: which written types denote the same type.
* `Alike.difference_eq`: what differs between two types.
-/

namespace Counterpart
namespace Scope

/-- Two scopes give the same answers to every look-up; what they say of an override is only
compared for reference types that they hold. -/
structure Alike (first second : Scope) : Prop where
  targetNamespace : ∀ package, first.targetNamespace package = second.targetNamespace package
  platformType? : ∀ name, first.platformType? name = second.platformType? name
  reference? : ∀ name, first.reference? name = second.reference? name
  target? : ∀ name, first.target? name = second.target? name
  override? :
    ∀ name decl, first.reference? name = some decl →
      first.override? decl.fullName = second.override? decl.fullName

/-- The naming rules only ask for namespaces. -/
theorem follows_eq_of_targetNamespace
    {first second : Scope}
    (h : ∀ package, first.targetNamespace package = second.targetNamespace package) :
    first.follows = second.follows := by
  funext rule reference target
  simp only [follows, h]

theorem rule?_eq_of_targetNamespace
    {first second : Scope}
    (h : ∀ package, first.targetNamespace package = second.targetNamespace package) :
    first.rule? = second.rule? := by
  funext reference target
  simp only [rule?, follows_eq_of_targetNamespace h]

theorem namedReason_eq_of_targetNamespace
    {first second : Scope}
    (h : ∀ package, first.targetNamespace package = second.targetNamespace package) :
    first.namedReason = second.namedReason := by
  funext reference target
  simp only [namedReason, rule?_eq_of_targetNamespace h]

section Alike

variable {first second : Scope} (h : first.Alike second)
include h

theorem Alike.typesAgree_eq
    {name : String} {reference : TypeDecl}
    (found : first.reference? name = some reference)
    (target : TypeDecl) :
    first.typesAgree reference target = second.typesAgree reference target := by
  simp only [typesAgree, h.override? name reference found,
    rule?_eq_of_targetNamespace h.targetNamespace]

theorem Alike.namesMeet_eq
    (reference target : String) :
    first.namesMeet reference target = second.namesMeet reference target := by
  simp only [namesMeet, rule?_eq_of_targetNamespace h.targetNamespace]

theorem Alike.elementsAgree_eq
    (reference target : String) :
    first.elementsAgree reference target = second.elementsAgree reference target := by
  simp only [elementsAgree, ← h.platformType?, ← h.reference?, ← h.target?, ← h.namesMeet_eq]
  cases hreference : first.reference? reference with
  | none =>
      rfl
  | some found =>
      cases first.target? target with
      | none =>
          rfl
      | some other =>
          simp only [h.typesAgree_eq hreference other]

/-- Scopes that answer alike find the same written types to be the same. -/
theorem Alike.namesAgree_eq :
    first.namesAgree = second.namesAgree := by
  funext reference target
  simp only [namesAgree, h.elementsAgree_eq]

end Alike

/-- All differences rest on which written types are the same. -/
theorem difference_eq_of_namesAgree
    {first second : Scope}
    (h : first.namesAgree = second.namesAgree) :
    first.difference = second.difference := by
  have hmembers : first.membersAgree = second.membersAgree := by
    funext reference target
    simp only [membersAgree, parametersAgree, h]
  have hmismatch : first.typeMismatch? = second.typeMismatch? := by
    funext reference target
    simp only [typeMismatch?, h]
  have hpairing : first.pairMembers = second.pairMembers := by
    funext reference target kind
    simp only [pairMembers, hmembers]
  funext reference target
  simp only [difference, baseTypeDifference?, baseTypesAgree.eq_def, contractDifference?,
    memberDifference, h, hmismatch, hpairing]

theorem Alike.difference_eq
    {first second : Scope}
    (h : first.Alike second) :
    first.difference = second.difference :=
  difference_eq_of_namesAgree h.namesAgree_eq

end Scope
end Counterpart
