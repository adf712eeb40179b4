import Counterpart.Correspondence.Scope

/-!
# Results of matching

Pairs of types, types left over, and warnings about overrides that were not applied.
-/

namespace Counterpart

/-- A reference type paired with a target type. -/
structure Pairing where
  reference : TypeDecl
  target : TypeDecl
  reason : Reason
  deriving DecidableEq

/-- A type left without a counterpart, with the full names of the types of the other side
that take part in an ambiguity with it. -/
structure Unmatched where
  decl : TypeDecl
  candidates : List String
  deriving DecidableEq

/-- Whether a type is left over because of an ambiguity. -/
def Unmatched.isAmbiguous (entry : Unmatched) : Bool :=
  !entry.candidates.isEmpty

/-- Why an override was not applied. -/
inductive Warning
  /-- An earlier override names the same reference type. -/
  | duplicateOverride (reference : String)
  /-- No reference type has the name. -/
  | referenceNotFound (reference : String)
  /-- No target type has the name. -/
  | targetNotFound (reference target : String)
  /-- An earlier override took the target type. -/
  | targetTaken (reference target owner : String)
  deriving DecidableEq

def Warning.message : Warning → String
  | duplicateOverride reference =>
    s!"reference type '{reference}' has more than one override; only the first is used"
  | referenceNotFound reference =>
    s!"override names reference type '{reference}', which is not in the comparison set"
  | targetNotFound reference target =>
    s!"override for '{reference}' names target type '{target}', which is not in the comparison set"
  | targetTaken reference target owner =>
    s!"override for '{reference}' names target type '{target}', already matched to '{owner}'"

/-- The result of matching two lists of types. -/
structure Matching where
  /-- The pairs in the order in which they were made. -/
  matched : List Pairing
  unmatchedReference : List Unmatched
  unmatchedTarget : List Unmatched
  warnings : List Warning
  deriving DecidableEq

end Counterpart
