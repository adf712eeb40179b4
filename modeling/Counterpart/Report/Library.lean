import Counterpart.Difference.Structure
import Counterpart.Matching.Types
import Counterpart.Report.Summary

/-!
# Reports on one library

Reference types that are not public and target types without a reference counterpart are set
aside and listed; the others are matched, and every pair is compared.  A report lists types
by the names shown to a reader.
-/

namespace Counterpart

/-- A type as reports show it. -/
structure TypeEntry where
  kind : TypeDecl.Kind
  fullName : String
  readableName : String
  /-- The modifiers in the order of display. -/
  modifiers : List String
  deriving DecidableEq

/-- The entry of a type in a report. -/
def TypeDecl.entry (side : Side) (decl : TypeDecl) : TypeEntry :=
  { kind := decl.kind
    fullName := decl.fullName
    readableName := decl.readableName side
    modifiers := Modifier.sorted side decl.modifiers }

/-- A type without a counterpart in a report. -/
structure UnmatchedEntry where
  type : TypeEntry
  /-- The full names of the types of the other side in an ambiguity with it. -/
  candidates : List String := []
  deriving DecidableEq

/-- A pair of types in a report, with what differs between them. -/
structure PairEntry where
  reference : TypeEntry
  target : TypeEntry
  reason : Reason
  difference : TypeDifference
  deriving DecidableEq

/-- The full names of the types set aside before matching. -/
structure Excluded where
  nonPublicReference : List String := []
  withoutReference : List String := []
  deriving DecidableEq

/-- The report on one library. -/
structure LibraryReport where
  library : String
  referenceVersion : Option String := none
  targetVersion : Option String := none
  summary : Summary
  unmatchedReference : List UnmatchedEntry := []
  unmatchedTarget : List UnmatchedEntry := []
  matched : List PairEntry := []
  warnings : List Warning := []
  excluded : Excluded := {}
  deriving DecidableEq

/-- The types of two surfaces that take part in matching, in their given order. -/
structure Selection where
  reference : List TypeDecl
  target : List TypeDecl
  excluded : Excluded
  deriving DecidableEq

namespace Selection

/-- The types of two surfaces that take part, and those set aside. -/
def ofSurfaces (reference target : Surface) : Selection :=
  { reference := reference.types.filter fun decl => decl.isPublic
    target := target.types.filter fun decl => !decl.withoutReference
    excluded :=
      { nonPublicReference :=
          namesOf (reference.types.filter fun decl => !decl.isPublic)
        withoutReference := namesOf (target.types.filter fun decl => decl.withoutReference) } }
where
  /-- The full names of types in the order of their characters. -/
  namesOf (types : List TypeDecl) : List String :=
    sortNames (types.map TypeDecl.fullName)

/-- The scope of a selection under given settings. -/
def scope (selection : Selection) (settings : Settings) : Scope :=
  { settings, reference := selection.reference, target := selection.target }

end Selection

/-- The entry of a pair in a report. -/
def Scope.pairEntry (scope : Scope) (pairing : Pairing) : Except NotPublic PairEntry :=
  (scope.difference pairing.reference pairing.target).map fun difference =>
    { reference := pairing.reference.entry .reference
      target := pairing.target.entry .target
      reason := pairing.reason
      difference }

namespace PairEntry

/-- The order of pairs: by the target type as shown, then by both full names. -/
def order : PairEntry → PairEntry → Ordering :=
  compareLex (compareOn fun pair => pair.target.readableName) <|
  compareLex (compareOn fun pair => pair.target.fullName)
    (compareOn fun pair => pair.reference.fullName)

def sort (pairs : List PairEntry) : List PairEntry :=
  pairs.mergeSort (fun a b => (order a b).isLE)

end PairEntry

namespace UnmatchedEntry

/-- The entry of a left-over type in a report. -/
def ofUnmatched (side : Side) (unmatched : Unmatched) : UnmatchedEntry :=
  { type := unmatched.decl.entry side, candidates := unmatched.candidates }

/-- The order of left-over types: as shown, then by full name. -/
def order : UnmatchedEntry → UnmatchedEntry → Ordering :=
  compareLex (compareOn fun entry => entry.type.readableName)
    (compareOn fun entry => entry.type.fullName)

def sort (entries : List UnmatchedEntry) : List UnmatchedEntry :=
  entries.mergeSort (fun a b => (order a b).isLE)

end UnmatchedEntry

namespace Summary

/-- The sum of a count over the pairs of a report. -/
def total (count : PairEntry → Nat) (pairs : List PairEntry) : Nat :=
  pairs.foldr (fun pair rest => count pair + rest) 0

/-- The counts of the lists of a report. -/
def ofLists
    (matched : List PairEntry) (unmatchedReference unmatchedTarget : List UnmatchedEntry)
    (excluded : Excluded) (warnings : List Warning) :
    Summary :=
  { referenceTypes := matched.length + unmatchedReference.length
    targetTypes := matched.length + unmatchedTarget.length
    matched := matched.length
    matchedWithDifferences := matched.countP fun pair => !pair.difference.isClean
    unmatchedReference := unmatchedReference.length
    unmatchedTarget := unmatchedTarget.length
    ambiguous := unmatchedReference.countP fun entry => !entry.candidates.isEmpty
    referenceOnlyMembers :=
      total (fun pair => pair.difference.members.referenceOnly.length) matched
    targetOnlyMembers :=
      total (fun pair => pair.difference.members.targetOnly.length) matched
    declaredTypeMismatches :=
      total (fun pair => pair.difference.members.mismatches.length) matched
    skippedNonPublic := excluded.nonPublicReference.length
    excludedTarget := excluded.withoutReference.length
    warnings := warnings.length }

end Summary

/-- The report on two surfaces of a library, or the first paired type that is not public. -/
def LibraryReport.ofSurfaces
    (name : String) (reference target : Surface) (settings : Settings) :
    Except NotPublic LibraryReport :=
  let selection := Selection.ofSurfaces reference target
  let scope := selection.scope settings
  let matching := scope.matching
  (matching.matched.mapM scope.pairEntry).map fun pairs =>
    let matched := PairEntry.sort pairs
    let unmatchedReference :=
      UnmatchedEntry.sort (matching.unmatchedReference.map (.ofUnmatched .reference))
    let unmatchedTarget :=
      UnmatchedEntry.sort (matching.unmatchedTarget.map (.ofUnmatched .target))
    { library := name
      referenceVersion := reference.version
      targetVersion := target.version
      summary :=
        .ofLists matched unmatchedReference unmatchedTarget selection.excluded matching.warnings
      unmatchedReference
      unmatchedTarget
      matched
      warnings := matching.warnings
      excluded := selection.excluded }

end Counterpart
