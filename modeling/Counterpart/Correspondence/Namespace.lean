import Counterpart.Naming.Convention
import Counterpart.Settings

/-!
# The namespace expected for a package

The longest mapping that ends on a segment boundary of the package decides, the first one
listed among equals.  What it leaves of the package, and a package without such a mapping, is
capitalized segment by segment.
-/

namespace Counterpart

namespace PackageMapping

/-- What a mapping leaves of a package, if its start is not empty and ends on a segment
boundary of the package. -/
def remainder? (mapping : PackageMapping) (package : String) : Option String :=
  if mapping.referencePrefix = "" then none
  else
    (Text.afterStart? mapping.referencePrefix package).filter
      (fun rest => rest == "" || rest.toList.head? == some '.')

def appliesTo (mapping : PackageMapping) (package : String) : Bool :=
  (mapping.remainder? package).isSome

/-- The mapping with the longest start, the first of several. -/
def longest? : List PackageMapping → Option PackageMapping
  | [] => none
  | mapping :: rest =>
    match longest? rest with
    | none => some mapping
    | some best =>
      if mapping.referencePrefix.length < best.referencePrefix.length then some best
      else some mapping

end PackageMapping

/-- The target namespace expected for a reference package. -/
def targetNamespace (package : String) (mappings : List PackageMapping) : String :=
  match PackageMapping.longest? (mappings.filter (·.appliesTo package)) with
  | some mapping =>
    mapping.targetPrefix ++ Naming.capitalizeSegments ((mapping.remainder? package).getD "")
  | none => Naming.capitalizeSegments package

end Counterpart
