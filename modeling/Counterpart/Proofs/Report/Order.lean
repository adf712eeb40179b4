import Counterpart.Proofs.Correspondence.Alike
import Counterpart.Proofs.Correspondence.Lookup
import Counterpart.Proofs.Correspondence.Mapping
import Counterpart.Proofs.Matching.Schedule
import Counterpart.Proofs.Report.Assembly
import Counterpart.Proofs.Sorting

/-!
# Reports do not depend on the order of documents

Surfaces are sets of types, mappings and platform types are tables.  With distinct full names on
either side, distinct starts of mappings and distinct platform types, a report is the same in
whatever order a document lists them: types are sorted before they are matched, and everything
else is looked up.

* `matching_eq_of_rearranged`: the matching is the same.
* `report_ignores_order`: so is the report, or the error in its place.
-/

namespace Counterpart

/-- The same surface with its types in another order. -/
structure Surface.Rearranged (surface other : Surface) : Prop where
  library : other.library = surface.library
  version : other.version = surface.version
  types : other.types.Perm surface.types

/-- The same settings with their tables in another order; a table is only rearranged if its keys
are distinct. -/
structure Settings.Rearranged (settings other : Settings) : Prop where
  overrides : other.overrides = settings.overrides
  mappings :
    other.mappings = settings.mappings ∨
      (settings.mappings.map PackageMapping.referencePrefix).Nodup ∧
        other.mappings.Perm settings.mappings
  platformTypes :
    other.platformTypes = settings.platformTypes ∨
      (settings.platformTypes.map PlatformType.target).Nodup ∧
        other.platformTypes.Perm settings.platformTypes

theorem sortNames_eq_of_perm
    {names names' : List String}
    (h : names'.Perm names) :
    sortNames names' = sortNames names :=
  mergeSort_eq_of_perm compare h

section Rearranged

variable {settings settings' : Settings} (h : settings.Rearranged settings')
include h

theorem Settings.Rearranged.targetNamespace_eq
    (package : String) :
    targetNamespace package settings'.mappings = targetNamespace package settings.mappings := by
  rcases h.mappings with hsame | ⟨distinct, hperm⟩
  · rw [hsame]
  · exact targetNamespace_eq_of_perm distinct hperm package

theorem Settings.Rearranged.platformType?_eq
    (name : String) :
    settings'.platformTypes.findRev? (fun entry => entry.target == name) =
      settings.platformTypes.findRev? (fun entry => entry.target == name) := by
  rcases h.platformTypes with hsame | ⟨distinct, hperm⟩
  · rw [hsame]
  · exact findRev?_eq_of_perm distinct hperm name

end Rearranged

namespace Scope

/-- The same scope with its lists in another order. -/
structure Rearranged (scope other : Scope) : Prop where
  settings : scope.settings.Rearranged other.settings
  reference : other.reference.Perm scope.reference
  target : other.target.Perm scope.target

variable {scope other : Scope} (distinct : scope.DistinctNames) (h : scope.Rearranged other)
include distinct h

theorem Rearranged.alike :
    other.Alike scope where
  targetNamespace := h.settings.targetNamespace_eq
  platformType? := h.settings.platformType?_eq
  reference? := findRev?_eq_of_perm distinct.reference h.reference
  target? := findRev?_eq_of_perm distinct.target h.target
  override? name decl _ := by
    simp only [Scope.override?, h.settings.overrides]

/-- The types of a scope are matched in the same way in whatever order they are listed. -/
theorem matching_eq_of_rearranged :
    other.matching = scope.matching :=
  matching_eq_of_perm distinct h.reference h.target h.settings.overrides
    h.settings.targetNamespace_eq

end Scope

/-- What is set aside is listed by name, so it does not depend on the order of the types. -/
theorem Selection.excluded_eq_of_perm
    {reference reference' target target' : Surface}
    (hreference : reference'.types.Perm reference.types)
    (htarget : target'.types.Perm target.types) :
    (ofSurfaces reference' target').excluded = (ofSurfaces reference target).excluded := by
  have hnames {types types' : List TypeDecl} (h : types'.Perm types) (test : TypeDecl → Bool) :
      ofSurfaces.namesOf (types'.filter test) = ofSurfaces.namesOf (types.filter test) :=
    sortNames_eq_of_perm ((h.filter test).map TypeDecl.fullName)
  simp only [ofSurfaces, hnames hreference, hnames htarget]

/-- With distinct full names on either side, a report does not depend on the order in which the
documents list types, mappings and platform types. -/
theorem report_ignores_order
    (name : String)
    {reference reference' target target' : Surface} {settings settings' : Settings}
    (referenceNames : (reference.types.map TypeDecl.fullName).Nodup)
    (targetNames : (target.types.map TypeDecl.fullName).Nodup)
    (hreference : reference.Rearranged reference')
    (htarget : target.Rearranged target')
    (hsettings : settings.Rearranged settings') :
    LibraryReport.ofSurfaces name reference' target' settings' =
      LibraryReport.ofSurfaces name reference target settings := by
  have distinct : (Scope.between reference target settings).DistinctNames :=
    ⟨referenceNames.sublist (List.filter_sublist.map _),
      targetNames.sublist (List.filter_sublist.map _)⟩
  have hscope :
      (Scope.between reference target settings).Rearranged
        (Scope.between reference' target' settings') :=
    ⟨hsettings, hreference.types.filter _, htarget.types.filter _⟩
  have hmatching := Scope.matching_eq_of_rearranged distinct hscope
  have hentry := Scope.pairEntry_eq_of_difference (hscope.alike distinct).difference_eq
  have hassembled (matching : Matching) :
      LibraryReport.assembled name reference' target' matching =
        LibraryReport.assembled name reference target matching := by
    funext pairs
    simp only [LibraryReport.assembled, hreference.version, htarget.version,
      Selection.excluded_eq_of_perm hreference.types htarget.types]
  rw [LibraryReport.ofSurfaces_eq, LibraryReport.ofSurfaces_eq, hmatching, hentry, hassembled]

theorem report_ignores_order_reversed_sample :
    LibraryReport.ofSurfaces "sample"
        { library := "reference", types := Scope.sample.reference.reverse }
        { library := "target", types := Scope.sample.target.reverse }
        { mappings := [⟨"a.b", "B", none⟩, ⟨"a", "A", none⟩]
          overrides := Scope.sample.settings.overrides
          platformTypes := PlatformType.builtIn.reverse } =
      LibraryReport.ofSurfaces "sample"
        { library := "reference", types := Scope.sample.reference }
        { library := "target", types := Scope.sample.target }
        { mappings := [⟨"a", "A", none⟩, ⟨"a.b", "B", none⟩]
          overrides := Scope.sample.settings.overrides } :=
  report_ignores_order "sample" Scope.distinctNames_sample.reference
    Scope.distinctNames_sample.target
    ⟨rfl, rfl, List.reverse_perm _⟩ ⟨rfl, rfl, List.reverse_perm _⟩
    ⟨rfl, Or.inr ⟨by decide +kernel, by decide +kernel⟩,
      Or.inr ⟨by decide +kernel, List.reverse_perm _⟩⟩

end Counterpart
