import Counterpart.Document.Settings
import Counterpart.Proofs.Document.Entries

/-!
# Settings are read back from their documents

Mappings, overrides, platform types and libraries are read back one by one, then the lists of them.
The table of platform types is always written, so that the built-in one never stands in for an empty
one.

* `Settings.ofEntries?_toEntries`: settings read back.
* `Project.ofJson?_toJson`: a settings document read back.
-/

namespace Counterpart

namespace PackageMapping

theorem ofJson?_toJson
    (mapping : PackageMapping) :
    ofJson? mapping.toJson = some mapping := by
  simp [ofJson?, toJson]

theorem fitsIn_toJson
    (mapping : PackageMapping) :
    Json.FitsIn 1 mapping.toJson := by
  simp [toJson]

end PackageMapping

namespace Override

theorem ofJson?_toJson
    (entry : Override) :
    ofJson? entry.toJson = some entry := by
  simp [ofJson?, toJson]

theorem fitsIn_toJson
    (entry : Override) :
    Json.FitsIn 1 entry.toJson := by
  simp [toJson]

end Override

namespace PlatformType

theorem ofJson?_toJson
    (entry : PlatformType) :
    ofJson? entry.toJson = some entry := by
  simp [ofJson?, toJson]

theorem fitsIn_toJson
    (entry : PlatformType) :
    Json.FitsIn 2 entry.toJson := by
  simp [toJson]

end PlatformType

namespace LibraryPlan

theorem ofJson?_toJson
    (plan : LibraryPlan) :
    ofJson? plan.toJson = some plan := by
  simp [ofJson?, toJson]

theorem fitsIn_toJson
    (plan : LibraryPlan) :
    Json.FitsIn 1 plan.toJson := by
  simp [toJson]

end LibraryPlan

namespace Settings

theorem ofEntries?_toEntries
    (settings : Settings) :
    ofEntries? settings.toEntries = some settings := by
  simp [ofEntries?, toEntries, Json.list?_map, PackageMapping.ofJson?_toJson,
    Override.ofJson?_toJson, PlatformType.ofJson?_toJson]

theorem valuesFitIn_toEntries
    (settings : Settings) :
    Json.ValuesFitIn 3 settings.toEntries := by
  simp [toEntries, PlatformType.fitsIn_toJson,
    (PackageMapping.fitsIn_toJson _).mono (Nat.le_succ 1),
    (Override.fitsIn_toJson _).mono (Nat.le_succ 1)]

end Settings

namespace Project

theorem fitsIn_toJson
    (project : Project) :
    Json.FitsIn 4 project.toJson := by
  simp [toJson, project.settings.valuesFitIn_toEntries,
    (LibraryPlan.fitsIn_toJson _).mono (Nat.le_succ 1)]

/-- All entries but the libraries are those of the settings. -/
theorem filter_ne_libraries
    (project : Project) :
    (project.settings.toEntries ++
        Json.listEntry "libraries" LibraryPlan.toJson project.libraries).filter
      (fun entry => entry.1 != "libraries") = project.settings.toEntries := by
  have hsettings :
      project.settings.toEntries.filter (fun entry => entry.1 != "libraries") =
        project.settings.toEntries :=
    rfl
  have hlibraries :
      (Json.listEntry "libraries" LibraryPlan.toJson project.libraries).filter
        (fun entry => entry.1 != "libraries") = [] := by
    cases project.libraries <;> rfl
  rw [List.filter_append, hsettings, hlibraries, List.append_nil]

theorem ofJson?_toJson
    (project : Project) :
    ofJson? project.toJson = some project := by
  have hlibraries :
      Json.default? "libraries" (Json.list? LibraryPlan.ofJson?) []
          (project.settings.toEntries ++
            Json.listEntry "libraries" LibraryPlan.toJson project.libraries) =
        some project.libraries := by
    simp [Settings.toEntries, Json.orDefault?_listValue, LibraryPlan.ofJson?_toJson]
  have hreadable : Json.entriesReadable project.settings.toEntries = true :=
    project.settings.valuesFitIn_toEntries.entriesReadable
  simp only [ofJson?, toJson, Json.entries?_object, Option.bind_eq_bind, Option.bind_some,
    hlibraries, filter_ne_libraries, hreadable, Settings.ofEntries?_toEntries]
  rfl

end Project

end Counterpart
