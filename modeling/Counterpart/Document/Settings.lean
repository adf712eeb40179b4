import Counterpart.Json.Decode
import Counterpart.Settings

/-!
# Documents of settings

The JSON form of the settings of a comparison and of the libraries of a batch.  A document
without a table of platform types has the built-in one.
-/

namespace Counterpart

namespace PackageMapping

def toJson (mapping : PackageMapping) : Json :=
  .object
    ([ ("reference_prefix", .string mapping.referencePrefix),
        ("target_prefix", .string mapping.targetPrefix) ] ++
      Json.textEntry "justification" mapping.justification)

def ofJson? (json : Json) : Option PackageMapping := do
  let entries ← json.record? ["reference_prefix", "target_prefix"] ["justification"]
  let referencePrefix ← Json.required? "reference_prefix" Json.text? entries
  let targetPrefix ← Json.required? "target_prefix" Json.text? entries
  let justification ← Json.optional? "justification" Json.text? entries
  return { referencePrefix, targetPrefix, justification }

end PackageMapping

namespace Override

def toJson (entry : Override) : Json :=
  .object
    ([("reference", .string entry.reference), ("target", .string entry.target)] ++
      Json.textEntry "justification" entry.justification)

def ofJson? (json : Json) : Option Override := do
  let entries ← json.record? ["reference", "target"] ["justification"]
  let reference ← Json.required? "reference" Json.text? entries
  let target ← Json.required? "target" Json.text? entries
  let justification ← Json.optional? "justification" Json.text? entries
  return { reference, target, justification }

end Override

namespace PlatformType

def toJson (entry : PlatformType) : Json :=
  .object [("target", .string entry.target), ("references", Json.ofTexts entry.references)]

def ofJson? (json : Json) : Option PlatformType := do
  let entries ← json.record? ["target", "references"] []
  let target ← Json.required? "target" Json.text? entries
  let references ← Json.required? "references" (Json.list? Json.text?) entries
  return { target, references }

end PlatformType

namespace Settings

def toEntries (settings : Settings) : List (String × Json) :=
  [ ("namespace_mappings", .array (settings.mappings.map PackageMapping.toJson)),
    ("overrides", .array (settings.overrides.map Override.toJson)),
    ("well_known_types", .array (settings.platformTypes.map PlatformType.toJson)) ]

def ofEntries? (entries : List (String × Json)) : Option Settings := do
  let mappings ←
    Json.default? "namespace_mappings" (Json.list? PackageMapping.ofJson?) [] entries
  let overrides ← Json.default? "overrides" (Json.list? Override.ofJson?) [] entries
  let platformTypes ←
    Json.default? "well_known_types" (Json.list? PlatformType.ofJson?)
      PlatformType.builtIn entries
  return { mappings, overrides, platformTypes }

/-- Settings read from a document without libraries. -/
def ofJson? (json : Json) : Option Settings :=
  (json.record? [] ["namespace_mappings", "overrides", "well_known_types"]).bind ofEntries?

end Settings

namespace LibraryPlan

def toJson (plan : LibraryPlan) : Json :=
  .object
    [ ("name", .string plan.name),
      ("reference", .string plan.reference),
      ("target", .string plan.target) ]

def ofJson? (json : Json) : Option LibraryPlan := do
  let entries ← json.record? ["name", "reference", "target"] []
  let name ← Json.required? "name" Json.text? entries
  let reference ← Json.required? "reference" Json.text? entries
  let target ← Json.required? "target" Json.text? entries
  return { name, reference, target }

end LibraryPlan

namespace Project

def toJson (project : Project) : Json :=
  .object
    (project.settings.toEntries ++
      Json.listEntry "libraries" LibraryPlan.toJson project.libraries)

/-- A settings document read.

All entries but the libraries may belong to the settings, so they have to be readable, also
where they are passed over. -/
def ofJson? (json : Json) : Option Project := do
  let entries ← json.entries?
  let libraries ← Json.default? "libraries" (Json.list? LibraryPlan.ofJson?) [] entries
  let inner := entries.filter fun entry => entry.1 != "libraries"
  guard (Json.entriesReadable inner)
  let settings ← Settings.ofEntries? inner
  return { settings, libraries }

end Project

end Counterpart
