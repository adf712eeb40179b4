import Counterpart.Declaration.Basic
import Counterpart.Json.Decode

/-!
# Documents of surfaces

The JSON form of the declared types of a library.  Empty lists, missing texts and unset flags
are left out where a document is written and may be left out where it is read.
-/

namespace Counterpart

def TypeDecl.Kind.ofJson? (json : Json) : Option TypeDecl.Kind :=
  json.tag?.bind ofLabel?

namespace EquivalentName

def toJson (declared : EquivalentName) : Json :=
  .object [("package", .string declared.package), ("name", .string declared.name)]

def ofJson? (json : Json) : Option EquivalentName := do
  let entries ← json.record? ["package", "name"] []
  let package ← Json.required? "package" Json.text? entries
  let name ← Json.required? "name" Json.text? entries
  return { package, name }

end EquivalentName

namespace Acknowledged

def toJson (known : Acknowledged) : Json :=
  .object
    (Json.textEntry "modifiers" known.modifiers ++
      Json.textEntry "base_type" known.baseType ++
      Json.textEntry "contracts" known.contracts)

def ofJson? (json : Json) : Option Acknowledged := do
  let entries ← json.record? [] ["modifiers", "base_type", "contracts"]
  let modifiers ← Json.optional? "modifiers" Json.text? entries
  let baseType ← Json.optional? "base_type" Json.text? entries
  let contracts ← Json.optional? "contracts" Json.text? entries
  return { modifiers, baseType, contracts }

end Acknowledged

namespace Member.Shape

def toEntries : Member.Shape → List (String × Json)
  | field declaredType =>
    [ ("member_kind", .string Member.Kind.field.label),
      ("declared_type", .string declaredType) ]
  | property declaredType hasGetter hasSetter =>
    [ ("member_kind", .string Member.Kind.property.label),
      ("declared_type", .string declaredType),
      ("has_getter", .bool hasGetter),
      ("has_setter", .bool hasSetter) ]
  | method parameters returnType =>
    [ ("member_kind", .string Member.Kind.method.label),
      ("parameters", Json.ofTexts parameters),
      ("return_type", .string returnType) ]
  | constructor parameters =>
    [ ("member_kind", .string Member.Kind.constructor.label),
      ("parameters", Json.ofTexts parameters) ]

/-- The words for the kinds of members, in the order of their positions. -/
def kindLabels : List String :=
  Member.Kind.all.map Member.Kind.label

/-- The shape given by the entries of a member; entries of other kinds are passed over. -/
def ofEntries? (entries : List (String × Json)) : Option Member.Shape := do
  let label ← Json.required? "member_kind" (Json.variant? kindLabels) entries
  match ← Member.Kind.ofLabel? label with
  | .field =>
    return .field (← Json.required? "declared_type" Json.text? entries)
  | .property =>
    let declaredType ← Json.required? "declared_type" Json.text? entries
    let hasGetter ← Json.default? "has_getter" Json.bool? false entries
    let hasSetter ← Json.default? "has_setter" Json.bool? false entries
    return .property declaredType hasGetter hasSetter
  | .method =>
    let parameters ← Json.texts? "parameters" entries
    let returnType ← Json.required? "return_type" Json.text? entries
    return .method parameters returnType
  | .constructor =>
    return .constructor (← Json.texts? "parameters" entries)

end Member.Shape

namespace Member

/-- The keys that members of every kind have. -/
def commonKeys : List String :=
  ["name", "modifiers", "is_static", "known_modifier_difference"]

def toJson (member : Member) : Json :=
  .object
    ([ ("name", .string member.name),
        ("modifiers", Json.ofTexts member.modifiers),
        ("is_static", .bool member.isStatic) ] ++
      member.shape.toEntries ++
      Json.textEntry "known_modifier_difference" member.acknowledgedModifiers)

/-- A member read from a document.

All entries but the common ones may belong to the shape, so they have to be readable, also
where they are passed over. -/
def ofJson? (json : Json) : Option Member := do
  let entries ← json.entries?
  let name ← Json.required? "name" Json.text? entries
  let modifiers ← Json.texts? "modifiers" entries
  let isStatic ← Json.default? "is_static" Json.bool? false entries
  let acknowledgedModifiers ← Json.optional? "known_modifier_difference" Json.text? entries
  let inner := entries.filter fun entry => !commonKeys.contains entry.1
  guard (Json.entriesReadable inner)
  let shape ← Member.Shape.ofEntries? inner
  return { name, modifiers, isStatic, shape, acknowledgedModifiers }

end Member

namespace TypeDecl

def toJson (decl : TypeDecl) : Json :=
  .object
    ([ ("kind", .string decl.kind.label),
        ("package", .string decl.package),
        ("simple_name", .string decl.simpleName),
        ("full_name", .string decl.fullName),
        ("modifiers", Json.ofTexts decl.modifiers) ] ++
      Json.textEntry "base_type" decl.baseType ++
      Json.listEntry "implemented_contracts" .string decl.contracts ++
      Json.listEntry "fields" Member.toJson decl.fields ++
      Json.listEntry "properties" Member.toJson decl.properties ++
      Json.listEntry "methods" Member.toJson decl.methods ++
      Json.listEntry "constructors" Member.toJson decl.constructors ++
      (decl.declaredEquivalent.map fun declared =>
        ("declared_equivalent", declared.toJson)).toList ++
      (if decl.acknowledged.isEmpty then []
        else [("known_differences", decl.acknowledged.toJson)]) ++
      (if decl.withoutReference then [("no_reference_equivalent", .bool true)] else []))

/-- A sequence of members read from a document. -/
def members? (key : String) (entries : List (String × Json)) : Option (List Member) :=
  Json.default? key (Json.list? Member.ofJson?) [] entries

/-- A declared type read from a document; the package may be called a namespace. -/
def ofJson? (json : Json) : Option TypeDecl := do
  let entries ←
    json.record? ["kind", "package", "simple_name", "full_name"]
      [ "modifiers", "base_type", "implemented_contracts", "fields", "properties", "methods",
        "constructors", "declared_equivalent", "known_differences", "no_reference_equivalent" ]
  let kind ← Json.required? "kind" TypeDecl.Kind.ofJson? entries
  let package ← Json.requiredAs? ["package", "namespace"] Json.text? entries
  let simpleName ← Json.required? "simple_name" Json.text? entries
  let fullName ← Json.required? "full_name" Json.text? entries
  let modifiers ← Json.texts? "modifiers" entries
  let baseType ← Json.optional? "base_type" Json.text? entries
  let contracts ← Json.texts? "implemented_contracts" entries
  let fields ← members? "fields" entries
  let properties ← members? "properties" entries
  let methods ← members? "methods" entries
  let constructors ← members? "constructors" entries
  let declaredEquivalent ← Json.optional? "declared_equivalent" EquivalentName.ofJson? entries
  let acknowledged ← Json.default? "known_differences" Acknowledged.ofJson? {} entries
  let withoutReference ← Json.default? "no_reference_equivalent" Json.bool? false entries
  return {
    kind, package, simpleName, fullName, modifiers, baseType, contracts, fields, properties,
    methods, constructors, declaredEquivalent, acknowledged, withoutReference }

end TypeDecl

namespace Surface

def toJson (surface : Surface) : Json :=
  .object
    ([("library", .string surface.library)] ++
      Json.textEntry "version" surface.version ++
      [("types", .array (surface.types.map TypeDecl.toJson))])

def ofJson? (json : Json) : Option Surface := do
  let entries ← json.record? ["library"] ["version", "types"]
  let library ← Json.required? "library" Json.text? entries
  let version ← Json.optional? "version" Json.text? entries
  let types ← Json.default? "types" (Json.list? TypeDecl.ofJson?) [] entries
  return { library, version, types }

end Surface

end Counterpart
