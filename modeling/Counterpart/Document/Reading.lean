import Counterpart.Document.Settings
import Counterpart.Document.Surface
import Counterpart.Files
import Counterpart.Json.Printer
import Counterpart.Json.Reader
import Counterpart.Validation

/-!
# Reading documents

A document is read from a file, or from text, and checked before it is used.  The library
paths of a settings document are relative to the directory of its file.
-/

namespace Counterpart

/-- What a document is about. -/
inductive DocumentSubject
  | metadata
  | configuration
  deriving DecidableEq

def DocumentSubject.label : DocumentSubject → String
  | metadata => "metadata"
  | configuration => "configuration"

/-- Why a document cannot be used. -/
inductive DocumentFault
  | unreadable (failure : FileFailure)
  /-- The text is not JSON, or not of the form of the document. -/
  | malformed
  | invalid (defect : Defect)
  deriving DecidableEq

/-- A document that cannot be used. -/
structure DocumentError where
  subject : DocumentSubject
  fault : DocumentFault
  deriving DecidableEq

/-- The text of the error about a document. -/
def DocumentError.message (error : DocumentError) : String :=
  match error.fault with
  | .unreadable failure => s!"Failed to read {error.subject.label}: {failure.message}"
  | .malformed => s!"Failed to parse {error.subject.label}"
  | .invalid defect => s!"Invalid {error.subject.label}: {defect.message}"

/-- A value that is checked for a defect. -/
def checked
    {α : Type} (subject : DocumentSubject) (defect? : α → Option Defect) :
    Option α → Except DocumentError α
  | none => .error ⟨subject, .malformed⟩
  | some value =>
    match defect? value with
    | some defect => .error ⟨subject, .invalid defect⟩
    | none => .ok value

/-- The surface of a side that a text describes. -/
def Surface.read (side : Side) (text : String) : Except DocumentError Surface :=
  checked .metadata (Surface.defect? side) ((Json.read? text).bind Surface.ofJson?)

def Surface.write (surface : Surface) : String :=
  surface.toJson.compact

def Project.read (text : String) : Except DocumentError Project :=
  checked .configuration (fun project => project.settings.defect?)
    ((Json.read? text).bind Project.ofJson?)

def Project.write (project : Project) : String :=
  project.toJson.compact

/-- A plan with its paths as seen from a directory. -/
def LibraryPlan.resolvedIn (directory : String) (plan : LibraryPlan) : LibraryPlan :=
  { plan with
    reference := resolveIn directory plan.reference
    target := resolveIn directory plan.target }

namespace Files

/-- The text of a file that is not too large. -/
def text
    (files : Files) (subject : DocumentSubject) (path : String) :
    Except DocumentError String :=
  match files.read path with
  | .error failure => .error ⟨subject, .unreadable failure⟩
  | .ok bytes =>
    match sizeDefect? bytes.size with
    | some defect => .error ⟨subject, .invalid defect⟩
    | none =>
      match String.fromUTF8? bytes with
      | some text => .ok text
      | none => .error ⟨subject, .unreadable .notText⟩

/-- The surface of a side that a file describes. -/
def surface (files : Files) (side : Side) (path : String) : Except DocumentError Surface :=
  (files.text .metadata path).bind (Surface.read side)

/-- The settings document in a file, with the paths of its libraries seen from there. -/
def project (files : Files) (path : String) : Except DocumentError Project :=
  ((files.text .configuration path).bind Project.read).map fun project =>
    { project with
      libraries := project.libraries.map (LibraryPlan.resolvedIn (directoryOf path)) }

/-- The settings in a file; the default ones if no file is given. -/
def settings (files : Files) : Option String → Except DocumentError Settings
  | none => .ok {}
  | some path => (files.project path).map Project.settings

end Files

end Counterpart
