import Counterpart.Command.Invocation
import Counterpart.Document.Reading
import Counterpart.Document.Report
import Counterpart.Report.Table

/-!
# Running a command

The answer to an invocation, given the files it may read: what is printed, what is logged,
and the failure it ends with, if it does.  A failure that is found after the answer was
printed leaves the answer as it is.
-/

namespace Counterpart

/-- The answer to an invocation. -/
structure Transcript where
  output : String := ""
  log : String := ""
  failure : Option String := none
  deriving DecidableEq

namespace Transcript

/-- The exit code of a command with this answer. -/
def exitCode (transcript : Transcript) : Nat :=
  if transcript.failure.isSome then 1 else 0

def fail (message : String) : Transcript :=
  { failure := some message }

def print (lines : List String) : String :=
  String.join (lines.map (· ++ "\n"))

/-- The answer of a computation that may fail before anything is printed. -/
def ofExcept : Except String Transcript → Transcript
  | .ok transcript => transcript
  | .error message => fail message

end Transcript

/-- A result that fails with the text of its error. -/
def failingWith {ε α : Type} (message : ε → String) : Except ε α → Except String α
  | .ok value => .ok value
  | .error error => .error (message error)

/-- The lines of an answer in a format. -/
def Format.lines
    (format : Format) (text : List String) (json : Json) (table : List String) :
    List String :=
  match format with
  | .text => text
  | .json => [json.pretty]
  | .table => table

/-- The report on a library in a format. -/
def LibraryReport.linesIn (report : LibraryReport) (format : Format) : List String :=
  format.lines report.lines report.toJson report.tableLines

/-- The report on a batch in a format. -/
def BatchReport.linesIn (report : BatchReport) (format : Format) : List String :=
  format.lines report.lines report.toJson report.tableLines

def Explanation.linesIn (explanation : Explanation) (format : Format) : List String :=
  format.lines explanation.lines explanation.toJson explanation.tableLines

namespace DiffRequest

/-- The settings and both surfaces of a request. -/
def load (files : Files) (request : DiffRequest) :
    Except String (Settings × Surface × Surface) := do
  let settings ← failingWith DocumentError.message (files.settings request.settings)
  let reference ←
    failingWith DocumentError.message (files.surface .reference request.reference)
  let target ← failingWith DocumentError.message (files.surface .target request.target)
  return (settings, reference, target)

/-- The line that is logged about both surfaces. -/
def logLine (reference target : Surface) : String :=
  s!"Reference: {reference.library} ({reference.types.length} types), " ++
    s!"target: {target.library} ({target.types.length} types)"

/-- The name of the library in the report. -/
def reportName (request : DiffRequest) (reference : Surface) : String :=
  request.library.getD reference.library

/-- The failure after the report, if divergence is one. -/
def verdict (request : DiffRequest) (report : LibraryReport) : Option String :=
  if request.check && report.summary.diverges then
    some s!"API divergence found in '{report.library}'"
  else none

def run (files : Files) (format : Format) (verbose : Bool) (request : DiffRequest) :
    Transcript :=
  .ofExcept <| (request.load files).map fun (settings, reference, target) =>
    let log := if verbose then Transcript.print [logLine reference target] else ""
    match LibraryReport.ofSurfaces (request.reportName reference) reference target settings with
    | .error error => { log, failure := some error.message }
    | .ok report =>
      { output := Transcript.print (report.linesIn format)
        log
        failure := request.verdict report }

end DiffRequest

namespace BatchRequest

/-- The libraries of a settings document that are asked for. -/
def selected (request : BatchRequest) (project : Project) : List LibraryPlan :=
  project.libraries.filter fun plan =>
    request.libraries.isEmpty || request.libraries.contains plan.name

/-- What becomes of one library; a document that cannot be used makes it fail. -/
def outcome (files : Files) (settings : Settings) (plan : LibraryPlan) : LibraryResult :=
  match files.surface .reference plan.reference with
  | .error error => .failed plan.name error.message
  | .ok reference =>
    match files.surface .target plan.target with
    | .error error => .failed plan.name error.message
    | .ok target => LibrarySurfaces.outcome settings ⟨plan.name, reference, target⟩

def report (files : Files) (settings : Settings) (plans : List LibraryPlan) : BatchReport :=
  .ofOutcomes (plans.map (outcome files settings))

/-- The failure after the report, if divergence is one. -/
def verdict (request : BatchRequest) (report : BatchReport) : Option String :=
  if request.check && (report.failed != 0 || report.totals.diverges) then
    some s!"API divergence found ({report.failed} libraries failed)"
  else none

def run (files : Files) (format : Format) (verbose : Bool) (request : BatchRequest) :
    Transcript :=
  match files.project request.settings with
  | .error error => .fail error.message
  | .ok project =>
    let plans := request.selected project
    if plans.isEmpty then .fail s!"No libraries to compare in '{request.settings}'"
    else
      let report := report files project.settings plans
      { output := Transcript.print (report.linesIn format)
        log :=
          if verbose then Transcript.print (plans.map fun plan => s!"Comparing {plan.name}...")
          else ""
        failure := request.verdict report }

end BatchRequest

namespace ExplainRequest

/-- The explanation asked for, or the reason why there is none. -/
def explanation (files : Files) (request : ExplainRequest) : Except String Explanation := do
  let (settings, reference, target) ←
    DiffRequest.load files
      { reference := request.reference, target := request.target, settings := request.settings }
  let selection := Selection.ofSurfaces reference target
  if selection.excluded.nonPublicReference.contains request.typeName then
    throw s!"Type '{request.typeName}' is not public and is excluded from matching"
  match (selection.scope settings).explain? request.typeName with
  | some explanation => return explanation
  | none => throw s!"Type '{request.typeName}' not found in {request.reference}"

def run (files : Files) (format : Format) (request : ExplainRequest) : Transcript :=
  .ofExcept <| (request.explanation files).map fun explanation =>
    { output := Transcript.print (explanation.linesIn format) }

end ExplainRequest

/-- The answer to an invocation. -/
def Invocation.run (files : Files) (invocation : Invocation) : Transcript :=
  match invocation.task with
  | .diff request => request.run files invocation.format invocation.verbose
  | .batch request => request.run files invocation.format invocation.verbose
  | .explain request => request.run files invocation.format

end Counterpart
