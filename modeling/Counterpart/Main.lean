import Counterpart.Command.Arguments
import Counterpart.Command.Run

/-!
# The command line

The documents that an invocation names are read first, then those that its settings document
lists; the invocation is run on what was found, and its answer is printed.
-/

namespace Counterpart

/-- The paths of the documents that an invocation names. -/
def Invocation.paths (invocation : Invocation) : List String :=
  match invocation.task with
  | .diff request => [request.reference, request.target] ++ request.settings.toList
  | .batch request => [request.settings]
  | .explain request => [request.reference, request.target] ++ request.settings.toList

/-- The paths of the documents that the settings document of an invocation lists. -/
def Invocation.listedPaths (files : Files) (invocation : Invocation) : List String :=
  match invocation.task with
  | .batch request =>
    match files.project request.settings with
    | .ok project =>
      (request.selected project).flatMap fun plan => [plan.reference, plan.target]
    | .error _ => []
  | _ => []

/-- Files as found in a list of contents, the last found at a path first. -/
def Files.ofList (contents : List (String × Except FileFailure ByteArray)) : Files where
  read path := (contents.lookup path).getD (.error .notFound)

/-- The text about the arguments that a command line takes. -/
def usage : String :=
  "usage: [-v] [-f text|json|tsv] diff REFERENCE TARGET | batch CONFIG | " ++
    "explain REFERENCE TARGET TYPE"

/-- The contents of the files at a list of paths. -/
def readAll (paths : List String) : IO (List (String × Except FileFailure ByteArray)) :=
  paths.mapM fun (path : String) => do
    try
      return (path, .ok (← IO.FS.readBinFile path))
    catch error =>
      match error with
      | .noFileOrDirectory .. => return (path, .error .notFound)
      | error => return (path, .error (.other error.toString))

end Counterpart

open Counterpart in
def main (arguments : List String) : IO UInt32 := do
  let output ← IO.getStdout
  let errors ← IO.getStderr
  match Invocation.ofArguments? arguments with
  | none =>
    errors.putStrLn usage
    return 2
  | some invocation =>
    let named ← readAll invocation.paths
    let listed ← readAll (invocation.listedPaths (.ofList named))
    let transcript := invocation.run (.ofList (named ++ listed))
    output.putStr transcript.output
    errors.putStr transcript.log
    if let some message := transcript.failure then
      errors.putStrLn s!"Error: {message}"
    return transcript.exitCode.toUInt32
