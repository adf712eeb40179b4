/-!
# Invocations

What a command line asks for: a comparison of one library, of a batch of libraries, or the
explanation of one type, with the format of the answer.
-/

namespace Counterpart

/-- The format of an answer. -/
inductive Format
  | text
  | json
  | table
  deriving DecidableEq

def Format.ofName? : String → Option Format
  | "text" => some .text
  | "json" => some .json
  | "tsv" => some .table
  | _ => none

/-- A comparison of one library. -/
structure DiffRequest where
  /-- The paths of both surfaces. -/
  reference : String
  target : String
  /-- The path of a settings document. -/
  settings : Option String := none
  /-- The name for the report, that of the reference surface if none is given. -/
  library : Option String := none
  /-- Divergence is a failure. -/
  check : Bool := false
  deriving DecidableEq

/-- A comparison of the libraries of a settings document. -/
structure BatchRequest where
  settings : String
  /-- The names of the libraries to compare, all if none is given. -/
  libraries : List String := []
  check : Bool := false
  deriving DecidableEq

/-- An explanation of one reference type. -/
structure ExplainRequest where
  reference : String
  target : String
  typeName : String
  settings : Option String := none
  deriving DecidableEq

/-- What is asked for. -/
inductive Task
  | diff (request : DiffRequest)
  | batch (request : BatchRequest)
  | explain (request : ExplainRequest)
  deriving DecidableEq

/-- What a command line asks for. -/
structure Invocation where
  task : Task
  format : Format := .text
  verbose : Bool := false
  deriving DecidableEq

end Counterpart
