import Counterpart.Report.Library

/-!
# Reports on several libraries

Libraries are compared one by one; one that fails is reported as such and leaves the others
alone.  A batch report lists its libraries by name, with the sum of the summaries of those
compared and the number of those that failed.
-/

namespace Counterpart

/-- What became of one library of a batch. -/
inductive LibraryResult
  | compared (report : LibraryReport)
  | failed (library error : String)
  deriving DecidableEq

namespace LibraryResult

def library : LibraryResult → String
  | compared report => report.library
  | failed library _ => library

/-- The summary of a library that was compared. -/
def summary? : LibraryResult → Option Summary
  | compared report => some report.summary
  | failed _ _ => none

def isFailed : LibraryResult → Bool
  | compared _ => false
  | failed _ _ => true

end LibraryResult

/-- The report on a batch of libraries. -/
structure BatchReport where
  libraries : List LibraryResult
  totals : Summary
  failed : Nat
  deriving DecidableEq

/-- The report made of the outcomes of libraries, equal names in their given order. -/
def BatchReport.ofOutcomes (outcomes : List LibraryResult) : BatchReport :=
  let libraries := outcomes.mergeSort (fun a b => (compare a.library b.library).isLE)
  { libraries
    totals := .sum (libraries.filterMap LibraryResult.summary?)
    failed := libraries.countP LibraryResult.isFailed }

/-- Both surfaces of a library of a batch. -/
structure LibrarySurfaces where
  name : String
  reference : Surface
  target : Surface
  deriving DecidableEq

def LibrarySurfaces.outcome (settings : Settings) (input : LibrarySurfaces) : LibraryResult :=
  match LibraryReport.ofSurfaces input.name input.reference input.target settings with
  | .ok report => .compared report
  | .error error => .failed input.name error.message

/-- The report on a batch of libraries, each compared on its own. -/
def BatchReport.ofLibraries
    (libraries : List LibrarySurfaces) (settings : Settings) :
    BatchReport :=
  .ofOutcomes (libraries.map (LibrarySurfaces.outcome settings))

end Counterpart
