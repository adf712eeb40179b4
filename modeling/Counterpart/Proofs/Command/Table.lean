import Counterpart.Proofs.Command.Verdict
import Counterpart.Proofs.Document.Reading
import Counterpart.Proofs.Report.Table

/-!
# Tables that a comparison prints

A comparison prints its table line by line and fails afterwards, if it checks and the table has a
row.  Nothing in a document is escaped, so a row has its columns unless a text has a tab.

* `DiffRequest.run_eq_of_report`: the answer of a comparison that gives a report.
* `table_lists_findings`: the lines that are printed, how many there are, and when checking fails.
* `table_keeps_columns`: when all lines have five columns.
-/

namespace Counterpart

namespace DiffRequest

variable {files : Files} {request : DiffRequest} {settings : Settings} {reference target : Surface}

/-- The answer of a comparison that gives a report. -/
theorem run_eq_of_report
    {report : LibraryReport} (hload : request.load files = .ok (settings, reference, target))
    (hreport :
      LibraryReport.ofSurfaces (request.reportName reference) reference target settings =
        .ok report)
    (format : Format) (verbose : Bool) :
    request.run files format verbose =
      { output := Transcript.print (report.linesIn format)
        log := if verbose then Transcript.print [logLine reference target] else ""
        failure := request.verdict report } := by
  simp only [run, hload, Except.map, Transcript.ofExcept, hreport]

/-- A comparison that gives no report prints nothing. -/
theorem output_run_of_error
    {error : NotPublic} (hload : request.load files = .ok (settings, reference, target))
    (herror :
      LibraryReport.ofSurfaces (request.reportName reference) reference target settings =
        .error error)
    (format : Format) (verbose : Bool) :
    (request.run files format verbose).output = "" := by
  simp only [run, hload, Except.map, Transcript.ofExcept, herror]

theorem verdict_isSome_iff
    {report : LibraryReport} :
    (request.verdict report).isSome = true ↔
      request.check = true ∧ report.summary.diverges = true := by
  rw [verdict]
  split <;> simp_all

end DiffRequest

namespace LibraryReport

variable {report : LibraryReport}

theorem lines_print_table
    (h : ∀ row ∈ report.rows, ∀ cell ∈ row.cells, Text.Lacks '\n' cell) :
    Text.lines (Transcript.print (report.linesIn .table)) =
      Row.lineOf Row.header :: report.rows.map Row.line :=
  lines_tableLines h

/-- The lines of a table have five columns exactly if no cell has a separator of its own. -/
theorem columns_iff
    (h : ∀ row ∈ report.rows, ∀ cell ∈ row.cells, Text.Lacks '\n' cell) :
    (∀ line ∈ Text.lines (Transcript.print (report.linesIn .table)),
        (Text.pieces '\t' line).length = 5) ↔
      ∀ row ∈ report.rows, ∀ cell ∈ row.cells, Text.Lacks '\t' cell := by
  have hheader : (Text.pieces '\t' (Row.lineOf Row.header)).length = 5 := by
    decide +kernel
  rw [lines_print_table h, List.forall_mem_cons, List.forall_mem_map]
  simp only [hheader, true_and, Row.length_pieces_line_iff]

end LibraryReport

/-! ## Comparisons of written documents -/

/-- Two files that hold the documents of a reference and of a target surface. -/
def Files.written (reference target : Surface) : Files where
  read path :=
    if path = "reference.json" then .ok reference.write.toUTF8
    else if path = "target.json" then .ok target.write.toUTF8
    else .error .notFound

/-- The comparison of the two files, with a check or without. -/
def DiffRequest.written (check : Bool) : DiffRequest :=
  { reference := "reference.json", target := "target.json", check }

/-- A surface that is accepted and not too large is read from the file it was written to. -/
theorem Files.surface_of_write
    {files : Files} {side : Side} {path : String} {surface : Surface}
    (hread : files.read path = .ok surface.write.toUTF8)
    (hsize : sizeDefect? surface.write.toUTF8.size = none)
    (haccepted : surface.defect? side = none) :
    files.surface side path = .ok surface := by
  have hdecoded : String.fromUTF8? surface.write.toUTF8 = some surface.write := by
    simp [String.fromUTF8?, String.fromUTF8, surface.write.isValidUTF8]
  have htext : files.text .metadata path = .ok surface.write := by
    simp only [Files.text, hread, hsize, hdecoded]
  rw [Files.surface, htext, Except.bind]
  exact surface.writes_toJson.read_eq haccepted List.mem_cons_self

theorem DiffRequest.load_written
    {reference target : Surface} (check : Bool)
    (hreference : reference.defect? .reference = none)
    (hreferenceSize : sizeDefect? reference.write.toUTF8.size = none)
    (htarget : target.defect? .target = none)
    (htargetSize : sizeDefect? target.write.toUTF8.size = none) :
    (DiffRequest.written check).load (Files.written reference target) =
      .ok ({}, reference, target) :=
  DiffRequest.load_eq_ok_iff.mpr
    ⟨rfl, Files.surface_of_write rfl hreferenceSize hreference,
      Files.surface_of_write rfl htargetSize htarget⟩

/-! ## Rows and findings -/

/-- A table that is printed has its header and a row for every finding, and none exactly if nothing
is left to reconcile; with a check the comparison fails exactly if it has printed a row. -/
theorem table_lists_findings
    {name : String} {reference target : Surface} {settings : Settings} {report : LibraryReport}
    (hreport : LibraryReport.ofSurfaces name reference target settings = .ok report)
    (hname : Text.Lacks '\n' name) (hreference : reference.Lacks '\n')
    (htarget : target.Lacks '\n') :
    Text.lines (Transcript.print (report.linesIn .table)) =
        Row.lineOf Row.header :: report.rows.map Row.line ∧
      (∀ count ∈ report.counts,
        (report.rows.countP fun row => row.category == count.1) = count.2) ∧
      report.rows.length = (report.counts.map Prod.snd).sum ∧
      (report.rows = [] ↔ report.summary.diverges = false) ∧
      ∀ (files : Files) (request : DiffRequest) (verbose : Bool),
        request.load files = .ok (settings, reference, target) →
          request.reportName reference = name →
            (request.run files .table verbose).output =
                Transcript.print (report.linesIn .table) ∧
              ((request.run files .table verbose).failure.isSome = true ↔
                request.check = true ∧
                  1 < (Text.lines (request.run files .table verbose).output).length) := by
  have hcells : ∀ row ∈ report.rows, ∀ cell ∈ row.cells, Text.Lacks '\n' cell :=
    LibraryReport.lacks_of_mem_cells (by decide) hname hreference htarget hreport
  have hempty := LibraryReport.rows_eq_nil_iff hreport
  refine
    ⟨LibraryReport.lines_print_table hcells, report.countP_rows, report.length_rows, hempty, ?_⟩
  rintro files request verbose hload rfl
  rw [DiffRequest.run_eq_of_report hload hreport]
  refine ⟨rfl, DiffRequest.verdict_isSome_iff.trans (and_congr_right fun _ => ?_)⟩
  rw [LibraryReport.lines_print_table hcells, List.length_cons, List.length_map,
    ← Bool.not_eq_false, ← hempty, ← List.length_eq_zero_iff]
  omega

section Uneven

/-- Two classes, the second derived from the first. -/
def unevenReference : Surface :=
  { library := "uneven"
    types :=
      [.named .reference .classType "a.One",
        { TypeDecl.named .reference .classType "a.Two" with baseType := some "a.One" }] }

/-- A counterpart of the second class, which is not derived. -/
def unevenTarget : Surface :=
  { library := "uneven"
    types := [.named .target .classType "A.Two"] }

theorem load_uneven
    (check : Bool) :
    (DiffRequest.written check).load (Files.written unevenReference unevenTarget) =
      .ok ({}, unevenReference, unevenTarget) :=
  DiffRequest.load_written check
    (Surface.defect?_eq_none_iff.mpr (by decide)) (by decide +kernel)
    (Surface.defect?_eq_none_iff.mpr (by decide)) (by decide +kernel)

theorem matching_uneven :
    (Scope.between unevenReference unevenTarget {}).matching =
      { matched :=
          [⟨{ TypeDecl.named .reference .classType "a.Two" with baseType := some "a.One" },
            .named .target .classType "A.Two", .heuristic .exactName⟩]
        unmatchedReference := [⟨.named .reference .classType "a.One", []⟩]
        unmatchedTarget := []
        warnings := [] } := by
  rw [Scope.matching, Scope.settled, Scope.overridden,
    Pool.ofTypes_of_ordered (by decide +kernel) (by decide +kernel)]
  decide +kernel

theorem bare_of_mem_uneven
    {pairing : Pairing}
    (h : pairing ∈ (Scope.between unevenReference unevenTarget {}).matching.matched) :
    pairing.reference.Bare ∧ pairing.target.Bare := by
  rw [matching_uneven, List.mem_singleton] at h
  subst h
  exact ⟨⟨rfl, rfl, rfl⟩, TypeDecl.bare_named ..⟩

/-- The report on the two surfaces has a type left over and a pair with different base types. -/
theorem exists_report_uneven :
    ∃ report,
      LibraryReport.ofSurfaces "uneven" unevenReference unevenTarget {} = .ok report ∧
        report.rows =
          [⟨"uneven", "unmatched_reference", "a.One", "", ""⟩,
            ⟨"uneven", "base_type", "a.Two", "A.Two", "a.One vs "⟩] := by
  refine ⟨_, LibraryReport.ofSurfaces_eq_ok fun pairing hpairing =>
    Scope.pairEntry_of_bare _ (bare_of_mem_uneven hpairing).1 (bare_of_mem_uneven hpairing).2
      pairing.reason, ?_⟩
  rw [matching_uneven]
  simp only [LibraryReport.rows, LibraryReport.assembled, UnmatchedEntry.sort, PairEntry.sort,
    List.map_cons, List.map_nil, List.mergeSort_singleton, List.mergeSort_nil]
  decide +kernel

theorem table_lists_findings_uneven :
    ∃ report,
      LibraryReport.ofSurfaces "uneven" unevenReference unevenTarget {} = .ok report ∧
        Text.lines (Transcript.print (report.linesIn .table)) =
          ["library\tcategory\treference\ttarget\tdetail",
            "uneven\tunmatched_reference\ta.One\t\t",
            "uneven\tbase_type\ta.Two\tA.Two\ta.One vs "] ∧
        ((DiffRequest.written true).run (Files.written unevenReference unevenTarget)
          .table false).failure.isSome = true := by
  obtain ⟨report, hreport, hrows⟩ := exists_report_uneven
  obtain ⟨hlines, _, _, _, hrun⟩ :=
    table_lists_findings hreport (by decide) (by decide) (by decide)
  obtain ⟨houtput, hfailure⟩ := hrun _ _ false (load_uneven true) rfl
  refine ⟨report, hreport, ?_, hfailure.mpr ⟨rfl, ?_⟩⟩
  · rw [hlines, hrows]
    decide +kernel
  · rw [houtput, hlines, hrows]
    decide

/-! ## Columns -/

/-- Of documents whose texts have no line break, all lines of a table have five columns exactly if
no cell has a tab, and so whenever no text has one. -/
theorem table_keeps_columns
    {files : Files} {request : DiffRequest} {verbose : Bool} {settings : Settings}
    {reference target : Surface} (hload : request.load files = .ok (settings, reference, target))
    (hname : Text.Lacks '\n' (request.reportName reference)) (hreference : reference.Lacks '\n')
    (htarget : target.Lacks '\n') :
    (∀ report,
        LibraryReport.ofSurfaces (request.reportName reference) reference target settings =
            .ok report →
          ((∀ line ∈ Text.lines (request.run files .table verbose).output,
              (Text.pieces '\t' line).length = 5) ↔
            ∀ row ∈ report.rows, ∀ cell ∈ row.cells, Text.Lacks '\t' cell)) ∧
      (Text.Lacks '\t' (request.reportName reference) → reference.Lacks '\t' →
        target.Lacks '\t' →
          ∀ line ∈ Text.lines (request.run files .table verbose).output,
            (Text.pieces '\t' line).length = 5) := by
  have hcolumns (report : LibraryReport)
      (hreport :
        LibraryReport.ofSurfaces (request.reportName reference) reference target settings =
          .ok report) :
      (∀ line ∈ Text.lines (request.run files .table verbose).output,
          (Text.pieces '\t' line).length = 5) ↔
        ∀ row ∈ report.rows, ∀ cell ∈ row.cells, Text.Lacks '\t' cell := by
    rw [DiffRequest.run_eq_of_report hload hreport]
    exact LibraryReport.columns_iff
      (LibraryReport.lacks_of_mem_cells (by decide) hname hreference htarget hreport)
  refine ⟨hcolumns, fun hnameTab hreferenceTab htargetTab => ?_⟩
  cases hreport :
      LibraryReport.ofSurfaces (request.reportName reference) reference target settings with
  | error error =>
      rw [DiffRequest.output_run_of_error hload hreport]
      intro line hline
      contradiction
  | ok report =>
      exact (hcolumns report hreport).mpr
        (LibraryReport.lacks_of_mem_cells (by decide) hnameTab hreferenceTab htargetTab hreport)

theorem table_keeps_columns_uneven :
    (DiffRequest.written false).load (Files.written unevenReference unevenTarget) =
        .ok ({}, unevenReference, unevenTarget) ∧
      ∀ line ∈ Text.lines
          ((DiffRequest.written false).run (Files.written unevenReference unevenTarget)
            .table false).output,
        (Text.pieces '\t' line).length = 5 := by
  obtain ⟨_, hcolumns⟩ :=
    table_keeps_columns (load_uneven false) (by decide) (by decide) (by decide)
  exact ⟨load_uneven false, hcolumns (by decide) (by decide) (by decide)⟩

end Uneven

section Separators

/-- A lone type and nothing else is matched against no type. -/
theorem matching_lone
    {scope : Scope} {decl : TypeDecl} (hsettings : scope.settings = {})
    (hreference : scope.reference = [decl]) (htarget : scope.target = []) :
    scope.matching =
      { matched := []
        unmatchedReference := [⟨decl, []⟩]
        unmatchedTarget := []
        warnings := [] } := by
  simp [Scope.matching, Scope.settled, Scope.overridden, hsettings, hreference, htarget,
    Pool.ofTypes, Pool.ofTypes.sortByName, Pool.overrideAll, Pool.advance, Pool.settle,
    Pool.candidates, Pool.hold, Pending.isAmbiguous, Pool.unmatchedReference,
    Pool.unmatchedTarget]

/-- A surface with one class. -/
def loneReference (fullName : String) : Surface :=
  { library := "lone"
    types := [.named .reference .classType fullName] }

/-- A surface without types. -/
def emptyTarget : Surface :=
  { library := "empty" }

/-- The files of a surface with one class and of a surface without types. -/
def loneFiles (fullName : String) : Files :=
  .written (loneReference fullName) emptyTarget

theorem load_lone
    {fullName : String} (haccepted : (loneReference fullName).defect? .reference = none)
    (hsize : sizeDefect? (loneReference fullName).write.toUTF8.size = none) :
    (DiffRequest.written false).load (loneFiles fullName) =
      .ok ({}, loneReference fullName, emptyTarget) :=
  DiffRequest.load_written false haccepted hsize (Surface.defect?_eq_none_iff.mpr (by decide))
    (by decide +kernel)

theorem output_run_lone
    {files : Files} {request : DiffRequest} {fullName : String} (hname : request.library = none)
    (hload : request.load files = .ok ({}, loneReference fullName, emptyTarget)) :
    (request.run files .table false).output =
      Transcript.print
        [Row.lineOf Row.header,
          Row.line ⟨"lone", "unmatched_reference", fullName, "", ""⟩] := by
  have hmatching :
      (Scope.between (loneReference fullName) emptyTarget {}).matching =
        { matched := []
          unmatchedReference := [⟨.named .reference .classType fullName, []⟩]
          unmatchedTarget := []
          warnings := [] } :=
    matching_lone rfl (by simp [loneReference]) rfl
  have hreport :
      LibraryReport.ofSurfaces (request.reportName (loneReference fullName))
          (loneReference fullName) emptyTarget {} =
        .ok
          (LibraryReport.assembled "lone" (loneReference fullName) emptyTarget
            (Scope.between (loneReference fullName) emptyTarget {}).matching []) := by
    rw [LibraryReport.ofSurfaces_eq, hmatching, DiffRequest.reportName, hname]
    rfl
  have hrows :
      (LibraryReport.assembled "lone" (loneReference fullName) emptyTarget
        (Scope.between (loneReference fullName) emptyTarget {}).matching []).rows =
        [⟨"lone", "unmatched_reference", fullName, "", ""⟩] := by
    rw [hmatching]
    simp [LibraryReport.rows, LibraryReport.assembled, UnmatchedEntry.sort, PairEntry.sort,
      UnmatchedEntry.ofUnmatched, TypeDecl.entry, Text.join]
  rw [DiffRequest.run_eq_of_report hload hreport]
  simp only [LibraryReport.linesIn, Format.lines, LibraryReport.tableLines, hrows,
    List.map_cons, List.map_nil]

/-- A surface is accepted and compared although its class has a tab in its name, or a line break.
A line of the table has six columns with the tab, and three with the line break. -/
theorem separators_in_names_change_columns :
    ((DiffRequest.written false).load (loneFiles "a.One\tTwo") =
          .ok ({}, loneReference "a.One\tTwo", emptyTarget) ∧
        ∃ line ∈ Text.lines
            ((DiffRequest.written false).run (loneFiles "a.One\tTwo") .table false).output,
          (Text.pieces '\t' line).length = 6) ∧
      (DiffRequest.written false).load (loneFiles "a.One\nTwo") =
          .ok ({}, loneReference "a.One\nTwo", emptyTarget) ∧
        ∃ line ∈ Text.lines
            ((DiffRequest.written false).run (loneFiles "a.One\nTwo") .table false).output,
          (Text.pieces '\t' line).length = 3 := by
  have htab :
      (DiffRequest.written false).load (loneFiles "a.One\tTwo") =
        .ok ({}, loneReference "a.One\tTwo", emptyTarget) :=
    load_lone (Surface.defect?_eq_none_iff.mpr (by decide)) (by decide +kernel)
  have hbreak :
      (DiffRequest.written false).load (loneFiles "a.One\nTwo") =
        .ok ({}, loneReference "a.One\nTwo", emptyTarget) :=
    load_lone (Surface.defect?_eq_none_iff.mpr (by decide)) (by decide +kernel)
  refine
    ⟨⟨htab, "lone\tunmatched_reference\ta.One\tTwo\t\t", ?_, by decide +kernel⟩, hbreak,
      "lone\tunmatched_reference\ta.One", ?_, by decide +kernel⟩
  · rw [output_run_lone rfl htab]
    decide +kernel
  · rw [output_run_lone rfl hbreak]
    decide +kernel

end Separators

end Counterpart
