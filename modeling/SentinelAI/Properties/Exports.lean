import SentinelAI.Support.Csv
import SentinelAI.Properties.Summaries

/-!
# Properties — Exports

The technical report as CSV, for a spreadsheet or a ticket tracker.  The titles and the targets of
findings are texts that a tested application has a hand in; read by `csv.reader`, the export has
the header and, whatever these texts are, one row for each finding of the period
(`technical_csv_reads`): no text makes a row, or moves a field to another column.  A text over the
limit of the reader makes it fail.
-/

namespace SentinelAI
open Support

variable (cfg : Config)

/-- The findings that a technical report lists. -/
def reportedFindings (db : Db) (since until' : Option Time) (projectId : Int) : List Finding :=
  orderDesc (·.createdAt) ((of db.findings projectId).filter fun f =>
    inPeriod since until' f.createdAt)

/-- The columns of the export. -/
def exportHead : List Str :=
  ["id", "test_id", "title", "category", "severity", "status", "affected_target", "created_at",
    "updated_at", "expected_fix", "confidence"]

/-- The row of a finding: its texts scrubbed, each in its column. -/
def exportRow (f : Finding) : List Str :=
  let remediation := (REMEDIATION.lookup f.category).getD .DEFAULT
  [strInt f.id, scrubText cfg f.testId, scrubText cfg f.title, scrubText cfg f.category,
    scrubText cfg f.severity.value, scrubText cfg f.status.value, scrubText cfg f.affectedTarget,
    isoformat f.createdAt, isoformat f.updatedAt, scrubText cfg remediation.expectedFix,
    scrubText cfg remediation.confidence]

/-! ### The writer of the report -/

theorem csvField_eq (s : Str) : csvField s = Csv.writeField Csv.excel s := by
  have special : ∀ c : Char,
      decide (c ∈ (",\"\r\n" : String).toList) = Csv.special Csv.excel c := by
    intro c
    rw [Bool.eq_iff_iff, decide_eq_true_iff]
    simp [Csv.special, Csv.excel]
    tauto
  have twice : ∀ c : Char,
      (if c = '"' then ['"', '"'] else [c]) = if c = Csv.excel.quote then [c, c] else [c] := by
    intro c
    split
    · rename_i h
      rw [h]
      rfl
    · rename_i h
      exact (if_neg h).symm
  unfold csvField Csv.writeField Csv.quoted Csv.doubled
  simp only [special, twice]
  rfl

/-- A row is written as `csv.writer` does, but for a row of one empty field. -/
theorem csvRow_eq {fields : List Str} (h : fields ≠ [[]]) :
    csvRow fields = Csv.writeRow Csv.excel fields := by
  rw [csvRow, Csv.writeRow, if_neg h, List.map_congr_left fun s _ => csvField_eq s]
  rfl

/-- The fields of a finding of the scrubbed report. -/
theorem fields_of_reportedFinding (project : Option Project) (f : Finding) :
    let d := scrub cfg none (reportedFindingToDict project f)
    [fmt cfg (d.get "id"), fmt cfg (d.get "test_id"), fmt cfg (d.get "title"),
      fmt cfg (d.get "category"), fmt cfg (d.get "severity"), fmt cfg (d.get "status"),
      fmt cfg (d.get "affected_target"), ts cfg (d.get "created_at"), ts cfg (d.get "updated_at"),
      fmt cfg ((d.get "remediation").get "expected_fix"),
      fmt cfg ((d.get "remediation").get "confidence")] = exportRow cfg f := by
  simp only [get_scrub]
  rfl

theorem elems_findings (db : Db) (since until' : Option Time) (projectId : Int) (now : Time) :
    ((buildTechnicalReport cfg db since until' projectId now).get "findings").elems =
      (reportedFindings db since until' projectId).map fun f =>
        scrub cfg none (reportedFindingToDict (db.projects.find? projectId) f) := by
  have findings : (technicalReport cfg (reportRows db projectId) since until' now).get "findings" =
      .arr ((reportedFindings db since until' projectId).map
        (reportedFindingToDict (db.projects.find? projectId))) := rfl
  rw [buildTechnicalReport, get_scrub, findings, scrub_arr, Json.elems, List.map_map]
  rfl

theorem technicalCsv_eq (db : Db) (since until' : Option Time) (projectId : Int) (now : Time) :
    technicalCsv cfg (buildTechnicalReport cfg db since until' projectId now) =
      Csv.writeRows Csv.excel
        (exportHead :: (reportedFindings db since until' projectId).map (exportRow cfg)) := by
  unfold technicalCsv
  simp only [elems_findings, fields_of_reportedFinding, List.flatMap_map]
  rw [Csv.writeRows, List.flatMap_cons, List.flatMap_map, csvRow_eq (by decide)]
  congr 1
  refine List.flatMap_congr fun f _ => csvRow_eq ?_
  simp [exportRow]

/-- The header is within the limit. -/
theorem fits_exportHead : Csv.Fits Csv.fieldSizeLimit exportHead := by decide

/-- **Export.**  Whatever the texts of the findings are, the CSV of the technical report is read
back as its header and one row for each finding of the period, newest first, with every text in its
column; but where a text is over the limit of the reader, that fails. -/
theorem technical_csv_reads (tick : Tick) (project : Project) (db : Db)
    (since until' : Option Time) :
    ∃ body, getTechnicalReport cfg tick project db since until' "csv" =
        .ok (plainText "text/csv" body) ∧
      Csv.read Csv.excel Csv.fieldSizeLimit body =
        if ∀ f ∈ reportedFindings db since until' project.id,
          Csv.Fits Csv.fieldSizeLimit (exportRow cfg f)
        then some (exportHead :: (reportedFindings db since until' project.id).map (exportRow cfg))
        else none := by
  refine ⟨_, ?_, (Csv.read_writeRows _).trans (if_congr ?_ rfl rfl)⟩
  · rw [← technicalCsv_eq cfg db since until' project.id tick.now]
    rfl
  · rw [List.forall_mem_cons, and_iff_right fits_exportHead, List.forall_mem_map]

end SentinelAI
