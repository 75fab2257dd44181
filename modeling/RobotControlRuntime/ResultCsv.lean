import RobotControlRuntime.TestResult
import RobotControlRuntime.Library.Csv

-- The CSV line of a test result.
namespace RobotControlRuntime.ResultWriter

def kResultSchemaId : List UInt8 := text "rcr.workbench.result.v1"

def failedCriteriaCount (result : TestResult R) : Nat := result.criteria.countP fun item => !item.passed

def needsQuote (byte : UInt8) : Bool := byte == 0x2c || byte == 0x22 || byte == 0x0a || byte == 0x0d

def appendCsvField (value : List UInt8) (last : Bool) : List UInt8 :=
  (if value.any needsQuote then
    0x22 :: (value.flatMap (fun byte => if byte = 0x22 then [0x22,0x22] else [byte]) ++ [0x22])
  else value) ++ if last then [] else [0x2c]

def appendCsvFields : List (List UInt8) → List UInt8
  | [] => []
  | [value] => appendCsvField value true
  | value :: rest => appendCsvField value false ++ appendCsvFields rest

def csvHeader : List UInt8 := text
  "schema,run_id,case_id,case_name,case_version,outcome,reason,evidence,backend,interface,dut_id,cleanup_status,error_code,started_monotonic_ns,finished_monotonic_ns,started_wall_ns,finished_wall_ns,git_commit,git_dirty,measurement_count,failed_criteria_count,diagnostic_count,summary\n"

def csvFields (result : TestResult R) : List (List UInt8) := [
  kResultSchemaId,
  result.runId,
  result.caseId,
  result.caseName,
  result.caseVersion,
  result.outcome.toText,
  result.reason,
  result.environment.evidence.toText,
  result.environment.backend,
  result.environment.interfaceName,
  result.environment.dutId,
  result.cleanupStatus.toText,
  result.error.code.toText,
  decimal result.startedNs,
  decimal result.finishedNs,
  decimal result.startedWallNs,
  decimal result.finishedWallNs,
  result.provenance.gitCommit,
  if result.provenance.gitDirty then text "true" else text "false",
  decimalNat result.measurements.length,
  decimalNat (failedCriteriaCount result),
  decimalNat result.diagnostics.length,
  result.summary]

def serializeResultCsv (result : TestResult R) : List UInt8 := csvHeader ++ (appendCsvFields (csvFields result) ++ text "\n")

def csvColumns (result : TestResult R) : List (List UInt8 × List UInt8) := [
  (text "schema",kResultSchemaId),
  (text "run_id",result.runId),
  (text "case_id",result.caseId),
  (text "case_name",result.caseName),
  (text "case_version",result.caseVersion),
  (text "outcome",result.outcome.toText),
  (text "reason",result.reason),
  (text "evidence",result.environment.evidence.toText),
  (text "backend",result.environment.backend),
  (text "interface",result.environment.interfaceName),
  (text "dut_id",result.environment.dutId),
  (text "cleanup_status",result.cleanupStatus.toText),
  (text "error_code",result.error.code.toText),
  (text "started_monotonic_ns",decimal result.startedNs),
  (text "finished_monotonic_ns",decimal result.finishedNs),
  (text "started_wall_ns",decimal result.startedWallNs),
  (text "finished_wall_ns",decimal result.finishedWallNs),
  (text "git_commit",result.provenance.gitCommit),
  (text "git_dirty",if result.provenance.gitDirty then text "true" else text "false"),
  (text "measurement_count",decimalNat result.measurements.length),
  (text "failed_criteria_count",decimalNat (failedCriteriaCount result)),
  (text "diagnostic_count",decimalNat result.diagnostics.length),
  (text "summary",result.summary)]

theorem doubled_escaped (value : List UInt8) :
    Csv.Escaped (value.flatMap fun byte => if byte = 0x22 then [0x22,0x22] else [byte]) value := by
  induction value with
  | nil => exact .nil
  | cons byte value ih =>
      rw [List.flatMap_cons]
      split
      · rename_i quote
        rw [quote]
        exact .quote ih
      · rename_i other
        exact .byte other ih

theorem printed_field (value : List UInt8) : Csv.Field (appendCsvField value true) value := by
  unfold appendCsvField
  rw [if_pos rfl,List.append_nil]
  split
  · exact .quoted (doubled_escaped value)
  · rename_i plain
    refine .plain fun byte present => ?_
    rw [List.any_eq_true] at plain
    exact Bool.eq_false_iff.mpr fun separator => plain ⟨byte,present,separator⟩

theorem separated_field (value : List UInt8) : appendCsvField value false = appendCsvField value true ++ [0x2c] := by
  simp [appendCsvField]

theorem printed_record (value : List UInt8) (values : List (List UInt8)) :
    Csv.Record (appendCsvFields (value :: values)) (value :: values) := by
  induction values generalizing value with
  | nil => exact .last (printed_field value)
  | cons second values ih =>
      rw [appendCsvFields,separated_field,List.append_assoc,List.singleton_append]
      · exact .more (printed_field value) (ih second)
      · nofun

theorem csv_header (result : TestResult R) :
    csvHeader = appendCsvFields ((csvColumns result).map Prod.fst) ++ text "\n" := by
  dsimp only [csvColumns,List.map]
  decide +kernel

theorem csv_columns (result : TestResult R) : csvFields result = (csvColumns result).map Prod.snd := rfl

theorem csv_file (result : TestResult R) :
    Csv.File (serializeResultCsv result) [(csvColumns result).map Prod.fst,(csvColumns result).map Prod.snd] := by
  have row : Csv.File (appendCsvFields (csvFields result) ++ text "\n") [csvFields result] := by
    rw [← List.append_nil (text "\n")]
    exact .more (printed_record _ _) .lf .empty
  unfold serializeResultCsv
  rw [csv_header result,List.append_assoc,← csv_columns]
  exact .more (printed_record _ _) .lf row

theorem csv_reads_back (result : TestResult R) :
    Csv.parse (serializeResultCsv result) = some [(csvColumns result).map Prod.fst,(csvColumns result).map Prod.snd] ∧
      (csvColumns result).length = 23 ∧
      ∀ records,Csv.File (serializeResultCsv result) records →
        records = [(csvColumns result).map Prod.fst,(csvColumns result).map Prod.snd] := by
  have reading := Csv.parse_file (csv_file result)
  refine ⟨reading,rfl,?_⟩
  intro records other
  exact Option.some.inj ((Csv.parse_file other).symm.trans reading)

end RobotControlRuntime.ResultWriter
