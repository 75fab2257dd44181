import Mathlib.Data.List.TakeWhile
import RobotControlRuntime.Library.Json
import RobotControlRuntime.ResultCsv

-- The JSON file of a test result. How a double is printed is left open.
namespace RobotControlRuntime.ResultWriter

def appendIndent (depth : Nat) : List UInt8 := List.replicate (depth * 2) 0x20

def escapedUnit (byte : UInt8) : List UInt8 :=
  text "\\u" ++ List.leftpad 4 0x30 ((Nat.toDigits 16 byte.toNat).map fun digit => UInt8.ofNat digit.toNat)

def escapedByte (byte : UInt8) : List UInt8 :=
  if byte = 0x22 then text "\\\""
  else if byte = 0x5c then text "\\\\"
  else if byte = 0x08 then text "\\b"
  else if byte = 0x0c then text "\\f"
  else if byte = 0x0a then text "\\n"
  else if byte = 0x0d then text "\\r"
  else if byte = 0x09 then text "\\t"
  else if byte < 0x20 then escapedUnit byte
  else [byte]

def appendEscaped (value : List UInt8) : List UInt8 := 0x22 :: (value.flatMap escapedByte ++ [0x22])

-- `first` is the flag the fields of one object share.
def appendKey (depth : Nat) (first : Bool) (key : List UInt8) : List UInt8 :=
  (if first then [] else text ",\n") ++ (appendIndent depth ++ (appendEscaped key ++ text ": "))

abbrev Line := List UInt8 × List UInt8

def stringField (key value : List UInt8) : Line := (key,appendEscaped value)

def intField (key : List UInt8) (value : Int) : Line := (key,decimal value)

def boolField (key : List UInt8) (value : Bool) : Line := (key,if value then text "true" else text "false")

def appendFields (depth : Nat) : Bool → List Line → List UInt8
  | _,[] => []
  | first,(key,value) :: rest => appendKey depth first key ++ (value ++ appendFields depth false rest)

def appendObject (depth : Nat) (lines : List Line) : List UInt8 :=
  text "\x7b\n" ++ (appendFields (depth + 1) true lines ++ (text "\n" ++ (appendIndent depth ++ text "\x7d")))

def appendItems : List (List Line) → List UInt8
  | [] => []
  | item :: rest =>
    appendIndent 2 ++ (text "\x7b\n" ++ (appendFields 3 true item ++ (text "\n" ++ (appendIndent 2 ++
      ((if rest.isEmpty then text "\x7d" else text "\x7d,") ++ (text "\n" ++ appendItems rest))))))

def appendArray (items : List (List Line)) : List UInt8 :=
  text "[\n" ++ (appendItems items ++ (appendIndent 1 ++ text "]"))

def parameterLines (parameter : TestParameter) : List Line := [
  stringField (text "name") parameter.name,
  stringField (text "value") parameter.value]

def criterionLines (criterion : CriterionResult) : List Line := [
  stringField (text "name") criterion.name,
  boolField (text "passed") criterion.passed,
  stringField (text "expected") criterion.expected,
  stringField (text "actual") criterion.actual]

def diagnosticLines (event : DiagnosticEvent) : List Line := [
  intField (text "observed_monotonic_ns") event.observedMonotonicNs,
  stringField (text "source") event.source.toText,
  stringField (text "severity") event.severity.toText,
  stringField (text "code") event.code,
  stringField (text "message") event.message,
  stringField (text "device_id") event.deviceId,
  stringField (text "run_id") event.runId,
  stringField (text "context") event.context]

section Result
variable {R : Type} (appendNumber : R → List UInt8)

def measurementLines (measurement : Measurement R) : List Line := [
  stringField (text "name") measurement.name,
  stringField (text "unit") measurement.unit,
  (text "value",appendNumber measurement.value),
  intField (text "monotonic_ns") measurement.monotonicNs,
  stringField (text "quality") measurement.quality.toText]

def resultLines (result : TestResult R) : List Line := [
  stringField (text "schema") kResultSchemaId,
  stringField (text "run_id") result.runId,
  (text "case",appendObject 1 [
    stringField (text "id") result.caseId,
    stringField (text "name") result.caseName,
    stringField (text "version") result.caseVersion]),
  stringField (text "outcome") result.outcome.toText,
  stringField (text "reason") result.reason,
  stringField (text "summary") result.summary,
  (text "time",appendObject 1 [
    intField (text "started_monotonic_ns") result.startedNs,
    intField (text "finished_monotonic_ns") result.finishedNs,
    intField (text "started_wall_ns") result.startedWallNs,
    intField (text "finished_wall_ns") result.finishedWallNs]),
  (text "provenance",appendObject 1 [
    stringField (text "git_commit") result.provenance.gitCommit,
    boolField (text "git_dirty") result.provenance.gitDirty,
    stringField (text "build_type") result.provenance.buildType]),
  (text "environment",appendObject 1 [
    stringField (text "backend") result.environment.backend,
    stringField (text "interface") result.environment.interfaceName,
    stringField (text "dut_id") result.environment.dutId,
    stringField (text "profile") result.environment.profile,
    stringField (text "evidence") result.environment.evidence.toText]),
  (text "parameters",appendArray (result.parameters.map parameterLines)),
  (text "error",appendObject 1 [
    stringField (text "code") result.error.code.toText,
    stringField (text "message") result.error.message]),
  (text "cleanup",appendObject 1 [
    stringField (text "status") result.cleanupStatus.toText,
    stringField (text "error_code") result.cleanupError.code.toText,
    stringField (text "error_message") result.cleanupError.message]),
  (text "criteria",appendArray (result.criteria.map criterionLines)),
  (text "measurements",appendArray (result.measurements.map (measurementLines appendNumber))),
  (text "diagnostics",appendArray (result.diagnostics.map diagnosticLines))]

def serializeResultJson (result : TestResult R) : List UInt8 :=
  text "\x7b\n" ++ (appendFields 1 true (resultLines appendNumber result) ++ text "\n\x7d\n")

end Result

section Escapes
open Json

theorem escapedUnit_digits : ∀ value < 32, escapedUnit (UInt8.ofNat value) =
    [0x5c,0x75,0x30,0x30,(escapedUnit (UInt8.ofNat value)).getD 4 0,(escapedUnit (UInt8.ofNat value)).getD 5 0] ∧
    (codeUnit 0x30 0x30 ((escapedUnit (UInt8.ofNat value)).getD 4 0) ((escapedUnit (UInt8.ofNat value)).getD 5 0)).bind
      encodeUnit = some [UInt8.ofNat value] := by
  decide +kernel

theorem escapedByte_quotes (byte : UInt8) (quotes : Quotes bytes spelled) :
    Quotes (byte :: bytes) (escapedByte byte ++ spelled) := by
  unfold escapedByte
  split
  · subst byte
    exact quotes_escape (by decide) rfl quotes
  rename_i quote
  split
  · subst byte
    exact quotes_escape (by decide) rfl quotes
  rename_i backslash
  iterate 5
    split
    · subst byte
      exact quotes_escape (by decide) rfl quotes
  split
  · rename_i control
    obtain ⟨digits,stands⟩ := escapedUnit_digits byte.toNat (UInt8.lt_iff_toNat_lt.mp control)
    rw [UInt8.ofNat_toNat] at digits stands
    rw [digits]
    exact quotes_unit stands quotes
  · rename_i visible
    exact quotes_raw ⟨quote,backslash,visible⟩ quotes

theorem escaped_quotes (value : List UInt8) : Quotes value (value.flatMap escapedByte ++ [0x22]) := by
  induction value with
  | nil => exact quotes_end
  | cons byte rest ih =>
      rw [List.flatMap_cons,List.append_assoc]
      exact escapedByte_quotes byte ih

end Escapes

section Decimals
open Json
variable {value : Nat}

theorem decimalNat_small (small : value < 10) : decimalNat value = [UInt8.ofNat (Nat.digitChar value).toNat] := by
  rw [decimalNat,Nat.toDigits_of_lt_base small]
  rfl

theorem decimalNat_large (large : 10 ≤ value) :
    decimalNat value = decimalNat (value / 10) ++ [UInt8.ofNat (Nat.digitChar (value % 10)).toNat] := by
  rw [decimalNat,Nat.toDigits_of_base_le (by decide) large,List.map_append]
  rfl

theorem digit_spelled : ∀ digit < 10, isDigit (UInt8.ofNat (Nat.digitChar digit).toNat) = true ∧
    (digit ≠ 0 → UInt8.ofNat (Nat.digitChar digit).toNat ≠ 0x30) := by
  decide

theorem decimalNat_digits (value : Nat) : (decimalNat value).all isDigit = true := by
  induction value using Nat.strongRecOn with
  | ind value ih =>
      by_cases small : value < 10
      · rw [decimalNat_small small,List.all_cons,(digit_spelled value small).1]
        rfl
      · rw [decimalNat_large (by omega),List.all_append,ih (value / 10) (by omega),List.all_cons,
          (digit_spelled (value % 10) (by omega)).1]
        rfl

theorem decimalNat_leading (positive : value ≠ 0) : ∃ first rest, decimalNat value = first :: rest ∧ first ≠ 0x30 := by
  induction value using Nat.strongRecOn with
  | ind value ih =>
      by_cases small : value < 10
      · exact ⟨_,_,decimalNat_small small,(digit_spelled value small).2 positive⟩
      · obtain ⟨first,rest,spelled,leading⟩ := ih (value / 10) (by omega) (by omega)
        rw [decimalNat_large (by omega),spelled]
        exact ⟨first,_,List.cons_append,leading⟩

theorem decimalNat_whole (value : Nat) : isWhole (decimalNat value) = true := by
  by_cases zero : value = 0
  · subst zero
    rfl
  · obtain ⟨first,rest,spelled,leading⟩ := decimalNat_leading zero
    rw [spelled]
    cases rest with
    | nil => rfl
    | cons next rest => exact bne_iff_ne.mpr leading

theorem decimalNat_unsigned (value : Nat) : isUnsigned (decimalNat value) = true := by
  have digits := List.all_eq_true.mp (decimalNat_digits value)
  rw [isUnsigned,List.takeWhile_eq_self_iff.mpr digits,List.dropWhile_eq_nil_iff.mpr digits,decimalNat_whole]
  rfl

theorem decimal_numeral (value : Int) : isNumeral (decimal value) = true := by
  have unsigned := decimalNat_unsigned value.natAbs
  unfold decimal
  split
  · exact unsigned
  · have digits := decimalNat_digits value.natAbs
    cases spelled : decimalNat value.natAbs with
    | nil =>
        rw [spelled] at unsigned
        cases unsigned
    | cons first rest =>
        rw [spelled,List.all_cons,Bool.and_eq_true] at digits
        have plain : first ≠ 0x2d := by
          rintro rfl
          cases digits.1
        rw [spelled] at unsigned
        rw [isNumeral,if_neg plain]
        exact unsigned

end Decimals

section Objects
open Json

theorem indent_blank (depth : Nat) : (appendIndent depth).all isBlank = true := by
  rw [List.all_eq_true]
  intro byte listed
  rw [List.eq_of_mem_replicate listed]
  rfl

def Spells (line : Line) (field : List UInt8 × Json) : Prop := line.1 = field.1 ∧ Reads field.2 line.2

theorem stringField_spells (key value : List UInt8) : Spells (stringField key value) (key,.string value) :=
  ⟨rfl,reads_string (escaped_quotes value)⟩

theorem intField_spells (key : List UInt8) (value : Int) : Spells (intField key value) (key,.number (decimal value)) :=
  ⟨rfl,reads_number (decimal_numeral value)⟩

theorem boolField_spells (key : List UInt8) (value : Bool) : Spells (boolField key value) (key,.bool value) := by
  refine ⟨rfl,?_⟩
  cases value with
  | true => exact reads_true
  | false => exact reads_false

def lineText (depth : Nat) (line : Line) : List UInt8 :=
  (0x0a :: appendIndent depth) ++ 0x22 :: ((line.1.flatMap escapedByte ++ [0x22]) ++ 0x3a :: ([0x20] ++ line.2))

theorem lineText_member (depth : Nat) (spells : Spells line field) : Member (lineText depth line) field := by
  obtain ⟨key,value⟩ := line
  obtain ⟨rfl,reads⟩ := spells
  exact .spelled (indent_blank depth) (escaped_quotes _) (reads_after rfl reads)

theorem appendKey_first (depth : Nat) (key value : List UInt8) :
    0x0a :: (appendKey depth true key ++ value) = lineText depth (key,value) := by
  simp only [appendKey,lineText,appendEscaped,if_true,List.nil_append,List.append_assoc,List.cons_append]
  rfl

theorem appendFields_later (depth : Nat) (line : Line) (rest : List Line) :
    appendFields depth false (line :: rest) = 0x2c :: 0x0a :: appendFields depth true (line :: rest) := rfl

theorem appendFields_joined (depth : Nat) (line : Line) (rest : List Line) :
    0x0a :: appendFields depth true (line :: rest) = joined ((line :: rest).map (lineText depth)) := by
  induction rest generalizing line with
  | nil =>
      rw [appendFields,appendFields,List.append_nil]
      exact appendKey_first depth line.1 line.2
  | cons next rest ih =>
      have first := appendKey_first depth line.1 line.2
      have split : joined ((line :: next :: rest).map (lineText depth)) =
        lineText depth line ++ 0x2c :: joined ((next :: rest).map (lineText depth)) := rfl
      rw [split,← ih next,← first,appendFields,appendFields_later,List.cons_append,List.append_assoc]

theorem appendObject_reads (depth : Nat) {lines : List Line} (some : lines ≠ [])
    (spells : List.Forall₂ Spells lines fields) : Reads (.object fields) (appendObject depth lines) := by
  obtain ⟨line,rest,rfl⟩ := List.exists_cons_of_ne_nil some
  have members : List.Forall₂ Member ((line :: rest).map (lineText (depth + 1))) fields :=
    List.forall₂_map_left_iff.mpr (spells.imp fun _ _ => lineText_member (depth + 1))
  have blank : (0x0a :: appendIndent depth).all isBlank = true := indent_blank depth
  have reads := reads_object blank members
  rw [← appendFields_joined] at reads
  exact reads

def itemText (item : List Line) : List UInt8 := (0x0a :: appendIndent 2) ++ appendObject 2 item

theorem appendItems_joined (items : List (List Line)) :
    0x0a :: appendItems items = joined (items.map itemText) ++ [0x0a] := by
  induction items with
  | nil => rfl
  | cons item rest ih =>
      cases rest with
      | nil =>
          simp only [appendItems,List.map_cons,List.map_nil,joined,itemText,appendObject,List.append_assoc,List.cons_append]
          rfl
      | cons next rest =>
          rw [appendItems,List.map_cons,List.map_cons,joined,← List.map_cons,List.append_assoc,List.cons_append,← ih]
          simp only [itemText,appendObject,List.append_assoc,List.cons_append]
          rfl

theorem appendArray_reads {items : List (List Line)}
    (reads : List.Forall₂ (fun item json => Reads json (appendObject 2 item)) items elements) :
    Reads (.array elements) (appendArray items) := by
  have front : (0x0a :: appendIndent 2).all isBlank = true := indent_blank 2
  have blank : (0x0a :: appendIndent 1).all isBlank = true := indent_blank 1
  have texts : List.Forall₂ (fun text json => Reads json text) (items.map itemText) elements :=
    List.forall₂_map_left_iff.mpr (reads.imp fun _ _ read => reads_after front read)
  have read := reads_array blank texts
  have spelled : joined (items.map itemText) ++ (0x0a :: appendIndent 1 ++ [0x5d]) =
      0x0a :: (appendItems items ++ (appendIndent 1 ++ text "]")) := by
    rw [← List.cons_append,appendItems_joined,List.append_assoc]
    rfl
  rw [spelled] at read
  exact read

end Objects

section Tree
open Json
variable {R : Type} (appendNumber : R → List UInt8)

def numberTree (token : List UInt8) : Json := if token = text "null" then .null else .number token

def parameterTree (parameter : TestParameter) : Json := .object [
  (text "name",.string parameter.name),
  (text "value",.string parameter.value)]

def criterionTree (criterion : CriterionResult) : Json := .object [
  (text "name",.string criterion.name),
  (text "passed",.bool criterion.passed),
  (text "expected",.string criterion.expected),
  (text "actual",.string criterion.actual)]

def measurementTree (measurement : Measurement R) : Json := .object [
  (text "name",.string measurement.name),
  (text "unit",.string measurement.unit),
  (text "value",numberTree (appendNumber measurement.value)),
  (text "monotonic_ns",.number (decimal measurement.monotonicNs)),
  (text "quality",.string measurement.quality.toText)]

def diagnosticTree (event : DiagnosticEvent) : Json := .object [
  (text "observed_monotonic_ns",.number (decimal event.observedMonotonicNs)),
  (text "source",.string event.source.toText),
  (text "severity",.string event.severity.toText),
  (text "code",.string event.code),
  (text "message",.string event.message),
  (text "device_id",.string event.deviceId),
  (text "run_id",.string event.runId),
  (text "context",.string event.context)]

def resultTree (result : TestResult R) : Json := .object [
  (text "schema",.string kResultSchemaId),
  (text "run_id",.string result.runId),
  (text "case",.object [
    (text "id",.string result.caseId),
    (text "name",.string result.caseName),
    (text "version",.string result.caseVersion)]),
  (text "outcome",.string result.outcome.toText),
  (text "reason",.string result.reason),
  (text "summary",.string result.summary),
  (text "time",.object [
    (text "started_monotonic_ns",.number (decimal result.startedNs)),
    (text "finished_monotonic_ns",.number (decimal result.finishedNs)),
    (text "started_wall_ns",.number (decimal result.startedWallNs)),
    (text "finished_wall_ns",.number (decimal result.finishedWallNs))]),
  (text "provenance",.object [
    (text "git_commit",.string result.provenance.gitCommit),
    (text "git_dirty",.bool result.provenance.gitDirty),
    (text "build_type",.string result.provenance.buildType)]),
  (text "environment",.object [
    (text "backend",.string result.environment.backend),
    (text "interface",.string result.environment.interfaceName),
    (text "dut_id",.string result.environment.dutId),
    (text "profile",.string result.environment.profile),
    (text "evidence",.string result.environment.evidence.toText)]),
  (text "parameters",.array (result.parameters.map parameterTree)),
  (text "error",.object [
    (text "code",.string result.error.code.toText),
    (text "message",.string result.error.message)]),
  (text "cleanup",.object [
    (text "status",.string result.cleanupStatus.toText),
    (text "error_code",.string result.cleanupError.code.toText),
    (text "error_message",.string result.cleanupError.message)]),
  (text "criteria",.array (result.criteria.map criterionTree)),
  (text "measurements",.array (result.measurements.map (measurementTree appendNumber))),
  (text "diagnostics",.array (result.diagnostics.map diagnosticTree))]

def NumberToken (token : List UInt8) : Prop := token = text "null" ∨ isNumeral token = true

theorem number_reads (printed : NumberToken token) : Reads (numberTree token) token := by
  unfold numberTree
  split
  · subst token
    exact reads_null
  · exact reads_number (printed.resolve_left ‹_›)

theorem elements_read {lines : α → List Line} {tree : α → Json} {items : List α}
    (reads : ∀ item ∈ items, Reads (tree item) (appendObject 2 (lines item))) :
    Reads (.array (items.map tree)) (appendArray (items.map lines)) := by
  refine appendArray_reads ?_
  rw [List.forall₂_map_left_iff,List.forall₂_map_right_iff,List.forall₂_same]
  exact reads

theorem parameter_reads (parameter : TestParameter) :
    Reads (parameterTree parameter) (appendObject 2 (parameterLines parameter)) := by
  refine appendObject_reads 2 (List.cons_ne_nil _ _) ?_
  exact .cons (stringField_spells _ _) (.cons (stringField_spells _ _) .nil)

theorem criterion_reads (criterion : CriterionResult) :
    Reads (criterionTree criterion) (appendObject 2 (criterionLines criterion)) := by
  refine appendObject_reads 2 (List.cons_ne_nil _ _) ?_
  exact .cons (stringField_spells _ _) (.cons (boolField_spells _ _) (.cons (stringField_spells _ _)
    (.cons (stringField_spells _ _) .nil)))

theorem measurement_reads (measurement : Measurement R) (printed : NumberToken (appendNumber measurement.value)) :
    Reads (measurementTree appendNumber measurement) (appendObject 2 (measurementLines appendNumber measurement)) := by
  refine appendObject_reads 2 (List.cons_ne_nil _ _) ?_
  exact .cons (stringField_spells _ _) (.cons (stringField_spells _ _) (.cons ⟨rfl,number_reads printed⟩
    (.cons (intField_spells _ _) (.cons (stringField_spells _ _) .nil))))

theorem diagnostic_reads (event : DiagnosticEvent) :
    Reads (diagnosticTree event) (appendObject 2 (diagnosticLines event)) := by
  refine appendObject_reads 2 (List.cons_ne_nil _ _) ?_
  simp only [diagnosticLines,List.forall₂_cons,stringField_spells,intField_spells,true_and,List.Forall₂.nil]

theorem group_spells (key : List UInt8) {lines : List Line} (some : lines ≠ [])
    (spells : List.Forall₂ Spells lines fields) : Spells (key,appendObject 1 lines) (key,.object fields) :=
  ⟨rfl,appendObject_reads 1 some spells⟩

theorem result_reads (result : TestResult R)
    (printed : ∀ measurement ∈ result.measurements, NumberToken (appendNumber measurement.value)) :
    Reads (resultTree appendNumber result) (appendObject 0 (resultLines appendNumber result)) := by
  have parameters := elements_read fun item (_ : item ∈ result.parameters) => parameter_reads item
  have criteria := elements_read fun item (_ : item ∈ result.criteria) => criterion_reads item
  have measurements := elements_read fun item listed => measurement_reads appendNumber item (printed item listed)
  have diagnostics := elements_read fun item (_ : item ∈ result.diagnostics) => diagnostic_reads item
  refine appendObject_reads 0 (List.cons_ne_nil _ _) ?_
  -- The groups are left over, in their order.
  simp only [resultLines,List.forall₂_cons,stringField_spells,true_and]
  refine ⟨?_,?_,?_,?_,⟨rfl,parameters⟩,?_,?_,⟨rfl,criteria⟩,⟨rfl,measurements⟩,⟨rfl,diagnostics⟩,.nil⟩
  all_goals
    refine group_spells _ (List.cons_ne_nil _ _) ?_
    simp only [List.forall₂_cons,stringField_spells,intField_spells,boolField_spells,true_and,List.Forall₂.nil]

theorem serializeResultJson_object (result : TestResult R) :
    serializeResultJson appendNumber result = appendObject 0 (resultLines appendNumber result) ++ [0x0a] := by
  simp only [serializeResultJson,appendObject,List.append_assoc]
  rfl

theorem serialized_reads_back (result : TestResult R)
    (printed : ∀ measurement ∈ result.measurements, NumberToken (appendNumber measurement.value)) :
    parse (serializeResultJson appendNumber result) = some (resultTree appendNumber result) := by
  rw [serializeResultJson_object]
  exact parse_reads (reads_before rfl (result_reads appendNumber result printed))

def hostileResult : TestResult Nat where
  runId := text "run-1"
  caseId := [0x22,0x2c,0x7d]
  reason := [0x5c,0x22,0x0a,0x00,0x1f,0xff]
  measurements := [{name := [0x08,0x0c,0x0d,0x09],value := 42}]
  parameters := [{name := [],value := text "x"},{name := text "y",value := [0x5d]}]

theorem serialized_hostile : (∀ measurement ∈ hostileResult.measurements, NumberToken (decimalNat measurement.value)) ∧
    parse (serializeResultJson decimalNat hostileResult) = some (resultTree decimalNat hostileResult) := by
  have printed : ∀ measurement ∈ hostileResult.measurements, NumberToken (decimalNat measurement.value) := by
    intro measurement listed
    rw [List.mem_singleton.mp listed]
    exact .inr (by decide)
  exact ⟨printed,serialized_reads_back decimalNat hostileResult printed⟩

end Tree

end RobotControlRuntime.ResultWriter
