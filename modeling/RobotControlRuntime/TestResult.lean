import RobotControlRuntime.ApplicationModel

-- What a test run leaves behind, and when it may be written to files. Strings are
-- sequences of bytes; `R` stands for the doubles of the measurements.
namespace RobotControlRuntime

inductive ErrorCode where
  | ok | invalidArgument | notOpen | ioError | timeout | wouldBlock | busy | rejected | unsupported
  | unlisted (raw : {raw : Int // raw < 0 ∨ 8 < raw})
  deriving DecidableEq, Repr

def ErrorCode.toText : ErrorCode → List UInt8
  | .ok => text "OK"
  | .invalidArgument => text "INVALID_ARGUMENT"
  | .notOpen => text "NOT_OPEN"
  | .ioError => text "IO_ERROR"
  | .timeout => text "TIMEOUT"
  | .wouldBlock => text "WOULD_BLOCK"
  | .busy => text "BUSY"
  | .rejected => text "REJECTED"
  | .unsupported => text "UNSUPPORTED"
  | .unlisted _ => text "UNKNOWN"

structure ErrorValue where
  code : ErrorCode := .ok
  message : List UInt8 := []
  deriving DecidableEq, Repr

-- A Result: there is always a value, and it counts when the error is Ok.
structure CallResult (α : Type) where
  value : α
  error : ErrorValue := {}
  deriving DecidableEq, Repr

def CallResult.ok (result : CallResult α) : Bool := result.error.code == .ok

inductive TestOutcome where
  | passed | failed | error | aborted | skipped
  | unlisted (raw : Fin 251)
  deriving DecidableEq, Repr

def TestOutcome.toText : TestOutcome → List UInt8
  | .passed => text "PASS"
  | .failed => text "FAIL"
  | .error => text "ERROR"
  | .aborted => text "ABORTED"
  | .skipped => text "SKIPPED"
  | .unlisted _ => text "UNKNOWN"

inductive CleanupStatus where
  | notRun | passed | failed
  | unlisted (raw : Fin 253)
  deriving DecidableEq, Repr

def CleanupStatus.toText : CleanupStatus → List UInt8
  | .notRun => text "NOT_RUN"
  | .passed => text "PASSED"
  | .failed => text "FAILED"
  | .unlisted _ => text "UNKNOWN"

inductive MeasurementQuality where
  | valid | simulated | invalid
  | unlisted (raw : Fin 253)
  deriving DecidableEq, Repr

def MeasurementQuality.toText : MeasurementQuality → List UInt8
  | .valid => text "VALID"
  | .simulated => text "SIMULATED"
  | .invalid => text "INVALID"
  | .unlisted _ => text "UNKNOWN"

structure Measurement (R : Type) where
  name : List UInt8 := []
  unit : List UInt8 := []
  value : R
  monotonicNs : Int := 0
  quality : MeasurementQuality := .valid
  deriving DecidableEq

structure CriterionResult where
  name : List UInt8 := []
  passed : Bool := false
  expected : List UInt8 := []
  actual : List UInt8 := []
  deriving DecidableEq, Repr

structure TestEvaluation where
  passed : Bool := false
  summary : List UInt8 := []
  criteria : List CriterionResult := []
  deriving DecidableEq, Repr

structure TestParameter where
  name : List UInt8 := []
  value : List UInt8 := []
  deriving DecidableEq, Repr

structure TestRunEnvironment where
  backend : List UInt8 := []
  interfaceName : List UInt8 := []
  dutId : List UInt8 := []
  profile : List UInt8 := []
  evidence : EvidenceClass := .unspecified
  deriving DecidableEq, Repr

structure TestRunProvenance where
  gitCommit : List UInt8 := text "unknown"
  gitDirty : Bool := true
  buildType : List UInt8 := text "unknown"
  deriving DecidableEq, Repr

structure TestResult (R : Type) where
  runId : List UInt8 := []
  caseId : List UInt8 := []
  caseName : List UInt8 := []
  caseVersion : List UInt8 := text "1"
  outcome : TestOutcome := .error
  startedNs : Int := 0
  finishedNs : Int := 0
  startedWallNs : Int := 0
  finishedWallNs : Int := 0
  measurements : List (Measurement R) := []
  criteria : List CriterionResult := []
  diagnostics : List DiagnosticEvent := []
  parameters : List TestParameter := []
  environment : TestRunEnvironment := {}
  provenance : TestRunProvenance := {}
  summary : List UInt8 := []
  reason : List UInt8 := []
  error : ErrorValue := {}
  cleanupStatus : CleanupStatus := .notRun
  cleanupError : ErrorValue := {}
  deriving DecidableEq

def isPortable (byte : UInt8) : Bool :=
  (0x30 ≤ byte && byte ≤ 0x39) || (0x41 ≤ byte && byte ≤ 0x5a) || (0x61 ≤ byte && byte ≤ 0x7a) || byte == 0x2e ||
    byte == 0x5f || byte == 0x2d

def isSafeRunId (runId : List UInt8) : Bool :=
  if runId.isEmpty || runId == text "." || runId == text ".." then false else runId.all isPortable

def validatePersistable (result : TestResult R) : CallResult Unit :=
  if !isSafeRunId result.runId then
    ⟨(),.invalidArgument,text "run_id must be a portable file stem: [A-Za-z0-9._-]+"⟩
  else if result.caseId.isEmpty || result.caseName.isEmpty then
    ⟨(),.invalidArgument,text "case id and case name must be non-empty"⟩
  else if result.outcome ≠ .failed ∧ result.outcome ≠ .error then ⟨(),{}⟩
  else if result.reason.isEmpty then ⟨(),.invalidArgument,text "FAIL/ERROR result must include a reason"⟩
  else if result.criteria.isEmpty || result.measurements.isEmpty || result.diagnostics.isEmpty then
    ⟨(),.invalidArgument,text "FAIL/ERROR result must include criteria, measurement and diagnostic evidence"⟩
  else ⟨(),{}⟩

structure Evidence (result : TestResult R) : Prop where
  reason : result.reason ≠ []
  criteria : result.criteria ≠ []
  measurements : result.measurements ≠ []
  diagnostics : result.diagnostics ≠ []

theorem validatePersistable_ok (result : TestResult R) : (validatePersistable result).ok = true ↔
    isSafeRunId result.runId = true ∧ result.caseId ≠ [] ∧ result.caseName ≠ [] ∧
      (result.outcome = .failed ∨ result.outcome = .error → Evidence result) := by
  unfold validatePersistable
  split
  · rename_i unsafeId
    simp only [Bool.not_eq_true'] at unsafeId
    simp [CallResult.ok,unsafeId]
  rename_i safe
  simp only [Bool.not_eq_true',Bool.not_eq_false] at safe
  split
  · rename_i unnamed
    simp only [Bool.or_eq_true,List.isEmpty_iff] at unnamed
    constructor
    · intro absurdity
      cases absurdity
    · rintro ⟨_,hasId,hasName,_⟩
      exact (unnamed.elim hasId hasName).elim
  rename_i named
  simp only [Bool.or_eq_true,List.isEmpty_iff,not_or] at named
  split
  · rename_i good
    refine ⟨fun _ => ⟨safe,named.1,named.2,fun bad => ?_⟩,fun _ => rfl⟩
    rcases bad with bad | bad
    · exact absurd bad good.1
    · exact absurd bad good.2
  rename_i bad
  have failed : result.outcome = .failed ∨ result.outcome = .error := by
    rwa [not_and_or,not_not,not_not] at bad
  split
  · rename_i unreasoned
    constructor
    · intro absurdity
      cases absurdity
    · rintro ⟨_,_,_,evidence⟩
      exact ((evidence failed).reason (List.isEmpty_iff.mp unreasoned)).elim
  rename_i reasoned
  split
  · rename_i missing
    simp only [Bool.or_eq_true,List.isEmpty_iff] at missing
    constructor
    · intro absurdity
      cases absurdity
    · rintro ⟨_,_,_,evidence⟩
      obtain ⟨_,criteria,measurements,diagnostics⟩ := evidence failed
      rcases missing with (missing | missing) | missing
      · exact absurd missing criteria
      · exact absurd missing measurements
      · exact absurd missing diagnostics
  · rename_i present
    simp only [Bool.or_eq_true,List.isEmpty_iff,not_or] at present
    refine ⟨fun _ => ⟨safe,named.1,named.2,fun _ => ⟨?_,present.1.1,present.1.2,present.2⟩⟩,fun _ => rfl⟩
    exact fun empty => reasoned (List.isEmpty_iff.mpr empty)

end RobotControlRuntime
