import RobotControlRuntime.Library.StepHistory
import RobotControlRuntime.TestResult

-- One call of TestRunner::run, operation by operation. What it reads from the
-- shared flags, the clocks and the callbacks is the input of each step.
namespace RobotControlRuntime
open StepHistory

-- A callback is here its presence; what a call of it does is an input.
structure TestCaseDefinition where
  id : List UInt8 := []
  name : List UInt8 := []
  version : List UInt8 := text "1"
  timeoutNs : Int := 0
  prepare : Bool := true
  execute : Bool := true
  evaluate : Bool := true
  cleanup : Bool := true
  deriving DecidableEq, Repr

def abortedError : ErrorValue := ⟨.rejected,text "test run cancelled"⟩
def timeoutError : ErrorValue := ⟨.timeout,text "test run deadline expired"⟩

def validate (runId : List UInt8) (testCase : TestCaseDefinition) : CallResult Unit :=
  if runId.isEmpty || testCase.id.isEmpty || testCase.name.isEmpty then
    ⟨(),.invalidArgument,text "run id, case id and case name must be non-empty"⟩
  else if testCase.timeoutNs ≤ 0 then ⟨(),.invalidArgument,text "test timeout must be positive"⟩
  else if !testCase.prepare || !testCase.execute || !testCase.evaluate || !testCase.cleanup then
    ⟨(),.invalidArgument,text "all test lifecycle callbacks are required"⟩
  else ⟨(),{}⟩

def sampleWallClock (destination : Int) (wall : CallResult Int) : Int := if wall.ok then wall.value else destination

inductive ContextCall (R : Type) where
  | addMeasurement (measurement : Measurement R)
  | addDiagnostic (event : DiagnosticEvent)
  | addParameter (name value : List UInt8)
  | setEnvironment (environment : TestRunEnvironment)

section Result
variable {R : Type}

namespace TestResult

def start (runId : List UInt8) (testCase : TestCaseDefinition) : TestResult R :=
  {runId := runId
   caseId := testCase.id
   caseName := testCase.name
   caseVersion := if testCase.version.isEmpty then text "1" else testCase.version}

def assignFailureReason (result : TestResult R) (fallback : List UInt8) : TestResult R :=
  if !result.reason.isEmpty then result
  else if !result.error.message.isEmpty then {result with reason := result.error.message}
  else if !result.summary.isEmpty then {result with reason := result.summary}
  else {result with reason := fallback}

def observedNs (result : TestResult R) : Int := if result.finishedNs ≠ 0 then result.finishedNs else result.startedNs

def sealMeasurements [Zero R] (result : TestResult R) : TestResult R :=
  if result.measurements.isEmpty then
    {result with measurements := [⟨text "lifecycle_samples",text "count",0,result.observedNs,.invalid⟩]}
  else result

def sealCriteria (result : TestResult R) : TestResult R :=
  if result.criteria.isEmpty then
    {result with criteria := [⟨text "evaluation completed",false,text "completed",result.reason⟩]}
  else result

def sealDiagnostics (result : TestResult R) : TestResult R :=
  if result.diagnostics.any (fun event => event.source == .test) then result
  else {result with diagnostics := result.diagnostics ++
    [{observedMonotonicNs := result.observedNs
      source := .test
      severity := .error
      code := if result.outcome = .failed then text "TEST_FAILED" else text "TEST_ERROR"
      message := result.reason
      deviceId := result.environment.dutId
      runId := result.runId}]}

def sealFailureEvidence [Zero R] (result : TestResult R) : TestResult R :=
  if result.outcome ≠ .failed ∧ result.outcome ≠ .error then
    if result.reason.isEmpty then {result with reason := result.summary} else result
  else (result.assignFailureReason result.outcome.toText).sealMeasurements.sealCriteria.sealDiagnostics

def setStepError (result : TestResult R) (error : ErrorValue) (summary : List UInt8) : TestResult R :=
  assignFailureReason {result with outcome := .error,error := error,summary := summary} summary

def abort (result : TestResult R) : TestResult R :=
  {result with outcome := .aborted,error := abortedError,summary := abortedError.message,reason := abortedError.message}

def judge (result : TestResult R) (evaluation : TestEvaluation) : TestResult R :=
  {result with
    criteria := evaluation.criteria
    summary := evaluation.summary
    outcome := if evaluation.passed then .passed else .failed
    reason := evaluation.summary}

def contextCall (result : TestResult R) : ContextCall R → TestResult R
  | .addMeasurement measurement => {result with measurements := result.measurements ++ [measurement]}
  | .addDiagnostic event => {result with diagnostics := result.diagnostics ++
      [if event.runId.isEmpty then {event with runId := result.runId} else event]}
  | .addParameter name value => {result with parameters := result.parameters ++ [⟨name,value⟩]}
  | .setEnvironment environment => {result with environment := environment}

def contextCalls (result : TestResult R) (calls : List (ContextCall R)) : TestResult R := calls.foldl contextCall result

def clean (result : TestResult R) (cleaned : CallResult Unit) : TestResult R :=
  if cleaned.ok then {result with cleanupStatus := .passed}
  else
    let result := {result with cleanupStatus := .failed,cleanupError := cleaned.error}
    if result.outcome = .passed then
      {result with
        outcome := .error
        error := cleaned.error
        summary := text "cleanup failed after a passing evaluation"
        reason :=
          if cleaned.error.message.isEmpty then text "cleanup failed after a passing evaluation" else cleaned.error.message}
    else result

def finish (result : TestResult R) (reading : CallResult Int) : TestResult R :=
  if reading.ok then {result with finishedNs := reading.value}
  else if result.outcome = .passed then
    assignFailureReason {result with
      outcome := .error,error := reading.error,summary := text "failed to sample test finish time"}
      (text "failed to sample test finish time")
  else result

-- An early return: the outcome is still the one of a new result.
def refuse [Zero R] (result : TestResult R) (error : ErrorValue) (summary : List UInt8) : TestResult R :=
  sealFailureEvidence {result with error := error,summary := summary}

end TestResult
end Result

inductive StopPhase where
  | prepared | executed | evaluated (evaluation : TestEvaluation)
  deriving DecidableEq, Repr

def StopPhase.timeoutSummary : StopPhase → List UInt8
  | .prepared => text "test timed out after prepare"
  | .executed => text "test timed out after execute"
  | .evaluated _ => text "test timed out during evaluation"

-- The operation that comes next. should_stop loads the cancel flag and reads the
-- clock; when it says stop, the flag is loaded once more for the verdict.
inductive RunPoint where
  | lock | loadRunning | refuse | clearCancel | resetStage | setRunning | unlock
  | validate | startClock | startWall
  | preparing | prepare | executing | execute | evaluating | evaluate
  | cancelCheck (phase : StopPhase) | deadlineCheck (phase : StopPhase) | verdict (phase : StopPhase)
  | cleaningUp | cleanup | finishClock | finishWall
  | completeStage | clearRunning | returned
  deriving DecidableEq, Repr

structure RunState (R : Type) where
  point : RunPoint := .lock
  result : TestResult R
  deadlineNs : Int := 0
  deriving DecidableEq

structure RunInputs (R : Type) where
  running : Bool := false
  cancelled : Bool := false
  clock : CallResult Int := ⟨0,{}⟩
  wall : CallResult Int := ⟨0,{}⟩
  calls : List (ContextCall R) := []
  step : CallResult Unit := ⟨(),{}⟩
  evaluation : CallResult TestEvaluation := ⟨{},{}⟩

section Run
variable {R : Type} [Zero R]

def RunState.start (runId : List UInt8) (testCase : TestCaseDefinition) : RunState R :=
  {result := TestResult.start runId testCase}

def runStep (testCase : TestCaseDefinition) (s : RunState R) (inputs : RunInputs R) : Option (RunState R) :=
  match s.point with
  | .lock => some {s with point := .loadRunning}
  | .loadRunning =>
    if inputs.running then
      some {s with
        point := .refuse
        result := s.result.refuse ⟨.busy,text "test runner already has an active run"⟩
          (text "test runner already has an active run")}
    else some {s with point := .clearCancel}
  | .refuse => some {s with point := .returned}
  | .clearCancel => some {s with point := .resetStage}
  | .resetStage => some {s with point := .setRunning}
  | .setRunning => some {s with point := .unlock}
  | .unlock => some {s with point := .validate}
  | .validate =>
    let validation := RobotControlRuntime.validate s.result.runId testCase
    if validation.ok then some {s with point := .startClock}
    else some {s with point := .completeStage,result := s.result.refuse validation.error validation.error.message}
  | .startClock =>
    if inputs.clock.ok then some {s with point := .startWall,result := {s.result with startedNs := inputs.clock.value}}
    else some {s with
      point := .completeStage,result := s.result.refuse inputs.clock.error (text "failed to sample test start time")}
  | .startWall =>
    let result := {s.result with startedWallNs := sampleWallClock s.result.startedWallNs inputs.wall}
    if int64Max - testCase.timeoutNs < result.startedNs then
      some {s with
        point := .completeStage
        result := result.refuse ⟨.invalidArgument,text "test deadline overflows int64"⟩ (text "test deadline overflows int64")}
    else some {point := .preparing,result := result,deadlineNs := result.startedNs + testCase.timeoutNs}
  | .preparing => some {s with point := .prepare}
  | .prepare =>
    let result := s.result.contextCalls inputs.calls
    if inputs.step.ok then some {s with point := .cancelCheck .prepared,result := result}
    else some {s with point := .cleaningUp,result := result.setStepError inputs.step.error (text "prepare failed")}
  | .executing => some {s with point := .execute}
  | .execute =>
    let result := s.result.contextCalls inputs.calls
    if inputs.step.ok then some {s with point := .cancelCheck .executed,result := result}
    else some {s with point := .cleaningUp,result := result.setStepError inputs.step.error (text "execute failed")}
  | .evaluating => some {s with point := .evaluate}
  | .evaluate =>
    let result := s.result.contextCalls inputs.calls
    if inputs.evaluation.ok then some {s with point := .cancelCheck (.evaluated inputs.evaluation.value),result := result}
    else some {s with
      point := .cleaningUp,result := result.setStepError inputs.evaluation.error (text "evaluation failed")}
  | .cancelCheck phase => some {s with point := if inputs.cancelled then .verdict phase else .deadlineCheck phase}
  | .deadlineCheck phase =>
    if inputs.clock.ok then
      if s.deadlineNs ≤ inputs.clock.value then some {s with point := .verdict phase}
      else match phase with
        | .prepared => some {s with point := .executing}
        | .executed => some {s with point := .evaluating}
        | .evaluated evaluation => some {s with point := .cleaningUp,result := s.result.judge evaluation}
    else some {s with
      point := .cleaningUp,result := s.result.setStepError inputs.clock.error (text "failed to check test deadline")}
  | .verdict phase =>
    if inputs.cancelled then some {s with point := .cleaningUp,result := s.result.abort}
    else some {s with point := .cleaningUp,result := s.result.setStepError timeoutError phase.timeoutSummary}
  | .cleaningUp => some {s with point := .cleanup}
  | .cleanup => some {s with point := .finishClock,result := (s.result.contextCalls inputs.calls).clean inputs.step}
  | .finishClock => some {s with point := .finishWall,result := s.result.finish inputs.clock}
  | .finishWall =>
    let result := {s.result with finishedWallNs := sampleWallClock s.result.finishedWallNs inputs.wall}
    some {s with point := .completeStage,result := result.sealFailureEvidence}
  | .completeStage => some {s with point := .clearRunning}
  | .clearRunning => some {s with point := .returned}
  | .returned => none

def RunPoint.follows : RunPoint → Option RunPoint
  | .lock => some .loadRunning
  | .refuse => some .returned
  | .clearCancel => some .resetStage
  | .resetStage => some .setRunning
  | .setRunning => some .unlock
  | .unlock => some .validate
  | .preparing => some .prepare
  | .executing => some .execute
  | .evaluating => some .evaluate
  | .cleaningUp => some .cleanup
  | .completeStage => some .clearRunning
  | .clearRunning => some .returned
  | _ => none

inductive RunSteps (testCase : TestCaseDefinition) (inputs : RunInputs R) : RunState R → RunState R → Prop where
  | moves {point target : RunPoint} {result : TestResult R} {deadlineNs : Int} : point.follows = some target →
      RunSteps testCase inputs ⟨point,result,deadlineNs⟩ ⟨target,result,deadlineNs⟩
  | busy : inputs.running = true → RunSteps testCase inputs ⟨.loadRunning,result,deadlineNs⟩
      ⟨.refuse,result.refuse ⟨.busy,text "test runner already has an active run"⟩
        (text "test runner already has an active run"),deadlineNs⟩
  | admitted : inputs.running = false →
      RunSteps testCase inputs ⟨.loadRunning,result,deadlineNs⟩ ⟨.clearCancel,result,deadlineNs⟩
  | valid : (RobotControlRuntime.validate result.runId testCase).ok = true →
      RunSteps testCase inputs ⟨.validate,result,deadlineNs⟩ ⟨.startClock,result,deadlineNs⟩
  | invalid : (RobotControlRuntime.validate result.runId testCase).ok = false →
      RunSteps testCase inputs ⟨.validate,result,deadlineNs⟩ ⟨.completeStage,
        result.refuse (RobotControlRuntime.validate result.runId testCase).error
          (RobotControlRuntime.validate result.runId testCase).error.message,deadlineNs⟩
  | clockRead : inputs.clock.ok = true → RunSteps testCase inputs ⟨.startClock,result,deadlineNs⟩
      ⟨.startWall,{result with startedNs := inputs.clock.value},deadlineNs⟩
  | clockFailed : inputs.clock.ok = false → RunSteps testCase inputs ⟨.startClock,result,deadlineNs⟩
      ⟨.completeStage,result.refuse inputs.clock.error (text "failed to sample test start time"),deadlineNs⟩
  | deadlineSet : result.startedNs ≤ int64Max - testCase.timeoutNs →
      RunSteps testCase inputs ⟨.startWall,result,deadlineNs⟩
        ⟨.preparing,{result with startedWallNs := sampleWallClock result.startedWallNs inputs.wall},
          result.startedNs + testCase.timeoutNs⟩
  | deadlineOverflows : int64Max - testCase.timeoutNs < result.startedNs →
      RunSteps testCase inputs ⟨.startWall,result,deadlineNs⟩ ⟨.completeStage,
        TestResult.refuse {result with startedWallNs := sampleWallClock result.startedWallNs inputs.wall}
          ⟨.invalidArgument,text "test deadline overflows int64"⟩ (text "test deadline overflows int64"),deadlineNs⟩
  | prepared : inputs.step.ok = true → RunSteps testCase inputs ⟨.prepare,result,deadlineNs⟩
      ⟨.cancelCheck .prepared,result.contextCalls inputs.calls,deadlineNs⟩
  | prepareFailed : inputs.step.ok = false → RunSteps testCase inputs ⟨.prepare,result,deadlineNs⟩
      ⟨.cleaningUp,(result.contextCalls inputs.calls).setStepError inputs.step.error (text "prepare failed"),deadlineNs⟩
  | executed : inputs.step.ok = true → RunSteps testCase inputs ⟨.execute,result,deadlineNs⟩
      ⟨.cancelCheck .executed,result.contextCalls inputs.calls,deadlineNs⟩
  | executeFailed : inputs.step.ok = false → RunSteps testCase inputs ⟨.execute,result,deadlineNs⟩
      ⟨.cleaningUp,(result.contextCalls inputs.calls).setStepError inputs.step.error (text "execute failed"),deadlineNs⟩
  | evaluated : inputs.evaluation.ok = true → RunSteps testCase inputs ⟨.evaluate,result,deadlineNs⟩
      ⟨.cancelCheck (.evaluated inputs.evaluation.value),result.contextCalls inputs.calls,deadlineNs⟩
  | evaluationFailed : inputs.evaluation.ok = false → RunSteps testCase inputs ⟨.evaluate,result,deadlineNs⟩
      ⟨.cleaningUp,(result.contextCalls inputs.calls).setStepError inputs.evaluation.error (text "evaluation failed"),deadlineNs⟩
  | cancelSeen {phase : StopPhase} {result : TestResult R} {deadlineNs : Int} : inputs.cancelled = true →
      RunSteps testCase inputs ⟨.cancelCheck phase,result,deadlineNs⟩ ⟨.verdict phase,result,deadlineNs⟩
  | uncancelled {phase : StopPhase} {result : TestResult R} {deadlineNs : Int} : inputs.cancelled = false →
      RunSteps testCase inputs ⟨.cancelCheck phase,result,deadlineNs⟩ ⟨.deadlineCheck phase,result,deadlineNs⟩
  | late {phase : StopPhase} {result : TestResult R} {deadlineNs : Int} : inputs.clock.ok = true →
      deadlineNs ≤ inputs.clock.value →
      RunSteps testCase inputs ⟨.deadlineCheck phase,result,deadlineNs⟩ ⟨.verdict phase,result,deadlineNs⟩
  | unread {phase : StopPhase} {result : TestResult R} {deadlineNs : Int} : inputs.clock.ok = false →
      RunSteps testCase inputs ⟨.deadlineCheck phase,result,deadlineNs⟩
        ⟨.cleaningUp,result.setStepError inputs.clock.error (text "failed to check test deadline"),deadlineNs⟩
  | executes : inputs.clock.ok = true → inputs.clock.value < deadlineNs →
      RunSteps testCase inputs ⟨.deadlineCheck .prepared,result,deadlineNs⟩ ⟨.executing,result,deadlineNs⟩
  | evaluates : inputs.clock.ok = true → inputs.clock.value < deadlineNs →
      RunSteps testCase inputs ⟨.deadlineCheck .executed,result,deadlineNs⟩ ⟨.evaluating,result,deadlineNs⟩
  | judges : inputs.clock.ok = true → inputs.clock.value < deadlineNs →
      RunSteps testCase inputs ⟨.deadlineCheck (.evaluated evaluation),result,deadlineNs⟩
        ⟨.cleaningUp,result.judge evaluation,deadlineNs⟩
  | aborts : inputs.cancelled = true →
      RunSteps testCase inputs ⟨.verdict phase,result,deadlineNs⟩ ⟨.cleaningUp,result.abort,deadlineNs⟩
  | timesOut : inputs.cancelled = false → RunSteps testCase inputs ⟨.verdict phase,result,deadlineNs⟩
      ⟨.cleaningUp,result.setStepError timeoutError phase.timeoutSummary,deadlineNs⟩
  | cleans {result : TestResult R} {deadlineNs : Int} : RunSteps testCase inputs ⟨.cleanup,result,deadlineNs⟩
      ⟨.finishClock,(result.contextCalls inputs.calls).clean inputs.step,deadlineNs⟩
  | finishes {result : TestResult R} {deadlineNs : Int} : RunSteps testCase inputs ⟨.finishClock,result,deadlineNs⟩
      ⟨.finishWall,result.finish inputs.clock,deadlineNs⟩
  | seals : RunSteps testCase inputs ⟨.finishWall,result,deadlineNs⟩ ⟨.completeStage,
      TestResult.sealFailureEvidence
        {result with finishedWallNs := sampleWallClock result.finishedWallNs inputs.wall},deadlineNs⟩

theorem runStep_steps {testCase : TestCaseDefinition} {s next : RunState R} {inputs : RunInputs R}
    (taken : runStep testCase s inputs = some next) : RunSteps testCase inputs s next := by
  obtain ⟨point,result,deadlineNs⟩ := s
  unfold runStep at taken
  cases point with
  | loadRunning =>
      dsimp only at taken
      split at taken <;> cases taken
      · exact .busy ‹_›
      · exact .admitted (Bool.eq_false_iff.mpr ‹_›)
  | validate =>
      dsimp only at taken
      split at taken <;> cases taken
      · exact .valid ‹_›
      · exact .invalid (Bool.eq_false_iff.mpr ‹_›)
  | startClock =>
      dsimp only at taken
      split at taken <;> cases taken
      · exact .clockRead ‹_›
      · exact .clockFailed (Bool.eq_false_iff.mpr ‹_›)
  | startWall =>
      dsimp only at taken
      split at taken <;> cases taken
      · exact .deadlineOverflows ‹_›
      · exact .deadlineSet (Int.not_lt.mp ‹_›)
  | prepare =>
      dsimp only at taken
      split at taken <;> cases taken
      · exact .prepared ‹_›
      · exact .prepareFailed (Bool.eq_false_iff.mpr ‹_›)
  | execute =>
      dsimp only at taken
      split at taken <;> cases taken
      · exact .executed ‹_›
      · exact .executeFailed (Bool.eq_false_iff.mpr ‹_›)
  | evaluate =>
      dsimp only at taken
      split at taken <;> cases taken
      · exact .evaluated ‹_›
      · exact .evaluationFailed (Bool.eq_false_iff.mpr ‹_›)
  | cancelCheck phase =>
      cases taken
      cases cancelled : inputs.cancelled with
      | true => exact .cancelSeen cancelled
      | false => exact .uncancelled cancelled
  | deadlineCheck phase =>
      dsimp only at taken
      split at taken
      · rename_i read
        split at taken
        · cases taken
          exact .late read ‹_›
        · rename_i early
          cases phase with
          | prepared =>
              cases taken
              exact .executes read (Int.not_le.mp early)
          | executed =>
              cases taken
              exact .evaluates read (Int.not_le.mp early)
          | evaluated evaluation =>
              cases taken
              exact .judges read (Int.not_le.mp early)
      · cases taken
        exact .unread (Bool.eq_false_iff.mpr ‹_›)
  | verdict phase =>
      dsimp only at taken
      split at taken <;> cases taken
      · exact .aborts ‹_›
      · exact .timesOut (Bool.eq_false_iff.mpr ‹_›)
  | cleanup =>
      cases taken
      exact .cleans
  | finishClock =>
      cases taken
      exact .finishes
  | finishWall =>
      cases taken
      exact .seals
  | returned => cases taken
  | _ =>
      cases taken
      exact .moves rfl

end Run

end RobotControlRuntime
