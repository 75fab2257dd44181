import RobotControlRuntime.TestLifecycle

-- Every run leaves a result that may be written.
namespace RobotControlRuntime
open StepHistory

section Evidence
variable {R : Type}

def TestResult.identity (result : TestResult R) : List UInt8 × List UInt8 × List UInt8 :=
  (result.runId,result.caseId,result.caseName)

theorem assignFailureReason_identity (result : TestResult R) (fallback : List UInt8) :
    (result.assignFailureReason fallback).identity = result.identity := by
  unfold TestResult.assignFailureReason
  split
  · rfl
  split
  · rfl
  split <;> rfl

theorem setStepError_identity (result : TestResult R) (error : ErrorValue) (summary : List UInt8) :
    (result.setStepError error summary).identity = result.identity := assignFailureReason_identity _ summary

theorem contextCalls_identity (result : TestResult R) (calls : List (ContextCall R)) :
    (result.contextCalls calls).identity = result.identity :=
  TestResult.contextCalls_keeps TestResult.identity (by intro result call; cases call <;> rfl) result calls

theorem clean_identity (result : TestResult R) (cleaned : CallResult Unit) :
    (result.clean cleaned).identity = result.identity := by
  unfold TestResult.clean
  split
  · rfl
  dsimp only
  split <;> rfl

theorem finish_identity (result : TestResult R) (reading : CallResult Int) :
    (result.finish reading).identity = result.identity := by
  unfold TestResult.finish
  split
  · rfl
  split
  · exact assignFailureReason_identity _ _
  · rfl

variable [Zero R] {testCase : TestCaseDefinition} {s next : RunState R} {inputs : RunInputs R}

theorem seal_identity (result : TestResult R) : result.sealFailureEvidence.identity = result.identity := by
  have measured (result : TestResult R) : result.sealMeasurements.identity = result.identity := by
    unfold TestResult.sealMeasurements
    split <;> rfl
  have criteria (result : TestResult R) : result.sealCriteria.identity = result.identity := by
    unfold TestResult.sealCriteria
    split <;> rfl
  have diagnosed (result : TestResult R) : result.sealDiagnostics.identity = result.identity := by
    unfold TestResult.sealDiagnostics
    split <;> rfl
  unfold TestResult.sealFailureEvidence
  split
  · split <;> rfl
  · rw [diagnosed,criteria,measured,assignFailureReason_identity]

theorem refuse_identity (result : TestResult R) (error : ErrorValue) (summary : List UInt8) :
    (result.refuse error summary).identity = result.identity := seal_identity _

theorem step_identity (taken : runStep testCase s inputs = some next) : next.result.identity = s.result.identity := by
  cases runStep_steps taken with
  | busy _ | invalid _ | clockFailed _ | deadlineOverflows _ => exact refuse_identity _ _ _
  | prepared _ | executed _ | evaluated _ => exact contextCalls_identity _ _
  | prepareFailed _ | executeFailed _ | evaluationFailed _ =>
      exact (setStepError_identity _ _ _).trans (contextCalls_identity _ _)
  | unread _ | timesOut _ => exact setStepError_identity _ _ _
  | cleans => exact (clean_identity _ _).trans (contextCalls_identity _ _)
  | finishes => exact finish_identity _ _
  | seals => exact seal_identity _
  | _ => rfl

def RunPoint.sealed : RunPoint → Bool
  | .refuse | .completeStage | .clearRunning | .returned => true
  | _ => false

def Sealed (result : TestResult R) : Prop := result.outcome = .failed ∨ result.outcome = .error → Evidence result

theorem seal_sealed (result : TestResult R) : Sealed result.sealFailureEvidence := by
  intro failed
  rw [TestResult.seal_keeps.1] at failed
  exact (TestResult.seal_failed failed).1

theorem step_sealed (kept : s.point.sealed = true → Sealed s.result) (taken : runStep testCase s inputs = some next)
    (isSealed : next.point.sealed = true) : Sealed next.result := by
  cases runStep_steps taken with
  | @moves point target result deadlineNs follows =>
      cases point with
      | refuse | completeStage | clearRunning =>
          cases follows
          exact kept rfl
      | _ => cases follows <;> cases isSealed
  | busy _ | invalid _ | clockFailed _ | deadlineOverflows _ | seals => exact seal_sealed _
  | _ => cases isSealed

theorem returned_persistable (safe : isSafeRunId runId = true) (hasId : testCase.id ≠ []) (hasName : testCase.name ≠ [])
    (path : Reached (runStep testCase) (RunState.start runId testCase) history s) (returned : s.point = .returned) :
    (validatePersistable s.result).ok = true := by
  have kept : s.result.identity = (runId,testCase.id,testCase.name) ∧ (s.point.sealed = true → Sealed s.result) := by
    refine reached_invariant
      (fun _ s => s.result.identity = (runId,testCase.id,testCase.name) ∧ (s.point.sealed = true → Sealed s.result)) ⟨rfl,?_⟩ ?_ path
    · intro isSealed
      cases isSealed
    · rintro past s inputs next ⟨identity,evidence⟩ taken
      exact ⟨(step_identity taken).trans identity,step_sealed evidence taken⟩
  obtain ⟨identity,evidence⟩ := kept
  simp only [TestResult.identity,Prod.mk.injEq] at identity
  obtain ⟨rfl,sameId,sameName⟩ := identity
  rw [validatePersistable_ok]
  exact ⟨safe,sameId ▸ hasId,sameName ▸ hasName,evidence (by rw [returned]; rfl)⟩

def refusedRun : List (Moment (RunState ℚ) (RunInputs ℚ)) × RunState ℚ :=
  (replay (runStep passingCase) [] (RunState.start (text "run-2") passingCase) (List.replicate 3 {running := true})).get
    (by decide +kernel)

theorem refused_persistable :
    refusedRun.2.point = .returned ∧ refusedRun.2.result.outcome = .error ∧
      (validatePersistable refusedRun.2.result).ok = true :=
  have path : Reached (runStep passingCase) (RunState.start (text "run-2") passingCase) refusedRun.1 refusedRun.2 :=
    replayed_reached _ (by decide +kernel)
  ⟨by decide +kernel,by decide +kernel,
    returned_persistable (by decide +kernel) (by decide +kernel) (by decide +kernel) path (by decide +kernel)⟩

end Evidence

end RobotControlRuntime
