import Mathlib.Algebra.Ring.Rat
import Mathlib.Data.List.Basic
import RobotControlRuntime.TestRunner

-- What a run calls, in which order, and what its result says about it.
namespace RobotControlRuntime
open StepHistory

-- The calls of a run and what its three stop checks saw, the last one first. A
-- check stops for a cancellation, an expired deadline or an unreadable clock.
inductive RunEvent where
  | prepare (result : CallResult Unit) | execute (result : CallResult Unit) | evaluate (result : CallResult TestEvaluation)
  | stopCheck (stops : Bool)
  | cleanup (result : CallResult Unit) | finish (reading : CallResult Int)
  deriving DecidableEq, Repr

def RunEvent.isPrepare : RunEvent → Bool
  | .prepare _ => true
  | _ => false

def RunEvent.isCleanup : RunEvent → Bool
  | .cleanup _ => true
  | _ => false

section Lifecycle
variable {R : Type}

def RunState.event (s : RunState R) (inputs : RunInputs R) : Option RunEvent :=
  match s.point with
  | .prepare => some (.prepare inputs.step)
  | .execute => some (.execute inputs.step)
  | .evaluate => some (.evaluate inputs.evaluation)
  | .cancelCheck _ => if inputs.cancelled then some (.stopCheck true) else none
  | .deadlineCheck _ => some (.stopCheck (!inputs.clock.ok || s.deadlineNs ≤ inputs.clock.value))
  | .cleanup => some (.cleanup inputs.step)
  | .finishClock => some (.finish inputs.clock)
  | _ => none

def events (history : List (Moment (RunState R) (RunInputs R))) : List RunEvent :=
  history.filterMap fun m => m.before.event m.action

namespace TestResult
variable {result : TestResult R}

-- A callback reaches the result only through its context.
theorem contextCalls_keeps (field : TestResult R → α) (keeps : ∀ result call, field (contextCall result call) = field result)
    (result : TestResult R) (calls : List (ContextCall R)) : field (result.contextCalls calls) = field result := by
  induction calls generalizing result with
  | nil => rfl
  | cons call rest ih => exact (ih (result.contextCall call)).trans (keeps result call)

@[simp] theorem contextCalls_outcome (result : TestResult R) (calls : List (ContextCall R)) :
    (result.contextCalls calls).outcome = result.outcome :=
  contextCalls_keeps (·.outcome) (by intro result call; cases call <;> rfl) result calls

@[simp] theorem contextCalls_reason (result : TestResult R) (calls : List (ContextCall R)) :
    (result.contextCalls calls).reason = result.reason :=
  contextCalls_keeps (·.reason) (by intro result call; cases call <;> rfl) result calls

@[simp] theorem contextCalls_summary (result : TestResult R) (calls : List (ContextCall R)) :
    (result.contextCalls calls).summary = result.summary :=
  contextCalls_keeps (·.summary) (by intro result call; cases call <;> rfl) result calls

@[simp] theorem contextCalls_error (result : TestResult R) (calls : List (ContextCall R)) :
    (result.contextCalls calls).error = result.error :=
  contextCalls_keeps (·.error) (by intro result call; cases call <;> rfl) result calls

structure Fresh (result : TestResult R) : Prop where
  outcome : result.outcome = .error
  reason : result.reason = []
  summary : result.summary = []
  error : result.error = {}

theorem Fresh.contextCalls (fresh : result.Fresh) (calls : List (ContextCall R)) : (result.contextCalls calls).Fresh where
  outcome := (result.contextCalls_outcome calls).trans fresh.outcome
  reason := (result.contextCalls_reason calls).trans fresh.reason
  summary := (result.contextCalls_summary calls).trans fresh.summary
  error := (result.contextCalls_error calls).trans fresh.error

def Named (result : TestResult R) : Prop := result.error.message ≠ [] → result.reason = result.error.message

theorem assignFailureReason_keeps (result : TestResult R) (fallback : List UInt8) :
    (result.assignFailureReason fallback).outcome = result.outcome ∧
      (result.assignFailureReason fallback).error = result.error := by
  unfold assignFailureReason
  split_ifs <;> exact ⟨rfl,rfl⟩

theorem assignFailureReason_reason (fallback : List UInt8) (reasoned : result.reason ≠ []) :
    result.assignFailureReason fallback = result := by
  unfold assignFailureReason
  rw [if_pos]
  simpa using reasoned

theorem assignFailureReason_named (fallback : List UInt8) (unreasoned : result.reason = []) :
    (result.assignFailureReason fallback).Named := by
  unfold assignFailureReason Named
  intro message
  rw [unreasoned] at message ⊢
  split_ifs at message ⊢ with reasoned worded
  · simp at reasoned
  · rfl
  all_goals simp_all

structure Keeps (before after : TestResult R) : Prop where
  outcome : after.outcome = before.outcome
  error : after.error = before.error
  reason : after.reason = before.reason

theorem Keeps.trans {first second third : TestResult R} (one : Keeps first second) (two : Keeps second third) :
    Keeps first third :=
  ⟨two.outcome.trans one.outcome,two.error.trans one.error,two.reason.trans one.reason⟩

theorem Keeps.named {before after : TestResult R} (kept : Keeps before after) (named : before.Named) : after.Named := by
  intro message
  rw [kept.error] at message ⊢
  rw [kept.reason]
  exact named message

theorem sealMeasurements_keeps [Zero R] (result : TestResult R) : Keeps result result.sealMeasurements := by
  unfold sealMeasurements
  split <;> exact ⟨rfl,rfl,rfl⟩

theorem sealCriteria_keeps : Keeps result result.sealCriteria := by
  unfold sealCriteria
  split <;> exact ⟨rfl,rfl,rfl⟩

theorem sealDiagnostics_keeps : Keeps result result.sealDiagnostics := by
  unfold sealDiagnostics
  split <;> exact ⟨rfl,rfl,rfl⟩

theorem sealMeasurements_nonempty [Zero R] : result.sealMeasurements.measurements ≠ [] := by
  unfold sealMeasurements
  split
  · exact List.cons_ne_nil _ _
  · rename_i present
    exact fun empty => present (List.isEmpty_iff.mpr empty)

theorem sealCriteria_nonempty : result.sealCriteria.criteria ≠ [] ∧
    result.sealCriteria.measurements = result.measurements := by
  unfold sealCriteria
  split
  · exact ⟨List.cons_ne_nil _ _,rfl⟩
  · rename_i present
    exact ⟨fun empty => present (List.isEmpty_iff.mpr empty),rfl⟩

theorem sealDiagnostics_nonempty : result.sealDiagnostics.diagnostics ≠ [] ∧
    result.sealDiagnostics.criteria = result.criteria ∧ result.sealDiagnostics.measurements = result.measurements := by
  unfold sealDiagnostics
  split
  · rename_i present
    refine ⟨fun empty => ?_,rfl,rfl⟩
    rw [empty] at present
    cases present
  · exact ⟨by simp,rfl,rfl⟩

theorem assignFailureReason_nonempty (fallback : List UInt8) (worded : fallback ≠ []) :
    (result.assignFailureReason fallback).reason ≠ [] := by
  unfold assignFailureReason
  split
  · rename_i reasoned
    simpa using reasoned
  split
  · rename_i message
    simpa using message
  split
  · rename_i summary
    simpa using summary
  · exact worded

section Seal
variable [Zero R]

theorem seal_failed (failed : result.outcome = .failed ∨ result.outcome = .error) :
    Evidence result.sealFailureEvidence ∧
      Keeps (result.assignFailureReason result.outcome.toText) result.sealFailureEvidence := by
  have closed : ¬(result.outcome ≠ .failed ∧ result.outcome ≠ .error) := by
    rintro ⟨one,two⟩
    exact failed.elim one two
  unfold sealFailureEvidence
  rw [if_neg closed]
  have kept := (result.assignFailureReason result.outcome.toText).sealMeasurements_keeps.trans
    (sealCriteria_keeps.trans sealDiagnostics_keeps)
  refine ⟨⟨?_,?_,?_,sealDiagnostics_nonempty.1⟩,kept⟩
  · rw [kept.reason]
    apply assignFailureReason_nonempty
    rcases failed with failed | failed <;> rw [failed] <;> decide
  · rw [sealDiagnostics_nonempty.2.1]
    exact sealCriteria_nonempty.1
  · rw [sealDiagnostics_nonempty.2.2,sealCriteria_nonempty.2]
    exact sealMeasurements_nonempty

theorem seal_passed (passed : ¬(result.outcome = .failed ∨ result.outcome = .error)) :
    result.sealFailureEvidence = if result.reason.isEmpty then {result with reason := result.summary} else result := by
  unfold sealFailureEvidence
  rw [if_pos (not_or.mp passed)]

theorem seal_keeps : result.sealFailureEvidence.outcome = result.outcome ∧ result.sealFailureEvidence.error = result.error := by
  by_cases failed : result.outcome = .failed ∨ result.outcome = .error
  · obtain ⟨outcome,error,_⟩ := (seal_failed failed).2
    obtain ⟨outcome',error'⟩ := result.assignFailureReason_keeps result.outcome.toText
    exact ⟨outcome.trans outcome',error.trans error'⟩
  · rw [seal_passed failed]
    split <;> exact ⟨rfl,rfl⟩

theorem seal_reason (reasoned : result.reason ≠ []) : result.sealFailureEvidence.reason = result.reason := by
  by_cases failed : result.outcome = .failed ∨ result.outcome = .error
  · rw [(seal_failed failed).2.reason,assignFailureReason_reason _ reasoned]
  · rw [seal_passed failed,if_neg (by simpa using reasoned)]

theorem Named.seal (named : result.Named) : result.sealFailureEvidence.Named := by
  intro message
  rw [seal_keeps.2] at message ⊢
  have reason := named message
  rw [seal_reason (reason ▸ message),reason]

theorem refuse_outcome (result : TestResult R) (error : ErrorValue) (summary : List UInt8) :
    (result.refuse error summary).outcome = result.outcome := seal_keeps.1

theorem refuse_named (fresh : result.Fresh) (error : ErrorValue) (summary : List UInt8) :
    (result.refuse error summary).outcome = .error ∧ (result.refuse error summary).Named := by
  have failed : ({result with error := error,summary := summary} : TestResult R).outcome = .error := fresh.outcome
  have unreasoned : ({result with error := error,summary := summary} : TestResult R).reason = [] := fresh.reason
  exact ⟨seal_keeps.1.trans failed,(seal_failed (.inr failed)).2.named (assignFailureReason_named _ unreasoned)⟩

end Seal

theorem setStepError_outcome (result : TestResult R) (error : ErrorValue) (summary : List UInt8) :
    (result.setStepError error summary).outcome = .error := (assignFailureReason_keeps _ _).1

theorem clean_outcome (result : TestResult R) (cleaned : CallResult Unit) :
    (result.clean cleaned).outcome = result.outcome ∨ (result.clean cleaned).outcome = .error := by
  unfold clean
  split
  · exact .inl rfl
  · dsimp only
    split
    · exact .inr rfl
    · exact .inl rfl

theorem finish_outcome (result : TestResult R) (reading : CallResult Int) :
    (result.finish reading).outcome = result.outcome ∨ (result.finish reading).outcome = .error := by
  unfold finish
  split
  · exact .inl rfl
  split
  · exact .inr (assignFailureReason_keeps _ _).1
  · exact .inl rfl

theorem setStepError_named (fresh : result.Fresh) (error : ErrorValue) (summary : List UInt8) :
    (result.setStepError error summary).outcome = .error ∧ (result.setStepError error summary).Named :=
  ⟨result.setStepError_outcome error summary,assignFailureReason_named _ fresh.reason⟩

end TestResult

inductive Leads : StopPhase → List RunEvent → Prop where
  | prepared : p.ok = true → Leads .prepared [.prepare p]
  | executed : Leads .prepared past → x.ok = true → Leads .executed (.execute x :: .stopCheck false :: past)
  | evaluated : Leads .executed past → e.ok = true →
      Leads (.evaluated e.value) (.evaluate e :: .stopCheck false :: past)

inductive Halts : List RunEvent → Prop where
  | prepare : p.ok = false → Halts [.prepare p]
  | execute : Leads .prepared past → x.ok = false → Halts (.execute x :: .stopCheck false :: past)
  | evaluate : Leads .executed past → e.ok = false → Halts (.evaluate e :: .stopCheck false :: past)
  | stopped : Leads phase past → Halts (.stopCheck true :: past)

structure Unpassed (result : TestResult R) : Prop where
  outcome : result.outcome ≠ .passed
  named : result.outcome = .error → result.Named

structure Judged (result : TestResult R) (evaluation : TestEvaluation) : Prop where
  outcome : result.outcome = if evaluation.passed then .passed else .failed
  reason : result.reason = evaluation.summary

inductive Concluded (result : TestResult R) : List RunEvent → Prop where
  | judged : Leads (.evaluated evaluation) past → Judged result evaluation → Concluded result (.stopCheck false :: past)
  | halted : Halts past → Unpassed result → Concluded result past

inductive Cleaned (result : TestResult R) : List RunEvent → Prop where
  | passed : Leads (.evaluated evaluation) past → evaluation.passed = true → c.ok = true → Judged result evaluation →
      Cleaned result (.cleanup c :: .stopCheck false :: past)
  | judged : Leads (.evaluated evaluation) past → ¬(evaluation.passed = true ∧ c.ok = true) → Unpassed result →
      Cleaned result (.cleanup c :: .stopCheck false :: past)
  | halted : Halts past → Unpassed result → Cleaned result (.cleanup c :: past)

-- A passing evaluation whose finish time cannot be read keeps its summary as the
-- reason, unless that is empty.
structure Unread (result : TestResult R) (evaluation : TestEvaluation) (error : ErrorValue) : Prop where
  outcome : result.outcome = .error
  error : result.error = error
  summarised : evaluation.summary ≠ [] → result.reason = evaluation.summary
  named : evaluation.summary = [] → result.Named

inductive Finished (result : TestResult R) : List RunEvent → Prop where
  | passed : Leads (.evaluated evaluation) past → evaluation.passed = true → c.ok = true → f.ok = true →
      result.outcome = .passed → Finished result (.finish f :: .cleanup c :: .stopCheck false :: past)
  | unread : Leads (.evaluated evaluation) past → evaluation.passed = true → c.ok = true → f.ok = false →
      Unread result evaluation f.error → Finished result (.finish f :: .cleanup c :: .stopCheck false :: past)
  | judged : Leads (.evaluated evaluation) past → ¬(evaluation.passed = true ∧ c.ok = true) → Unpassed result →
      Finished result (.finish f :: .cleanup c :: .stopCheck false :: past)
  | halted : Halts past → Unpassed result → Finished result (.finish f :: .cleanup c :: past)

structure Refused (result : TestResult R) (past : List RunEvent) : Prop where
  silent : past = []
  outcome : result.outcome = .error
  named : result.Named

def Stands (s : RunState R) (past : List RunEvent) : Prop :=
  match s.point with
  | .executing | .execute => s.result.Fresh ∧ ∃ earlier, Leads .prepared earlier ∧ past = .stopCheck false :: earlier
  | .evaluating | .evaluate => s.result.Fresh ∧ ∃ earlier, Leads .executed earlier ∧ past = .stopCheck false :: earlier
  | .cancelCheck phase | .deadlineCheck phase => s.result.Fresh ∧ Leads phase past
  | .verdict _ => s.result.Fresh ∧ Halts past
  | .cleaningUp | .cleanup => Concluded s.result past
  | .finishClock => Cleaned s.result past
  | .finishWall => Finished s.result past
  | .refuse => Refused s.result past
  | .completeStage | .clearRunning | .returned => Refused s.result past ∨ Finished s.result past
  | _ => s.result.Fresh ∧ past = []

theorem Unpassed.seal [Zero R] {result : TestResult R} (unpassed : Unpassed result) : Unpassed result.sealFailureEvidence := by
  obtain ⟨outcome,named⟩ := unpassed
  refine ⟨by rwa [TestResult.seal_keeps.1],fun failed => ?_⟩
  rw [TestResult.seal_keeps.1] at failed
  exact (named failed).seal

theorem Finished.seal [Zero R] {result : TestResult R} (finished : Finished result past) :
    Finished result.sealFailureEvidence past := by
  cases finished with
  | passed leads passes cleaned read outcome => exact .passed leads passes cleaned read (TestResult.seal_keeps.1.trans outcome)
  | unread leads passes cleaned failed unread =>
      refine .unread leads passes cleaned failed ⟨?_,?_,?_,?_⟩
      · exact TestResult.seal_keeps.1.trans unread.outcome
      · exact TestResult.seal_keeps.2.trans unread.error
      · intro summarised
        have reason := unread.summarised summarised
        exact (TestResult.seal_reason (reason ▸ summarised)).trans reason
      · exact fun empty => (unread.named empty).seal
  | judged leads fails unpassed => exact .judged leads fails unpassed.seal
  | halted halts unpassed => exact .halted halts unpassed.seal

theorem setStepError_unpassed {result : TestResult R} (fresh : result.Fresh) (error : ErrorValue) (summary : List UInt8) :
    Unpassed (result.setStepError error summary) := by
  obtain ⟨outcome,named⟩ := TestResult.setStepError_named fresh error summary
  exact ⟨by simp [outcome],fun _ => named⟩

theorem abort_unpassed (result : TestResult R) : Unpassed result.abort :=
  ⟨by simp [TestResult.abort],by simp [TestResult.abort]⟩

theorem Judged.contextCalls {result : TestResult R} (judged : Judged result evaluation) (calls : List (ContextCall R)) :
    Judged (result.contextCalls calls) evaluation :=
  ⟨(result.contextCalls_outcome calls).trans judged.outcome,(result.contextCalls_reason calls).trans judged.reason⟩

theorem Unpassed.contextCalls {result : TestResult R} (unpassed : Unpassed result) (calls : List (ContextCall R)) :
    Unpassed (result.contextCalls calls) := by
  refine ⟨by simpa using unpassed.outcome,fun failed => ?_⟩
  rw [TestResult.contextCalls_outcome] at failed
  unfold TestResult.Named
  rw [TestResult.contextCalls_reason,TestResult.contextCalls_error]
  exact unpassed.named failed

theorem Unpassed.clean {result : TestResult R} (unpassed : Unpassed result) (cleaned : CallResult Unit) :
    Unpassed (result.clean cleaned) := by
  unfold TestResult.clean
  split
  · exact ⟨unpassed.outcome,unpassed.named⟩
  · dsimp only
    rw [if_neg unpassed.outcome]
    exact ⟨unpassed.outcome,unpassed.named⟩

theorem Concluded.clean {result : TestResult R} (ended : Concluded result past) (cleaned : CallResult Unit) :
    Cleaned (result.clean cleaned) (.cleanup cleaned :: past) := by
  cases ended with
  | halted halts unpassed => exact .halted halts (unpassed.clean cleaned)
  | @judged evaluation past leads judged =>
      by_cases passes : evaluation.passed = true
      · by_cases ok : cleaned.ok = true
        · refine .passed leads passes ok ?_
          unfold TestResult.clean
          rw [if_pos ok]
          exact ⟨judged.outcome,judged.reason⟩
        · refine .judged leads (fun both => ok both.2) ?_
          have passed : result.outcome = .passed := by rw [judged.outcome,if_pos passes]
          unfold TestResult.clean
          dsimp only
          rw [if_neg ok,if_pos passed]
          refine ⟨by simp,fun _ message => ?_⟩
          dsimp only at message ⊢
          rw [if_neg (by simpa using message)]
      · refine .judged leads (fun both => passes both.1) (Unpassed.clean ⟨?_,?_⟩ cleaned)
        · rw [judged.outcome,if_neg passes]
          simp
        · rw [judged.outcome,if_neg passes]
          intro failed
          cases failed

theorem Unpassed.finish {result : TestResult R} (unpassed : Unpassed result) (reading : CallResult Int) :
    Unpassed (result.finish reading) := by
  unfold TestResult.finish
  split
  · exact ⟨unpassed.outcome,unpassed.named⟩
  · rw [if_neg unpassed.outcome]
    exact unpassed

theorem Cleaned.finish {result : TestResult R} (cleaned : Cleaned result past) (reading : CallResult Int) :
    Finished (result.finish reading) (.finish reading :: past) := by
  cases cleaned with
  | halted halts unpassed => exact .halted halts (unpassed.finish reading)
  | judged leads fails unpassed => exact .judged leads fails (unpassed.finish reading)
  | passed leads passes ok judged =>
      have passed : result.outcome = .passed := by rw [judged.outcome,if_pos passes]
      by_cases read : reading.ok = true
      · refine .passed leads passes ok read ?_
        unfold TestResult.finish
        rw [if_pos read]
        exact passed
      · refine .unread leads passes ok (Bool.eq_false_iff.mpr read) ?_
        unfold TestResult.finish
        rw [if_neg read,if_pos passed]
        refine ⟨(TestResult.assignFailureReason_keeps _ _).1,(TestResult.assignFailureReason_keeps _ _).2,?_,?_⟩
        · intro summarised
          rw [TestResult.assignFailureReason_reason]
          · exact judged.reason
          · exact judged.reason ▸ summarised
        · exact fun empty => TestResult.assignFailureReason_named _ (judged.reason.trans empty)

def Succeeds (past : List RunEvent) : Prop :=
  ∃ p x e c f, past = [.finish f,.cleanup c,.stopCheck false,.evaluate e,.stopCheck false,.execute x,.stopCheck false,.prepare p] ∧
    p.ok = true ∧ x.ok = true ∧ e.ok = true ∧ e.value.passed = true ∧ c.ok = true ∧ f.ok = true

def FinishLost (past : List RunEvent) : Prop :=
  ∃ p x e c f, past = [.finish f,.cleanup c,.stopCheck false,.evaluate e,.stopCheck false,.execute x,.stopCheck false,.prepare p] ∧
    p.ok = true ∧ x.ok = true ∧ e.ok = true ∧ e.value.passed = true ∧ c.ok = true ∧ f.ok = false ∧
    e.value.summary ≠ [] ∧ e.value.summary ≠ f.error.message

theorem leads_prepared (leads : Leads .prepared past) : ∃ p, p.ok = true ∧ past = [.prepare p] := by
  cases leads with
  | prepared ok => exact ⟨_,ok,rfl⟩

theorem leads_executed (leads : Leads .executed past) :
    ∃ p x, p.ok = true ∧ x.ok = true ∧ past = [.execute x,.stopCheck false,.prepare p] := by
  cases leads with
  | executed earlier ok =>
      obtain ⟨p,prepared,rfl⟩ := leads_prepared earlier
      exact ⟨p,_,prepared,ok,rfl⟩

theorem leads_evaluated (leads : Leads (.evaluated evaluation) past) :
    ∃ p x e, p.ok = true ∧ x.ok = true ∧ e.ok = true ∧ e.value = evaluation ∧
      past = [.evaluate e,.stopCheck false,.execute x,.stopCheck false,.prepare p] := by
  cases leads with
  | evaluated earlier ok =>
      obtain ⟨p,x,prepared,executed,rfl⟩ := leads_executed earlier
      exact ⟨p,x,_,prepared,executed,ok,rfl,rfl⟩

theorem Leads.calls (leads : Leads phase past) :
    past.countP RunEvent.isPrepare = 1 ∧ past.countP RunEvent.isCleanup = 0 := by
  induction leads with
  | prepared _ => exact ⟨rfl,rfl⟩
  | executed _ _ ih =>
      simp only [List.countP_cons,ih.1,ih.2]
      exact ⟨rfl,rfl⟩
  | evaluated _ _ ih =>
      simp only [List.countP_cons,ih.1,ih.2]
      exact ⟨rfl,rfl⟩

theorem Halts.calls (halts : Halts past) :
    past.countP RunEvent.isPrepare = 1 ∧ past.countP RunEvent.isCleanup = 0 := by
  cases halts with
  | prepare _ => exact ⟨rfl,rfl⟩
  | execute leads _ | evaluate leads _ | stopped leads =>
      simp only [List.countP_cons,leads.calls.1,leads.calls.2]
      exact ⟨rfl,rfl⟩

theorem Finished.calls {result : TestResult R} (finished : Finished result past) :
    past.countP RunEvent.isPrepare = 1 ∧ past.countP RunEvent.isCleanup = 1 := by
  cases finished with
  | passed leads _ _ _ _ | unread leads _ _ _ _ | judged leads _ _ =>
      simp only [List.countP_cons,leads.calls.1,leads.calls.2]
      exact ⟨rfl,rfl⟩
  | halted halts _ =>
      simp only [List.countP_cons,halts.calls.1,halts.calls.2]
      exact ⟨rfl,rfl⟩

theorem not_halts_judged (halts : Halts (.stopCheck false :: past)) : False := by
  cases halts

theorem Finished.passed_iff {result : TestResult R} (finished : Finished result past) :
    result.outcome = .passed ↔ Succeeds past := by
  cases finished with
  | passed leads passes cleaned read outcome =>
      obtain ⟨p,x,e,prepared,executed,evaluated,rfl,rfl⟩ := leads_evaluated leads
      exact ⟨fun _ => ⟨p,x,e,_,_,rfl,prepared,executed,evaluated,passes,cleaned,read⟩,fun _ => outcome⟩
  | unread leads passes cleaned failed unread =>
      refine ⟨fun passed => absurd (unread.outcome.symm.trans passed) (by decide),?_⟩
      rintro ⟨p,x,e,c,f,same,_,_,_,_,_,read⟩
      simp only [List.cons.injEq,RunEvent.finish.injEq] at same
      rw [same.1,read] at failed
      cases failed
  | judged leads fails unpassed =>
      refine ⟨fun passed => absurd passed unpassed.outcome,?_⟩
      rintro ⟨p,x,e,c,f,same,_,_,_,passes,cleaned,_⟩
      obtain ⟨_,_,e',_,_,_,rfl,rfl⟩ := leads_evaluated leads
      simp only [List.cons.injEq,RunEvent.cleanup.injEq,RunEvent.evaluate.injEq] at same
      obtain ⟨_,rfl,_,rfl,_⟩ := same
      exact (fails ⟨passes,cleaned⟩).elim
  | halted halts unpassed =>
      refine ⟨fun passed => absurd passed unpassed.outcome,?_⟩
      rintro ⟨p,x,e,c,f,same,_⟩
      simp only [List.cons.injEq] at same
      rw [same.2.2] at halts
      exact (not_halts_judged halts).elim

theorem Finished.named_iff {result : TestResult R} (finished : Finished result past) (failed : result.outcome = .error)
    (message : result.error.message ≠ []) : result.reason = result.error.message ↔ ¬FinishLost past := by
  cases finished with
  | passed _ _ _ _ outcome => exact absurd (outcome.symm.trans failed) (by decide)
  | unread leads passes cleaned read unread =>
      obtain ⟨p,x,e,prepared,executed,evaluated,rfl,rfl⟩ := leads_evaluated leads
      constructor
      · rintro reason ⟨p',x',e',c',f',same,_,_,_,_,_,_,summarised,differs⟩
        simp only [List.cons.injEq,RunEvent.finish.injEq,RunEvent.evaluate.injEq] at same
        obtain ⟨rfl,_,_,rfl,_⟩ := same
        rw [unread.summarised summarised,unread.error] at reason
        exact differs reason
      · intro kept
        by_cases empty : e.value.summary = []
        · exact unread.named empty message
        · rw [unread.summarised empty,unread.error]
          by_contra differs
          exact kept ⟨p,x,e,_,_,rfl,prepared,executed,evaluated,passes,cleaned,read,empty,differs⟩
  | judged leads fails unpassed =>
      refine ⟨fun _ => ?_,fun _ => unpassed.named failed message⟩
      rintro ⟨p,x,e,c,f,same,_,_,_,passes,cleaned,_⟩
      obtain ⟨_,_,e',_,_,_,rfl,rfl⟩ := leads_evaluated leads
      simp only [List.cons.injEq,RunEvent.cleanup.injEq,RunEvent.evaluate.injEq] at same
      obtain ⟨_,rfl,_,rfl,_⟩ := same
      exact fails ⟨passes,cleaned⟩
  | halted halts unpassed =>
      refine ⟨fun _ => ?_,fun _ => unpassed.named failed message⟩
      rintro ⟨p,x,e,c,f,same,_⟩
      simp only [List.cons.injEq] at same
      rw [same.2.2] at halts
      exact not_halts_judged halts

def RunState.log (s : RunState R) (inputs : RunInputs R) (past : List RunEvent) : List RunEvent :=
  (s.event inputs).toList ++ past

theorem events_cons {s next : RunState R} {inputs : RunInputs R} (past : List (Moment (RunState R) (RunInputs R))) :
    events (⟨s,inputs,next⟩ :: past) = s.log inputs (events past) := by
  unfold events RunState.log
  rw [List.filterMap_cons]
  cases s.event inputs <;> rfl

theorem start_stands (runId : List UInt8) (testCase : TestCaseDefinition) :
    Stands (RunState.start runId testCase : RunState R) [] := ⟨⟨rfl,rfl,rfl,rfl⟩,rfl⟩

section Runs
variable [Zero R] {testCase : TestCaseDefinition} {s next : RunState R} {inputs : RunInputs R}

theorem Refused.of_fresh {result : TestResult R} (fresh : result.Fresh) (error : ErrorValue) (summary : List UInt8) :
    Refused (result.refuse error summary) [] :=
  have ⟨outcome,named⟩ := TestResult.refuse_named fresh error summary
  ⟨rfl,outcome,named⟩

theorem stands_step (stands : Stands s past) (taken : runStep testCase s inputs = some next) :
    Stands next (s.log inputs past) := by
  unfold RunState.log RunState.event
  cases runStep_steps taken with
  | @moves point target result deadlineNs follows =>
      cases point with
      | refuse =>
          cases follows
          exact .inl stands
      | lock | clearCancel | resetStage | setRunning | unlock | preparing | executing | evaluating | cleaningUp
      | completeStage | clearRunning =>
          cases follows
          exact stands
      | _ => cases follows
  | busy _ =>
      obtain ⟨fresh,rfl⟩ := stands
      exact Refused.of_fresh fresh _ _
  | admitted _ | valid _ => exact stands
  | invalid _ | clockFailed _ =>
      obtain ⟨fresh,rfl⟩ := stands
      exact .inl (Refused.of_fresh fresh _ _)
  | clockRead _ | deadlineSet _ =>
      obtain ⟨fresh,rfl⟩ := stands
      exact ⟨⟨fresh.outcome,fresh.reason,fresh.summary,fresh.error⟩,rfl⟩
  | deadlineOverflows _ =>
      obtain ⟨fresh,rfl⟩ := stands
      refine .inl (Refused.of_fresh ?_ _ _)
      exact ⟨fresh.outcome,fresh.reason,fresh.summary,fresh.error⟩
  | prepared ok =>
      obtain ⟨fresh,rfl⟩ := stands
      exact ⟨fresh.contextCalls inputs.calls,.prepared ok⟩
  | prepareFailed failed =>
      obtain ⟨fresh,rfl⟩ := stands
      exact .halted (.prepare failed) (setStepError_unpassed (fresh.contextCalls inputs.calls) _ _)
  | executed ok =>
      obtain ⟨fresh,earlier,leads,rfl⟩ := stands
      exact ⟨fresh.contextCalls inputs.calls,.executed leads ok⟩
  | executeFailed failed =>
      obtain ⟨fresh,earlier,leads,rfl⟩ := stands
      exact .halted (.execute leads failed) (setStepError_unpassed (fresh.contextCalls inputs.calls) _ _)
  | evaluated ok =>
      obtain ⟨fresh,earlier,leads,rfl⟩ := stands
      exact ⟨fresh.contextCalls inputs.calls,.evaluated leads ok⟩
  | evaluationFailed failed =>
      obtain ⟨fresh,earlier,leads,rfl⟩ := stands
      exact .halted (.evaluate leads failed) (setStepError_unpassed (fresh.contextCalls inputs.calls) _ _)
  | cancelSeen cancelled =>
      obtain ⟨fresh,leads⟩ := stands
      simp only [cancelled]
      exact ⟨fresh,.stopped leads⟩
  | uncancelled clear =>
      simp only [clear]
      exact stands
  | late read late =>
      obtain ⟨fresh,leads⟩ := stands
      simp only [read,late,decide_true,Bool.or_true]
      exact ⟨fresh,.stopped leads⟩
  | unread unread =>
      obtain ⟨fresh,leads⟩ := stands
      simp only [unread,Bool.not_false,Bool.true_or]
      exact .halted (.stopped leads) (setStepError_unpassed fresh _ _)
  | executes read early | evaluates read early =>
      obtain ⟨fresh,leads⟩ := stands
      simp only [read,Int.not_le.mpr early,decide_false,Bool.not_true,Bool.or_false]
      exact ⟨fresh,past,leads,rfl⟩
  | judges read early =>
      obtain ⟨_,leads⟩ := stands
      simp only [read,Int.not_le.mpr early,decide_false,Bool.not_true,Bool.or_false]
      exact .judged leads ⟨rfl,rfl⟩
  | aborts _ => exact .halted stands.2 (abort_unpassed _)
  | timesOut _ => exact .halted stands.2 (setStepError_unpassed stands.1 _ _)
  | cleans =>
      refine Concluded.clean ?_ inputs.step
      cases stands with
      | judged leads judged => exact .judged leads (judged.contextCalls inputs.calls)
      | halted halts unpassed => exact .halted halts (unpassed.contextCalls inputs.calls)
  | finishes => exact Cleaned.finish stands inputs.clock
  | seals =>
      refine .inr (Finished.seal ?_)
      cases stands with
      | passed leads passes ok read outcome => exact .passed leads passes ok read outcome
      | unread leads passes ok failed unread =>
          exact .unread leads passes ok failed ⟨unread.outcome,unread.error,unread.summarised,unread.named⟩
      | judged leads fails unpassed => exact .judged leads fails ⟨unpassed.outcome,unpassed.named⟩
      | halted halts unpassed => exact .halted halts ⟨unpassed.outcome,unpassed.named⟩

theorem reached_stands (path : Reached (runStep testCase) (RunState.start runId testCase) history s) :
    Stands s (events history) := by
  refine reached_invariant (fun history s => Stands s (events history)) (start_stands runId testCase) ?_ path
  intro past s inputs next stands taken
  rw [events_cons]
  exact stands_step stands taken

def RunPoint.rank : RunPoint → Nat
  | .lock => 29
  | .loadRunning => 28
  | .clearCancel => 27
  | .resetStage => 26
  | .setRunning => 25
  | .unlock => 24
  | .validate => 23
  | .startClock => 22
  | .startWall => 21
  | .preparing => 20
  | .prepare => 19
  | .cancelCheck .prepared => 18
  | .deadlineCheck .prepared => 17
  | .executing => 16
  | .execute => 15
  | .cancelCheck .executed => 14
  | .deadlineCheck .executed => 13
  | .evaluating => 12
  | .evaluate => 11
  | .cancelCheck (.evaluated _) => 10
  | .deadlineCheck (.evaluated _) => 9
  | .verdict _ => 7
  | .cleaningUp => 6
  | .cleanup => 5
  | .finishClock => 4
  | .finishWall => 3
  | .completeStage => 2
  | .clearRunning | .refuse => 1
  | .returned => 0

theorem step_rank (taken : runStep testCase s inputs = some next) : next.point.rank < s.point.rank := by
  cases runStep_steps taken with
  | @moves point target result deadlineNs follows =>
      cases point <;> cases follows <;> simp only [RunPoint.rank] <;> decide
  | @cancelSeen phase _ _ _ | @uncancelled phase _ _ _ | @late phase _ _ _ _ | @unread phase _ _ _ =>
      cases phase <;> simp only [RunPoint.rank] <;> decide
  | _ =>
      simp only [RunPoint.rank]
      decide

theorem step_enabled (unfinished : s.point ≠ .returned) (inputs : RunInputs R) : (runStep testCase s inputs).isSome = true := by
  obtain ⟨point,result,deadlineNs⟩ := s
  unfold runStep
  cases point with
  | returned => exact absurd rfl unfinished
  | deadlineCheck phase =>
      dsimp only
      split
      · split
        · rfl
        · cases phase <;> rfl
      · rfl
  | loadRunning | validate | startClock | startWall | prepare | execute | evaluate | verdict phase =>
      dsimp only
      split <;> rfl
  | _ => rfl

theorem reached_length (path : Reached (runStep testCase) (RunState.start runId testCase) history s) :
    history.length + s.point.rank ≤ 29 := by
  induction path with
  | start => exact Nat.le_refl 29
  | step _ taken ih =>
      have fewer := step_rank taken
      rw [List.length_cons]
      omega

theorem step_outcome (taken : runStep testCase s inputs = some next) :
    next.result.outcome = s.result.outcome ∨ next.result.outcome = .error ∨
      (∃ phase, s.point = .verdict phase ∧ inputs.cancelled = true ∧ next.result.outcome = .aborted) ∨
      ∃ evaluation, s.point = .deadlineCheck (.evaluated evaluation) ∧ next.point = .cleaningUp ∧
        next.result.outcome = if evaluation.passed then .passed else .failed := by
  cases runStep_steps taken with
  | busy _ | invalid _ | clockFailed _ | deadlineOverflows _ => exact .inl (TestResult.refuse_outcome _ _ _)
  | prepared _ | executed _ | evaluated _ => exact .inl (TestResult.contextCalls_outcome _ _)
  | prepareFailed _ | executeFailed _ | evaluationFailed _ | unread _ | timesOut _ =>
      exact .inr (.inl (TestResult.setStepError_outcome _ _ _))
  | judges _ _ => exact .inr (.inr (.inr ⟨_,rfl,rfl,rfl⟩))
  | aborts cancelled => exact .inr (.inr (.inl ⟨_,rfl,cancelled,rfl⟩))
  | @cleans result _ =>
      rcases TestResult.clean_outcome (result.contextCalls inputs.calls) inputs.step with same | failed
      · exact .inl (same.trans (result.contextCalls_outcome inputs.calls))
      · exact .inr (.inl failed)
  | @finishes result _ =>
      rcases TestResult.finish_outcome result inputs.clock with same | failed
      · exact .inl same
      · exact .inr (.inl failed)
  | seals => exact .inl TestResult.seal_keeps.1
  | _ => exact .inl rfl

theorem step_undecided (undecided : 7 ≤ s.point.rank → s.result.outcome = .error)
    (taken : runStep testCase s inputs = some next) (early : 7 ≤ next.point.rank) : next.result.outcome = .error := by
  have fewer := step_rank taken
  have was := undecided (by omega)
  rcases step_outcome taken with same | failed | ⟨phase,point,_,_⟩ | ⟨evaluation,_,point,_⟩
  · exact same.trans was
  · exact failed
  · rw [point] at fewer
    have seven : (RunPoint.verdict phase).rank = 7 := rfl
    omega
  · rw [point] at early
    exact absurd early (by decide)

def RunPoint.checking : RunPoint → Option TestEvaluation
  | .cancelCheck (.evaluated evaluation) | .deadlineCheck (.evaluated evaluation) => some evaluation
  | _ => none

theorem step_checking (taken : runStep testCase s inputs = some next)
    (checking : next.point.checking = some evaluation) :
    (s.point = .evaluate ∧ inputs.evaluation.ok = true ∧ inputs.evaluation.value = evaluation ∧
        next.point = .cancelCheck (.evaluated evaluation)) ∨
      s.point = .cancelCheck (.evaluated evaluation) ∧ inputs.cancelled = false := by
  cases runStep_steps taken with
  | @moves point target result deadlineNs follows => cases point <;> cases follows <;> cases checking
  | @uncancelled phase result deadlineNs clear =>
      cases phase <;> cases checking
      exact .inr ⟨rfl,clear⟩
  | evaluated ok =>
      cases checking
      exact .inl ⟨rfl,ok,rfl,rfl⟩
  | _ => cases checking

theorem passed_step (taken : runStep testCase s inputs = some next) (passed : next.result.outcome = .passed) :
    s.result.outcome = .passed ∨ ∃ evaluation, s.point.checking = some evaluation ∧ evaluation.passed = true := by
  rcases step_outcome taken with same | failed | ⟨_,_,_,aborted⟩ | ⟨evaluation,point,_,judged⟩
  · exact .inl (same.symm.trans passed)
  · exact absurd (failed.symm.trans passed) (by decide)
  · exact absurd (aborted.symm.trans passed) (by decide)
  · refine .inr ⟨evaluation,by rw [point]; rfl,?_⟩
    by_contra fails
    rw [if_neg fails,passed] at judged
    cases judged

theorem early_unpassed (undecided : 7 ≤ s.point.rank → s.result.outcome = .error)
    (taken : runStep testCase s inputs = some next) (early : 11 ≤ s.point.rank) : next.result.outcome ≠ .passed := by
  intro passed
  rcases passed_step taken passed with before | ⟨evaluation,checking,_⟩
  · exact absurd ((undecided (by omega)).symm.trans before) (by decide)
  · revert checking early
    cases s.point with
    | cancelCheck phase | deadlineCheck phase =>
        cases phase <;> intro early checking
        · cases checking
        · cases checking
        · exact absurd early (by simp [RunPoint.rank])
    | _ =>
        intro _ checking
        cases checking

theorem lifecycle (path : Reached (runStep testCase) (RunState.start runId testCase) history s) :
    Throughout (fun m past =>
        (m.before.point = .execute → ∃ p : CallResult Unit, p.ok = true ∧ RunEvent.prepare p ∈ events past) ∧
          (m.before.point = .evaluate → ∃ x : CallResult Unit, x.ok = true ∧ RunEvent.execute x ∈ events past)) history ∧
      (s.point = .returned →
        (events history).countP RunEvent.isCleanup = (if (events history).any RunEvent.isPrepare then 1 else 0) ∧
          (s.result.outcome = .passed ↔ Succeeds (events history))) ∧
      history.length ≤ 29 ∧ (s.point ≠ .returned → ∀ inputs, (runStep testCase s inputs).isSome = true) := by
  refine ⟨?_,fun returned => ?_,?_,fun unfinished => step_enabled unfinished⟩
  · refine throughout_invariant (fun history s => Stands s (events history)) (start_stands runId testCase)
      (fun past s inputs next stands taken => events_cons past ▸ stands_step stands taken) ?_ path
    rintro past ⟨point,result,deadlineNs⟩ inputs next stands _
    constructor
    · rintro rfl
      obtain ⟨_,earlier,leads,same⟩ := stands
      obtain ⟨p,ok,rfl⟩ := leads_prepared leads
      exact ⟨p,ok,by simp [same]⟩
    · rintro rfl
      obtain ⟨_,earlier,leads,same⟩ := stands
      obtain ⟨_,x,_,ok,rfl⟩ := leads_executed leads
      exact ⟨x,ok,by simp [same]⟩
  · have stands := reached_stands path
    obtain ⟨point,result,deadlineNs⟩ := s
    cases returned
    rcases stands with refused | finished
    · rw [refused.silent]
      refine ⟨rfl,fun passed => absurd (refused.outcome.symm.trans passed) (by decide),?_⟩
      rintro ⟨p,x,e,c,f,same,_⟩
      cases same
    · refine ⟨?_,finished.passed_iff⟩
      have called : (events history).any RunEvent.isPrepare = true := by
        have once := List.countP_pos_iff.mp (Nat.lt_of_lt_of_eq Nat.zero_lt_one finished.calls.1.symm)
        simpa using once
      rw [called,if_pos rfl]
      exact finished.calls.2
  · have bound := reached_length path
    omega

def passingCase : TestCaseDefinition := {id := text "case",name := text "case",timeoutNs := 1000}

def passingInputs : RunInputs ℚ := {evaluation := ⟨{passed := true,summary := text "ok"},{}⟩}

def passedRun : List (Moment (RunState ℚ) (RunInputs ℚ)) × RunState ℚ :=
  (replay (runStep passingCase) [] (RunState.start (text "run") passingCase) (List.replicate 27 passingInputs)).get
    (by decide +kernel)

theorem lifecycle_passing :
    Reached (runStep passingCase) (RunState.start (text "run") passingCase) passedRun.1 passedRun.2 ∧
      passedRun.2.point = .returned ∧ passedRun.2.result.outcome = .passed ∧ Succeeds (events passedRun.1) :=
  have path := replayed_reached (List.replicate 27 passingInputs) (by decide +kernel)
  ⟨path,by decide +kernel,by decide +kernel,((lifecycle path).2.1 (by decide +kernel)).2.mp (by decide +kernel)⟩

theorem error_named_iff (path : Reached (runStep testCase) (RunState.start runId testCase) history s)
    (returned : s.point = .returned) (failed : s.result.outcome = .error) (message : s.result.error.message ≠ []) :
    s.result.reason = s.result.error.message ↔ ¬FinishLost (events history) := by
  have stands := reached_stands path
  obtain ⟨point,result,deadlineNs⟩ := s
  cases returned
  rcases stands with refused | finished
  · refine ⟨fun _ => ?_,fun _ => refused.named message⟩
    rintro ⟨p,x,e,c,f,same,_⟩
    rw [refused.silent] at same
    cases same
  · exact finished.named_iff failed message

def unpreparedRun : List (Moment (RunState ℚ) (RunInputs ℚ)) × RunState ℚ :=
  (replay (runStep passingCase) [] (RunState.start (text "run") passingCase)
    (List.replicate 17 {step := ⟨(),.ioError,text "no bus"⟩})).get (by decide +kernel)

theorem prepare_error_named :
    unpreparedRun.2.point = .returned ∧ unpreparedRun.2.result.outcome = .error ∧
      unpreparedRun.2.result.error.message = text "no bus" ∧ ¬FinishLost (events unpreparedRun.1) :=
  have path : Reached (runStep passingCase) (RunState.start (text "run") passingCase) unpreparedRun.1 unpreparedRun.2 :=
    replayed_reached _ (by decide +kernel)
  ⟨by decide +kernel,by decide +kernel,by decide +kernel,
    (error_named_iff path (by decide +kernel) (by decide +kernel) (by decide +kernel)).mp (by decide +kernel)⟩

def lostFinish : List (RunInputs ℚ) :=
  List.replicate 23 passingInputs ++ [{clock := ⟨0,.ioError,text "clock"⟩}] ++ List.replicate 3 passingInputs

def lostRun : List (Moment (RunState ℚ) (RunInputs ℚ)) × RunState ℚ :=
  (replay (runStep passingCase) [] (RunState.start (text "run") passingCase) lostFinish).get (by decide +kernel)

theorem passing_summary_as_reason :
    Reached (runStep passingCase) (RunState.start (text "run") passingCase) lostRun.1 lostRun.2 ∧
      lostRun.2.point = .returned ∧ lostRun.2.result.outcome = .error ∧
      lostRun.2.result.error.message = text "clock" ∧ lostRun.2.result.reason = text "ok" :=
  ⟨replayed_reached lostFinish (by decide +kernel),by decide +kernel,by decide +kernel,by decide +kernel,by decide +kernel⟩

end Runs

end Lifecycle

end RobotControlRuntime
