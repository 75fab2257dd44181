import Mathlib.Logic.Function.Basic
import RobotControlRuntime.TestLifecycle

-- Calls of run and request_cancel on one TestRunner from any number of threads,
-- interleaved operation by operation.
namespace RobotControlRuntime
open StepHistory

inductive TestRunStage where
  | idle | preparing | executing | evaluating | cleaningUp | completed
  deriving DecidableEq, Repr

inductive CancelPoint where
  | lock | loadRunning | storeCancel | unlock | returned
  deriving DecidableEq, Repr

inductive Invocation (R : Type) where
  | absent
  | run (testCase : TestCaseDefinition) (state : RunState R)
  | cancel (point : CancelPoint)
  deriving DecidableEq

structure TestRunnerState (R : Type) where
  startCancelMutex : Option Nat := none
  cancelRequested : Bool := false
  running : Bool := false
  stage : TestRunStage := .idle
  calls : Nat → Invocation R := fun _ => .absent

inductive RunnerAction (R : Type) where
  | run (call : Nat) (runId : List UInt8) (testCase : TestCaseDefinition)
  | requestCancel (call : Nat)
  | advance (call : Nat) (inputs : RunInputs R)

section Runner
variable {R : Type}

def RunnerAction.call : RunnerAction R → Nat
  | .run call _ _ => call
  | .requestCancel call => call
  | .advance call _ => call

namespace TestRunnerState

def runEffect (s : TestRunnerState R) (call : Nat) : RunPoint → TestRunnerState R
  | .lock => {s with startCancelMutex := some call}
  | .refuse | .unlock => {s with startCancelMutex := none}
  | .clearCancel => {s with cancelRequested := false}
  | .resetStage => {s with stage := .idle}
  | .setRunning => {s with running := true}
  | .preparing => {s with stage := .preparing}
  | .executing => {s with stage := .executing}
  | .evaluating => {s with stage := .evaluating}
  | .cleaningUp => {s with stage := .cleaningUp}
  | .completeStage => {s with stage := .completed}
  | .clearRunning => {s with running := false}
  | _ => s

def seen (s : TestRunnerState R) (inputs : RunInputs R) : RunInputs R :=
  {inputs with running := s.running,cancelled := s.cancelRequested}

def setCall (s : TestRunnerState R) (call : Nat) (invocation : Invocation R) : TestRunnerState R :=
  {s with calls := Function.update s.calls call invocation}

def cancelStep (s : TestRunnerState R) (call : Nat) : CancelPoint → Option (TestRunnerState R)
  | .lock =>
    if s.startCancelMutex = none then some ({s with startCancelMutex := some call}.setCall call (.cancel .loadRunning))
    else none
  | .loadRunning => some (s.setCall call (.cancel (if s.running then .storeCancel else .unlock)))
  | .storeCancel => some ({s with cancelRequested := true}.setCall call (.cancel .unlock))
  | .unlock => some ({s with startCancelMutex := none}.setCall call (.cancel .returned))
  | .returned => none

variable [Zero R]

def stepRun (s : TestRunnerState R) (call : Nat) (testCase : TestCaseDefinition) (state : RunState R) (inputs : RunInputs R) :
    Option (TestRunnerState R) :=
  if state.point = .lock ∧ s.startCancelMutex ≠ none then none
  else (runStep testCase state (s.seen inputs)).map fun next =>
    (s.runEffect call state.point).setCall call (.run testCase next)

def step (s : TestRunnerState R) : RunnerAction R → Option (TestRunnerState R)
  | .run call runId testCase =>
    match s.calls call with
    | .absent => some (s.setCall call (.run testCase (RunState.start runId testCase)))
    | _ => none
  | .requestCancel call =>
    match s.calls call with
    | .absent => some (s.setCall call (.cancel .lock))
    | _ => none
  | .advance call inputs =>
    match s.calls call with
    | .absent => none
    | .run testCase state => s.stepRun call testCase state inputs
    | .cancel point => s.cancelStep call point

end TestRunnerState

inductive Phase where
  | out | deciding | refusing | clearing | raising | raised | active | asking | storing | leaving
  deriving DecidableEq, Repr

def Phase.locked : Phase → Bool
  | .out | .active => false
  | _ => true

def Phase.runs : Phase → Bool
  | .raised | .active => true
  | _ => false

def RunPoint.phase : RunPoint → Phase
  | .lock | .returned => .out
  | .loadRunning => .deciding
  | .refuse => .refusing
  | .clearCancel => .clearing
  | .resetStage | .setRunning => .raising
  | .unlock => .raised
  | _ => .active

def Invocation.phase : Invocation R → Phase
  | .absent => .out
  | .run _ state => state.point.phase
  | .cancel .lock | .cancel .returned => .out
  | .cancel .loadRunning => .asking
  | .cancel .storeCancel => .storing
  | .cancel .unlock => .leaving

namespace TestRunnerState
variable {s next : TestRunnerState R} {call : Nat}

def phase (s : TestRunnerState R) (call : Nat) : Phase := (s.calls call).phase

theorem setCall_phase (invocation : Invocation R) : (s.setCall call invocation).phase call = invocation.phase := by
  simp [phase,setCall]

theorem setCall_other {other : Nat} (different : other ≠ call) (invocation : Invocation R) :
    (s.setCall call invocation).calls other = s.calls other := by
  simp [setCall,different]

inductive Moves (s next : TestRunnerState R) (call : Nat) : Phase → Phase → Prop where
  | invoke : next.startCancelMutex = s.startCancelMutex → next.cancelRequested = s.cancelRequested →
      next.running = s.running → Moves s next call .out .out
  | enter : entered = .deciding ∨ entered = .asking → s.startCancelMutex = none → next.startCancelMutex = some call →
      next.cancelRequested = s.cancelRequested → next.running = s.running → Moves s next call .out entered
  | refuse : next.startCancelMutex = s.startCancelMutex → next.cancelRequested = s.cancelRequested →
      next.running = s.running → Moves s next call .deciding .refusing
  | accept : s.running = false → next.startCancelMutex = s.startCancelMutex → next.cancelRequested = s.cancelRequested →
      next.running = s.running → Moves s next call .deciding .clearing
  | clear : next.startCancelMutex = s.startCancelMutex → next.cancelRequested = false → next.running = s.running →
      Moves s next call .clearing .raising
  | stage : next.startCancelMutex = s.startCancelMutex → next.cancelRequested = s.cancelRequested →
      next.running = s.running → Moves s next call .raising .raising
  | raise : next.startCancelMutex = s.startCancelMutex → next.cancelRequested = s.cancelRequested →
      next.running = true → Moves s next call .raising .raised
  | release : next.startCancelMutex = none → next.cancelRequested = s.cancelRequested → next.running = s.running →
      Moves s next call .raised .active
  | back : left = .refusing ∨ left = .leaving → next.startCancelMutex = none → next.cancelRequested = s.cancelRequested →
      next.running = s.running → Moves s next call left .out
  | work : next.startCancelMutex = s.startCancelMutex → next.cancelRequested = s.cancelRequested →
      next.running = s.running → Moves s next call .active .active
  | finish : next.startCancelMutex = s.startCancelMutex → next.cancelRequested = s.cancelRequested →
      next.running = false → Moves s next call .active .out
  | ask : s.running = true → next.startCancelMutex = s.startCancelMutex → next.cancelRequested = s.cancelRequested →
      next.running = s.running → Moves s next call .asking .storing
  | idle : s.running = false → next.startCancelMutex = s.startCancelMutex → next.cancelRequested = s.cancelRequested →
      next.running = s.running → Moves s next call .asking .leaving
  | store : next.startCancelMutex = s.startCancelMutex → next.cancelRequested = true → next.running = s.running →
      Moves s next call .storing .leaving

theorem cancelStep_moves (standing : s.calls call = .cancel point) (taken : s.cancelStep call point = some next) :
    Moves s next call (s.phase call) (next.phase call) ∧ ∀ other, other ≠ call → next.calls other = s.calls other := by
  unfold phase
  rw [standing]
  cases point with
  | lock =>
      simp only [cancelStep] at taken
      split at taken
      · rename_i free
        cases taken
        rw [← phase,setCall_phase]
        exact ⟨.enter (.inr rfl) free rfl rfl rfl,fun _ different => setCall_other different _⟩
      · cases taken
  | loadRunning =>
      cases taken
      rw [← phase,setCall_phase]
      refine ⟨?_,fun _ different => setCall_other different _⟩
      cases up : s.running with
      | true => exact .ask up rfl rfl rfl
      | false => exact .idle up rfl rfl rfl
  | storeCancel =>
      cases taken
      rw [← phase,setCall_phase]
      exact ⟨.store rfl rfl rfl,fun _ different => setCall_other different _⟩
  | unlock =>
      cases taken
      rw [← phase,setCall_phase]
      exact ⟨.back (.inr rfl) rfl rfl rfl,fun _ different => setCall_other different _⟩
  | returned => cases taken

theorem working_effect (s : TestRunnerState R) (call : Nat) {point : RunPoint} (working : point.phase = .active)
    (unfinished : point ≠ .clearRunning) :
    (s.runEffect call point).startCancelMutex = s.startCancelMutex ∧
      (s.runEffect call point).cancelRequested = s.cancelRequested ∧ (s.runEffect call point).running = s.running := by
  cases point with
  | clearRunning => exact absurd rfl unfinished
  | lock | loadRunning | refuse | clearCancel | resetStage | setRunning | unlock | returned => cases working
  | _ => exact ⟨rfl,rfl,rfl⟩

section Run
variable [Zero R]

theorem working_step {testCase : TestCaseDefinition} {state after : RunState R} {inputs : RunInputs R}
    (working : state.point.phase = .active) (unfinished : state.point ≠ .clearRunning)
    (taken : runStep testCase state inputs = some after) : after.point.phase = .active := by
  cases runStep_steps taken with
  | @moves point target result deadlineNs follows =>
      cases point with
      | clearRunning => exact absurd rfl unfinished
      | preparing | executing | evaluating | cleaningUp | completeStage =>
          cases follows
          rfl
      | lock | refuse | clearCancel | resetStage | setRunning | unlock => cases working
      | _ => cases follows
  | busy _ | admitted _ => cases working
  | _ => rfl

theorem stepRun_moves {testCase : TestCaseDefinition} {state : RunState R} {inputs : RunInputs R}
    (standing : s.calls call = .run testCase state) (taken : s.stepRun call testCase state inputs = some next) :
    Moves s next call (s.phase call) (next.phase call) ∧ ∀ other, other ≠ call → next.calls other = s.calls other := by
  unfold stepRun at taken
  split at taken
  · cases taken
  rename_i free
  obtain ⟨after,ran,rfl⟩ := Option.map_eq_some_iff.mp taken
  refine ⟨?_,fun other different => ?_⟩
  · rw [setCall_phase,phase,standing]
    by_cases working : state.point.phase = .active
    · by_cases unfinished : state.point = .clearRunning
      · obtain ⟨point,result,deadlineNs⟩ := state
        cases unfinished
        cases ran
        exact .finish rfl rfl rfl
      · have same := working_effect s call working unfinished
        simp only [Invocation.phase,working,working_step working unfinished ran]
        exact .work same.1 same.2.1 same.2.2
    · obtain ⟨point,result,deadlineNs⟩ := state
      cases point with
      | lock =>
          cases ran
          have unlocked : s.startCancelMutex = none := by simpa using free
          exact .enter (.inl rfl) unlocked rfl rfl rfl
      | loadRunning =>
          unfold runStep at ran
          dsimp only at ran
          split at ran
          · cases ran
            exact .refuse rfl rfl rfl
          · rename_i idle
            cases ran
            exact .accept (Bool.eq_false_iff.mpr idle) rfl rfl rfl
      | refuse =>
          cases ran
          exact .back (.inl rfl) rfl rfl rfl
      | clearCancel =>
          cases ran
          exact .clear rfl rfl rfl
      | resetStage =>
          cases ran
          exact .stage rfl rfl rfl
      | setRunning =>
          cases ran
          exact .raise rfl rfl rfl
      | unlock =>
          cases ran
          exact .release rfl rfl rfl
      | returned => cases ran
      | _ => exact absurd rfl working
  · have kept : (s.runEffect call state.point).calls = s.calls := by
      cases state.point <;> rfl
    rw [setCall_other different,kept]

theorem step_moves {action : RunnerAction R} (taken : s.step action = some next) :
    Moves s next action.call (s.phase action.call) (next.phase action.call) ∧
      ∀ other, other ≠ action.call → next.calls other = s.calls other := by
  cases action with
  | run call runId testCase =>
      simp only [step] at taken
      split at taken
      · rename_i absent
        cases taken
        rw [RunnerAction.call,setCall_phase,phase,absent]
        exact ⟨.invoke rfl rfl rfl,fun _ different => setCall_other different _⟩
      · cases taken
  | requestCancel call =>
      simp only [step] at taken
      split at taken
      · rename_i absent
        cases taken
        rw [RunnerAction.call,setCall_phase,phase,absent]
        exact ⟨.invoke rfl rfl rfl,fun _ different => setCall_other different _⟩
      · cases taken
  | advance call inputs =>
      simp only [step] at taken
      split at taken
      · cases taken
      · rename_i standing
        exact stepRun_moves standing taken
      · rename_i standing
        exact cancelStep_moves standing taken

end Run

structure Agreed (s : TestRunnerState R) : Prop where
  held : ∀ call, (s.phase call).locked = true → s.startCancelMutex = some call
  up : ∀ call, (s.phase call).runs = true → s.running = true
  alone : ∀ one two, (s.phase one).runs = true → (s.phase two).runs = true → one = two
  lowered : ∀ call, s.phase call = .clearing ∨ s.phase call = .raising → s.running = false
  cleared : ∀ call, s.phase call = .raising ∨ s.phase call = .raised → s.cancelRequested = false
  left : ∀ one two, s.phase one = .leaving → s.phase two = .active → s.cancelRequested = true

section Effects
variable {before after : Phase}

theorem Moves.mutex (moves : Moves s next call before after) :
    (after.locked = before.locked ∧ next.startCancelMutex = s.startCancelMutex) ∨
      (s.startCancelMutex = none ∧ next.startCancelMutex = some call) ∨
      (before.locked = true ∧ after.locked = false) := by
  cases moves with
  | enter _ free taken => exact .inr (.inl ⟨free,taken⟩)
  | release => exact .inr (.inr ⟨rfl,rfl⟩)
  | back leaves =>
      obtain rfl | rfl := leaves
      · exact .inr (.inr ⟨rfl,rfl⟩)
      · exact .inr (.inr ⟨rfl,rfl⟩)
  | invoke kept | refuse kept | clear kept | stage kept | raise kept | work kept | finish kept | store kept =>
      exact .inl ⟨rfl,kept⟩
  | accept _ kept | ask _ kept | idle _ kept => exact .inl ⟨rfl,kept⟩

theorem Moves.flag (moves : Moves s next call before after) :
    (after.runs = before.runs ∧ next.running = s.running) ∨ (before = .raising ∧ next.running = true) ∨
      (before = .active ∧ after = .out ∧ next.running = false) := by
  cases moves with
  | raise _ _ raised => exact .inr (.inl ⟨rfl,raised⟩)
  | finish _ _ lowered => exact .inr (.inr ⟨rfl,rfl,lowered⟩)
  | enter enters _ _ _ kept =>
      obtain rfl | rfl := enters
      · exact .inl ⟨rfl,kept⟩
      · exact .inl ⟨rfl,kept⟩
  | back leaves _ _ kept =>
      obtain rfl | rfl := leaves
      · exact .inl ⟨rfl,kept⟩
      · exact .inl ⟨rfl,kept⟩
  | invoke _ _ kept | refuse _ _ kept | clear _ _ kept | stage _ _ kept | release _ _ kept | work _ _ kept
  | store _ _ kept => exact .inl ⟨rfl,kept⟩
  | accept _ _ _ kept | ask _ _ _ kept | idle _ _ _ kept => exact .inl ⟨rfl,kept⟩

theorem Moves.cancel (moves : Moves s next call before after) :
    next.cancelRequested = s.cancelRequested ∨ (before = .clearing ∧ next.cancelRequested = false) ∨
      (before = .storing ∧ next.cancelRequested = true) := by
  cases moves with
  | clear _ cleared => exact .inr (.inl ⟨rfl,cleared⟩)
  | store _ stored => exact .inr (.inr ⟨rfl,stored⟩)
  | invoke _ kept | refuse _ kept | stage _ kept | raise _ kept | release _ kept | work _ kept | finish _ kept =>
      exact .inl kept
  | accept _ _ kept | ask _ _ kept | idle _ _ kept | back _ _ kept => exact .inl kept
  | enter _ _ _ kept => exact .inl kept

theorem Moves.activated (moves : Moves s next call before after) (works : after = .active) :
    next.cancelRequested = s.cancelRequested ∧ (before = .raised ∨ before = .active) := by
  subst after
  cases moves with
  | enter enters => simp at enters
  | release _ kept => exact ⟨kept,.inl rfl⟩
  | work _ kept => exact ⟨kept,.inr rfl⟩

theorem locked_alone (held : ∀ call, (s.phase call).locked = true → s.startCancelMutex = some call) {one two : Nat}
    (first : (s.phase one).locked = true) (second : (s.phase two).locked = true) : one = two :=
  Option.some.inj ((held one first).symm.trans (held two second))

end Effects

section Moves
variable {before after : Phase} (moves : Moves s next call before after) (was : s.phase call = before)
  (now : next.phase call = after) (others : ∀ other, other ≠ call → next.phase other = s.phase other)
include moves was now others

theorem moves_held (held : ∀ call, (s.phase call).locked = true → s.startCancelMutex = some call) :
    ∀ other, (next.phase other).locked = true → next.startCancelMutex = some other := by
  intro other locked
  by_cases own : other = call
  · subst other
    rw [now] at locked
    obtain ⟨same,kept⟩ | ⟨_,taken⟩ | ⟨_,outside⟩ := moves.mutex
    · rw [kept]
      apply held
      rw [was,← same,locked]
    · exact taken
    · rw [outside] at locked
      cases locked
  · rw [others other own] at locked
    have holds := held other locked
    obtain ⟨_,kept⟩ | ⟨free,_⟩ | ⟨mine,_⟩ := moves.mutex
    · rw [kept,holds]
    · rw [free] at holds
      cases holds
    · rw [← was] at mine
      exact absurd (locked_alone held locked mine) own

theorem moves_up (up : ∀ call, (s.phase call).runs = true → s.running = true)
    (alone : ∀ one two, (s.phase one).runs = true → (s.phase two).runs = true → one = two) :
    ∀ other, (next.phase other).runs = true → next.running = true := by
  intro other runs
  obtain ⟨same,kept⟩ | ⟨_,raised⟩ | ⟨active,outside,_⟩ := moves.flag
  · rw [kept]
    apply up other
    by_cases own : other = call
    · subst other
      rw [was,← same,← now,runs]
    · rw [← others other own,runs]
  · exact raised
  · have different : other ≠ call := by
      rintro rfl
      rw [now,outside] at runs
      cases runs
    rw [others other different] at runs
    exact absurd (alone other call runs (by rw [was,active]; rfl)) different

theorem moves_alone (up : ∀ call, (s.phase call).runs = true → s.running = true)
    (alone : ∀ one two, (s.phase one).runs = true → (s.phase two).runs = true → one = two)
    (lowered : ∀ call, s.phase call = .clearing ∨ s.phase call = .raising → s.running = false) :
    ∀ one two, (next.phase one).runs = true → (next.phase two).runs = true → one = two := by
  obtain ⟨same,_⟩ | ⟨raising,_⟩ | ⟨_,outside,_⟩ := moves.flag
  · have kept : ∀ other, (next.phase other).runs = (s.phase other).runs := by
      intro other
      by_cases own : other = call
      · subst other
        rw [was,now,same]
      · rw [others other own]
    intro one two first second
    exact alone one two (kept one ▸ first) (kept two ▸ second)
  · have down : s.running = false := lowered call (.inr (was.trans raising))
    have own : ∀ other, (next.phase other).runs = true → other = call := by
      intro other runs
      by_contra different
      rw [others other different] at runs
      rw [up other runs] at down
      cases down
    intro one two first second
    rw [own one first,own two second]
  · have earlier : ∀ other, (next.phase other).runs = true → (s.phase other).runs = true := by
      intro other runs
      by_cases own : other = call
      · subst other
        rw [now,outside] at runs
        cases runs
      · rw [← others other own,runs]
    intro one two first second
    exact alone one two (earlier one first) (earlier two second)

theorem moves_lowered (held : ∀ call, (s.phase call).locked = true → s.startCancelMutex = some call)
    (lowered : ∀ call, s.phase call = .clearing ∨ s.phase call = .raising → s.running = false) :
    ∀ other, next.phase other = .clearing ∨ next.phase other = .raising → next.running = false := by
  intro other starting
  by_cases own : other = call
  · subst other
    rw [now] at starting
    cases moves with
    | accept down _ _ kept => exact kept.trans down
    | clear _ _ kept => exact kept.trans (lowered call (.inl was))
    | stage _ _ kept => exact kept.trans (lowered call (.inr was))
    | enter enters => obtain rfl | rfl := enters <;> simp at starting
    | _ => simp at starting
  · rw [others other own] at starting
    have down := lowered other starting
    obtain ⟨_,kept⟩ | ⟨raising,_⟩ | ⟨_,_,finished⟩ := moves.flag
    · exact kept.trans down
    · have locked : (s.phase other).locked = true := by
        obtain stands | stands := starting
        · rw [stands]; rfl
        · rw [stands]; rfl
      exact absurd (locked_alone held locked (by rw [was,raising]; rfl)) own
    · exact finished

theorem moves_cleared (held : ∀ call, (s.phase call).locked = true → s.startCancelMutex = some call)
    (cleared : ∀ call, s.phase call = .raising ∨ s.phase call = .raised → s.cancelRequested = false) :
    ∀ other, next.phase other = .raising ∨ next.phase other = .raised → next.cancelRequested = false := by
  intro other starting
  by_cases own : other = call
  · subst other
    rw [now] at starting
    cases moves with
    | clear _ stored => exact stored
    | stage _ kept => exact kept.trans (cleared call (.inl was))
    | raise _ kept => exact kept.trans (cleared call (.inl was))
    | enter enters => obtain rfl | rfl := enters <;> simp at starting
    | _ => simp at starting
  · rw [others other own] at starting
    have down := cleared other starting
    obtain kept | ⟨_,stored⟩ | ⟨storing,_⟩ := moves.cancel
    · exact kept.trans down
    · exact stored
    · have locked : (s.phase other).locked = true := by
        obtain stands | stands := starting
        · rw [stands]; rfl
        · rw [stands]; rfl
      exact absurd (locked_alone held locked (by rw [was,storing]; rfl)) own

-- A cancel leaves with its store done or with no run up, and none starts meanwhile.
theorem moves_left (held : ∀ call, (s.phase call).locked = true → s.startCancelMutex = some call)
    (up : ∀ call, (s.phase call).runs = true → s.running = true)
    (left : ∀ one two, s.phase one = .leaving → s.phase two = .active → s.cancelRequested = true) :
    ∀ one two, next.phase one = .leaving → next.phase two = .active → next.cancelRequested = true := by
  intro one two leaves works
  by_cases own : one = call
  · subst one
    have different : two ≠ call := by
      rintro rfl
      rw [leaves] at works
      cases works
    rw [others two different] at works
    rw [now] at leaves
    cases moves with
    | idle down =>
        rw [up two (by rw [works]; rfl)] at down
        cases down
    | store _ stored => exact stored
    | enter enters => obtain rfl | rfl := enters <;> simp at leaves
    | _ => simp at leaves
  · rw [others one own] at leaves
    have locked : (s.phase one).locked = true := by rw [leaves]; rfl
    have alone : ∀ {phase : Phase}, s.phase call = phase → phase.locked = false := by
      intro phase stands
      by_contra inside
      exact own (locked_alone held locked (by simpa [stands] using inside))
    by_cases starts : two = call
    · subst two
      obtain ⟨kept,raised | active⟩ := moves.activated (now.symm.trans works)
      · cases alone (was.trans raised)
      · exact kept.trans (left one call leaves (was.trans active))
    · rw [others two starts] at works
      have stored := left one two leaves works
      obtain kept | ⟨clearing,_⟩ | ⟨_,stored⟩ := moves.cancel
      · exact kept.trans stored
      · cases alone (was.trans clearing)
      · exact stored

theorem agreed_moves (agreed : Agreed s) : Agreed next where
  held := moves_held moves was now others agreed.held
  up := moves_up moves was now others agreed.up agreed.alone
  alone := moves_alone moves was now others agreed.up agreed.alone agreed.lowered
  lowered := moves_lowered moves was now others agreed.held agreed.lowered
  cleared := moves_cleared moves was now others agreed.held agreed.cleared
  left := moves_left moves was now others agreed.held agreed.up agreed.left

end Moves

end TestRunnerState

abbrev RunnerMoment (R : Type) := Moment (TestRunnerState R) (RunnerAction R)

def StartSectionEnds (call : Nat) (m : RunnerMoment R) : Prop := m.action.call = call ∧ m.before.phase call = .raised

def CancelSectionEnds (m : RunnerMoment R) : Prop := m.before.phase m.action.call = .leaving

def CancelAsks (m : RunnerMoment R) : Prop := m.before.phase m.action.call = .asking ∧ m.before.running = true

def Quiet (call : Nat) : List (RunnerMoment R) → Prop :=
  Since (fun m => ¬CancelSectionEnds m) fun m _ => StartSectionEnds call m

def Asked (call : Nat) : List (RunnerMoment R) → Prop :=
  Since (fun _ => True) fun m _ => CancelAsks m ∧ m.before.phase call = .active

structure Accounted (history : List (RunnerMoment R)) (s : TestRunnerState R) : Prop where
  quiet : ∀ call, s.phase call = .active → s.cancelRequested = true ∨ Quiet call history
  stores : ∀ one two, s.phase one = .storing → s.phase two = .active → Asked two history
  asked : ∀ call, s.phase call = .active → s.cancelRequested = true → Asked call history

section Account
variable {s next : TestRunnerState R} {action : RunnerAction R} {history : List (RunnerMoment R)} {before after : Phase}
open TestRunnerState
variable (moves : Moves s next action.call before after) (was : s.phase action.call = before)
  (now : next.phase action.call = after) (others : ∀ other, other ≠ action.call → next.phase other = s.phase other)
include moves was now others

theorem moves_quiet (up : ∀ call, (s.phase call).runs = true → s.running = true)
    (lowered : ∀ call, s.phase call = .clearing ∨ s.phase call = .raising → s.running = false)
    (left : ∀ one two, s.phase one = .leaving → s.phase two = .active → s.cancelRequested = true)
    (quiet : ∀ call, s.phase call = .active → s.cancelRequested = true ∨ Quiet call history) (call : Nat)
    (works : next.phase call = .active) : next.cancelRequested = true ∨ Quiet call (⟨s,action,next⟩ :: history) := by
  change _ ∨ StartSectionEnds call ⟨s,action,next⟩ ∨ ¬CancelSectionEnds ⟨s,action,next⟩ ∧ Quiet call history
  by_cases own : call = action.call
  · subst call
    obtain ⟨kept,raised | active⟩ := moves.activated (now.symm.trans works)
    · exact .inr (.inl ⟨rfl,was.trans raised⟩)
    · have stands := was.trans active
      rw [kept]
      refine (quiet action.call stands).imp_right fun since => .inr ⟨?_,since⟩
      intro ends
      cases stands.symm.trans ends
  · rw [others call own] at works
    have stored : s.cancelRequested = true → next.cancelRequested = true := by
      intro before
      obtain kept | ⟨clearing,_⟩ | ⟨_,stored⟩ := moves.cancel
      · exact kept.trans before
      · have down := lowered action.call (.inl (was.trans clearing))
        rw [up call (by rw [works]; rfl)] at down
        cases down
      · exact stored
    by_cases ends : CancelSectionEnds ⟨s,action,next⟩
    · exact .inl (stored (left action.call call ends works))
    · exact (quiet call works).imp stored fun since => .inr ⟨ends,since⟩

-- A run cannot start between the load and the store of a cancel.
theorem moves_stores (held : ∀ call, (s.phase call).locked = true → s.startCancelMutex = some call)
    (stores : ∀ one two, s.phase one = .storing → s.phase two = .active → Asked two history) (one two : Nat)
    (storing : next.phase one = .storing) (works : next.phase two = .active) : Asked two (⟨s,action,next⟩ :: history) := by
  change (CancelAsks ⟨s,action,next⟩ ∧ s.phase two = .active) ∨ True ∧ Asked two history
  by_cases own : one = action.call
  · subst one
    have different : two ≠ action.call := by
      rintro rfl
      rw [storing] at works
      cases works
    rw [others two different] at works
    rw [now] at storing
    cases moves with
    | ask up => exact .inl ⟨⟨was,up⟩,works⟩
    | enter enters => obtain rfl | rfl := enters <;> simp at storing
    | _ => simp at storing
  · rw [others one own] at storing
    have active : s.phase two = .active := by
      by_cases starts : two = action.call
      · subst two
        obtain ⟨_,raised | active⟩ := moves.activated (now.symm.trans works)
        · exact absurd (locked_alone held (by rw [storing]; rfl) (by rw [was,raised]; rfl)) own
        · exact was.trans active
      · rw [← others two starts,works]
    exact .inr ⟨trivial,stores one two storing active⟩

theorem moves_asked (cleared : ∀ call, s.phase call = .raising ∨ s.phase call = .raised → s.cancelRequested = false)
    (stores : ∀ one two, s.phase one = .storing → s.phase two = .active → Asked two history)
    (asked : ∀ call, s.phase call = .active → s.cancelRequested = true → Asked call history) (call : Nat)
    (works : next.phase call = .active) (cancelled : next.cancelRequested = true) : Asked call (⟨s,action,next⟩ :: history) := by
  change (CancelAsks ⟨s,action,next⟩ ∧ s.phase call = .active) ∨ True ∧ Asked call history
  by_cases own : call = action.call
  · subst call
    obtain ⟨kept,raised | active⟩ := moves.activated (now.symm.trans works)
    · rw [kept,cleared action.call (.inr (was.trans raised))] at cancelled
      cases cancelled
    · exact .inr ⟨trivial,asked action.call (was.trans active) (kept.symm.trans cancelled)⟩
  · rw [others call own] at works
    obtain kept | ⟨_,low⟩ | ⟨storing,_⟩ := moves.cancel
    · exact .inr ⟨trivial,asked call works (kept.symm.trans cancelled)⟩
    · rw [low] at cancelled
      cases cancelled
    · exact .inr ⟨trivial,stores action.call call (was.trans storing) works⟩

theorem accounted_moves (agreed : Agreed s) (accounted : Accounted history s) :
    Accounted (⟨s,action,next⟩ :: history) next where
  quiet := moves_quiet moves was now others agreed.up agreed.lowered agreed.left accounted.quiet
  stores := moves_stores moves was now others agreed.held accounted.stores
  asked := moves_asked moves was now others agreed.cleared accounted.stores accounted.asked

end Account

def StopCheck (call : Nat) (m : RunnerMoment R) : Prop :=
  m.action.call = call ∧ ∃ testCase state phase, m.before.calls call = .run testCase state ∧ state.point = .cancelCheck phase

def LastStopCheck (call : Nat) (m : RunnerMoment R) : Prop :=
  m.action.call = call ∧
    ∃ testCase state evaluation, m.before.calls call = .run testCase state ∧ state.point = .cancelCheck (.evaluated evaluation)

def Checked (call : Nat) : List (RunnerMoment R) → Prop :=
  Since (fun m => ¬StopCheck call m) fun m past => LastStopCheck call m ∧ Quiet call past

structure Verdicts (history : List (RunnerMoment R)) (s : TestRunnerState R) : Prop where
  undecided : ∀ call testCase state, s.calls call = .run testCase state → 7 ≤ state.point.rank →
    state.result.outcome = .error
  checked : ∀ call testCase state, s.calls call = .run testCase state →
    (∃ evaluation, state.point = .deadlineCheck (.evaluated evaluation)) ∨ state.result.outcome = .passed ∨
      state.result.outcome = .failed → Checked call history
  aborted : ∀ call testCase state, s.calls call = .run testCase state → state.result.outcome = .aborted → Asked call history

section Checks
variable {s next : TestRunnerState R} {action : RunnerAction R} {history : List (RunnerMoment R)}

theorem working_phase (standing : s.calls call = .run testCase state) (works : state.point.phase = .active) :
    s.phase call = .active := by
  rw [TestRunnerState.phase,standing,Invocation.phase,works]

theorem past_checked (verdicts : Verdicts history s) (before : s.calls call = .run testCase state)
    (judged : (∃ evaluation, state.point = .deadlineCheck (.evaluated evaluation)) ∨
      state.result.outcome = .passed ∨ state.result.outcome = .failed) : Checked call (⟨s,action,next⟩ :: history) := by
  refine .inr ⟨?_,verdicts.checked _ _ _ before judged⟩
  rintro ⟨_,otherCase,other,phase,same,check⟩
  rw [before] at same
  cases same
  have fresh := verdicts.undecided _ _ _ before (by rw [check]; cases phase <;> simp [RunPoint.rank])
  rcases judged with ⟨evaluation,point⟩ | outcome | outcome
  · rw [check] at point
    cases point
  · simp [fresh] at outcome
  · simp [fresh] at outcome

end Checks

section Runs
variable [Zero R] {s next : TestRunnerState R} {action : RunnerAction R} {history : List (RunnerMoment R)}
open TestRunnerState

theorem own_step (taken : s.step action = some next) (standing : next.calls action.call = .run testCase after) :
    (∃ runId, after = RunState.start runId testCase) ∨
      ∃ state inputs, s.calls action.call = .run testCase state ∧ runStep testCase state (s.seen inputs) = some after := by
  cases action with
  | run call runId started =>
      simp only [step] at taken
      split at taken
      · cases taken
        simp only [RunnerAction.call,setCall,Function.update_self,Invocation.run.injEq] at standing
        obtain ⟨rfl,rfl⟩ := standing
        exact .inl ⟨runId,rfl⟩
      · cases taken
  | requestCancel call =>
      simp only [step] at taken
      split at taken
      · cases taken
        simp [RunnerAction.call,setCall] at standing
      · cases taken
  | advance call inputs =>
      simp only [step] at taken
      split at taken
      · cases taken
      · rename_i started state before
        unfold stepRun at taken
        split at taken
        · cases taken
        obtain ⟨reached,ran,rfl⟩ := Option.map_eq_some_iff.mp taken
        simp only [RunnerAction.call,setCall,Function.update_self,Invocation.run.injEq] at standing
        obtain ⟨rfl,rfl⟩ := standing
        exact .inr ⟨state,inputs,before,ran⟩
      · rename_i point before
        cases point with
        | lock =>
            simp only [cancelStep] at taken
            split at taken
            · cases taken
              simp [RunnerAction.call,setCall] at standing
            · cases taken
        | returned => cases taken
        | _ =>
            cases taken
            simp [RunnerAction.call,setCall] at standing

theorem invocation_step (taken : s.step action = some next) (standing : next.calls call = .run testCase after) :
    (call ≠ action.call ∧ s.calls call = .run testCase after) ∨
      call = action.call ∧ ((∃ runId, after = RunState.start runId testCase) ∨
        ∃ state inputs, s.calls call = .run testCase state ∧ runStep testCase state (s.seen inputs) = some after) := by
  by_cases mine : call = action.call
  · subst mine
    exact .inr ⟨rfl,own_step taken standing⟩
  · exact .inl ⟨mine,((step_moves taken).2 call mine).symm.trans standing⟩

theorem undecided_step (verdicts : Verdicts history s) (taken : s.step action = some next)
    (standing : next.calls call = .run testCase after) (early : 7 ≤ after.point.rank) : after.result.outcome = .error := by
  rcases invocation_step taken standing with ⟨_,before⟩ | ⟨_,⟨runId,rfl⟩ | ⟨state,inputs,before,ran⟩⟩
  · exact verdicts.undecided _ _ _ before early
  · rfl
  · exact step_undecided (verdicts.undecided _ _ _ before) ran early

theorem load_checked (accounted : Accounted history s) (before : s.calls action.call = .run testCase state)
    (ran : runStep testCase state (s.seen inputs) = some after) (clear : after.point = .deadlineCheck (.evaluated evaluation)) :
    Checked action.call (⟨s,action,next⟩ :: history) := by
  have checks : after.point.checking = some evaluation := by
    rw [clear]
    rfl
  obtain ⟨check,unset⟩ := (step_checking ran checks).resolve_left (by simp [clear])
  rcases accounted.quiet _ (working_phase before (by rw [check]; rfl)) with set | quiet
  · exact absurd (set.symm.trans unset) (by decide)
  · exact .inl ⟨⟨rfl,testCase,state,evaluation,before,check⟩,quiet⟩

theorem checked_step (accounted : Accounted history s) (verdicts : Verdicts history s) (taken : s.step action = some next)
    (standing : next.calls call = .run testCase after)
    (decided : (∃ evaluation, after.point = .deadlineCheck (.evaluated evaluation)) ∨ after.result.outcome = .passed ∨
      after.result.outcome = .failed) : Checked call (⟨s,action,next⟩ :: history) := by
  rcases invocation_step taken standing with ⟨_,before⟩ | ⟨rfl,⟨runId,rfl⟩ | ⟨state,inputs,before,ran⟩⟩
  · exact past_checked verdicts before decided
  · rcases decided with ⟨_,point⟩ | outcome | outcome
    · cases point
    · cases outcome
    · cases outcome
  · by_cases clear : ∃ evaluation, after.point = .deadlineCheck (.evaluated evaluation)
    · obtain ⟨evaluation,point⟩ := clear
      exact load_checked accounted before ran point
    · refine past_checked verdicts before ?_
      have outcome := decided.resolve_left clear
      rcases step_outcome ran with same | failed | ⟨_,_,_,aborted⟩ | ⟨evaluation,point,_,_⟩
      · exact .inr (same ▸ outcome)
      · simp [failed] at outcome
      · simp [aborted] at outcome
      · exact .inl ⟨evaluation,point⟩

theorem aborted_step (accounted : Accounted history s) (verdicts : Verdicts history s) (taken : s.step action = some next)
    (standing : next.calls call = .run testCase after) (aborts : after.result.outcome = .aborted) :
    Asked call (⟨s,action,next⟩ :: history) := by
  refine .inr ⟨trivial,?_⟩
  rcases invocation_step taken standing with ⟨_,before⟩ | ⟨rfl,⟨runId,rfl⟩ | ⟨state,inputs,before,ran⟩⟩
  · exact verdicts.aborted _ _ _ before aborts
  · cases aborts
  · rcases step_outcome ran with same | failed | ⟨phase,point,cancelled,_⟩ | ⟨_,_,_,judged⟩
    · exact verdicts.aborted _ _ _ before (same ▸ aborts)
    · simp [failed] at aborts
    · exact accounted.asked _ (working_phase before (by rw [point]; rfl)) cancelled
    · rw [aborts] at judged
      split at judged <;> cases judged

theorem Verdicts.step (accounted : Accounted history s) (verdicts : Verdicts history s) (taken : s.step action = some next) :
    Verdicts (⟨s,action,next⟩ :: history) next where
  undecided := fun _ _ _ => undecided_step verdicts taken
  checked := fun _ _ _ => checked_step accounted verdicts taken
  aborted := fun _ _ _ => aborted_step accounted verdicts taken

theorem runner_invariant (path : Reached TestRunnerState.step ({} : TestRunnerState R) history s) :
    Agreed s ∧ Accounted history s ∧ Verdicts history s := by
  refine reached_invariant (fun history s => Agreed s ∧ Accounted history s ∧ Verdicts history s) ?_ ?_ path
  · refine ⟨⟨?_,?_,?_,?_,?_,?_⟩,⟨?_,?_,?_⟩,⟨?_,?_,?_⟩⟩ <;> simp [TestRunnerState.phase,Invocation.phase,Phase.locked,Phase.runs]
  · rintro past s action next ⟨agreed,accounted,verdicts⟩ taken
    obtain ⟨moves,others⟩ := step_moves taken
    have phases (other : Nat) (different : other ≠ action.call) : next.phase other = s.phase other :=
      congrArg Invocation.phase (others other different)
    exact ⟨agreed_moves moves rfl rfl phases agreed,accounted_moves moves rfl rfl phases agreed accounted,verdicts.step accounted taken⟩

def IdleCancelPasses (m : RunnerMoment R) : Prop :=
  m.before.phase m.action.call = .asking → m.before.running = false →
    m.after.phase m.action.call = .leaving ∧ m.after.cancelRequested = m.before.cancelRequested

theorem idle_cancel_passes (taken : s.step action = some next) : IdleCancelPasses ⟨s,action,next⟩ := by
  intro asking idle
  have moves := (step_moves taken).1
  dsimp only at asking idle ⊢
  rw [asking] at moves
  generalize next.phase action.call = after at moves
  cases moves with
  | idle _ _ kept _ => exact ⟨rfl,kept⟩
  | ask up _ _ _ => exact absurd (up.symm.trans idle) (by decide)
  | back left _ _ _ => simp at left

theorem cancellation_accounted (path : Reached TestRunnerState.step ({} : TestRunnerState R) history s) :
    (∀ call testCase state, s.calls call = .run testCase state → state.point = .returned →
      (state.result.outcome = .passed ∨ state.result.outcome = .failed →
        Since (fun m => ¬StopCheck call m) (fun m past => LastStopCheck call m ∧ Quiet call past) history) ∧
      (state.result.outcome = .aborted → Asked call history)) ∧
      Throughout (fun m _ => IdleCancelPasses m) history := by
  refine ⟨fun call testCase state standing _ => ?_,?_⟩
  · obtain ⟨_,_,verdicts⟩ := runner_invariant path
    exact ⟨fun decided => verdicts.checked call testCase state standing (.inr decided),
      verdicts.aborted call testCase state standing⟩
  · exact throughout_invariant (fun _ _ => True) trivial (fun _ _ _ _ _ _ => trivial)
      (fun _ _ _ _ _ taken => idle_cancel_passes taken) path

def cancelThenRun : List (RunnerAction ℚ) :=
  .requestCancel 0 :: List.replicate 3 (.advance 0 {}) ++ .run 1 (text "run") passingCase ::
    List.replicate 27 (.advance 1 passingInputs)

def cancelledThenRun : List (RunnerMoment ℚ) × TestRunnerState ℚ :=
  (replay TestRunnerState.step [] {} cancelThenRun).get (by decide +kernel)

theorem cancellation_accounted_passing :
    cancelledThenRun.2.calls 1 = .run passingCase passedRun.2 ∧ passedRun.2.result.outcome = .passed ∧
      Since (fun m => ¬StopCheck 1 m) (fun m past => LastStopCheck 1 m ∧ Quiet 1 past) cancelledThenRun.1 := by
  have path : Reached TestRunnerState.step {} cancelledThenRun.1 cancelledThenRun.2 := replayed_reached _ (by decide +kernel)
  have standing : cancelledThenRun.2.calls 1 = .run passingCase passedRun.2 := by decide +kernel
  have passed : passedRun.2.result.outcome = .passed := by decide +kernel
  exact ⟨standing,passed,((cancellation_accounted path).1 1 passingCase passedRun.2 standing (by decide +kernel)).1 (.inl passed)⟩

end Runs

end Runner

end RobotControlRuntime
