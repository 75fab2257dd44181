import RobotControlRuntime.Types

namespace RobotControlRuntime

structure TransitionResult where
  accepted : Bool
  fromMode : RuntimeMode
  toMode : RuntimeMode
  reason : String
  deriving DecidableEq, Repr

structure RuntimeStateMachine where
  mode : RuntimeMode := .disabled
  interlockReady : Bool := false
  fault : FaultCode := .none
  deriving DecidableEq, Repr

namespace RuntimeStateMachine

def canAcceptOutput (m : RuntimeStateMachine) : Bool := m.mode == .active && m.interlockReady

def setFault (m : RuntimeStateMachine) (code : FaultCode) : RuntimeStateMachine := {m with fault := code}

def explain (event : RuntimeEvent) (reason : String) : String :=
  reason ++ " (event=" ++ event.toText ++ ")"

def reject (m : RuntimeStateMachine) (event : RuntimeEvent) (reason : String) :
    RuntimeStateMachine × TransitionResult :=
  (m,⟨false,m.mode,m.mode,explain event reason⟩)

def accept (m : RuntimeStateMachine) (next : RuntimeMode) (event : RuntimeEvent) (reason : String) :
    RuntimeStateMachine × TransitionResult :=
  ({m with mode := next},⟨true,m.mode,next,explain event reason⟩)

-- The interlock value is stored before the mode switch, so a transition taken
-- for the same event already sees it.
def noteInterlock (m : RuntimeStateMachine) : RuntimeEvent → RuntimeStateMachine
  | .interlockReady => {m with interlockReady := true}
  | .interlockLost => {m with interlockReady := false}
  | _ => m

-- What is left after the mode switch: an interlock event is information only,
-- anything else is not allowed in the current mode.
def fallThrough (m : RuntimeStateMachine) (event : RuntimeEvent) : RuntimeStateMachine × TransitionResult :=
  if event = .interlockReady ∨ event = .interlockLost then
    m.accept m.mode event "interlock information updated"
  else m.reject event "transition not allowed in current mode"

def handleDisabled (m : RuntimeStateMachine) (event : RuntimeEvent) : RuntimeStateMachine × TransitionResult :=
  match event with
  | .boot => m.accept .idle event "boot complete"
  | .deactivateRequest => m.accept .disabled event "already disabled"
  | .activateRequest => m.reject event "must boot to idle before activation"
  | .eStopReset => m.reject event "not in ESTOP"
  | _ => m.fallThrough event

def handleIdle (m : RuntimeStateMachine) (event : RuntimeEvent) : RuntimeStateMachine × TransitionResult :=
  match event with
  | .activateRequest =>
    if m.interlockReady then (m.setFault .none).accept .active event "output path activated"
    else m.reject event "interlock must be ready before activation"
  | .deactivateRequest => m.accept .disabled event "disabled from idle"
  | .faultDetected => m.accept .fault event "fault while idle"
  | _ => m.fallThrough event

def handleActive (m : RuntimeStateMachine) (event : RuntimeEvent) : RuntimeStateMachine × TransitionResult :=
  match event with
  | .deactivateRequest => m.accept .idle event "deactivated"
  | .commandTimeout => (m.setFault .watchdog).accept .hold event "command timeout hold"
  | .interlockLost => (m.setFault .interlockLost).accept .hold event "software interlock lost"
  | .faultDetected => m.accept .fault event "fault while active"
  | .hold => m.accept .hold event "explicit hold"
  | _ => m.fallThrough event

def holdFault (code : FaultCode) : Bool :=
  code == .watchdog || code == .interlockLost || code == .ackTimeout || code == .none

def handleHold (m : RuntimeStateMachine) (event : RuntimeEvent) : RuntimeStateMachine × TransitionResult :=
  match event with
  | .resume =>
    if !m.interlockReady then m.reject event "cannot acknowledge hold without interlock"
    else if holdFault m.fault then
      (m.setFault .none).accept .idle event "hold acknowledged; activation required"
    else m.reject event "clear fault before resume"
  | .deactivateRequest => (m.setFault .none).accept .disabled event "disabled from hold"
  | .faultDetected => m.accept .fault event "fault while holding"
  | .interlockReady => m.accept .hold event "interlock restored; still holding"
  | _ => m.fallThrough event

def handleFault (m : RuntimeStateMachine) (event : RuntimeEvent) : RuntimeStateMachine × TransitionResult :=
  match event with
  | .faultCleared => (m.setFault .none).accept .idle event "fault cleared to idle"
  | .deactivateRequest => (m.setFault .none).accept .disabled event "disabled from fault"
  | _ => m.fallThrough event

def handleEStop (m : RuntimeStateMachine) (event : RuntimeEvent) : RuntimeStateMachine × TransitionResult :=
  match event with
  | .eStopReset =>
    if m.interlockReady then (m.setFault .none).accept .idle event "estop reset to idle"
    else m.reject event "cannot reset ESTOP while interlock is open"
  | .activateRequest | .resume => m.reject event "ESTOP latched; reset required"
  | _ => m.fallThrough event

def handle (machine : RuntimeStateMachine) (event : RuntimeEvent) : RuntimeStateMachine × TransitionResult :=
  let m := machine.noteInterlock event
  -- An emergency stop is taken in every mode, before the mode switch.
  if event = .eStopTrigger then (m.setFault .none).accept .eStop event "emergency stop latched"
  else match m.mode with
    | .disabled => m.handleDisabled event
    | .idle => m.handleIdle event
    | .active => m.handleActive event
    | .hold => m.handleHold event
    | .fault => m.handleFault event
    | .eStop => m.handleEStop event

def setInterlockReady (m : RuntimeStateMachine) (ready : Bool) : RuntimeStateMachine :=
  (m.handle (if ready then .interlockReady else .interlockLost)).1

-- The accepted transitions, from the machine that has stored the interlock value
-- of the event: the mode entered and the fault code left behind.
inductive Moves (m : RuntimeStateMachine) : RuntimeEvent → RuntimeMode → FaultCode → Prop where
  | stopped : Moves m .eStopTrigger .eStop .none
  | informed : Moves m .interlockReady m.mode m.fault
  | warned (inactive : m.mode ≠ .active) : Moves m .interlockLost m.mode m.fault
  | booted (disabled : m.mode = .disabled) : Moves m .boot .idle m.fault
  | disabled (quiet : m.mode = .disabled ∨ m.mode = .idle) : Moves m .deactivateRequest .disabled m.fault
  | abandoned (stuck : m.mode = .hold ∨ m.mode = .fault) : Moves m .deactivateRequest .disabled .none
  | activated (idle : m.mode = .idle) (ready : m.interlockReady = true) : Moves m .activateRequest .active .none
  | deactivated (active : m.mode = .active) : Moves m .deactivateRequest .idle m.fault
  | timedOut (active : m.mode = .active) : Moves m .commandTimeout .hold .watchdog
  | interlocked (active : m.mode = .active) : Moves m .interlockLost .hold .interlockLost
  | held (active : m.mode = .active) : Moves m .hold .hold m.fault
  | faulted (running : m.mode = .idle ∨ m.mode = .active ∨ m.mode = .hold) : Moves m .faultDetected .fault m.fault
  | resumed (held : m.mode = .hold) (ready : m.interlockReady = true) (mild : holdFault m.fault = true) :
      Moves m .resume .idle .none
  | cleared (faulted : m.mode = .fault) : Moves m .faultCleared .idle .none
  | reset (stopped : m.mode = .eStop) (ready : m.interlockReady = true) : Moves m .eStopReset .idle .none

def informs (event : RuntimeEvent) : Bool := event == .interlockReady || event == .interlockLost

inductive Handled (m : RuntimeStateMachine) (event : RuntimeEvent) : RuntimeStateMachine × TransitionResult → Prop where
  | rejected (reason : String) (silent : informs event = false) : Handled m event (m.reject event reason)
  | moved (reason : String) (moves : Moves m event next code) :
      Handled m event ({m with mode := next,fault := code},⟨true,m.mode,next,explain event reason⟩)

theorem fallThrough_parts (m : RuntimeStateMachine) (event : RuntimeEvent)
    (outside : m.mode = .active → event ≠ .interlockLost) : Handled m event (m.fallThrough event) := by
  unfold fallThrough
  split
  · rename_i interlock
    rcases interlock with rfl | rfl
    · exact .moved _ .informed
    · exact .moved _ (.warned fun active => outside active rfl)
  · rename_i other
    refine .rejected _ ?_
    simpa [informs] using other

theorem disabled_parts (m : RuntimeStateMachine) (event : RuntimeEvent) (here : m.mode = .disabled) :
    Handled m event (m.handleDisabled event) := by
  have outside : m.mode = .active → event ≠ .interlockLost := by simp [here]
  cases event with
  | boot => exact .moved _ (.booted here)
  | deactivateRequest => exact .moved _ (.disabled (.inl here))
  | activateRequest | eStopReset => exact .rejected _ rfl
  | _ => exact m.fallThrough_parts _ outside

theorem idle_parts (m : RuntimeStateMachine) (event : RuntimeEvent) (here : m.mode = .idle) :
    Handled m event (m.handleIdle event) := by
  have outside : m.mode = .active → event ≠ .interlockLost := by simp [here]
  cases event with
  | activateRequest =>
      simp only [handleIdle]
      split
      · rename_i ready
        exact .moved _ (.activated here ready)
      · exact .rejected _ rfl
  | deactivateRequest => exact .moved _ (.disabled (.inr here))
  | faultDetected => exact .moved _ (.faulted (.inl here))
  | _ => exact m.fallThrough_parts _ outside

theorem active_parts (m : RuntimeStateMachine) (event : RuntimeEvent) (here : m.mode = .active) :
    Handled m event (m.handleActive event) := by
  cases event with
  | deactivateRequest => exact .moved _ (.deactivated here)
  | commandTimeout => exact .moved _ (.timedOut here)
  | interlockLost => exact .moved _ (.interlocked here)
  | faultDetected => exact .moved _ (.faulted (.inr (.inl here)))
  | hold => exact .moved _ (.held here)
  | _ => exact m.fallThrough_parts _ fun _ => nofun

theorem hold_parts (m : RuntimeStateMachine) (event : RuntimeEvent) (here : m.mode = .hold) :
    Handled m event (m.handleHold event) := by
  have outside : m.mode = .active → event ≠ .interlockLost := by simp [here]
  cases event with
  | resume =>
      simp only [handleHold]
      split
      · exact .rejected _ rfl
      · rename_i ready
        split
        · rename_i mild
          exact .moved _ (.resumed here (by simpa using ready) mild)
        · exact .rejected _ rfl
  | deactivateRequest => exact .moved _ (.abandoned (.inl here))
  | faultDetected => exact .moved _ (.faulted (.inr (.inr here)))
  | interlockReady =>
      simp only [handleHold,← here]
      exact .moved _ .informed
  | _ => exact m.fallThrough_parts _ outside

theorem fault_parts (m : RuntimeStateMachine) (event : RuntimeEvent) (here : m.mode = .fault) :
    Handled m event (m.handleFault event) := by
  have outside : m.mode = .active → event ≠ .interlockLost := by simp [here]
  cases event with
  | faultCleared => exact .moved _ (.cleared here)
  | deactivateRequest => exact .moved _ (.abandoned (.inr here))
  | _ => exact m.fallThrough_parts _ outside

theorem eStop_parts (m : RuntimeStateMachine) (event : RuntimeEvent) (here : m.mode = .eStop) :
    Handled m event (m.handleEStop event) := by
  have outside : m.mode = .active → event ≠ .interlockLost := by simp [here]
  cases event with
  | eStopReset =>
      simp only [handleEStop]
      split
      · rename_i ready
        exact .moved _ (.reset here ready)
      · exact .rejected _ rfl
  | activateRequest | resume => exact .rejected _ rfl
  | _ => exact m.fallThrough_parts _ outside

theorem handle_parts (m : RuntimeStateMachine) (event : RuntimeEvent) :
    Handled (m.noteInterlock event) event (m.handle event) := by
  unfold handle
  dsimp only
  generalize m.noteInterlock event = noted
  split
  · rename_i stop
    subst stop
    exact .moved _ .stopped
  · split
    · exact noted.disabled_parts event (by assumption)
    · exact noted.idle_parts event (by assumption)
    · exact noted.active_parts event (by assumption)
    · exact noted.hold_parts event (by assumption)
    · exact noted.fault_parts event (by assumption)
    · exact noted.eStop_parts event (by assumption)

theorem note_mode (m : RuntimeStateMachine) (event : RuntimeEvent) : (m.noteInterlock event).mode = m.mode := by
  cases event <;> rfl

theorem note_silent (m : RuntimeStateMachine) (silent : informs event = false) : m.noteInterlock event = m := by
  cases event with
  | interlockReady | interlockLost => cases silent
  | _ => rfl

theorem handle_fromMode (m : RuntimeStateMachine) (event : RuntimeEvent) :
    (m.handle event).2.fromMode = m.mode := by
  have handled := m.handle_parts event
  rw [← m.note_mode event]
  generalize m.handle event = outcome at handled ⊢
  cases handled <;> rfl

theorem handle_toMode (m : RuntimeStateMachine) (event : RuntimeEvent) :
    (m.handle event).2.toMode = (m.handle event).1.mode := by
  have handled := m.handle_parts event
  generalize m.handle event = outcome at handled ⊢
  cases handled <;> rfl

theorem handle_rejected (m : RuntimeStateMachine) (event : RuntimeEvent)
    (refused : (m.handle event).2.accepted = false) : (m.handle event).1 = m := by
  have handled := m.handle_parts event
  generalize m.handle event = outcome at handled refused ⊢
  cases handled with
  | rejected reason silent => exact m.note_silent silent
  | moved => cases refused

theorem handle_active (m : RuntimeStateMachine) (event : RuntimeEvent)
    (opened : (m.handle event).1.mode = .active) :
    m.mode = .active ∨ (m.mode = .idle ∧ event = .activateRequest ∧ m.interlockReady = true) := by
  have handled := m.handle_parts event
  generalize m.handle event = outcome at handled opened
  cases handled with
  | rejected => exact .inl ((m.note_mode event).symm.trans opened)
  | moved reason moves =>
      cases moves with
      | informed | warned => exact .inl opened
      | activated idle ready => exact .inr ⟨idle,rfl,ready⟩
      | _ => cases opened

theorem handle_fault (m : RuntimeStateMachine) (event : RuntimeEvent) (own : event ≠ .faultDetected)
    (faulted : (m.handle event).1.mode = .fault) : m.mode = .fault := by
  have handled := m.handle_parts event
  generalize m.handle event = outcome at handled faulted
  cases handled with
  | rejected => exact (m.note_mode event).symm.trans faulted
  | moved reason moves =>
      cases moves with
      | informed | warned => exact faulted
      | faulted => exact absurd rfl own
      | _ => cases faulted

theorem handle_interlock (m : RuntimeStateMachine) (event : RuntimeEvent) :
    (m.handle event).1.interlockReady = (m.noteInterlock event).interlockReady := by
  have handled := m.handle_parts event
  generalize m.handle event = outcome at handled ⊢
  cases handled <;> rfl

theorem handle_faultDetected_mode (m : RuntimeStateMachine) :
    (m.handle .faultDetected).1.mode =
      if m.mode = .disabled then .disabled else if m.mode = .eStop then .eStop else .fault := by
  rcases m with ⟨mode,ready,fault⟩
  cases mode <;> rfl

-- What mode, fault and interlock say about each other. The fault code alone is
-- no gate of the output path, so this agreement is what makes the mode one.
structure Coherent (m : RuntimeStateMachine) : Prop where
  opened : m.mode = .active → m.interlockReady = true ∧ m.fault = .none
  holding : m.mode = .hold → holdFault m.fault = true
  faulted : m.mode = .fault → m.fault ≠ .none

theorem initial_coherent : Coherent {} := by
  constructor <;> intro other <;> cases other

-- Every event but FaultDetected carries its own fault code; that one needs the
-- code to be set first, as raise_fault does.
theorem handle_coherent (m : RuntimeStateMachine) (event : RuntimeEvent) (coherent : Coherent m)
    (own : event ≠ .faultDetected) : Coherent (m.handle event).1 := by
  have handled := m.handle_parts event
  generalize m.handle event = outcome at handled
  cases handled with
  | rejected reason silent => exact (m.note_silent silent).symm ▸ coherent
  | moved reason moves =>
      cases moves with
      | informed => exact ⟨fun active => ⟨rfl,(coherent.opened active).2⟩,coherent.holding,coherent.faulted⟩
      | warned inactive => exact ⟨fun active => absurd active inactive,coherent.holding,coherent.faulted⟩
      | activated _ ready => exact ⟨fun _ => ⟨ready,rfl⟩,nofun,nofun⟩
      | timedOut | interlocked => exact ⟨nofun,fun _ => rfl,nofun⟩
      | held active =>
          have calm : m.fault = .none := (coherent.opened active).2
          exact ⟨nofun,fun _ => congrArg holdFault calm,nofun⟩
      | faulted => exact absurd rfl own
      | _ => exact ⟨nofun,nofun,nofun⟩

theorem raise_coherent (m : RuntimeStateMachine) (code : FaultCode) (real : code ≠ .none) :
    Coherent ((m.setFault code).handle .faultDetected).1 := by
  rcases m with ⟨mode,ready,fault⟩
  constructor <;> intro reached <;> cases mode <;> first
    | exact real
    | cases reached

theorem ackTimeout_coherent (m : RuntimeStateMachine) (active : m.mode = .active) :
    Coherent ((m.setFault .ackTimeout).handle .hold).1 := by
  rcases m with ⟨mode,ready,fault⟩
  cases active
  constructor <;> intro reached <;> first
    | rfl
    | cases reached

end RuntimeStateMachine

end RobotControlRuntime
