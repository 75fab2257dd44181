import Mathlib.Algebra.Field.Rat
import Mathlib.Algebra.Order.Group.Abs
import Mathlib.Algebra.Order.Ring.Rat
import RobotControlRuntime.ApplicationModel
import RobotControlRuntime.Library.StepHistory

-- The single-axis simulated actuator. Positions and velocities are numbers of an
-- ordered field in place of doubles, so every one of them is finite.
namespace RobotControlRuntime
open StepHistory

inductive ActuatorState where
  | disabled | idle | homing | ready | running | stopping | fault
  deriving DecidableEq, Repr

inductive ActuatorMotionMode where
  | none | velocity | jogPositive | jogNegative | homing
  deriving DecidableEq, Repr

inductive ActuatorFaultReason where
  | none | configuration | softLimitPositive | softLimitNegative | trackingError | encoderFault | communicationTimeout
  | deviceFault
  | unlisted (raw : Fin 248)
  deriving DecidableEq, Repr

def ActuatorFaultReason.toText : ActuatorFaultReason → String
  | .none => "NONE"
  | .configuration => "CONFIGURATION"
  | .softLimitPositive => "SOFT_LIMIT_POSITIVE"
  | .softLimitNegative => "SOFT_LIMIT_NEGATIVE"
  | .trackingError => "TRACKING_ERROR"
  | .encoderFault => "ENCODER_FAULT"
  | .communicationTimeout => "COMMUNICATION_TIMEOUT"
  | .deviceFault => "DEVICE_FAULT"
  | .unlisted _ => "UNKNOWN"

-- Durations are milliseconds.
structure MockActuatorConfig (R : Type) where
  minPositionRad : R
  maxPositionRad : R
  maxVelocityRadS : R
  velocityResponsePerS : R
  normalStopResponsePerS : R
  quickStopResponsePerS : R
  homingVelocityRadS : R
  homingDuration : Int
  jogDeadman : Int
  maxContinuousJog : Int
  maxPhysicsStep : Int
  trackingErrorThresholdRad : R
  trackingErrorCycles : UInt32
  stoppedVelocityEpsilonRadS : R

structure ActuatorSnapshot (R : Type) where
  configured : Bool := true
  state : ActuatorState := .disabled
  motionMode : ActuatorMotionMode := .none
  fault : ActuatorFaultReason := .none
  driveEnabled : Bool := false
  homed : Bool := false
  targetPositionRad : R
  actualPositionRad : R
  positionErrorRad : R
  targetVelocityRadS : R
  actualVelocityRadS : R
  velocityErrorRadS : R
  minPositionRad : R
  maxPositionRad : R
  commandGeneration : UInt64 := 0
  activeJogToken : UInt64 := 0
  lastReject : String := ""

structure ActuatorCommandReply where
  status : CommandStatus
  fromState : ActuatorState
  toState : ActuatorState
  token : UInt64 := 0
  message : String
  deriving DecidableEq, Repr

def ActuatorCommandReply.accepted (reply : ActuatorCommandReply) : Bool := reply.status == .accepted

structure MockActuatorProfile (R : Type) where
  config : MockActuatorConfig R
  snapshot : ActuatorSnapshot R
  monotonicElapsedNs : Int := 0
  homingStartedNs : Int := 0
  jogDeadlineNs : Int := 0
  jogMaxDeadlineNs : Int := 0
  trackingErrorCount : UInt32 := 0
  quickStopping : Bool := false
  disableAfterStop : Bool := false
  persistentBlocker : Bool := false

def millisecondsNs (duration : Int) : Int := duration * 1000000

section Profile
variable {R : Type} [Field R] [LinearOrder R]

def MockActuatorConfig.valid (config : MockActuatorConfig R) : Bool :=
  config.minPositionRad < config.maxPositionRad && 0 < config.maxVelocityRadS && 0 < config.velocityResponsePerS &&
    0 < config.normalStopResponsePerS && 0 < config.quickStopResponsePerS &&
    |config.homingVelocityRadS| ≤ config.maxVelocityRadS && 0 < config.homingDuration && 0 < config.jogDeadman &&
    config.jogDeadman ≤ config.maxContinuousJog && 0 < config.maxPhysicsStep && 0 < config.trackingErrorThresholdRad &&
    0 < config.trackingErrorCycles && 0 < config.stoppedVelocityEpsilonRadS

namespace MockActuatorProfile

def updateSnapshotErrors (p : MockActuatorProfile R) : MockActuatorProfile R :=
  {p with snapshot := {p.snapshot with
    positionErrorRad := p.snapshot.targetPositionRad - p.snapshot.actualPositionRad
    velocityErrorRadS := p.snapshot.targetVelocityRadS - p.snapshot.actualVelocityRadS}}

def beginStop (p : MockActuatorProfile R) (quick disableAfterStop : Bool) : MockActuatorProfile R :=
  {p with
    snapshot := {p.snapshot with
      targetVelocityRadS := 0,activeJogToken := 0,state := .stopping,motionMode := .none}
    quickStopping := quick
    disableAfterStop := disableAfterStop}

def raiseFault (p : MockActuatorProfile R) (reason : ActuatorFaultReason) (persistent : Bool) : MockActuatorProfile R :=
  {p with
    snapshot := {p.snapshot with
      fault := reason,state := .fault,driveEnabled := false,homed := false,targetVelocityRadS := 0,activeJogToken := 0
      motionMode := .none,lastReject := reason.toText}
    quickStopping := true
    disableAfterStop := false
    persistentBlocker := p.persistentBlocker || persistent}

def init (config : MockActuatorConfig R) : MockActuatorProfile R :=
  let p : MockActuatorProfile R :=
    {config := config
     snapshot :=
      {configured := config.valid,minPositionRad := config.minPositionRad,maxPositionRad := config.maxPositionRad
       targetPositionRad := 0,actualPositionRad := 0,positionErrorRad := 0,targetVelocityRadS := 0
       actualVelocityRadS := 0,velocityErrorRadS := 0}}
  if config.valid then p.updateSnapshotErrors
  else
    let faulted := p.raiseFault .configuration true
    updateSnapshotErrors {faulted with snapshot := {faulted.snapshot with lastReject := "invalid MockActuatorConfig"}}

def acceptToken (p : MockActuatorProfile R) (source : ActuatorState) (message : String) (token : UInt64) :
    MockActuatorProfile R × ActuatorCommandReply :=
  ({p with snapshot := {p.snapshot with lastReject := ""}},⟨.accepted,source,p.snapshot.state,token,message⟩)

def accept (p : MockActuatorProfile R) (source : ActuatorState) (message : String) :
    MockActuatorProfile R × ActuatorCommandReply := p.acceptToken source message 0

def reject (p : MockActuatorProfile R) (status : CommandStatus) (source : ActuatorState) (message : String) :
    MockActuatorProfile R × ActuatorCommandReply :=
  ({p with snapshot := {p.snapshot with lastReject := message}},⟨status,source,p.snapshot.state,0,message⟩)

def nextGeneration (p : MockActuatorProfile R) : MockActuatorProfile R :=
  {p with snapshot := {p.snapshot with commandGeneration := p.snapshot.commandGeneration + 1}}

def driveEnable (p : MockActuatorProfile R) : MockActuatorProfile R × ActuatorCommandReply :=
  let source := p.snapshot.state
  if !p.snapshot.configured then p.reject .invalidArgument source "Mock actuator configuration is invalid"
  else if source = .fault then p.reject .rejected source "Reset fault before Drive Enable"
  else if source ≠ .disabled then p.reject .rejected source "Drive Enable requires DISABLED"
  else
    accept (nextGeneration {p with snapshot := {p.snapshot with
      driveEnabled := true,state := if p.snapshot.homed then .ready else .idle}}) source "Drive enabled"

def driveDisable (p : MockActuatorProfile R) : MockActuatorProfile R × ActuatorCommandReply :=
  let source := p.snapshot.state
  if source = .fault then
    accept {p with snapshot := {p.snapshot with driveEnabled := false}} source "Drive output already revoked by fault"
  else if source = .disabled then p.reject .rejected source "Drive already disabled"
  else
    let q := p.nextGeneration
    if q.config.stoppedVelocityEpsilonRadS < |q.snapshot.actualVelocityRadS| ∨ source = .running ∨ source = .homing ∨
        source = .stopping then
      accept (beginStop {q with snapshot := {q.snapshot with homed := false}} true true) source
        "Drive disable requested; quick deceleration active"
    else
      accept {q with snapshot := {q.snapshot with
        driveEnabled := false,homed := false,state := .disabled,motionMode := .none}} source "Drive disabled"

def home (p : MockActuatorProfile R) : MockActuatorProfile R × ActuatorCommandReply :=
  let source := p.snapshot.state
  if !p.snapshot.driveEnabled || (source ≠ .idle && source ≠ .ready) then
    p.reject .rejected source "Home requires enabled IDLE or READY"
  else
    let q := p.nextGeneration
    accept {q with
      snapshot := {q.snapshot with
        homed := false,state := .homing,motionMode := .homing,targetVelocityRadS := q.config.homingVelocityRadS
        targetPositionRad := q.snapshot.actualPositionRad}
      homingStartedNs := q.monotonicElapsedNs
      trackingErrorCount := 0} source "MOCK homing started"

def startVelocity (p : MockActuatorProfile R) (velocityRadS : R) : MockActuatorProfile R × ActuatorCommandReply :=
  let source := p.snapshot.state
  if velocityRadS = 0 ∨ p.config.maxVelocityRadS < |velocityRadS| then
    p.reject .invalidArgument source "Velocity must be finite, nonzero, and within configured max"
  else if !p.snapshot.driveEnabled || !p.snapshot.homed || source ≠ .ready then
    p.reject .rejected source "Velocity start requires enabled, homed READY state"
  else if (0 < velocityRadS ∧ p.config.maxPositionRad ≤ p.snapshot.actualPositionRad) ∨
      (velocityRadS < 0 ∧ p.snapshot.actualPositionRad ≤ p.config.minPositionRad) then
    (p.raiseFault (if 0 < velocityRadS then .softLimitPositive else .softLimitNegative) false).reject .rejected source
      "Motion direction violates active soft limit"
  else
    let q := p.nextGeneration
    accept {q with
      snapshot := {q.snapshot with
        state := .running,motionMode := .velocity,targetVelocityRadS := velocityRadS
        targetPositionRad := q.snapshot.actualPositionRad}
      trackingErrorCount := 0} source "Velocity motion started"

def normalStop (p : MockActuatorProfile R) : MockActuatorProfile R × ActuatorCommandReply :=
  let source := p.snapshot.state
  if source = .stopping then p.accept source "Stop already active; existing deceleration retained"
  else if source ≠ .running ∧ source ≠ .homing then p.reject .rejected source "Normal Stop requires active motion"
  else (p.nextGeneration.beginStop false false).accept source "Normal Stop requested"

-- The second argument of begin_stop is its default.
def quickStop (p : MockActuatorProfile R) : MockActuatorProfile R × ActuatorCommandReply :=
  let source := p.snapshot.state
  if source ≠ .running ∧ source ≠ .homing ∧ source ≠ .stopping then
    p.reject .rejected source "Quick Stop has no active software motion"
  else (p.nextGeneration.beginStop true false).accept source "QUICK STOP requested (software only)"

def jogPress (p : MockActuatorProfile R) (direction : Int) (velocityRadS : R) :
    MockActuatorProfile R × ActuatorCommandReply :=
  let source := p.snapshot.state
  if (direction ≠ -1 ∧ direction ≠ 1) ∨ ¬0 < velocityRadS ∨ p.config.maxVelocityRadS < velocityRadS then
    p.reject .invalidArgument source "Jog requires direction -1/+1 and valid positive velocity"
  else if !p.snapshot.driveEnabled || !p.snapshot.homed || source ≠ .ready then
    p.reject .rejected source "Jog requires enabled, homed READY state"
  else if (0 < direction ∧ p.config.maxPositionRad ≤ p.snapshot.actualPositionRad) ∨
      (direction < 0 ∧ p.snapshot.actualPositionRad ≤ p.config.minPositionRad) then
    (p.raiseFault (if 0 < direction then .softLimitPositive else .softLimitNegative) false).reject .rejected source
      "Jog direction violates active soft limit"
  else
    let q := p.nextGeneration
    acceptToken {q with
      snapshot := {q.snapshot with
        activeJogToken := q.snapshot.commandGeneration,state := .running
        motionMode := if 0 < direction then .jogPositive else .jogNegative
        targetVelocityRadS := if 0 < direction then velocityRadS else -velocityRadS
        targetPositionRad := q.snapshot.actualPositionRad}
      jogDeadlineNs := q.monotonicElapsedNs + millisecondsNs q.config.jogDeadman
      jogMaxDeadlineNs := q.monotonicElapsedNs + millisecondsNs q.config.maxContinuousJog
      trackingErrorCount := 0} source "Jog lease started" q.snapshot.commandGeneration

def jogRenew (p : MockActuatorProfile R) (token : UInt64) : MockActuatorProfile R × ActuatorCommandReply :=
  let source := p.snapshot.state
  if token = 0 ∨ token ≠ p.snapshot.activeJogToken ∨ source ≠ .running ∨
      (p.snapshot.motionMode ≠ .jogPositive ∧ p.snapshot.motionMode ≠ .jogNegative) then
    p.reject .rejected source "Jog renew token is stale or no jog is active"
  else if p.jogMaxDeadlineNs ≤ p.monotonicElapsedNs then
    (p.beginStop false false).reject .timeout source "Maximum continuous jog duration reached"
  else
    acceptToken
      {p with jogDeadlineNs := min (p.monotonicElapsedNs + millisecondsNs p.config.jogDeadman) p.jogMaxDeadlineNs} source "Jog lease renewed" token

def jogRelease (p : MockActuatorProfile R) (token : UInt64) : MockActuatorProfile R × ActuatorCommandReply :=
  let source := p.snapshot.state
  if token = 0 ∨ token ≠ p.snapshot.activeJogToken then p.reject .rejected source "Jog release token is stale"
  else (p.nextGeneration.beginStop false false).accept source "Jog released; Normal Stop active"

def resetFault (p : MockActuatorProfile R) : MockActuatorProfile R × ActuatorCommandReply :=
  let source := p.snapshot.state
  if source ≠ .fault then p.reject .rejected source "No actuator fault to reset"
  else if !p.snapshot.configured || p.persistentBlocker then
    p.reject .rejected source "Persistent fault blocker is still active"
  else if p.config.stoppedVelocityEpsilonRadS < |p.snapshot.actualVelocityRadS| then
    p.reject .busy source "Wait for neutral velocity before fault reset"
  else
    let q := p.nextGeneration
    accept {q with
      snapshot := {q.snapshot with
        fault := .none,driveEnabled := false,homed := false,state := .disabled,motionMode := .none
        targetVelocityRadS := 0,targetPositionRad := q.snapshot.actualPositionRad,activeJogToken := 0}
      trackingErrorCount := 0} source "Fault reset to safe DISABLED state"

def injectFault (p : MockActuatorProfile R) (reason : ActuatorFaultReason) (persistent : Bool) : MockActuatorProfile R :=
  if reason = .none then p else p.raiseFault reason persistent

def clearInjectedBlocker (p : MockActuatorProfile R) : MockActuatorProfile R := {p with persistentBlocker := false}

def elapse (p : MockActuatorProfile R) (elapsed : Int) : MockActuatorProfile R :=
  {p with monotonicElapsedNs :=
    if int64Max - p.monotonicElapsedNs < elapsed then int64Max else p.monotonicElapsedNs + elapsed}

def jogTimeout (p : MockActuatorProfile R) : MockActuatorProfile R :=
  if p.snapshot.state = .running ∧ p.snapshot.activeJogToken ≠ 0 ∧
      (p.jogDeadlineNs ≤ p.monotonicElapsedNs ∨ p.jogMaxDeadlineNs ≤ p.monotonicElapsedNs) then
    let q := p.beginStop false false
    {q with snapshot := {q.snapshot with lastReject := "Jog deadman timeout; Normal Stop active"}}
  else p

def HomingElapsed (p : MockActuatorProfile R) : Prop :=
  p.snapshot.state = .homing ∧ millisecondsNs p.config.homingDuration ≤ p.monotonicElapsedNs - p.homingStartedNs

instance (p : MockActuatorProfile R) : Decidable p.HomingElapsed := inferInstanceAs (Decidable (_ ∧ _))

def finishHoming (p : MockActuatorProfile R) : MockActuatorProfile R :=
  updateSnapshotErrors {p with snapshot := {p.snapshot with
    actualPositionRad := 0,targetPositionRad := 0,actualVelocityRadS := 0,targetVelocityRadS := 0,homed := true
    state := .ready,motionMode := .none}}

def integrate (p : MockActuatorProfile R) (elapsed : Int) : MockActuatorProfile R :=
  let dt : R := ((min elapsed (millisecondsNs p.config.maxPhysicsStep) : Int) : R) / 1000000000
  let response :=
    if p.snapshot.state = .stopping ∨ p.snapshot.state = .fault then
      if p.quickStopping then p.config.quickStopResponsePerS else p.config.normalStopResponsePerS
    else p.config.velocityResponsePerS
  let alpha := if response * dt < 0 then 0 else if 1 < response * dt then 1 else response * dt
  let velocity := p.snapshot.actualVelocityRadS + alpha * (p.snapshot.targetVelocityRadS - p.snapshot.actualVelocityRadS)
  {p with snapshot := {p.snapshot with
    actualVelocityRadS := velocity
    targetPositionRad := p.snapshot.targetPositionRad + p.snapshot.targetVelocityRadS * dt
    actualPositionRad := p.snapshot.actualPositionRad + velocity * dt}}

def limitPosition (p : MockActuatorProfile R) : MockActuatorProfile R :=
  if p.config.maxPositionRad < p.snapshot.targetPositionRad ∨ p.config.maxPositionRad < p.snapshot.actualPositionRad then
    raiseFault {p with snapshot := {p.snapshot with
      targetPositionRad := p.config.maxPositionRad
      actualPositionRad := min p.snapshot.actualPositionRad p.config.maxPositionRad}} .softLimitPositive false
  else if p.snapshot.targetPositionRad < p.config.minPositionRad ∨
      p.snapshot.actualPositionRad < p.config.minPositionRad then
    raiseFault {p with snapshot := {p.snapshot with
      targetPositionRad := p.config.minPositionRad
      actualPositionRad := max p.snapshot.actualPositionRad p.config.minPositionRad}} .softLimitNegative false
  else p

def watchTracking (p : MockActuatorProfile R) : MockActuatorProfile R :=
  if p.snapshot.state = .running ∧ p.config.trackingErrorThresholdRad < |p.snapshot.positionErrorRad| then
    let q := {p with trackingErrorCount := p.trackingErrorCount + 1}
    if q.config.trackingErrorCycles ≤ q.trackingErrorCount then q.raiseFault .trackingError false else q
  else {p with trackingErrorCount := 0}

def settle (p : MockActuatorProfile R) : MockActuatorProfile R :=
  if p.snapshot.state = .stopping ∧ |p.snapshot.actualVelocityRadS| ≤ p.config.stoppedVelocityEpsilonRadS then
    {p with
      snapshot := {p.snapshot with
        actualVelocityRadS := 0,targetVelocityRadS := 0,targetPositionRad := p.snapshot.actualPositionRad
        motionMode := .none
        driveEnabled := if p.disableAfterStop then false else p.snapshot.driveEnabled
        homed := if p.disableAfterStop then false else p.snapshot.homed
        state := if p.disableAfterStop then .disabled else if p.snapshot.homed then .ready else .idle}
      disableAfterStop := false
      quickStopping := false}
  else p

def tick (p : MockActuatorProfile R) (elapsed : Int) : MockActuatorProfile R :=
  if elapsed ≤ 0 then p
  else
    let q := (p.elapse elapsed).jogTimeout
    if q.HomingElapsed then q.finishHoming
    else (q.integrate elapsed).limitPosition.updateSnapshotErrors.watchTracking.settle.updateSnapshotErrors

end MockActuatorProfile

inductive ActuatorCommand (R : Type) where
  | driveEnable | driveDisable | home | startVelocity (velocityRadS : R) | normalStop | quickStop
  | jogPress (direction : Int) (velocityRadS : R) | jogRenew (token : UInt64) | jogRelease (token : UInt64)
  | resetFault | injectFault (reason : ActuatorFaultReason) (persistent : Bool) | clearInjectedBlocker
  | tick (elapsed : Int)

def MockActuatorProfile.call (p : MockActuatorProfile R) :
    ActuatorCommand R → MockActuatorProfile R × Option ActuatorCommandReply
  | .driveEnable => p.driveEnable.map id some
  | .driveDisable => p.driveDisable.map id some
  | .home => p.home.map id some
  | .startVelocity velocityRadS => (p.startVelocity velocityRadS).map id some
  | .normalStop => p.normalStop.map id some
  | .quickStop => p.quickStop.map id some
  | .jogPress direction velocityRadS => (p.jogPress direction velocityRadS).map id some
  | .jogRenew token => (p.jogRenew token).map id some
  | .jogRelease token => (p.jogRelease token).map id some
  | .resetFault => p.resetFault.map id some
  | .injectFault reason persistent => (p.injectFault reason persistent,none)
  | .clearInjectedBlocker => (p.clearInjectedBlocker,none)
  | .tick elapsed => (p.tick elapsed,none)

end Profile

-- What the commands and the phases of a tick can do to the state, the jog token
-- and the pending disable.
section Transitions
variable {R : Type}

def ActuatorState.live : ActuatorState → Bool
  | .idle | .homing | .ready | .running => true
  | .disabled | .stopping | .fault => false

namespace MockActuatorProfile

def Leased (p : MockActuatorProfile R) : Prop := p.snapshot.activeJogToken ≠ 0 → p.snapshot.state = .running

structure Revoked (p : MockActuatorProfile R) : Prop where
  released : p.snapshot.activeJogToken = 0
  stopped : p.snapshot.state = .disabled ∨ p.snapshot.state = .fault ∨
    (p.snapshot.state = .stopping ∧ p.disableAfterStop = true)

inductive Shift (p q : MockActuatorProfile R) : Prop where
  | kept : q.snapshot.state = p.snapshot.state → q.snapshot.activeJogToken = p.snapshot.activeJogToken →
      q.disableAfterStop = p.disableAfterStop → Shift p q
  | faulted : q.snapshot.state = .fault → q.snapshot.activeJogToken = 0 → Shift p q
  | moved : p.snapshot.state.live = true → (p.Leased → q.Leased) → Shift p q
  | reset : p.snapshot.state = .fault → q.snapshot.state = .disabled → q.snapshot.activeJogToken = 0 → Shift p q
  | pending : q.snapshot.state = .stopping → q.snapshot.activeJogToken = 0 → q.disableAfterStop = true → Shift p q
  | settled : p.snapshot.state = .stopping → q.snapshot.activeJogToken = p.snapshot.activeJogToken →
      (p.disableAfterStop = true → q.snapshot.state = .disabled) → Shift p q

variable {p q : MockActuatorProfile R}

theorem Leased.released (leased : p.Leased) (rests : p.snapshot.state ≠ .running) : p.snapshot.activeJogToken = 0 := by
  by_contra held
  exact rests (leased held)

theorem leased_released (released : p.snapshot.activeJogToken = 0) : p.Leased := fun held => absurd released held

theorem Shift.leased (shift : Shift p q) (leased : p.Leased) : q.Leased := by
  cases shift with
  | kept state token _ =>
      intro held
      rw [state]
      exact leased (token ▸ held)
  | faulted _ token => exact leased_released token
  | moved _ keeps => exact keeps leased
  | reset _ _ token => exact leased_released token
  | pending _ token _ => exact leased_released token
  | settled rests token _ => exact leased_released (token.trans (leased.released (by simp [rests])))

theorem Shift.revoked (shift : Shift p q) (revoked : p.Revoked) : q.Revoked := by
  obtain ⟨released,stopped⟩ := revoked
  cases shift with
  | kept state token disable => exact ⟨token.trans released,by rw [state,disable]; exact stopped⟩
  | faulted state token => exact ⟨token,.inr (.inl state)⟩
  | moved live _ => rcases stopped with rests | rests | ⟨rests,_⟩ <;> rw [rests] at live <;> cases live
  | reset _ state token => exact ⟨token,.inl state⟩
  | pending state token disable => exact ⟨token,.inr (.inr ⟨state,disable⟩)⟩
  | settled rests token disables =>
      refine ⟨token.trans released,.inl (disables ?_)⟩
      rcases stopped with other | other | ⟨_,disable⟩
      · cases rests.symm.trans other
      · cases rests.symm.trans other
      · exact disable

theorem Revoked.not_live (revoked : p.Revoked) : ¬p.snapshot.state.live = true := by
  rcases revoked.stopped with rests | rests | ⟨rests,_⟩ <;> rw [rests] <;> exact Bool.false_ne_true

theorem driveEnable_leased (leased : p.Leased) : p.driveEnable.1.Leased := by
  unfold driveEnable
  dsimp only
  split
  · exact leased
  split
  · exact leased
  split
  · exact leased
  rename_i _ _ disabled
  have released := leased.released (by simp [not_not.mp disabled])
  exact leased_released released

theorem driveEnable_refused (refused : ¬p.driveEnable.2.accepted = true) : Shift p p.driveEnable.1 := by
  revert refused
  unfold driveEnable
  dsimp only
  split
  · exact fun _ => .kept rfl rfl rfl
  split
  · exact fun _ => .kept rfl rfl rfl
  split
  · exact fun _ => .kept rfl rfl rfl
  · exact fun refused => absurd rfl refused

theorem home_shift : Shift p p.home.1 := by
  unfold home
  dsimp only
  split_ifs with refused
  · exact .kept rfl rfl rfl
  · have rests : p.snapshot.state = .idle ∨ p.snapshot.state = .ready := by
      by_contra neither
      simp_all
    refine .moved ?_ fun leased => leased_released (leased.released ?_)
    · rcases rests with rests | rests <;> rw [rests] <;> rfl
    · rcases rests with rests | rests <;> rw [rests] <;> decide

theorem elapse_shift (elapsed : Int) : Shift p (p.elapse elapsed) := .kept rfl rfl rfl

variable [Field R]

theorem updateSnapshotErrors_shift : Shift p p.updateSnapshotErrors := .kept rfl rfl rfl

theorem normalStop_shift : Shift p p.normalStop.1 := by
  unfold normalStop
  dsimp only
  split_ifs with stopping refused
  · exact .kept rfl rfl rfl
  · exact .kept rfl rfl rfl
  · refine .moved ?_ fun _ => leased_released rfl
    cases state : p.snapshot.state <;> simp_all [ActuatorState.live]

theorem quickStop_shift (leased : p.Leased) (free : ¬(p.snapshot.state = .stopping ∧ p.disableAfterStop = true)) :
    Shift p p.quickStop.1 := by
  unfold quickStop
  dsimp only
  split_ifs with refused
  · exact .kept rfl rfl rfl
  · by_cases stopping : p.snapshot.state = .stopping
    · refine .kept stopping.symm (leased.released (by simp [stopping])).symm ?_
      cases disable : p.disableAfterStop with
      | false => rfl
      | true => exact absurd ⟨stopping,disable⟩ free
    · refine .moved ?_ fun _ => leased_released rfl
      cases state : p.snapshot.state <;> simp_all [ActuatorState.live]

theorem quickStop_leased (leased : p.Leased) : p.quickStop.1.Leased := by
  unfold quickStop
  dsimp only
  split
  · exact leased
  · exact leased_released rfl

theorem jogRelease_shift (leased : p.Leased) (token : UInt64) : Shift p (p.jogRelease token).1 := by
  unfold jogRelease
  dsimp only
  split_ifs with refused
  · exact .kept rfl rfl rfl
  · simp only [not_or,not_not] at refused
    have running := leased (refused.2 ▸ refused.1)
    exact .moved (by rw [running]; rfl) fun _ => leased_released rfl

theorem injectFault_shift (reason : ActuatorFaultReason) (persistent : Bool) :
    Shift p (p.injectFault reason persistent) := by
  unfold injectFault
  split_ifs
  · exact .kept rfl rfl rfl
  · exact .faulted rfl rfl

theorem jogTimeout_shift : Shift p p.jogTimeout := by
  unfold jogTimeout
  dsimp only
  split_ifs with expired
  · exact .moved (by rw [expired.1]; rfl) fun _ => leased_released rfl
  · exact .kept rfl rfl rfl

theorem finishHoming_shift (homed : p.HomingElapsed) : Shift p p.finishHoming :=
  .moved (by rw [homed.1]; rfl) fun leased => leased_released (leased.released (by rw [homed.1]; decide))

theorem jogRenew_shift (token : UInt64) : Shift p (p.jogRenew token).1 := by
  unfold jogRenew
  dsimp only
  split_ifs with refused timeout
  · exact .kept rfl rfl rfl
  · simp only [not_or,not_not] at refused
    exact .moved (by rw [refused.2.2.1]; rfl) fun _ => leased_released rfl
  · exact .kept rfl rfl rfl

variable [LinearOrder R]

theorem driveDisable_shift : Shift p p.driveDisable.1 := by
  unfold driveDisable
  dsimp only
  split_ifs with faulted disabled motion
  · exact .kept rfl rfl rfl
  · exact .kept rfl rfl rfl
  · exact .pending rfl rfl rfl
  · simp only [not_or] at motion
    refine .moved ?_ fun leased => leased_released (leased.released motion.2.1)
    cases state : p.snapshot.state <;> simp_all [ActuatorState.live]

theorem startVelocity_shift (velocityRadS : R) : Shift p (p.startVelocity velocityRadS).1 := by
  unfold startVelocity
  dsimp only
  split
  · exact .kept rfl rfl rfl
  split
  · exact .kept rfl rfl rfl
  rename_i _ allowed
  split
  · exact .faulted rfl rfl
  have ready : p.snapshot.state = .ready := by simp_all
  exact .moved (by rw [ready]; rfl) fun _ _ => rfl

theorem jogPress_shift (direction : Int) (velocityRadS : R) : Shift p (p.jogPress direction velocityRadS).1 := by
  unfold jogPress
  dsimp only
  split
  · exact .kept rfl rfl rfl
  split
  · exact .kept rfl rfl rfl
  rename_i _ allowed
  split
  · exact .faulted rfl rfl
  have ready : p.snapshot.state = .ready := by simp_all
  exact .moved (by rw [ready]; rfl) fun _ _ => rfl

theorem resetFault_shift : Shift p p.resetFault.1 := by
  unfold resetFault
  dsimp only
  split_ifs with clear blocked moving
  · exact .kept rfl rfl rfl
  · exact .kept rfl rfl rfl
  · exact .kept rfl rfl rfl
  · exact .reset (not_not.mp clear) rfl rfl

theorem integrate_shift (elapsed : Int) : Shift p (p.integrate elapsed) := .kept rfl rfl rfl

theorem limitPosition_shift : Shift p p.limitPosition := by
  unfold limitPosition
  split_ifs
  · exact .faulted rfl rfl
  · exact .faulted rfl rfl
  · exact .kept rfl rfl rfl

theorem watchTracking_shift : Shift p p.watchTracking := by
  unfold watchTracking
  dsimp only
  split_ifs
  · exact .faulted rfl rfl
  · exact .kept rfl rfl rfl
  · exact .kept rfl rfl rfl

theorem settle_shift : Shift p p.settle := by
  unfold settle
  split
  · rename_i slow
    exact .settled slow.1 rfl fun disable => if_pos disable
  · exact .kept rfl rfl rfl

theorem tick_closed {keeps : MockActuatorProfile R → Prop} (closed : ∀ p q, Shift p q → keeps p → keeps q) (elapsed : Int)
    (before : keeps p) : keeps (p.tick elapsed) := by
  have timed := closed _ _ jogTimeout_shift (closed _ _ (elapse_shift elapsed) before)
  unfold tick
  dsimp only
  split
  · exact before
  split
  · rename_i homed
    exact closed _ _ (finishHoming_shift homed) timed
  have limited := closed _ _ limitPosition_shift (closed _ _ (integrate_shift elapsed) timed)
  have watched := closed _ _ watchTracking_shift (closed _ _ updateSnapshotErrors_shift limited)
  exact closed _ _ updateSnapshotErrors_shift (closed _ _ settle_shift watched)

end MockActuatorProfile

end Transitions

-- Runs of commands and ticks.
section Disable
variable {R : Type} [Field R] [LinearOrder R]
open MockActuatorProfile

def actuatorStep (p : MockActuatorProfile R) (command : ActuatorCommand R) : Option (MockActuatorProfile R) :=
  some (p.call command).1

def OverwritesDisable (m : Moment (MockActuatorProfile R) (ActuatorCommand R)) : Prop :=
  match m.action with
  | .quickStop => m.before.snapshot.state = .stopping ∧ m.before.disableAfterStop = true
  | _ => False

def EnableAccepted (m : Moment (MockActuatorProfile R) (ActuatorCommand R)) : Prop :=
  match m.action with
  | .driveEnable => m.before.driveEnable.2.accepted = true
  | _ => False

def DisableAccepted (m : Moment (MockActuatorProfile R) (ActuatorCommand R)) : Prop :=
  match m.action with
  | .driveDisable => m.before.snapshot.state ≠ .fault ∧ m.before.driveDisable.2.accepted = true
  | _ => False

instance (m : Moment (MockActuatorProfile R) (ActuatorCommand R)) : Decidable (OverwritesDisable m) := by
  unfold OverwritesDisable
  split <;> infer_instance

instance (m : Moment (MockActuatorProfile R) (ActuatorCommand R)) : Decidable (EnableAccepted m) := by
  unfold EnableAccepted
  split <;> infer_instance

instance (m : Moment (MockActuatorProfile R) (ActuatorCommand R)) : Decidable (DisableAccepted m) := by
  unfold DisableAccepted
  split <;> infer_instance

variable {p next : MockActuatorProfile R} {command : ActuatorCommand R}

theorem call_closed {keeps : MockActuatorProfile R → Prop} (closed : ∀ p q, Shift p q → keeps p → keeps q)
    (leased : p.Leased) (retained : ¬OverwritesDisable ⟨p,command,next⟩) (refused : ¬EnableAccepted ⟨p,command,next⟩)
    (before : keeps p) : keeps (p.call command).1 := by
  cases command with
  | driveEnable => exact closed _ _ (driveEnable_refused refused) before
  | driveDisable => exact closed _ _ driveDisable_shift before
  | home => exact closed _ _ home_shift before
  | startVelocity velocityRadS => exact closed _ _ (startVelocity_shift velocityRadS) before
  | normalStop => exact closed _ _ normalStop_shift before
  | quickStop => exact closed _ _ (quickStop_shift leased retained) before
  | jogPress direction velocityRadS => exact closed _ _ (jogPress_shift direction velocityRadS) before
  | jogRenew token => exact closed _ _ (jogRenew_shift token) before
  | jogRelease token => exact closed _ _ (jogRelease_shift leased token) before
  | resetFault => exact closed _ _ resetFault_shift before
  | injectFault reason persistent => exact closed _ _ (injectFault_shift reason persistent) before
  | clearInjectedBlocker => exact closed p _ (.kept rfl rfl rfl) before
  | tick elapsed => exact tick_closed closed elapsed before

theorem call_leased (leased : p.Leased) : (p.call command).1.Leased := by
  by_cases enabled : EnableAccepted ⟨p,command,p⟩
  · cases command with
    | driveEnable => exact driveEnable_leased leased
    | _ => exact enabled.elim
  · by_cases overwrites : OverwritesDisable ⟨p,command,p⟩
    · cases command with
      | quickStop => exact quickStop_leased leased
      | _ => exact overwrites.elim
    · exact call_closed (fun _ _ shift => shift.leased) leased overwrites enabled leased

theorem disable_revokes (leased : p.Leased) (accepted : DisableAccepted ⟨p,command,next⟩) :
    (p.call command).1.Revoked := by
  cases command with
  | driveDisable =>
      obtain ⟨sound,accepted⟩ := accepted
      revert accepted
      change p.driveDisable.2.accepted = true → p.driveDisable.1.Revoked
      unfold driveDisable
      dsimp only at sound ⊢
      rw [if_neg sound]
      split
      · intro accepted
        cases accepted
      split
      · exact fun _ => ⟨rfl,.inr (.inr ⟨rfl,rfl⟩)⟩
      · rename_i rests
        simp only [not_or] at rests
        exact fun _ => ⟨leased.released rests.2.1,.inl rfl⟩
  | _ => exact accepted.elim

theorem init_leased (config : MockActuatorConfig R) : (init config).Leased := by
  unfold init
  dsimp only
  split <;> exact leased_released rfl

theorem accepted_disable_sticks (config : MockActuatorConfig R) (path : Reached actuatorStep (init config) history p)
    (since : Since (fun m => ¬EnableAccepted m ∧ ¬OverwritesDisable m) (fun m _ => DisableAccepted m) history) :
    ¬(p.snapshot.state.live = true ∧ p.snapshot.driveEnabled = true) := by
  have kept : p.Leased ∧
      (Since (fun m => ¬EnableAccepted m ∧ ¬OverwritesDisable m) (fun m _ => DisableAccepted m) history → p.Revoked) := by
    refine reached_invariant (fun history p => p.Leased ∧
      (Since (fun m => ¬EnableAccepted m ∧ ¬OverwritesDisable m) (fun m _ => DisableAccepted m) history → p.Revoked))
      ⟨init_leased config,fun never => never.elim⟩ ?_ path
    rintro past p command next ⟨leased,earlier⟩ taken
    cases taken
    refine ⟨call_leased leased,?_⟩
    rintro (accepted | ⟨⟨refused,retained⟩,before⟩)
    · exact disable_revokes leased accepted
    · exact call_closed (fun _ _ shift => shift.revoked) leased retained refused (earlier before)
  exact fun moves => (kept.2 since).not_live moves.1

def MockActuatorConfig.default : MockActuatorConfig ℚ :=
  {minPositionRad := -28 / 10,maxPositionRad := 28 / 10,maxVelocityRadS := 2,velocityResponsePerS := 8
   normalStopResponsePerS := 12,quickStopResponsePerS := 40,homingVelocityRadS := -1 / 4,homingDuration := 500
   jogDeadman := 200,maxContinuousJog := 2000,maxPhysicsStep := 50,trackingErrorThresholdRad := 1
   trackingErrorCycles := 50,stoppedVelocityEpsilonRadS := 1 / 100}

def retainedDisable : List (ActuatorCommand ℚ) :=
  [.driveEnable,.home,.tick 10000000,.driveDisable,.normalStop,.tick 10000000,.tick 50000000,.tick 50000000]

theorem accepted_disable_stuck :
    ∃ history p, replay actuatorStep [] (init MockActuatorConfig.default) retainedDisable = some (history,p) ∧
      p.snapshot.state = .disabled ∧ ¬(p.snapshot.state.live = true ∧ p.snapshot.driveEnabled = true) :=
  ⟨_,_,rfl,by decide +kernel,accepted_disable_sticks MockActuatorConfig.default (replay_reached retainedDisable .start rfl)
    (by decide +kernel)⟩

def overwrittenDisable : List (ActuatorCommand ℚ) :=
  [.driveEnable,.home,.tick 10000000,.driveDisable,.quickStop,.tick 10000000,.tick 50000000,.tick 50000000]

theorem quick_stop_drops_disable :
    ∃ history p, MockActuatorConfig.default.valid = true ∧
      Reached actuatorStep (init MockActuatorConfig.default) history p ∧
      Since (fun m => ¬EnableAccepted m) (fun m _ => DisableAccepted m) history ∧
      p.snapshot.state = .idle ∧ p.snapshot.driveEnabled = true :=
  ⟨_,_,by decide +kernel,replay_reached overwrittenDisable .start rfl,by decide +kernel,by decide +kernel,by decide +kernel⟩

end Disable

end RobotControlRuntime
