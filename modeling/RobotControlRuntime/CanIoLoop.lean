import RobotControlRuntime.CanV1
import RobotControlRuntime.RuntimeEpochs
import RobotControlRuntime.RuntimeEvents

namespace RobotControlRuntime
open StepHistory

-- The runtime's 64-bit sequence never wraps; the wire has 1..65535.
def toWireCommand (command : OutputCommand) (nodeId : UInt8) (nowNs : Int) : Result CanV1.WireOutputCommand :=
  if command.sessionId = 0 ∨ 0xFFFF < command.sessionId ∨ command.sequence = 0 ∨ command.mask &&& 0xFF = 0 then
    .error ⟨.rejected,"output command fields exceed CAN V1 wire width"⟩
  else match CanV1.validity10msFromDeadline nowNs command.deadlineNs with
    | .error error => .error error
    | .ok validity =>
      .ok {nodeId := nodeId
           mask := (command.mask &&& 0xFF).toUInt8
           sessionId := command.sessionId.toUInt16
           sequence := ((command.sequence - 1) % 0xFFFF + 1).toUInt16
           values := (command.values &&& 0xFF).toUInt8
           validity10ms := validity}

theorem wire_parts (wired : toWireCommand command nodeId nowNs = .ok wire) :
    wire.nodeId = nodeId ∧ wire.sessionId = command.sessionId.toUInt16 ∧ wire.sessionId ≠ 0 ∧ wire.sequence ≠ 0 := by
  simp only [toWireCommand] at wired
  split at wired
  · cases wired
  · rename_i fits
    simp only [not_or,UInt64.not_lt] at fits
    obtain ⟨nonzero,small,_,_⟩ := fits
    split at wired
    · cases wired
    · cases wired
      refine ⟨rfl,rfl,?_,?_⟩
      · intro zero
        have bound : command.sessionId.toNat ≤ 65535 := UInt64.le_iff_toNat_le.mp small
        have zero := congrArg UInt16.toNat zero
        simp only [UInt64.toNat_toUInt16,UInt16.toNat_zero] at zero
        exact nonzero (UInt64.toNat_inj.mp (by rw [UInt64.toNat_zero]; omega))
      · intro zero
        have zero := congrArg UInt16.toNat zero
        simp only [UInt64.toNat_toUInt16,UInt64.toNat_add,UInt64.toNat_mod,UInt64.reduceToNat,UInt16.toNat_zero] at zero
        omega

structure FitsWire (command : OutputCommand) (nodeId : UInt8) (nowNs : Int) : Prop where
  node : nodeId ≠ 0 ∧ nodeId ≤ CanV1.maxNodeId
  session : command.sessionId ≠ 0 ∧ command.sessionId ≤ 0xFFFF
  sequence : command.sequence ≠ 0
  mask : command.mask &&& 0xFF ≠ 0
  validity : CanV1.validityUnitNs ≤ command.deadlineNs - nowNs ∧
    command.deadlineNs - nowNs ≤ 250 * CanV1.validityUnitNs

theorem fits_encoded (fits : FitsWire command nodeId nowNs) :
    ∃ wire frame, toWireCommand command nodeId nowNs = .ok wire ∧ CanV1.encodeOutputCommand wire = .ok frame := by
  obtain ⟨validity,within⟩ := CanV1.validity_within nowNs command.deadlineNs fits.validity.1 fits.validity.2
  obtain ⟨_,low,high,_⟩ := CanV1.validity_exact nowNs command.deadlineNs validity within
  have small := UInt64.not_lt.mpr fits.session.2
  have mask : (command.mask &&& 0xFF).toUInt8 ≠ 0 := by
    intro zero
    have bound : (command.mask &&& 0xFF).toNat ≤ 255 := by
      rw [UInt32.toNat_and]
      exact Nat.and_le_right
    have zero := congrArg UInt8.toNat zero
    simp only [UInt32.toNat_toUInt8,UInt8.toNat_zero] at zero
    exact fits.mask (UInt32.toNat_inj.mp (by rw [UInt32.toNat_zero]; omega))
  have wired : ∃ wire, toWireCommand command nodeId nowNs = .ok wire ∧ wire.mask = (command.mask &&& 0xFF).toUInt8 ∧
      wire.validity10ms = validity := by
    simp [toWireCommand,fits.session.1,small,fits.sequence,fits.mask,within]
  obtain ⟨wire,taken,masked,timed⟩ := wired
  obtain ⟨node,_,session,sequence⟩ := wire_parts taken
  have formed : wire.WellFormed := ⟨node ▸ fits.node,masked ▸ mask,session,sequence,timed ▸ ⟨low,high⟩⟩
  exact ⟨wire,_,taken,(CanV1.command_encoded wire).mpr ⟨formed,rfl⟩⟩

structure CanIoLoop where
  nodeId : UInt8
  running : Bool := true
  pumping : Bool := false
  pendingOutput : Option OutputCommand := none
  stopReason : IoStopReason := .none
  stopRequested : Bool := false
  framesSent : UInt64 := 0
  queueRejects : UInt64 := 0
  sendWouldBlockRetries : UInt64 := 0
  deriving DecidableEq, Repr

-- Where the I/O thread stands inside pump_output: before it, or after one of its
-- calls into the runtime or the bus.
inductive PumpStage where
  | idle
  | consumed
  | approved
  | encoded (wire : CanV1.WireOutputCommand) (frame : CanFrame) (nowNs : Int)
  | sent (wire : CanV1.WireOutputCommand) (nowNs : Int)
  deriving DecidableEq, Repr

-- The runtime and the queue are shared with the other threads, the rest belongs
-- to the I/O thread.
structure IoSystem where
  runtime : LinuxRuntime
  queue : BoundedInputQueue
  io : CanIoLoop
  stage : PumpStage := .idle

inductive SendOutcome where
  | sent | wouldBlock | failed
  deriving DecidableEq, Repr

-- What asks the I/O loop to stop: request_stop of another thread, or what the
-- loop finds after a wait. A CAN error is one of the descriptor or of a receive.
inductive StopSource where
  | request | eventFd | signal
  | canError (now : Result Int)

inductive IoAction where
  | call (call : RuntimeCall)
  | popEvent
  | pump
  | tryConsume (now : Result Int)
  | sendable (now : Result Int)
  | encode (now : Result Int)
  | send (outcome : SendOutcome)
  | note
  | stop (source : StopSource)
  | exit (waitFailed : Bool)

namespace IoSystem

def pushEvent (s : IoSystem) (kind : RuntimeInputKind) (nowNs : Int) : IoSystem :=
  let (queue,queued) := s.queue.tryPush {kind := kind,nodeId := s.io.nodeId,monotonicNs := nowNs}
  {s with
    queue := queue
    io := {s.io with queueRejects := if queued then s.io.queueRejects else s.io.queueRejects + 1}}

def finish (s : IoSystem) : IoSystem := {s with io := {s.io with pendingOutput := none},stage := .idle}

-- A failed send and a sent frame that cannot be supervised end the I/O thread.
def failSend (s : IoSystem) (nowNs : Int) : IoSystem :=
  let s := s.pushEvent .ioError nowNs
  {s with io := {s.io with stopReason := .sendFailure,stopRequested := true}}.finish

def tryConsume (s : IoSystem) (now : Result Int) : IoSystem :=
  let (runtime,latest) := s.runtime.tryConsumeOutputCommand now
  let held := latest.or s.io.pendingOutput
  {s with
    runtime := runtime
    io := {s.io with pendingOutput := held,pumping := false}
    stage := if held.isSome then .consumed else .idle}

def sendable (s : IoSystem) (command : OutputCommand) (now : Result Int) : IoSystem :=
  if s.runtime.outputCommandSendable command now then {s with stage := .approved} else s.finish

def encode (s : IoSystem) (command : OutputCommand) (now : Result Int) : IoSystem :=
  match now with
  | .error _ => s.finish
  | .ok nowNs =>
    match toWireCommand command s.io.nodeId nowNs with
    | .error _ => (s.pushEvent .protocolReject nowNs).finish
    | .ok wire =>
      match CanV1.encodeOutputCommand wire with
      | .error _ => (s.pushEvent .protocolReject nowNs).finish
      | .ok frame => {s with stage := .encoded wire frame nowNs}

def send (s : IoSystem) (wire : CanV1.WireOutputCommand) (nowNs : Int) : SendOutcome → IoSystem
  | .sent => {s with io := {s.io with framesSent := s.io.framesSent + 1},stage := .sent wire nowNs}
  | .wouldBlock =>
    {s with io := {s.io with sendWouldBlockRetries := s.io.sendWouldBlockRetries + 1},stage := .idle}
  | .failed => s.failSend nowNs

def note (s : IoSystem) (wire : CanV1.WireOutputCommand) (nowNs : Int) : IoSystem :=
  match s.runtime.noteOutputCommandSent wire.sessionId wire.sequence nowNs with
  | (runtime,.ok ()) => {s with runtime := runtime}.finish
  | (runtime,.error _) => {s with runtime := runtime}.failSend nowNs

def stopFor (s : IoSystem) (reason : IoStopReason) : IoSystem :=
  {s with io := {s.io with stopReason := reason,stopRequested := true}}

def stop (s : IoSystem) : StopSource → IoSystem
  | .request => s.stopFor (if s.io.stopReason = .none then .eventFd else s.io.stopReason)
  | .eventFd => s.stopFor .eventFd
  | .signal => s.stopFor .signal
  | .canError now => (s.pushEvent .ioError (match now with | .ok nowNs => nowNs | .error _ => 0)).stopFor .ioError

-- The end of the thread drops what the pump still holds.
def exit (s : IoSystem) (waitFailed : Bool) : IoSystem :=
  {s with
    io := {s.io with
      running := false
      pendingOutput := none
      stopReason := if waitFailed then .ioError else s.io.stopReason}}

-- What the other threads may call: everything but the two entries of the pump.
-- Ticks come from a running scheduler.
def foreign (r : LinuxRuntime) : RuntimeCall → Bool
  | .tryConsumeOutputCommand _ | .noteOutputCommandSent _ _ _ => false
  | .onTick _ => r.scheduler.running
  | _ => true

def betweenRounds (s : IoSystem) : Bool := s.stage = .idle && s.io.running && !s.io.pumping

def step (s : IoSystem) : IoAction → Option IoSystem
  | .call call => if foreign s.runtime call then some {s with runtime := s.runtime.apply call} else none
  | .popEvent => some {s with queue := s.queue.tryPop.1}
  -- A request that comes after the loop's own look at the flag does not hold
  -- this round of the pump back.
  | .pump =>
    if s.betweenRounds ∧ s.io.stopRequested = false then some {s with io := {s.io with pumping := true}} else none
  | .tryConsume now => if s.stage = .idle ∧ s.io.pumping = true then some (s.tryConsume now) else none
  | .sendable now =>
    match s.stage,s.io.pendingOutput with
    | .consumed,some command => some (s.sendable command now)
    | _,_ => none
  | .encode now =>
    match s.stage,s.io.pendingOutput with
    | .approved,some command => some (s.encode command now)
    | _,_ => none
  | .send outcome =>
    match s.stage with
    | .encoded wire _ nowNs => some (s.send wire nowNs outcome)
    | _ => none
  | .note =>
    match s.stage with
    | .sent wire nowNs => some (s.note wire nowNs)
    | _ => none
  | .stop .request => some (s.stop .request)
  | .stop source => if s.betweenRounds then some (s.stop source) else none
  | .exit waitFailed =>
    if s.betweenRounds ∧ (waitFailed || s.io.stopRequested) = true then some (s.exit waitFailed) else none

def launched (runtime : LinuxRuntime) (queue : BoundedInputQueue) (nodeId : UInt8) : IoSystem :=
  {runtime := runtime,queue := queue,io := {nodeId := nodeId}}

def runtimeCall (s : IoSystem) : IoAction → Option RuntimeCall
  | .call call => some call
  | .tryConsume now => some (.tryConsumeOutputCommand now)
  | .note =>
    match s.stage with
    | .sent wire nowNs => some (.noteOutputCommandSent wire.sessionId wire.sequence nowNs)
    | _ => none
  | _ => none

@[simp] theorem finish_runtime (s : IoSystem) : s.finish.runtime = s.runtime := rfl
@[simp] theorem finish_pending (s : IoSystem) : s.finish.io.pendingOutput = none := rfl
@[simp] theorem finish_stage (s : IoSystem) : s.finish.stage = .idle := rfl
@[simp] theorem push_runtime (s : IoSystem) (kind : RuntimeInputKind) (nowNs : Int) :
    (s.pushEvent kind nowNs).runtime = s.runtime := rfl
@[simp] theorem fail_runtime (s : IoSystem) (nowNs : Int) : (s.failSend nowNs).runtime = s.runtime := rfl
@[simp] theorem fail_pending (s : IoSystem) (nowNs : Int) : (s.failSend nowNs).io.pendingOutput = none := rfl
@[simp] theorem fail_stage (s : IoSystem) (nowNs : Int) : (s.failSend nowNs).stage = .idle := rfl

structure Dropped (s next : IoSystem) : Prop where
  runtime : next.runtime = s.runtime
  pending : next.io.pendingOutput = none
  stage : next.stage = .idle

inductive Steps (s : IoSystem) : IoAction → IoSystem → Prop where
  | call (allowed : foreign s.runtime call = true) : Steps s (.call call) {s with runtime := s.runtime.apply call}
  | popEvent (queue : BoundedInputQueue) : Steps s .popEvent {s with queue := queue}
  | pump : Steps s .pump {s with io := {s.io with pumping := true}}
  | tryConsume (idle : s.stage = .idle) : Steps s (.tryConsume now) (s.tryConsume now)
  | approved (stage : s.stage = .consumed) (held : s.io.pendingOutput = some command)
      (passed : s.runtime.outputCommandSendable command now = true) :
      Steps s (.sendable now) {s with stage := .approved}
  | refused (stage : s.stage = .consumed) (held : s.io.pendingOutput = some command)
      (failed : s.runtime.outputCommandSendable command now = false) (dropped : Dropped s next) :
      Steps s (.sendable now) next
  | encoded (stage : s.stage = .approved) (held : s.io.pendingOutput = some command)
      (wired : toWireCommand command s.io.nodeId nowNs = .ok wire)
      (framed : CanV1.encodeOutputCommand wire = .ok frame) :
      Steps s (.encode (.ok nowNs)) {s with stage := .encoded wire frame nowNs}
  | unencodable (stage : s.stage = .approved) (held : s.io.pendingOutput = some command)
      (never : ∀ nowNs wire frame, now = .ok nowNs → toWireCommand command s.io.nodeId nowNs = .ok wire →
        CanV1.encodeOutputCommand wire ≠ .ok frame) (dropped : Dropped s next) :
      Steps s (.encode now) next
  | sent (stage : s.stage = .encoded wire frame nowNs) :
      Steps s (.send .sent)
        {s with io := {s.io with framesSent := s.io.framesSent + 1},stage := .sent wire nowNs}
  | wouldBlock (stage : s.stage = .encoded wire frame nowNs) :
      Steps s (.send .wouldBlock)
        {s with io := {s.io with sendWouldBlockRetries := s.io.sendWouldBlockRetries + 1},stage := .idle}
  | failed (stage : s.stage = .encoded wire frame nowNs) (dropped : Dropped s next) : Steps s (.send .failed) next
  | note (stage : s.stage = .sent wire nowNs)
      (runtime : next.runtime = s.runtime.apply (.noteOutputCommandSent wire.sessionId wire.sequence nowNs))
      (pending : next.io.pendingOutput = none) (done : next.stage = .idle) : Steps s .note next
  | stopped (queue : BoundedInputQueue) (rejects : UInt64) (reason : IoStopReason) :
      Steps s (.stop source)
        {s with
          queue := queue
          io := {s.io with queueRejects := rejects,stopReason := reason,stopRequested := true}}
  | exited (dropped : Dropped s next) : Steps s (.exit waitFailed) next

theorem encode_exact (s : IoSystem) (stage : s.stage = .approved) (held : s.io.pendingOutput = some command)
    (now : Result Int) : Steps s (.encode now) (s.encode command now) := by
  cases now with
  | error error => exact .unencodable stage held (fun _ _ _ wrong => by cases wrong) ⟨rfl,rfl,rfl⟩
  | ok nowNs =>
      simp only [encode]
      split
      · rename_i failed
        refine .unencodable stage held (fun _ wire _ same wired => ?_) ⟨rfl,rfl,rfl⟩
        cases same
        rw [failed] at wired
        cases wired
      · rename_i wire wired
        split
        · rename_i failed
          refine .unencodable stage held (fun _ other frame same again framed => ?_) ⟨rfl,rfl,rfl⟩
          cases same
          rw [wired] at again
          cases again
          rw [failed] at framed
          cases framed
        · rename_i frame framed
          exact .encoded stage held wired framed

theorem rounds_idle {s : IoSystem} (between : s.betweenRounds = true) : s.stage = .idle := by
  simp only [betweenRounds,Bool.and_eq_true,decide_eq_true_eq] at between
  exact between.1.1

theorem step_exact (taken : step s action = some next) : Steps s action next := by
  cases action with
  | call call =>
      simp only [step] at taken
      split at taken
      · rename_i allowed
        cases taken
        exact .call allowed
      · cases taken
  | popEvent => cases taken; exact .popEvent _
  | pump =>
      simp only [step] at taken
      split at taken <;> cases taken
      exact .pump
  | tryConsume now =>
      simp only [step] at taken
      split at taken
      · rename_i idle
        cases taken
        exact .tryConsume idle.1
      · cases taken
  | sendable now =>
      simp only [step] at taken
      split at taken
      · rename_i command stage held
        cases taken
        simp only [sendable]
        split
        · rename_i passed
          exact .approved stage held passed
        · rename_i failed
          exact .refused stage held (by simpa using failed) ⟨rfl,rfl,rfl⟩
      · cases taken
  | encode now =>
      simp only [step] at taken
      split at taken
      · rename_i command stage held
        cases taken
        exact encode_exact s stage held now
      · cases taken
  | send outcome =>
      simp only [step] at taken
      split at taken
      · rename_i wire frame nowNs stage
        cases taken
        cases outcome with
        | sent => exact .sent stage
        | wouldBlock => exact .wouldBlock stage
        | failed => exact .failed stage ⟨rfl,rfl,rfl⟩
      · cases taken
  | note =>
      simp only [step] at taken
      split at taken
      · rename_i wire nowNs stage
        cases taken
        refine .note stage ?_ ?_ ?_ <;> simp only [note,LinuxRuntime.apply] <;> split <;> simp_all
      · cases taken
  | stop source =>
      cases source with
      | request => cases taken; exact .stopped s.queue s.io.queueRejects _
      | eventFd | signal =>
          simp only [step] at taken
          split at taken <;> cases taken
          exact .stopped s.queue s.io.queueRejects _
      | canError now =>
          simp only [step] at taken
          split at taken <;> cases taken
          exact .stopped _ _ _
  | exit waitFailed =>
      simp only [step] at taken
      split at taken
      · rename_i ended
        have idle := rounds_idle ended.1
        cases taken
        exact .exited ⟨rfl,rfl,idle⟩
      · cases taken

theorem step_nodeId (taken : step s action = some next) : next.io.nodeId = s.io.nodeId := by
  cases action with
  | call call =>
      simp only [step] at taken
      split at taken <;> cases taken
      rfl
  | popEvent => cases taken; rfl
  | pump | tryConsume now =>
      simp only [step] at taken
      split at taken <;> cases taken
      rfl
  | sendable now =>
      simp only [step,sendable] at taken
      split at taken
      · split at taken <;> cases taken <;> rfl
      · cases taken
  | encode now =>
      simp only [step,encode] at taken
      split at taken
      · split at taken
        · cases taken; rfl
        · split at taken
          · cases taken; rfl
          · split at taken <;> cases taken <;> rfl
      · cases taken
  | send outcome =>
      simp only [step] at taken
      split at taken
      · cases outcome <;> cases taken <;> rfl
      · cases taken
  | note =>
      simp only [step,note] at taken
      split at taken
      · split at taken <;> cases taken <;> rfl
      · cases taken
  | stop source =>
      cases source with
      | request => cases taken; rfl
      | eventFd | signal | canError now =>
          simp only [step] at taken
          split at taken <;> cases taken
          rfl
  | exit waitFailed =>
      simp only [step] at taken
      split at taken <;> cases taken
      rfl

-- Seen from the runtime alone, the I/O loop and the other threads are one run of
-- its entries.
theorem step_simulates : Simulates IoSystem.runtime runtimeCall step LinuxRuntime.step := by
  intro s action next taken
  cases step_exact taken with
  | call _ | popEvent _ | pump | tryConsume _ | approved _ _ _ | encoded _ _ _ _ | sent _ | wouldBlock _ | stopped _ _ _ => rfl
  | refused _ _ _ dropped | unencodable _ _ _ dropped | failed _ dropped | exited dropped => exact dropped.runtime
  | note stage runtime _ _ => simp only [runtimeCall,stage,LinuxRuntime.step,runtime]

abbrev IoMoment := Moment IoSystem IoAction

def runtimeHistory (past : List IoMoment) : List LinuxRuntime.RuntimeMoment :=
  projected IoSystem.runtime runtimeCall past

-- What every reachable state keeps about the pump: its place in pump_output
-- agrees with the command it holds, and it holds none while an ACK is awaited.
structure IoInvariant (past : List IoMoment) (s : IoSystem) : Prop where
  epoch : LinuxRuntime.EpochInvariant (runtimeHistory past) s.runtime
  joined : LinuxRuntime.Joined s.runtime
  unacknowledged : ∀ command, s.io.pendingOutput = some command → s.runtime.outputAckPending = false
  held : s.stage ≠ .idle → ∃ command, s.io.pendingOutput = some command
  wired : ∀ wire frame nowNs command, s.stage = .encoded wire frame nowNs → s.io.pendingOutput = some command →
    toWireCommand command s.io.nodeId nowNs = .ok wire ∧ CanV1.encodeOutputCommand wire = .ok frame

theorem launched_invariant (config : RuntimeConfig) (queue : BoundedInputQueue) (nodeId : UInt8) :
    IoInvariant [] (launched (LinuxRuntime.construct config) queue nodeId) := by
  refine ⟨LinuxRuntime.initial_epoch config,LinuxRuntime.construct_joined config,?_,?_,?_⟩
  · intro _ held; cases held
  · intro stage; exact absurd rfl stage
  · intro _ _ _ _ stage; cases stage

theorem consume_held (s : IoSystem) (now : Result Int) (held : (s.tryConsume now).io.pendingOutput = some command) :
    (s.runtime.tryConsumeOutputCommand now).2 = some command ∨
      ((s.runtime.tryConsumeOutputCommand now).2 = none ∧ s.io.pendingOutput = some command) := by
  simp only [tryConsume] at held
  cases returned : (s.runtime.tryConsumeOutputCommand now).2 with
  | some latest =>
      rw [returned] at held
      exact .inl held
  | none =>
      rw [returned] at held
      exact .inr ⟨rfl,held⟩

theorem consume_stage (s : IoSystem) (now : Result Int) :
    (s.tryConsume now).stage =
      if (s.tryConsume now).io.pendingOutput.isSome then .consumed else .idle := rfl

theorem consume_ack (r : LinuxRuntime) (now : Result Int) :
    (r.tryConsumeOutputCommand now).1.outputAckPending = r.outputAckPending ∧
      ((r.tryConsumeOutputCommand now).2 ≠ none → r.outputAckPending = false) := by
  have step := LinuxRuntime.consume_exact r now
  generalize (r.tryConsumeOutputCommand now).1 = next at step
  generalize (r.tryConsumeOutputCommand now).2 = returned at step
  cases step with
  | clock | shut _ | unacknowledged _ | empty _ => exact ⟨rfl,fun wrong => absurd rfl wrong⟩
  | expired _ _ free _ _ | taken _ _ free _ _ => exact ⟨rfl,fun _ => free⟩

theorem unacknowledged_step (invariant : IoInvariant past s) (taken : step s action = some next) {command : OutputCommand}
    (held : next.io.pendingOutput = some command) : next.runtime.outputAckPending = false := by
  cases step_exact taken with
  | @call call allowed =>
      have free := invariant.unacknowledged command held
      cases pending : (s.runtime.apply call).outputAckPending with
      | false => rfl
      | true =>
          rcases LinuxRuntime.apply_ack invariant.epoch.composite call pending with ⟨before,_⟩ | ⟨_,_,_,_,rfl,_⟩
          · cases before.symm.trans free
          · cases allowed
  | popEvent _ | pump | approved _ _ _ | encoded _ _ _ _ | sent _ | wouldBlock _ | stopped _ _ _ =>
      exact invariant.unacknowledged command held
  | @tryConsume now idle =>
      obtain ⟨same,free⟩ := consume_ack s.runtime now
      rcases consume_held s now held with returned | ⟨_,before⟩
      · exact same.trans (free (by simp [returned]))
      · exact same.trans (invariant.unacknowledged command before)
  | refused _ _ _ dropped | unencodable _ _ _ dropped | failed _ dropped | exited dropped =>
      rw [dropped.pending] at held
      cases held
  | note _ _ pending _ =>
      rw [pending] at held
      cases held

theorem held_step (invariant : IoInvariant past s) (taken : step s action = some next) (busy : next.stage ≠ .idle) :
    ∃ command, next.io.pendingOutput = some command := by
  cases step_exact taken with
  | call _ | popEvent _ | pump | stopped _ _ _ => exact invariant.held busy
  | @tryConsume now idle =>
      cases held : (s.tryConsume now).io.pendingOutput with
      | some command => exact ⟨command,rfl⟩
      | none =>
          rw [consume_stage,held] at busy
          exact absurd rfl busy
  | approved _ held _ | encoded _ held _ _ => exact ⟨_,held⟩
  | sent stage => exact invariant.held (by simp [stage])
  | wouldBlock _ => exact absurd rfl busy
  | refused _ _ _ dropped | unencodable _ _ _ dropped | failed _ dropped | exited dropped => exact absurd dropped.stage busy
  | note _ _ _ done => exact absurd done busy

theorem wired_step (invariant : IoInvariant past s) (taken : step s action = some next) {command : OutputCommand}
    {wire : CanV1.WireOutputCommand} {frame : CanFrame} {nowNs : Int} (stage : next.stage = .encoded wire frame nowNs)
    (held : next.io.pendingOutput = some command) :
    toWireCommand command next.io.nodeId nowNs = .ok wire ∧ CanV1.encodeOutputCommand wire = .ok frame := by
  cases step_exact taken with
  | call _ | popEvent _ | pump | stopped _ _ _ => exact invariant.wired wire frame nowNs command stage held
  | @tryConsume now idle =>
      rw [consume_stage] at stage
      split at stage <;> cases stage
  | approved _ _ _ | sent _ | wouldBlock _ => cases stage
  | encoded _ before wired framed =>
      cases stage
      have same := Option.some.inj (before.symm.trans held)
      subst same
      exact ⟨wired,framed⟩
  | refused _ _ _ dropped | unencodable _ _ _ dropped | failed _ dropped | exited dropped =>
      rw [dropped.stage] at stage
      cases stage
  | note _ _ _ done =>
      rw [done] at stage
      cases stage

theorem io_preserved (invariant : IoInvariant past s) (taken : step s action = some next) :
    IoInvariant (⟨s,action,next⟩ :: past) next := by
  have runtime := projected_invariant step_simulates
    (fun past r => LinuxRuntime.EpochInvariant past r ∧ LinuxRuntime.Joined r)
    (fun _ _ _ _ held taken => ⟨LinuxRuntime.step_epoch held.1 taken,LinuxRuntime.step_joined held.2 taken⟩)
    ⟨invariant.epoch,invariant.joined⟩ taken
  exact ⟨runtime.1,runtime.2,fun _ held => unacknowledged_step invariant taken held,held_step invariant taken,
    fun _ _ _ _ stage held => wired_step invariant taken stage held⟩

-- The wait for an acknowledgement is opened by the registration of the frame
-- just sent, and is for that frame.
theorem ack_source (invariant : IoInvariant past s) (taken : step s action = some next)
    (pending : next.runtime.outputAckPending = true) :
    (s.runtime.outputAckPending = true ∧ next.runtime.lastSentSession = s.runtime.lastSentSession ∧
        next.runtime.lastSentSequence = s.runtime.lastSentSequence) ∨
      (s.runtime.outputAckPending = false ∧ ∃ wire nowNs, s.stage = .sent wire nowNs ∧
        next.runtime.lastSentSession = wire.sessionId ∧ next.runtime.lastSentSequence = wire.sequence) := by
  have mirrored := step_simulates s action next taken
  cases called : runtimeCall s action with
  | none =>
      rw [called] at mirrored
      exact .inl (by rw [← mirrored]; exact ⟨pending,rfl,rfl⟩)
  | some call =>
      rw [called] at mirrored
      have applied := Option.some.inj mirrored
      rw [← applied] at pending ⊢
      rcases LinuxRuntime.apply_ack invariant.epoch.composite call pending with same | ⟨free,_,_,_,rfl,session,sequence⟩
      · exact .inl same
      · -- Of the steps only the registration makes this call.
        refine .inr ⟨free,?_⟩
        rw [session,sequence]
        cases step_exact taken with
        | call allowed => cases called; cases allowed
        | note stage _ _ _ =>
            simp only [runtimeCall,stage] at called
            cases called
            exact ⟨_,_,stage,rfl,rfl⟩
        | _ => cases called

theorem stage_sent (taken : step s action = some next) (other : action ≠ .send .sent)
    (stage : next.stage = .sent wire nowNs) : s.stage = .sent wire nowNs := by
  cases step_exact taken with
  | call _ | popEvent _ | pump | stopped _ _ _ => exact stage
  | tryConsume _ =>
      rw [consume_stage] at stage
      split at stage <;> cases stage
  | approved _ _ _ | encoded _ _ _ _ | wouldBlock _ => cases stage
  | sent _ => exact absurd rfl other
  | refused _ _ _ dropped | unencodable _ _ _ dropped | failed _ dropped | exited dropped =>
      rw [dropped.stage] at stage
      cases stage
  | note _ _ _ done =>
      rw [done] at stage
      cases stage

def fresh4 : IoSystem := launched (LinuxRuntime.construct {}) (.construct 4) 1

def activated : List IoAction :=
  [.call (.start (.ok ())),.call (.handle .boot),.call (.setInterlockReady true),.call (.handle .activateRequest)]

def pumped (nowNs : Int) (outcome : SendOutcome) : List IoAction :=
  [.sendable (.ok nowNs),.encode (.ok nowNs),.send outcome]

def transmitted (command : OutputCommand) (nowNs : Int) : List IoAction :=
  [.call (.publishOutputCommand command (.ok nowNs)),.pump,.tryConsume (.ok nowNs)] ++ pumped nowNs .sent ++ [.note]

end IoSystem

end RobotControlRuntime
