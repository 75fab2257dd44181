import RobotControlRuntime.StateMachine

namespace RobotControlRuntime

structure CommandMailbox where
  slot : Option OutputCommand := none
  publishCount : UInt64 := 0
  consumeCount : UInt64 := 0
  dropCount : UInt64 := 0
  deriving DecidableEq, Repr

namespace CommandMailbox

def publish (box : CommandMailbox) (command : OutputCommand) : CommandMailbox :=
  {box with
    slot := some command
    dropCount := if box.slot.isSome then box.dropCount + 1 else box.dropCount
    publishCount := box.publishCount + 1}

def tryConsume (box : CommandMailbox) : CommandMailbox × Option OutputCommand :=
  match box.slot with
  | none => (box,none)
  | some command => ({box with slot := none,consumeCount := box.consumeCount + 1},some command)

-- A deliberate close of the output path, not an overwrite: no drop is counted.
def clear (box : CommandMailbox) : CommandMailbox := {box with slot := none}

def hasPending (box : CommandMailbox) : Bool := box.slot.isSome

@[simp] theorem publish_slot (box : CommandMailbox) (command : OutputCommand) :
    (box.publish command).slot = some command := rfl
@[simp] theorem clear_slot (box : CommandMailbox) : box.clear.slot = none := rfl
@[simp] theorem tryConsume_slot (box : CommandMailbox) : box.tryConsume.1.slot = none := by
  unfold tryConsume
  split <;> simp_all
@[simp] theorem tryConsume_returned (box : CommandMailbox) : box.tryConsume.2 = box.slot := by
  unfold tryConsume
  split <;> simp_all

end CommandMailbox

inductive WatchdogState where
  | disarmed | healthy | expired
  deriving DecidableEq, Repr

structure WatchdogCheck where
  state : WatchdogState := .disarmed
  newlyExpired : Bool := false
  ageNs : Int := 0
  deriving DecidableEq, Repr

structure MonotonicWatchdog where
  timeoutNs : Int
  lastKickNs : Int := 0
  armed : Bool := false
  expired : Bool := false
  deriving DecidableEq, Repr

namespace MonotonicWatchdog

def arm (dog : MonotonicWatchdog) (nowNs : Int) : MonotonicWatchdog :=
  {dog with lastKickNs := nowNs,expired := false,armed := true}

-- The last kick stays; a disarmed watchdog never reads it.
def disarm (dog : MonotonicWatchdog) : MonotonicWatchdog := {dog with armed := false,expired := false}

def check (dog : MonotonicWatchdog) (nowNs : Int) : MonotonicWatchdog × WatchdogCheck :=
  if !dog.armed then (dog,{})
  else
    let ageNs := max (nowNs - dog.lastKickNs) 0
    if ageNs < dog.timeoutNs then (dog,⟨.healthy,false,ageNs⟩)
    else ({dog with expired := true},⟨.expired,!dog.expired,ageNs⟩)

@[simp] theorem arm_armed (dog : MonotonicWatchdog) (nowNs : Int) : (dog.arm nowNs).armed = true := rfl
@[simp] theorem disarm_armed (dog : MonotonicWatchdog) : dog.disarm.armed = false := rfl
@[simp] theorem check_armed (dog : MonotonicWatchdog) (nowNs : Int) :
    (dog.check nowNs).1.armed = dog.armed := by
  unfold check
  dsimp only
  split
  · rfl
  · split <;> rfl

theorem check_newlyExpired (dog : MonotonicWatchdog) (nowNs : Int)
    (expired : (dog.check nowNs).2.newlyExpired = true) : dog.armed = true := by
  unfold check at expired
  cases armed : dog.armed with
  | true => rfl
  | false => simp [armed] at expired

end MonotonicWatchdog

-- The worker thread as the runtime sees it. Its timing loop is not part of the
-- runtime's decisions; only whether it can be joined and whether it runs is.
structure SchedulerConfig where
  periodNs : Int := 10000000
  fifoPriority : Int := 0
  requireFifo : Bool := false
  cpuAffinity : Int := -1
  deriving DecidableEq, Repr

def cpuSetSize : Int := 1024

structure PeriodicScheduler where
  config : SchedulerConfig := {}
  joinable : Bool := false
  running : Bool := false
  workerError : Int := 0
  deriving DecidableEq, Repr

namespace PeriodicScheduler

-- `startup` is what the new worker reports back before its loop: affinity,
-- SCHED_FIFO and clock initialisation, or the failure to create the thread.
def start (scheduler : PeriodicScheduler) (startup : Result Unit) : PeriodicScheduler × Result Unit :=
  if scheduler.config.periodNs ≤ 0 then
    (scheduler,.error ⟨.invalidArgument,"scheduler period must be positive"⟩)
  else if scheduler.config.fifoPriority < 0 ∨ 99 < scheduler.config.fifoPriority then
    (scheduler,.error ⟨.invalidArgument,"SCHED_FIFO priority must be 0..99"⟩)
  else if scheduler.config.requireFifo ∧ scheduler.config.fifoPriority = 0 then
    (scheduler,.error ⟨.invalidArgument,"require_fifo needs a non-zero priority"⟩)
  else if scheduler.config.cpuAffinity < -1 ∨ cpuSetSize ≤ scheduler.config.cpuAffinity then
    (scheduler,.error ⟨.invalidArgument,"CPU affinity must be -1 or less than CPU_SETSIZE"⟩)
  else if scheduler.joinable then (scheduler,.error ⟨.busy,"scheduler already started"⟩)
  else
    match startup with
    | .error error => ({scheduler with joinable := false,running := false,workerError := 0},.error error)
    | .ok () => ({scheduler with joinable := true,running := true,workerError := 0},.ok ())

-- The loop ended by itself: the thread still has to be joined.
def workerExit (scheduler : PeriodicScheduler) (workerError : Int) : PeriodicScheduler :=
  {scheduler with running := false,workerError := workerError}

def stopAndJoin (scheduler : PeriodicScheduler) : PeriodicScheduler :=
  {scheduler with joinable := false,running := false}

end PeriodicScheduler

structure RuntimeConfig where
  scheduler : SchedulerConfig := {}
  commandTimeoutNs : Int := 100000000
  outputAckTimeoutNs : Int := 100000000
  testThrowOnTick : Bool := false
  deriving DecidableEq, Repr

-- Everything below is guarded by state_mutex_; the diagnostic trace is left out,
-- no decision reads it.
structure LinuxRuntime where
  config : RuntimeConfig
  stateMachine : RuntimeStateMachine := {}
  mailbox : CommandMailbox := {}
  commandWatchdog : MonotonicWatchdog
  scheduler : PeriodicScheduler
  activeSessionId : Option UInt64 := none
  lastOutputSequence : UInt64 := 0
  outputAckPending : Bool := false
  lastSentSession : UInt16 := 0
  lastSentSequence : UInt16 := 0
  lastSentTimeNs : Int := 0
  lastAckSession : UInt16 := 0
  lastAckSequence : UInt16 := 0
  lastAckResult : CanV1.OutputResult := .applied
  lastAckTimeNs : Int := 0
  ackTimeoutCount : UInt64 := 0
  unexpectedAckCount : UInt64 := 0
  testThrowOnTick : Bool := false
  deriving DecidableEq, Repr

namespace LinuxRuntime

def construct (config : RuntimeConfig) : LinuxRuntime :=
  {config := config
   commandWatchdog := {timeoutNs := config.commandTimeoutNs}
   scheduler := {config := config.scheduler}
   testThrowOnTick := config.testThrowOnTick}

def mode (r : LinuxRuntime) : RuntimeMode := r.stateMachine.mode

def clearOutputPath (r : LinuxRuntime) : LinuxRuntime :=
  {r with
    commandWatchdog := r.commandWatchdog.disarm
    mailbox := r.mailbox.clear
    activeSessionId := none
    lastOutputSequence := 0
    outputAckPending := false}

def maybeDisarmIdleCommandWatchdog (r : LinuxRuntime) : LinuxRuntime :=
  if !r.mailbox.hasPending && !r.outputAckPending then
    {r with commandWatchdog := r.commandWatchdog.disarm}
  else r

def start (r : LinuxRuntime) (startup : Result Unit) : LinuxRuntime × Result Unit :=
  if r.config.commandTimeoutNs ≤ 0 ∨ r.config.outputAckTimeoutNs ≤ 0 then
    (r,.error ⟨.invalidArgument,"command watchdog and output ACK timeouts must be positive"⟩)
  else
    let (scheduler,result) := r.scheduler.start startup
    ({r with scheduler := scheduler},result)

def stop (r : LinuxRuntime) : LinuxRuntime :=
  {({r with scheduler := r.scheduler.stopAndJoin} : LinuxRuntime).clearOutputPath with stateMachine := {}}

def handle (r : LinuxRuntime) (event : RuntimeEvent) : LinuxRuntime × TransitionResult :=
  if event = .faultDetected then
    (r,⟨false,r.mode,r.mode,"use raise_fault(code) for atomic fault escalation"⟩)
  else if event = .activateRequest ∧ r.scheduler.running = false then
    (r,⟨false,r.mode,r.mode,"runtime scheduler is not running"⟩)
  else
    let (machine,transition) := r.stateMachine.handle event
    let next := {r with stateMachine := machine}
    if transition.accepted then
      if transition.toMode = .active ∧ transition.fromMode ≠ .active then (next.clearOutputPath,transition)
      else if transition.fromMode = .active ∧ transition.toMode ≠ .active then (next.clearOutputPath,transition)
      else (next,transition)
    else (next,transition)

def raiseFault (r : LinuxRuntime) (code : FaultCode) : LinuxRuntime × TransitionResult :=
  if code = .none then (r,⟨false,r.mode,r.mode,"raise_fault requires a non-NONE fault code"⟩)
  else
    let (machine,transition) := (r.stateMachine.setFault code).handle .faultDetected
    (({r with stateMachine := machine} : LinuxRuntime).clearOutputPath,transition)

def setInterlockReady (r : LinuxRuntime) (ready : Bool) : LinuxRuntime :=
  let next := {r with stateMachine := r.stateMachine.setInterlockReady ready}
  if r.mode = .active ∧ next.mode ≠ .active then next.clearOutputPath else next

-- The last checks of an admission: the session is bound by now, the sequence
-- has to be newer than the last one of this session.
def commitSequence (r : LinuxRuntime) (command : OutputCommand) (nowNs : Int) : LinuxRuntime × Result Unit :=
  if command.sequence ≤ r.lastOutputSequence then
    (r,.error ⟨.rejected,"output command sequence is stale or duplicated"⟩)
  else
    ({r with
      lastOutputSequence := command.sequence
      mailbox := r.mailbox.publish command
      commandWatchdog := r.commandWatchdog.arm nowNs},.ok ())

def publishOutputCommand (r : LinuxRuntime) (command : OutputCommand) (now : Result Int) :
    LinuxRuntime × Result Unit :=
  match now with
  | .error error => (r,.error error)
  | .ok nowNs =>
    if !r.scheduler.running then (r,.error ⟨.rejected,"runtime scheduler is not running"⟩)
    else if !r.stateMachine.canAcceptOutput then
      (r,.error ⟨.rejected,"runtime is not active or software interlock is open"⟩)
    else if command.sessionId = 0 ∨ command.sequence = 0 ∨ command.mask = 0 then
      (r,.error ⟨.rejected,"output command requires nonzero session, sequence, and mask"⟩)
    else if command.deadlineNs ≤ nowNs then
      (r,.error ⟨.rejected,"output command deadline has expired or is missing"⟩)
    else match r.activeSessionId with
      | none => ({r with activeSessionId := some command.sessionId} : LinuxRuntime).commitSequence command nowNs
      | some session =>
        if session ≠ command.sessionId then
          (r,.error ⟨.rejected,"output command belongs to a different active session"⟩)
        else r.commitSequence command nowNs

def tryConsumeOutputCommand (r : LinuxRuntime) (now : Result Int) : LinuxRuntime × Option OutputCommand :=
  match now with
  | .error _ => (r,none)
  | .ok nowNs =>
    if !r.scheduler.running || !r.stateMachine.canAcceptOutput then ({r with mailbox := r.mailbox.clear},none)
    else if r.outputAckPending then (r,none)
    else
      let (mailbox,command) := r.mailbox.tryConsume
      let next := {r with mailbox := mailbox}
      match command with
      | none => (next,none)
      | some command =>
        if command.deadlineNs ≤ nowNs then (next.maybeDisarmIdleCommandWatchdog,none)
        else (next,some command)

def outputCommandSendable (r : LinuxRuntime) (command : OutputCommand) (now : Result Int) : Bool :=
  match now with
  | .error _ => false
  | .ok nowNs =>
    r.scheduler.running && r.stateMachine.canAcceptOutput && !r.outputAckPending &&
      (r.activeSessionId == some command.sessionId) && decide (nowNs < command.deadlineNs)

def noteOutputCommandSent (r : LinuxRuntime) (sessionId sequence : UInt16) (sentTimeNs : Int) :
    LinuxRuntime × Result Unit :=
  if sessionId = 0 ∨ sequence = 0 ∨ sentTimeNs ≤ 0 then
    (r,.error ⟨.invalidArgument,"sent output requires nonzero wire session, sequence, and timestamp"⟩)
  else if !r.scheduler.running || !r.stateMachine.canAcceptOutput ||
      !(r.activeSessionId.map UInt64.toUInt16 == some sessionId) then
    (r,.error ⟨.rejected,"runtime closed while output command was being sent"⟩)
  else if r.outputAckPending then (r,.error ⟨.busy,"an output command ACK is already pending"⟩)
  else
    ({r with
      outputAckPending := true
      lastSentSession := sessionId
      lastSentSequence := sequence
      lastSentTimeNs := sentTimeNs},.ok ())

def ackMatches (r : LinuxRuntime) (sessionId sequence : UInt16) : Bool :=
  r.outputAckPending && sessionId == r.lastSentSession && sequence == r.lastSentSequence

def observeOutputStatus (r : LinuxRuntime) (sessionId sequence : UInt16) (result : CanV1.OutputResult)
    (ackTimeNs : Int) : LinuxRuntime :=
  let next := {r with
    lastAckSession := sessionId
    lastAckSequence := sequence
    lastAckResult := result
    lastAckTimeNs := ackTimeNs}
  if r.ackMatches sessionId sequence && result == .applied then
    ({next with outputAckPending := false} : LinuxRuntime).maybeDisarmIdleCommandWatchdog
  else {next with unexpectedAckCount := next.unexpectedAckCount + 1}

-- The two timeouts of a tick share one critical section; the ACK timeout is
-- judged first so that one tick gives one reason.
def checkAckTimeout (r : LinuxRuntime) (tick : SchedulerTick) : LinuxRuntime :=
  if r.stateMachine.canAcceptOutput && r.outputAckPending && decide (r.lastSentTimeNs ≤ tick.actualNs) &&
      decide (r.config.outputAckTimeoutNs ≤ tick.actualNs - r.lastSentTimeNs) then
    let (machine,_) := (r.stateMachine.setFault .ackTimeout).handle .hold
    ({r with stateMachine := machine,ackTimeoutCount := r.ackTimeoutCount + 1} : LinuxRuntime).clearOutputPath
  else r

def checkCommandWatchdog (r : LinuxRuntime) (tick : SchedulerTick) : LinuxRuntime :=
  if r.stateMachine.canAcceptOutput then
    let (watchdog,check) := r.commandWatchdog.check tick.actualNs
    let next := {r with commandWatchdog := watchdog}
    if check.newlyExpired then
      let (machine,_) := next.stateMachine.handle .commandTimeout
      ({next with stateMachine := machine} : LinuxRuntime).clearOutputPath
    else next
  else r

-- `true` means the callback threw before it did anything: the test seam, which
-- fires once.
def onTick (r : LinuxRuntime) (tick : SchedulerTick) : LinuxRuntime × Bool :=
  if r.testThrowOnTick then ({r with testThrowOnTick := false},true)
  else ((r.checkAckTimeout tick).checkCommandWatchdog tick,false)

end LinuxRuntime

def ecanceled : Int := 125

-- One atomic entry of LinuxRuntime with its arguments and its clock reading.
-- `workerExit` is the scheduler worker ending by itself.
inductive RuntimeCall where
  | start (startup : Result Unit)
  | stop
  | handle (event : RuntimeEvent)
  | raiseFault (code : FaultCode)
  | setInterlockReady (ready : Bool)
  | publishOutputCommand (command : OutputCommand) (now : Result Int)
  | tryConsumeOutputCommand (now : Result Int)
  | noteOutputCommandSent (sessionId sequence : UInt16) (sentTimeNs : Int)
  | observeOutputStatus (sessionId sequence : UInt16) (result : CanV1.OutputResult) (ackTimeNs : Int)
  | onTick (tick : SchedulerTick)
  | workerExit (workerError : Int)

namespace LinuxRuntime

-- A throwing callback ends the worker loop with ECANCELED.
def tick (r : LinuxRuntime) (tick : SchedulerTick) : LinuxRuntime :=
  match r.onTick tick with
  | (next,true) => {next with scheduler := next.scheduler.workerExit ecanceled}
  | (next,false) => next

def apply (r : LinuxRuntime) : RuntimeCall → LinuxRuntime
  | .start startup => (r.start startup).1
  | .stop => r.stop
  | .handle event => (r.handle event).1
  | .raiseFault code => (r.raiseFault code).1
  | .setInterlockReady ready => r.setInterlockReady ready
  | .publishOutputCommand command now => (r.publishOutputCommand command now).1
  | .tryConsumeOutputCommand now => (r.tryConsumeOutputCommand now).1
  | .noteOutputCommandSent sessionId sequence sentTimeNs =>
      (r.noteOutputCommandSent sessionId sequence sentTimeNs).1
  | .observeOutputStatus sessionId sequence result ackTimeNs =>
      r.observeOutputStatus sessionId sequence result ackTimeNs
  | .onTick tick => r.tick tick
  | .workerExit workerError => {r with scheduler := r.scheduler.workerExit workerError}

theorem publish_parts (r : LinuxRuntime) (command : OutputCommand) (now : Result Int)
    (accepted : (r.publishOutputCommand command now).2 = .ok ()) :
    ∃ nowNs, now = .ok nowNs ∧ r.scheduler.running = true ∧ r.stateMachine.canAcceptOutput = true ∧
      command.sessionId ≠ 0 ∧ command.sequence ≠ 0 ∧ command.mask ≠ 0 ∧ nowNs < command.deadlineNs ∧
      (r.activeSessionId = none ∨ r.activeSessionId = some command.sessionId) ∧
      r.lastOutputSequence < command.sequence ∧
      (r.publishOutputCommand command now).1 =
        {r with
          activeSessionId := some command.sessionId
          lastOutputSequence := command.sequence
          mailbox := r.mailbox.publish command
          commandWatchdog := r.commandWatchdog.arm nowNs} := by
  cases now with
  | error error => cases accepted
  | ok nowNs =>
      refine ⟨nowNs,rfl,?_⟩
      simp only [publishOutputCommand] at accepted ⊢
      split at accepted
      · cases accepted
      · split at accepted
        · cases accepted
        · split at accepted
          · cases accepted
          · split at accepted
            · cases accepted
            · rename_i running opened nonzero fresh
              simp only [not_or] at nonzero
              simp only [if_neg running,if_neg opened,not_or.mpr ⟨nonzero.1,not_or.mpr nonzero.2⟩,if_false,if_neg fresh]
              refine ⟨by simpa using running,by simpa using opened,nonzero.1,nonzero.2.1,nonzero.2.2,by omega,?_⟩
              cases session : r.activeSessionId with
              | none =>
                  simp only [session,commitSequence] at accepted ⊢
                  split at accepted
                  · cases accepted
                  · rename_i newer
                    exact ⟨.inl trivial,UInt64.not_le.mp newer,by rw [if_neg newer]⟩
              | some other =>
                  simp only [session] at accepted ⊢
                  split at accepted
                  · cases accepted
                  · rename_i same
                    have same : other = command.sessionId := by simpa using same
                    subst same
                    simp only [commitSequence] at accepted ⊢
                    split at accepted
                    · cases accepted
                    · rename_i newer
                      refine ⟨.inr trivial,UInt64.not_le.mp newer,?_⟩
                      rw [if_neg newer]
                      simp [session]

-- A refusal changes nothing, except that a stale first command would leave its
-- session bound.
theorem publish_refused (r : LinuxRuntime) (command : OutputCommand) (now : Result Int)
    (refused : (r.publishOutputCommand command now).2 ≠ .ok ()) :
    (r.publishOutputCommand command now).1 = r ∨
      (r.activeSessionId = none ∧ command.sequence ≠ 0 ∧ command.sequence ≤ r.lastOutputSequence ∧
        (r.publishOutputCommand command now).1 = {r with activeSessionId := some command.sessionId}) := by
  cases now with
  | error error => exact .inl rfl
  | ok nowNs =>
      simp only [publishOutputCommand] at refused ⊢
      split
      · exact .inl rfl
      · split
        · exact .inl rfl
        · split
          · exact .inl rfl
          · split
            · exact .inl rfl
            · rename_i running opened nonzero fresh
              simp only [if_neg running,if_neg opened,if_neg nonzero,if_neg fresh] at refused
              simp only [not_or] at nonzero
              cases session : r.activeSessionId with
              | none =>
                  simp only [session,commitSequence] at refused ⊢
                  split
                  · rename_i stale
                    exact .inr ⟨trivial,nonzero.2.1,stale,rfl⟩
                  · rename_i newer
                    rw [if_neg newer] at refused
                    exact absurd rfl refused
              | some other =>
                  simp only [session,commitSequence] at refused ⊢
                  split
                  · exact .inl rfl
                  · rename_i same
                    rw [if_neg same] at refused
                    split
                    · exact .inl rfl
                    · rename_i newer
                      rw [if_neg newer] at refused
                      exact absurd rfl refused

inductive Consumes (r : LinuxRuntime) : Result Int → LinuxRuntime → Option OutputCommand → Prop where
  | clock : Consumes r (.error error) r none
  | shut (shut : r.scheduler.running = false ∨ r.stateMachine.canAcceptOutput = false) :
      Consumes r (.ok nowNs) {r with mailbox := r.mailbox.clear} none
  | unacknowledged (pending : r.outputAckPending = true) : Consumes r (.ok nowNs) r none
  | empty (empty : r.mailbox.slot = none) : Consumes r (.ok nowNs) r none
  | expired (running : r.scheduler.running = true) (opened : r.stateMachine.canAcceptOutput = true)
      (free : r.outputAckPending = false) (waiting : r.mailbox.slot = some command)
      (late : command.deadlineNs ≤ nowNs) :
      Consumes r (.ok nowNs)
        {r with mailbox := r.mailbox.tryConsume.1,commandWatchdog := r.commandWatchdog.disarm} none
  | taken (running : r.scheduler.running = true) (opened : r.stateMachine.canAcceptOutput = true)
      (free : r.outputAckPending = false) (waiting : r.mailbox.slot = some command)
      (fresh : nowNs < command.deadlineNs) :
      Consumes r (.ok nowNs) {r with mailbox := r.mailbox.tryConsume.1} (some command)

theorem consume_exact (r : LinuxRuntime) (now : Result Int) :
    Consumes r now (r.tryConsumeOutputCommand now).1 (r.tryConsumeOutputCommand now).2 := by
  cases now with
  | error error => exact .clock
  | ok nowNs =>
      unfold tryConsumeOutputCommand
      dsimp only
      split
      · rename_i shut
        exact .shut (by simpa using shut)
      · rename_i opened
        simp only [Bool.or_eq_true,Bool.not_eq_true',not_or,Bool.not_eq_false] at opened
        split
        · rename_i pending
          exact .unacknowledged pending
        · rename_i free
          have free : r.outputAckPending = false := by simpa using free
          cases waiting : r.mailbox.slot with
          | none =>
              simp only [CommandMailbox.tryConsume,waiting]
              exact .empty waiting
          | some command =>
              have taken : r.mailbox.tryConsume.2 = some command := by simpa using waiting
              rw [taken]
              dsimp only
              split
              · rename_i late
                have idle : ({r with mailbox := r.mailbox.tryConsume.1} : LinuxRuntime).maybeDisarmIdleCommandWatchdog =
                    {r with mailbox := r.mailbox.tryConsume.1,commandWatchdog := r.commandWatchdog.disarm} := by
                  simp [maybeDisarmIdleCommandWatchdog,CommandMailbox.hasPending,free]
                rw [idle]
                exact .expired opened.1 opened.2 free waiting late
              · rename_i fresh
                exact .taken opened.1 opened.2 free waiting (by omega)

theorem sendable_exact (r : LinuxRuntime) (command : OutputCommand) (now : Result Int) :
    r.outputCommandSendable command now = true ↔
      ∃ nowNs, now = .ok nowNs ∧ r.scheduler.running = true ∧ r.stateMachine.canAcceptOutput = true ∧
        r.outputAckPending = false ∧ r.activeSessionId = some command.sessionId ∧ nowNs < command.deadlineNs := by
  cases now <;> simp [outputCommandSendable,and_assoc]

theorem note_parts (r : LinuxRuntime) (sessionId sequence : UInt16) (sentTimeNs : Int)
    (noted : (r.noteOutputCommandSent sessionId sequence sentTimeNs).2 = .ok ()) :
    sessionId ≠ 0 ∧ sequence ≠ 0 ∧ 0 < sentTimeNs ∧ r.scheduler.running = true ∧
      r.stateMachine.canAcceptOutput = true ∧ r.activeSessionId.map UInt64.toUInt16 = some sessionId ∧
      r.outputAckPending = false ∧
      (r.noteOutputCommandSent sessionId sequence sentTimeNs).1 =
        {r with
          outputAckPending := true
          lastSentSession := sessionId
          lastSentSequence := sequence
          lastSentTimeNs := sentTimeNs} := by
  unfold noteOutputCommandSent at noted ⊢
  split at noted
  · cases noted
  · split at noted
    · cases noted
    · split at noted
      · cases noted
      · rename_i valid opened free
        rw [if_neg valid,if_neg opened,if_neg free]
        simp only [not_or,Int.not_le] at valid
        simp only [Bool.or_eq_true,Bool.not_eq_true',not_or,Bool.not_eq_false,beq_iff_eq] at opened
        exact ⟨valid.1,valid.2.1,valid.2.2,opened.1.1,opened.1.2,opened.2,by simpa using free,rfl⟩

theorem note_refused (r : LinuxRuntime) (sessionId sequence : UInt16) (sentTimeNs : Int)
    (refused : (r.noteOutputCommandSent sessionId sequence sentTimeNs).2 ≠ .ok ()) :
    (r.noteOutputCommandSent sessionId sequence sentTimeNs).1 = r := by
  unfold noteOutputCommandSent at refused ⊢
  split
  · rfl
  · split
    · rfl
    · split
      · rfl
      · rename_i valid opened free
        rw [if_neg valid,if_neg opened,if_neg free] at refused
        exact absurd rfl refused

@[simp] theorem canAccept_mode (m : RuntimeStateMachine) :
    m.canAcceptOutput = true ↔ m.mode = .active ∧ m.interlockReady = true := by
  simp [RuntimeStateMachine.canAcceptOutput]

-- A status closes the pending ACK or only counts; either way it touches nothing
-- of the admission state.
section Observe
variable (r : LinuxRuntime) (sessionId sequence : UInt16) (result : CanV1.OutputResult) (ackTimeNs : Int)

def closesAck : Bool := r.ackMatches sessionId sequence && result == .applied

theorem observe_frame :
    (r.observeOutputStatus sessionId sequence result ackTimeNs).stateMachine = r.stateMachine ∧
    (r.observeOutputStatus sessionId sequence result ackTimeNs).mailbox = r.mailbox ∧
    (r.observeOutputStatus sessionId sequence result ackTimeNs).scheduler = r.scheduler ∧
    (r.observeOutputStatus sessionId sequence result ackTimeNs).activeSessionId = r.activeSessionId ∧
    (r.observeOutputStatus sessionId sequence result ackTimeNs).lastOutputSequence = r.lastOutputSequence ∧
    (r.observeOutputStatus sessionId sequence result ackTimeNs).lastSentSession = r.lastSentSession ∧
    (r.observeOutputStatus sessionId sequence result ackTimeNs).lastSentSequence = r.lastSentSequence := by
  unfold observeOutputStatus maybeDisarmIdleCommandWatchdog
  dsimp only
  split
  · split <;> simp
  · simp

theorem observe_pending :
    (r.observeOutputStatus sessionId sequence result ackTimeNs).outputAckPending =
      (r.outputAckPending && !r.closesAck sessionId sequence result) := by
  unfold observeOutputStatus maybeDisarmIdleCommandWatchdog closesAck
  dsimp only
  split
  · rename_i closes
    rw [closes]
    split <;> simp
  · rename_i unmatched
    simp [eq_false_of_ne_true unmatched]

theorem observe_armed :
    (r.observeOutputStatus sessionId sequence result ackTimeNs).commandWatchdog.armed =
      (r.commandWatchdog.armed && !(r.closesAck sessionId sequence result && r.mailbox.slot.isNone)) := by
  unfold observeOutputStatus maybeDisarmIdleCommandWatchdog closesAck CommandMailbox.hasPending
  dsimp only
  split
  · rename_i closes
    rw [closes]
    cases r.mailbox.slot <;> simp
  · rename_i unmatched
    simp [eq_false_of_ne_true unmatched]

end Observe

-- The four entries of the output path leave the state machine, the scheduler and
-- the test seam alone.
structure SameControl (r next : LinuxRuntime) : Prop where
  machine : next.stateMachine = r.stateMachine
  scheduler : next.scheduler = r.scheduler
  seam : next.testThrowOnTick = r.testThrowOnTick

theorem publish_control (r : LinuxRuntime) (command : OutputCommand) (now : Result Int) :
    SameControl r (r.publishOutputCommand command now).1 := by
  by_cases accepted : (r.publishOutputCommand command now).2 = .ok ()
  · obtain ⟨_,_,_,_,_,_,_,_,_,_,commit⟩ := publish_parts r command now accepted
    rw [commit]
    exact ⟨rfl,rfl,rfl⟩
  · rcases publish_refused r command now accepted with same | ⟨_,_,_,commit⟩
    · rw [same]; exact ⟨rfl,rfl,rfl⟩
    · rw [commit]; exact ⟨rfl,rfl,rfl⟩

theorem consume_control (r : LinuxRuntime) (now : Result Int) : SameControl r (r.tryConsumeOutputCommand now).1 := by
  have step := consume_exact r now
  generalize (r.tryConsumeOutputCommand now).1 = next at step
  generalize (r.tryConsumeOutputCommand now).2 = returned at step
  cases step <;> exact ⟨rfl,rfl,rfl⟩

theorem note_control (r : LinuxRuntime) (sessionId sequence : UInt16) (sentTimeNs : Int) :
    SameControl r (r.noteOutputCommandSent sessionId sequence sentTimeNs).1 := by
  by_cases noted : (r.noteOutputCommandSent sessionId sequence sentTimeNs).2 = .ok ()
  · obtain ⟨_,_,_,_,_,_,_,commit⟩ := note_parts r sessionId sequence sentTimeNs noted
    rw [commit]
    exact ⟨rfl,rfl,rfl⟩
  · rw [note_refused r sessionId sequence sentTimeNs noted]
    exact ⟨rfl,rfl,rfl⟩

theorem observe_control (r : LinuxRuntime) (sessionId sequence : UInt16) (result : CanV1.OutputResult) (ackTimeNs : Int) :
    SameControl r (r.observeOutputStatus sessionId sequence result ackTimeNs) := by
  unfold observeOutputStatus maybeDisarmIdleCommandWatchdog
  dsimp only
  split
  · split <;> exact ⟨rfl,rfl,rfl⟩
  · exact ⟨rfl,rfl,rfl⟩

def onOutputPath : RuntimeCall → Bool
  | .publishOutputCommand _ _ | .tryConsumeOutputCommand _ | .noteOutputCommandSent _ _ _ | .observeOutputStatus _ _ _ _ => true
  | .start _ | .stop | .handle _ | .raiseFault _ | .setInterlockReady _ | .onTick _ | .workerExit _ => false

theorem output_control (r : LinuxRuntime) (call : RuntimeCall) (output : onOutputPath call = true) :
    SameControl r (r.apply call) := by
  cases call with
  | publishOutputCommand command now => exact publish_control r command now
  | tryConsumeOutputCommand now => exact consume_control r now
  | noteOutputCommandSent sessionId sequence sentTimeNs => exact note_control r sessionId sequence sentTimeNs
  | observeOutputStatus sessionId sequence result ackTimeNs => exact observe_control r sessionId sequence result ackTimeNs
  | start | stop | handle | raiseFault | setInterlockReady | onTick | workerExit => cases output

inductive Ticks (r : LinuxRuntime) (tick : SchedulerTick) : LinuxRuntime → Prop where
  | threw (seam : r.testThrowOnTick = true) :
      Ticks r tick {r with testThrowOnTick := false,scheduler := r.scheduler.workerExit ecanceled}
  | quiet (watchdog : MonotonicWatchdog) (same : watchdog.armed = r.commandWatchdog.armed) :
      Ticks r tick {r with commandWatchdog := watchdog}
  | acknowledgement (opened : r.stateMachine.canAcceptOutput = true) (pending : r.outputAckPending = true) :
      Ticks r tick (clearOutputPath
        {r with
          stateMachine := ((r.stateMachine.setFault .ackTimeout).handle .hold).1
          ackTimeoutCount := r.ackTimeoutCount + 1})
  | command (opened : r.stateMachine.canAcceptOutput = true) (armed : r.commandWatchdog.armed = true)
      (watchdog : MonotonicWatchdog) :
      Ticks r tick (clearOutputPath
        {r with stateMachine := (r.stateMachine.handle .commandTimeout).1,commandWatchdog := watchdog})

theorem hold_shut (m : RuntimeStateMachine) (active : m.mode = .active) :
    ((m.setFault .ackTimeout).handle .hold).1.mode = .hold := by
  rcases m with ⟨mode,ready,fault⟩
  cases active
  rfl

theorem timeout_shut (m : RuntimeStateMachine) (active : m.mode = .active) :
    (m.handle .commandTimeout).1.mode = .hold := by
  rcases m with ⟨mode,ready,fault⟩
  cases active
  rfl

theorem watchdog_ticks (r : LinuxRuntime) (tick : SchedulerTick) : Ticks r tick (r.checkCommandWatchdog tick) := by
  unfold checkCommandWatchdog
  split
  · rename_i opened
    dsimp only
    split
    · rename_i expired
      exact .command opened (MonotonicWatchdog.check_newlyExpired _ _ expired) _
    · exact .quiet _ (MonotonicWatchdog.check_armed _ _)
  · exact .quiet r.commandWatchdog rfl

theorem tick_exact (r : LinuxRuntime) (tick : SchedulerTick) : Ticks r tick (r.tick tick) := by
  unfold LinuxRuntime.tick onTick
  cases seam : r.testThrowOnTick with
  | true => exact .threw seam
  | false =>
      simp only [Bool.false_eq_true,if_false]
      unfold checkAckTimeout
      split
      · rename_i late
        simp only [Bool.and_eq_true] at late
        -- The path is already closed, so the watchdog check of the same tick does nothing.
        have shut := hold_shut r.stateMachine ((canAccept_mode _).mp late.1.1.1).1
        unfold checkCommandWatchdog
        rw [if_neg (by simp [clearOutputPath,shut])]
        exact .acknowledgement late.1.1.1 late.1.1.2
      · exact watchdog_ticks r tick

-- Every way an event can end: refused with nothing changed, a transition on one
-- side of Active, or one across its border, which clears the output path.
inductive Handles (r : LinuxRuntime) (event : RuntimeEvent) : LinuxRuntime → Prop where
  | refused : Handles r event r
  | inside (own : event ≠ .faultDetected)
      (same : (r.stateMachine.handle event).1.mode = .active ↔ r.mode = .active) :
      Handles r event {r with stateMachine := (r.stateMachine.handle event).1}
  | across (own : event ≠ .faultDetected) (running : event = .activateRequest → r.scheduler.running = true)
      (crossed : ¬((r.stateMachine.handle event).1.mode = .active ↔ r.mode = .active)) :
      Handles r event (clearOutputPath {r with stateMachine := (r.stateMachine.handle event).1})

theorem handle_exact (r : LinuxRuntime) (event : RuntimeEvent) : Handles r event (r.handle event).1 := by
  unfold handle
  split
  · exact .refused
  · rename_i own
    split
    · exact .refused
    · rename_i running
      have left : (r.stateMachine.handle event).2.fromMode = r.mode := r.stateMachine.handle_fromMode event
      have right := r.stateMachine.handle_toMode event
      have runs : event = .activateRequest → r.scheduler.running = true := by simpa using running
      dsimp only
      rw [left,right]
      split
      · split
        · rename_i enters
          exact .across own runs fun same => enters.2 (same.mp enters.1)
        · split
          · rename_i leaves
            exact .across own runs fun same => leaves.2 (same.mpr leaves.1)
          · rename_i stays leaves
            refine .inside own ⟨fun here => ?_,fun here => ?_⟩
            · exact Decidable.byContradiction fun other => stays ⟨here,other⟩
            · exact Decidable.byContradiction fun other => leaves ⟨here,other⟩
      · rename_i refused
        rw [RuntimeStateMachine.handle_rejected _ _ (by simpa using refused)]
        exact .refused

end LinuxRuntime

end RobotControlRuntime
