import RobotControlRuntime.RuntimeDaemon

namespace RobotControlRuntime

-- One atomic step of a started daemon. The application calls, the I/O thread
-- (its pushes, its two runtime entries and the reason it stopped for) and the
-- scheduler thread interleave in any order.
inductive DaemonAction where
  | boot | activate | deactivate | resume | clearFault
  | publishOutputCommand (command : OutputCommand) (now : Result Int)
  | tryConsumeOutputCommand (now : Result Int)
  | noteOutputCommandSent (sessionId sequence : UInt16) (sentTimeNs : Int)
  | push (event : RuntimeInputEvent)
  | ioStop (reason : IoStopReason)
  | tick (tick : SchedulerTick)
  | workerExit (workerError : Int)

namespace StartedDaemon

def onRuntime (d : StartedDaemon) (call : RuntimeCall) : StartedDaemon := {d with runtime := d.runtime.apply call}

-- A tick needs a running scheduler; everything else can always be called.
def step (d : StartedDaemon) : DaemonAction → Option StartedDaemon
  | .boot => some d.boot.1
  | .activate => some d.activate.1
  | .deactivate => some d.deactivate.1
  | .resume => some d.resume.1
  | .clearFault => some d.clearFault.1
  | .publishOutputCommand command now => some (d.publishOutputCommand command now).1
  | .tryConsumeOutputCommand now => some (d.onRuntime (.tryConsumeOutputCommand now))
  | .noteOutputCommandSent sessionId sequence sentTimeNs =>
    some (d.onRuntime (.noteOutputCommandSent sessionId sequence sentTimeNs))
  | .push event => some {d with queue := (d.queue.tryPush event).1}
  | .ioStop reason => some {d with stopReason := reason}
  | .tick tick => if d.runtime.scheduler.running then some (d.tick tick) else none
  | .workerExit workerError => some (d.onRuntime (.workerExit workerError))

def calls (d : StartedDaemon) : DaemonAction → List RuntimeCall
  | .boot => if d.runtime.mode = .idle then [] else [.handle .boot]
  | .activate => [.handle .activateRequest]
  | .deactivate => [.handle .deactivateRequest]
  | .resume => [.handle .resume]
  | .clearFault =>
    if d.runtime.mode ≠ .fault then [.handle .faultCleared]
    else match (d.acknowledge d.clearSnapshot).2 with
      | .ok () => [.handle .faultCleared]
      | .error _ => []
  | .publishOutputCommand command now => [.publishOutputCommand command now]
  | .tryConsumeOutputCommand now => [.tryConsumeOutputCommand now]
  | .noteOutputCommandSent sessionId sequence sentTimeNs => [.noteOutputCommandSent sessionId sequence sentTimeNs]
  | .push _ | .ioStop _ => []
  | .tick tick =>
    .onTick tick :: if d.runtime.testThrowOnTick then [] else (d.supervisor.onTick d.queue tick.actualNs).2.2
  | .workerExit workerError => [.workerExit workerError]

-- Every way the acknowledgement inside clear_fault can end. It touches the
-- supervisor only, and of it only the restart latch.
inductive Acknowledges (d : StartedDaemon) (snap : ClearSnapshot) :
    StartedDaemon → Except TransitionResult Unit → Prop where
  | stopped (reason : d.stopReason = .ioError ∨ d.stopReason = .sendFailure) :
      Acknowledges d snap d (.error ⟨false,snap.mode,snap.mode,"I/O failure requires daemon restart"⟩)
  | refused (stuck : d.supervisor.blocked d.queue = true ∨ NodeSupervisor.recoverable snap.fault = false) :
      Acknowledges d snap d (.error ⟨false,snap.mode,snap.mode,message⟩)
  | granted (free : d.supervisor.blocked d.queue = false)
      (known : NodeSupervisor.recoverable snap.fault = true) :
      Acknowledges d snap {d with supervisor := {d.supervisor with restartLatched := false}} (.ok ())

theorem acknowledge_exact (d : StartedDaemon) (snap : ClearSnapshot) :
    Acknowledges d snap (d.acknowledge snap).1 (d.acknowledge snap).2 := by
  unfold acknowledge
  split
  · rename_i reason
    exact .stopped reason
  · have inner := d.supervisor.acknowledge_exact d.queue snap.fault
    generalize d.supervisor.acknowledgeFaultClear d.queue snap.fault = answer at inner
    obtain ⟨supervisor,result⟩ := answer
    cases inner with
    | granted free known => exact .granted free known
    | refused stuck => exact .refused stuck

inductive Clears (d : StartedDaemon) : StartedDaemon → List RuntimeCall → Prop where
  | elsewhere (other : d.runtime.mode ≠ .fault) :
      Clears d {d with runtime := (d.runtime.handle .faultCleared).1} [.handle .faultCleared]
  | stuck (faulted : d.runtime.mode = .fault) : Clears d d []
  | cleared (faulted : d.runtime.mode = .fault) (free : d.supervisor.blocked d.queue = false)
      (known : NodeSupervisor.recoverable d.runtime.stateMachine.fault = true) :
      Clears d {d with
        runtime := (d.runtime.handle .faultCleared).1
        supervisor := {d.supervisor with restartLatched := false}} [.handle .faultCleared]

theorem clear_exact (d : StartedDaemon) : Clears d d.clearFault.1 (d.calls .clearFault) := by
  by_cases faulted : d.runtime.mode = .fault
  · simp only [clearFault,calls,clearSnapshot,faulted,ne_eq,not_true_eq_false,if_false]
    have inner := d.acknowledge_exact ⟨.fault,d.runtime.stateMachine.fault⟩
    generalize (d.acknowledge ⟨.fault,d.runtime.stateMachine.fault⟩) = answer at inner
    obtain ⟨next,result⟩ := answer
    dsimp only at inner
    cases inner with
    | stopped _ => exact .stuck faulted
    | refused _ => exact .stuck faulted
    | granted free known => exact .cleared faulted free known
  · simp only [clearFault,calls,clearSnapshot,ne_eq,faulted,not_false_eq_true,if_true]
    exact .elsewhere faulted

variable {config : DaemonConfig} {d next : StartedDaemon} {action : DaemonAction}

theorem step_runtime (taken : d.step action = some next) :
    next.runtime = (d.calls action).foldl LinuxRuntime.apply d.runtime := by
  cases action with
  | boot =>
      cases taken
      simp only [boot,calls]
      split <;> rfl
  | clearFault =>
      cases taken
      have clears := d.clear_exact
      generalize d.clearFault.1 = next at clears
      generalize d.calls .clearFault = calls at clears
      cases clears <;> rfl
  | tick tick =>
      simp only [step] at taken
      split at taken
      · cases taken
        simp only [StartedDaemon.tick,calls]
        split <;> rfl
      · cases taken
  | _ => cases taken; rfl

theorem step_supervisor (taken : d.step action = some next) :
    next.supervisor = d.supervisor ∨ next.supervisor = {d.supervisor with restartLatched := false} ∨
      ∃ tick, action = .tick tick ∧ d.runtime.testThrowOnTick = false ∧
        next.supervisor = (d.supervisor.onTick d.queue tick.actualNs).1 := by
  cases action with
  | boot =>
      cases taken
      simp only [boot]
      split <;> exact .inl rfl
  | clearFault =>
      cases taken
      have clears := d.clear_exact
      generalize d.clearFault.1 = next at clears
      generalize d.calls .clearFault = calls at clears
      cases clears with
      | elsewhere _ | stuck _ => exact .inl rfl
      | cleared _ _ _ => exact .inr (.inl rfl)
  | tick tick =>
      simp only [step] at taken
      split at taken
      · cases taken
        simp only [StartedDaemon.tick]
        split
        · exact .inl rfl
        · rename_i seam
          exact .inr (.inr ⟨tick,rfl,by simpa using seam,rfl⟩)
      · cases taken
  | _ => cases taken; exact .inl rfl

theorem step_queue (taken : d.step action = some next) :
    next.queue = d.queue ∨ (∃ event, action = .push event) ∨
      ∃ tick, action = .tick tick ∧ next.queue = (d.supervisor.onTick d.queue tick.actualNs).2.1 := by
  cases action with
  | boot =>
      cases taken
      simp only [boot]
      split <;> exact .inl rfl
  | clearFault =>
      cases taken
      have clears := d.clear_exact
      generalize d.clearFault.1 = next at clears
      generalize d.calls .clearFault = calls at clears
      cases clears <;> exact .inl rfl
  | tick tick =>
      simp only [step] at taken
      split at taken
      · cases taken
        simp only [StartedDaemon.tick]
        split
        · exact .inl rfl
        · exact .inr (.inr ⟨tick,rfl,rfl⟩)
      · cases taken
  | push event => exact .inr (.inl ⟨event,rfl⟩)
  | _ => cases taken; exact .inl rfl

theorem tick_calls {tick : SchedulerTick} (listed : call ∈ d.calls (.tick tick)) :
    call = .onTick tick ∨ NodeSupervisor.drives call = true := by
  simp only [calls] at listed
  rcases List.mem_cons.mp listed with first | listed
  · exact .inl first
  · split at listed
    · cases listed
    · exact .inr (d.supervisor.tick_drives d.queue _ call listed)

theorem calls_activate (listed : .handle .activateRequest ∈ d.calls action) : action = .activate := by
  cases action with
  | activate => rfl
  | tick tick => rcases tick_calls listed with wrong | wrong <;> cases wrong
  | boot =>
      simp only [calls] at listed
      split at listed <;> simp at listed
  | clearFault =>
      have clears := d.clear_exact
      generalize d.clearFault.1 = next at clears
      generalize d.calls .clearFault = calls at clears listed
      cases clears <;> simp at listed
  | _ => simp [calls] at listed

theorem calls_interlock (other : ∀ tick, action ≠ .tick tick) :
    ∀ call ∈ d.calls action, LinuxRuntime.setsInterlock call = false := by
  cases action with
  | tick tick => exact absurd rfl (other tick)
  | boot =>
      simp only [calls]
      split <;> simp [LinuxRuntime.setsInterlock]
  | clearFault =>
      have clears := d.clear_exact
      generalize d.clearFault.1 = next at clears
      generalize d.calls .clearFault = calls at clears
      cases clears <;> simp [LinuxRuntime.setsInterlock]
  | _ => simp [calls,LinuxRuntime.setsInterlock]

theorem calls_single (other : ∀ tick, action ≠ .tick tick) : d.calls action = [] ∨ ∃ call, d.calls action = [call] := by
  cases action with
  | tick tick => exact absurd rfl (other tick)
  | boot =>
      simp only [calls]
      split
      · exact .inl rfl
      · exact .inr ⟨_,rfl⟩
  | clearFault =>
      have clears := d.clear_exact
      generalize d.clearFault.1 = next at clears
      generalize d.calls .clearFault = calls at clears
      cases clears with
      | stuck _ => exact .inl rfl
      | elsewhere _ | cleared _ _ _ => exact .inr ⟨_,rfl⟩
  | push event | ioStop reason => exact .inl rfl
  | _ => exact .inr ⟨_,rfl⟩

def launched (config : DaemonConfig) (startup : Result Unit) : StartedDaemon where
  runtime := ((LinuxRuntime.construct config.runtimeConfig).apply (.start startup)).apply (.handle .boot)
  supervisor := NodeSupervisor.construct config.supervisorConfig
  queue := BoundedInputQueue.construct config.eventQueueCapacity

def StartedBy (config : DaemonConfig) (d : StartedDaemon) : Prop :=
  ∃ environment daemon, (RuntimeDaemon.construct config).start environment = (daemon,.ok ()) ∧ daemon.parts = some d

theorem started_exact (started : StartedBy config d) :
    0 < config.heartbeatTimeoutMs ∧ ∃ startup, d = launched config startup := by
  obtain ⟨environment,daemon,ran,parts⟩ := started
  simp only [RuntimeDaemon.start,RuntimeDaemon.construct,RuntimeDaemon.started,RuntimeDaemon.fail,
    Option.isSome_none,Bool.false_eq_true,if_false] at ran
  split at ran
  · cases ran
  · rename_i valid
    split at ran
    · cases ran
    · split at ran
      · cases ran
      · cases ran
      · refine ⟨(config.valid_timeouts valid).2.2.2,environment.worker,?_⟩
        simp only [RuntimeDaemon.startParts,RuntimeDaemon.fail] at ran
        split at ran
        · cases ran
        · split at ran
          · cases ran
          · split at ran
            · cases ran
            · cases ran
              cases parts
              rfl

def shortQueue : DaemonConfig := {eventQueueCapacity := 4}

theorem launched_started : StartedBy shortQueue (launched shortQueue (.ok ())) :=
  ⟨⟨true,.ok (),.ok (),.ok (),.ok ()⟩,_,rfl,rfl⟩

end StartedDaemon

end RobotControlRuntime
