import RobotControlRuntime.NodeSupervisor
import RobotControlRuntime.RuntimeInvariant

namespace RobotControlRuntime

inductive DaemonExitCode where
  | ok | configError | interfaceError | permissionError | workerFailure
  deriving DecidableEq, Repr

-- The automatic shutdown after a duration is not here: it only asks for a stop.
structure DaemonConfig where
  canIf : String := "vcan0"
  nodeId : UInt8 := 1
  periodMs : Int := 10
  commandTimeoutMs : Int := 100
  outputAckTimeoutMs : Int := 100
  heartbeatTimeoutMs : Int := 300
  fifoPriority : Int := 0
  requireFifo : Bool := false
  cpuAffinity : Int := -1
  eventQueueCapacity : Nat := 256
  maxEventsPerTick : Nat := 32
  maxFramesPerWake : Nat := 32
  traceCapacity : Nat := 4096
  testThrowOnTick : Bool := false
  deriving DecidableEq, Repr

namespace DaemonConfig

def nanoseconds (milliseconds : Int) : Int := milliseconds * 1000000

def runtimeConfig (config : DaemonConfig) : RuntimeConfig where
  scheduler :=
    {periodNs := nanoseconds config.periodMs
     fifoPriority := config.fifoPriority
     requireFifo := config.requireFifo
     cpuAffinity := config.cpuAffinity}
  commandTimeoutNs := nanoseconds config.commandTimeoutMs
  outputAckTimeoutNs := nanoseconds config.outputAckTimeoutMs
  testThrowOnTick := config.testThrowOnTick

def supervisorConfig (config : DaemonConfig) : NodeSupervisorConfig where
  nodeId := config.nodeId
  heartbeatTimeoutNs := nanoseconds config.heartbeatTimeoutMs
  maxEventsPerTick := config.maxEventsPerTick

def invalid (config : DaemonConfig) : Option Error :=
  if config.nodeId < 1 ∨ 31 < config.nodeId then some ⟨.invalidArgument,"node-id must be 1..31"⟩
  else if config.periodMs ≤ 0 ∨ config.commandTimeoutMs ≤ 0 ∨ config.outputAckTimeoutMs ≤ 0 ∨
      config.heartbeatTimeoutMs ≤ 0 then
    some ⟨.invalidArgument,"period/timeouts must be positive"⟩
  else if config.cpuAffinity < -1 ∨ cpuSetSize ≤ config.cpuAffinity ∨ config.eventQueueCapacity = 0 ∨
      config.maxEventsPerTick = 0 ∨ config.maxFramesPerWake = 0 ∨ config.traceCapacity = 0 then
    some ⟨.invalidArgument,"CPU affinity must be in range and queue/trace capacities must be positive"⟩
  else none

theorem valid_timeouts (config : DaemonConfig) (valid : config.invalid = none) :
    0 < config.periodMs ∧ 0 < config.commandTimeoutMs ∧ 0 < config.outputAckTimeoutMs ∧
      0 < config.heartbeatTimeoutMs := by
  unfold invalid at valid
  grind

end DaemonConfig

-- The parts a started daemon owns. The I/O loop is seen through the reason it
-- stopped for, its pushes and its runtime calls.
structure StartedDaemon where
  runtime : LinuxRuntime
  supervisor : NodeSupervisor
  queue : BoundedInputQueue
  stopReason : IoStopReason := .none
  deriving DecidableEq

namespace StartedDaemon

def handle (d : StartedDaemon) (event : RuntimeEvent) : StartedDaemon × TransitionResult :=
  let (runtime,transition) := d.runtime.handle event
  ({d with runtime := runtime},transition)

def boot (d : StartedDaemon) : StartedDaemon × TransitionResult :=
  if d.runtime.mode = .idle then (d,⟨true,.idle,.idle,"daemon already booted"⟩) else d.handle .boot

def activate (d : StartedDaemon) : StartedDaemon × TransitionResult := d.handle .activateRequest

def deactivate (d : StartedDaemon) : StartedDaemon × TransitionResult := d.handle .deactivateRequest

def resume (d : StartedDaemon) : StartedDaemon × TransitionResult := d.handle .resume

-- clear_fault takes three locks one after the other: a snapshot of the runtime,
-- the acknowledgement by the supervisor, and the transition.
structure ClearSnapshot where
  mode : RuntimeMode
  fault : FaultCode
  deriving DecidableEq, Repr

def clearSnapshot (d : StartedDaemon) : ClearSnapshot := ⟨d.runtime.mode,d.runtime.stateMachine.fault⟩

def acknowledge (d : StartedDaemon) (snap : ClearSnapshot) : StartedDaemon × Except TransitionResult Unit :=
  if d.stopReason = .ioError ∨ d.stopReason = .sendFailure then
    (d,.error ⟨false,snap.mode,snap.mode,"I/O failure requires daemon restart"⟩)
  else match d.supervisor.acknowledgeFaultClear d.queue snap.fault with
    | (supervisor,.ok ()) => ({d with supervisor := supervisor},.ok ())
    | (supervisor,.error error) =>
      ({d with supervisor := supervisor},.error ⟨false,snap.mode,snap.mode,error.message⟩)

def clearFault (d : StartedDaemon) : StartedDaemon × TransitionResult :=
  let snap := d.clearSnapshot
  if snap.mode ≠ .fault then d.handle .faultCleared
  else match d.acknowledge snap with
    | (d,.error refusal) => (d,refusal)
    | (d,.ok ()) => d.handle .faultCleared

def publishOutputCommand (d : StartedDaemon) (command : OutputCommand) (now : Result Int) :
    StartedDaemon × Result Unit :=
  let (runtime,result) := d.runtime.publishOutputCommand command now
  ({d with runtime := runtime},result)

-- One scheduler tick with the supervision hook. A throwing callback never
-- reaches the hook.
def tick (d : StartedDaemon) (tick : SchedulerTick) : StartedDaemon :=
  let runtime := d.runtime.tick tick
  if d.runtime.testThrowOnTick then {d with runtime := runtime}
  else
    let (supervisor,queue,calls) := d.supervisor.onTick d.queue tick.actualNs
    {d with runtime := calls.foldl LinuxRuntime.apply runtime,supervisor := supervisor,queue := queue}

end StartedDaemon

structure RuntimeDaemon where
  config : DaemonConfig
  parts : Option StartedDaemon := none
  exitCode : DaemonExitCode := .ok

-- What the system answers while the daemon starts: the interface probe, the
-- descriptors, the scheduler worker and the I/O thread.
structure StartEnvironment where
  interfaceAvailable : Bool
  signals : Result Unit
  stopEvent : Result Unit
  worker : Result Unit
  io : Result Unit

namespace RuntimeDaemon

def construct (config : DaemonConfig) : RuntimeDaemon := {config := config}

def started (daemon : RuntimeDaemon) : Bool := daemon.parts.isSome

def startupExit (fallback : DaemonExitCode) : Errc → DaemonExitCode
  | .invalidArgument => .configError
  | .rejected => .permissionError
  | _ => fallback

def fail (daemon : RuntimeDaemon) (exitCode : DaemonExitCode) (error : Error) : RuntimeDaemon × Result Unit :=
  ({daemon with exitCode := exitCode},.error error)

def startParts (daemon : RuntimeDaemon) (environment : StartEnvironment) : RuntimeDaemon × Result Unit :=
  let queue := BoundedInputQueue.construct daemon.config.eventQueueCapacity
  let supervisor := NodeSupervisor.construct daemon.config.supervisorConfig
  let (runtime,worker) := (LinuxRuntime.construct daemon.config.runtimeConfig).start environment.worker
  match worker with
  | .error error => daemon.fail (startupExit .workerFailure error.code) error
  | .ok () =>
    let (runtime,booted) := runtime.handle .boot
    if !booted.accepted then
      daemon.fail .workerFailure ⟨.rejected,"runtime Boot failed during daemon startup"⟩
    else match environment.io with
      | .error error => daemon.fail (startupExit .interfaceError error.code) error
      | .ok () => ({daemon with parts := some ⟨runtime,supervisor,queue,.none⟩,exitCode := .ok},.ok ())

def start (daemon : RuntimeDaemon) (environment : StartEnvironment) : RuntimeDaemon × Result Unit :=
  if daemon.started then (daemon,.error ⟨.busy,"RuntimeDaemon already started"⟩)
  else match daemon.config.invalid with
    | some error => daemon.fail .configError error
    | none =>
      if !environment.interfaceAvailable then
        daemon.fail .interfaceError ⟨.notOpen,"CAN interface missing or not ARPHRD_CAN: " ++ daemon.config.canIf⟩
      else match environment.signals,environment.stopEvent with
        | .error error,_ => daemon.fail .interfaceError error
        | .ok (),.error error => daemon.fail .interfaceError error
        | .ok (),.ok () => daemon.startParts environment

def classifyStop (daemon : RuntimeDaemon) : DaemonExitCode :=
  match daemon.parts with
  | none => daemon.exitCode
  | some d =>
    if d.stopReason = .ioError ∨ d.stopReason = .sendFailure then .workerFailure
    else if d.runtime.scheduler.workerError ≠ 0 then .workerFailure
    else .ok

-- Stopping resets every part; a later start builds new ones.
def stop (daemon : RuntimeDaemon) : RuntimeDaemon := {daemon with parts := none}

def waitAndStop (daemon : RuntimeDaemon) : RuntimeDaemon × DaemonExitCode :=
  if daemon.started then (stop {daemon with exitCode := daemon.classifyStop},daemon.classifyStop)
  else (daemon,daemon.exitCode)

def transition (daemon : RuntimeDaemon) (entry : StartedDaemon → StartedDaemon × TransitionResult) :
    RuntimeDaemon × TransitionResult :=
  match daemon.parts with
  | none => (daemon,⟨false,.disabled,.disabled,"daemon not started"⟩)
  | some d => ({daemon with parts := some (entry d).1},(entry d).2)

def boot (daemon : RuntimeDaemon) : RuntimeDaemon × TransitionResult := daemon.transition StartedDaemon.boot
def activate (daemon : RuntimeDaemon) : RuntimeDaemon × TransitionResult := daemon.transition StartedDaemon.activate
def deactivate (daemon : RuntimeDaemon) : RuntimeDaemon × TransitionResult :=
  daemon.transition StartedDaemon.deactivate
def resume (daemon : RuntimeDaemon) : RuntimeDaemon × TransitionResult := daemon.transition StartedDaemon.resume
def clearFault (daemon : RuntimeDaemon) : RuntimeDaemon × TransitionResult :=
  daemon.transition StartedDaemon.clearFault

def publishOutputCommand (daemon : RuntimeDaemon) (command : OutputCommand) (now : Result Int) :
    RuntimeDaemon × Result Unit :=
  match daemon.parts with
  | none => (daemon,.error ⟨.notOpen,"daemon not started"⟩)
  | some d =>
    let (d,result) := d.publishOutputCommand command now
    ({daemon with parts := some d},result)

end RuntimeDaemon

end RobotControlRuntime
