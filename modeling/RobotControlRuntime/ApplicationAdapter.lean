import RobotControlRuntime.ApplicationModel
import RobotControlRuntime.DaemonRuns

namespace RobotControlRuntime
open StepHistory

def mapError : Errc → CommandStatus
  | .invalidArgument => .invalidArgument
  | .notOpen => .notOpen
  | .ioError | .wouldBlock => .ioError
  | .timeout => .timeout
  | .busy => .busy
  | .rejected => .rejected
  | .unsupported => .unsupported

def mapRuntimeMode : RuntimeMode → RuntimeModeCode
  | .disabled => .disabled
  | .idle => .idle
  | .active => .active
  | .hold => .hold
  | .fault => .fault
  | .eStop => .eStop

theorem mapError_refused (code : Errc) : mapError code ≠ .accepted := by
  cases code <;> decide

namespace DigitalOutputRequest

def maxWireValue : UInt64 := 65535
def maxDigitalBits : UInt32 := 255
def minValidityMs : UInt32 := 10
def maxValidityMs : UInt32 := 2500
def maxInt64 : Int := 9223372036854775807

def validityNs (request : DigitalOutputRequest) : Int := request.validForMs.toNat * 1000000

-- The checks of the adapter up to the publication. `now` is its own reading of
-- the clock, from which the deadline is made.
def toCommand (request : DigitalOutputRequest) (now : Result Int) : Except (CommandStatus × List UInt8) OutputCommand :=
  if request.sessionId = 0 ∨ maxWireValue < request.sessionId then
    .error (.invalidArgument,text "session_id must be 1..65535")
  else if request.sequence = 0 ∨ maxWireValue < request.sequence then
    .error (.invalidArgument,text "sequence must be 1..65535")
  else if request.validForMs < minValidityMs ∨ maxValidityMs < request.validForMs then
    .error (.invalidArgument,text "valid_for_ms must be 10..2500")
  else if request.mask = 0 ∨ maxDigitalBits < request.mask ∨ maxDigitalBits < request.values then
    .error (.invalidArgument,text "mask must be nonzero u8 and values must fit u8")
  else match now with
    | .error error => .error (.ioError,text error.message)
    | .ok nowNs =>
      if maxInt64 - request.validityNs < nowNs then
        .error (.invalidArgument,text "deadline overflows CLOCK_MONOTONIC nanoseconds")
      else .ok ⟨request.sessionId,request.sequence,nowNs + request.validityNs,request.mask,request.values⟩

-- What a request that reaches the publication carries, and what one that does
-- not is answered with.
theorem command_exact (request : DigitalOutputRequest) (now : Result Int) :
    match request.toCommand now with
    | .error refusal => refusal.1 ≠ .accepted
    | .ok command => command.sessionId = request.sessionId ∧ command.sequence = request.sequence ∧
        request.sessionId ≤ maxWireValue ∧ request.sequence ≤ maxWireValue := by
  unfold toCommand
  by_cases session : request.sessionId = 0 ∨ maxWireValue < request.sessionId
  · rw [if_pos session]; simp
  by_cases sequence : request.sequence = 0 ∨ maxWireValue < request.sequence
  · rw [if_neg session,if_pos sequence]; simp
  by_cases validity : request.validForMs < minValidityMs ∨ maxValidityMs < request.validForMs
  · rw [if_neg session,if_neg sequence,if_pos validity]; simp
  by_cases bits : request.mask = 0 ∨ maxDigitalBits < request.mask ∨ maxDigitalBits < request.values
  · rw [if_neg session,if_neg sequence,if_neg validity,if_pos bits]; simp
  rw [if_neg session,if_neg sequence,if_neg validity,if_neg bits]
  simp only [not_or,UInt64.not_lt] at session sequence
  cases now with
  | error error => simp
  | ok nowNs =>
      dsimp only
      by_cases overflows : maxInt64 - request.validityNs < nowNs
      · rw [if_pos overflows]; simp
      · rw [if_neg overflows]
        exact ⟨rfl,rfl,session.2,sequence.2⟩

end DigitalOutputRequest

namespace RuntimeDaemon

-- snapshot().runtime.mode and .running: the defaults until a runtime exists.
def mode (daemon : RuntimeDaemon) : RuntimeMode :=
  match daemon.parts with
  | none => .disabled
  | some d => d.runtime.mode

def running (daemon : RuntimeDaemon) : Bool :=
  match daemon.parts with
  | none => false
  | some d => d.runtime.scheduler.running

-- `published` is the reading the runtime takes when it admits the command; the
-- adapter's own reading is older.
def submitDigitalOutput (daemon : RuntimeDaemon) (request : DigitalOutputRequest) (now published : Result Int) :
    RuntimeDaemon × CommandReply :=
  let current := mapRuntimeMode daemon.mode
  match request.toCommand now with
  | .error (status,message) => (daemon,⟨status,current,current,message⟩)
  | .ok command =>
    match daemon.publishOutputCommand command published with
    | (next,.error error) => (next,⟨mapError error.code,current,current,text error.message⟩)
    | (next,.ok ()) => (next,⟨.accepted,current,current,text "digital output command accepted by Runtime"⟩)

end RuntimeDaemon

inductive AdapterAction where
  | start (environment : StartEnvironment)
  | stop
  | daemon (action : DaemonAction)
  | submitDigitalOutput (request : DigitalOutputRequest) (now published : Result Int)

namespace RuntimeDaemon

def step (daemon : RuntimeDaemon) : AdapterAction → Option RuntimeDaemon
  | .start environment => some (daemon.start environment).1
  | .stop => some daemon.stop
  | .daemon action =>
    match daemon.parts with
    | none => none
    | some d => (d.step action).map fun next => {daemon with parts := some next}
  | .submitDigitalOutput request now published => some (daemon.submitDigitalOutput request now published).1

def publication : AdapterAction → Option (OutputCommand × Result Int)
  | .daemon (.publishOutputCommand command now) => some (command,now)
  | .submitDigitalOutput request now published => (request.toCommand now).toOption.map fun command => (command,published)
  | _ => none

def admitted (daemon : RuntimeDaemon) (action : AdapterAction) : Option OutputCommand :=
  match publication action with
  | none => none
  | some (command,now) =>
    match (daemon.publishOutputCommand command now).2 with
    | .ok () => some command
    | .error _ => none

theorem admitted_asked (daemon : RuntimeDaemon) (asked : publication action = some (command,now)) :
    daemon.admitted action = match (daemon.publishOutputCommand command now).2 with
      | .ok () => some command
      | .error _ => none := by
  rw [admitted,asked]

abbrev AdapterMoment := Moment RuntimeDaemon AdapterAction

def StaysActive (m : AdapterMoment) : Prop := m.before.mode = .active ∧ m.after.mode = .active

instance : DecidablePred StaysActive := fun _ => inferInstanceAs (Decidable (_ ∧ _))

def AdmittedInEpoch (command : OutputCommand) : List AdapterMoment → Prop :=
  Since StaysActive fun m _ => m.before.admitted m.action = some command

instance : Decidable (AdmittedInEpoch command past) := inferInstanceAs (Decidable (Since _ _ _))

variable {daemon next : RuntimeDaemon} {request : DigitalOutputRequest} {now published : Result Int}

theorem submit_accepted_iff : (daemon.submitDigitalOutput request now published).2.status = .accepted ↔
    ∃ command, request.toCommand now = .ok command ∧ (daemon.publishOutputCommand command published).2 = .ok () := by
  have exactly := request.command_exact now
  unfold submitDigitalOutput
  dsimp only
  cases built : request.toCommand now with
  | error refusal =>
      rw [built] at exactly
      simpa using exactly
  | ok command =>
      generalize answered : daemon.publishOutputCommand command published = answer
      obtain ⟨next,result⟩ := answer
      cases result with
      | error error => simpa [answered] using mapError_refused error.code
      | ok _ => simp [answered]

theorem start_parts (environment : StartEnvironment) : (daemon.start environment).1.parts = daemon.parts ∨
    ∃ runtime supervisor queue, (daemon.start environment).1.parts = some ⟨runtime,supervisor,queue,.none⟩ ∧
      LinuxRuntime.CompositeInvariant runtime ∧ runtime.mode ≠ .active := by
  have started := LinuxRuntime.apply_composite (LinuxRuntime.construct_composite daemon.config.runtimeConfig)
    (.start environment.worker)
  have fresh : (LinuxRuntime.construct daemon.config.runtimeConfig).mode ≠ .active := by
    simp [LinuxRuntime.construct,LinuxRuntime.mode]
  have shut : ((LinuxRuntime.construct daemon.config.runtimeConfig).apply (.start environment.worker)).mode ≠ .active := by
    intro active
    obtain ⟨wrong,_⟩ := LinuxRuntime.apply_entering _ _ fresh active
    cases wrong
  have booted := LinuxRuntime.apply_composite started (.handle .boot)
  have idle : (((LinuxRuntime.construct daemon.config.runtimeConfig).apply (.start environment.worker)).apply
      (.handle .boot)).mode ≠ .active := by
    intro active
    obtain ⟨wrong,_⟩ := LinuxRuntime.apply_entering _ _ shut active
    cases wrong
  unfold start
  split
  · exact .inl rfl
  split
  · exact .inl rfl
  split
  · exact .inl rfl
  split
  · exact .inl rfl
  · exact .inl rfl
  unfold startParts
  dsimp only
  split
  · exact .inl rfl
  split
  · exact .inl rfl
  split
  · exact .inl rfl
  · exact .inr ⟨_,_,_,rfl,booted,idle⟩

theorem submit_exact (daemon : RuntimeDaemon) (request : DigitalOutputRequest) (now published : Result Int) :
    ((daemon.submitDigitalOutput request now published).1 = daemon ∧
        publication (.submitDigitalOutput request now published) = none) ∨
      ∃ command, publication (.submitDigitalOutput request now published) = some (command,published) ∧
        (daemon.submitDigitalOutput request now published).1 = (daemon.publishOutputCommand command published).1 := by
  simp only [submitDigitalOutput,publication]
  cases request.toCommand now with
  | error refusal => exact .inl ⟨rfl,rfl⟩
  | ok command =>
      refine .inr ⟨command,rfl,?_⟩
      dsimp only
      generalize daemon.publishOutputCommand command published = answer
      obtain ⟨next,result⟩ := answer
      cases result <;> rfl

theorem daemon_exact (taken : daemon.step (.daemon action) = some next) :
    ∃ d later, daemon.parts = some d ∧ d.step action = some later ∧ next = {daemon with parts := some later} := by
  obtain ⟨config,parts,exitCode⟩ := daemon
  cases parts with
  | none => cases taken
  | some d =>
      obtain ⟨later,moved,rfl⟩ := Option.map_eq_some_iff.mp taken
      exact ⟨d,later,rfl,moved,rfl⟩

end RuntimeDaemon

end RobotControlRuntime
