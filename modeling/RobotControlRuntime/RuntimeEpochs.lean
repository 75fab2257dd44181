import RobotControlRuntime.RuntimeInvariant

namespace RobotControlRuntime.LinuxRuntime
open StepHistory

def accepted (r : LinuxRuntime) : RuntimeCall → Option OutputCommand
  | .publishOutputCommand command now =>
    match (r.publishOutputCommand command now).2 with
    | .ok () => some command
    | .error _ => none
  | _ => none

def returned (r : LinuxRuntime) : RuntimeCall → Option OutputCommand
  | .tryConsumeOutputCommand now => (r.tryConsumeOutputCommand now).2
  | _ => none

theorem accepted_publish (r : LinuxRuntime) (command : OutputCommand) (now : Result Int)
    (taken : r.accepted (.publishOutputCommand command now) = some other) :
    other = command ∧ (r.publishOutputCommand command now).2 = .ok () := by
  simp only [accepted] at taken
  split at taken
  · rename_i passed
    cases taken
    exact ⟨rfl,passed⟩
  · cases taken

theorem accepted_parts (r : LinuxRuntime) (call : RuntimeCall) (taken : r.accepted call = some command) :
    ∃ now, call = .publishOutputCommand command now ∧ (r.publishOutputCommand command now).2 = .ok () := by
  cases call with
  | publishOutputCommand other now =>
      obtain ⟨rfl,passed⟩ := accepted_publish r other now taken
      exact ⟨now,rfl,passed⟩
  | _ => cases taken

theorem returned_parts (r : LinuxRuntime) (call : RuntimeCall) (handed : r.returned call = some command) :
    ∃ nowNs, call = .tryConsumeOutputCommand (.ok nowNs) ∧ r.scheduler.running = true ∧
      r.stateMachine.canAcceptOutput = true ∧ r.outputAckPending = false ∧ r.mailbox.slot = some command ∧
      nowNs < command.deadlineNs ∧ r.apply call = {r with mailbox := r.mailbox.tryConsume.1} := by
  cases call with
  | tryConsumeOutputCommand now =>
      have step := consume_exact r now
      simp only [returned] at handed
      rw [handed] at step
      simp only [apply]
      generalize (r.tryConsumeOutputCommand now).1 = next at step
      cases step with
      | taken running opened free waiting fresh => exact ⟨_,rfl,running,opened,free,waiting,fresh,rfl⟩
  | _ => cases handed

def step (r : LinuxRuntime) (call : RuntimeCall) : Option LinuxRuntime := some (r.apply call)

abbrev RuntimeMoment := Moment LinuxRuntime RuntimeCall

-- An epoch is a maximal stretch of moments at which the mode is Active before
-- and after. "In this epoch" therefore reads: at some moment, with Active ever since.
def StaysActive (m : RuntimeMoment) : Prop := m.before.mode = .active ∧ m.after.mode = .active

instance : DecidablePred StaysActive := fun _ => inferInstanceAs (Decidable (_ ∧ _))

def ReturnedInEpoch (command : OutputCommand) : List RuntimeMoment → Prop :=
  Since StaysActive fun m _ => m.before.returned m.action = some command

-- The publication a returned command comes from: the latest accepted one, in
-- this epoch, with nothing handed out in between. It names one publish call, so
-- it also says that a publish call is answered by at most one return.
def Untouched (m : RuntimeMoment) : Prop :=
  StaysActive m ∧ m.before.accepted m.action = none ∧ m.before.returned m.action = none

def PublishedLast (command : OutputCommand) : List RuntimeMoment → Prop :=
  Since Untouched fun m _ => m.before.accepted m.action = some command ∧ StaysActive m

structure ConsumptionLaw (m : RuntimeMoment) (past : List RuntimeMoment) : Prop where
  published : ∀ command, m.before.returned m.action = some command → PublishedLast command past ∧ StaysActive m
  increasing : ∀ command earlier, m.before.returned m.action = some command → ReturnedInEpoch earlier past →
    earlier.sessionId = command.sessionId ∧ earlier.sequence < command.sequence
  fresh : ∀ command, m.before.returned m.action = some command →
    ∃ nowNs, m.action = .tryConsumeOutputCommand (.ok nowNs) ∧ nowNs < command.deadlineNs
  acknowledged : ∀ command, m.before.returned m.action = some command → m.before.outputAckPending = false
  -- Nothing waits in the slot between two epochs.
  emptied : m.after.mode ≠ .active → m.after.mailbox.slot = none

-- The invariant that carries the law: where the waiting command came from, and
-- how the commands already returned in this epoch relate to the admission state.
structure EpochInvariant (past : List RuntimeMoment) (r : LinuxRuntime) : Prop where
  composite : CompositeInvariant r
  source : ∀ command, r.mailbox.slot = some command → PublishedLast command past
  earlier : ∀ command, ReturnedInEpoch command past → r.activeSessionId = some command.sessionId ∧
    command.sequence ≤ r.lastOutputSequence ∧
    ∀ waiting, r.mailbox.slot = some waiting → command.sequence < waiting.sequence

theorem initial_epoch (config : RuntimeConfig) : EpochInvariant [] (construct config) := by
  refine ⟨construct_composite config,?_,?_⟩
  · intro command waiting
    cases waiting
  · intro command returned
    exact returned.elim

theorem accepted_slot (r : LinuxRuntime) (call : RuntimeCall) (taken : r.accepted call = some command) :
    (r.apply call).mailbox.slot = some command ∧ r.mode = .active ∧ (r.apply call).mode = .active := by
  obtain ⟨now,rfl,passed⟩ := accepted_parts r call taken
  obtain ⟨_,_,_,opened,_,_,_,_,_,_,commit⟩ := publish_parts r command now passed
  have active : r.mode = .active := ((canAccept_mode _).mp opened).1
  simp only [apply,commit]
  exact ⟨rfl,active,active⟩

theorem returned_slot (r : LinuxRuntime) (call : RuntimeCall) (handed : r.returned call = some command) :
    (r.apply call).mailbox.slot = none ∧ r.mode = .active ∧ (r.apply call).mode = .active := by
  obtain ⟨_,_,_,opened,_,_,_,commit⟩ := returned_parts r call handed
  have active : r.mode = .active := ((canAccept_mode _).mp opened).1
  rw [commit]
  exact ⟨by simp,active,active⟩

theorem open_slot (step : OpenStep r call next) (admits : r.accepted call = none) :
    next.mailbox.slot = r.mailbox.slot ∨ next.mailbox.slot = none := by
  cases step with
  | kept _ _ _ _ _ => exact .inl rfl
  | admitted passed _ _ _ _ _ => simp [accepted,passed] at admits
  | consumed consumes =>
      cases consumes with
      | clock | unacknowledged _ | empty _ => exact .inl rfl
      | shut _ | expired _ _ _ _ _ | taken _ _ _ _ _ => exact .inr (by simp)
  | noted _ _ => exact .inl rfl
  | observed => exact .inl (by rw [(observe_frame _ _ _ _ _).2.1])

theorem apply_waiting (composite : CompositeInvariant r) (call : RuntimeCall)
    (waiting : (r.apply call).mailbox.slot = some command) :
    r.mode = .active ∧ (r.apply call).mode = .active ∧
      (r.accepted call = some command ∨
        (r.accepted call = none ∧ r.returned call = none ∧ r.mailbox.slot = some command)) := by
  obtain ⟨active,stays⟩ := stays_active composite call ((apply_composite composite call).waiting command waiting).1
  refine ⟨active,stays,?_⟩
  cases taken : r.accepted call with
  | some other =>
      rw [(accepted_slot r call taken).1] at waiting
      exact .inl waiting
  | none =>
      cases handed : r.returned call with
      | some other =>
          rw [(returned_slot r call handed).1] at waiting
          cases waiting
      | none =>
          rcases open_slot (apply_open composite call active stays) taken with same | none
          · exact .inr ⟨rfl,rfl,same ▸ waiting⟩
          · rw [none] at waiting
            cases waiting

theorem source_preserved (epoch : EpochInvariant past r) (call : RuntimeCall)
    (waiting : (r.apply call).mailbox.slot = some command) :
    PublishedLast command (⟨r,call,r.apply call⟩ :: past) := by
  obtain ⟨active,stays,taken | ⟨admits,hands,kept⟩⟩ := apply_waiting epoch.composite call waiting
  · exact .inl ⟨taken,active,stays⟩
  · exact .inr ⟨⟨⟨active,stays⟩,admits,hands⟩,epoch.source command kept⟩

theorem open_admission (epoch : EpochInvariant past r) (step : OpenStep r call next)
    (returned : ReturnedInEpoch command past) :
    next.activeSessionId = some command.sessionId ∧ command.sequence ≤ next.lastOutputSequence ∧
      ∀ waiting, next.mailbox.slot = some waiting → command.sequence < waiting.sequence := by
  obtain ⟨session,bound,newer⟩ := epoch.earlier command returned
  cases step with
  | kept _ _ _ _ _ | noted _ _ => exact ⟨session,bound,newer⟩
  | @admitted published _ _ _ _ _ same grows =>
      have later : command.sequence < published.sequence := UInt64.lt_of_le_of_lt bound grows
      refine ⟨?_,UInt64.le_of_lt later,?_⟩
      · rcases same with none | same
        · rw [none] at session; cases session
        · exact same.symm.trans session
      · intro waiting filled
        have equal : published = waiting := by simpa using filled
        exact equal ▸ later
  | consumed consumes =>
      cases consumes with
      | clock | unacknowledged _ | empty _ => exact ⟨session,bound,newer⟩
      | shut _ | expired _ _ _ _ _ | taken _ _ _ _ _ => exact ⟨session,bound,by simp⟩
  | observed =>
      obtain ⟨_,mailbox,_,same,last,_,_⟩ := observe_frame r _ _ _ _
      rw [mailbox,same,last]
      exact ⟨session,bound,newer⟩

theorem earlier_preserved (epoch : EpochInvariant past r) (call : RuntimeCall)
    (returned : ReturnedInEpoch command (⟨r,call,r.apply call⟩ :: past)) :
    (r.apply call).activeSessionId = some command.sessionId ∧
      command.sequence ≤ (r.apply call).lastOutputSequence ∧
      ∀ waiting, (r.apply call).mailbox.slot = some waiting → command.sequence < waiting.sequence := by
  rcases returned with handed | ⟨⟨active,stays⟩,before⟩
  · obtain ⟨_,_,_,_,_,waiting,_,commit⟩ := returned_parts r call handed
    obtain ⟨session,newest,_⟩ := epoch.composite.waiting command waiting
    rw [commit]
    exact ⟨session,UInt64.le_of_eq newest,by simp⟩
  · exact open_admission epoch (apply_open epoch.composite call active stays) before

theorem step_epoch (epoch : EpochInvariant past r) (taken : step r call = some next) :
    EpochInvariant (⟨r,call,next⟩ :: past) next := by
  cases taken
  exact ⟨apply_composite epoch.composite call,fun _ => source_preserved epoch call,
    fun _ => earlier_preserved epoch call⟩

theorem step_joined (joined : Joined r) (taken : step r call = some next) : Joined next := by
  cases taken
  exact apply_joined joined call

theorem step_consumption (epoch : EpochInvariant past r) (taken : step r call = some next) :
    ConsumptionLaw ⟨r,call,next⟩ past := by
  cases taken
  refine ⟨?_,?_,?_,?_,?_⟩
  · intro command handed
    obtain ⟨_,_,_,_,_,waiting,_,_⟩ := returned_parts r call handed
    exact ⟨epoch.source command waiting,(returned_slot r call handed).2⟩
  · intro command earlier handed before
    obtain ⟨_,_,_,_,_,waiting,_,_⟩ := returned_parts r call handed
    obtain ⟨session,_,newer⟩ := epoch.earlier earlier before
    have same := (epoch.composite.waiting command waiting).1
    exact ⟨Option.some.inj (session.symm.trans same),newer command waiting⟩
  · intro command handed
    obtain ⟨nowNs,action,_,_,_,_,fresh,_⟩ := returned_parts r call handed
    exact ⟨nowNs,action,fresh⟩
  · intro command handed
    obtain ⟨_,_,_,_,free,_,_,_⟩ := returned_parts r call handed
    exact free
  · intro shut
    exact ((apply_composite epoch.composite call).closed shut).1

theorem consumption_law (config : RuntimeConfig) (path : Reached step (construct config) history r) :
    Throughout ConsumptionLaw history :=
  throughout_invariant EpochInvariant (initial_epoch config) (fun _ _ _ _ => step_epoch) (fun _ _ _ _ => step_consumption) path

def twoEpochs : List RuntimeCall :=
  [.start (.ok ()),.handle .boot,.setInterlockReady true,.handle .activateRequest,
   .publishOutputCommand ⟨7,1,900,1,1⟩ (.ok 100),.publishOutputCommand ⟨7,2,900,1,0⟩ (.ok 110),
   .tryConsumeOutputCommand (.ok 120),.handle .deactivateRequest,.handle .activateRequest,
   .publishOutputCommand ⟨7,1,900,1,1⟩ (.ok 130),.tryConsumeOutputCommand (.ok 140)]

theorem consumption_law_twoEpochs :
    ∃ history r, replay step [] (construct {}) twoEpochs = some (history,r) ∧
      history.filterMap (fun m => m.before.returned m.action) = [⟨7,1,900,1,1⟩,⟨7,2,900,1,0⟩] ∧
      Throughout ConsumptionLaw history :=
  ⟨_,_,rfl,rfl,consumption_law {} (replay_reached twoEpochs .start rfl)⟩

end RobotControlRuntime.LinuxRuntime
