import RobotControlRuntime.CanIoLoop

namespace RobotControlRuntime.IoSystem
open StepHistory LinuxRuntime

def InFlight (s : IoSystem) : Prop :=
  s.runtime.mailbox.slot.isSome = true ∨ s.io.pendingOutput.isSome = true ∨ s.runtime.outputAckPending = true

def TimesOut (m : IoMoment) : Prop :=
  (∃ tick, m.action = .call (.onTick tick)) ∧ m.before.runtime.mode = .active ∧
    m.after.runtime.mode = .hold ∧ m.after.runtime.stateMachine.fault = .watchdog

def IdleNeverTimesOut (m : IoMoment) (_ : List IoMoment) : Prop := TimesOut m → InFlight m.before

def Exposed (s : IoSystem) : Prop :=
  s.runtime.mailbox.slot = none ∧ s.runtime.commandWatchdog.armed = true

-- The I/O loop gives up no command of that kind: its clock reads succeed before
-- the deadline, the command fits the wire, the bus does not fail, and the thread
-- does not end.
structure KeepsExposed (m : IoMoment) : Prop where
  sendable : ∀ now command, m.action = .sendable now → Exposed m.before → m.before.io.pendingOutput = some command →
    ∃ nowNs, now = .ok nowNs ∧ nowNs < command.deadlineNs
  encode : ∀ now command, m.action = .encode now → Exposed m.before → m.before.io.pendingOutput = some command →
    ∃ nowNs, now = .ok nowNs ∧ FitsWire command m.before.io.nodeId nowNs
  send : m.action = .send .failed → ¬ Exposed m.before
  exit : ∀ waitFailed command, m.action = .exit waitFailed → m.before.io.pendingOutput = some command → ¬ Exposed m.before
  -- CLOCK_MONOTONIC never reads zero.
  clock : ∀ nowNs, m.action = .encode (.ok nowNs) → 0 < nowNs

-- An armed watchdog with an empty mailbox and no wait for an acknowledgement
-- supervises the command the pump holds.
def Supervised (s : IoSystem) : Prop :=
  s.runtime.mode = .active → s.runtime.scheduler.running = true → Exposed s → s.runtime.outputAckPending = false →
    ∃ command, s.io.pendingOutput = some command ∧ s.runtime.activeSessionId = some command.sessionId

structure SupervisedInvariant (past : List IoMoment) (s : IoSystem) : Prop extends IoInvariant past s where
  supervised : Supervised s
  clock : ∀ wire frame nowNs, s.stage = .encoded wire frame nowNs → 0 < nowNs
  noted : ∀ wire nowNs command, s.stage = .sent wire nowNs → s.io.pendingOutput = some command →
    0 < nowNs ∧ toWireCommand command s.io.nodeId nowNs = .ok wire

theorem foreign_exposed (composite : CompositeInvariant r) (call : RuntimeCall) (other : foreign r call = true)
    (active : (r.apply call).mode = .active) (empty : (r.apply call).mailbox.slot = none)
    (armed : (r.apply call).commandWatchdog.armed = true) (free : (r.apply call).outputAckPending = false) :
    r.mode = .active ∧ r.mailbox.slot = none ∧ r.commandWatchdog.armed = true ∧ r.outputAckPending = false ∧
      (r.apply call).activeSessionId = r.activeSessionId := by
  have before : r.mode = .active := by
    by_contra shut
    obtain ⟨_,_,_,_,cleared⟩ := apply_entering r call shut active
    rw [cleared] at armed
    cases armed
  refine ⟨before,?_⟩
  have step := apply_open composite call before active
  generalize r.apply call = next at step empty armed free ⊢
  cases step with
  | kept _ _ _ _ same => exact ⟨empty,same ▸ armed,free,rfl⟩
  | admitted _ _ _ _ _ _ => cases empty
  | consumed _ | noted _ _ => cases other
  | observed =>
      obtain ⟨_,mailbox,_,session,_,_,_⟩ := observe_frame r _ _ _ _
      rw [mailbox] at empty
      rw [observe_armed,empty] at armed
      rw [observe_pending] at free
      simp only [Option.isNone_none,Bool.and_true,Bool.and_eq_true,Bool.not_eq_true'] at armed
      rw [armed.2] at free
      exact ⟨empty,armed.1,by simpa using free,session⟩

theorem consume_exposed (composite : CompositeInvariant s.runtime) (now : Result Int)
    (active : (s.tryConsume now).runtime.mode = .active)
    (running : (s.tryConsume now).runtime.scheduler.running = true)
    (exposed : Exposed (s.tryConsume now)) :
    (Exposed s ∧ (s.tryConsume now).io.pendingOutput = s.io.pendingOutput ∧ (s.tryConsume now).runtime = s.runtime) ∨
      ∃ command, (s.tryConsume now).io.pendingOutput = some command ∧
        (s.tryConsume now).runtime.activeSessionId = some command.sessionId := by
  have step := consume_exact s.runtime now
  simp only [tryConsume,Exposed] at active running exposed ⊢
  generalize (s.runtime.tryConsumeOutputCommand now).1 = next at step active running exposed ⊢
  generalize (s.runtime.tryConsumeOutputCommand now).2 = returned at step ⊢
  cases step with
  | clock | unacknowledged _ | empty _ => exact .inl ⟨exposed,rfl,rfl⟩
  | shut shut =>
      have opened := active_opened composite active
      rcases shut with wrong | wrong
      · cases wrong.symm.trans running
      · cases wrong.symm.trans opened
  | expired _ _ _ _ _ => cases exposed.2
  | taken _ _ _ waiting _ => exact .inr ⟨_,rfl,(composite.waiting _ waiting).1⟩

theorem note_exposed (invariant : SupervisedInvariant past s) (stage : s.stage = .sent wire nowNs)
    (active : s.runtime.mode = .active) (running : s.runtime.scheduler.running = true) (exposed : Exposed s)
    (free : s.runtime.outputAckPending = false) :
    (s.runtime.noteOutputCommandSent wire.sessionId wire.sequence nowNs).1.outputAckPending = true := by
  obtain ⟨command,held,bound⟩ := invariant.supervised active running exposed free
  obtain ⟨positive,wired⟩ := invariant.noted wire nowNs command stage held
  obtain ⟨_,same,nonzero,numbered⟩ := wire_parts wired
  have opened := active_opened invariant.epoch.composite active
  have session : s.runtime.activeSessionId.map UInt64.toUInt16 = some wire.sessionId := by simp [bound,same]
  simp [noteOutputCommandSent,nonzero,numbered,Int.not_le.mpr positive,running,opened,session,free]

theorem dropped_exposed (dropped : Dropped s next) (exposed : Exposed next) : Exposed s := by
  rw [Exposed,dropped.runtime] at exposed
  exact exposed

theorem supervised_between (base : IoInvariant past s) (supervised : Supervised s)
    (unencoded : ∀ wire frame nowNs, s.stage ≠ .encoded wire frame nowNs) (unsent : ∀ wire nowNs, s.stage ≠ .sent wire nowNs) :
    SupervisedInvariant past s :=
  ⟨base,supervised,fun wire frame nowNs stage => absurd stage (unencoded wire frame nowNs),
    fun wire nowNs _ stage => absurd stage (unsent wire nowNs)⟩

theorem supervised_preserved (invariant : SupervisedInvariant past s) (taken : step s action = some next)
    (met : KeepsExposed ⟨s,action,next⟩) : SupervisedInvariant (⟨s,action,next⟩ :: past) next := by
  have base := io_preserved invariant.toIoInvariant taken
  have composite := invariant.epoch.composite
  cases step_exact taken with
  | @call call other =>
      refine ⟨base,?_,invariant.clock,invariant.noted⟩
      intro active running exposed free
      obtain ⟨before,slot,armed,ack,session⟩ := foreign_exposed composite call other active exposed.1 exposed.2 free
      have runs := running_kept invariant.joined before call running
      rw [session]
      exact invariant.supervised before runs ⟨slot,armed⟩ ack
  | popEvent _ | pump | stopped _ _ _ => exact ⟨base,invariant.supervised,invariant.clock,invariant.noted⟩
  | @tryConsume now _ =>
      have early : (s.tryConsume now).stage = .consumed ∨ (s.tryConsume now).stage = .idle := by
        rw [consume_stage]
        split
        · exact .inl rfl
        · exact .inr rfl
      refine supervised_between base ?_ ?_ ?_
      · intro active running exposed free
        rcases consume_exposed composite now active running exposed with ⟨before,pending,same⟩ | held
        · rw [same] at active running free ⊢
          rw [pending]
          exact invariant.supervised active running before free
        · exact held
      · rcases early with stage | stage <;> simp [stage]
      · rcases early with stage | stage <;> simp [stage]
  | approved _ _ _ | wouldBlock _ => exact supervised_between base invariant.supervised (by simp) (by simp)
  | @encoded command nowNs wire frame _ _ _ _ =>
      refine ⟨base,invariant.supervised,?_,fun _ _ _ stage => (by cases stage)⟩
      intro _ _ _ stage
      cases stage
      exact met.clock nowNs rfl
  | @sent wire frame nowNs stage =>
      refine ⟨base,invariant.supervised,fun _ _ _ stage => (by cases stage),?_⟩
      intro _ _ command now held
      cases now
      exact ⟨invariant.clock wire frame nowNs stage,(invariant.wired wire frame nowNs command stage held).1⟩
  | @refused command now _ _ held failed dropped =>
      refine supervised_between base ?_ (by simp [dropped.stage]) (by simp [dropped.stage])
      intro active running exposed free
      rw [dropped.runtime] at active running free
      have exposed := dropped_exposed dropped exposed
      obtain ⟨_,same,bound⟩ := invariant.supervised active running exposed free
      cases held.symm.trans same
      obtain ⟨nowNs,rfl,fresh⟩ := met.sendable now command rfl exposed held
      have passed := (sendable_exact s.runtime command (.ok nowNs)).mpr
        ⟨nowNs,rfl,running,active_opened composite active,free,bound,fresh⟩
      cases failed.symm.trans passed
  | @unencodable command now _ _ held never dropped =>
      refine supervised_between base ?_ (by simp [dropped.stage]) (by simp [dropped.stage])
      intro _ _ exposed _
      have exposed := dropped_exposed dropped exposed
      obtain ⟨nowNs,read,fits⟩ := met.encode now command rfl exposed held
      obtain ⟨wire,frame,wired,framed⟩ := fits_encoded fits
      exact absurd framed (never nowNs wire frame read wired)
  | failed _ dropped =>
      refine supervised_between base ?_ (by simp [dropped.stage]) (by simp [dropped.stage])
      intro _ _ exposed _
      have exposed := dropped_exposed dropped exposed
      exact absurd exposed (met.send rfl)
  | exited dropped =>
      refine supervised_between base ?_ (by simp [dropped.stage]) (by simp [dropped.stage])
      intro active running exposed free
      rw [dropped.runtime] at active running free
      have exposed := dropped_exposed dropped exposed
      obtain ⟨command,held,_⟩ := invariant.supervised active running exposed free
      exact absurd exposed (met.exit _ command rfl held)
  | @note wire nowNs _ stage runtime _ done =>
      refine supervised_between base ?_ (by simp [done]) (by simp [done])
      intro active running exposed free
      rw [runtime] at active running free
      rw [Exposed,runtime] at exposed
      simp only [apply] at active running exposed free
      by_cases noted : (s.runtime.noteOutputCommandSent wire.sessionId wire.sequence nowNs).2 = .ok ()
      · obtain ⟨_,_,_,_,_,_,_,commit⟩ := note_parts _ _ _ _ noted
        rw [commit] at free
        cases free
      · have same := note_refused _ _ _ _ noted
        rw [same] at active running exposed
        have registered := note_exposed invariant stage active running exposed (same ▸ free)
        cases registered.symm.trans free

-- Of the two timeouts of a tick only the command watchdog leaves this fault, and
-- it has to be armed.
theorem timeout_armed (r : LinuxRuntime) (tick : SchedulerTick) (active : r.mode = .active)
    (held : (r.tick tick).mode = .hold) (fault : (r.tick tick).stateMachine.fault = .watchdog) :
    r.commandWatchdog.armed = true := by
  have step := tick_exact r tick
  generalize r.tick tick = next at step held fault
  cases step with
  | threw _ | quiet _ _ => cases active.symm.trans held
  | acknowledgement _ _ =>
      rcases r with ⟨_,⟨mode,ready,code⟩⟩
      cases active
      cases fault
  | command _ armed _ => exact armed

theorem supervised_times (invariant : SupervisedInvariant past s) (taken : step s action = some next) :
    IdleNeverTimesOut ⟨s,action,next⟩ past := by
  rintro ⟨⟨tick,rfl⟩,active,held,fault⟩
  cases step_exact taken with
  | call allowed =>
      have armed := timeout_armed s.runtime tick active held fault
      cases slot : s.runtime.mailbox.slot with
      | some command => exact .inl (by simp [slot])
      | none =>
          cases ack : s.runtime.outputAckPending with
          | true => exact .inr (.inr ack)
          | false =>
              obtain ⟨command,pending,_⟩ := invariant.supervised active allowed ⟨slot,armed⟩ ack
              exact .inr (.inl (by simp [pending]))

def shortValidity : List IoAction :=
  activated ++ [.call (.publishOutputCommand ⟨7,1,5000000,1,1⟩ (.ok 100)),.pump,.tryConsume (.ok 110),.sendable (.ok 120),
    .encode (.ok 120),.call (.onTick {actualNs := 100000200})]

theorem idle_timed_out :
    ∃ history s, Reached step fresh4 history s ∧ ¬ Throughout IdleNeverTimesOut history := by
  refine ⟨_,_,replay_reached shortValidity .start rfl,?_⟩
  intro idle
  have flying := idle.1 ⟨⟨_,rfl⟩,rfl,rfl,rfl⟩
  simp only [InFlight] at flying
  revert flying
  decide

theorem idle_never_times_out (config : RuntimeConfig) (queue : BoundedInputQueue) (nodeId : UInt8)
    (path : Reached step (launched (construct config) queue nodeId) history s)
    (met : Throughout (fun m _ => KeepsExposed m) history) : Throughout IdleNeverTimesOut history := by
  refine throughout_under SupervisedInvariant ⟨launched_invariant config queue nodeId,?_,?_,?_⟩
    (fun _ _ _ _ invariant taken met => supervised_preserved invariant taken met)
    (fun _ _ _ _ invariant taken _ => supervised_times invariant taken) path met
  · intro active; cases active
  · intro _ _ _ stage; cases stage
  · intro _ _ _ stage; cases stage

def unanswered : List IoAction :=
  activated ++ [.call (.publishOutputCommand ⟨7,1,900000000,1,1⟩ (.ok 100)),.pump,.tryConsume (.ok 110)] ++
    pumped 120 .sent ++ [.note,.call (.onTick {actualNs := 100000110})]

theorem idle_never_times_out_unanswered :
    ∃ history s, Reached step fresh4 history s ∧ s.runtime.stateMachine.fault = .watchdog ∧
      Throughout IdleNeverTimesOut history := by
  have path : Reached step fresh4 _ _ := replay_reached unanswered .start rfl
  refine ⟨_,_,path,rfl,idle_never_times_out {} _ 1 path ⟨?_,?_,?_,?_,?_,?_,?_,?_,?_,?_,?_,?_,trivial⟩⟩
  all_goals refine ⟨?_,?_,?_,?_,?_⟩
  all_goals first
    | intro _ _ same; cases same; done
    | intro same; cases same; done
    | intro _ same; cases same <;> decide
    | intro _ _ same _ held; cases same; cases held; exact ⟨_,rfl,by decide⟩
    | intro _ _ same _ held; cases same; cases held; exact ⟨_,rfl,by decide,by decide,by decide,by decide,by decide⟩

end RobotControlRuntime.IoSystem
