import Mathlib.Tactic.ByContra
import RobotControlRuntime.LinuxRuntime
import RobotControlRuntime.Library.StepHistory

namespace RobotControlRuntime.LinuxRuntime
open RuntimeStateMachine

-- The five coupled resources of the output path. Nothing is kept outside
-- Active; inside Active the session, the sequence, the slot, the ACK and the
-- watchdog describe one admitted stream.
structure OutputPath (r : LinuxRuntime) : Prop where
  closed : r.mode ≠ .active → r.mailbox.slot = none ∧ r.activeSessionId = none ∧ r.lastOutputSequence = 0 ∧
    r.outputAckPending = false ∧ r.commandWatchdog.armed = false
  bound : r.activeSessionId.isSome = true ↔ r.lastOutputSequence ≠ 0
  waiting : ∀ command, r.mailbox.slot = some command → r.activeSessionId = some command.sessionId ∧
    command.sequence = r.lastOutputSequence ∧ r.commandWatchdog.armed = true
  pending : r.outputAckPending = true → r.activeSessionId.map UInt64.toUInt16 = some r.lastSentSession

structure CompositeInvariant (r : LinuxRuntime) : Prop extends OutputPath r,Coherent r.stateMachine

theorem active_opened (composite : CompositeInvariant r) (active : r.mode = .active) :
    r.stateMachine.canAcceptOutput = true :=
  (canAccept_mode _).mpr ⟨active,(composite.opened active).1⟩

theorem construct_composite (config : RuntimeConfig) : CompositeInvariant (construct config) := by
  refine ⟨⟨?_,?_,?_,?_⟩,initial_coherent⟩ <;> simp [construct]

theorem clear_path (r : LinuxRuntime) : OutputPath r.clearOutputPath := by
  constructor <;> simp [clearOutputPath,MonotonicWatchdog.disarm]

theorem machine_path (path : OutputPath r) (machine : RuntimeStateMachine)
    (stays : machine.mode ≠ .active → r.mode ≠ .active) : OutputPath {r with stateMachine := machine} :=
  ⟨fun closed => path.closed (stays closed),path.bound,path.waiting,path.pending⟩

theorem handle_composite (composite : CompositeInvariant r) (event : RuntimeEvent) :
    CompositeInvariant (r.handle event).1 := by
  have step := handle_exact r event
  generalize (r.handle event).1 = next at step
  cases step with
  | refused => exact composite
  | inside own same =>
      exact ⟨machine_path composite.toOutputPath _ fun shut active => shut (same.mpr active),
        handle_coherent r.stateMachine event composite.toCoherent own⟩
  | across own _ _ => exact ⟨clear_path _,handle_coherent r.stateMachine event composite.toCoherent own⟩

theorem raise_composite (composite : CompositeInvariant r) (code : FaultCode) :
    CompositeInvariant (r.raiseFault code).1 := by
  unfold raiseFault
  split
  · exact composite
  · rename_i real
    exact ⟨clear_path _,raise_coherent r.stateMachine code real⟩

theorem interlock_composite (composite : CompositeInvariant r) (ready : Bool) :
    CompositeInvariant (r.setInterlockReady ready) := by
  have coherent : Coherent (r.stateMachine.setInterlockReady ready) :=
    handle_coherent _ _ composite.toCoherent (by cases ready <;> decide)
  unfold setInterlockReady
  dsimp only
  split
  · exact ⟨clear_path _,coherent⟩
  · rename_i stays
    refine ⟨machine_path composite.toOutputPath _ fun closed active => stays ⟨active,closed⟩,coherent⟩

theorem publish_path (path : OutputPath r) (command : OutputCommand) (now : Result Int) :
    OutputPath (r.publishOutputCommand command now).1 := by
  by_cases accepted : (r.publishOutputCommand command now).2 = .ok ()
  · obtain ⟨nowNs,rfl,_,opened,_,nonzero,_,_,session,_,commit⟩ := publish_parts r command now accepted
    have active : r.mode = .active := ((canAccept_mode _).mp opened).1
    rw [commit]
    refine ⟨fun closed => absurd active closed,by simpa using nonzero,?_,?_⟩
    · intro waiting same
      have equal : command = waiting := by simpa using same
      subst equal
      exact ⟨rfl,rfl,rfl⟩
    · intro pending
      have bound := path.pending pending
      rcases session with none | same
      · simp [none] at bound
      · simpa [same] using bound
  · rcases publish_refused r command now accepted with same | ⟨none,nonzero,stale,_⟩
    · rw [same]; exact path
    · -- An unbound session means no sequence was taken, so nothing is stale.
      have fresh : r.lastOutputSequence = 0 := by
        have bound := path.bound
        simpa [none] using bound
      rw [fresh] at stale
      exact absurd (UInt64.le_zero_iff.mp stale) nonzero

theorem consume_composite (composite : CompositeInvariant r) (now : Result Int) :
    CompositeInvariant (r.tryConsumeOutputCommand now).1 := by
  have step := consume_exact r now
  generalize (r.tryConsumeOutputCommand now).1 = next at step
  generalize (r.tryConsumeOutputCommand now).2 = returned at step
  obtain ⟨⟨closed,bound,waiting,pending⟩,coherent⟩ := composite
  cases step with
  | clock | unacknowledged _ | empty _ => exact ⟨⟨closed,bound,waiting,pending⟩,coherent⟩
  | shut _ => exact ⟨⟨fun shut => ⟨rfl,(closed shut).2⟩,bound,by simp,pending⟩,coherent⟩
  | expired _ opened _ _ _ | taken _ opened _ _ _ =>
      have active : r.mode = .active := ((canAccept_mode _).mp opened).1
      exact ⟨⟨fun shut => absurd active shut,bound,by simp,pending⟩,coherent⟩

theorem note_composite (composite : CompositeInvariant r) (sessionId sequence : UInt16) (sentTimeNs : Int) :
    CompositeInvariant (r.noteOutputCommandSent sessionId sequence sentTimeNs).1 := by
  by_cases noted : (r.noteOutputCommandSent sessionId sequence sentTimeNs).2 = .ok ()
  · obtain ⟨_,_,_,_,opened,session,_,commit⟩ := note_parts r sessionId sequence sentTimeNs noted
    have active : r.mode = .active := ((canAccept_mode _).mp opened).1
    rw [commit]
    exact ⟨⟨fun shut => absurd active shut,composite.bound,composite.waiting,fun _ => session⟩,composite.toCoherent⟩
  · rw [note_refused r sessionId sequence sentTimeNs noted]
    exact composite

theorem observe_composite (composite : CompositeInvariant r) (sessionId sequence : UInt16)
    (result : CanV1.OutputResult) (ackTimeNs : Int) :
    CompositeInvariant (r.observeOutputStatus sessionId sequence result ackTimeNs) := by
  obtain ⟨machine,mailbox,_,session,last,sent,_⟩ := observe_frame r sessionId sequence result ackTimeNs
  have ack := observe_pending r sessionId sequence result ackTimeNs
  have armed := observe_armed r sessionId sequence result ackTimeNs
  refine ⟨⟨?_,?_,?_,?_⟩,by rw [machine]; exact composite.toCoherent⟩
  · intro shut
    rw [mode,machine] at shut
    obtain ⟨empty,unbound,zero,free,disarmed⟩ := composite.closed shut
    rw [mailbox,session,last,ack,armed]
    exact ⟨empty,unbound,zero,by simp [free],by simp [disarmed]⟩
  · rw [session,last]; exact composite.bound
  · intro command waiting
    rw [mailbox] at waiting
    rw [session,last,armed]
    obtain ⟨same,newest,live⟩ := composite.waiting command waiting
    exact ⟨same,newest,by simp [live,waiting]⟩
  · intro pending
    rw [ack,Bool.and_eq_true] at pending
    rw [session,sent]
    exact composite.pending pending.1

theorem tick_composite (composite : CompositeInvariant r) (tick : SchedulerTick) :
    CompositeInvariant (r.tick tick) := by
  have step := tick_exact r tick
  generalize r.tick tick = next at step
  obtain ⟨⟨closed,bound,waiting,pending⟩,coherent⟩ := composite
  cases step with
  | threw _ => exact ⟨⟨closed,bound,waiting,pending⟩,coherent⟩
  | quiet watchdog same =>
      refine ⟨⟨fun shut => ?_,bound,fun command found => ?_,pending⟩,coherent⟩
      · rw [same]; exact closed shut
      · rw [same]; exact waiting command found
  | acknowledgement opened _ =>
      exact ⟨clear_path _,ackTimeout_coherent r.stateMachine ((canAccept_mode _).mp opened).1⟩
  | command _ _ _ => exact ⟨clear_path _,handle_coherent r.stateMachine .commandTimeout coherent (by decide)⟩

theorem apply_composite (composite : CompositeInvariant r) (call : RuntimeCall) :
    CompositeInvariant (r.apply call) := by
  cases call with
  | start startup =>
      simp only [apply,start]
      split
      · exact composite
      · exact ⟨⟨composite.closed,composite.bound,composite.waiting,composite.pending⟩,composite.toCoherent⟩
  | stop =>
      exact ⟨clear_path {r with scheduler := r.scheduler.stopAndJoin,stateMachine := {}},initial_coherent⟩
  | handle event => exact handle_composite composite event
  | raiseFault code => exact raise_composite composite code
  | setInterlockReady ready => exact interlock_composite composite ready
  | publishOutputCommand command now =>
      refine ⟨publish_path composite.toOutputPath command now,?_⟩
      simp only [apply,(publish_control r command now).machine]
      exact composite.toCoherent
  | tryConsumeOutputCommand now => exact consume_composite composite now
  | noteOutputCommandSent sessionId sequence sentTimeNs =>
      exact note_composite composite sessionId sequence sentTimeNs
  | observeOutputStatus sessionId sequence result ackTimeNs =>
      exact observe_composite composite sessionId sequence result ackTimeNs
  | onTick tick => exact tick_composite composite tick
  | workerExit workerError =>
      exact ⟨⟨composite.closed,composite.bound,composite.waiting,composite.pending⟩,composite.toCoherent⟩

def run (config : RuntimeConfig) (calls : List RuntimeCall) : LinuxRuntime :=
  calls.foldl apply (construct config)

theorem fold_composite (calls : List RuntimeCall) (composite : CompositeInvariant r) :
    CompositeInvariant (calls.foldl apply r) := by
  induction calls generalizing r with
  | nil => exact composite
  | cons call rest ih => exact ih (apply_composite composite call)

theorem run_composite (config : RuntimeConfig) (calls : List RuntimeCall) : CompositeInvariant (run config calls) :=
  fold_composite calls (construct_composite config)

-- While Active lasts a call does one of five things to the output path. Leaving
-- or entering Active clears it instead.
inductive OpenStep (r : LinuxRuntime) : RuntimeCall → LinuxRuntime → Prop where
  | kept (machine : RuntimeStateMachine) (scheduler : PeriodicScheduler) (watchdog : MonotonicWatchdog)
      (seam : Bool) (armed : watchdog.armed = r.commandWatchdog.armed) :
      OpenStep r call
        {r with stateMachine := machine,scheduler := scheduler,commandWatchdog := watchdog,testThrowOnTick := seam}
  | admitted (passed : (r.publishOutputCommand command (.ok nowNs)).2 = .ok ())
      (running : r.scheduler.running = true) (nonzero : command.sequence ≠ 0)
      (fresh : nowNs < command.deadlineNs)
      (session : r.activeSessionId = none ∨ r.activeSessionId = some command.sessionId)
      (newer : r.lastOutputSequence < command.sequence) :
      OpenStep r (.publishOutputCommand command (.ok nowNs))
        {r with
          activeSessionId := some command.sessionId
          lastOutputSequence := command.sequence
          mailbox := r.mailbox.publish command
          commandWatchdog := r.commandWatchdog.arm nowNs}
  | consumed (consumes : Consumes r now next returned) : OpenStep r (.tryConsumeOutputCommand now) next
  | noted {sequence : UInt16} (session : r.activeSessionId.map UInt64.toUInt16 = some sessionId) (free : r.outputAckPending = false) :
      OpenStep r (.noteOutputCommandSent sessionId sequence sentTimeNs)
        {r with
          outputAckPending := true
          lastSentSession := sessionId
          lastSentSequence := sequence
          lastSentTimeNs := sentTimeNs}
  | observed {sequence : UInt16} : OpenStep r (.observeOutputStatus sessionId sequence result ackTimeNs)
      (r.observeOutputStatus sessionId sequence result ackTimeNs)

theorem OpenStep.unchanged (r : LinuxRuntime) (call : RuntimeCall) : OpenStep r call r :=
  .kept r.stateMachine r.scheduler r.commandWatchdog r.testThrowOnTick rfl

theorem handle_open (active : r.mode = .active) (stays : (r.handle event).1.mode = .active) :
    OpenStep r (.handle event) (r.handle event).1 := by
  have step := handle_exact r event
  generalize (r.handle event).1 = next at step stays
  cases step with
  | refused => exact .unchanged r _
  | inside _ _ => exact .kept _ r.scheduler r.commandWatchdog r.testThrowOnTick rfl
  | across _ _ crossed => exact absurd ⟨fun _ => active,fun _ => stays⟩ crossed

theorem apply_open (composite : CompositeInvariant r) (call : RuntimeCall) (active : r.mode = .active)
    (stays : (r.apply call).mode = .active) : OpenStep r call (r.apply call) := by
  cases call with
  | start startup =>
      simp only [apply,start]
      split
      · exact .unchanged r _
      · exact .kept r.stateMachine _ r.commandWatchdog r.testThrowOnTick rfl
  | stop => cases stays
  | handle event => exact handle_open active stays
  | raiseFault code =>
      simp only [apply,raiseFault] at stays ⊢
      split
      · exact .unchanged r _
      · rename_i real
        rw [if_neg real] at stays
        have faulted := RuntimeStateMachine.handle_faultDetected_mode (r.stateMachine.setFault code)
        have active : (r.stateMachine.setFault code).mode = .active := active
        simp only [active] at faulted
        cases faulted.symm.trans stays
  | setInterlockReady ready =>
      simp only [apply,setInterlockReady] at stays ⊢
      split
      · rename_i leaves
        rw [if_pos leaves] at stays
        exact absurd stays leaves.2
      · exact .kept _ r.scheduler r.commandWatchdog r.testThrowOnTick rfl
  | publishOutputCommand command now =>
      by_cases accepted : (r.publishOutputCommand command now).2 = .ok ()
      · obtain ⟨nowNs,rfl,running,_,_,nonzero,_,fresh,session,newer,commit⟩ := publish_parts r command now accepted
        simp only [apply,commit]
        exact .admitted accepted running nonzero fresh session newer
      · rcases publish_refused r command now accepted with same | ⟨none,nonzero,stale,_⟩
        · simp only [apply,same]
          exact .unchanged r _
        · have bound := composite.bound
          simp only [none,Option.isSome_none,Bool.false_eq_true,ne_eq,false_iff,Decidable.not_not] at bound
          rw [bound] at stale
          exact absurd (UInt64.le_zero_iff.mp stale) nonzero
  | tryConsumeOutputCommand now => exact .consumed (consume_exact r now)
  | noteOutputCommandSent sessionId sequence sentTimeNs =>
      by_cases noted : (r.noteOutputCommandSent sessionId sequence sentTimeNs).2 = .ok ()
      · obtain ⟨_,_,_,_,_,session,free,commit⟩ := note_parts r sessionId sequence sentTimeNs noted
        simp only [apply,commit]
        exact .noted session free
      · simp only [apply,note_refused r sessionId sequence sentTimeNs noted]
        exact .unchanged r _
  | observeOutputStatus sessionId sequence result ackTimeNs => exact .observed
  | onTick tick =>
      have step := tick_exact r tick
      simp only [apply] at stays ⊢
      generalize r.tick tick = next at step stays
      cases step with
      | threw _ => exact .kept r.stateMachine _ r.commandWatchdog false rfl
      | quiet watchdog same => exact .kept r.stateMachine r.scheduler watchdog r.testThrowOnTick same
      | acknowledgement _ _ =>
          cases stays.symm.trans (hold_shut r.stateMachine active)
      | command _ _ watchdog =>
          cases stays.symm.trans (timeout_shut r.stateMachine active)
  | workerExit workerError => exact .kept r.stateMachine _ r.commandWatchdog r.testThrowOnTick rfl

theorem apply_entering (r : LinuxRuntime) (call : RuntimeCall) (shut : r.mode ≠ .active) (opened : (r.apply call).mode = .active) :
    call = .handle .activateRequest ∧ r.mode = .idle ∧ r.stateMachine.interlockReady = true ∧
      r.scheduler.running = true ∧
      r.apply call = clearOutputPath {r with stateMachine := (r.stateMachine.handle .activateRequest).1} := by
  cases output : onOutputPath call with
  | true =>
      rw [mode,(output_control r call output).machine] at opened
      exact absurd opened shut
  | false =>
  cases call with
  | start startup =>
      simp only [apply,start] at opened
      split at opened <;> exact absurd opened shut
  | stop => cases opened
  | handle event =>
      have step := handle_exact r event
      simp only [apply] at opened ⊢
      generalize (r.handle event).1 = next at step opened
      cases step with
      | refused => exact absurd opened shut
      | inside _ same => exact absurd (same.mp opened) shut
      | across _ running _ =>
          rcases r.stateMachine.handle_active event opened with stale | ⟨idle,rfl,ready⟩
          · exact absurd stale shut
          · exact ⟨rfl,idle,ready,running rfl,rfl⟩
  | raiseFault code =>
      simp only [apply,raiseFault] at opened
      split at opened
      · exact absurd opened shut
      · have faulted := RuntimeStateMachine.handle_faultDetected_mode (r.stateMachine.setFault code)
        rw [show ((r.stateMachine.setFault code).handle .faultDetected).1.mode = .active from opened] at faulted
        split at faulted
        · cases faulted
        · split at faulted <;> cases faulted
  | setInterlockReady ready =>
      have here : (r.stateMachine.setInterlockReady ready).mode = .active := by
        simp only [apply,setInterlockReady] at opened
        split at opened <;> exact opened
      rcases r.stateMachine.handle_active _ here with stale | ⟨_,wrong,_⟩
      · exact absurd stale shut
      · cases ready <;> cases wrong
  | publishOutputCommand | tryConsumeOutputCommand | noteOutputCommandSent | observeOutputStatus => cases output
  | onTick tick =>
      have step := tick_exact r tick
      simp only [apply] at opened
      generalize r.tick tick = next at step opened
      cases step with
      | threw _ | quiet _ _ => exact absurd opened shut
      | acknowledgement active _ | command active _ _ => exact absurd ((canAccept_mode _).mp active).1 shut
  | workerExit workerError => exact absurd opened shut

theorem stays_active (composite : CompositeInvariant r) (call : RuntimeCall)
    (bound : (r.apply call).activeSessionId = some session) : r.mode = .active ∧ (r.apply call).mode = .active := by
  have stays : (r.apply call).mode = .active := by
    by_contra shut
    rw [((apply_composite composite call).closed shut).2.1] at bound
    cases bound
  refine ⟨?_,stays⟩
  by_contra shut
  obtain ⟨_,_,_,_,cleared⟩ := apply_entering r call shut stays
  rw [cleared] at bound
  cases bound

-- Only note_output_command_sent opens the wait for an acknowledgement, and only
-- it changes what is waited for.
theorem apply_ack (composite : CompositeInvariant r) (call : RuntimeCall)
    (pending : (r.apply call).outputAckPending = true) :
    (r.outputAckPending = true ∧ (r.apply call).lastSentSession = r.lastSentSession ∧
        (r.apply call).lastSentSequence = r.lastSentSequence) ∨
      (r.outputAckPending = false ∧ ∃ sessionId sequence sentTimeNs,
        call = .noteOutputCommandSent sessionId sequence sentTimeNs ∧
          (r.apply call).lastSentSession = sessionId ∧ (r.apply call).lastSentSequence = sequence) := by
  have matched := (apply_composite composite call).pending pending
  obtain ⟨session,bound,_⟩ := Option.map_eq_some_iff.mp matched
  obtain ⟨active,stays⟩ := stays_active composite call bound
  have step := apply_open composite call active stays
  generalize r.apply call = next at step pending ⊢
  cases step with
  | kept _ _ _ _ _ | admitted _ _ _ _ _ _ => exact .inl ⟨pending,rfl,rfl⟩
  | consumed consumes => cases consumes <;> exact .inl ⟨pending,rfl,rfl⟩
  | noted _ free => exact .inr ⟨free,_,_,_,rfl,rfl,rfl⟩
  | observed =>
      rw [observe_pending,Bool.and_eq_true] at pending
      obtain ⟨_,_,_,_,_,sent,sequence⟩ := observe_frame r _ _ _ _
      exact .inl ⟨pending.1,sent,sequence⟩

theorem apply_session (composite : CompositeInvariant r) (call : RuntimeCall)
    (bound : (r.apply call).activeSessionId = some session) :
    r.activeSessionId = some session ∨
      (r.activeSessionId = none ∧ ∃ command now, call = .publishOutputCommand command now ∧
        (r.publishOutputCommand command now).2 = .ok () ∧ command.sessionId = session) := by
  obtain ⟨active,stays⟩ := stays_active composite call bound
  have step := apply_open composite call active stays
  generalize r.apply call = next at step bound
  cases step with
  | kept _ _ _ _ _ | noted _ _ => exact .inl bound
  | admitted passed _ _ _ same _ =>
      rcases same with none | same
      · exact .inr ⟨none,_,_,rfl,passed,Option.some.inj bound⟩
      · exact .inl (same.trans bound)
  | consumed consumes => cases consumes <;> exact .inl bound
  | observed =>
      rw [(observe_frame r _ _ _ _).2.2.2.1] at bound
      exact .inl bound

theorem open_session (step : OpenStep r call next) (bound : r.activeSessionId = some session) :
    next.activeSessionId = some session := by
  cases step with
  | kept _ _ _ _ _ | noted _ _ => exact bound
  | admitted _ _ _ _ same _ =>
      rcases same with none | same
      · cases none.symm.trans bound
      · exact same.symm.trans bound
  | consumed consumes => cases consumes <;> exact bound
  | observed => rw [(observe_frame r _ _ _ _).2.2.2.1]; exact bound

def setsInterlock : RuntimeCall → Bool
  | .stop | .setInterlockReady _ | .handle .interlockReady | .handle .interlockLost => true
  | _ => false

theorem apply_interlock (r : LinuxRuntime) (call : RuntimeCall) (other : setsInterlock call = false) :
    (r.apply call).stateMachine.interlockReady = r.stateMachine.interlockReady := by
  cases output : onOutputPath call with
  | true => rw [(output_control r call output).machine]
  | false =>
  cases call with
  | start startup =>
      simp only [apply,start]
      split <;> rfl
  | stop | setInterlockReady ready => cases other
  | handle event =>
      have noted : (r.stateMachine.noteInterlock event).interlockReady = r.stateMachine.interlockReady := by
        cases event <;> first | rfl | cases other
      have kept := (r.stateMachine.handle_interlock event).trans noted
      have step := handle_exact r event
      simp only [apply]
      generalize (r.handle event).1 = next at step
      cases step with
      | refused => rfl
      | inside _ _ | across _ _ _ => exact kept
  | raiseFault code =>
      simp only [apply,raiseFault]
      split
      · rfl
      · exact (r.stateMachine.setFault code).handle_interlock .faultDetected
  | publishOutputCommand | tryConsumeOutputCommand | noteOutputCommandSent | observeOutputStatus => cases output
  | onTick tick =>
      have step := tick_exact r tick
      simp only [apply]
      generalize r.tick tick = next at step
      cases step with
      | threw _ | quiet _ _ => rfl
      | acknowledgement _ _ => exact (r.stateMachine.setFault .ackTimeout).handle_interlock .hold
      | command _ _ _ => exact r.stateMachine.handle_interlock .commandTimeout
  | workerExit workerError => rfl

theorem apply_seam (r : LinuxRuntime) (call : RuntimeCall) (seam : (r.apply call).testThrowOnTick = true) :
    r.testThrowOnTick = true ∧ ∀ tick, call ≠ .onTick tick := by
  cases output : onOutputPath call with
  | true =>
      refine ⟨(output_control r call output).seam.symm.trans seam,?_⟩
      rintro tick rfl
      cases output
  | false =>
  cases call with
  | start startup =>
      simp only [apply,start] at seam
      refine ⟨?_,by simp⟩
      split at seam <;> exact seam
  | stop => exact ⟨seam,by simp⟩
  | handle event =>
      have step := handle_exact r event
      simp only [apply] at seam
      generalize (r.handle event).1 = next at step seam
      refine ⟨?_,by simp⟩
      cases step <;> exact seam
  | raiseFault code =>
      simp only [apply,raiseFault] at seam
      refine ⟨?_,by simp⟩
      split at seam <;> exact seam
  | setInterlockReady ready =>
      simp only [apply,setInterlockReady] at seam
      refine ⟨?_,by simp⟩
      split at seam <;> exact seam
  | publishOutputCommand | tryConsumeOutputCommand | noteOutputCommandSent | observeOutputStatus => cases output
  | onTick tick =>
      simp only [apply,LinuxRuntime.tick,onTick,checkAckTimeout,checkCommandWatchdog,clearOutputPath] at seam
      grind
  | workerExit workerError => exact ⟨seam,by simp⟩

-- Every way a call can treat the scheduler. Only a start that finds no thread to
-- join, and only a stop, change whether there is one.
inductive SchedulerStep (r : LinuxRuntime) : RuntimeCall → PeriodicScheduler → Prop where
  | kept : SchedulerStep r call r.scheduler
  | started (free : r.scheduler.joinable = false) (scheduler : PeriodicScheduler)
      (live : scheduler.running = true → scheduler.joinable = true) : SchedulerStep r (.start startup) scheduler
  | stopped : SchedulerStep r .stop r.scheduler.stopAndJoin
  | ended (workerError : Int) : SchedulerStep r call (r.scheduler.workerExit workerError)

theorem apply_scheduler (r : LinuxRuntime) (call : RuntimeCall) : SchedulerStep r call (r.apply call).scheduler := by
  cases output : onOutputPath call with
  | true =>
      rw [(output_control r call output).scheduler]
      exact .kept
  | false =>
  cases call with
  | start startup =>
      simp only [apply,start]
      split
      · exact .kept
      · cases joinable : r.scheduler.joinable with
        | true =>
            have same : (r.scheduler.start startup).1 = r.scheduler := by
              simp only [PeriodicScheduler.start,joinable]
              grind
            simp only [same]
            exact .kept
        | false =>
            by_cases same : (r.scheduler.start startup).1 = r.scheduler
            · simp only [same]
              exact .kept
            · refine .started joinable _ ?_
              simp only [PeriodicScheduler.start] at same ⊢
              grind
  | stop => exact .stopped
  | handle event =>
      have step := handle_exact r event
      simp only [apply]
      generalize (r.handle event).1 = next at step
      cases step <;> exact .kept
  | raiseFault code =>
      simp only [apply,raiseFault]
      split <;> exact .kept
  | setInterlockReady ready =>
      simp only [apply,setInterlockReady]
      split <;> exact .kept
  | publishOutputCommand | tryConsumeOutputCommand | noteOutputCommandSent | observeOutputStatus => cases output
  | onTick tick =>
      have step := tick_exact r tick
      simp only [apply]
      generalize r.tick tick = next at step
      cases step with
      | threw _ => exact .ended _
      | quiet _ _ | acknowledgement _ _ | command _ _ _ => exact .kept
  | workerExit workerError => exact .ended _

-- Active was entered under a worker thread that is still to be joined, so no
-- start can revive the scheduler inside an epoch.
structure Joined (r : LinuxRuntime) : Prop where
  running : r.scheduler.running = true → r.scheduler.joinable = true
  active : r.mode = .active → r.scheduler.joinable = true

theorem construct_joined (config : RuntimeConfig) : Joined (construct config) := by
  constructor <;> intro wrong <;> cases wrong

theorem apply_joined (joined : Joined r) (call : RuntimeCall) : Joined (r.apply call) := by
  have scheduler := apply_scheduler r call
  constructor
  · intro running
    generalize (r.apply call).scheduler = next at scheduler running
    cases scheduler with
    | kept => exact joined.running running
    | started _ _ live => exact live running
    | stopped | ended _ => cases running
  · intro active
    by_cases before : r.mode = .active
    · have joinable := joined.active before
      generalize (r.apply call).scheduler = next at scheduler ⊢
      cases scheduler with
      | kept | ended _ => exact joinable
      | started free _ _ => cases free.symm.trans joinable
      | stopped => cases active
    · obtain ⟨rfl,_,_,running,commit⟩ := apply_entering r call before active
      rw [commit]
      exact joined.running running

theorem running_kept (joined : Joined r) (active : r.mode = .active) (call : RuntimeCall)
    (running : (r.apply call).scheduler.running = true) : r.scheduler.running = true := by
  have scheduler := apply_scheduler r call
  generalize (r.apply call).scheduler = next at scheduler running
  cases scheduler with
  | kept => exact running
  | started free _ _ => cases free.symm.trans (joined.active active)
  | stopped | ended _ => cases running

theorem raise_shut (r : LinuxRuntime) (code : FaultCode) (real : code ≠ .none) :
    (r.apply (.raiseFault code)).mode ≠ .active := by
  intro opened
  by_cases active : r.mode = .active
  · have faulted := RuntimeStateMachine.handle_faultDetected_mode (r.stateMachine.setFault code)
    simp only [apply,raiseFault,if_neg real] at opened
    have opened : ((r.stateMachine.setFault code).handle .faultDetected).1.mode = .active := opened
    have active : (r.stateMachine.setFault code).mode = .active := active
    rw [opened,active] at faulted
    exact absurd faulted (by decide)
  · obtain ⟨wrong,_⟩ := apply_entering r _ active opened
    cases wrong

theorem fold_active (calls : List RuntimeCall) (never : .handle .activateRequest ∉ calls)
    (opened : (calls.foldl apply r).mode = .active) : r.mode = .active := by
  induction calls generalizing r with
  | nil => exact opened
  | cons call rest ih =>
      simp only [List.mem_cons,not_or] at never
      have before := ih never.2 opened
      by_contra shut
      exact never.1 (apply_entering r call shut before).1.symm

theorem fold_interlock (calls : List RuntimeCall) (other : ∀ call ∈ calls, setsInterlock call = false) :
    (calls.foldl apply r).stateMachine.interlockReady = r.stateMachine.interlockReady := by
  induction calls generalizing r with
  | nil => rfl
  | cons call rest ih =>
      simp only [List.forall_mem_cons] at other
      exact (ih other.2).trans (apply_interlock r call other.1)

theorem fold_seam (calls : List RuntimeCall) (seam : (calls.foldl apply r).testThrowOnTick = true) :
    r.testThrowOnTick = true ∧ ∀ tick, .onTick tick ∉ calls := by
  induction calls generalizing r with
  | nil => exact ⟨seam,fun _ => List.not_mem_nil⟩
  | cons call rest ih =>
      obtain ⟨before,absent⟩ := ih seam
      obtain ⟨first,other⟩ := apply_seam r call before
      refine ⟨first,fun tick listed => ?_⟩
      rcases List.mem_cons.mp listed with here | later
      · exact other tick here.symm
      · exact absent tick later

end RobotControlRuntime.LinuxRuntime
