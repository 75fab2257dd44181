import RobotControlRuntime.NodeLiveness

namespace RobotControlRuntime
open StepHistory

namespace NodeSupervisor

def Harmless (s : NodeSupervisor) (event : RuntimeInputEvent) : Prop :=
  (event.nodeId ≠ 0 ∧ event.nodeId ≠ s.config.nodeId) ∨
    match event.kind with
    | .heartbeat => s.everSeen = true → event.bootId = s.bootId ∧ event.sessionId = s.sessionId
    | .nodeStatus =>
      s.online = true ∧ event.nodeFaultCode = 0 ∧ (s.everSeen = true → event.sessionId = 0 ∨ event.sessionId = s.sessionId)
    | .outputStatus | .protocolReject => True
    | .ioError => False

def HarmlessAll (s : NodeSupervisor) (nowNs : Int) : List RuntimeInputEvent → Prop
  | [] => True
  | event :: rest => Harmless s event ∧ HarmlessAll (s.applyEvent event nowNs).1 nowNs rest

-- A tick with no overflow left to escalate, harmless events only and no
-- heartbeat overdue at its end.
structure QuietTick (s : NodeSupervisor) (queue : BoundedInputQueue) (nowNs : Int) : Prop where
  overflow : queue.overflowLatched = true → s.overflowFaultLatched = true
  events : HarmlessAll (s.afterOverflow queue).1 nowNs (queue.events.take s.config.maxEventsPerTick)
  fresh : (s.settled queue nowNs).1.online = true →
    nowNs - (s.settled queue nowNs).1.lastHeartbeatNs < s.config.heartbeatTimeoutNs

def raises : RuntimeCall → Bool
  | .raiseFault _ => true
  | _ => false

theorem harmless_calls (harmless : Harmless s event) (nowNs : Int) :
    ∀ call ∈ (s.applyEvent event nowNs).2, raises call = false := by
  rcases harmless with other | harmless
  · rw [s.event_foreign nowNs other]
    intro call listed
    cases listed
  · have observes := s.event_exact event nowNs
    generalize s.applyEvent event nowNs = outcome at observes ⊢
    intro call listed
    cases observes with
    | foreign | alive | refused => cases listed
    | rebooted kind seen changed =>
        rw [kind] at harmless
        obtain ⟨boot,session⟩ := harmless seen
        exact absurd changed (not_or.mpr ⟨not_not.mpr boot,not_not.mpr session⟩)
    | rebound kind seen changed =>
        rw [kind] at harmless
        rcases harmless.2.2 seen with unset | same
        · exact absurd unset changed.1
        · exact absurd same changed.2
    | reported kind _ =>
        rw [kind] at harmless
        simp only [statusCalls,harmless.2.1,ne_eq,not_true_eq_false,if_false] at listed
        rw [List.mem_singleton.mp listed]
        rfl
    | answered =>
        rw [List.mem_singleton.mp listed]
        rfl
    | broken kind =>
        rw [kind] at harmless
        exact harmless.elim

theorem blocked_free (s : NodeSupervisor) (queue : BoundedInputQueue) :
    s.blocked queue = false ↔ s.overflowFaultLatched = false ∧ queue.overflowLatched = false ∧
      s.commLossLatched = false ∧ ((s.everSeen || s.statusUpdates != 0 || s.restartLatched) = true → s.online = true) ∧
      s.nodeFaultCode = 0 := by
  simp only [blocked,Bool.or_eq_false_iff,and_assoc,bne_eq_false_iff_eq,Bool.and_eq_false_imp,Bool.not_eq_false']

theorem harmless_free (harmless : Harmless s event) (nowNs : Int) (queue : BoundedInputQueue)
    (free : s.blocked queue = false) : (s.applyEvent event nowNs).1.blocked queue = false := by
  rcases harmless with other | harmless
  · rw [s.event_foreign nowNs other]
    exact free
  · obtain ⟨overflow,latch,loss,online,fault⟩ := (s.blocked_free queue).mp free
    have observes := s.event_exact event nowNs
    generalize s.applyEvent event nowNs = outcome at observes ⊢
    cases observes with
    | rebooted | alive => exact (blocked_free _ queue).mpr ⟨overflow,latch,rfl,fun _ => rfl,fault⟩
    | rebound kind _ _ =>
        rw [kind] at harmless
        exact (blocked_free _ queue).mpr ⟨overflow,latch,rfl,fun _ => rfl,harmless.2.1⟩
    | reported kind _ =>
        rw [kind] at harmless
        exact (blocked_free _ queue).mpr ⟨overflow,latch,loss,fun _ => harmless.1,harmless.2.1⟩
    | foreign | answered | refused | broken => exact free

theorem harmless_all_calls (events : List RuntimeInputEvent) (harmless : HarmlessAll s nowNs events) :
    ∀ call ∈ (s.applyEvents nowNs events).2, raises call = false := by
  induction events generalizing s with
  | nil => intro call listed; cases listed
  | cons event rest ih =>
      intro call listed
      rcases List.mem_append.mp listed with here | later
      · exact harmless_calls harmless.1 nowNs call here
      · exact ih harmless.2 call later

theorem harmless_all_free (events : List RuntimeInputEvent) (harmless : HarmlessAll s nowNs events)
    (queue : BoundedInputQueue) (free : s.blocked queue = false) : (s.applyEvents nowNs events).1.blocked queue = false := by
  induction events generalizing s with
  | nil => exact free
  | cons event rest ih => exact ih harmless.2 (harmless_free harmless.1 nowNs queue free)

theorem quiet_overflow (quiet : QuietTick s queue nowNs) : s.afterOverflow queue = (s,[]) := by
  have escalated := quiet.overflow
  unfold afterOverflow applyOverflowFault
  grind

theorem quiet_loss (quiet : QuietTick s queue nowNs) (left : Nat) :
    ((s.settled queue nowNs).1.noteBudget left).applyCommLoss nowNs = ((s.settled queue nowNs).1.noteBudget left,[]) := by
  have fresh := quiet.fresh
  have same := s.settled_config queue nowNs
  unfold applyCommLoss noteBudget
  grind

theorem quiet_calls (quiet : QuietTick s queue nowNs) : ∀ call ∈ (s.onTick queue nowNs).2.2, raises call = false := by
  obtain ⟨left,supervises⟩ := s.tick_exact queue nowNs
  rw [supervises.calls,quiet_overflow quiet,quiet_loss quiet]
  simpa [settled] using harmless_all_calls _ quiet.events

theorem quiet_free (quiet : QuietTick s queue nowNs) (free : s.blocked queue = false) :
    (s.onTick queue nowNs).1.blocked (s.onTick queue nowNs).2.1 = false := by
  obtain ⟨left,supervises⟩ := s.tick_exact queue nowNs
  have first : (s.afterOverflow queue).1.blocked queue = false := by rw [quiet_overflow quiet]; exact free
  have settled := harmless_all_free _ quiet.events queue first
  rw [supervises.supervisor,quiet_loss quiet]
  simp only [blocked,supervises.latch]
  exact settled

end NodeSupervisor

namespace LinuxRuntime

theorem apply_fault (r : LinuxRuntime) (call : RuntimeCall) (faulted : (r.apply call).mode = .fault)
    (quiet : NodeSupervisor.raises call = false) : r.mode = .fault := by
  cases output : onOutputPath call with
  | true =>
      rw [mode,(output_control r call output).machine] at faulted
      exact faulted
  | false =>
  cases call with
  | start startup =>
      simp only [apply,start] at faulted
      split at faulted <;> exact faulted
  | stop => cases faulted
  | handle event =>
      have step := handle_exact r event
      simp only [apply] at faulted
      generalize (r.handle event).1 = next at step faulted
      cases step with
      | refused => exact faulted
      | inside own _ | across own _ _ => exact r.stateMachine.handle_fault event own faulted
  | raiseFault code => cases quiet
  | setInterlockReady ready =>
      have here : (r.stateMachine.setInterlockReady ready).mode = .fault := by
        simp only [apply,setInterlockReady] at faulted
        split at faulted <;> exact faulted
      exact r.stateMachine.handle_fault _ (by cases ready <;> decide) here
  | publishOutputCommand | tryConsumeOutputCommand | noteOutputCommandSent | observeOutputStatus => cases output
  | onTick tick =>
      have step := tick_exact r tick
      simp only [apply] at faulted
      generalize r.tick tick = next at step faulted
      cases step with
      | threw _ | quiet _ _ => exact faulted
      | acknowledgement opened _ =>
          cases (hold_shut r.stateMachine ((canAccept_mode _).mp opened).1).symm.trans faulted
      | command opened _ _ =>
          cases (timeout_shut r.stateMachine ((canAccept_mode _).mp opened).1).symm.trans faulted
  | workerExit workerError => exact faulted

theorem fold_fault (calls : List RuntimeCall) (quiet : ∀ call ∈ calls, NodeSupervisor.raises call = false)
    (faulted : (calls.foldl apply r).mode = .fault) : r.mode = .fault := by
  induction calls generalizing r with
  | nil => exact faulted
  | cons call rest ih =>
      simp only [List.forall_mem_cons] at quiet
      exact apply_fault r call (ih quiet.2 faulted) quiet.1

end LinuxRuntime

-- One application thread inside clear_fault while the scheduler and the I/O
-- thread go on. Between two of its locks only those threads move.
inductive ClearStage where
  | outside
  | snapshotted (snap : StartedDaemon.ClearSnapshot)
  | acknowledged
  deriving DecidableEq

structure ClearRace where
  daemon : StartedDaemon
  stage : ClearStage := .outside

inductive RaceAction where
  | snapshot | acknowledge | transition
  | other (action : DaemonAction)

namespace ClearRace

def background : DaemonAction → Bool
  | .tick _ | .push _ | .ioStop _ | .workerExit _ | .tryConsumeOutputCommand _ | .noteOutputCommandSent _ _ _ => true
  | _ => false

def application : DaemonAction → Bool
  | .boot | .activate | .deactivate | .resume | .publishOutputCommand _ _ => true
  | _ => false

def step (c : ClearRace) : RaceAction → Option ClearRace
  | .snapshot => if c.stage = .outside then some {c with stage := .snapshotted c.daemon.clearSnapshot} else none
  | .acknowledge =>
    match c.stage with
    | .snapshotted snap =>
      if snap.mode = .fault then
        match c.daemon.acknowledge snap with
        | (daemon,.ok ()) => some ⟨daemon,.acknowledged⟩
        | (daemon,.error _) => some ⟨daemon,.outside⟩
      else none
    | _ => none
  | .transition =>
    match c.stage with
    | .snapshotted snap => if snap.mode ≠ .fault then some ⟨(c.daemon.handle .faultCleared).1,.outside⟩ else none
    | .acknowledged => some ⟨(c.daemon.handle .faultCleared).1,.outside⟩
    | .outside => none
  | .other action =>
    if background action || (c.stage == .outside && application action) then
      (c.daemon.step action).map fun daemon => {c with daemon := daemon}
    else none

abbrev RaceMoment := Moment ClearRace RaceAction

def RaisesFault (m : RaceMoment) : Prop :=
  ∃ action, m.action = .other action ∧ ∃ call ∈ m.before.daemon.calls action, NodeSupervisor.raises call = true

def Granted (m : RaceMoment) : Prop := m.action = .acknowledge ∧ m.after.stage = .acknowledged

def ClearsSafely (m : RaceMoment) (past : List RaceMoment) : Prop :=
  m.action = .transition → m.before.daemon.runtime.mode = .fault → m.after.daemon.runtime.mode = .idle →
    m.before.daemon.supervisor.blocked m.before.daemon.queue = false ∧
      Since (fun m => ¬ RaisesFault m) (fun m _ => Granted m) past

def Pending : ClearStage → Prop
  | .outside => False
  | .snapshotted snap => snap.mode ≠ .fault
  | .acknowledged => True

def Undisturbed (m : RaceMoment) : Prop :=
  Pending m.before.stage →
    (∀ tick, m.action = .other (.tick tick) →
      NodeSupervisor.QuietTick m.before.daemon.supervisor m.before.daemon.queue tick.actualNs) ∧
    (∀ event, m.action = .other (.push event) → m.before.daemon.queue.events.length < m.before.daemon.queue.capacity)

structure Background (d : StartedDaemon) (action : DaemonAction) : Prop where
  allowed : background action = true
  quiet : ∀ tick, action = .tick tick → NodeSupervisor.QuietTick d.supervisor d.queue tick.actualNs
  room : ∀ event, action = .push event → d.queue.events.length < d.queue.capacity

section Background
variable {d next : StartedDaemon} {action : DaemonAction}

theorem background_calls (calm : Background d action) : ∀ call ∈ d.calls action, NodeSupervisor.raises call = false := by
  obtain ⟨allowed,quiet,_⟩ := calm
  cases action with
  | tick tick =>
      intro call listed
      rcases List.mem_cons.mp listed with rfl | listed
      · rfl
      · split at listed
        · cases listed
        · exact NodeSupervisor.quiet_calls (quiet tick rfl) call listed
  | push event | ioStop reason => intro call listed; cases listed
  | workerExit workerError | tryConsumeOutputCommand now | noteOutputCommandSent sessionId sequence sentTimeNs =>
      intro call listed
      rw [List.mem_singleton.mp listed]
      rfl
  | _ => cases allowed

theorem background_free (calm : Background d action) (taken : d.step action = some next)
    (free : d.supervisor.blocked d.queue = false) : next.supervisor.blocked next.queue = false := by
  obtain ⟨allowed,quiet,room⟩ := calm
  cases action with
  | tick tick =>
      simp only [StartedDaemon.step] at taken
      split at taken
      · cases taken
        simp only [StartedDaemon.tick]
        split
        · exact free
        · exact NodeSupervisor.quiet_free (quiet tick rfl) free
      · cases taken
  | push event =>
      cases taken
      have pushes := d.queue.push_exact event
      have space := room event rfl
      generalize (d.queue.tryPush event).1 = queue at pushes
      generalize (d.queue.tryPush event).2 = accepted at pushes
      cases pushes with
      | queued _ _ latch =>
          simp only [NodeSupervisor.blocked,latch]
          exact free
      | refused full _ _ _ => omega
  | ioStop reason | workerExit workerError | tryConsumeOutputCommand now
  | noteOutputCommandSent sessionId sequence sentTimeNs =>
      cases taken
      exact free
  | _ => cases allowed

end Background

structure RaceInvariant (past : List RaceMoment) (c : ClearRace) : Prop where
  snapshotted : ∀ snap, c.stage = .snapshotted snap → snap.mode ≠ .fault → c.daemon.runtime.mode ≠ .fault
  acknowledged : c.stage = .acknowledged → c.daemon.supervisor.blocked c.daemon.queue = false ∧
    Since (fun m => ¬ RaisesFault m) (fun m _ => Granted m) past

inductive Steps (c : ClearRace) : RaceAction → ClearRace → Prop where
  | snapshot (fresh : c.stage = .outside) : Steps c .snapshot {c with stage := .snapshotted c.daemon.clearSnapshot}
  | refused (unchanged : StartedDaemon) : Steps c .acknowledge ⟨unchanged,.outside⟩
  | granted (free : c.daemon.supervisor.blocked c.daemon.queue = false) :
      Steps c .acknowledge
        ⟨{c.daemon with supervisor := {c.daemon.supervisor with restartLatched := false}},.acknowledged⟩
  | transition (pending : Pending c.stage) : Steps c .transition ⟨(c.daemon.handle .faultCleared).1,.outside⟩
  | other (taken : c.daemon.step action = some next) (calm : c.stage ≠ .outside → background action = true) :
      Steps c (.other action) {c with daemon := next}

variable {c after : ClearRace} {move : RaceAction}

theorem step_exact (taken : c.step move = some after) : Steps c move after := by
  cases move with
  | snapshot =>
      simp only [step] at taken
      split at taken
      · rename_i fresh
        cases taken
        exact .snapshot fresh
      · cases taken
  | acknowledge =>
      simp only [step] at taken
      split at taken
      · rename_i snap _
        split at taken
        · have answer := c.daemon.acknowledge_exact snap
          generalize c.daemon.acknowledge snap = result at answer taken
          obtain ⟨daemon,result⟩ := result
          dsimp only at answer
          cases answer with
          | stopped _ => cases taken; exact .refused _
          | refused _ => cases taken; exact .refused _
          | granted free _ => cases taken; exact .granted free
        · cases taken
      · cases taken
  | transition =>
      simp only [step] at taken
      split at taken
      · rename_i snap stage
        split at taken
        · rename_i other
          cases taken
          exact .transition (by rw [stage]; exact other)
        · cases taken
      · rename_i stage
        cases taken
        exact .transition (by rw [stage]; trivial)
      · cases taken
  | other action =>
      simp only [step] at taken
      split at taken
      · rename_i allowed
        obtain ⟨next,ran,rfl⟩ := Option.map_eq_some_iff.mp taken
        refine .other ran fun busy => ?_
        simpa [busy] using allowed
      · cases taken

theorem outside_invariant (past : List RaceMoment) (daemon : StartedDaemon) : RaceInvariant past ⟨daemon,.outside⟩ := by
  constructor
  · intro _ wrong
    cases wrong
  · intro wrong
    cases wrong

theorem race_preserved (invariant : RaceInvariant past c) (taken : c.step move = some after)
    (met : Undisturbed ⟨c,move,after⟩) : RaceInvariant (⟨c,move,after⟩ :: past) after := by
  cases step_exact taken with
  | snapshot fresh =>
      refine ⟨fun snap same other => ?_,fun wrong => (by cases wrong)⟩
      cases same
      exact other
  | refused daemon => exact outside_invariant _ daemon
  | granted free =>
      refine ⟨fun _ wrong => (by cases wrong),fun _ => ⟨?_,.inl ⟨rfl,rfl⟩⟩⟩
      unfold NodeSupervisor.blocked at free ⊢
      grind
  | transition _ => exact outside_invariant _ _
  | @other action next ran calm =>
      have pending : Pending c.stage → Background c.daemon action := by
        intro pending
        obtain ⟨quiet,room⟩ := met pending
        have busy : c.stage ≠ .outside := by
          intro outside
          rw [outside] at pending
          exact pending
        exact ⟨calm busy,fun tick same => quiet tick (by rw [same]),fun event same => room event (by rw [same])⟩
      refine ⟨fun snap same other faulted => ?_,fun same => ?_⟩
      · have same : c.stage = .snapshotted snap := same
        have calls := background_calls (pending (by rw [same]; exact other))
        rw [StartedDaemon.step_runtime ran] at faulted
        exact invariant.snapshotted snap same other (LinuxRuntime.fold_fault _ calls faulted)
      · have same : c.stage = .acknowledged := same
        have calm := pending (by rw [same]; trivial)
        obtain ⟨free,since⟩ := invariant.acknowledged same
        refine ⟨background_free calm ran free,.inr ⟨?_,since⟩⟩
        rintro ⟨other,same,call,listed,raised⟩
        cases same
        cases raised.symm.trans (background_calls calm call listed)

theorem race_clears (invariant : RaceInvariant past c) (taken : c.step move = some after) :
    ClearsSafely ⟨c,move,after⟩ past := by
  rintro rfl faulted _
  cases step_exact taken with
  | transition pending =>
      cases stage : c.stage with
      | outside => rw [stage] at pending; exact pending.elim
      | snapshotted snap =>
          rw [stage] at pending
          exact absurd faulted (invariant.snapshotted snap stage pending)
      | acknowledged => exact invariant.acknowledged stage

def lossInBetween (lateNs : Int) : List RaceAction :=
  [.other (.push {kind := .heartbeat,monotonicNs := 4000000,nodeId := 1,bootId := 1,sessionId := 1}),
   .other (.tick {actualNs := 10000000}),.other (.push {kind := .ioError,monotonicNs := 15000000,nodeId := 1}),
   .other (.tick {actualNs := 20000000}),.snapshot,.acknowledge,.other (.tick {actualNs := lateNs}),.transition]

theorem clear_erases_loss :
    ∃ initial history c, StartedDaemon.StartedBy StartedDaemon.shortQueue initial ∧
      Reached step ⟨initial,.outside⟩ history c ∧ c.daemon.runtime.mode = .idle ∧
      c.daemon.supervisor.commLossLatched = true ∧ ¬ Throughout ClearsSafely history := by
  refine ⟨StartedDaemon.launched StartedDaemon.shortQueue (.ok ()),_,_,StartedDaemon.launched_started,
    replay_reached (lossInBetween 400000000) .start rfl,rfl,rfl,?_⟩
  intro safe
  have free := (safe.1 rfl rfl rfl).1
  cases free

theorem clear_safe_undisturbed (initial : StartedDaemon) (path : Reached step ⟨initial,.outside⟩ history c)
    (quiet : Throughout (fun m _ => Undisturbed m) history) : Throughout ClearsSafely history :=
  throughout_under RaceInvariant (outside_invariant [] initial)
    (fun _ _ _ _ invariant taken met => race_preserved invariant taken met)
    (fun _ _ _ _ invariant taken _ => race_clears invariant taken) path quiet

theorem clear_safe_undisturbed_freshHeartbeat :
    ∃ history c, Reached step ⟨StartedDaemon.launched StartedDaemon.shortQueue (.ok ()),.outside⟩ history c ∧
      c.daemon.runtime.mode = .idle ∧ Throughout ClearsSafely history := by
  have path : Reached step ⟨StartedDaemon.launched StartedDaemon.shortQueue (.ok ()),.outside⟩ _ _ :=
    replay_reached (lossInBetween 30000000) .start rfl
  refine ⟨_,_,path,rfl,clear_safe_undisturbed _ path ⟨?_,?_,?_,?_,?_,?_,?_,?_,trivial⟩⟩
  · intro _
    exact ⟨fun _ same => (by cases same),fun _ same => (by cases same)⟩
  · intro _
    refine ⟨fun tick same => ?_,fun _ same => (by cases same)⟩
    cases same
    exact ⟨fun wrong => (by cases wrong),trivial,fun _ => (by decide)⟩
  · intro pending
    exact absurd rfl pending
  all_goals exact fun pending => pending.elim

end ClearRace

end RobotControlRuntime
