import RobotControlRuntime.NodeLiveness

namespace RobotControlRuntime
open StepHistory

namespace NodeSupervisor

-- A tick that finds no event can only escalate: it raises faults, and it never
-- lifts a blocker. Whatever it raises leaves a blocker behind.
theorem settled_idle (s : NodeSupervisor) (queue : BoundedInputQueue) (nowNs : Int) (idle : queue.events = []) :
    s.settled queue nowNs = ((s.afterOverflow queue).1,[]) := by
  simp [settled,idle,applyEvents]

theorem idle_tick_calls (s : NodeSupervisor) (queue : BoundedInputQueue) (nowNs : Int) (idle : queue.events = []) :
    ∀ call ∈ (s.onTick queue nowNs).2.2, ∃ code, code ≠ .none ∧ call = .raiseFault code := by
  obtain ⟨left,supervises⟩ := s.tick_exact queue nowNs
  rw [supervises.calls,settled_idle s queue nowNs idle]
  unfold afterOverflow applyOverflowFault applyCommLoss
  grind

theorem idle_tick_blocked (s : NodeSupervisor) (queue : BoundedInputQueue) (nowNs : Int) (idle : queue.events = []) :
    (s.blocked queue = true ∨ (s.onTick queue nowNs).2.2 ≠ []) →
      (s.onTick queue nowNs).1.blocked (s.onTick queue nowNs).2.1 = true := by
  obtain ⟨left,supervises⟩ := s.tick_exact queue nowNs
  unfold blocked
  rw [supervises.latch,supervises.supervisor,supervises.calls,settled_idle s queue nowNs idle]
  unfold afterOverflow applyOverflowFault applyCommLoss noteBudget
  grind

end NodeSupervisor

namespace LinuxRuntime

theorem fault_inert (r : LinuxRuntime) (faulted : r.mode = .fault)
    (event : RuntimeEvent) (inert : event = .boot ∨ event = .activateRequest ∨ event = .resume) :
    (r.handle event).1 = r := by
  have same : (r.stateMachine.handle event).1 = r.stateMachine := by
    rcases r with ⟨_,⟨mode,ready,fault⟩⟩
    cases faulted
    rcases inert with rfl | rfl | rfl <;> rfl
  have step := handle_exact r event
  generalize (r.handle event).1 = next at step
  cases step with
  | refused => rfl
  | inside _ _ => rw [same]
  | across _ _ crossed => exact absurd (by rw [same]; rfl) crossed

theorem fault_tick (r : LinuxRuntime) (tick : SchedulerTick) (faulted : r.mode = .fault) :
    (r.tick tick).stateMachine = r.stateMachine := by
  have step := tick_exact r tick
  generalize r.tick tick = next at step
  cases step with
  | threw _ | quiet _ _ => rfl
  | acknowledgement opened _ | command opened _ _ =>
      cases faulted.symm.trans ((canAccept_mode _).mp opened).1

theorem fault_raises (calls : List RuntimeCall)
    (raises : ∀ call ∈ calls, ∃ code, code ≠ .none ∧ call = .raiseFault code) (faulted : r.mode = .fault) :
    (calls.foldl apply r).mode = .fault := by
  induction calls generalizing r with
  | nil => exact faulted
  | cons call rest ih =>
      simp only [List.forall_mem_cons] at raises
      obtain ⟨⟨code,real,rfl⟩,later⟩ := raises
      refine ih later ?_
      have kept := RuntimeStateMachine.handle_faultDetected_mode (r.stateMachine.setFault code)
      rw [show (r.stateMachine.setFault code).mode = .fault from faulted] at kept
      simp only [apply,raiseFault,if_neg real]
      exact kept

theorem fault_detour (r : LinuxRuntime) (faulted : r.mode = .fault) (running : r.scheduler.running = true)
    (ready : r.stateMachine.interlockReady = true) :
    ((r.handle .deactivateRequest).1.mode = .disabled) ∧
      (((r.handle .deactivateRequest).1.handle .boot).1.handle .activateRequest).1.mode = .active := by
  rcases r with ⟨_,⟨mode,interlock,fault⟩,_,_,⟨_,_,runs,_⟩⟩
  cases faulted
  cases running
  cases ready
  exact ⟨rfl,rfl⟩

end LinuxRuntime

namespace StartedDaemon

variable {config : DaemonConfig} {initial d next : StartedDaemon} {action : DaemonAction}

-- The calls an operator has for getting out of a fault, and the same without
-- the detour through Disabled.
def recovers : DaemonAction → Bool
  | .boot | .activate | .deactivate | .resume | .clearFault | .tick _ => true
  | _ => false

def recoversInPlace : DaemonAction → Bool
  | .boot | .activate | .resume | .clearFault | .tick _ => true
  | _ => false

def StaysShut (d : StartedDaemon) (allowed : DaemonAction → Bool) : Prop :=
  ∀ history last, Reached step d history last → Throughout (fun m _ => allowed m.action = true) history →
    last.runtime.mode ≠ .active

structure LockedOut (d : StartedDaemon) : Prop where
  invariant : DaemonInvariant d
  drained : d.queue.events = []
  interlock : d.runtime.stateMachine.interlockReady = false

theorem step_drained (drained : d.queue.events = []) (recovery : recovers action = true)
    (taken : d.step action = some next) : next.queue.events = [] := by
  rcases step_queue taken with same | ⟨event,rfl⟩ | ⟨tick,rfl,same⟩
  · rw [same]; exact drained
  · cases recovery
  · obtain ⟨_,supervises⟩ := d.supervisor.tick_exact d.queue tick.actualNs
    rw [same,supervises.events,drained,List.drop_nil]

theorem drained_interlock (drained : d.queue.events = []) :
    ∀ call ∈ d.calls action, LinuxRuntime.setsInterlock call = false := by
  by_cases ticks : ∃ tick, action = .tick tick
  · obtain ⟨tick,rfl⟩ := ticks
    intro call listed
    rcases List.mem_cons.mp listed with rfl | listed
    · rfl
    · split at listed
      · cases listed
      · obtain ⟨code,_,rfl⟩ := d.supervisor.idle_tick_calls d.queue _ drained call listed
        rfl
  · exact calls_interlock fun tick same => ticks ⟨tick,same⟩

theorem step_locked (locked : LockedOut d) (recovery : recovers action = true) (taken : d.step action = some next) :
    LockedOut next := by
  refine ⟨step_invariant locked.invariant taken,step_drained locked.drained recovery taken,?_⟩
  rw [step_runtime taken,LinuxRuntime.fold_interlock _ (drained_interlock locked.drained)]
  exact locked.interlock

theorem locked_shut (locked : LockedOut d) : StaysShut d recovers := by
  intro history last path allowed active
  have locked : LockedOut last := reached_under (fun _ d => LockedOut d) locked
    (fun _ _ _ _ locked taken recovery => step_locked locked recovery taken) path allowed
  cases (locked.invariant.composite.opened active).1.symm.trans locked.interlock

structure Stuck (d : StartedDaemon) : Prop where
  faulted : d.runtime.mode = .fault
  drained : d.queue.events = []
  refused : d.supervisor.blocked d.queue = true ∨
    NodeSupervisor.recoverable d.runtime.stateMachine.fault = false

theorem tick_stuck {tick : SchedulerTick} (stuck : Stuck d) (taken : d.step (.tick tick) = some next) : Stuck next := by
  have drained := step_drained stuck.drained rfl taken
  have machine := d.runtime.fault_tick tick stuck.faulted
  have faulted : (d.runtime.tick tick).mode = .fault := (congrArg RuntimeStateMachine.mode machine).trans stuck.faulted
  have raises := d.supervisor.idle_tick_calls d.queue tick.actualNs stuck.drained
  have blocks := d.supervisor.idle_tick_blocked d.queue tick.actualNs stuck.drained
  simp only [step] at taken
  split at taken
  · cases taken
    simp only [StartedDaemon.tick] at drained ⊢
    split
    · refine ⟨faulted,stuck.drained,?_⟩
      rw [machine]
      exact stuck.refused
    · rename_i unarmed
      rw [if_neg unarmed] at drained
      refine ⟨LinuxRuntime.fault_raises _ raises faulted,drained,?_⟩
      -- Either the tick raised nothing and the fault code is the old one, or it left a blocker.
      rcases stuck.refused with blocked | unknown
      · exact .inl (blocks (.inl blocked))
      · by_cases quiet : (d.supervisor.onTick d.queue tick.actualNs).2.2 = []
        · refine .inr ?_
          simp only [quiet,List.foldl_nil,machine]
          exact unknown
        · exact .inl (blocks (.inr quiet))
  · cases taken

theorem step_stuck (stuck : Stuck d) (recovery : recoversInPlace action = true) (taken : d.step action = some next) :
    Stuck next := by
  have inert := d.runtime.fault_inert stuck.faulted
  cases action with
  | boot =>
      cases taken
      have elsewhere : d.runtime.mode ≠ .idle := by simp [stuck.faulted]
      simp only [boot,if_neg elsewhere,handle,inert .boot (.inl rfl)]
      exact stuck
  | activate =>
      cases taken
      simp only [activate,handle,inert .activateRequest (.inr (.inl rfl))]
      exact stuck
  | resume =>
      cases taken
      simp only [resume,handle,inert .resume (.inr (.inr rfl))]
      exact stuck
  | clearFault =>
      cases taken
      have clears := d.clear_exact
      generalize d.clearFault.1 = next at clears
      generalize d.calls .clearFault = calls at clears
      cases clears with
      | elsewhere other => exact absurd stuck.faulted other
      | stuck _ => exact stuck
      | cleared _ free known =>
          rcases stuck.refused with blocked | unknown
          · cases blocked.symm.trans free
          · cases known.symm.trans unknown
  | tick tick => exact tick_stuck stuck taken
  | _ => cases recovery

theorem stuck_shut (stuck : Stuck d) : StaysShut d recoversInPlace := by
  intro history last path allowed active
  have stuck : Stuck last := reached_under (fun _ d => Stuck d) stuck
    (fun _ _ _ _ stuck taken recovery => step_stuck stuck recovery taken) path allowed
  cases stuck.faulted.symm.trans active

theorem boot_elsewhere (d : StartedDaemon) (elsewhere : d.runtime.mode ≠ .idle) :
    d.boot.1.runtime = (d.runtime.handle .boot).1 := by
  simp only [boot,if_neg elsewhere,handle]

theorem detour_open (faulted : d.runtime.mode = .fault) (running : d.runtime.scheduler.running = true)
    (ready : d.runtime.stateMachine.interlockReady = true) : ¬ StaysShut d recovers := by
  intro shut
  obtain ⟨disabled,active⟩ := d.runtime.fault_detour faulted running ready
  have elsewhere : (d.runtime.handle .deactivateRequest).1.mode ≠ .idle := by simp [disabled]
  have booted : d.deactivate.1.boot.1.runtime = ((d.runtime.handle .deactivateRequest).1.handle .boot).1 :=
    boot_elsewhere d.deactivate.1 elsewhere
  have path : Reached step d _ d.deactivate.1.boot.1.activate.1 :=
    replay_reached [.deactivate,.boot,.activate] .start rfl
  refine shut _ _ path ⟨rfl,rfl,rfl,trivial⟩ ?_
  simp only [activate,handle,booted]
  exact active

def overflowedReady : List DaemonAction :=
  List.replicate 5 (.push readyStatus) ++ [.tick {actualNs := 10000000}]

theorem overflow_bypassed :
    ∃ initial past d, StartedBy shortQueue initial ∧ Reached step initial past d ∧ d.runtime.mode = .fault ∧
      d.runtime.scheduler.running = true ∧ d.queue.events = [] ∧
      (d.supervisor.acknowledgeFaultClear d.queue d.runtime.stateMachine.fault).2 =
        .error ⟨.rejected,"event queue overflow requires daemon restart"⟩ ∧
      ¬ StaysShut d recovers := by
  refine ⟨launched shortQueue (.ok ()),_,_,launched_started,replay_reached overflowedReady .start rfl,rfl,rfl,rfl,rfl,?_⟩
  exact detour_open rfl rfl rfl

theorem recovery_bypass_iff (started : StartedBy config initial) (path : Reached step initial past d)
    (faulted : d.runtime.mode = .fault) (running : d.runtime.scheduler.running = true) (drained : d.queue.events = [])
    (refused : (d.supervisor.acknowledgeFaultClear d.queue d.runtime.stateMachine.fault).2 ≠ .ok ()) :
    (StaysShut d recovers ↔ d.runtime.stateMachine.interlockReady = false) ∧ StaysShut d recoversInPlace := by
  have invariant : DaemonInvariant d := reached_invariant (fun _ d => DaemonInvariant d) (started_invariant started)
    (fun _ _ _ _ invariant taken => step_invariant invariant taken) path
  refine ⟨⟨fun shut => ?_,fun interlock => locked_shut ⟨invariant,drained,interlock⟩⟩,stuck_shut ⟨faulted,drained,?_⟩⟩
  · by_contra ready
    exact detour_open faulted running (by simpa using ready) shut
  · have answer := d.supervisor.acknowledge_exact d.queue d.runtime.stateMachine.fault
    generalize (d.supervisor.acknowledgeFaultClear d.queue d.runtime.stateMachine.fault).1 = after at answer
    generalize (d.supervisor.acknowledgeFaultClear d.queue d.runtime.stateMachine.fault).2 = result at answer refused
    cases answer with
    | granted _ _ => exact absurd rfl refused
    | refused stuck => exact stuck

def overflowedOpen : List DaemonAction :=
  List.replicate 5 (.push {kind := .protocolReject,monotonicNs := 5000000,nodeId := 1}) ++ [.tick {actualNs := 10000000}]

theorem recovery_bypass_iff_overflowedOpen :
    ∃ past d, Reached step (launched shortQueue (.ok ())) past d ∧ d.runtime.mode = .fault ∧ StaysShut d recovers := by
  have path : Reached step (launched shortQueue (.ok ())) _ _ := replay_reached overflowedOpen .start rfl
  exact ⟨_,_,path,rfl,(recovery_bypass_iff launched_started path rfl rfl rfl (by intro wrong; cases wrong)).1.mpr rfl⟩

end StartedDaemon

end RobotControlRuntime
