import RobotControlRuntime.DaemonRuns

namespace RobotControlRuntime
open StepHistory

namespace NodeSupervisor

def Live (s : NodeSupervisor) : Prop := s.online = true ↔ s.everSeen = true ∧ s.commLossLatched = false

theorem event_live (live : Live s) (event : RuntimeInputEvent) (nowNs : Int) : Live (s.applyEvent event nowNs).1 := by
  have observes := s.event_exact event nowNs
  generalize s.applyEvent event nowNs = outcome at observes ⊢
  cases observes with
  | rebooted _ seen _ | rebound _ seen _ => exact ⟨fun _ => ⟨seen,rfl⟩,fun _ => rfl⟩
  | alive _ _ => exact ⟨fun _ => ⟨rfl,rfl⟩,fun _ => rfl⟩
  | foreign | reported | answered | refused | broken => exact live

theorem event_online (s : NodeSupervisor) (event : RuntimeInputEvent) (nowNs : Int) (online : s.online = true) :
    (s.applyEvent event nowNs).1.online = true := by
  have observes := s.event_exact event nowNs
  generalize s.applyEvent event nowNs = outcome at observes ⊢
  cases observes with
  | rebooted | alive | rebound => rfl
  | foreign | reported | answered | refused | broken => exact online

theorem event_config (s : NodeSupervisor) (event : RuntimeInputEvent) (nowNs : Int) :
    (s.applyEvent event nowNs).1.config = s.config := by
  have observes := s.event_exact event nowNs
  generalize s.applyEvent event nowNs = outcome at observes ⊢
  cases observes <;> rfl

theorem events_live (live : Live s) (nowNs : Int) (events : List RuntimeInputEvent) :
    Live (s.applyEvents nowNs events).1 := by
  induction events generalizing s with
  | nil => exact live
  | cons event rest ih => exact ih (event_live live event nowNs)

theorem events_online (s : NodeSupervisor) (nowNs : Int) (events : List RuntimeInputEvent) (online : s.online = true) :
    (s.applyEvents nowNs events).1.online = true := by
  induction events generalizing s with
  | nil => exact online
  | cons event rest ih => exact ih _ (s.event_online event nowNs online)

theorem events_config (s : NodeSupervisor) (nowNs : Int) (events : List RuntimeInputEvent) :
    (s.applyEvents nowNs events).1.config = s.config := by
  induction events generalizing s with
  | nil => rfl
  | cons event rest ih => exact (ih _).trans (s.event_config event nowNs)

theorem overflow_frame (s : NodeSupervisor) (queue : BoundedInputQueue) :
    (s.afterOverflow queue).1 = {s with overflowFaultLatched := (s.afterOverflow queue).1.overflowFaultLatched} := by
  unfold afterOverflow applyOverflowFault
  split
  · split <;> rfl
  · rfl

theorem settled_config (s : NodeSupervisor) (queue : BoundedInputQueue) (nowNs : Int) :
    (s.settled queue nowNs).1.config = s.config :=
  (events_config _ nowNs _).trans (s.overflow_config queue)

theorem settled_live (live : Live s) (queue : BoundedInputQueue) (nowNs : Int) : Live (s.settled queue nowNs).1 := by
  refine events_live ?_ nowNs _
  rw [overflow_frame]
  exact live

theorem settled_online (s : NodeSupervisor) (queue : BoundedInputQueue) (nowNs : Int) (online : s.online = true) :
    (s.settled queue nowNs).1.online = true := by
  refine events_online _ nowNs _ ?_
  rw [overflow_frame]
  exact online

-- Every way the deadline check at the end of a tick can end. A node that is live
-- is lost with one CommLoss; what stays online has a fresh heartbeat.
inductive Loses (s : NodeSupervisor) (nowNs : Int) : NodeSupervisor → List RuntimeCall → Prop where
  | kept (fresh : s.online = true → s.everSeen = true → 0 < s.config.heartbeatTimeoutNs →
      nowNs - s.lastHeartbeatNs < s.config.heartbeatTimeoutNs) : Loses s nowNs s []
  | latched (online : s.online = true) (overdue : s.config.heartbeatTimeoutNs ≤ nowNs - s.lastHeartbeatNs)
      (already : s.commLossLatched = true) : Loses s nowNs {s with online := false} []
  | lost (online : s.online = true) (overdue : s.config.heartbeatTimeoutNs ≤ nowNs - s.lastHeartbeatNs) :
      Loses s nowNs {s with online := false,commLossLatched := true} [.raiseFault .commLoss]

theorem loss_exact (s : NodeSupervisor) (nowNs : Int) :
    Loses s nowNs (s.applyCommLoss nowNs).1 (s.applyCommLoss nowNs).2 := by
  unfold applyCommLoss
  split
  · rename_i away
    exact .kept fun online seen _ => by simp [online,seen] at away
  · rename_i here
    simp only [Bool.or_eq_true,Bool.not_eq_true',not_or,Bool.not_eq_false] at here
    split
    · rename_i disabled
      exact .kept fun _ _ positive => by omega
    · split
      · rename_i fresh
        exact .kept fun _ _ _ => fresh
      · rename_i overdue
        split
        · rename_i already
          exact .latched here.2 (by omega) already
        · exact .lost here.2 (by omega)

theorem loss_live (live : Live s) (nowNs : Int) : Live (s.applyCommLoss nowNs).1 := by
  have loses := s.loss_exact nowNs
  generalize (s.applyCommLoss nowNs).1 = next at loses
  generalize (s.applyCommLoss nowNs).2 = calls at loses
  cases loses with
  | kept _ => exact live
  | latched _ _ already => simp [Live,already]
  | lost _ _ => simp [Live]

theorem tick_live (live : Live s) (queue : BoundedInputQueue) (nowNs : Int) : Live (s.onTick queue nowNs).1 := by
  obtain ⟨left,supervises⟩ := s.tick_exact queue nowNs
  rw [supervises.supervisor]
  exact loss_live (s := (s.settled queue nowNs).1.noteBudget left) (settled_live live queue nowNs) nowNs

theorem tick_config (s : NodeSupervisor) (queue : BoundedInputQueue) (nowNs : Int) :
    (s.onTick queue nowNs).1.config = s.config := by
  obtain ⟨left,supervises⟩ := s.tick_exact queue nowNs
  rw [supervises.supervisor]
  have same := s.settled_config queue nowNs
  have loses := loss_exact ((s.settled queue nowNs).1.noteBudget left) nowNs
  generalize (((s.settled queue nowNs).1.noteBudget left).applyCommLoss nowNs).1 = next at loses
  generalize (((s.settled queue nowNs).1.noteBudget left).applyCommLoss nowNs).2 = calls at loses
  cases loses <;> exact same

theorem tick_keeps (live : Live s) (positive : 0 < s.config.heartbeatTimeoutNs) (queue : BoundedInputQueue)
    (nowNs : Int) (online : s.online = true) :
    ((s.onTick queue nowNs).1.online = true ∧ (s.onTick queue nowNs).1.everSeen = true ∧
      nowNs - (s.onTick queue nowNs).1.lastHeartbeatNs < s.config.heartbeatTimeoutNs) ∨
    ∃ calls, (s.onTick queue nowNs).2.2 = calls ++ [.raiseFault .commLoss] := by
  obtain ⟨left,supervises⟩ := s.tick_exact queue nowNs
  have here := settled_online s queue nowNs online
  have seen := (settled_live live queue nowNs).mp here
  have same := s.settled_config queue nowNs
  rw [supervises.supervisor,supervises.calls]
  have loses := loss_exact ((s.settled queue nowNs).1.noteBudget left) nowNs
  generalize (((s.settled queue nowNs).1.noteBudget left).applyCommLoss nowNs).1 = next at loses
  generalize (((s.settled queue nowNs).1.noteBudget left).applyCommLoss nowNs).2 = calls at loses
  cases loses with
  | kept fresh =>
      have fresh := fresh here seen.1 (same ▸ positive)
      exact .inl ⟨here,seen.1,same ▸ fresh⟩
  | latched _ _ already => cases already.symm.trans seen.2
  | lost _ _ => exact .inr ⟨_,rfl⟩

end NodeSupervisor

namespace StartedDaemon

structure DaemonInvariant (d : StartedDaemon) : Prop where
  composite : LinuxRuntime.CompositeInvariant d.runtime
  live : d.supervisor.Live
  timeout : 0 < d.supervisor.config.heartbeatTimeoutNs
  -- No tick has run while the seam is set, so no status can have opened the interlock.
  seam : d.runtime.testThrowOnTick = true → d.runtime.stateMachine.interlockReady = false

theorem started_invariant (started : StartedBy config d) : DaemonInvariant d := by
  obtain ⟨positive,startup,rfl⟩ := started_exact started
  refine ⟨?_,?_,?_,?_⟩
  · exact LinuxRuntime.fold_composite [.start startup,.handle .boot] (LinuxRuntime.construct_composite _)
  · simp [NodeSupervisor.Live,launched,NodeSupervisor.construct]
  · simp only [launched,NodeSupervisor.construct,DaemonConfig.supervisorConfig,DaemonConfig.nanoseconds]
    omega
  · intro _
    exact LinuxRuntime.fold_interlock [.start startup,.handle .boot] (by simp [LinuxRuntime.setsInterlock])

theorem step_invariant (invariant : DaemonInvariant d) (taken : d.step action = some next) : DaemonInvariant next := by
  refine ⟨?_,?_,?_,?_⟩
  · rw [step_runtime taken]
    exact LinuxRuntime.fold_composite _ invariant.composite
  · rcases step_supervisor taken with same | same | ⟨tick,_,_,same⟩ <;> rw [same]
    · exact invariant.live
    · exact invariant.live
    · exact NodeSupervisor.tick_live invariant.live _ _
  · rcases step_supervisor taken with same | same | ⟨tick,_,_,same⟩ <;> rw [same]
    · exact invariant.timeout
    · exact invariant.timeout
    · rw [NodeSupervisor.tick_config]
      exact invariant.timeout
  · intro seam
    rw [step_runtime taken] at seam ⊢
    obtain ⟨before,absent⟩ := LinuxRuntime.fold_seam _ seam
    have other : ∀ tick, action ≠ .tick tick := by
      rintro tick rfl
      exact absent tick (List.mem_cons_self ..)
    rw [LinuxRuntime.fold_interlock _ (calls_interlock other)]
    exact invariant.seam before

abbrev DaemonMoment := Moment StartedDaemon DaemonAction

def LiveWhenActive (m : DaemonMoment) : Prop :=
  ∀ tick, m.action = .tick tick → m.after.runtime.mode = .active →
    m.after.supervisor.everSeen = true ∧ m.after.supervisor.online = true ∧
      tick.actualNs - m.after.supervisor.lastHeartbeatNs < m.after.supervisor.config.heartbeatTimeoutNs

def OnlineActivation (m : DaemonMoment) : Prop :=
  m.action = .activate → m.before.runtime.mode = .idle → m.before.runtime.stateMachine.interlockReady = true →
    m.before.runtime.scheduler.running = true → m.before.supervisor.online = true

structure ActiveLive (d : StartedDaemon) : Prop extends DaemonInvariant d where
  active : d.runtime.mode = .active → d.supervisor.online = true

theorem tick_active {tick : SchedulerTick} (live : ActiveLive d) (taken : d.step (.tick tick) = some next)
    (active : next.runtime.mode = .active) :
    next.supervisor.everSeen = true ∧ next.supervisor.online = true ∧
      tick.actualNs - next.supervisor.lastHeartbeatNs < next.supervisor.config.heartbeatTimeoutNs := by
  have runtime := step_runtime taken
  have never : .handle .activateRequest ∉ d.calls (.tick tick) := fun listed => by
    cases calls_activate listed
  have before : d.runtime.mode = .active := LinuxRuntime.fold_active _ never (runtime ▸ active)
  have unarmed : d.runtime.testThrowOnTick = false := by
    cases seam : d.runtime.testThrowOnTick with
    | false => rfl
    | true => cases (live.composite.opened before).1.symm.trans (live.seam seam)
  obtain ⟨supervisor,calls⟩ : next.supervisor = (d.supervisor.onTick d.queue tick.actualNs).1 ∧
      d.calls (.tick tick) = .onTick tick :: (d.supervisor.onTick d.queue tick.actualNs).2.2 := by
    simp only [step] at taken
    split at taken
    · cases taken
      simp [StartedDaemon.tick,StartedDaemon.calls,unarmed]
    · cases taken
  rcases NodeSupervisor.tick_keeps live.live live.timeout d.queue tick.actualNs (live.active before) with
    ⟨online,seen,fresh⟩ | ⟨others,lost⟩
  · rw [supervisor,NodeSupervisor.tick_config]
    exact ⟨seen,online,fresh⟩
  · -- The loss is raised last, and a raised fault never leaves Active behind.
    rw [runtime,calls,lost,← List.cons_append,List.foldl_append] at active
    exact absurd active (LinuxRuntime.raise_shut _ _ (by decide))

theorem step_active (live : ActiveLive d) (taken : d.step action = some next)
    (met : OnlineActivation ⟨d,action,next⟩) : ActiveLive next := by
  refine ⟨step_invariant live.toDaemonInvariant taken,fun active => ?_⟩
  by_cases ticks : ∃ tick, action = .tick tick
  · obtain ⟨tick,rfl⟩ := ticks
    exact (tick_active live taken active).2.1
  · have other : ∀ tick, action ≠ .tick tick := fun tick same => ticks ⟨tick,same⟩
    have online : next.supervisor.online = d.supervisor.online := by
      rcases step_supervisor taken with same | same | ⟨tick,same,_⟩
      · rw [same]
      · rw [same]
      · exact absurd same (other tick)
    rw [online]
    by_cases before : d.runtime.mode = .active
    · exact live.active before
    · rw [step_runtime taken] at active
      rcases calls_single (d := d) other with none | ⟨call,one⟩
      · rw [none] at active
        exact absurd active before
      · rw [one] at active
        obtain ⟨rfl,idle,ready,running,_⟩ := LinuxRuntime.apply_entering d.runtime call before active
        exact met (calls_activate (one ▸ List.mem_singleton_self _)) idle ready running

theorem launched_live (started : StartedBy config initial) : ActiveLive initial := by
  refine ⟨started_invariant started,fun active => ?_⟩
  obtain ⟨_,startup,rfl⟩ := started_exact started
  have idle := LinuxRuntime.fold_active [.start startup,.handle .boot] (by simp) active
  cases idle

-- The interlock is opened by a NodeStatus alone, so without the condition a node
-- whose heartbeat never arrived can be activated.
def readyStatus : RuntimeInputEvent :=
  {kind := .nodeStatus,monotonicNs := 5000000,nodeId := 1,sessionId := 1,interlockReady := true}

def statusOnly : List DaemonAction :=
  [.push readyStatus,.tick {actualNs := 10000000},.activate,.tick {actualNs := 20000000}]

theorem active_without_heartbeat :
    ∃ initial history d, StartedBy shortQueue initial ∧ Reached step initial history d ∧
      ¬ Throughout (fun m _ => LiveWhenActive m) history := by
  refine ⟨launched shortQueue (.ok ()),_,_,launched_started,replay_reached statusOnly .start rfl,?_⟩
  intro all
  have seen := (all.1 {actualNs := 20000000} rfl rfl).1
  cases seen

theorem active_requires_live (started : StartedBy config initial) (path : Reached step initial history d)
    (online : Throughout (fun m _ => OnlineActivation m) history) :
    Throughout (fun m _ => LiveWhenActive m) history := by
  refine throughout_under (fun _ d => ActiveLive d) (launched_live started)
    (fun _ _ _ _ live taken met => step_active live taken met) ?_ path online
  rintro _ _ _ _ live taken _ tick rfl active
  exact tick_active live taken active

def heartbeatFirst : List DaemonAction :=
  .push {kind := .heartbeat,monotonicNs := 4000000,nodeId := 1,bootId := 1,sessionId := 1} :: statusOnly

theorem active_requires_live_heartbeatFirst :
    ∃ history d, Reached step (launched shortQueue (.ok ())) history d ∧ d.runtime.mode = .active ∧
      Throughout (fun m _ => LiveWhenActive m) history := by
  have path : Reached step (launched shortQueue (.ok ())) _ _ := replay_reached heartbeatFirst .start rfl
  refine ⟨_,_,path,rfl,active_requires_live launched_started path ?_⟩
  refine ⟨?_,?_,?_,?_,?_,trivial⟩
  all_goals intro activates
  all_goals cases activates
  intro _ _ _
  rfl

end StartedDaemon

end RobotControlRuntime
