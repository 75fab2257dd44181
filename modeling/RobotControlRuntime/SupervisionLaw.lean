import RobotControlRuntime.SupervisionLoop

namespace RobotControlRuntime
open StepHistory

namespace NodeSupervisor

-- Events of the supervised node; node 0 stands for one that names none.
def addressed (s : NodeSupervisor) (event : RuntimeInputEvent) : Bool :=
  event.nodeId == 0 || event.nodeId == s.config.nodeId

def identity (s : NodeSupervisor) : Option (UInt16 × UInt16) :=
  if s.everSeen then some (s.bootId,s.sessionId) else none

def restarts (s : NodeSupervisor) (event : RuntimeInputEvent) : Bool :=
  s.addressed event &&
    match s.identity,event.kind with
    | some (bootId,sessionId),.heartbeat => event.bootId != bootId || event.sessionId != sessionId
    | some (_,sessionId),.nodeStatus => event.sessionId != 0 && event.sessionId != sessionId
    | _,_ => false

theorem addressed_exact (s : NodeSupervisor) (event : RuntimeInputEvent) :
    s.addressed event = false ↔ event.nodeId ≠ 0 ∧ event.nodeId ≠ s.config.nodeId := by
  simp [addressed]

inductive Notes (s : NodeSupervisor) (event : RuntimeInputEvent) : NodeSupervisor × List RuntimeCall → Prop where
  | restart (noted : s.restarts event = true) (latched : next.restartLatched = true) :
      Notes s event (next,.raiseFault .nodeFault :: rest)
  | nothing (quiet : s.restarts event = false) (same : next.restartLatched = s.restartLatched) :
      Notes s event (next,calls)

theorem restart_exact (s : NodeSupervisor) (event : RuntimeInputEvent) (nowNs : Int) :
    Notes s event (s.applyEvent event nowNs) := by
  cases own : s.addressed event with
  | false =>
      rw [event_foreign s nowNs ((s.addressed_exact event).mp own)]
      exact .nothing (by simp [restarts,own]) rfl
  | true =>
      have observes := s.event_exact event nowNs
      generalize s.applyEvent event nowNs = outcome at observes ⊢
      cases observes with
      | foreign other => cases own.symm.trans ((s.addressed_exact event).mpr other)
      | rebooted kind seen changed => exact .restart (by simpa [restarts,own,identity,seen,kind] using changed) rfl
      | rebound kind seen changed => exact .restart (by simpa [restarts,own,identity,seen,kind] using changed) rfl
      | alive kind known =>
          refine .nothing ?_ rfl
          cases seen : s.everSeen with
          | false => simp [restarts,identity,seen]
          | true => simp [restarts,identity,seen,kind,known seen]
      | reported kind known =>
          refine .nothing ?_ rfl
          cases seen : s.everSeen with
          | false => simp [restarts,identity,seen]
          | true =>
              rcases known seen with zero | same
              · simp [restarts,identity,seen,kind,zero]
              · simp [restarts,identity,seen,kind,same]
      | answered kind | refused kind | broken kind =>
          refine .nothing ?_ rfl
          cases seen : s.everSeen <;> simp [restarts,identity,seen,kind]

theorem event_seen (s : NodeSupervisor) (event : RuntimeInputEvent) (nowNs : Int) :
    (s.applyEvent event nowNs).1.everSeen = true ↔
      s.everSeen = true ∨ (s.addressed event = true ∧ event.kind = .heartbeat) := by
  cases own : s.addressed event with
  | false =>
      rw [event_foreign s nowNs ((s.addressed_exact event).mp own)]
      simp
  | true =>
      have observes := s.event_exact event nowNs
      generalize s.applyEvent event nowNs = outcome at observes ⊢
      cases observes with
      | foreign other => cases own.symm.trans ((s.addressed_exact event).mpr other)
      | rebooted kind seen _ => simp [kind,seen]
      | rebound kind seen _ => simp [kind,seen]
      | alive kind _ => simp [kind]
      | reported kind _ | answered kind | refused kind | broken kind => simp [kind]

def raisesCommLoss : RuntimeCall → Bool
  | .raiseFault .commLoss => true
  | _ => false

theorem status_lossless (event : RuntimeInputEvent) : (statusCalls event).countP raisesCommLoss = 0 := by
  unfold statusCalls
  split <;> rfl

theorem event_lossless (s : NodeSupervisor) (event : RuntimeInputEvent) (nowNs : Int) :
    (s.applyEvent event nowNs).2.countP raisesCommLoss = 0 := by
  have observes := s.event_exact event nowNs
  generalize s.applyEvent event nowNs = outcome at observes ⊢
  cases observes with
  | foreign | rebooted | alive | answered | refused | broken => rfl
  | reported => exact status_lossless event
  | rebound => exact status_lossless event

theorem overflow_lossless (s : NodeSupervisor) (queue : BoundedInputQueue) :
    (s.afterOverflow queue).2.countP raisesCommLoss = 0 := by
  unfold afterOverflow applyOverflowFault
  split
  · split <;> rfl
  · rfl

theorem loss_once (live : Live s) (nowNs : Int) :
    (s.applyCommLoss nowNs).2.countP raisesCommLoss =
      if s.online = true ∧ (s.applyCommLoss nowNs).1.online = false then 1 else 0 := by
  have loses := s.loss_exact nowNs
  generalize (s.applyCommLoss nowNs).1 = next at loses
  generalize (s.applyCommLoss nowNs).2 = calls at loses
  cases loses with
  | kept _ =>
      rw [if_neg (fun both => by cases both.1.symm.trans both.2)]
      rfl
  | latched online _ already => cases already.symm.trans (live.mp online).2
  | lost online _ =>
      rw [if_pos ⟨online,rfl⟩]
      rfl

theorem loss_fresh (live : Live s) (positive : 0 < s.config.heartbeatTimeoutNs) (nowNs : Int)
    (online : (s.applyCommLoss nowNs).1.online = true) :
    nowNs - (s.applyCommLoss nowNs).1.lastHeartbeatNs < s.config.heartbeatTimeoutNs := by
  have loses := s.loss_exact nowNs
  generalize (s.applyCommLoss nowNs).1 = next at loses online
  generalize (s.applyCommLoss nowNs).2 = calls at loses
  cases loses with
  | kept fresh => exact fresh online (live.mp online).1 positive
  | latched _ _ _ => cases online
  | lost _ _ => cases online

structure SameNode (s next : NodeSupervisor) : Prop where
  config : next.config = s.config
  everSeen : next.everSeen = s.everSeen
  identity : next.identity = s.identity

theorem overflow_same (s : NodeSupervisor) (queue : BoundedInputQueue) : SameNode s (s.afterOverflow queue).1 := by
  rw [overflow_frame]
  exact ⟨rfl,rfl,rfl⟩

theorem loss_same (s : NodeSupervisor) (nowNs : Int) : SameNode s (s.applyCommLoss nowNs).1 := by
  have loses := s.loss_exact nowNs
  generalize (s.applyCommLoss nowNs).1 = next at loses
  generalize (s.applyCommLoss nowNs).2 = calls at loses
  cases loses <;> exact ⟨rfl,rfl,rfl⟩

theorem acknowledge_same (s : NodeSupervisor) (queue : BoundedInputQueue) (fault : FaultCode) :
    SameNode s (s.acknowledgeFaultClear queue fault).1 := by
  have acknowledges := s.acknowledge_exact queue fault
  generalize s.acknowledgeFaultClear queue fault = answer at acknowledges
  obtain ⟨next,result⟩ := answer
  cases acknowledges <;> exact ⟨rfl,rfl,rfl⟩

theorem acknowledge_live (live : Live s) (queue : BoundedInputQueue) (fault : FaultCode) :
    Live (s.acknowledgeFaultClear queue fault).1 := by
  have acknowledges := s.acknowledge_exact queue fault
  generalize s.acknowledgeFaultClear queue fault = answer at acknowledges
  obtain ⟨next,result⟩ := answer
  cases acknowledges <;> exact live

end NodeSupervisor

namespace Supervision
open NodeSupervisor

variable {s next : Supervision} {action : SupervisionAction}
variable {runtime : RuntimeConfig} {config : NodeSupervisorConfig} {capacity : Nat}

theorem transition_same (moves : Transitions s action none next made) : SameNode s.supervisor next.supervisor := by
  cases moves with
  | began _ => exact s.supervisor.overflow_same s.queue
  | @finished nowNs left _ =>
      have same := (s.supervisor.noteBudget left).loss_same nowNs
      exact ⟨same.config,same.everSeen,same.identity⟩
  | acknowledged => exact s.supervisor.acknowledge_same s.queue _
  | pushed | spent | emptied | unlatched | called => exact ⟨rfl,rfl,rfl⟩

theorem transition_live (live : Live s.supervisor) (moves : Transitions s action handled next made) :
    Live next.supervisor := by
  cases moves with
  | began _ =>
      dsimp only
      rw [overflow_frame]
      exact live
  | handled _ _ _ _ => exact event_live live _ _
  | @finished nowNs left _ => exact loss_live (s := s.supervisor.noteBudget left) live nowNs
  | acknowledged => exact acknowledge_live live s.queue _
  | pushed | spent | emptied | unlatched | called => exact live

def HeartbeatHandled (m : SupervisionMoment) : Prop :=
  ∃ event ∈ m.before.handles m.action, m.before.supervisor.addressed event = true ∧ event.kind = .heartbeat

instance : DecidablePred HeartbeatHandled := fun _ => inferInstanceAs (Decidable (∃ _ ∈ _,_))

def HeartbeatSeen (history : List SupervisionMoment) : Prop := ∃ m ∈ history, HeartbeatHandled m

instance : DecidablePred HeartbeatSeen := fun _ => inferInstanceAs (Decidable (∃ _ ∈ _,_))

structure Shut (r : LinuxRuntime) : Prop where
  mode : r.mode ≠ .active
  mailbox : r.mailbox.slot = none
  session : r.activeSessionId = none
  sequence : r.lastOutputSequence = 0
  ack : r.outputAckPending = false

structure SupervisorLaw (m : SupervisionMoment) (past : List SupervisionMoment) : Prop where
  online : m.after.supervisor.online = true ↔
    HeartbeatSeen (m :: past) ∧ m.after.supervisor.commLossLatched = false
  fresh : ∀ nowNs left, m.before.stage = .closing nowNs left → m.action = .finish → m.after.supervisor.online = true →
    nowNs - m.after.supervisor.lastHeartbeatNs < m.after.supervisor.config.heartbeatTimeoutNs
  lossOnce : (m.before.calls m.action).countP raisesCommLoss =
    if m.before.supervisor.online = true ∧ m.after.supervisor.online = false then 1 else 0
  restart : ∀ event, m.before.handles m.action = some event → m.before.supervisor.restarts event = true →
    Shut m.after.runtime

structure LoopInvariant (config : NodeSupervisorConfig) (past : List SupervisionMoment) (s : Supervision) : Prop where
  composite : LinuxRuntime.CompositeInvariant s.runtime
  live : s.supervisor.Live
  config : s.supervisor.config = config
  seen : s.supervisor.everSeen = true ↔ HeartbeatSeen past

theorem launched_invariant (runtime : RuntimeConfig) (config : NodeSupervisorConfig) (capacity : Nat) :
    LoopInvariant config [] (launched runtime config capacity) := by
  refine ⟨LinuxRuntime.construct_composite runtime,?_,rfl,?_⟩
  · simp [Live,launched,construct]
  · simp [HeartbeatSeen,launched,construct]

theorem seen_quiet (quiet : s.handles action = none) :
    HeartbeatSeen (⟨s,action,next⟩ :: past) ↔ HeartbeatSeen past := by
  simp [HeartbeatSeen,HeartbeatHandled,quiet]

theorem seen_handled (took : s.handles action = some event) :
    HeartbeatSeen (⟨s,action,next⟩ :: past) ↔
      HeartbeatSeen past ∨ (s.supervisor.addressed event = true ∧ event.kind = .heartbeat) := by
  simp [HeartbeatSeen,HeartbeatHandled,took,or_comm]

theorem loop_preserved (invariant : LoopInvariant config past s) (taken : s.step action = some next) :
    LoopInvariant config (⟨s,action,next⟩ :: past) next := by
  have composite := step_composite invariant.composite taken
  obtain ⟨handled,middle,made,took,_,moves,rfl⟩ := step_exact taken
  have live := transition_live invariant.live moves
  cases handled with
  | none =>
      have same := transition_same moves
      refine ⟨composite,live,same.config.trans invariant.config,?_⟩
      rw [seen_quiet took,← invariant.seen,driven_supervisor,same.everSeen]
  | some event =>
      refine ⟨composite,live,?_,?_⟩
      · cases moves
        exact (event_config _ _ _).trans invariant.config
      · rw [seen_handled took,← invariant.seen]
        cases moves
        exact event_seen _ _ _

theorem transition_once (live : Live s.supervisor) (moves : Transitions s action handled next made) :
    made.countP raisesCommLoss = if s.supervisor.online = true ∧ next.supervisor.online = false then 1 else 0 := by
  cases moves with
  | began _ =>
      rw [overflow_lossless,overflow_frame,if_neg (fun both => by cases both.1.symm.trans both.2)]
  | handled _ _ _ _ =>
      rw [event_lossless,if_neg]
      rintro ⟨online,offline⟩
      cases (event_online _ _ _ online).symm.trans offline
  | @finished nowNs left _ => exact loss_once (s := s.supervisor.noteBudget left) live nowNs
  | acknowledged =>
      have acknowledges := s.supervisor.acknowledge_exact s.queue ‹FaultCode›
      generalize s.supervisor.acknowledgeFaultClear s.queue ‹FaultCode› = answer at acknowledges
      obtain ⟨after,result⟩ := answer
      rw [if_neg]
      · rfl
      · cases acknowledges <;> exact fun both => by cases both.1.symm.trans both.2
  | pushed | spent | emptied | unlatched | called =>
      rw [if_neg (fun both => by cases both.1.symm.trans both.2)]
      rfl

theorem composite_shut (composite : LinuxRuntime.CompositeInvariant r) (inactive : r.mode ≠ .active) : Shut r := by
  obtain ⟨mailbox,session,sequence,ack,_⟩ := composite.closed inactive
  exact ⟨inactive,mailbox,session,sequence,ack⟩

theorem restart_shut (composite : LinuxRuntime.CompositeInvariant s.runtime) (taken : s.step action = some next)
    (took : s.handles action = some event) (noted : s.supervisor.restarts event = true) : Shut next.runtime := by
  refine composite_shut (step_composite composite taken) fun active => ?_
  obtain ⟨handled,middle,made,same,_,moves,rfl⟩ := step_exact taken
  cases took.symm.trans same
  have drives := transition_drives moves
  cases moves with
  | handled _ _ _ _ =>
      have notes := s.supervisor.restart_exact event ‹Int›
      generalize s.supervisor.applyEvent event ‹Int› = outcome at notes drives active
      cases notes with
      | nothing quiet _ => cases noted.symm.trans quiet
      | restart _ _ =>
          -- The fault is raised first; what the status adds cannot reopen the runtime.
          have later := drives_closing (fun call listed => drives call (List.mem_cons_of_mem _ listed)) _ active
          exact LinuxRuntime.raise_shut s.runtime .nodeFault (by decide) later

theorem supervisor_law (positive : 0 < config.heartbeatTimeoutNs)
    (path : Reached step (launched runtime config capacity) history s) : Throughout SupervisorLaw history := by
  refine throughout_invariant (LoopInvariant config) (launched_invariant runtime config capacity)
    (fun _ _ _ _ invariant taken => loop_preserved invariant taken) ?_ path
  intro past s action next invariant taken
  have after := loop_preserved invariant taken
  refine ⟨?_,?_,?_,?_⟩
  · exact after.live.trans (and_congr_left' after.seen)
  · rintro nowNs left stage rfl online
    obtain ⟨_,middle,made,_,_,moves,rfl⟩ := step_exact taken
    cases moves with
    | finished closing =>
        cases stage.symm.trans closing
        rw [after.config]
        have fresh := loss_fresh (s := s.supervisor.noteBudget left) invariant.live
          (invariant.config ▸ positive) nowNs online
        exact invariant.config ▸ fresh
  · obtain ⟨_,middle,made,_,rfl,moves,rfl⟩ := step_exact taken
    have once := transition_once invariant.live moves
    exact once
  · intro event took noted
    exact restart_shut invariant.composite taken took noted

def readyNode : RuntimeInputEvent := {kind := .nodeStatus,nodeId := 1,sessionId := 1,interlockReady := true}

def heartbeat (bootId sessionId : UInt16) (monotonicNs : Int) : RuntimeInputEvent :=
  {kind := .heartbeat,nodeId := 1,bootId := bootId,sessionId := sessionId,monotonicNs := monotonicNs}

def rebootedThenSilent : List SupervisionAction :=
  [.call (.start (.ok ())),.call (.handle .boot),.push (heartbeat 1 1 5),.push readyNode,
    .begin 10,.pop,.pop,.pop,.finish,.call (.handle .activateRequest),
    .push (heartbeat 2 2 15),.begin 20,.pop,.pop,.finish,
    .begin 300000015,.pop,.finish]

theorem supervisor_law_rebootedThenSilent :
    ∃ history s, Reached step (launched {} {} 4) history s ∧ s.supervisor.restartLatched = true ∧
      s.supervisor.online = false ∧ s.runtime.mode = .fault ∧ Throughout SupervisorLaw history := by
  have path : Reached step (launched {} {} 4) _ _ := replay_reached rebootedThenSilent .start rfl
  exact ⟨_,_,path,rfl,rfl,rfl,supervisor_law (by decide) path⟩

end Supervision

end RobotControlRuntime
