import RobotControlRuntime.SupervisionLoop

namespace RobotControlRuntime.Supervision
open StepHistory

variable {s next : Supervision} {action : SupervisionAction}
variable {runtime : RuntimeConfig} {config : NodeSupervisorConfig} {capacity : Nat}

def accepts (s : Supervision) : SupervisionAction → Option RuntimeInputEvent
  | .push event => if (s.queue.tryPush event).2 then some event else none
  | _ => none

def acceptedEvents (history : List SupervisionMoment) : List RuntimeInputEvent :=
  history.reverse.filterMap fun m => m.before.accepts m.action

def handledEvents (history : List SupervisionMoment) : List RuntimeInputEvent :=
  history.reverse.filterMap fun m => m.before.handles m.action

def Refused (m : SupervisionMoment) : Prop :=
  ∃ event, m.action = .push event ∧ (m.before.queue.tryPush event).2 = false

def Refusal (past : List SupervisionMoment) : Prop := ∃ m ∈ past, Refused m

def Begins (m : SupervisionMoment) : Prop := ∃ nowNs, m.action = .begin nowNs

def NoTickSinceRefusal : List SupervisionMoment → Prop := Throughout fun m past => Begins m → ¬ Refusal past

def FirstTickAfterRefusal : List SupervisionMoment → Prop :=
  Since (fun m => ¬ Begins m) fun m past => Begins m ∧ Refusal past ∧ NoTickSinceRefusal past

-- The entries an application has. The consumer side of the mailbox and the
-- scheduler's own callbacks are other threads of the daemon.
def application : SupervisionAction → Bool
  | .acknowledgeFaultClear _ | .clearRestartLatch => true
  | .call (.start _) | .call .stop | .call (.handle _) | .call (.raiseFault _) | .call (.setInterlockReady _)
  | .call (.publishOutputCommand _ _) => true
  | _ => false

def AtomicTick (m : SupervisionMoment) : Prop := application m.action = true → m.before.stage = .outside

instance : DecidablePred AtomicTick := fun _ => inferInstanceAs (Decidable (_ → _))

theorem accepted_cons (m : SupervisionMoment) (past : List SupervisionMoment) :
    acceptedEvents (m :: past) = acceptedEvents past ++ (m.before.accepts m.action).toList := by
  simp [acceptedEvents,List.filterMap_append,List.filterMap_cons]
  cases m.before.accepts m.action <;> rfl

theorem handled_cons (m : SupervisionMoment) (past : List SupervisionMoment) :
    handledEvents (m :: past) = handledEvents past ++ (m.before.handles m.action).toList := by
  simp [handledEvents,List.filterMap_append,List.filterMap_cons]
  cases m.before.handles m.action <;> rfl

theorem refusal_cons (m : SupervisionMoment) (past : List SupervisionMoment) :
    Refusal (m :: past) ↔ Refused m ∨ Refusal past := by
  simp [Refusal]

structure DeliveryInvariant (capacity : Nat) (past : List SupervisionMoment) (s : Supervision) : Prop where
  delivered : acceptedEvents past = handledEvents past ++ s.queue.events
  capacity : s.queue.capacity = capacity
  latched : s.queue.overflowLatched = true ↔ Refusal past
  -- The supervisor takes the latch over at the start of a tick only.
  noted : s.supervisor.overflowFaultLatched = true → ¬ NoTickSinceRefusal past
  shut : s.stage ≠ .outside → FirstTickAfterRefusal past → s.runtime.mode ≠ .active

theorem launched_delivery (sized : 0 < capacity) : DeliveryInvariant capacity [] (launched runtime config capacity) := by
  have size : (launched runtime config capacity).queue.capacity = capacity := by
    simp [launched,BoundedInputQueue.construct,BoundedInputQueue.capacity,BoundedRing.capacity,BoundedRing.empty]
    omega
  refine ⟨rfl,size,?_,?_,?_⟩
  · simp [launched,BoundedInputQueue.construct,Refusal]
  · intro noted; cases noted
  · exact fun mid => absurd rfl mid

structure QueueStep (s : Supervision) (action : SupervisionAction) (handled : Option RuntimeInputEvent)
    (next : Supervision) : Prop where
  events : s.queue.events ++ (s.accepts action).toList = handled.toList ++ next.queue.events
  capacity : next.queue.capacity = s.queue.capacity
  latched : next.queue.overflowLatched = true ↔ Refused ⟨s,action,next⟩ ∨ s.queue.overflowLatched = true

theorem untouched_queue (other : ∀ event, action ≠ .push event) (events : s.queue.events = handled.toList ++ next.queue.events)
    (capacity : next.queue.capacity = s.queue.capacity) (latch : next.queue.overflowLatched = s.queue.overflowLatched) :
    QueueStep s action handled next := by
  have none : s.accepts action = none := by
    cases action with
    | push event => exact absurd rfl (other event)
    | _ => rfl
  refine ⟨by simpa [none] using events,capacity,?_⟩
  rw [latch]
  exact ⟨.inr,fun either => either.elim (fun ⟨event,pushed,_⟩ => absurd pushed (other event)) id⟩

theorem pushed_queue (s : Supervision) (event : RuntimeInputEvent) :
    QueueStep s (.push event) none {s with queue := (s.queue.tryPush event).1} := by
  have pushes := s.queue.push_exact event
  generalize pushed : s.queue.tryPush event = outcome at pushes ⊢
  obtain ⟨queue,taken⟩ := outcome
  cases pushes with
  | queued appended same latch =>
      refine ⟨?_,same,?_⟩
      · simpa [accepts,pushed] using appended.symm
      · simpa [Refused,pushed] using iff_of_eq (congrArg (· = true) latch)
  | refused _ kept same latch =>
      refine ⟨?_,same,?_⟩
      · simpa [accepts,pushed] using kept.symm
      · simpa [Refused,pushed] using latch

theorem transition_queue (moves : Transitions s action handled next made) : QueueStep s action handled next := by
  cases moves with
  | pushed => exact pushed_queue s _
  | handled _ oldest same latch => exact untouched_queue (fun _ => nofun) oldest same latch
  | began | spent | emptied | finished | acknowledged | unlatched | called =>
      exact untouched_queue (fun _ => nofun) rfl rfl rfl

theorem transition_noted (moves : Transitions s action handled next made)
    (noted : next.supervisor.overflowFaultLatched = true) :
    s.supervisor.overflowFaultLatched = true ∨ ((∃ nowNs, action = .begin nowNs) ∧ s.queue.overflowLatched = true) := by
  cases moves with
  | @began nowNs _ =>
      cases latched : s.queue.overflowLatched with
      | true => exact .inr ⟨⟨nowNs,rfl⟩,rfl⟩
      | false =>
          simp only [NodeSupervisor.afterOverflow,latched,Bool.false_eq_true,if_false] at noted
          exact .inl noted
  | @handled nowNs _ event _ _ _ _ _ =>
      have observes := s.supervisor.event_exact event nowNs
      generalize s.supervisor.applyEvent event nowNs = outcome at observes noted
      cases observes <;> exact .inl noted
  | @finished nowNs left _ =>
      have loses := (s.supervisor.noteBudget left).loss_exact nowNs
      generalize ((s.supervisor.noteBudget left).applyCommLoss nowNs).1 = after at loses noted
      generalize ((s.supervisor.noteBudget left).applyCommLoss nowNs).2 = made at loses
      cases loses <;> exact .inl noted
  | @acknowledged fault =>
      have acknowledges := s.supervisor.acknowledge_exact s.queue fault
      generalize s.supervisor.acknowledgeFaultClear s.queue fault = answer at acknowledges noted
      obtain ⟨after,result⟩ := answer
      cases acknowledges <;> exact .inl noted
  | pushed | spent | emptied | unlatched | called => exact .inl noted

theorem begun_shut (unnoted : s.supervisor.overflowFaultLatched = false) (latched : s.queue.overflowLatched = true)
    (taken : s.step (.begin nowNs) = some next) : next.runtime.mode ≠ .active := by
  obtain ⟨_,middle,made,_,_,moves,rfl⟩ := step_exact taken
  cases moves with
  | began _ =>
      have raised : (s.supervisor.afterOverflow s.queue).2 = [.raiseFault .internal] := by
        simp [NodeSupervisor.afterOverflow,NodeSupervisor.applyOverflowFault,latched,unnoted]
      rw [driven_runtime,raised]
      exact LinuxRuntime.raise_shut s.runtime .internal (by decide)

theorem other_stage (moves : Transitions s action handled next made) (other : ∀ nowNs, action ≠ .begin nowNs)
    (mid : next.stage ≠ .outside) : s.stage ≠ .outside := by
  cases moves with
  | began _ => exact absurd rfl (other _)
  | spent stage | emptied stage _ | handled stage _ _ _ => exact fun outside => by cases outside.symm.trans stage
  | finished _ => exact absurd rfl mid
  | pushed | acknowledged | unlatched | called => exact mid

theorem mid_shut (shut : s.runtime.mode ≠ .active) (mid : s.stage ≠ .outside) (taken : s.step action = some next)
    (atomic : AtomicTick ⟨s,action,next⟩) : next.runtime.mode ≠ .active := by
  intro active
  obtain ⟨_,middle,made,_,_,moves,rfl⟩ := step_exact taken
  have before := drives_closing (transition_drives moves) middle.runtime active
  cases moves with
  | @called call =>
      refine shut (LinuxRuntime.fold_active [call] ?_ before)
      intro listed
      cases List.mem_singleton.mp listed
      exact mid (atomic rfl)
  | pushed | began | spent | emptied | handled | finished | acknowledged | unlatched => exact shut before

theorem shut_preserved (invariant : DeliveryInvariant capacity past s) (taken : s.step action = some next)
    (atomic : AtomicTick ⟨s,action,next⟩) (mid : next.stage ≠ .outside)
    (first : FirstTickAfterRefusal (⟨s,action,next⟩ :: past)) : next.runtime.mode ≠ .active := by
  rcases first with ⟨⟨nowNs,begun⟩,refusal,earlier⟩ | ⟨other,first⟩
  · cases begun
    have unnoted : s.supervisor.overflowFaultLatched = false := by
      cases noted : s.supervisor.overflowFaultLatched with
      | false => rfl
      | true => exact absurd earlier (invariant.noted noted)
    exact begun_shut unnoted (invariant.latched.mpr refusal) taken
  · have inside : s.stage ≠ .outside := by
      obtain ⟨_,middle,made,_,_,moves,rfl⟩ := step_exact taken
      exact other_stage moves (fun nowNs begun => other ⟨nowNs,begun⟩) mid
    exact mid_shut (invariant.shut inside first) inside taken atomic

theorem delivery_preserved (invariant : DeliveryInvariant capacity past s) (taken : s.step action = some next)
    (atomic : AtomicTick ⟨s,action,next⟩) : DeliveryInvariant capacity (⟨s,action,next⟩ :: past) next := by
  have shut := shut_preserved invariant taken atomic
  obtain ⟨handled,middle,made,took,_,moves,rfl⟩ := step_exact taken
  have queue := transition_queue moves
  refine ⟨?_,queue.capacity.trans invariant.capacity,?_,?_,shut⟩
  · rw [accepted_cons,handled_cons,invariant.delivered,List.append_assoc,List.append_assoc,took]
    exact congrArg _ queue.events
  · rw [refusal_cons,← invariant.latched]
    exact queue.latched
  · intro noted none
    rcases transition_noted moves noted with earlier | ⟨begun,latched⟩
    · exact invariant.noted earlier none.2
    · exact none.1 begun (invariant.latched.mp latched)

theorem refused_blocks (latched : s.queue.overflowLatched = true) (fault : FaultCode) :
    (s.supervisor.acknowledgeFaultClear s.queue fault).2 ≠ .ok () := by
  have acknowledges := s.supervisor.acknowledge_exact s.queue fault
  generalize s.supervisor.acknowledgeFaultClear s.queue fault = answer at acknowledges
  obtain ⟨after,result⟩ := answer
  cases acknowledges with
  | granted free _ => simp [NodeSupervisor.blocked,latched] at free
  | refused _ =>
      intro granted
      cases granted

-- The handled events are the accepted ones up to what is still queued, and after a
-- refusal the next tick leaves the runtime closed with the recovery blocked for good.
theorem no_event_lost (sized : 0 < capacity) (path : Reached step (launched runtime config capacity) history s)
    (atomic : Throughout (fun m _ => AtomicTick m) history) :
    (∃ unhandled, acceptedEvents history = handledEvents history ++ unhandled ∧ unhandled.length ≤ capacity) ∧
    Throughout (fun m past => m.action = .finish → FirstTickAfterRefusal past → m.after.runtime.mode ≠ .active) history ∧
    (Refusal history → ∀ fault, (s.supervisor.acknowledgeFaultClear s.queue fault).2 ≠ .ok ()) := by
  have invariant : DeliveryInvariant capacity history s :=
    reached_under (DeliveryInvariant capacity) (launched_delivery sized)
      (fun _ _ _ _ invariant taken met => delivery_preserved invariant taken met) path atomic
  refine ⟨⟨s.queue.events,invariant.delivered,invariant.capacity ▸ s.queue.events_fit⟩,?_,?_⟩
  · refine throughout_under (DeliveryInvariant capacity) (launched_delivery sized)
      (fun _ _ _ _ invariant taken met => delivery_preserved invariant taken met) ?_ path atomic
    rintro past s _ next invariant taken met rfl first
    have inside : s.stage ≠ .outside := by
      obtain ⟨_,middle,made,_,_,moves,_⟩ := step_exact taken
      cases moves with
      | finished stage => exact fun outside => by cases outside.symm.trans stage
    exact mid_shut (invariant.shut inside first) inside taken met
  · intro refusal fault
    exact refused_blocks (invariant.latched.mpr refusal) fault

def overflowing : List SupervisionAction :=
  [.call (.start (.ok ())),.call (.handle .boot),.call (.setInterlockReady true),.call (.handle .activateRequest),
    .push {nodeId := 1,bootId := 1,sessionId := 1},.push {nodeId := 1,bootId := 1,sessionId := 1,hbSeq := 1},
    .begin 10,.pop,.push {nodeId := 1,bootId := 1,sessionId := 1,hbSeq := 2},.pop,.pop,.finish]

theorem no_event_lost_overflowing :
    ∃ history s, Reached step (launched {} {} 1) history s ∧ Refusal history ∧ (handledEvents history).length = 2 ∧
      (∃ unhandled, acceptedEvents history = handledEvents history ++ unhandled ∧ unhandled.length ≤ 1) ∧
      Throughout (fun m past => m.action = .finish → FirstTickAfterRefusal past → m.after.runtime.mode ≠ .active)
        history ∧
      (Refusal history → ∀ fault, (s.supervisor.acknowledgeFaultClear s.queue fault).2 ≠ .ok ()) := by
  have path : Reached step (launched {} {} 1) _ _ := replay_reached overflowing .start rfl
  refine ⟨_,_,path,?_,rfl,no_event_lost (by decide) path (by decide)⟩
  exact ⟨_,.tail _ (.tail _ (.tail _ (.tail _ (.tail _ (.tail _ (.head _)))))),_,rfl,rfl⟩

end RobotControlRuntime.Supervision
