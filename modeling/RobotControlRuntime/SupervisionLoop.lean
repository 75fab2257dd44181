import RobotControlRuntime.NodeLiveness

namespace RobotControlRuntime
open StepHistory

-- Where the periodic thread is inside on_tick: at the head of the drain loop with
-- the budget it has left, or past the loop with the unused part of it.
inductive TickStage where
  | outside
  | draining (nowNs : Int) (budget : Nat)
  | closing (nowNs : Int) (left : Nat)
  deriving DecidableEq, Repr

-- The supervisor with the runtime it drives and the queue it drains. The queue has
-- its own lock, so a push can fall between any two pops of one tick.
structure Supervision where
  runtime : LinuxRuntime
  supervisor : NodeSupervisor
  queue : BoundedInputQueue
  stage : TickStage := .outside
  deriving DecidableEq

inductive SupervisionAction where
  | push (event : RuntimeInputEvent)
  | begin (nowNs : Int)
  | pop
  | finish
  | acknowledgeFaultClear (fault : FaultCode)
  | clearRestartLatch
  -- Any entry of the runtime, from whatever thread.
  | call (call : RuntimeCall)

namespace Supervision

def launched (runtime : RuntimeConfig) (supervisor : NodeSupervisorConfig) (capacity : Nat) : Supervision where
  runtime := .construct runtime
  supervisor := .construct supervisor
  queue := .construct capacity

-- One atomic part of on_tick, or one entry from outside: the next state with the
-- runtime calls the supervisor makes, which are still to be applied.
def transition (s : Supervision) : SupervisionAction → Option (Supervision × List RuntimeCall)
  | .push event => some ({s with queue := (s.queue.tryPush event).1},[])
  | .begin nowNs =>
    if s.stage = .outside then
      let (supervisor,calls) := s.supervisor.afterOverflow s.queue
      some ({s with supervisor := supervisor,stage := .draining nowNs s.supervisor.config.maxEventsPerTick},calls)
    else none
  | .pop =>
    match s.stage with
    | .draining nowNs 0 => some ({s with stage := .closing nowNs 0},[])
    | .draining nowNs (budget + 1) =>
      match s.queue.tryPop with
      | (queue,none) => some ({s with queue := queue,stage := .closing nowNs (budget + 1)},[])
      | (queue,some event) =>
        let (supervisor,calls) := s.supervisor.applyEvent event nowNs
        some ({s with supervisor := supervisor,queue := queue,stage := .draining nowNs budget},calls)
    | _ => none
  | .finish =>
    match s.stage with
    | .closing nowNs left =>
      let (supervisor,calls) := (s.supervisor.noteBudget left).applyCommLoss nowNs
      some ({s with supervisor := supervisor,stage := .outside},calls)
    | _ => none
  | .acknowledgeFaultClear fault =>
    some ({s with supervisor := (s.supervisor.acknowledgeFaultClear s.queue fault).1},[])
  | .clearRestartLatch => some ({s with supervisor := {s.supervisor with restartLatched := false}},[])
  | .call call => some ({s with runtime := s.runtime.apply call},[])

def driven (next : Supervision) (calls : List RuntimeCall) : Supervision :=
  {next with runtime := calls.foldl LinuxRuntime.apply next.runtime}

def step (s : Supervision) (action : SupervisionAction) : Option Supervision :=
  (s.transition action).map fun (next,calls) => next.driven calls

def calls (s : Supervision) (action : SupervisionAction) : List RuntimeCall :=
  match s.transition action with
  | some (_,calls) => calls
  | none => []

def handles (s : Supervision) : SupervisionAction → Option RuntimeInputEvent
  | .pop =>
    match s.stage with
    | .draining _ (_ + 1) => s.queue.tryPop.2
    | _ => none
  | _ => none

abbrev SupervisionMoment := Moment Supervision SupervisionAction

variable {s next : Supervision} {action : SupervisionAction}

inductive Transitions (s : Supervision) :
    SupervisionAction → Option RuntimeInputEvent → Supervision → List RuntimeCall → Prop where
  | pushed : Transitions s (.push event) none {s with queue := (s.queue.tryPush event).1} []
  | began (outside : s.stage = .outside) :
      Transitions s (.begin nowNs) none {s with
        supervisor := (s.supervisor.afterOverflow s.queue).1
        stage := .draining nowNs s.supervisor.config.maxEventsPerTick} (s.supervisor.afterOverflow s.queue).2
  | spent (stage : s.stage = .draining nowNs 0) : Transitions s .pop none {s with stage := .closing nowNs 0} []
  | emptied (stage : s.stage = .draining nowNs (budget + 1)) (empty : s.queue.events = []) :
      Transitions s .pop none {s with stage := .closing nowNs (budget + 1)} []
  | handled (stage : s.stage = .draining nowNs (budget + 1)) (oldest : s.queue.events = event :: rest.events)
      (same : rest.capacity = s.queue.capacity) (latch : rest.overflowLatched = s.queue.overflowLatched) :
      Transitions s .pop (some event) {s with
        supervisor := (s.supervisor.applyEvent event nowNs).1
        queue := rest
        stage := .draining nowNs budget} (s.supervisor.applyEvent event nowNs).2
  | finished (stage : s.stage = .closing nowNs left) :
      Transitions s .finish none {s with
        supervisor := ((s.supervisor.noteBudget left).applyCommLoss nowNs).1
        stage := .outside} ((s.supervisor.noteBudget left).applyCommLoss nowNs).2
  | acknowledged : Transitions s (.acknowledgeFaultClear fault) none
      {s with supervisor := (s.supervisor.acknowledgeFaultClear s.queue fault).1} []
  | unlatched : Transitions s .clearRestartLatch none {s with supervisor := {s.supervisor with restartLatched := false}} []
  | called : Transitions s (.call call) none {s with runtime := s.runtime.apply call} []

theorem pop_transitions (taken : s.transition .pop = some (next,made)) :
    Transitions s .pop (s.handles .pop) next made := by
  simp only [transition] at taken
  simp only [handles]
  cases stage : s.stage with
  | outside => simp only [stage] at taken; cases taken
  | closing nowNs left => simp only [stage] at taken; cases taken
  | draining nowNs budget =>
      cases budget with
      | zero =>
          simp only [stage] at taken
          cases taken
          exact .spent stage
      | succ budget =>
          simp only [stage] at taken
          have pops := s.queue.pop_exact
          generalize s.queue.tryPop = popped at pops taken
          obtain ⟨queue,event⟩ := popped
          cases pops with
          | empty none =>
              cases taken
              exact .emptied stage none
          | oldest split same latch =>
              cases taken
              exact .handled stage split same latch

theorem transition_exact (taken : s.transition action = some (next,made)) :
    Transitions s action (s.handles action) next made := by
  cases action with
  | pop => exact pop_transitions taken
  | begin nowNs =>
      simp only [transition] at taken
      split at taken
      · rename_i outside
        cases taken
        exact .began outside
      · cases taken
  | finish =>
      simp only [transition] at taken
      split at taken
      · rename_i nowNs left stage
        cases taken
        exact .finished stage
      · cases taken
  | push event => cases taken; exact .pushed
  | acknowledgeFaultClear fault => cases taken; exact .acknowledged
  | clearRestartLatch => cases taken; exact .unlatched
  | call call => cases taken; exact .called

theorem step_exact (taken : s.step action = some next) :
    ∃ handled middle made, s.handles action = handled ∧ s.calls action = made ∧
      Transitions s action handled middle made ∧ next = middle.driven made := by
  unfold step at taken
  cases moved : s.transition action with
  | none => rw [moved] at taken; cases taken
  | some result =>
      obtain ⟨middle,made⟩ := result
      have same : s.calls action = made := by simp only [calls,moved]
      rw [moved] at taken
      cases taken
      exact ⟨_,middle,made,rfl,same,transition_exact moved,rfl⟩

@[simp] theorem driven_supervisor (next : Supervision) (made : List RuntimeCall) :
    (next.driven made).supervisor = next.supervisor := rfl
@[simp] theorem driven_queue (next : Supervision) (made : List RuntimeCall) : (next.driven made).queue = next.queue := rfl
@[simp] theorem driven_stage (next : Supervision) (made : List RuntimeCall) : (next.driven made).stage = next.stage := rfl
@[simp] theorem driven_runtime (next : Supervision) (made : List RuntimeCall) :
    (next.driven made).runtime = made.foldl LinuxRuntime.apply next.runtime := rfl

theorem transition_drives (moves : Transitions s action handled next made) :
    ∀ call ∈ made, NodeSupervisor.drives call = true := by
  cases moves with
  | began _ => exact s.supervisor.overflow_drives s.queue
  | handled _ _ _ _ => exact s.supervisor.event_drives _ _
  | finished _ => exact NodeSupervisor.loss_drives _ _
  | pushed | spent | emptied | acknowledged | unlatched | called => exact fun _ listed => absurd listed List.not_mem_nil

theorem drives_closing {made : List RuntimeCall} (drives : ∀ call ∈ made, NodeSupervisor.drives call = true)
    (runtime : LinuxRuntime) (active : (made.foldl LinuxRuntime.apply runtime).mode = .active) :
    runtime.mode = .active := by
  refine LinuxRuntime.fold_active made (fun listed => ?_) active
  cases drives _ listed

theorem step_composite (composite : LinuxRuntime.CompositeInvariant s.runtime) (taken : s.step action = some next) :
    LinuxRuntime.CompositeInvariant next.runtime := by
  obtain ⟨_,middle,made,_,_,moves,rfl⟩ := step_exact taken
  refine LinuxRuntime.fold_composite _ ?_
  cases moves with
  | called => exact LinuxRuntime.apply_composite composite _
  | pushed | began | spent | emptied | handled | finished | acknowledged | unlatched => exact composite

theorem drain_uninterrupted (budget : Nat) (stage : s.stage = .draining nowNs budget) :
    ∃ history, Reached step s history {s with
      runtime := (s.supervisor.drain s.queue nowNs budget).calls.foldl LinuxRuntime.apply s.runtime
      supervisor := (s.supervisor.drain s.queue nowNs budget).supervisor
      queue := (s.supervisor.drain s.queue nowNs budget).queue
      stage := .closing nowNs (s.supervisor.drain s.queue nowNs budget).budget} := by
  induction budget generalizing s with
  | zero =>
      have left : s.step .pop = some {s with stage := .closing nowNs 0} := by
        simp only [step,transition,stage]
        rfl
      exact ⟨_,.step .start left⟩
  | succ budget ih =>
      simp only [NodeSupervisor.drain]
      cases popped : s.queue.tryPop with
      | mk queue event =>
          cases event with
          | none =>
              have left : s.step .pop = some {s with queue := queue,stage := .closing nowNs (budget + 1)} := by
                simp only [step,transition,stage,popped]
                rfl
              exact ⟨_,.step .start left⟩
          | some event =>
              have handled : s.step .pop = some {s with
                  runtime := (s.supervisor.applyEvent event nowNs).2.foldl LinuxRuntime.apply s.runtime
                  supervisor := (s.supervisor.applyEvent event nowNs).1
                  queue := queue
                  stage := .draining nowNs budget} := by
                simp only [step,transition,stage,popped]
                rfl
              obtain ⟨history,rest⟩ := ih (s := {s with
                runtime := (s.supervisor.applyEvent event nowNs).2.foldl LinuxRuntime.apply s.runtime
                supervisor := (s.supervisor.applyEvent event nowNs).1
                queue := queue
                stage := .draining nowNs budget}) rfl
              exact ⟨_,(Reached.step .start handled).trans (by simpa using rest)⟩

theorem tick_uninterrupted (s : Supervision) (outside : s.stage = .outside) (nowNs : Int) :
    ∃ history, Reached step s history {s with
      runtime := (s.supervisor.onTick s.queue nowNs).2.2.foldl LinuxRuntime.apply s.runtime
      supervisor := (s.supervisor.onTick s.queue nowNs).1
      queue := (s.supervisor.onTick s.queue nowNs).2.1} := by
  have began : s.step (.begin nowNs) = some {s with
      runtime := (s.supervisor.afterOverflow s.queue).2.foldl LinuxRuntime.apply s.runtime
      supervisor := (s.supervisor.afterOverflow s.queue).1
      stage := .draining nowNs s.supervisor.config.maxEventsPerTick} := by
    simp only [step,transition,if_pos outside]
    rfl
  obtain ⟨history,drained⟩ := drain_uninterrupted (s := {s with
      runtime := (s.supervisor.afterOverflow s.queue).2.foldl LinuxRuntime.apply s.runtime
      supervisor := (s.supervisor.afterOverflow s.queue).1
      stage := .draining nowNs s.supervisor.config.maxEventsPerTick}) s.supervisor.config.maxEventsPerTick rfl
  have path := (Reached.step .start began).trans drained
  refine ⟨_,Reached.step path (?_ : step _ .finish = _)⟩
  simp only [step,transition,NodeSupervisor.onTick,NodeSupervisor.overflow_config,List.foldl_append,outside]
  rfl

end Supervision

end RobotControlRuntime
