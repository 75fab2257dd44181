import RobotControlRuntime.LinuxRuntime
import RobotControlRuntime.RuntimeEvents

namespace RobotControlRuntime

structure NodeSupervisorConfig where
  nodeId : UInt8 := 1
  heartbeatTimeoutNs : Int := 300000000
  maxEventsPerTick : Nat := 32
  deriving DecidableEq, Repr

structure NodeSupervisor where
  config : NodeSupervisorConfig
  everSeen : Bool := false
  online : Bool := false
  restartLatched : Bool := false
  overflowFaultLatched : Bool := false
  commLossLatched : Bool := false
  bootId : UInt16 := 0
  sessionId : UInt16 := 0
  lastHbSeq : UInt16 := 0
  nodeFaultCode : UInt16 := 0
  inputBits : UInt16 := 0
  lastOutputMirror : UInt8 := 0
  lastHeartbeatNs : Int := 0
  heartbeats : UInt64 := 0
  statusUpdates : UInt64 := 0
  protocolRejects : UInt64 := 0
  eventsProcessed : UInt64 := 0
  eventsBudgetLeft : Nat := 0
  deriving DecidableEq, Repr

namespace NodeSupervisor

def construct (config : NodeSupervisorConfig) : NodeSupervisor := {config := config}

def recoverable : FaultCode → Bool
  | .unlisted _ => false
  | _ => true

def acknowledgeFaultClear (s : NodeSupervisor) (queue : BoundedInputQueue) (fault : FaultCode) :
    NodeSupervisor × Result Unit :=
  if s.overflowFaultLatched || queue.overflowLatched then
    (s,.error ⟨.rejected,"event queue overflow requires daemon restart"⟩)
  else if s.commLossLatched then (s,.error ⟨.rejected,"heartbeat has not recovered"⟩)
  else if (s.everSeen || s.statusUpdates != 0 || s.restartLatched) && !s.online then
    (s,.error ⟨.rejected,"node is not online"⟩)
  else if s.nodeFaultCode ≠ 0 then (s,.error ⟨.rejected,"node still reports a fault"⟩)
  else if !recoverable fault then (s,.error ⟨.rejected,"unknown fault recovery state"⟩)
  else ({s with restartLatched := false},.ok ())

-- The supervisor never reads the runtime it drives, so what it does to it is the
-- list of calls it makes, in order.
def applyOverflowFault (s : NodeSupervisor) : NodeSupervisor × List RuntimeCall :=
  if s.overflowFaultLatched then (s,[])
  else ({s with overflowFaultLatched := true},[.raiseFault .internal])

def applyCommLoss (s : NodeSupervisor) (nowNs : Int) : NodeSupervisor × List RuntimeCall :=
  if !s.everSeen || !s.online then (s,[])
  else if s.config.heartbeatTimeoutNs ≤ 0 then (s,[])
  else if nowNs - s.lastHeartbeatNs < s.config.heartbeatTimeoutNs then (s,[])
  else if s.commLossLatched then ({s with online := false},[])
  else ({s with online := false,commLossLatched := true},[.raiseFault .commLoss])

def noteNodeRestart (s : NodeSupervisor) (bootId sessionId : UInt16) : NodeSupervisor × List RuntimeCall :=
  ({s with
    bootId := bootId
    sessionId := sessionId
    restartLatched := true
    online := true
    commLossLatched := false},[.raiseFault .nodeFault])

-- The receive time of an event, or the tick's own time when it carries none.
def stamp (event : RuntimeInputEvent) (nowNs : Int) : Int :=
  if event.monotonicNs ≠ 0 then event.monotonicNs else nowNs

def applyHeartbeat (s : NodeSupervisor) (event : RuntimeInputEvent) (nowNs : Int) :
    NodeSupervisor × List RuntimeCall :=
  let s := {s with heartbeats := s.heartbeats + 1}
  if s.everSeen && (event.bootId != s.bootId || event.sessionId != s.sessionId) then
    let (s,calls) := s.noteNodeRestart event.bootId event.sessionId
    ({s with lastHeartbeatNs := stamp event nowNs,lastHbSeq := event.hbSeq},calls)
  else
    ({s with
      everSeen := true
      online := true
      bootId := event.bootId
      sessionId := event.sessionId
      lastHbSeq := event.hbSeq
      lastHeartbeatNs := stamp event nowNs
      commLossLatched := false},[])

def applyNodeStatus (s : NodeSupervisor) (event : RuntimeInputEvent) : NodeSupervisor × List RuntimeCall :=
  let s := {s with
    statusUpdates := s.statusUpdates + 1
    nodeFaultCode := event.nodeFaultCode
    inputBits := event.inputBits}
  let (s,restart) :=
    if s.everSeen && event.sessionId != 0 && event.sessionId != s.sessionId then
      s.noteNodeRestart s.bootId event.sessionId
    else (s,[])
  (s,restart ++ .setInterlockReady event.interlockReady ::
    if event.nodeFaultCode ≠ 0 then [.raiseFault .nodeFault] else [])

def applyEvent (s : NodeSupervisor) (event : RuntimeInputEvent) (nowNs : Int) :
    NodeSupervisor × List RuntimeCall :=
  let s := {s with eventsProcessed := s.eventsProcessed + 1}
  if event.nodeId ≠ 0 ∧ event.nodeId ≠ s.config.nodeId then (s,[])
  else match event.kind with
    | .heartbeat => s.applyHeartbeat event nowNs
    | .nodeStatus => s.applyNodeStatus event
    | .outputStatus =>
      ({s with lastOutputMirror := event.outputMirror},
        [.observeOutputStatus event.sessionId event.outputSequence event.outputResult (stamp event nowNs)])
    | .protocolReject => ({s with protocolRejects := s.protocolRejects + 1},[])
    | .ioError => (s,[.raiseFault .internal])

-- The drain loop: what it leaves of the supervisor and the queue, the calls it
-- made, and the unused part of the budget.
structure Drained where
  supervisor : NodeSupervisor
  queue : BoundedInputQueue
  calls : List RuntimeCall
  budget : Nat

def drain (s : NodeSupervisor) (queue : BoundedInputQueue) (nowNs : Int) : Nat → Drained
  | 0 => ⟨s,queue,[],0⟩
  | budget + 1 =>
    match queue.tryPop with
    | (queue,none) => ⟨s,queue,[],budget + 1⟩
    | (queue,some event) =>
      let (s,calls) := s.applyEvent event nowNs
      let rest := drain s queue nowNs budget
      {rest with calls := calls ++ rest.calls}

def noteBudget (s : NodeSupervisor) (left : Nat) : NodeSupervisor := {s with eventsBudgetLeft := left}

def afterOverflow (s : NodeSupervisor) (queue : BoundedInputQueue) : NodeSupervisor × List RuntimeCall :=
  if queue.overflowLatched then s.applyOverflowFault else (s,[])

def onTick (s : NodeSupervisor) (queue : BoundedInputQueue) (nowNs : Int) :
    NodeSupervisor × BoundedInputQueue × List RuntimeCall :=
  let (s,overflow) := s.afterOverflow queue
  let drained := s.drain queue nowNs s.config.maxEventsPerTick
  let (s,loss) := (drained.supervisor.noteBudget drained.budget).applyCommLoss nowNs
  (s,drained.queue,overflow ++ drained.calls ++ loss)

def blocked (s : NodeSupervisor) (queue : BoundedInputQueue) : Bool :=
  s.overflowFaultLatched || queue.overflowLatched || s.commLossLatched ||
    ((s.everSeen || s.statusUpdates != 0 || s.restartLatched) && !s.online) || s.nodeFaultCode != 0

inductive Acknowledges (s : NodeSupervisor) (queue : BoundedInputQueue) (fault : FaultCode) :
    NodeSupervisor → Result Unit → Prop where
  | granted (free : s.blocked queue = false) (known : recoverable fault = true) :
      Acknowledges s queue fault {s with restartLatched := false} (.ok ())
  | refused (stuck : s.blocked queue = true ∨ recoverable fault = false) :
      Acknowledges s queue fault s (.error ⟨.rejected,message⟩)

theorem acknowledge_exact (s : NodeSupervisor) (queue : BoundedInputQueue) (fault : FaultCode) :
    Acknowledges s queue fault (s.acknowledgeFaultClear queue fault).1 (s.acknowledgeFaultClear queue fault).2 := by
  unfold acknowledgeFaultClear
  split
  · rename_i overflow
    exact .refused (.inl (by simp only [blocked,overflow,Bool.true_or]))
  · rename_i overflow
    split
    · rename_i loss
      exact .refused (.inl (by simp [blocked,loss]))
    · rename_i loss
      split
      · rename_i offline
        exact .refused (.inl (by simp only [blocked,offline,Bool.or_true,Bool.true_or]))
      · rename_i offline
        split
        · rename_i fault
          exact .refused (.inl (by simp [blocked,fault]))
        · rename_i fault
          split
          · rename_i unknown
            exact .refused (.inr (by simpa using unknown))
          · rename_i known
            refine .granted ?_ (by simpa using known)
            simp only [blocked,eq_false_of_ne_true overflow,eq_false_of_ne_true loss,
              eq_false_of_ne_true offline,Decidable.not_not.mp fault]
            rfl

def applyEvents (s : NodeSupervisor) (nowNs : Int) : List RuntimeInputEvent → NodeSupervisor × List RuntimeCall
  | [] => (s,[])
  | event :: rest =>
    let (s,calls) := s.applyEvent event nowNs
    let (s,more) := s.applyEvents nowNs rest
    (s,calls ++ more)

structure DrainsTo (s : NodeSupervisor) (queue : BoundedInputQueue) (nowNs : Int) (budget : Nat) (drained : Drained) :
    Prop where
  supervisor : drained.supervisor = (s.applyEvents nowNs (queue.events.take budget)).1
  calls : drained.calls = (s.applyEvents nowNs (queue.events.take budget)).2
  events : drained.queue.events = queue.events.drop budget
  capacity : drained.queue.capacity = queue.capacity
  latch : drained.queue.overflowLatched = queue.overflowLatched

theorem drain_exact (s : NodeSupervisor) (queue : BoundedInputQueue) (nowNs : Int) (budget : Nat) :
    DrainsTo s queue nowNs budget (s.drain queue nowNs budget) := by
  induction budget generalizing s queue with
  | zero => exact ⟨rfl,rfl,rfl,rfl,rfl⟩
  | succ budget ih =>
      have pops := queue.pop_exact
      simp only [drain]
      generalize queue.tryPop = popped at pops
      obtain ⟨next,event⟩ := popped
      cases pops with
      | empty none => exact ⟨by rw [none]; rfl,by rw [none]; rfl,by simp [none],rfl,rfl⟩
      | @oldest event _ split same latch =>
          have rest := ih (s.applyEvent event nowNs).1 next
          constructor
          · rw [split]; exact rest.supervisor
          · rw [split]
            simp only [List.take_succ_cons,applyEvents,rest.calls]
          · rw [split]; exact rest.events
          · exact rest.capacity.trans same
          · exact rest.latch.trans latch

-- One tick without its queue: a latched overflow first, then the events it
-- takes, then the heartbeat deadline.
def settled (s : NodeSupervisor) (queue : BoundedInputQueue) (nowNs : Int) : NodeSupervisor × List RuntimeCall :=
  (s.afterOverflow queue).1.applyEvents nowNs (queue.events.take s.config.maxEventsPerTick)

structure Supervises (s : NodeSupervisor) (queue : BoundedInputQueue) (nowNs : Int) (left : Nat)
    (result : NodeSupervisor × BoundedInputQueue × List RuntimeCall) : Prop where
  supervisor : result.1 = (((s.settled queue nowNs).1.noteBudget left).applyCommLoss nowNs).1
  calls : result.2.2 = (s.afterOverflow queue).2 ++ (s.settled queue nowNs).2 ++
    (((s.settled queue nowNs).1.noteBudget left).applyCommLoss nowNs).2
  events : result.2.1.events = queue.events.drop s.config.maxEventsPerTick
  capacity : result.2.1.capacity = queue.capacity
  latch : result.2.1.overflowLatched = queue.overflowLatched

@[simp] theorem overflow_config (s : NodeSupervisor) (queue : BoundedInputQueue) :
    (s.afterOverflow queue).1.config = s.config := by
  unfold afterOverflow applyOverflowFault
  grind

theorem tick_exact (s : NodeSupervisor) (queue : BoundedInputQueue) (nowNs : Int) :
    ∃ left, Supervises s queue nowNs left (s.onTick queue nowNs) := by
  have drains := drain_exact (s.afterOverflow queue).1 queue nowNs s.config.maxEventsPerTick
  simp only [onTick,overflow_config]
  refine ⟨((s.afterOverflow queue).1.drain queue nowNs s.config.maxEventsPerTick).budget,?_,?_,
    drains.events,drains.capacity,drains.latch⟩
  · rw [settled,← drains.supervisor]
  · rw [settled,← drains.supervisor,← drains.calls]

def drives : RuntimeCall → Bool
  | .raiseFault code => code != .none && recoverable code
  | .setInterlockReady _ => true
  | .observeOutputStatus _ _ _ _ => true
  | _ => false

def statusCalls (event : RuntimeInputEvent) : List RuntimeCall :=
  .setInterlockReady event.interlockReady :: if event.nodeFaultCode ≠ 0 then [.raiseFault .nodeFault] else []

-- What one event can do. An identity other than the known one, in a heartbeat or
-- in a status, is a restart.
inductive Observes (s : NodeSupervisor) (event : RuntimeInputEvent) (nowNs : Int) :
    NodeSupervisor × List RuntimeCall → Prop where
  | foreign (other : event.nodeId ≠ 0 ∧ event.nodeId ≠ s.config.nodeId) :
      Observes s event nowNs ({s with eventsProcessed := s.eventsProcessed + 1},[])
  | rebooted (kind : event.kind = .heartbeat) (seen : s.everSeen = true)
      (changed : event.bootId ≠ s.bootId ∨ event.sessionId ≠ s.sessionId) :
      Observes s event nowNs ({s with
        eventsProcessed := s.eventsProcessed + 1
        heartbeats := s.heartbeats + 1
        bootId := event.bootId
        sessionId := event.sessionId
        restartLatched := true
        online := true
        commLossLatched := false
        lastHeartbeatNs := stamp event nowNs
        lastHbSeq := event.hbSeq},[.raiseFault .nodeFault])
  | alive (kind : event.kind = .heartbeat)
      (known : s.everSeen = true → event.bootId = s.bootId ∧ event.sessionId = s.sessionId) :
      Observes s event nowNs ({s with
        eventsProcessed := s.eventsProcessed + 1
        heartbeats := s.heartbeats + 1
        everSeen := true
        online := true
        bootId := event.bootId
        sessionId := event.sessionId
        lastHbSeq := event.hbSeq
        lastHeartbeatNs := stamp event nowNs
        commLossLatched := false},[])
  | rebound (kind : event.kind = .nodeStatus) (seen : s.everSeen = true)
      (changed : event.sessionId ≠ 0 ∧ event.sessionId ≠ s.sessionId) :
      Observes s event nowNs ({s with
        eventsProcessed := s.eventsProcessed + 1
        statusUpdates := s.statusUpdates + 1
        nodeFaultCode := event.nodeFaultCode
        inputBits := event.inputBits
        sessionId := event.sessionId
        restartLatched := true
        online := true
        commLossLatched := false},.raiseFault .nodeFault :: statusCalls event)
  | reported (kind : event.kind = .nodeStatus)
      (known : s.everSeen = true → event.sessionId = 0 ∨ event.sessionId = s.sessionId) :
      Observes s event nowNs ({s with
        eventsProcessed := s.eventsProcessed + 1
        statusUpdates := s.statusUpdates + 1
        nodeFaultCode := event.nodeFaultCode
        inputBits := event.inputBits},statusCalls event)
  | answered (kind : event.kind = .outputStatus) :
      Observes s event nowNs ({s with
        eventsProcessed := s.eventsProcessed + 1
        lastOutputMirror := event.outputMirror},
        [.observeOutputStatus event.sessionId event.outputSequence event.outputResult (stamp event nowNs)])
  | refused (kind : event.kind = .protocolReject) :
      Observes s event nowNs ({s with
        eventsProcessed := s.eventsProcessed + 1
        protocolRejects := s.protocolRejects + 1},[])
  | broken (kind : event.kind = .ioError) :
      Observes s event nowNs ({s with eventsProcessed := s.eventsProcessed + 1},[.raiseFault .internal])

theorem event_exact (s : NodeSupervisor) (event : RuntimeInputEvent) (nowNs : Int) :
    Observes s event nowNs (s.applyEvent event nowNs) := by
  unfold applyEvent
  dsimp only
  split
  · rename_i other
    exact .foreign other
  · split
    · rename_i kind
      unfold applyHeartbeat
      dsimp only
      split
      · rename_i changed
        simp only [Bool.and_eq_true,Bool.or_eq_true,bne_iff_ne] at changed
        exact .rebooted kind changed.1 changed.2
      · rename_i same
        refine .alive kind fun seen => ?_
        simpa [seen] using same
    · rename_i kind
      unfold applyNodeStatus
      dsimp only
      by_cases changed : (s.everSeen && event.sessionId != 0 && event.sessionId != s.sessionId) = true
      · rw [if_pos changed]
        simp only [Bool.and_eq_true,bne_iff_ne] at changed
        exact .rebound kind changed.1.1 ⟨changed.1.2,changed.2⟩
      · rw [if_neg changed]
        refine .reported kind fun seen => ?_
        simpa [seen,Decidable.or_iff_not_imp_left] using changed
    · exact .answered (by assumption)
    · exact .refused (by assumption)
    · exact .broken (by assumption)

theorem event_foreign (s : NodeSupervisor) (nowNs : Int) (other : event.nodeId ≠ 0 ∧ event.nodeId ≠ s.config.nodeId) :
    s.applyEvent event nowNs = ({s with eventsProcessed := s.eventsProcessed + 1},[]) := if_pos other

theorem status_drives (event : RuntimeInputEvent) : ∀ call ∈ statusCalls event, drives call = true := by
  intro call listed
  rcases List.mem_cons.mp listed with rfl | fault
  · rfl
  · split at fault
    · rw [List.mem_singleton.mp fault]
      rfl
    · cases fault

theorem event_drives (s : NodeSupervisor) (event : RuntimeInputEvent) (nowNs : Int) :
    ∀ call ∈ (s.applyEvent event nowNs).2, drives call = true := by
  have observes := s.event_exact event nowNs
  generalize s.applyEvent event nowNs = outcome at observes ⊢
  intro call listed
  cases observes with
  | foreign | alive | refused => cases listed
  | rebooted | answered | broken =>
      rw [List.mem_singleton.mp listed]
      rfl
  | rebound =>
      rcases List.mem_cons.mp listed with rfl | reported
      · rfl
      · exact status_drives event call reported
  | reported => exact status_drives event call listed

theorem events_drive (s : NodeSupervisor) (nowNs : Int) (events : List RuntimeInputEvent) :
    ∀ call ∈ (s.applyEvents nowNs events).2, drives call = true := by
  induction events generalizing s with
  | nil => intro call listed; cases listed
  | cons event rest ih =>
      intro call listed
      rcases List.mem_append.mp listed with here | later
      · exact s.event_drives event nowNs call here
      · exact ih _ call later

theorem loss_drives (s : NodeSupervisor) (nowNs : Int) : ∀ call ∈ (s.applyCommLoss nowNs).2, drives call = true := by
  unfold applyCommLoss
  grind [drives,recoverable]

theorem overflow_drives (s : NodeSupervisor) (queue : BoundedInputQueue) :
    ∀ call ∈ (s.afterOverflow queue).2, drives call = true := by
  unfold afterOverflow applyOverflowFault
  grind [drives,recoverable]

theorem tick_drives (s : NodeSupervisor) (queue : BoundedInputQueue) (nowNs : Int) :
    ∀ call ∈ (s.onTick queue nowNs).2.2, drives call = true := by
  obtain ⟨_,supervises⟩ := tick_exact s queue nowNs
  intro call listed
  rw [supervises.calls,List.append_assoc] at listed
  rcases List.mem_append.mp listed with early | listed
  · exact s.overflow_drives queue call early
  · rcases List.mem_append.mp listed with event | late
    · exact events_drive _ nowNs _ call event
    · exact loss_drives _ nowNs call late

end NodeSupervisor

end RobotControlRuntime
