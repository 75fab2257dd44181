import RobotControlRuntime.CanIoLoop

-- The thread of the I/O loop from one wait to the next, between the other threads:
-- what it reads from the bus and what it puts in the queue.
namespace RobotControlRuntime
open StepHistory

structure Ready where
  stop : Bool
  signal : Bool
  can : Bool
  canError : Bool
  deriving DecidableEq, Repr

-- Where thread_main stands, with handle_can_ready inside it. The steps of
-- pump_output are those of the I/O system.
inductive ThreadPoint where
  | check | wait
  | stopEvent (ready : Ready) | signal (ready : Ready) | can (ready : Ready)
  | look (budget : Nat) | read (budget : Nat)
  | pumpCheck | pump
  | teardown | exited
  deriving DecidableEq, Repr

inductive RequestPoint where
  | idle | stored | swapped
  deriving DecidableEq, Repr

structure IoThread where
  system : IoSystem
  maxFramesPerWake : Nat := 32
  point : ThreadPoint := .check
  request : RequestPoint := .idle
  stopSignalled : Bool := false
  signalPending : Bool := false
  incoming : List CanFrame := []
  framesReceived : UInt64 := 0
  decodeRejects : UInt64 := 0
  wakeups : UInt64 := 0

structure ThreadInputs where
  waitFailed : Bool := false
  canError : Bool := false
  receiveFailed : Bool := false
  now : Result Int := .ok 0
  sent : SendOutcome := .sent

inductive ThreadAction where
  | main (inputs : ThreadInputs)
  | call (call : RuntimeCall)
  | popEvent
  | requestStop
  | raiseSignal
  | arrive (frame : CanFrame)

def clockOrZero : Result Int → Int
  | .ok nowNs => nowNs
  | .error _ => 0

-- The event a decoded frame asks for. The runtime does not take its own command.
def messageEvent (nowNs : Int) : CanV1.DecodedMessage → Option RuntimeInputEvent
  | .heartbeat message =>
    some {kind := .heartbeat
          monotonicNs := nowNs
          nodeId := message.nodeId
          bootId := message.bootId
          sessionId := message.sessionId
          hbSeq := message.hbSeq}
  | .status message =>
    some {kind := .nodeStatus
          monotonicNs := nowNs
          nodeId := message.nodeId
          sessionId := message.sessionId
          interlockReady := message.interlockReady
          inputBits := message.inputBits
          nodeFaultCode := message.faultCode}
  | .outputStatus message =>
    some {kind := .outputStatus
          monotonicNs := nowNs
          nodeId := message.nodeId
          sessionId := message.sessionId
          outputResult := message.result
          outputSequence := message.sequence
          outputMirror := message.outputMirror}
  | .outputCommand _ => none

def frameEvent (nodeId : UInt8) (frame : CanFrame) (nowNs : Int) : Option RuntimeInputEvent :=
  match CanV1.decode frame with
  | .error _ => some {kind := .protocolReject,nodeId := nodeId,monotonicNs := nowNs}
  | .ok message => messageEvent nowNs message

namespace IoSystem

def offer (s : IoSystem) (event : RuntimeInputEvent) : IoSystem :=
  let (queue,queued) := s.queue.tryPush event
  {s with
    queue := queue
    io := {s.io with queueRejects := if queued then s.io.queueRejects else s.io.queueRejects + 1}}

def pumpEvent (s : IoSystem) (inputs : ThreadInputs) : Option RuntimeInputEvent :=
  match s.stage with
  | .approved =>
    match s.io.pendingOutput,inputs.now with
    | some command,.ok nowNs =>
      let rejected := some {kind := .protocolReject,nodeId := s.io.nodeId,monotonicNs := nowNs}
      match toWireCommand command s.io.nodeId nowNs with
      | .error _ => rejected
      | .ok wire =>
        match CanV1.encodeOutputCommand wire with
        | .error _ => rejected
        | .ok _ => none
    | _,_ => none
  | .encoded _ _ nowNs =>
    if inputs.sent = .failed then some {kind := .ioError,nodeId := s.io.nodeId,monotonicNs := nowNs} else none
  | .sent wire nowNs =>
    match (s.runtime.noteOutputCommandSent wire.sessionId wire.sequence nowNs).2 with
    | .error _ => some {kind := .ioError,nodeId := s.io.nodeId,monotonicNs := nowNs}
    | .ok _ => none
  | _ => none

def pumpAction (s : IoSystem) (inputs : ThreadInputs) : IoAction :=
  match s.stage with
  | .idle => .tryConsume inputs.now
  | .consumed => .sendable inputs.now
  | .approved => .encode inputs.now
  | .encoded _ _ _ => .send inputs.sent
  | .sent _ _ => .note

structure Offers (event : Option RuntimeInputEvent) (s next : IoSystem) : Prop where
  queue : next.queue = match event with
    | none => s.queue
    | some event => (s.queue.tryPush event).1
  rejects : next.io.queueRejects = match event with
    | none => s.io.queueRejects
    | some event => if (s.queue.tryPush event).2 then s.io.queueRejects else s.io.queueRejects + 1
  nodeId : next.io.nodeId = s.io.nodeId

theorem Offers.refl (s : IoSystem) : Offers none s s := ⟨rfl,rfl,rfl⟩

theorem pump_offers (taken : s.step (s.pumpAction inputs) = some next) : Offers (s.pumpEvent inputs) s next := by
  unfold pumpAction at taken
  unfold pumpEvent
  cases stage : s.stage with
  | idle =>
      simp only [stage,step] at taken
      split at taken
      · cases taken
        exact ⟨rfl,rfl,rfl⟩
      · cases taken
  | consumed =>
      simp only [stage,step] at taken
      split at taken
      · rename_i command _ _
        cases taken
        simp only [sendable]
        cases s.runtime.outputCommandSendable command inputs.now <;> exact ⟨rfl,rfl,rfl⟩
      · cases taken
  | approved =>
      simp only [stage,step] at taken
      split at taken
      · rename_i command _ held
        cases taken
        dsimp only
        rw [held]
        cases now : inputs.now with
        | error _ => exact ⟨rfl,rfl,rfl⟩
        | ok nowNs =>
            simp only [encode]
            cases toWireCommand command s.io.nodeId nowNs with
            | error _ => exact ⟨rfl,rfl,rfl⟩
            | ok wire => cases framed : CanV1.encodeOutputCommand wire <;> simp only [framed] <;> exact ⟨rfl,rfl,rfl⟩
      · cases taken
  | encoded wire frame nowNs =>
      simp only [stage,step] at taken
      cases taken
      cases outcome : inputs.sent <;> exact ⟨rfl,rfl,rfl⟩
  | sent wire nowNs =>
      simp only [stage,step] at taken
      cases taken
      simp only [note]
      obtain ⟨runtime,noted⟩ := s.runtime.noteOutputCommandSent wire.sessionId wire.sequence nowNs
      cases noted <;> exact ⟨rfl,rfl,rfl⟩

end IoSystem

namespace IoThread

def requestStop (s : IoThread) : IoThread :=
  match s.request with
  | .idle => {s with system := {s.system with io := {s.system.io with stopRequested := true}},request := .stored}
  | .stored =>
    let reason := if s.system.io.stopReason = .none then .eventFd else s.system.io.stopReason
    {s with system := {s.system with io := {s.system.io with stopReason := reason}},request := .swapped}
  | .swapped => {s with stopSignalled := true,request := .idle}

def ready (s : IoThread) (canError : Bool) : Ready :=
  ⟨s.stopSignalled,s.signalPending,canError || !s.incoming.isEmpty,canError⟩

def handleStopEvent (s : IoThread) : IoThread := {s with system := s.system.stop .eventFd,stopSignalled := false}

def handleSignal (s : IoThread) : IoThread := {s with system := s.system.stop .signal,signalPending := false}

def decodeFrame (s : IoThread) (frame : CanFrame) (nowNs : Int) : IoThread :=
  match CanV1.decode frame with
  | .error _ =>
    {s with
      decodeRejects := s.decodeRejects + 1
      system := s.system.offer {kind := .protocolReject,nodeId := s.system.io.nodeId,monotonicNs := nowNs}}
  | .ok message =>
    match messageEvent nowNs message with
    | none => s
    | some event => {s with system := s.system.offer event}

def receive (s : IoThread) (budget : Nat) (inputs : ThreadInputs) : IoThread :=
  if inputs.receiveFailed then {s with system := s.system.stop (.canError inputs.now),point := .pumpCheck}
  else match s.incoming with
    | [] => {s with point := .pumpCheck}
    | frame :: rest =>
      {s with
        incoming := rest
        framesReceived := s.framesReceived + 1
        point := .look (budget - 1)}.decodeFrame frame (clockOrZero inputs.now)

def pumpStep (s : IoThread) (inputs : ThreadInputs) : Option IoThread :=
  match s.system.step (s.system.pumpAction inputs) with
  | none => none
  | some system =>
    some {s with system := system,point := if system.stage = .idle ∧ system.io.pumping = false then .check else .pump}

def mainStep (s : IoThread) (inputs : ThreadInputs) : Option IoThread :=
  match s.point with
  | .check => some {s with point := if s.system.io.stopRequested then .teardown else .wait}
  | .wait =>
    if inputs.waitFailed then
      some {s with system := {s.system with io := {s.system.io with stopReason := .ioError}},point := .teardown}
    else some {s with wakeups := s.wakeups + 1,point := .stopEvent (s.ready inputs.canError)}
  | .stopEvent ready => some {if ready.stop then s.handleStopEvent else s with point := .signal ready}
  | .signal ready => some {if ready.signal then s.handleSignal else s with point := .can ready}
  | .can ready =>
    if ready.canError then some {s with system := s.system.stop (.canError inputs.now),point := .pumpCheck}
    else some {s with point := if ready.can && !s.system.io.stopRequested then .look s.maxFramesPerWake else .pumpCheck}
  | .look budget => some {s with point := if 0 < budget ∧ s.system.io.stopRequested = false then .read budget else .pumpCheck}
  | .read budget => some (s.receive budget inputs)
  | .pumpCheck =>
    if s.system.io.stopRequested then some {s with point := .check}
    else some {s with system := {s.system with io := {s.system.io with pumping := true}},point := .pump}
  | .pump => s.pumpStep inputs
  | .teardown => some {s with system := s.system.exit false,point := .exited}
  | .exited => none

def step (s : IoThread) : ThreadAction → Option IoThread
  | .main inputs => s.mainStep inputs
  | .call call =>
    match s.system.step (.call call) with
    | none => none
    | some system => some {s with system := system}
  | .popEvent => some {s with system := {s.system with queue := s.system.queue.tryPop.1}}
  | .requestStop => some s.requestStop
  | .raiseSignal => some {s with signalPending := true}
  | .arrive frame => some {s with incoming := s.incoming ++ [frame]}

def launched (runtime : LinuxRuntime) (capacity : Nat) (nodeId : UInt8) (maxFramesPerWake : Nat) : IoThread :=
  {system := .launched runtime (.construct capacity) nodeId,maxFramesPerWake := maxFramesPerWake}

abbrev ThreadMoment := Moment IoThread ThreadAction

def readsAt (s : IoThread) : ThreadAction → Option (CanFrame × Int)
  | .main inputs =>
    match s.point with
    | .read _ => if inputs.receiveFailed then none else s.incoming.head?.map fun frame => (frame,clockOrZero inputs.now)
    | _ => none
  | _ => none

def errorEvent (s : IoThread) (now : Result Int) : RuntimeInputEvent :=
  {kind := .ioError,nodeId := s.system.io.nodeId,monotonicNs := clockOrZero now}

def offersAt (s : IoThread) : ThreadAction → Option RuntimeInputEvent
  | .main inputs =>
    match s.point with
    | .can ready => if ready.canError then some (s.errorEvent inputs.now) else none
    | .read _ =>
      if inputs.receiveFailed then some (s.errorEvent inputs.now)
      else match s.incoming with
        | [] => none
        | frame :: _ => frameEvent s.system.io.nodeId frame (clockOrZero inputs.now)
    | .pump => s.system.pumpEvent inputs
    | _ => none
  | _ => none

def arrivesAt : ThreadAction → Option CanFrame
  | .arrive frame => some frame
  | _ => none

def popsAt (s : IoThread) : ThreadAction → Option RuntimeInputEvent
  | .popEvent => s.system.queue.tryPop.2
  | _ => none

def undecodable (frame : CanFrame) : Bool := (CanV1.decode frame).toOption.isNone

structure Effect (s : IoThread) (action : ThreadAction) (next : IoThread) : Prop where
  queue : action ≠ .popEvent → s.system.Offers (s.offersAt action) next.system
  popped : action = .popEvent → next.system = {s.system with queue := s.system.queue.tryPop.1}
  incoming : s.incoming ++ (arrivesAt action).toList = ((s.readsAt action).map Prod.fst).toList ++ next.incoming
  framesReceived : next.framesReceived = s.framesReceived + UInt64.ofNat (s.readsAt action).toList.length
  decodeRejects : next.decodeRejects = s.decodeRejects +
    UInt64.ofNat ((s.readsAt action).toList.countP fun read => undecodable read.1)

theorem effect_quiet {s next : IoThread} (offers : s.system.Offers (s.offersAt action) next.system) (other : action ≠ .popEvent)
    (none_read : s.readsAt action = none) (none_arrives : arrivesAt action = none) (incoming : next.incoming = s.incoming)
    (frames : next.framesReceived = s.framesReceived) (rejects : next.decodeRejects = s.decodeRejects) : Effect s action next := by
  refine ⟨fun _ => offers,fun popped => absurd popped other,?_,?_,?_⟩
  · simp [none_read,none_arrives,incoming]
  · simp [none_read,frames]
  · simp [none_read,rejects]

structure Decodes (s : IoThread) (frame : CanFrame) (nowNs : Int) (next : IoThread) : Prop where
  offers : s.system.Offers (frameEvent s.system.io.nodeId frame nowNs) next.system
  decodeRejects : next.decodeRejects = s.decodeRejects + if undecodable frame then 1 else 0
  rest : next = {s with system := next.system,decodeRejects := next.decodeRejects}

theorem decode_exact (s : IoThread) (frame : CanFrame) (nowNs : Int) : Decodes s frame nowNs (s.decodeFrame frame nowNs) := by
  unfold decodeFrame
  cases decoded : CanV1.decode frame with
  | error _ => exact ⟨by rw [frameEvent,decoded]; exact ⟨rfl,rfl,rfl⟩,by simp [undecodable,decoded,Except.toOption],rfl⟩
  | ok message =>
      have taken : undecodable frame = false := by simp [undecodable,decoded,Except.toOption]
      have event : frameEvent s.system.io.nodeId frame nowNs = messageEvent nowNs message := by rw [frameEvent,decoded]
      dsimp only
      cases told : messageEvent nowNs message <;>
        exact ⟨by rw [event,told]; exact ⟨rfl,rfl,rfl⟩,by rw [taken]; exact (UInt64.add_zero _).symm,rfl⟩

theorem read_effect (s : IoThread) (here : s.point = .read budget) (inputs : ThreadInputs) :
    Effect s (.main inputs) (s.receive budget inputs) := by
  unfold receive
  cases failed : inputs.receiveFailed with
  | true =>
      refine effect_quiet ?_ nofun (by simp [readsAt,here,failed]) rfl rfl rfl rfl
      simp only [offersAt,here,failed,if_true]
      exact ⟨rfl,rfl,rfl⟩
  | false =>
      cases waiting : s.incoming with
      | nil =>
          refine effect_quiet ?_ nofun (by simp [readsAt,here,waiting]) rfl (by simp [waiting]) rfl rfl
          simp only [offersAt,here,failed,waiting]
          exact .refl _
      | cons frame rest =>
          have reads : s.readsAt (.main inputs) = some (frame,clockOrZero inputs.now) := by simp [readsAt,here,failed,waiting]
          have offers : s.offersAt (.main inputs) = frameEvent s.system.io.nodeId frame (clockOrZero inputs.now) := by
            simp [offersAt,here,failed,waiting]
          have decodes := decode_exact
            {s with incoming := rest,framesReceived := s.framesReceived + 1,point := .look (budget - 1)} frame (clockOrZero inputs.now)
          simp only [Bool.false_eq_true,if_false]
          generalize decodeFrame _ _ _ = next at decodes
          refine ⟨fun _ => ?_,nofun,?_,?_,?_⟩
          · rw [offers]
            exact decodes.offers
          · rw [decodes.rest]
            simp [reads,waiting,arrivesAt]
          · rw [decodes.rest]
            simp [reads]
          · rw [decodes.decodeRejects,reads]
            cases lost : undecodable frame <;> simp [lost]

theorem main_effect (taken : s.mainStep inputs = some next) : Effect s (.main inputs) next := by
  have plain (point : s.point ≠ .pump) (unread : ∀ budget, s.point ≠ .read budget) (error : ∀ ready, s.point ≠ .can ready) :
      s.readsAt (.main inputs) = none ∧ s.offersAt (.main inputs) = none := by
    unfold readsAt offersAt
    cases here : s.point <;> simp_all
  unfold mainStep at taken
  cases here : s.point with
  | check | look _ =>
      obtain ⟨reads,offers⟩ := plain (by rw [here]; nofun) (by rw [here]; nofun) (by rw [here]; nofun)
      rw [here] at taken
      cases taken
      exact effect_quiet (by rw [offers]; exact .refl _) nofun reads rfl rfl rfl rfl
  | teardown =>
      obtain ⟨reads,offers⟩ := plain (by rw [here]; nofun) (by rw [here]; nofun) (by rw [here]; nofun)
      rw [here] at taken
      cases taken
      exact effect_quiet (by rw [offers]; exact ⟨rfl,rfl,rfl⟩) nofun reads rfl rfl rfl rfl
  | wait | pumpCheck =>
      obtain ⟨reads,offers⟩ := plain (by rw [here]; nofun) (by rw [here]; nofun) (by rw [here]; nofun)
      rw [here] at taken
      dsimp only at taken
      split at taken <;> cases taken <;>
        exact effect_quiet (by rw [offers]; exact ⟨rfl,rfl,rfl⟩) nofun reads rfl rfl rfl rfl
  | stopEvent ready =>
      obtain ⟨reads,offers⟩ := plain (by rw [here]; nofun) (by rw [here]; nofun) (by rw [here]; nofun)
      rw [here] at taken
      cases taken
      cases ready.stop <;> exact effect_quiet (by rw [offers]; exact ⟨rfl,rfl,rfl⟩) nofun reads rfl rfl rfl rfl
  | signal ready =>
      obtain ⟨reads,offers⟩ := plain (by rw [here]; nofun) (by rw [here]; nofun) (by rw [here]; nofun)
      rw [here] at taken
      cases taken
      cases ready.signal <;> exact effect_quiet (by rw [offers]; exact ⟨rfl,rfl,rfl⟩) nofun reads rfl rfl rfl rfl
  | can ready =>
      rw [here] at taken
      dsimp only at taken
      split at taken
      · rename_i failed
        cases taken
        refine effect_quiet ?_ nofun (by simp [readsAt,here]) rfl rfl rfl rfl
        simp only [offersAt,here,failed,if_true]
        exact ⟨rfl,rfl,rfl⟩
      · rename_i fine
        cases taken
        refine effect_quiet ?_ nofun (by simp [readsAt,here]) rfl rfl rfl rfl
        simp only [offersAt,here,if_neg fine]
        exact ⟨rfl,rfl,rfl⟩
  | read budget =>
      rw [here] at taken
      cases taken
      exact s.read_effect here inputs
  | pump =>
      rw [here] at taken
      simp only [pumpStep] at taken
      split at taken
      · cases taken
      · rename_i moved
        cases taken
        refine effect_quiet ?_ nofun (by simp [readsAt,here]) rfl rfl rfl rfl
        simp only [offersAt,here]
        exact IoSystem.pump_offers moved
  | exited =>
      rw [here] at taken
      cases taken

theorem step_effect (taken : s.step action = some next) : Effect s action next := by
  cases action with
  | main inputs => exact main_effect taken
  | call call =>
      simp only [step] at taken
      split at taken
      · cases taken
      · rename_i moved
        cases taken
        refine effect_quiet ?_ (by simp) rfl rfl rfl rfl rfl
        simp only [IoSystem.step] at moved
        split at moved <;> cases moved
        exact ⟨rfl,rfl,rfl⟩
  | popEvent =>
      cases taken
      exact ⟨fun other => absurd rfl other,fun _ => rfl,by simp [arrivesAt,readsAt],by simp [readsAt],by simp [readsAt]⟩
  | requestStop =>
      cases taken
      unfold requestStop
      cases s.request <;> exact effect_quiet ⟨rfl,rfl,rfl⟩ (by simp) rfl rfl rfl rfl rfl
  | raiseSignal =>
      cases taken
      exact effect_quiet ⟨rfl,rfl,rfl⟩ (by simp) rfl rfl rfl rfl rfl
  | arrive frame =>
      cases taken
      exact ⟨fun _ => ⟨rfl,rfl,rfl⟩,(by simp),by simp [arrivesAt,readsAt],by simp [readsAt],by simp [readsAt]⟩

-- The records of a run, oldest first.
section Records

def arrived : List ThreadMoment → List CanFrame
  | [] => []
  | m :: past => arrived past ++ (arrivesAt m.action).toList

def framesRead : List ThreadMoment → List (CanFrame × Int)
  | [] => []
  | m :: past => framesRead past ++ (m.before.readsAt m.action).toList

def popped : List ThreadMoment → List RuntimeInputEvent
  | [] => []
  | m :: past => popped past ++ (m.before.popsAt m.action).toList

def offered : List ThreadMoment → List RuntimeInputEvent
  | [] => []
  | m :: past => offered past ++ (m.before.offersAt m.action).toList

def accepted : List ThreadMoment → List RuntimeInputEvent
  | [] => []
  | m :: past => accepted past ++ ((m.before.offersAt m.action).filter fun event => (m.before.system.queue.tryPush event).2).toList

def refusals : List ThreadMoment → Nat
  | [] => 0
  | m :: past =>
    refusals past + ((m.before.offersAt m.action).filter fun event => !(m.before.system.queue.tryPush event).2).toList.length

end Records

def told (event : RuntimeInputEvent) : Bool :=
  match event.kind with
  | .heartbeat | .nodeStatus | .outputStatus => true
  | .protocolReject | .ioError => false

def frameEvents (nodeId : UInt8) (reads : List (CanFrame × Int)) : List RuntimeInputEvent :=
  reads.filterMap fun read => frameEvent nodeId read.1 read.2

structure Accounts (nodeId : UInt8) (history : List ThreadMoment) (s : IoThread) : Prop where
  own : s.system.io.nodeId = nodeId
  socket : arrived history = (framesRead history).map Prod.fst ++ s.incoming
  framesReceived : s.framesReceived = UInt64.ofNat (framesRead history).length
  decodeRejects : s.decodeRejects = UInt64.ofNat ((framesRead history).countP fun read => undecodable read.1)
  queue : accepted history = popped history ++ s.system.queue.events
  queueRejects : s.system.io.queueRejects = UInt64.ofNat (refusals history)
  latched : s.system.queue.overflowLatched = true ↔ 0 < refusals history
  offered : (IoThread.offered history).filter told = (frameEvents nodeId (framesRead history)).filter told
  kept : (accepted history).Sublist (IoThread.offered history)
  complete : refusals history = 0 → accepted history = IoThread.offered history

theorem pump_silent (s : IoSystem) (inputs : ThreadInputs) : ∀ event ∈ s.pumpEvent inputs, told event = false := by
  unfold IoSystem.pumpEvent
  intro event present
  split at present
  · split at present
    · dsimp only at present
      split at present
      · cases present
        rfl
      · split at present
        · cases present
          rfl
        · cases present
    · cases present
  · split at present
    · cases present
      rfl
    · cases present
  · split at present
    · cases present
      rfl
    · cases present
  · cases present

theorem offers_told (s : IoThread) (action : ThreadAction) :
    (s.offersAt action).toList.filter told =
      (frameEvents s.system.io.nodeId (s.readsAt action).toList).filter told := by
  have silent (event : Option RuntimeInputEvent) (quiet : ∀ e ∈ event, told e = false) : event.toList.filter told = [] := by
    cases event with
    | none => rfl
    | some e => simp [quiet e rfl]
  unfold offersAt readsAt
  cases action with
  | main inputs =>
      cases here : s.point with
      | can ready =>
          dsimp only
          refine silent _ ?_
          split
          · rintro _ ⟨⟩
            rfl
          · nofun
      | pump => exact silent _ (pump_silent s.system inputs)
      | read budget =>
          cases failed : inputs.receiveFailed with
          | true =>
              simp only [failed,if_true]
              refine silent _ ?_
              rintro _ ⟨⟩
              rfl
          | false =>
              simp only [failed,Bool.false_eq_true,if_false]
              cases waiting : s.incoming with
              | nil => rfl
              | cons frame rest =>
                  simp only [List.head?_cons,Option.map_some,Option.toList_some,frameEvents,List.filterMap_cons,List.filterMap_nil]
                  cases frameEvent s.system.io.nodeId frame (clockOrZero inputs.now) <;> rfl
      | _ => rfl
  | _ => rfl

theorem count_next (total more : Nat) : UInt64.ofNat total + UInt64.ofNat more = UInt64.ofNat (total + more) := by
  apply UInt64.toNat_inj.mp
  simp

structure QueueAccounts (nodeId : UInt8) (history : List ThreadMoment) (system : IoSystem) : Prop where
  queue : accepted history = popped history ++ system.queue.events
  queueRejects : system.io.queueRejects = UInt64.ofNat (refusals history)
  latched : system.queue.overflowLatched = true ↔ 0 < refusals history
  own : system.io.nodeId = nodeId

theorem accounts_popped {m : ThreadMoment} (accounts : Accounts nodeId past m.before) (pops : m.action = .popEvent)
    (moved : m.after.system = {m.before.system with queue := m.before.system.queue.tryPop.1}) :
    QueueAccounts nodeId (m :: past) m.after.system := by
  have none : m.before.offersAt m.action = none := by rw [pops]; rfl
  have same : accepted (m :: past) = accepted past ∧ refusals (m :: past) = refusals past := by simp [accepted,refusals,none]
  have taken : popped (m :: past) = popped past ++ m.before.system.queue.tryPop.2.toList := by simp only [popped,pops,popsAt]
  have before := accounts.queue
  have latched := accounts.latched
  have step := m.before.system.queue.pop_exact
  refine ⟨?_,?_,?_,?_⟩ <;> rw [moved]
  · rw [same.1,taken,before]
    dsimp only
    generalize m.before.system.queue.tryPop.1 = next at step ⊢
    generalize m.before.system.queue.tryPop.2 = event at step ⊢
    cases step with
    | empty _ => simp
    | oldest split _ _ => simp [split]
  · rw [same.2]
    exact accounts.queueRejects
  · rw [same.2]
    dsimp only
    generalize m.before.system.queue.tryPop.1 = next at step ⊢
    generalize m.before.system.queue.tryPop.2 = event at step ⊢
    cases step with
    | empty _ => exact latched
    | oldest _ _ latch => rw [latch]; exact latched
  · exact accounts.own

theorem accounts_offered {m : ThreadMoment} (accounts : Accounts nodeId past m.before) (other : m.action ≠ .popEvent)
    (offers : m.before.system.Offers (m.before.offersAt m.action) m.after.system) :
    QueueAccounts nodeId (m :: past) m.after.system := by
  have quiet : popped (m :: past) = popped past := by
    cases action : m.action with
    | popEvent => exact absurd action other
    | _ => simp [popped,popsAt,action]
  have own := offers.nodeId.trans accounts.own
  cases event : m.before.offersAt m.action with
  | none =>
      rw [event] at offers
      have same : accepted (m :: past) = accepted past ∧ refusals (m :: past) = refusals past := by simp [accepted,refusals,event]
      have queue : m.after.system.queue = m.before.system.queue := offers.queue
      have rejects : m.after.system.io.queueRejects = m.before.system.io.queueRejects := offers.rejects
      refine ⟨?_,?_,?_,own⟩
      · rw [same.1,quiet,queue]
        exact accounts.queue
      · rw [same.2,rejects]
        exact accounts.queueRejects
      · rw [same.2,queue]
        exact accounts.latched
  | some offer =>
      rw [event] at offers
      have queue : m.after.system.queue = (m.before.system.queue.tryPush offer).1 := offers.queue
      have rejects : m.after.system.io.queueRejects =
          if (m.before.system.queue.tryPush offer).2 then m.before.system.io.queueRejects
          else m.before.system.io.queueRejects + 1 := offers.rejects
      have step := m.before.system.queue.push_exact offer
      cases verdict : (m.before.system.queue.tryPush offer).2 with
      | true =>
          have grown : accepted (m :: past) = accepted past ++ [offer] ∧ refusals (m :: past) = refusals past := by
            simp [accepted,refusals,event,verdict]
          rw [verdict] at step rejects
          rw [← queue] at step
          cases step with
          | queued appended _ latch =>
              refine ⟨?_,?_,?_,own⟩
              · rw [grown.1,quiet,appended,accounts.queue,List.append_assoc]
              · rw [grown.2,rejects]
                exact accounts.queueRejects
              · rw [grown.2,latch]
                exact accounts.latched
      | false =>
          have grown : accepted (m :: past) = accepted past ∧ refusals (m :: past) = refusals past + 1 := by
            simp [accepted,refusals,event,verdict]
          rw [verdict] at step rejects
          rw [← queue] at step
          cases step with
          | refused _ kept _ latch =>
              refine ⟨?_,?_,?_,own⟩
              · rw [grown.1,quiet,kept]
                exact accounts.queue
              · rw [grown.2,rejects,accounts.queueRejects]
                exact count_next _ 1
              · rw [grown.2,latch]
                exact ⟨fun _ => Nat.succ_pos _,fun _ => rfl⟩

theorem accounts_queue {m : ThreadMoment} (accounts : Accounts nodeId past m.before) (effect : Effect m.before m.action m.after) :
    QueueAccounts nodeId (m :: past) m.after.system := by
  by_cases pops : m.action = .popEvent
  · exact accounts_popped accounts pops (effect.popped pops)
  · exact accounts_offered accounts pops (effect.queue pops)

theorem accounts_preserved (accounts : Accounts nodeId past s) (taken : s.step action = some next) :
    Accounts nodeId (⟨s,action,next⟩ :: past) next := by
  have effect := step_effect taken
  obtain ⟨queue,queueRejects,latched,own⟩ := accounts_queue (m := ⟨s,action,next⟩) accounts effect
  refine ⟨own,?_,?_,?_,queue,queueRejects,latched,?_,?_,?_⟩
  · have socket := accounts.socket
    have moved := effect.incoming
    simp only [arrived,framesRead,List.map_append]
    rw [socket,List.append_assoc,moved,← List.append_assoc]
    congr 2
    cases s.readsAt action <;> rfl
  · rw [effect.framesReceived,accounts.framesReceived,count_next]
    simp [framesRead]
  · rw [effect.decodeRejects,accounts.decodeRejects,count_next]
    simp [framesRead]
  · have told_now := s.offers_told action
    rw [accounts.own] at told_now
    simp only [IoThread.offered,framesRead,frameEvents,List.filter_append,List.filterMap_append]
    rw [accounts.offered,told_now]
    rfl
  · refine accounts.kept.append ?_
    cases event : s.offersAt action with
    | none => exact List.nil_sublist _
    | some event' =>
        by_cases queued : (s.system.queue.tryPush event').2 = true
        · simp [Option.filter,queued]
        · simp [Option.filter,queued]
  · intro none
    simp only [refusals,Nat.add_eq_zero_iff] at none
    simp only [accepted,IoThread.offered]
    rw [accounts.complete none.1]
    congr 1
    have kept := none.2
    cases event : s.offersAt action with
    | none => rfl
    | some event' =>
        rw [event] at kept
        by_cases queued : (s.system.queue.tryPush event').2 = true
        · simp [queued]
        · simp [queued] at kept

theorem launched_accounts (runtime : LinuxRuntime) (capacity : Nat) (nodeId : UInt8) (maxFramesPerWake : Nat) :
    Accounts nodeId [] (launched runtime capacity nodeId maxFramesPerWake) := by
  refine ⟨rfl,rfl,rfl,rfl,?_,rfl,?_,rfl,List.Sublist.refl _,fun _ => rfl⟩
  · exact (List.eq_nil_of_length_eq_zero ((BoundedRing.contents_length _).trans rfl)).symm
  · exact ⟨nofun,nofun⟩

-- What the consumer gets of the bus: every frame is read once and in order, and
-- what another station has said comes to the consumer in that order. What is
-- missing has been counted and latched.
structure Heard (nodeId : UInt8) (history : List ThreadMoment) (s : IoThread) : Prop where
  socket : arrived history = (framesRead history).map Prod.fst ++ s.incoming
  framesReceived : s.framesReceived = UInt64.ofNat (framesRead history).length
  decodeRejects : s.decodeRejects = UInt64.ofNat ((framesRead history).countP fun read => undecodable read.1)
  queueRejects : s.system.io.queueRejects = UInt64.ofNat (refusals history)
  latched : s.system.queue.overflowLatched = true ↔ 0 < refusals history
  heard : ((popped history ++ s.system.queue.events).filter told).Sublist ((frameEvents nodeId (framesRead history)).filter told)
  complete : refusals history = 0 →
    (popped history ++ s.system.queue.events).filter told = (frameEvents nodeId (framesRead history)).filter told

theorem accounts_heard (accounts : Accounts nodeId history s) : Heard nodeId history s := by
  refine ⟨accounts.socket,accounts.framesReceived,accounts.decodeRejects,accounts.queueRejects,accounts.latched,?_,?_⟩
  · rw [← accounts.queue,← accounts.offered]
    exact accounts.kept.filter told
  · intro none
    rw [← accounts.queue,← accounts.offered,accounts.complete none]

theorem frames_heard (runtime : LinuxRuntime) (capacity : Nat) (nodeId : UInt8) (maxFramesPerWake : Nat)
    (path : Reached step (launched runtime capacity nodeId maxFramesPerWake) history s) : Heard nodeId history s :=
  accounts_heard (reached_invariant (Accounts nodeId) (launched_accounts runtime capacity nodeId maxFramesPerWake)
    (fun _ _ _ _ accounts taken => accounts_preserved accounts taken) path)

def heartbeatFrame : CanFrame := ⟨0x021,8,#v[1,0,0,1,0,7,0,0]⟩

def overfull : List ThreadAction :=
  [.arrive heartbeatFrame,.arrive ⟨0x7FF,8,Vector.replicate 8 0⟩,.arrive ⟨0x061,8,#v[1,1,0,7,0,1,1,5]⟩,
   .arrive ⟨0x041,8,#v[1,1,0,7,0,0,0,0]⟩] ++ List.replicate 9 (.main {}) ++ [.popEvent] ++ List.replicate 5 (.main {})

theorem overfull_runs : (replay step [] (launched (.construct {}) 1 1 32) overfull).isSome = true := by decide +kernel

theorem frames_heard_overfull :
    ∃ history s, Reached step (launched (.construct {}) 1 1 32) history s ∧ s.framesReceived = 4 ∧
      s.system.io.queueRejects = 1 ∧ Heard 1 history s := by
  have path := replayed_reached overfull overfull_runs
  refine ⟨_,_,path,?_,?_,frames_heard _ 1 1 32 path⟩
  · decide +kernel
  · decide +kernel

end IoThread

end RobotControlRuntime
