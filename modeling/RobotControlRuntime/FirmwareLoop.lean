import RobotControlRuntime.InputDebounce
import RobotControlRuntime.Library.SpscRing

namespace RobotControlRuntime.Firmware
open StepHistory
open CanV1 (WireOutputStatus WireOutputCommand)

def canV1NodeId : UInt8 := 1
abbrev queueCapacity : Nat := 8
def periodMs : UInt32 := 100

def servoPwmDisabledUs : UInt16 := 0
def servoPositionAUs : UInt16 := 1250
def servoPositionBUs : UInt16 := 1750

def servoPwmTargetUs (leaseActive : Bool) (outputBits : UInt8) : UInt16 :=
  if leaseActive = false then servoPwmDisabledUs
  else if outputBits &&& 1 ≠ 0 then servoPositionBUs
  else servoPositionAUs

abbrev FrameQueue := SpscRing RcrCanFrame queueCapacity

def FrameQueue.empty : FrameQueue := ⟨Vector.replicate queueCapacity {},⟨0,by decide⟩,⟨0,by decide⟩⟩

-- Where main stands in its loop, with the locals that live across the point.
-- Interrupts come between any two points.
inductive LoopPoint where
  | sense | overflow | busOff
  | pop | copy | advance (received : RcrCanFrame)
  | apply (received : RcrCanFrame) | respond (outputStatus : WireOutputStatus)
  | expire | heartbeat | status | commit | pump
  deriving DecidableEq, Repr

-- The memory of the program and the registers it drives. The last two fields are
-- a record: every frame given to a mailbox, and every answer of rcr_node_on_frame,
-- in their order.
structure McuState where
  monotonicMs : UInt32
  rxQueue : FrameQueue := .empty
  rxOverflow : Bool := false
  txQueue : FrameQueue := .empty
  led : Bool := false
  ccr1 : UInt16 := servoPwmDisabledUs
  node : RcrNode
  positionDebounce : InputDebounce := .init
  nowMs : UInt32
  nextHeartbeatMs : UInt32
  nextStatusMs : UInt32
  appliedServoPulseUs : UInt16 := servoPwmDisabledUs
  busOffPrevious : Bool := false
  point : LoopPoint := .sense
  mailboxes : List RcrCanFrame := []
  answers : List WireOutputStatus := []
  deriving DecidableEq

structure McuInputs where
  sensorActive : Bool := false
  busOff : Bool := false
  mailboxFree : Bool := false
  deriving DecidableEq, Repr

inductive McuAction where
  | main (inputs : McuInputs)
  | receive (frame : RcrCanFrame)
  | tick
  deriving DecidableEq

namespace McuState

def start (sessionId : UInt16) (identityReady : Bool) (clock : UInt32) : McuState :=
  {monotonicMs := clock
   node := RcrNode.init canV1NodeId sessionId sessionId identityReady
   nowMs := clock
   nextHeartbeatMs := clock
   nextStatusMs := clock}

def rxInterrupt (s : McuState) (frame : RcrCanFrame) : McuState :=
  match s.rxQueue.push {frame with receiveMs := s.monotonicMs} with
  | none => {s with rxOverflow := true}
  | some queue => {s with rxQueue := queue}

def canTxEnqueue (s : McuState) (frame : RcrCanFrame) : McuState × Bool :=
  if frame.extended = true ∨ frame.rtr = true ∨ frame.dlc ≠ canV1Dlc then (s,false)
  else match s.txQueue.push frame with
    | none => (s,false)
    | some queue => ({s with txQueue := queue},true)

def latchInternalFault (s : McuState) : McuState := {s with node := s.node.latchInternalFault}

def enqueueOrLatch (s : McuState) (frame : RcrCanFrame) : McuState :=
  match s.canTxEnqueue frame with
  | (s,true) => s
  | (s,false) => s.latchInternalFault

def enqueuePeriodic (s : McuState) (frame : RcrCanFrame) : McuState := (s.canTxEnqueue frame).1

def publishHeartbeat (s : McuState) : McuState :=
  let (node,heartbeat) := s.node.makeHeartbeat
  let s := {s with node := node}
  match encodeHeartbeat heartbeat with
  | none => s.latchInternalFault
  | some frame => s.enqueuePeriodic frame

def publishStatus (s : McuState) : McuState :=
  match encodeNodeStatus s.node.makeStatus with
  | none => s.latchInternalFault
  | some frame => s.enqueuePeriodic frame

def nextPeriod (nowMs deadlineMs : UInt32) : UInt32 :=
  let next := deadlineMs + periodMs
  if timeAfterOrEqual nowMs next then nowMs + periodMs else next

-- An unexpected pulse width stops the pulse.
def setServoPwmUs (s : McuState) (pulseUs : UInt16) : McuState :=
  let pulse := if pulseUs ≠ servoPwmDisabledUs ∧ pulseUs ≠ servoPositionAUs ∧ pulseUs ≠ servoPositionBUs then servoPwmDisabledUs
    else pulseUs
  {s with ccr1 := pulse}

def commitOutputs (s : McuState) : McuState :=
  let s := {s with led := s.node.outputBits &&& 1 != 0}
  let target := servoPwmTargetUs s.node.leaseActive s.node.outputBits
  if target ≠ s.appliedServoPulseUs then {s.setServoPwmUs target with appliedServoPulseUs := target} else s

def senseInputs (s : McuState) (sensorActive : Bool) : McuState :=
  let nowMs := s.monotonicMs
  let (debounce,reached) := s.positionDebounce.update sensorActive nowMs inputDebounceMs
  {s with nowMs := nowMs,positionDebounce := debounce,node := {s.node with inputBits := inputBitsFromReached reached}}

def takeRxOverflow (s : McuState) : McuState :=
  let seen := s.rxOverflow
  let s := {s with rxOverflow := false}
  if seen then s.latchInternalFault else s

def followBusOff (s : McuState) (busOff : Bool) : McuState :=
  if busOff ≠ s.busOffPrevious then {s with node := s.node.setBusReady (!busOff),busOffPrevious := busOff} else s

def applyFrame (s : McuState) (received : RcrCanFrame) : McuState :=
  match s.node.onFrame received s.monotonicMs with
  | (node,.statusReady,some outputStatus) =>
    {s with node := node,point := .respond outputStatus,answers := s.answers ++ [outputStatus]}
  | (node,_,_) => {s with node := node,point := .pop}

def respond (s : McuState) (outputStatus : WireOutputStatus) : McuState :=
  match encodeOutputStatus outputStatus with
  | some response => s.enqueueOrLatch response
  | none => s.latchInternalFault

def pumpMailbox (s : McuState) (mailboxFree : Bool) : McuState :=
  if s.txQueue.tail = s.txQueue.head ∨ mailboxFree = false then {s with point := .sense}
  else {s with txQueue := s.txQueue.advance,mailboxes := s.mailboxes ++ [s.txQueue.front]}

def mainStep (s : McuState) (inputs : McuInputs) : McuState :=
  match s.point with
  | .sense => {s.senseInputs inputs.sensorActive with point := .overflow}
  | .overflow => {s.takeRxOverflow with point := .busOff}
  | .busOff => {s.followBusOff inputs.busOff with point := .pop}
  | .pop => {s with point := if s.rxQueue.tail = s.rxQueue.head then .expire else .copy}
  | .copy => {s with point := .advance s.rxQueue.front}
  | .advance received => {s with rxQueue := s.rxQueue.advance,point := .apply received}
  | .apply received => s.applyFrame received
  | .respond outputStatus => {s.respond outputStatus with point := .pop}
  | .expire => {s with node := (s.node.expireLease s.nowMs).1,point := .heartbeat}
  | .heartbeat =>
    let next := if timeAfterOrEqual s.nowMs s.nextHeartbeatMs then
      {s.publishHeartbeat with nextHeartbeatMs := nextPeriod s.nowMs s.nextHeartbeatMs} else s
    {next with point := .status}
  | .status =>
    let next := if timeAfterOrEqual s.nowMs s.nextStatusMs then
      {s.publishStatus with nextStatusMs := nextPeriod s.nowMs s.nextStatusMs} else s
    {next with point := .commit}
  | .commit => {s.commitOutputs with point := .pump}
  | .pump => s.pumpMailbox inputs.mailboxFree

def step (s : McuState) : McuAction → Option McuState
  | .main inputs => some (s.mainStep inputs)
  | .receive frame => some (s.rxInterrupt frame)
  | .tick => some {s with monotonicMs := s.monotonicMs + 1}

end McuState

namespace RcrNode

def Neutral (node : RcrNode) : Prop := node.outputBits = 0 ∧ node.leaseActive = false

-- What every operation of the loop does to the node: it stays who it is, and a
-- latched fault stays latched with the output neutral.
structure Held (node next : RcrNode) : Prop where
  nodeId : next.nodeId = node.nodeId
  latched : node.fatalLatched = true → next.fatalLatched = true
  neutral : (node.fatalLatched = true → node.Neutral) → next.fatalLatched = true → next.Neutral

theorem Held.refl (node : RcrNode) : Held node node := ⟨rfl,fun latched => latched,fun neutral => neutral⟩

theorem Held.trans (one : Held a b) (two : Held b c) : Held a c :=
  ⟨two.nodeId.trans one.nodeId,fun latched => two.latched (one.latched latched),
    fun neutral => two.neutral (one.neutral neutral)⟩

theorem Held.before (held : Held node next) (unlatched : next.fatalLatched = false) : node.fatalLatched = false := by
  cases latched : node.fatalLatched with
  | false => rfl
  | true => cases (held.latched latched).symm.trans unlatched

theorem latch_held (node : RcrNode) : Held node node.latchInternalFault := ⟨rfl,fun _ => rfl,fun _ _ => ⟨rfl,rfl⟩⟩

theorem input_held (node : RcrNode) (bits : UInt16) : Held node {node with inputBits := bits} :=
  ⟨rfl,fun latched => latched,fun neutral => neutral⟩

theorem heartbeat_held (node : RcrNode) : Held node node.makeHeartbeat.1 :=
  ⟨rfl,fun latched => latched,fun neutral => neutral⟩

theorem bus_held (node : RcrNode) (ready : Bool) : Held node (node.setBusReady ready) := by
  cases ready with
  | false => exact ⟨rfl,fun latched => latched,fun _ _ => ⟨rfl,rfl⟩⟩
  | true => exact ⟨rfl,fun latched => latched,fun neutral => neutral⟩

theorem expire_held (node : RcrNode) (nowMs : UInt32) : Held node (node.expireLease nowMs).1 := by
  unfold expireLease
  split
  · exact .refl node
  · exact ⟨rfl,fun latched => latched,fun _ _ => ⟨rfl,rfl⟩⟩

-- A command meets the node with its lease expired. Behind a latched fault it
-- finds the interlock open and changes nothing.
theorem apply_held (node : RcrNode) (command : WireOutputCommand) (receiveMs nowMs : UInt32) :
    Held node (node.applyCommand command receiveMs nowMs).1 := by
  refine (node.expire_held nowMs).trans ?_
  unfold applyCommand
  dsimp only
  split
  · exact .refl _
  split
  · exact .refl _
  rename_i ready
  have unlatched : (node.expireLease nowMs).1.fatalLatched = false := by
    simp only [interlockReady,Bool.not_eq_true',Bool.and_eq_false_iff,not_or,Bool.not_eq_false] at ready
    simpa using ready.2
  split
  · exact .refl _
  split
  · exact .refl _
  · refine ⟨rfl,fun latched => latched,fun _ latched => ?_⟩
    cases unlatched.symm.trans latched

theorem frame_held (node : RcrNode) (frame : RcrCanFrame) (nowMs : UInt32) : Held node (node.onFrame frame nowMs).1 := by
  unfold onFrame
  dsimp only
  split
  · exact .refl node
  split
  · exact ⟨rfl,fun latched => latched,fun neutral => neutral⟩
  · exact apply_held node _ _ _

end RcrNode

namespace RcrNode

theorem frame_own {node : RcrNode} (answered : node.onFrame frame nowMs = (next,result,some outputStatus)) :
    outputStatus.nodeId = node.nodeId := by
  have same := (node.expire_held nowMs).nodeId
  unfold onFrame at answered
  dsimp only at answered
  split at answered
  · cases answered
  split at answered
  · cases answered
  · rename_i command _
    have named : (node.applyCommand command frame.receiveMs nowMs).2.2.nodeId = (node.expireLease nowMs).1.nodeId := by
      unfold applyCommand
      dsimp only
      repeat' split
      all_goals rfl
    cases answered
    exact named.trans same

theorem frame_refused {node : RcrNode} (latched : node.fatalLatched = true)
    (decoded : decodeOutputCommand frame node.nodeId = some command) (matching : command.sessionId = node.sessionId) (nowMs : UInt32) :
    ∃ outputStatus,(node.onFrame frame nowMs).2 = (.statusReady,some outputStatus) ∧ outputStatus.result = .notReady := by
  have addressed : frame.canId = (makeId fnOutputCommand node.nodeId).toUInt32 := by
    unfold decodeOutputCommand at decoded
    split at decoded
    · cases decoded
    · rename_i passed
      simp only [not_or,not_not] at passed
      exact passed.2.2.2.2.2.1
  have still := (node.expire_held nowMs).latched latched
  have session : (node.expireLease nowMs).1.sessionId = node.sessionId := by
    unfold expireLease
    split <;> rfl
  have shut : (node.expireLease nowMs).1.interlockReady = false := by simp [interlockReady,still]
  have refused : (node.applyCommand command frame.receiveMs nowMs).2.1 = .statusReady ∧
      (node.applyCommand command frame.receiveMs nowMs).2.2.result = .notReady := by
    unfold applyCommand
    dsimp only
    rw [session,if_neg (not_not.mpr matching),shut,Bool.not_false,if_pos rfl]
    exact ⟨rfl,rfl⟩
  refine ⟨(node.applyCommand command frame.receiveMs nowMs).2.2,?_,refused.2⟩
  unfold onFrame
  dsimp only
  rw [if_neg (not_not.mpr addressed),decoded,← refused.1]

end RcrNode

def outputStatusId : UInt32 := (makeId fnOutputStatus canV1NodeId).toUInt32

def LoopPoint.owed : LoopPoint → List (Option RcrCanFrame)
  | .respond outputStatus => [encodeOutputStatus outputStatus]
  | _ => []

namespace McuState

def queued (s : McuState) : List RcrCanFrame := s.mailboxes ++ s.txQueue.contents

def statusFrames (s : McuState) : List RcrCanFrame := s.queued.filter fun frame => frame.canId == outputStatusId

structure Sound (s : McuState) : Prop where
  nodeId : s.node.nodeId = canV1NodeId
  neutral : s.node.fatalLatched = true → s.node.Neutral
  register : s.ccr1 = s.appliedServoPulseUs
  own : ∀ outputStatus,s.point = .respond outputStatus → outputStatus.nodeId = canV1NodeId
  acknowledged : s.node.fatalLatched = false → s.statusFrames.map some ++ s.point.owed = s.answers.map encodeOutputStatus

structure Quiet (s next : McuState) : Prop where
  held : s.node.Held next.node
  statusFrames : next.statusFrames = s.statusFrames
  answers : next.answers = s.answers
  register : s.ccr1 = s.appliedServoPulseUs → next.ccr1 = next.appliedServoPulseUs

structure Progress (s next : McuState) : Prop where
  held : s.node.Held next.node
  sound : Sound next

theorem Sound.quiet (sound : Sound s) (quiet : Quiet s next) (owed : next.point.owed = s.point.owed)
    (own : ∀ outputStatus,next.point = .respond outputStatus → s.point = .respond outputStatus) : Progress s next where
  held := quiet.held
  sound :=
    {nodeId := quiet.held.nodeId.trans sound.nodeId
     neutral := quiet.held.neutral sound.neutral
     register := quiet.register sound.register
     own := fun outputStatus here => sound.own outputStatus (own outputStatus here)
     acknowledged := by
      intro unlatched
      rw [quiet.statusFrames,quiet.answers,owed]
      exact sound.acknowledged (quiet.held.before unlatched)}

theorem latch_quiet (s : McuState) : Quiet s s.latchInternalFault := ⟨s.node.latch_held,rfl,rfl,fun same => same⟩

theorem Quiet.trans (one : Quiet a b) (two : Quiet b c) : Quiet a c :=
  ⟨one.held.trans two.held,two.statusFrames.trans one.statusFrames,two.answers.trans one.answers,
    fun same => two.register (one.register same)⟩

theorem enqueue_exact (s : McuState) (frame : RcrCanFrame) :
    (s.canTxEnqueue frame = (s,false)) ∨
      ∃ queue,s.canTxEnqueue frame = ({s with txQueue := queue},true) ∧ queue.contents = s.txQueue.contents ++ [frame] := by
  unfold canTxEnqueue
  split
  · exact Or.inl rfl
  · cases pushed : s.txQueue.push frame with
    | none => exact Or.inl rfl
    | some queue => exact Or.inr ⟨queue,rfl,SpscRing.push_contents pushed⟩

theorem statusFrames_pushed (s : McuState) (contents : queue.contents = s.txQueue.contents ++ [frame]) :
    statusFrames {s with txQueue := queue} = s.statusFrames ++ (if frame.canId = outputStatusId then [frame] else []) := by
  simp only [statusFrames,queued,contents,← List.append_assoc,List.filter_append,List.filter_singleton,
    Bool.cond_eq_ite,beq_iff_eq]

theorem periodic_quiet (s : McuState) (other : frame.canId ≠ outputStatusId) : Quiet s (s.enqueuePeriodic frame) := by
  unfold enqueuePeriodic
  rcases s.enqueue_exact frame with failed | ⟨queue,pushed,contents⟩
  · rw [failed]
    exact ⟨.refl _,rfl,rfl,fun same => same⟩
  · rw [pushed]
    refine ⟨.refl _,?_,rfl,fun same => same⟩
    rw [statusFrames_pushed s contents,if_neg other,List.append_nil]

theorem heartbeat_id (encoded : encodeHeartbeat message = some frame) :
    frame.canId = (makeId fnHeartbeat message.nodeId).toUInt32 := by
  unfold encodeHeartbeat at encoded
  split at encoded
  · cases encoded
  · cases encoded
    rfl

theorem nodeStatus_id (encoded : encodeNodeStatus message = some frame) :
    frame.canId = (makeId fnStatus message.nodeId).toUInt32 := by
  unfold encodeNodeStatus at encoded
  split at encoded
  · cases encoded
  · cases encoded
    rfl

theorem outputStatus_id (encoded : encodeOutputStatus message = some frame) :
    frame.canId = (makeId fnOutputStatus message.nodeId).toUInt32 := by
  unfold encodeOutputStatus at encoded
  split at encoded
  · cases encoded
  · cases encoded
    rfl

theorem heartbeat_quiet (s : McuState) (nodeId : s.node.nodeId = canV1NodeId) : Quiet s s.publishHeartbeat := by
  have made : Quiet s {s with node := s.node.makeHeartbeat.1} := ⟨s.node.heartbeat_held,rfl,rfl,fun same => same⟩
  refine made.trans ?_
  unfold publishHeartbeat
  dsimp only
  split
  · exact latch_quiet _
  · rename_i frame encoded
    apply periodic_quiet
    rw [heartbeat_id encoded]
    show (makeId fnHeartbeat s.node.nodeId).toUInt32 ≠ _
    rw [nodeId]
    decide

theorem status_quiet (s : McuState) (nodeId : s.node.nodeId = canV1NodeId) : Quiet s s.publishStatus := by
  unfold publishStatus
  split
  · exact latch_quiet _
  · rename_i frame encoded
    apply periodic_quiet
    rw [nodeStatus_id encoded]
    show (makeId fnStatus s.node.nodeId).toUInt32 ≠ _
    rw [nodeId]
    decide

theorem sense_quiet (s : McuState) (sensorActive : Bool) : Quiet s (s.senseInputs sensorActive) :=
  ⟨s.node.input_held _,rfl,rfl,fun same => same⟩

theorem overflow_quiet (s : McuState) : Quiet s s.takeRxOverflow := by
  unfold takeRxOverflow
  dsimp only
  split
  · exact ⟨s.node.latch_held,rfl,rfl,fun same => same⟩
  · exact ⟨.refl _,rfl,rfl,fun same => same⟩

theorem busOff_quiet (s : McuState) (busOff : Bool) : Quiet s (s.followBusOff busOff) := by
  unfold followBusOff
  split
  · exact ⟨s.node.bus_held _,rfl,rfl,fun same => same⟩
  · exact ⟨.refl _,rfl,rfl,fun same => same⟩

theorem target_known (leaseActive : Bool) (outputBits : UInt8) :
    servoPwmTargetUs leaseActive outputBits = servoPwmDisabledUs ∨ servoPwmTargetUs leaseActive outputBits = servoPositionAUs ∨
      servoPwmTargetUs leaseActive outputBits = servoPositionBUs := by
  unfold servoPwmTargetUs
  split
  · exact Or.inl rfl
  · split
    · exact Or.inr (Or.inr rfl)
    · exact Or.inr (Or.inl rfl)

theorem commit_register (s : McuState) (same : s.ccr1 = s.appliedServoPulseUs) :
    s.commitOutputs.ccr1 = servoPwmTargetUs s.node.leaseActive s.node.outputBits ∧
      s.commitOutputs.appliedServoPulseUs = servoPwmTargetUs s.node.leaseActive s.node.outputBits := by
  unfold commitOutputs
  dsimp only
  split
  · refine ⟨?_,rfl⟩
    rcases target_known s.node.leaseActive s.node.outputBits with known | known | known <;> rw [known] <;> rfl
  · rename_i applied
    have target := not_not.mp applied
    exact ⟨same.trans target.symm,target.symm⟩

theorem commit_quiet (s : McuState) : Quiet s s.commitOutputs := by
  have rest : s.commitOutputs.node = s.node ∧ s.commitOutputs.statusFrames = s.statusFrames ∧ s.commitOutputs.answers = s.answers := by
    unfold commitOutputs
    dsimp only
    split <;> exact ⟨rfl,rfl,rfl⟩
  obtain ⟨node,frames,answers⟩ := rest
  refine ⟨?_,frames,answers,?_⟩
  · rw [node]
    exact .refl _
  · intro same
    obtain ⟨register,applied⟩ := commit_register s same
    rw [register,applied]

theorem pump_quiet (s : McuState) (mailboxFree : Bool) : Quiet s (s.pumpMailbox mailboxFree) := by
  unfold pumpMailbox
  split
  · exact ⟨.refl _,rfl,rfl,fun same => same⟩
  · rename_i waiting
    have filled : s.txQueue.tail ≠ s.txQueue.head := fun empty => waiting (Or.inl empty)
    refine ⟨.refl _,?_,rfl,fun same => same⟩
    simp only [statusFrames,queued,s.txQueue.front_contents filled,List.append_assoc,List.singleton_append]

theorem Sound.moved (sound : Sound s) (quiet : Quiet s next) (clear : s.point.owed = []) (point : LoopPoint)
    (bare : point.owed = []) : Progress s {next with point := point} := by
  refine sound.quiet ⟨quiet.held,quiet.statusFrames,quiet.answers,quiet.register⟩ (bare.trans clear.symm) ?_
  rintro outputStatus rfl
  cases bare

theorem applied_progress (sound : Sound s) (here : s.point = .apply received) : Progress s (s.applyFrame received) := by
  have held := s.node.frame_held received s.monotonicMs
  have clear : s.point.owed = [] := by rw [here]; rfl
  unfold applyFrame
  split
  · rename_i node outputStatus answered
    rw [answered] at held
    have own : outputStatus.nodeId = s.node.nodeId := RcrNode.frame_own answered
    have before := sound.acknowledged
    rw [clear,List.append_nil] at before
    refine ⟨held,held.nodeId.trans sound.nodeId,held.neutral sound.neutral,sound.register,?_,?_⟩
    · rintro other here
      cases here
      exact own.trans sound.nodeId
    · intro unlatched
      show s.statusFrames.map some ++ [encodeOutputStatus outputStatus] = (s.answers ++ [outputStatus]).map encodeOutputStatus
      rw [before (held.before unlatched),List.map_append,List.map_singleton]
  · rename_i node _ _ _ answered
    rw [answered] at held
    have quiet : Quiet s {s with node := node} := ⟨held,rfl,rfl,fun same => same⟩
    exact sound.moved quiet clear .pop rfl

theorem responded_progress (sound : Sound s) (here : s.point = .respond outputStatus) :
    Progress s {s.respond outputStatus with point := .pop} := by
  have latched : Progress s {s.latchInternalFault with point := .pop} :=
    ⟨s.node.latch_held,sound.nodeId,fun _ => ⟨rfl,rfl⟩,sound.register,by rintro _ ⟨⟩,by rintro ⟨⟩⟩
  unfold respond
  split
  · rename_i response encoded
    have mine : response.canId = outputStatusId := by
      rw [outputStatus_id encoded,sound.own outputStatus here]
      rfl
    unfold enqueueOrLatch
    rcases s.enqueue_exact response with failed | ⟨queue,pushed,contents⟩
    · rw [failed]
      exact latched
    · rw [pushed]
      refine ⟨.refl _,sound.nodeId,sound.neutral,sound.register,by rintro _ ⟨⟩,?_⟩
      intro unlatched
      have owed := sound.acknowledged unlatched
      rw [here,LoopPoint.owed,encoded] at owed
      show (statusFrames {s with txQueue := queue}).map some ++ [] = _
      rw [statusFrames_pushed s contents,if_pos mine,List.map_append,List.append_nil]
      exact owed
  · exact latched

theorem pumped_point (s : McuState) (mailboxFree : Bool) :
    (s.pumpMailbox mailboxFree).point = .sense ∨ (s.pumpMailbox mailboxFree).point = s.point := by
  unfold pumpMailbox
  split
  · exact Or.inl rfl
  · exact Or.inr rfl

theorem pumped_progress (sound : Sound s) (here : s.point = .pump) (mailboxFree : Bool) :
    Progress s (s.pumpMailbox mailboxFree) := by
  have point := s.pumped_point mailboxFree
  rw [here] at point
  refine sound.quiet (s.pump_quiet mailboxFree) ?_ ?_
  · rcases point with next | next
    · rw [next,here]
      rfl
    · rw [next,here]
  · intro outputStatus owes
    rcases point with next | next <;> cases next.symm.trans owes

theorem main_progress (sound : Sound s) (inputs : McuInputs) : Progress s (s.mainStep inputs) := by
  have still : Quiet s s := ⟨.refl _,rfl,rfl,fun same => same⟩
  unfold mainStep
  cases here : s.point with
  | sense => exact sound.moved (s.sense_quiet _) (by rw [here]; rfl) .overflow rfl
  | overflow => exact sound.moved s.overflow_quiet (by rw [here]; rfl) .busOff rfl
  | busOff => exact sound.moved (s.busOff_quiet _) (by rw [here]; rfl) .pop rfl
  | pop =>
      refine sound.moved still (by rw [here]; rfl) _ ?_
      split <;> rfl
  | copy => exact sound.moved still (by rw [here]; rfl) _ rfl
  | advance received =>
      have taken : Quiet s {s with rxQueue := s.rxQueue.advance} := ⟨.refl _,rfl,rfl,fun same => same⟩
      exact sound.moved taken (by rw [here]; rfl) (.apply received) rfl
  | apply received => exact applied_progress sound here
  | respond outputStatus => exact responded_progress sound here
  | expire =>
      have expired : Quiet s {s with node := (s.node.expireLease s.nowMs).1} :=
        ⟨s.node.expire_held _,rfl,rfl,fun same => same⟩
      exact sound.moved expired (by rw [here]; rfl) .heartbeat rfl
  | heartbeat =>
      refine sound.moved ?_ (by rw [here]; rfl) .status rfl
      split
      · exact (s.heartbeat_quiet sound.nodeId).trans ⟨.refl _,rfl,rfl,fun same => same⟩
      · exact still
  | status =>
      refine sound.moved ?_ (by rw [here]; rfl) .commit rfl
      split
      · exact (s.status_quiet sound.nodeId).trans ⟨.refl _,rfl,rfl,fun same => same⟩
      · exact still
  | commit => exact sound.moved s.commit_quiet (by rw [here]; rfl) .pump rfl
  | pump => exact pumped_progress sound here _

theorem interrupt_progress (sound : Sound s) (frame : RcrCanFrame) : Progress s (s.rxInterrupt frame) := by
  have quiet : Quiet s (s.rxInterrupt frame) ∧ (s.rxInterrupt frame).point = s.point := by
    unfold rxInterrupt
    split <;> exact ⟨⟨.refl _,rfl,rfl,fun same => same⟩,rfl⟩
  refine sound.quiet quiet.1 (by rw [quiet.2]) ?_
  intro outputStatus owes
  exact quiet.2.symm.trans owes

theorem step_progress (sound : Sound s) (taken : s.step action = some next) : Progress s next := by
  cases action with
  | main inputs =>
      cases taken
      exact main_progress sound inputs
  | receive frame =>
      cases taken
      exact interrupt_progress sound frame
  | tick =>
      cases taken
      exact ⟨.refl _,sound.nodeId,sound.neutral,sound.register,sound.own,sound.acknowledged⟩

theorem start_sound (sessionId : UInt16) (identityReady : Bool) (clock : UInt32) : Sound (start sessionId identityReady clock) :=
  ⟨rfl,fun _ => ⟨rfl,rfl⟩,rfl,by rintro _ ⟨⟩,fun _ => rfl⟩

structure Committed (s : McuState) : Prop where
  acknowledged : s.node.fatalLatched = false → s.statusFrames.map some = s.answers.map encodeOutputStatus
  shut : s.node.fatalLatched = true →
    s.node.outputBits = 0 ∧ s.node.leaseActive = false ∧ s.ccr1 = servoPwmDisabledUs ∧ s.led = false

theorem commit_exact {s : McuState} (here : s.point = .commit) (inputs : McuInputs) :
    (s.mainStep inputs).point = .pump ∧ (s.mainStep inputs).node = s.node ∧
      (s.mainStep inputs).led = (s.node.outputBits &&& 1 != 0) ∧ (s.mainStep inputs).ccr1 = s.commitOutputs.ccr1 := by
  unfold mainStep
  rw [here]
  unfold commitOutputs
  dsimp only
  split <;> exact ⟨rfl,rfl,rfl,rfl⟩

theorem commit_committed (sound : Sound s) (here : s.point = .commit) (inputs : McuInputs) : Committed (s.mainStep inputs) := by
  have after := (main_progress sound inputs).sound
  obtain ⟨point,node,led,register⟩ := commit_exact here inputs
  constructor
  · intro unlatched
    have acknowledged := after.acknowledged unlatched
    rw [point] at acknowledged
    exact (List.append_nil _).symm.trans acknowledged
  · intro latched
    obtain ⟨bits,lease⟩ := after.neutral latched
    refine ⟨bits,lease,?_,?_⟩
    · rw [node] at lease
      rw [register,(commit_register s sound.register).1,lease]
      rfl
    · rw [node] at bits
      rw [led,bits]
      rfl

theorem respond_latched {s : McuState}
    (failed : ∀ response,encodeOutputStatus outputStatus = some response → (s.canTxEnqueue response).2 = false) :
    (s.respond outputStatus).node.fatalLatched = true := by
  unfold respond
  split
  · rename_i response encoded
    have refused := failed response encoded
    unfold enqueueOrLatch
    split
    · rename_i queued
      rw [queued] at refused
      cases refused
    · rfl
  · rfl

structure Safe (m : Moment McuState McuAction) : Prop where
  committed : ∀ inputs,m.action = .main inputs → m.before.point = .commit → Committed m.after
  latched : m.before.node.fatalLatched = true → m.after.node.fatalLatched = true
  overflow : ∀ inputs,m.action = .main inputs → m.before.point = .overflow → m.before.rxOverflow = true →
    m.after.node.fatalLatched = true
  undelivered : ∀ inputs outputStatus,m.action = .main inputs → m.before.point = .respond outputStatus →
    (∀ response,encodeOutputStatus outputStatus = some response → (m.before.canTxEnqueue response).2 = false) →
      m.after.node.fatalLatched = true
  refused : ∀ inputs received command,m.action = .main inputs → m.before.point = .apply received →
    m.before.node.fatalLatched = true → decodeOutputCommand received m.before.node.nodeId = some command →
    command.sessionId = m.before.node.sessionId →
      ∃ outputStatus,m.after.answers = m.before.answers ++ [outputStatus] ∧ outputStatus.result = .notReady

theorem step_safe (sound : Sound s) (taken : s.step action = some next) : Safe ⟨s,action,next⟩ where
  committed := by
    rintro inputs rfl here
    cases taken
    exact commit_committed sound here inputs
  latched := (step_progress sound taken).held.latched
  overflow := by
    rintro inputs rfl here seen
    have at_overflow : s.point = .overflow := here
    have flagged : s.rxOverflow = true := seen
    cases taken
    simp [mainStep,at_overflow,takeRxOverflow,flagged,latchInternalFault,RcrNode.latchInternalFault,RcrNode.neutralizeOutput]
  undelivered := by
    rintro inputs outputStatus rfl here failed
    have at_respond : s.point = .respond outputStatus := here
    cases taken
    show (s.mainStep inputs).node.fatalLatched = true
    unfold mainStep
    rw [at_respond]
    exact respond_latched failed
  refused := by
    rintro inputs received command rfl here latched decoded matching
    obtain ⟨outputStatus,answered,result⟩ := RcrNode.frame_refused latched decoded matching s.monotonicMs
    refine ⟨outputStatus,?_,result⟩
    have at_apply : s.point = .apply received := here
    cases taken
    show (s.mainStep inputs).answers = s.answers ++ [outputStatus]
    unfold mainStep
    rw [at_apply]
    dsimp only
    unfold applyFrame
    rw [show s.node.onFrame received s.monotonicMs =
      ((s.node.onFrame received s.monotonicMs).1,.statusReady,some outputStatus) from Prod.ext rfl answered]

theorem acknowledgements_kept (sessionId : UInt16) (identityReady : Bool) (clock : UInt32)
    (path : Reached step (start sessionId identityReady clock) history s) : Throughout (fun m _ => Safe m) history :=
  throughout_invariant (fun _ s => Sound s) (start_sound sessionId identityReady clock)
    (fun _ _ _ _ sound taken => (step_progress sound taken).sound)
    (fun _ _ _ _ sound taken => step_safe sound taken) path

def answeredThenFlooded : List McuAction :=
  .receive {canId := 0x061,dlc := 8,data := #v[1,1,0,7,0,1,1,50]} :: List.replicate 13 (.main {}) ++
    List.replicate 8 (.receive {}) ++ [.main {},.tick,.main {},.main {}]

theorem acknowledgements_kept_flooded :
    ∃ history s,Reached step (start 7 true 0) history s ∧ s.answers.length = 1 ∧ s.node.fatalLatched = true ∧
      Throughout (fun m _ => Safe m) history := by
  have path : Reached step (start 7 true 0) _ _ := replay_reached answeredThenFlooded .start rfl
  exact ⟨_,_,path,rfl,rfl,acknowledgements_kept 7 true 0 path⟩

end McuState

end RobotControlRuntime.Firmware
