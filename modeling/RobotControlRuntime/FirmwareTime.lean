import RobotControlRuntime.FirmwareLockstep
import RobotControlRuntime.FirmwareLoop

-- The loop of the firmware on true time in milliseconds. The counter of SysTick
-- shows it modulo 2^32.
namespace RobotControlRuntime.Firmware
open StepHistory

def RcrNode.Keeps (node next : RcrNode) : Prop :=
  (next.outputBits = node.outputBits ∧ next.leaseActive = node.leaseActive ∧ next.leaseDeadlineMs = node.leaseDeadlineMs) ∨
    next.Neutral

structure RcrNode.Calm (node next : RcrNode) : Prop where
  lease : Keeps node next
  heartbeat : next.heartbeatSequence = node.heartbeatSequence
  nodeId : next.nodeId = node.nodeId
  bootId : next.bootId = node.bootId
  sessionId : next.sessionId = node.sessionId

theorem RcrNode.Calm.refl (node : RcrNode) : Calm node node := ⟨.inl ⟨rfl,rfl,rfl⟩,rfl,rfl,rfl,rfl⟩

theorem RcrNode.latch_calm (node : RcrNode) : Calm node node.latchInternalFault := ⟨.inr ⟨rfl,rfl⟩,rfl,rfl,rfl,rfl⟩

theorem RcrNode.bus_calm (node : RcrNode) (ready : Bool) : Calm node (node.setBusReady ready) := by
  cases ready with
  | false => exact ⟨.inr ⟨rfl,rfl⟩,rfl,rfl,rfl,rfl⟩
  | true => exact ⟨.inl ⟨rfl,rfl,rfl⟩,rfl,rfl,rfl,rfl⟩

theorem RcrNode.expire_calm (node : RcrNode) (nowMs : UInt32) : Calm node (node.expireLease nowMs).1 := by
  unfold expireLease
  split
  · exact .refl node
  · exact ⟨.inr ⟨rfl,rfl⟩,rfl,rfl,rfl,rfl⟩

namespace McuState

inductive Offers (queue : FrameQueue) : Option RcrCanFrame → FrameQueue → Prop where
  | unencoded : Offers queue none queue
  | pushed (room : queue.push frame = some next) : Offers queue (some frame) next
  | full (refused : queue.push frame = none) : Offers queue (some frame) queue

inductive Moves (s : McuState) : McuAction → McuState → Prop where
  | tick : Moves s .tick {s with monotonicMs := s.monotonicMs + 1}
  | received (frame : RcrCanFrame) (pushed : s.rxQueue.push {frame with receiveMs := s.monotonicMs} = some queue) :
      Moves s (.receive frame) {s with rxQueue := queue}
  | refused (frame : RcrCanFrame) : Moves s (.receive frame) {s with rxOverflow := true}
  | sensed (here : s.point = .sense) (debounce : InputDebounce) (bits : UInt16) :
      Moves s (.main inputs)
        {s with nowMs := s.monotonicMs,positionDebounce := debounce,node := {s.node with inputBits := bits},point := .overflow}
  | overflow (here : s.point = .overflow) (calm : s.node.Calm calmed) :
      Moves s (.main inputs) {s with rxOverflow := false,node := calmed,point := .busOff}
  | busOff (here : s.point = .busOff) (calm : s.node.Calm calmed) (busOff : Bool) :
      Moves s (.main inputs) {s with node := calmed,busOffPrevious := busOff,point := .pop}
  | drained (here : s.point = .pop) (empty : s.rxQueue.tail = s.rxQueue.head) : Moves s (.main inputs) {s with point := .expire}
  | waiting (here : s.point = .pop) (filled : s.rxQueue.tail ≠ s.rxQueue.head) : Moves s (.main inputs) {s with point := .copy}
  | copied (here : s.point = .copy) : Moves s (.main inputs) {s with point := .advance s.rxQueue.front}
  | advanced (here : s.point = .advance received) :
      Moves s (.main inputs) {s with rxQueue := s.rxQueue.advance,point := .apply received}
  | applied (here : s.point = .apply received) (point : LoopPoint) (answers : List CanV1.WireOutputStatus)
      (lead : point = .pop ∨ ∃ outputStatus, point = .respond outputStatus) :
      Moves s (.main inputs) {s with node := (s.node.onFrame received s.monotonicMs).1,point := point,answers := answers}
  | responded (here : s.point = .respond outputStatus) (calm : s.node.Calm calmed) (queue : FrameQueue) :
      Moves s (.main inputs) {s with node := calmed,txQueue := queue,point := .pop}
  | expired (here : s.point = .expire) :
      Moves s (.main inputs) {s with node := (s.node.expireLease s.nowMs).1,point := .heartbeat}
  | heartbeat (here : s.point = .heartbeat) (due : timeAfterOrEqual s.nowMs s.nextHeartbeatMs = true)
      (calm : s.node.makeHeartbeat.1.Calm calmed) (queue : FrameQueue)
      (offers : Offers s.txQueue (encodeHeartbeat s.node.makeHeartbeat.2) queue) :
      Moves s (.main inputs)
        {s with node := calmed,txQueue := queue,nextHeartbeatMs := nextPeriod s.nowMs s.nextHeartbeatMs,point := .status}
  | noHeartbeat (here : s.point = .heartbeat) (due : timeAfterOrEqual s.nowMs s.nextHeartbeatMs = false) :
      Moves s (.main inputs) {s with point := .status}
  | status (here : s.point = .status) (due : timeAfterOrEqual s.nowMs s.nextStatusMs = true)
      (calm : s.node.Calm calmed) (queue : FrameQueue) (offers : Offers s.txQueue (encodeNodeStatus s.node.makeStatus) queue) :
      Moves s (.main inputs)
        {s with node := calmed,txQueue := queue,nextStatusMs := nextPeriod s.nowMs s.nextStatusMs,point := .commit}
  | noStatus (here : s.point = .status) (due : timeAfterOrEqual s.nowMs s.nextStatusMs = false) :
      Moves s (.main inputs) {s with point := .commit}
  | committed (here : s.point = .commit) (ccr1 applied : UInt16)
      (register : s.ccr1 = s.appliedServoPulseUs →
        ccr1 = servoPwmTargetUs s.node.leaseActive s.node.outputBits ∧ applied = servoPwmTargetUs s.node.leaseActive s.node.outputBits) :
      Moves s (.main inputs)
        {s with led := s.node.outputBits &&& 1 != 0,ccr1 := ccr1,appliedServoPulseUs := applied,point := .pump}
  | loaded (here : s.point = .pump) (queue : FrameQueue) (mailboxes : List RcrCanFrame)
      (kept : mailboxes ++ queue.contents = s.queued) :
      Moves s (.main inputs) {s with txQueue := queue,mailboxes := mailboxes}
  | kicked (here : s.point = .pump) : Moves s (.main inputs) {s with point := .sense}

theorem periodic_parts (s : McuState) (frame : RcrCanFrame) (classic : frame.extended = false ∧ frame.rtr = false ∧ frame.dlc = canV1Dlc) :
    ∃ queue, Offers s.txQueue (some frame) queue ∧ s.enqueuePeriodic frame = {s with txQueue := queue} := by
  unfold enqueuePeriodic canTxEnqueue
  rw [if_neg (by simp [classic])]
  cases pushed : s.txQueue.push frame with
  | none => exact ⟨s.txQueue,.full pushed,rfl⟩
  | some queue => exact ⟨queue,.pushed pushed,rfl⟩

theorem heartbeat_classic (encoded : encodeHeartbeat message = some frame) :
    frame.extended = false ∧ frame.rtr = false ∧ frame.dlc = canV1Dlc := by
  unfold encodeHeartbeat at encoded
  split at encoded
  · cases encoded
  · cases encoded
    exact ⟨rfl,rfl,rfl⟩

theorem status_classic (encoded : encodeNodeStatus message = some frame) :
    frame.extended = false ∧ frame.rtr = false ∧ frame.dlc = canV1Dlc := by
  unfold encodeNodeStatus at encoded
  split at encoded
  · cases encoded
  · cases encoded
    exact ⟨rfl,rfl,rfl⟩

theorem respond_parts (s : McuState) (outputStatus : CanV1.WireOutputStatus) :
    ∃ node queue, s.node.Calm node ∧ s.respond outputStatus = {s with node := node,txQueue := queue} := by
  unfold respond
  split
  · rename_i response _
    unfold enqueueOrLatch
    rcases s.enqueue_exact response with failed | ⟨queue,pushed,_⟩
    · rw [failed]
      exact ⟨_,s.txQueue,s.node.latch_calm,rfl⟩
    · rw [pushed]
      exact ⟨s.node,queue,.refl _,rfl⟩
  · exact ⟨_,s.txQueue,s.node.latch_calm,rfl⟩

theorem publishHeartbeat_parts (s : McuState) :
    ∃ node queue, s.node.makeHeartbeat.1.Calm node ∧ Offers s.txQueue (encodeHeartbeat s.node.makeHeartbeat.2) queue ∧
      s.publishHeartbeat = {s with node := node,txQueue := queue} := by
  unfold publishHeartbeat
  cases encoded : encodeHeartbeat s.node.makeHeartbeat.2 with
  | none =>
      simp only [encoded]
      exact ⟨_,s.txQueue,RcrNode.latch_calm _,.unencoded,rfl⟩
  | some frame =>
      obtain ⟨queue,offers,parts⟩ := periodic_parts {s with node := s.node.makeHeartbeat.1} frame (heartbeat_classic encoded)
      simp only [encoded,parts]
      exact ⟨_,queue,.refl _,offers,rfl⟩

theorem publishStatus_parts (s : McuState) :
    ∃ node queue, s.node.Calm node ∧ Offers s.txQueue (encodeNodeStatus s.node.makeStatus) queue ∧
      s.publishStatus = {s with node := node,txQueue := queue} := by
  unfold publishStatus
  cases encoded : encodeNodeStatus s.node.makeStatus with
  | none => exact ⟨_,s.txQueue,RcrNode.latch_calm _,.unencoded,rfl⟩
  | some frame =>
      obtain ⟨queue,offers,parts⟩ := s.periodic_parts frame (status_classic encoded)
      simp only [parts]
      exact ⟨_,queue,.refl _,offers,rfl⟩

theorem applyFrame_parts (s : McuState) (received : RcrCanFrame) :
    ∃ point answers, (point = .pop ∨ ∃ outputStatus, point = .respond outputStatus) ∧
      s.applyFrame received = {s with node := (s.node.onFrame received s.monotonicMs).1,point := point,answers := answers} := by
  unfold applyFrame
  split
  · rename_i node outputStatus answered
    exact ⟨.respond outputStatus,_,.inr ⟨_,rfl⟩,by rw [answered]⟩
  · rename_i node _ _ _ answered
    exact ⟨.pop,s.answers,.inl rfl,by rw [answered]⟩

theorem commitOutputs_parts (s : McuState) : ∃ ccr1 applied,
    s.commitOutputs = {s with led := s.node.outputBits &&& 1 != 0,ccr1 := ccr1,appliedServoPulseUs := applied} := by
  unfold commitOutputs
  dsimp only
  split
  · exact ⟨_,_,rfl⟩
  · exact ⟨s.ccr1,s.appliedServoPulseUs,rfl⟩

theorem main_moves (s : McuState) (inputs : McuInputs) : Moves s (.main inputs) (s.mainStep inputs) := by
  unfold mainStep
  cases here : s.point with
  | sense => exact .sensed here _ _
  | overflow =>
      dsimp only
      unfold takeRxOverflow
      dsimp only
      split
      · exact .overflow here s.node.latch_calm
      · exact .overflow here (.refl _)
  | busOff =>
      dsimp only
      unfold followBusOff
      split
      · exact .busOff here (s.node.bus_calm _) _
      · exact .busOff here (.refl _) s.busOffPrevious
  | pop =>
      dsimp only
      split
      · rename_i empty
        exact .drained here empty
      · rename_i filled
        exact .waiting here filled
  | copy => exact .copied here
  | advance received => exact .advanced here
  | apply received =>
      obtain ⟨point,answers,lead,parts⟩ := s.applyFrame_parts received
      dsimp only
      rw [parts]
      exact .applied here point answers lead
  | respond outputStatus =>
      obtain ⟨node,queue,calm,parts⟩ := s.respond_parts outputStatus
      dsimp only
      rw [parts]
      exact .responded here calm queue
  | expire => exact .expired here
  | heartbeat =>
      dsimp only
      split
      · rename_i due
        obtain ⟨node,queue,calm,offers,parts⟩ := s.publishHeartbeat_parts
        rw [parts]
        exact .heartbeat here due calm queue offers
      · rename_i early
        exact .noHeartbeat here (Bool.not_eq_true _ ▸ early)
  | status =>
      dsimp only
      split
      · rename_i due
        obtain ⟨node,queue,calm,offers,parts⟩ := s.publishStatus_parts
        rw [parts]
        exact .status here due calm queue offers
      · rename_i early
        exact .noStatus here (Bool.not_eq_true _ ▸ early)
  | commit =>
      obtain ⟨ccr1,applied,parts⟩ := s.commitOutputs_parts
      have register := s.commit_register
      rw [parts] at register
      dsimp only
      rw [parts]
      exact .committed here ccr1 applied register
  | pump =>
      dsimp only
      unfold pumpMailbox
      split
      · exact .kicked here
      · rename_i waiting
        refine .loaded here _ _ ?_
        rw [queued,s.txQueue.front_contents fun empty => waiting (.inl empty),List.append_assoc,List.singleton_append]

theorem step_moves (taken : s.step action = some next) : Moves s action next := by
  cases action with
  | main inputs =>
      cases taken
      exact s.main_moves inputs
  | receive frame =>
      cases taken
      unfold rxInterrupt
      split
      · exact .refused frame
      · rename_i queue pushed
        exact .received frame pushed
  | tick =>
      cases taken
      exact .tick

end McuState

abbrev McuMoment := Moment McuState McuAction

namespace LoopTime

def time (boot : Nat) : List McuMoment → Nat
  | [] => boot
  | m :: past => if m.action = .tick then time boot past + 1 else time boot past

def isMain : McuAction → Bool
  | .main _ => true
  | _ => false

def senses (m : McuMoment) : Bool := isMain m.action && m.before.point == .sense

def kicks (m : McuMoment) : Bool := isMain m.action && m.before.point == .pump && m.after.point == .sense

def started (boot : Nat) : List McuMoment → Nat
  | [] => boot
  | m :: past => if senses m then time boot past else started boot past

def previous (boot : Nat) : List McuMoment → Nat
  | [] => boot
  | m :: past => if senses m then started boot past else previous boot past

def kicked (boot : Nat) : List McuMoment → Nat
  | [] => boot
  | m :: past => if kicks m then time boot past else kicked boot past

-- The watchdog has not run out. Its nominal time is one second.
def Fed (boot watchdogMs : Nat) (m : McuMoment) (past : List McuMoment) : Prop :=
  time boot (m :: past) ≤ kicked boot past + watchdogMs

instance (boot watchdogMs : Nat) (m : McuMoment) (past : List McuMoment) : Decidable (Fed boot watchdogMs m past) :=
  inferInstanceAs (Decidable (_ ≤ _))

theorem time_later (boot : Nat) (m : McuMoment) (past : List McuMoment) : time boot past ≤ time boot (m :: past) := by
  simp only [time]
  split <;> omega

structure Inside (m : McuMoment) : Prop where
  unsensed : senses m = false
  unkicked : kicks m = false
  point : m.after.point = .sense ↔ m.before.point = .sense

section Inside
variable {m : McuMoment} (boot : Nat) (past : List McuMoment)

theorem Inside.started_same (inside : Inside m) : started boot (m :: past) = started boot past := by
  simp [started,inside.unsensed]

theorem Inside.previous_same (inside : Inside m) : previous boot (m :: past) = previous boot past := by
  simp [previous,inside.unsensed]

theorem Inside.kicked_same (inside : Inside m) : kicked boot (m :: past) = kicked boot past := by
  simp [kicked,inside.unkicked]

end Inside

def since (boot : Nat) (past : List McuMoment) (done : Bool) : Nat := bif done then started boot past else previous boot past

theorem since_inside (boot : Nat) (past : List McuMoment) (inside : Inside m) (done : Bool) : since boot (m :: past) done = since boot past done := by
  cases done with
  | false => exact inside.previous_same boot past
  | true => exact inside.started_same boot past

-- An iteration begins with the clock and lasts until the kick. Between two of
-- them main stands at sense.
structure Paced (boot watchdogMs : Nat) (past : List McuMoment) (s : McuState) : Prop where
  order : previous boot past ≤ started boot past
  begun : started boot past ≤ time boot past
  after : kicked boot past ≤ time boot past
  near : time boot past ≤ kicked boot past + watchdogMs
  between : s.point = .sense → started boot past ≤ kicked boot past ∧ kicked boot past ≤ started boot past + watchdogMs
  within : s.point ≠ .sense → kicked boot past ≤ started boot past ∧ kicked boot past ≤ previous boot past + watchdogMs
  clock : s.monotonicMs = clockMs (time boot past)
  now : s.nowMs = clockMs (started boot past)

theorem Paced.since_started (paced : Paced boot watchdogMs past s) : time boot past ≤ started boot past + 2 * watchdogMs := by
  have near := paced.near
  have order := paced.order
  by_cases here : s.point = .sense
  · have between := paced.between here
    omega
  · have within := paced.within here
    omega

theorem Paced.since_previous (paced : Paced boot watchdogMs past s) (apart : s.point ≠ .sense) :
    time boot past ≤ previous boot past + 2 * watchdogMs := by
  have near := paced.near
  have within := paced.within apart
  omega

theorem Paced.since_done (paced : Paced boot watchdogMs past s) (done : Bool) (last : s.point = .sense → done = true) :
    time boot past ≤ since boot past done + 2 * watchdogMs := by
  cases done with
  | true => exact paced.since_started
  | false => exact paced.since_previous fun here => nomatch last here

theorem clock_next (now : Nat) : clockMs now + 1 = clockMs (now + 1) := by
  apply UInt32.toNat_inj.mp
  simp [clockMs]

theorem paced_inside (paced : Paced boot watchdogMs past m.before) (inside : Inside m) (fed : Fed boot watchdogMs m past)
    (clock : m.after.monotonicMs = clockMs (time boot (m :: past))) (now : m.after.nowMs = m.before.nowMs) :
    Paced boot watchdogMs (m :: past) m.after := by
  have later := time_later boot m past
  constructor
  · rw [inside.previous_same,inside.started_same]
    exact paced.order
  · rw [inside.started_same]
    exact Nat.le_trans paced.begun later
  · rw [inside.kicked_same]
    exact Nat.le_trans paced.after later
  · rw [inside.kicked_same]
    exact fed
  · rw [inside.started_same,inside.kicked_same,inside.point]
    exact paced.between
  · rw [inside.previous_same,inside.started_same,inside.kicked_same,ne_eq,inside.point]
    exact paced.within
  · exact clock
  · rw [now,inside.started_same]
    exact paced.now

theorem main_inside (apart : s.point ≠ .sense) (lasts : next.point ≠ .sense) : Inside ⟨s,.main inputs,next⟩ :=
  ⟨by simp [senses,apart],by simp [kicks,lasts],⟨fun here => absurd here lasts,fun here => absurd here apart⟩⟩

theorem interrupt_inside (outside : isMain action = false) (point : next.point = s.point) : Inside ⟨s,action,next⟩ :=
  ⟨by simp [senses,outside],by simp [kicks,outside],by rw [point]⟩

theorem paced_main (paced : Paced boot watchdogMs past s) (fed : Fed boot watchdogMs ⟨s,.main inputs,next⟩ past)
    (apart : s.point ≠ .sense) (lasts : next.point ≠ .sense) (clock : next.monotonicMs = s.monotonicMs)
    (now : next.nowMs = s.nowMs) : Paced boot watchdogMs (⟨s,.main inputs,next⟩ :: past) next :=
  paced_inside (m := ⟨s,.main inputs,next⟩) paced (main_inside apart lasts) fed (clock.trans paced.clock) now

theorem paced_preserved (paced : Paced boot watchdogMs past s) (taken : s.step action = some next)
    (fed : Fed boot watchdogMs ⟨s,action,next⟩ past) : Paced boot watchdogMs (⟨s,action,next⟩ :: past) next := by
  cases McuState.step_moves taken with
  | tick =>
      refine paced_inside (m := ⟨s,.tick,_⟩) paced (interrupt_inside rfl rfl) fed ?_ rfl
      rw [show time boot (⟨s,.tick,{s with monotonicMs := s.monotonicMs + 1}⟩ :: past) = time boot past + 1 from rfl,← clock_next,
        ← paced.clock]
  | received frame _ => exact paced_inside (m := ⟨s,.receive frame,_⟩) paced (interrupt_inside rfl rfl) fed paced.clock rfl
  | refused frame => exact paced_inside (m := ⟨s,.receive frame,_⟩) paced (interrupt_inside rfl rfl) fed paced.clock rfl
  | @sensed inputs here debounce bits =>
      obtain ⟨low,high⟩ := paced.between here
      have sensed (next : McuState) : senses ⟨s,.main inputs,next⟩ = true := by simp [senses,isMain,here]
      have unkicked (next : McuState) : kicks ⟨s,.main inputs,next⟩ = false := by simp [kicks,here]
      constructor
      · simp only [previous,started,sensed]
        exact paced.begun
      · simp only [started,sensed]
        exact Nat.le_refl _
      · simp only [kicked,unkicked]
        exact paced.after
      · simp only [kicked,unkicked]
        exact paced.near
      · rintro ⟨⟩
      · intro _
        simp only [kicked,started,previous,sensed,unkicked]
        exact ⟨paced.after,high⟩
      · exact paced.clock
      · simp only [started,sensed]
        exact paced.clock
  | @kicked inputs here =>
      have apart : s.point ≠ .sense := by rw [here]; nofun
      obtain ⟨low,high⟩ := paced.within apart
      have unsensed (next : McuState) : senses ⟨s,.main inputs,next⟩ = false := by simp [senses,here]
      have kick : kicks ⟨s,.main inputs,{s with point := .sense}⟩ = true := by simp [kicks,isMain,here]
      constructor
      · simp only [previous,started,unsensed]
        exact paced.order
      · simp only [started,unsensed]
        exact paced.begun
      · simp only [kicked,kick]
        exact Nat.le_refl _
      · simp only [kicked,kick]
        exact Nat.le_add_right _ _
      · intro _
        simp only [kicked,started,kick,unsensed]
        exact ⟨paced.begun,Nat.le_trans paced.near (Nat.add_le_add_right low _)⟩
      · exact fun apart => absurd rfl apart
      · exact paced.clock
      · simp only [started,unsensed]
        exact paced.now
  | applied here point answers lead =>
      refine paced_main paced fed (by rw [here]; nofun) ?_ rfl rfl
      rcases lead with rfl | ⟨_,rfl⟩ <;> nofun
  | loaded here _ _ _ => exact paced_main paced fed (by rw [here]; nofun) (by rw [here]; nofun) rfl rfl
  | overflow here | busOff here | drained here | waiting here | copied here | advanced here | responded here | expired here
  | heartbeat here | noHeartbeat here | status here | noStatus here | committed here =>
      exact paced_main paced fed (by rw [here]; nofun) nofun rfl rfl

theorem start_paced (sessionId : UInt16) (identityReady : Bool) (boot watchdogMs : Nat) :
    Paced boot watchdogMs [] (McuState.start sessionId identityReady (clockMs boot)) :=
  ⟨Nat.le_refl _,Nat.le_refl _,Nat.le_refl _,Nat.le_add_right _ _,fun _ => ⟨Nat.le_refl _,Nat.le_add_right _ _⟩,
    fun apart => absurd rfl apart,rfl,rfl⟩

end LoopTime

end RobotControlRuntime.Firmware
