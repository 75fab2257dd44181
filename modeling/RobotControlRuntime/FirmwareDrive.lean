import RobotControlRuntime.FirmwareTime

-- What drives the pins of the firmware, and for how long.
namespace RobotControlRuntime.Firmware
open StepHistory FixedWidth
open CanV1 (WireOutputCommand)

namespace LoopTime

structure Receives (boot : Nat) (received : RcrCanFrame) (receivedMs : Nat) (m : McuMoment) (past : List McuMoment) : Prop where
  stamped : ∃ frame, m.action = .receive frame ∧ received = {frame with receiveMs := m.before.monotonicMs}
  queued : m.after.rxQueue.contents = m.before.rxQueue.contents ++ [received]
  at_time : time boot past = receivedMs

structure Takes (boot : Nat) (command : WireOutputCommand) (receivedMs : Nat) (m : McuMoment) (past : List McuMoment) : Prop where
  applied : ∃ inputs received, m.action = .main inputs ∧ m.before.point = .apply received ∧
    decodeOutputCommand received canV1NodeId = some command ∧
    (m.before.node.onFrame received m.before.monotonicMs).2.2.map (fun answer => answer.result) = some .applied ∧
    Once (Receives boot received receivedMs) past
  session : command.sessionId = m.before.node.sessionId
  ready : m.before.node.interlockReady = true

def expiry (command : WireOutputCommand) (receivedMs : Nat) : Nat := receivedMs + command.validity10ms.toNat * 10

-- What the iteration has done so far: it has found the queue empty, has checked
-- the lease, has set the pins. Before that the last iteration has.
def drained : LoopPoint → Bool
  | .expire | .heartbeat | .status | .commit | .pump | .sense => true
  | _ => false

def checked : LoopPoint → Bool
  | .heartbeat | .status | .commit | .pump | .sense => true
  | _ => false

def committed : LoopPoint → Bool
  | .pump | .sense => true
  | _ => false

structure Leased (boot : Nat) (past : List McuMoment) (floor : Nat) (node : RcrNode) : Prop where
  driven : node.outputBits ≠ 0 → node.leaseActive = true
  bits : ∀ i, node.outputBits.toNat.testBit i = true → ∃ command receivedMs, Once (Takes boot command receivedMs) past ∧
    command.mask.toNat.testBit i = true ∧ command.values.toNat.testBit i = true
  lease : node.leaseActive = true → ∃ command receivedMs, Once (Takes boot command receivedMs) past ∧
    node.leaseDeadlineMs = clockMs (expiry command receivedMs) ∧ floor < expiry command receivedMs ∧
    receivedMs ≤ time boot past

def Queued (boot : Nat) (past : List McuMoment) (floor : Nat) (received : RcrCanFrame) : Prop :=
  ∃ receivedMs, Once (Receives boot received receivedMs) past ∧ received.receiveMs = clockMs receivedMs ∧
    floor ≤ receivedMs ∧ receivedMs ≤ time boot past

theorem queued_later (queued : Queued boot past floor received) (lower : floor' ≤ floor) :
    Queued boot (m :: past) floor' received := by
  obtain ⟨receivedMs,once,stamp,low,high⟩ := queued
  exact ⟨receivedMs,once.later,stamp,Nat.le_trans lower low,Nat.le_trans high (time_later boot m past)⟩

theorem leased_later (leased : Leased boot past floor node) (lower : floor' ≤ floor) : Leased boot (m :: past) floor' node where
  driven := leased.driven
  bits := by
    intro i on
    obtain ⟨command,receivedMs,once,masked,value⟩ := leased.bits i on
    exact ⟨command,receivedMs,once.later,masked,value⟩
  lease := by
    intro active
    obtain ⟨command,receivedMs,once,deadline,low,high⟩ := leased.lease active
    exact ⟨command,receivedMs,once.later,deadline,Nat.lt_of_le_of_lt lower low,Nat.le_trans high (time_later boot m past)⟩

theorem neutral_leased (neutral : node.Neutral) : Leased boot past floor node where
  driven nonzero := absurd neutral.1 nonzero
  bits := by
    intro i on
    rw [neutral.1] at on
    simp at on
  lease := by
    intro active
    cases neutral.2.symm.trans active

theorem leased_kept (leased : Leased boot past floor node) (keeps : node.Keeps next) : Leased boot past floor next := by
  rcases keeps with ⟨bits,active,deadline⟩ | neutral
  · constructor
    · rw [bits,active]
      exact leased.driven
    · rw [bits]
      exact leased.bits
    · rw [active,deadline]
      exact leased.lease
  · exact neutral_leased neutral

-- A check at a time that is near enough is a check on true time: what is left of
-- the lease lies ahead of it.
theorem leased_expired (leased : Leased boot past floor node) (low : floor ≤ now) (high : now ≤ time boot past)
    (near : time boot past ≤ floor + 2 * watchdogMs) (short : watchdogMs ≤ 1000000000) :
    Leased boot past now (node.expireLease (clockMs now)).1 := by
  unfold RcrNode.expireLease
  split
  · rename_i kept
    refine ⟨leased.driven,leased.bits,?_⟩
    intro active
    obtain ⟨command,receivedMs,once,deadline,above,before⟩ := leased.lease active
    refine ⟨command,receivedMs,once,deadline,?_,before⟩
    have longest : command.validity10ms.toNat < 256 := command.validity10ms.toNat_lt
    simp only [expiry] at above deadline ⊢
    rw [active,deadline,time_exact now _ (by omega) (by omega)] at kept
    simpa using kept
  · exact neutral_leased ⟨rfl,rfl⟩

structure Sets (node : RcrNode) (received : RcrCanFrame) (nowMs : UInt32) (command : WireOutputCommand) (next : RcrNode) :
    Prop where
  decoded : decodeOutputCommand received node.nodeId = some command
  session : command.sessionId = node.sessionId
  ready : node.interlockReady = true
  fresh : timeAfterOrEqual nowMs (received.receiveMs + command.validity10ms.toUInt32 * 10) = false
  bits : next.outputBits = ((node.expireLease nowMs).1.outputBits &&& ~~~command.mask) ||| (command.values &&& command.mask)
  active : next.leaseActive = true
  deadline : next.leaseDeadlineMs = received.receiveMs + command.validity10ms.toUInt32 * 10

theorem expire_known (node : RcrNode) (nowMs : UInt32) :
    (node.expireLease nowMs).1.sessionId = node.sessionId ∧ (node.expireLease nowMs).1.interlockReady = node.interlockReady := by
  unfold RcrNode.expireLease
  split <;> exact ⟨rfl,rfl⟩

theorem apply_exact (node : RcrNode) (command : WireOutputCommand) (decoded : decodeOutputCommand received node.nodeId = some command)
    (nowMs : UInt32) :
    node.Keeps (node.applyCommand command received.receiveMs nowMs).1 ∨
      ((node.applyCommand command received.receiveMs nowMs).2.2.result = .applied ∧
        Sets node received nowMs command (node.applyCommand command received.receiveMs nowMs).1) := by
  have keeps := (node.expire_calm nowMs).lease
  obtain ⟨session,interlock⟩ := expire_known node nowMs
  unfold RcrNode.applyCommand
  dsimp only
  split
  · exact .inl keeps
  rename_i matching
  split
  · exact .inl keeps
  rename_i ready
  split
  · exact .inl keeps
  split
  · exact .inl keeps
  rename_i fresh
  refine .inr ⟨rfl,decoded,?_,?_,?_,rfl,rfl,rfl⟩
  · rw [session] at matching
    exact not_not.mp matching
  · rw [interlock] at ready
    simpa using ready
  · simpa using fresh

theorem frame_exact (node : RcrNode) (received : RcrCanFrame) (nowMs : UInt32) :
    node.Keeps (node.onFrame received nowMs).1 ∨
      ∃ command, (node.onFrame received nowMs).2.2.map (fun answer => answer.result) = some .applied ∧
        Sets node received nowMs command (node.onFrame received nowMs).1 := by
  unfold RcrNode.onFrame
  dsimp only
  split
  · exact .inl (.inl ⟨rfl,rfl,rfl⟩)
  split
  · exact .inl (.inl ⟨rfl,rfl,rfl⟩)
  · rename_i command decoded
    rcases apply_exact node command decoded nowMs with keeps | ⟨applied,sets⟩
    · exact .inl keeps
    · exact .inr ⟨command,by rw [← applied]; rfl,sets⟩

structure Hand (boot : Nat) (past : List McuMoment) (s : McuState) : Prop where
  copying : s.point = .copy → s.rxQueue.tail ≠ s.rxQueue.head
  copied : ∀ received, s.point = .advance received → s.rxQueue.tail ≠ s.rxQueue.head ∧ s.rxQueue.front = received
  taken : ∀ received, s.point = .apply received → Queued boot past (previous boot past) received

structure Pins (boot : Nat) (past : List McuMoment) (s : McuState) : Prop where
  register : s.ccr1 = s.appliedServoPulseUs
  known : s.ccr1 = servoPwmDisabledUs ∨ s.ccr1 = servoPositionAUs ∨ s.ccr1 = servoPositionBUs
  pulse : s.led = true ∨ s.ccr1 ≠ servoPwmDisabledUs → ∃ command receivedMs, Once (Takes boot command receivedMs) past ∧
    since boot past (committed s.point) < expiry command receivedMs
  set : s.led = true ∨ s.ccr1 = servoPositionBUs → ∃ command receivedMs, Once (Takes boot command receivedMs) past ∧
    command.mask.toNat.testBit 0 = true ∧ command.values.toNat.testBit 0 = true

structure Drive (boot watchdogMs : Nat) (past : List McuMoment) (s : McuState) : Prop extends
    Paced boot watchdogMs past s,Hand boot past s,Pins boot past s where
  own : s.node.nodeId = canV1NodeId
  leased : Leased boot past (since boot past (checked s.point)) s.node
  queued : ∀ received ∈ s.rxQueue.contents, Queued boot past (since boot past (drained s.point)) received

theorem pins_later {m : McuMoment} (pins : Pins boot past m.before) (led : m.after.led = m.before.led)
    (ccr1 : m.after.ccr1 = m.before.ccr1) (applied : m.after.appliedServoPulseUs = m.before.appliedServoPulseUs)
    (lower : since boot (m :: past) (committed m.after.point) ≤ since boot past (committed m.before.point)) :
    Pins boot (m :: past) m.after := by
  constructor
  · rw [ccr1,applied]
    exact pins.register
  · rw [ccr1]
    exact pins.known
  · rw [led,ccr1]
    intro on
    obtain ⟨command,receivedMs,once,above⟩ := pins.pulse on
    exact ⟨command,receivedMs,once.later,Nat.lt_of_le_of_lt lower above⟩
  · rw [led,ccr1]
    intro on
    obtain ⟨command,receivedMs,once,bits⟩ := pins.set on
    exact ⟨command,receivedMs,once.later,bits⟩

theorem drive_moved {m : McuMoment} (drive : Drive boot watchdogMs past m.before) (paced : Paced boot watchdogMs (m :: past) m.after)
    (keeps : m.before.node.Keeps m.after.node) (nodeId : m.after.node.nodeId = m.before.node.nodeId) (rx : m.after.rxQueue = m.before.rxQueue) (led : m.after.led = m.before.led)
    (ccr1 : m.after.ccr1 = m.before.ccr1) (applied : m.after.appliedServoPulseUs = m.before.appliedServoPulseUs)
    (hand : Hand boot (m :: past) m.after)
    (check : since boot (m :: past) (checked m.after.point) ≤ since boot past (checked m.before.point))
    (drain : since boot (m :: past) (drained m.after.point) ≤ since boot past (drained m.before.point))
    (commit : since boot (m :: past) (committed m.after.point) ≤ since boot past (committed m.before.point)) :
    Drive boot watchdogMs (m :: past) m.after := by
  refine ⟨paced,hand,pins_later drive.toPins led ccr1 applied commit,nodeId.trans drive.own,leased_kept (leased_later drive.leased check) keeps,?_⟩
  rw [rx]
  exact fun received present => queued_later (drive.queued received present) drain

theorem drive_inside {m : McuMoment} (drive : Drive boot watchdogMs past m.before) (paced : Paced boot watchdogMs (m :: past) m.after)
    (inside : Inside m) (keeps : m.before.node.Keeps m.after.node) (nodeId : m.after.node.nodeId = m.before.node.nodeId) (rx : m.after.rxQueue = m.before.rxQueue)
    (led : m.after.led = m.before.led) (ccr1 : m.after.ccr1 = m.before.ccr1)
    (applied : m.after.appliedServoPulseUs = m.before.appliedServoPulseUs) (hand : Hand boot (m :: past) m.after)
    (check : checked m.after.point = checked m.before.point) (drain : drained m.after.point = drained m.before.point)
    (commit : committed m.after.point = committed m.before.point) : Drive boot watchdogMs (m :: past) m.after := by
  refine drive_moved drive paced keeps nodeId rx led ccr1 applied hand ?_ ?_ ?_
  · rw [since_inside boot past inside,check]
  · rw [since_inside boot past inside,drain]
  · rw [since_inside boot past inside,commit]

theorem hand_later {m : McuMoment} (hand : Hand boot past m.before) (inside : Inside m) (rx : m.after.rxQueue = m.before.rxQueue)
    (point : m.after.point = m.before.point) : Hand boot (m :: past) m.after := by
  constructor
  · rw [rx,point]
    exact hand.copying
  · rw [rx,point]
    exact hand.copied
  · rw [point]
    intro received here
    exact queued_later (hand.taken received here) (Nat.le_of_eq (inside.previous_same boot past))

theorem drive_received (drive : Drive boot watchdogMs past s) (frame : RcrCanFrame)
    (pushed : s.rxQueue.push {frame with receiveMs := s.monotonicMs} = some queue)
    (paced : Paced boot watchdogMs (⟨s,.receive frame,{s with rxQueue := queue}⟩ :: past) {s with rxQueue := queue}) :
    Drive boot watchdogMs (⟨s,.receive frame,{s with rxQueue := queue}⟩ :: past) {s with rxQueue := queue} := by
  have inside : Inside ⟨s,.receive frame,{s with rxQueue := queue}⟩ := interrupt_inside rfl rfl
  have contents := SpscRing.push_contents pushed
  obtain ⟨filled,front⟩ := SpscRing.push_front pushed
  refine ⟨paced,⟨fun _ => filled,?_,?_⟩,?_,drive.own,?_,?_⟩
  · intro received here
    obtain ⟨before,same⟩ := drive.copied received here
    exact ⟨filled,(front before).trans same⟩
  · intro received here
    exact queued_later (drive.taken received here) (Nat.le_of_eq (inside.previous_same boot past))
  · exact pins_later (m := ⟨s,.receive frame,{s with rxQueue := queue}⟩) drive.toPins rfl rfl rfl (Nat.le_of_eq (since_inside boot past inside _))
  · exact leased_later drive.leased (Nat.le_of_eq (since_inside boot past inside _))
  · intro received present
    rw [contents] at present
    rw [since_inside boot past inside]
    rcases List.mem_append.mp present with older | newest
    · exact queued_later (drive.queued received older) (Nat.le_refl _)
    · rw [List.mem_singleton.mp newest]
      have begun := drive.begun
      have order := drive.order
      refine ⟨time boot past,.now ⟨⟨frame,rfl,rfl⟩,contents,rfl⟩,drive.clock,?_,Nat.le_refl _⟩
      cases drained s.point with
      | false => exact Nat.le_trans order begun
      | true => exact begun

theorem drive_drained (drive : Drive boot watchdogMs past s) (here : s.point = .pop) (empty : s.rxQueue.tail = s.rxQueue.head)
    (paced : Paced boot watchdogMs (⟨s,.main inputs,{s with point := .expire}⟩ :: past) {s with point := .expire}) :
    Drive boot watchdogMs (⟨s,.main inputs,{s with point := .expire}⟩ :: past) {s with point := .expire} := by
  have inside : Inside ⟨s,.main inputs,{s with point := .expire}⟩ := main_inside (by rw [here]; nofun) nofun
  have leased := drive.leased
  rw [here] at leased
  refine ⟨paced,⟨nofun,nofun,nofun⟩,?_,drive.own,leased_later leased (Nat.le_of_eq (since_inside boot past inside false)),?_⟩
  · refine pins_later (m := ⟨s,.main inputs,{s with point := .expire}⟩) drive.toPins rfl rfl rfl ?_
    rw [since_inside boot past inside,here]
    exact Nat.le_refl _
  · intro received present
    have none : s.rxQueue.contents = [] := by
      apply List.eq_nil_of_length_eq_zero
      rw [s.rxQueue.contents_length,SpscRing.used,empty]
      simp
    rw [show ({s with point := .expire} : McuState).rxQueue.contents = [] from none] at present
    cases present

theorem drive_advanced (drive : Drive boot watchdogMs past s) (here : s.point = .advance received)
    (paced : Paced boot watchdogMs
      (⟨s,.main inputs,{s with rxQueue := s.rxQueue.advance,point := .apply received}⟩ :: past)
      {s with rxQueue := s.rxQueue.advance,point := .apply received}) :
    Drive boot watchdogMs (⟨s,.main inputs,{s with rxQueue := s.rxQueue.advance,point := .apply received}⟩ :: past)
      {s with rxQueue := s.rxQueue.advance,point := .apply received} := by
  have inside : Inside ⟨s,.main inputs,{s with rxQueue := s.rxQueue.advance,point := .apply received}⟩ :=
    main_inside (by rw [here]; nofun) nofun
  obtain ⟨filled,front⟩ := drive.copied received here
  have contents := s.rxQueue.front_contents filled
  have leased := drive.leased
  have queued := drive.queued
  rw [here] at leased queued
  refine ⟨paced,⟨nofun,nofun,?_⟩,?_,drive.own,leased_later leased (Nat.le_of_eq (since_inside boot past inside false)),?_⟩
  · rintro _ ⟨⟩
    refine queued_later (queued received ?_) (Nat.le_of_eq (inside.previous_same boot past))
    rw [contents,front]
    exact List.mem_cons_self
  · refine pins_later (m := ⟨s,.main inputs,{s with rxQueue := s.rxQueue.advance,point := .apply received}⟩) drive.toPins rfl rfl rfl ?_
    rw [since_inside boot past inside,here]
    exact Nat.le_refl _
  · intro other present
    refine queued_later (queued other ?_) (Nat.le_of_eq (since_inside boot past inside false))
    rw [contents]
    exact List.mem_cons_of_mem _ present

-- Main stands at a frame of this iteration or the last: the check against its
-- deadline is one on true time.
theorem frame_leased (drive : Drive boot watchdogMs past s) (short : watchdogMs ≤ 1000000000) (here : s.point = .apply received)
    (inputs : McuInputs) (next : McuState) :
    Leased boot (⟨s,.main inputs,next⟩ :: past) (previous boot past) (s.node.onFrame received s.monotonicMs).1 := by
  have apart : s.point ≠ .sense := by rw [here]; nofun
  have near := drive.since_previous apart
  have begun := Nat.le_trans drive.order drive.begun
  have leased := drive.leased
  rw [here] at leased
  change Leased boot past (previous boot past) s.node at leased
  rcases frame_exact s.node received s.monotonicMs with keeps | ⟨command,applied,sets⟩
  · exact leased_kept (leased_later leased (Nat.le_refl _)) keeps
  obtain ⟨receivedMs,once,stamp,low,high⟩ := drive.taken received here
  have takes : Once (Takes boot command receivedMs) (⟨s,.main inputs,next⟩ :: past) :=
    .now ⟨⟨inputs,received,rfl,here,drive.own ▸ sets.decoded,applied,once⟩,sets.session,sets.ready⟩
  refine ⟨fun _ => sets.active,?_,?_⟩
  · intro i on
    rw [sets.bits] at on
    rcases merged_bit _ _ _ i on with kept | ⟨masked,value⟩
    · rw [drive.clock] at kept
      have expired := leased_expired leased begun (Nat.le_refl _) near short
      exact (leased_later expired (Nat.le_refl _)).bits i kept
    · exact ⟨command,receivedMs,takes,masked,value⟩
  · intro _
    have fresh := sets.fresh
    have deadline := sets.deadline
    have longest : command.validity10ms.toNat < 256 := command.validity10ms.toNat_lt
    rw [stamp,deadline_ms] at fresh deadline
    rw [drive.clock,time_exact _ _ (by omega) (by omega)] at fresh
    simp only [decide_eq_false_iff_not,Nat.not_le] at fresh
    exact ⟨command,receivedMs,takes,deadline,Nat.lt_of_le_of_lt begun fresh,high⟩

theorem drive_applied (drive : Drive boot watchdogMs past s) (short : watchdogMs ≤ 1000000000) (here : s.point = .apply received)
    (lead : point = .pop ∨ ∃ outputStatus, point = .respond outputStatus)
    (next_eq : next = {s with node := (s.node.onFrame received s.monotonicMs).1,point := point,answers := answers})
    (paced : Paced boot watchdogMs (⟨s,.main inputs,next⟩ :: past) next) :
    Drive boot watchdogMs (⟨s,.main inputs,next⟩ :: past) next := by
  have leased := frame_leased drive short here inputs next
  have lasts : next.point ≠ .sense ∧ checked next.point = false ∧ drained next.point = false ∧ committed next.point = false ∧
      Hand boot (⟨s,.main inputs,next⟩ :: past) next := by
    rcases lead with rfl | ⟨_,rfl⟩ <;> subst next_eq <;> exact ⟨nofun,rfl,rfl,rfl,nofun,nofun,nofun⟩
  obtain ⟨lasts,check,drain,commit,hand⟩ := lasts
  have inside : Inside ⟨s,.main inputs,next⟩ := main_inside (by rw [here]; nofun) lasts
  have same := since_inside boot past inside
  have queued := drive.queued
  rw [here] at queued
  refine ⟨paced,hand,?_,?_,?_,?_⟩
  · refine pins_later (m := ⟨s,.main inputs,next⟩) drive.toPins (by rw [next_eq]) (by rw [next_eq]) (by rw [next_eq]) ?_
    rw [same,commit,here]
    exact Nat.le_refl _
  · rw [next_eq]
    exact (s.node.frame_held received s.monotonicMs).nodeId.trans drive.own
  · rw [same,check,show next.node = (s.node.onFrame received s.monotonicMs).1 by rw [next_eq]]
    exact leased
  · rw [same,drain,next_eq]
    exact fun other present => queued_later (queued other present) (Nat.le_refl _)

theorem drive_expired (drive : Drive boot watchdogMs past s) (short : watchdogMs ≤ 1000000000) (here : s.point = .expire)
    (next_eq : next = {s with node := (s.node.expireLease s.nowMs).1,point := .heartbeat})
    (paced : Paced boot watchdogMs (⟨s,.main inputs,next⟩ :: past) next) :
    Drive boot watchdogMs (⟨s,.main inputs,next⟩ :: past) next := by
  have apart : s.point ≠ .sense := by rw [here]; nofun
  have inside : Inside ⟨s,.main inputs,next⟩ := main_inside apart (by rw [next_eq]; nofun)
  have same := since_inside boot past inside
  have leased := drive.leased
  have queued := drive.queued
  rw [here] at leased queued
  have expired := leased_expired leased drive.order drive.begun (drive.since_previous apart) short
  refine ⟨paced,by rw [next_eq]; exact ⟨nofun,nofun,nofun⟩,?_,?_,?_,?_⟩
  · refine pins_later (m := ⟨s,.main inputs,next⟩) drive.toPins (by rw [next_eq]) (by rw [next_eq]) (by rw [next_eq]) ?_
    rw [same,here,next_eq]
    exact Nat.le_refl _
  · rw [next_eq]
    exact (s.node.expire_calm s.nowMs).nodeId.trans drive.own
  · rw [same,next_eq,drive.now]
    exact leased_later expired (Nat.le_refl _)
  · rw [same,next_eq]
    exact fun other present => queued_later (queued other present) (Nat.le_refl _)

theorem low_bit (bits : UInt8) : bits &&& 1 ≠ 0 ↔ bits.toNat.testBit 0 = true := by
  rw [Nat.testBit_zero,decide_eq_true_eq,ne_eq,← UInt8.toNat_inj,UInt8.toNat_and]
  simp [Nat.and_one_is_mod]

theorem committed_pins (drive : Drive boot watchdogMs past s) (here : s.point = .commit)
    (register : s.ccr1 = s.appliedServoPulseUs →
      ccr1 = servoPwmTargetUs s.node.leaseActive s.node.outputBits ∧ applied = servoPwmTargetUs s.node.leaseActive s.node.outputBits)
    (next_eq : next = {s with led := s.node.outputBits &&& 1 != 0,ccr1 := ccr1,appliedServoPulseUs := applied,point := .pump}) :
    Pins boot (⟨s,.main inputs,next⟩ :: past) next := by
  have inside : Inside ⟨s,.main inputs,next⟩ := main_inside (by rw [here]; nofun) (by rw [next_eq]; nofun)
  have same := since_inside boot past inside
  obtain ⟨target,recorded⟩ := register drive.register
  have leased := drive.leased
  rw [here] at leased
  have lit : next.led = true → s.node.outputBits.toNat.testBit 0 = true := by
    rw [next_eq]
    intro on
    exact (low_bit _).mp (by simpa using on)
  refine ⟨?_,?_,?_,?_⟩
  · rw [next_eq]
    exact target.trans recorded.symm
  · rw [next_eq]
    show ccr1 = _ ∨ ccr1 = _ ∨ ccr1 = _
    rw [target]
    exact McuState.target_known _ _
  · intro on
    have active : s.node.leaseActive = true := by
      rcases on with led | pulse
      · apply leased.driven
        intro zero
        have bit := lit led
        rw [zero] at bit
        simp at bit
      · rw [next_eq] at pulse
        change ccr1 ≠ _ at pulse
        rw [target] at pulse
        cases active : s.node.leaseActive with
        | true => rfl
        | false =>
            rw [active] at pulse
            exact absurd rfl pulse
    obtain ⟨command,receivedMs,once,_,above,_⟩ := leased.lease active
    refine ⟨command,receivedMs,once.later,?_⟩
    rw [same,next_eq]
    exact above
  · intro on
    have bit : s.node.outputBits.toNat.testBit 0 = true := by
      rcases on with led | position
      · exact lit led
      · rw [next_eq] at position
        change ccr1 = _ at position
        rw [target] at position
        unfold servoPwmTargetUs at position
        split at position
        · cases position
        · split at position
          · rename_i set
            exact (low_bit _).mp set
          · cases position
    obtain ⟨command,receivedMs,once,bits⟩ := leased.bits 0 bit
    exact ⟨command,receivedMs,once.later,bits⟩

theorem drive_committed (drive : Drive boot watchdogMs past s) (here : s.point = .commit)
    (register : s.ccr1 = s.appliedServoPulseUs →
      ccr1 = servoPwmTargetUs s.node.leaseActive s.node.outputBits ∧ applied = servoPwmTargetUs s.node.leaseActive s.node.outputBits)
    (next_eq : next = {s with led := s.node.outputBits &&& 1 != 0,ccr1 := ccr1,appliedServoPulseUs := applied,point := .pump})
    (paced : Paced boot watchdogMs (⟨s,.main inputs,next⟩ :: past) next) :
    Drive boot watchdogMs (⟨s,.main inputs,next⟩ :: past) next := by
  have inside : Inside ⟨s,.main inputs,next⟩ := main_inside (by rw [here]; nofun) (by rw [next_eq]; nofun)
  have same := since_inside boot past inside
  have leased := drive.leased
  have queued := drive.queued
  rw [here] at leased queued
  refine ⟨paced,by rw [next_eq]; exact ⟨nofun,nofun,nofun⟩,committed_pins drive here register next_eq,by rw [next_eq]; exact drive.own,?_,?_⟩
  · rw [same,next_eq]
    exact leased_later leased (Nat.le_refl _)
  · rw [same,next_eq]
    exact fun other present => queued_later (queued other present) (Nat.le_refl _)

theorem drive_preserved (drive : Drive boot watchdogMs past s) (short : watchdogMs ≤ 1000000000) (taken : s.step action = some next)
    (fed : Fed boot watchdogMs ⟨s,action,next⟩ past) : Drive boot watchdogMs (⟨s,action,next⟩ :: past) next := by
  have paced := paced_preserved drive.toPaced taken fed
  cases McuState.step_moves taken with
  | tick =>
      have inside : Inside ⟨s,.tick,{s with monotonicMs := s.monotonicMs + 1}⟩ := interrupt_inside rfl rfl
      have hand := hand_later drive.toHand inside rfl rfl
      exact drive_inside drive paced inside (.inl ⟨rfl,rfl,rfl⟩) rfl rfl rfl rfl rfl hand rfl rfl rfl
  | received frame pushed => exact drive_received drive frame pushed paced
  | refused frame =>
      have inside : Inside ⟨s,.receive frame,{s with rxOverflow := true}⟩ := interrupt_inside rfl rfl
      have hand := hand_later drive.toHand inside rfl rfl
      exact drive_inside drive paced inside (.inl ⟨rfl,rfl,rfl⟩) rfl rfl rfl rfl rfl hand rfl rfl rfl
  | @sensed inputs here debounce bits =>
      -- what the last iteration has done is now what the one before this has
      have shifted (next : McuState) : previous boot (⟨s,.main inputs,next⟩ :: past) = started boot past := by
        simp [previous,senses,isMain,here]
      refine drive_moved (m := ⟨s,.main inputs,_⟩) drive paced (.inl ⟨rfl,rfl,rfl⟩) rfl rfl rfl rfl rfl ⟨(by simp),(by simp),(by simp)⟩ ?_ ?_ ?_ <;>
        exact Nat.le_of_eq ((shifted _).trans (by simp only [here]; rfl))
  | @kicked inputs here =>
      have same : started boot (⟨s,.main inputs,{s with point := .sense}⟩ :: past) = started boot past := by
        simp [started,senses,here]
      refine drive_moved (m := ⟨s,.main inputs,_⟩) drive paced (.inl ⟨rfl,rfl,rfl⟩) rfl rfl rfl rfl rfl ⟨(by simp),(by simp),(by simp)⟩ ?_ ?_ ?_ <;>
        exact Nat.le_of_eq (same.trans (by simp only [here]; rfl))
  | drained here empty => exact drive_drained drive here empty paced
  | advanced here => exact drive_advanced drive here paced
  | applied here point answers lead => exact drive_applied drive short here lead rfl paced
  | expired here => exact drive_expired drive short here rfl paced
  | committed here ccr1 applied register => exact drive_committed drive here register rfl paced
  | waiting here filled =>
      exact drive_inside (m := ⟨s,.main _,_⟩) drive paced (main_inside (by simp [here]) (by simp)) (.inl ⟨rfl,rfl,rfl⟩) rfl rfl rfl rfl rfl
        ⟨fun _ => filled,(by simp),(by simp)⟩ (by simp only [here]; rfl) (by simp only [here]; rfl) (by simp only [here]; rfl)
  | copied here =>
      have filled := drive.copying here
      exact drive_inside (m := ⟨s,.main _,_⟩) drive paced (main_inside (by simp [here]) (by simp)) (.inl ⟨rfl,rfl,rfl⟩) rfl rfl rfl rfl rfl
        ⟨(by simp),fun _ same => ⟨filled,by cases same; rfl⟩,(by simp)⟩ (by simp only [here]; rfl) (by simp only [here]; rfl)
        (by simp only [here]; rfl)
  | @loaded inputs here queue mailboxes =>
      have inside : Inside ⟨s,.main inputs,{s with txQueue := queue,mailboxes := mailboxes}⟩ :=
        main_inside (by simp [here]) (by simp [here])
      exact drive_inside drive paced inside (.inl ⟨rfl,rfl,rfl⟩) rfl rfl rfl rfl rfl (hand_later drive.toHand inside rfl rfl) rfl rfl rfl
  | overflow here calm | busOff here calm | responded here calm | status here _ calm =>
      exact drive_inside (m := ⟨s,.main _,_⟩) drive paced (main_inside (by simp [here]) (by simp)) calm.lease calm.nodeId rfl rfl rfl rfl
        ⟨(by simp),(by simp),(by simp)⟩ (by simp only [here]; rfl) (by simp only [here]; rfl) (by simp only [here]; rfl)
  | heartbeat here _ calm =>
      exact drive_inside (m := ⟨s,.main _,_⟩) drive paced (main_inside (by simp [here]) (by simp))
        calm.lease calm.nodeId rfl rfl rfl rfl ⟨(by simp),(by simp),(by simp)⟩ (by simp only [here]; rfl) (by simp only [here]; rfl) (by simp only [here]; rfl)
  | noHeartbeat here | noStatus here =>
      exact drive_inside (m := ⟨s,.main _,_⟩) drive paced (main_inside (by simp [here]) (by simp)) (.inl ⟨rfl,rfl,rfl⟩) rfl rfl rfl rfl rfl
        ⟨(by simp),(by simp),(by simp)⟩ (by simp only [here]; rfl) (by simp only [here]; rfl) (by simp only [here]; rfl)

theorem start_drive (sessionId : UInt16) (identityReady : Bool) (boot watchdogMs : Nat) :
    Drive boot watchdogMs [] (McuState.start sessionId identityReady (clockMs boot)) := by
  refine ⟨start_paced sessionId identityReady boot watchdogMs,⟨nofun,nofun,nofun⟩,⟨rfl,.inl rfl,?_,?_⟩,rfl,neutral_leased ⟨rfl,rfl⟩,?_⟩
  · rintro (lit | pulse)
    · cases lit
    · exact absurd rfl pulse
  · rintro (lit | position)
    · cases lit
    · cases position
  · intro received present
    have none : FrameQueue.empty.contents = [] := by decide
    rw [show (McuState.start sessionId identityReady (clockMs boot)).rxQueue.contents = [] from none] at present
    cases present

structure Driven (boot watchdogMs : Nat) (m : McuMoment) (past : List McuMoment) : Prop where
  known : m.after.ccr1 = servoPwmDisabledUs ∨ m.after.ccr1 = servoPositionAUs ∨ m.after.ccr1 = servoPositionBUs
  pulse : m.after.led = true ∨ m.after.ccr1 ≠ servoPwmDisabledUs →
    ∃ command receivedMs, Once (Takes boot command receivedMs) (m :: past) ∧
      time boot (m :: past) < receivedMs + command.validity10ms.toNat * 10 + 2 * watchdogMs
  set : m.after.led = true ∨ m.after.ccr1 = servoPositionBUs →
    ∃ command receivedMs, Once (Takes boot command receivedMs) (m :: past) ∧
      command.mask.toNat.testBit 0 = true ∧ command.values.toNat.testBit 0 = true

theorem drive_driven (drive : Drive boot watchdogMs (m :: past) m.after) : Driven boot watchdogMs m past := by
  refine ⟨drive.known,?_,drive.set⟩
  intro on
  obtain ⟨command,receivedMs,once,above⟩ := drive.pulse on
  refine ⟨command,receivedMs,once,?_⟩
  have near := drive.since_done (committed m.after.point) fun here => by rw [here]; rfl
  exact Nat.lt_of_le_of_lt near (Nat.add_lt_add_right above _)

theorem pulse_leased (sessionId : UInt16) (identityReady : Bool) (boot watchdogMs : Nat) (short : watchdogMs ≤ 1000000000)
    (path : Reached McuState.step (McuState.start sessionId identityReady (clockMs boot)) history s)
    (fed : Throughout (Fed boot watchdogMs) history) : Throughout (Driven boot watchdogMs) history :=
  throughout_under (Drive boot watchdogMs) (start_drive sessionId identityReady boot watchdogMs)
    (fun _ _ _ _ drive taken fed => drive_preserved drive short taken fed)
    (fun _ _ _ _ drive taken fed => drive_driven (drive_preserved drive short taken fed)) path fed

def movedOnce : List McuAction :=
  .receive {canId := 0x061,dlc := 8,data := #v[1,1,0,7,0,1,1,1]} :: List.replicate 14 (.main {}) ++
    List.replicate 12 .tick ++ List.replicate 13 (.main {})

theorem movedOnce_runs :
    (replay McuState.step [] (McuState.start 7 true (clockMs 4294967290)) movedOnce).isSome = true := by decide +kernel

theorem pulse_leased_across_wrap :
    ∃ history s, Reached McuState.step (McuState.start 7 true (clockMs 4294967290)) history s ∧
      (history.any fun m => m.after.ccr1 == servoPositionBUs) = true ∧ s.ccr1 = servoPwmDisabledUs ∧
      Throughout (Driven 4294967290 1000) history := by
  have path := replayed_reached movedOnce movedOnce_runs
  refine ⟨_,_,path,?_,?_,pulse_leased 7 true 4294967290 1000 (by decide) path (by decide +kernel)⟩
  · decide +kernel
  · decide +kernel

end LoopTime

end RobotControlRuntime.Firmware
