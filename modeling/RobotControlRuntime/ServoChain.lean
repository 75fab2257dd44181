import RobotControlRuntime.CommandLine
import RobotControlRuntime.FirmwareDrive

-- The runtime and the microcontroller on one bus: from a command of the runtime to
-- the pulse of the servo.
namespace RobotControlRuntime
open StepHistory Firmware
open CommandLine (SentFor Traced LineInvariant)

-- What comes back to the runtime from the bus is left to the actions of the I/O
-- system; nothing here rests on it.
structure ServoLink where
  line : CommandLine
  mcu : McuState

inductive ServoAction where
  | io (action : IoAction)
  | main (inputs : McuInputs)
  | tick
  | deliver
  | lose
  | foreign (frame : RcrCanFrame)

namespace ServoLink

def commandId : UInt32 := (makeId fnOutputCommand canV1NodeId).toUInt32

def fromBus (frame : CanFrame) : RcrCanFrame :=
  let extended := frame.canId &&& CanV1.effFlag != 0
  {canId := frame.canId &&& (if extended then 0x1FFFFFFF else CanV1.sffMask)
   dlc := frame.len
   data := frame.data
   extended := extended
   rtr := frame.canId &&& CanV1.rtrFlag != 0}

-- Other stations send what they like, but no command to this node.
def step (s : ServoLink) : ServoAction → Option ServoLink
  | .io action =>
    match s.line.step (.io action) with
    | none => none
    | some line => some {s with line := line}
  | .main inputs => some {s with mcu := s.mcu.mainStep inputs}
  | .tick => some {s with mcu := {s.mcu with monotonicMs := s.mcu.monotonicMs + 1}}
  | .deliver =>
    match s.line.frames with
    | [] => none
    | sent :: rest => some ⟨{s.line with frames := rest},s.mcu.rxInterrupt (fromBus sent.frame)⟩
  | .lose =>
    match s.line.frames with
    | [] => none
    | _ :: rest => some {s with line := {s.line with frames := rest}}
  | .foreign frame => if frame.canId = commandId then none else some {s with mcu := s.mcu.rxInterrupt frame}

inductive Steps (s : ServoLink) : ServoAction → ServoLink → Prop where
  | io (moved : s.line.step (.io action) = some sending) : Steps s (.io action) {s with line := sending}
  | main : Steps s (.main inputs) {s with mcu := s.mcu.mainStep inputs}
  | tick : Steps s .tick {s with mcu := {s.mcu with monotonicMs := s.mcu.monotonicMs + 1}}
  | delivered (waiting : s.line.frames = first :: rest) :
      Steps s .deliver ⟨{s.line with frames := rest},s.mcu.rxInterrupt (fromBus first.frame)⟩
  | lost (waiting : s.line.frames = first :: rest) : Steps s .lose {s with line := {s.line with frames := rest}}
  | foreign (other : frame.canId ≠ commandId) : Steps s (.foreign frame) {s with mcu := s.mcu.rxInterrupt frame}

theorem step_exact (taken : step s action = some next) : Steps s action next := by
  cases action with
  | io action =>
      simp only [step] at taken
      split at taken
      · cases taken
      · rename_i moved
        cases taken
        exact .io moved
  | main inputs => cases taken; exact .main
  | tick => cases taken; exact .tick
  | deliver =>
      simp only [step] at taken
      split at taken
      · cases taken
      · rename_i waiting
        cases taken
        exact .delivered waiting
  | lose =>
      simp only [step] at taken
      split at taken
      · cases taken
      · rename_i waiting
        cases taken
        exact .lost waiting
  | foreign frame =>
      simp only [step] at taken
      split at taken
      · cases taken
      · rename_i other
        cases taken
        exact .foreign other

def lineAction (_ : ServoLink) : ServoAction → Option LineAction
  | .io action => some (.io action)
  | .deliver | .lose => some .take
  | _ => none

def mcuAction (s : ServoLink) : ServoAction → Option McuAction
  | .main inputs => some (.main inputs)
  | .tick => some .tick
  | .deliver =>
    match s.line.frames with
    | [] => none
    | sent :: _ => some (.receive (fromBus sent.frame))
  | .foreign frame => some (.receive frame)
  | _ => none

theorem line_simulates : Simulates ServoLink.line lineAction step CommandLine.step := by
  intro s action next taken
  cases step_exact taken with
  | io moved => exact moved
  | delivered waiting | lost waiting => simp only [lineAction,CommandLine.step,waiting]
  | main | tick | foreign _ => rfl

theorem mcu_simulates : Simulates ServoLink.mcu mcuAction step McuState.step := by
  intro s action next taken
  cases step_exact taken with
  | delivered waiting => simp only [mcuAction,waiting,McuState.step]
  | io _ | main | tick | lost _ | foreign _ => rfl

abbrev ServoMoment := Moment ServoLink ServoAction

def lineHistory (past : List ServoMoment) : List CommandLine.LineMoment := projected ServoLink.line lineAction past

def mcuHistory (past : List ServoMoment) : List McuMoment := projected ServoLink.mcu mcuAction past

def Carried (boot : Nat) (command : OutputCommand) (sentNs : Int) (receivedMs : Nat) (m : ServoMoment) (past : List ServoMoment) :
    Prop :=
  ∃ sent rest, m.action = .deliver ∧ m.before.line.frames = sent :: rest ∧ LoopTime.time boot (mcuHistory past) = receivedMs ∧
    Once (SentFor command sentNs sent) (lineHistory past)

def Sourced (boot : Nat) (nodeId : UInt8) (past : List ServoMoment) (received : RcrCanFrame) (receivedMs : Nat) : Prop :=
  ∃ command sentNs wire frame, toWireCommand command nodeId sentNs = .ok wire ∧ CanV1.encodeOutputCommand wire = .ok frame ∧
    (∃ receiveMs, received = {fromBus frame with receiveMs := receiveMs}) ∧ Once (Carried boot command sentNs receivedMs) past

structure SourceInvariant (boot : Nat) (nodeId : UInt8) (past : List ServoMoment) (s : ServoLink) : Prop where
  line : LineInvariant nodeId (lineHistory past) s.line
  sourced : ∀ received receivedMs, Once (LoopTime.Receives boot received receivedMs) (mcuHistory past) →
    received.canId = commandId → Sourced boot nodeId past received receivedMs

theorem sourced_later (sourced : Sourced boot nodeId past received receivedMs) : Sourced boot nodeId (m :: past) received receivedMs := by
  obtain ⟨command,sentNs,wire,frame,wired,encoded,stamped,once⟩ := sourced
  exact ⟨command,sentNs,wire,frame,wired,encoded,stamped,once.later⟩

theorem sourced_call {m : ServoMoment} (invariant : SourceInvariant boot nodeId past m.before)
    (called : mcuAction m.before m.action = some call)
    (now : ∀ received receivedMs, LoopTime.Receives boot received receivedMs ⟨m.before.mcu,call,m.after.mcu⟩ (mcuHistory past) →
      received.canId = commandId → Sourced boot nodeId (m :: past) received receivedMs)
    (received : RcrCanFrame) (receivedMs : Nat) (once : Once (LoopTime.Receives boot received receivedMs) (mcuHistory (m :: past)))
    (mine : received.canId = commandId) : Sourced boot nodeId (m :: past) received receivedMs := by
  rw [mcuHistory,projected_call called] at once
  rcases once with marked | ⟨_,earlier⟩
  · exact now received receivedMs marked mine
  · exact sourced_later (invariant.sourced received receivedMs earlier mine)

theorem source_preserved (invariant : SourceInvariant boot nodeId past s) (taken : step s action = some next) :
    SourceInvariant boot nodeId (⟨s,action,next⟩ :: past) next := by
  refine ⟨projected_invariant line_simulates (LineInvariant nodeId) (fun _ _ _ _ => CommandLine.line_preserved) invariant.line taken,?_⟩
  cases step_exact taken with
  | io _ | lost _ => exact fun received receivedMs once mine => sourced_later (invariant.sourced received receivedMs once mine)
  | main | tick =>
      refine sourced_call (m := ⟨s,_,_⟩) invariant rfl ?_
      rintro received receivedMs ⟨⟨_,⟨⟩,_⟩,_,_⟩
  | foreign other =>
      refine sourced_call (m := ⟨s,_,_⟩) invariant rfl ?_
      rintro received receivedMs ⟨⟨frame,⟨⟩,rfl⟩,_,_⟩ mine
      exact absurd mine other
  | @delivered sent rest waiting =>
      have received : mcuAction s .deliver = some (.receive (fromBus sent.frame)) := by simp only [mcuAction,waiting]
      refine sourced_call (m := ⟨s,.deliver,_⟩) invariant received ?_
      rintro received receivedMs ⟨⟨frame,⟨⟩,rfl⟩,_,at_time⟩ _
      obtain ⟨command,sentNs,wire,wired,encoded,once⟩ := invariant.line.traced sent (by rw [waiting]; exact List.mem_cons_self)
      exact ⟨command,sentNs,wire,sent.frame,wired,encoded,⟨_,rfl⟩,.now ⟨sent,rest,rfl,waiting,at_time,once⟩⟩

theorem mask_small (small : canId ≤ CanV1.sffMask) : canId &&& CanV1.sffMask = canId := by
  have small : canId.toNat ≤ 2047 := UInt32.le_iff_toNat_le.mp small
  apply UInt32.toNat_inj.mp
  rw [UInt32.toNat_and]
  exact (Nat.and_two_pow_sub_one_eq_mod canId.toNat 11).trans (Nat.mod_eq_of_lt (by omega))

theorem bus_decoded (encoded : CanV1.encodeOutputCommand wire = .ok frame)
    (decoded : decodeOutputCommand {fromBus frame with receiveMs := receiveMs} canV1NodeId = some command) : command = wire := by
  obtain ⟨formed,rfl⟩ := (CanV1.command_encoded wire).mp encoded
  have addressed := CanV1.make_addressed .outputCommand wire.nodeId formed.node.2
  have small := CanV1.make_small .outputCommand wire.nodeId formed.node.2
  have low : CanV1.makeCanId .outputCommand wire.nodeId &&& CanV1.sffMask = CanV1.makeCanId .outputCommand wire.nodeId :=
    mask_small small
  have seen : fromBus {canId := CanV1.makeCanId .outputCommand wire.nodeId,len := 8,data := wire.payload} =
      {canId := CanV1.makeCanId .outputCommand wire.nodeId,dlc := 8,data := wire.payload} := by
    simp [fromBus,addressed.standard,addressed.data,low]
  rw [seen] at decoded
  have standard : Standard {canId := CanV1.makeCanId .outputCommand wire.nodeId,dlc := 8,data := wire.payload,receiveMs := receiveMs} :=
    ⟨rfl,rfl,small⟩
  have read := ((decoder_agrees standard ⟨by decide,by decide⟩ command).mp decoded).1
  rw [standard_wire standard,CanV1.command_roundtrip wire encoded] at read
  cases read
  rfl

structure Chained (boot : Nat) (nodeId : UInt8) (command : OutputCommand) (sentNs : Int) (receivedMs : Nat)
    (history : List ServoMoment) : Prop where
  carried : Once (Carried boot command sentNs receivedMs) history
  applied : ∃ wire, toWireCommand command nodeId sentNs = .ok wire ∧ Once (LoopTime.Takes boot wire receivedMs) (mcuHistory history)

theorem takes_chained (invariant : SourceInvariant boot nodeId history s)
    (once : Once (LoopTime.Takes boot taken receivedMs) (mcuHistory history)) :
    ∃ command sentNs, Chained boot nodeId command sentNs receivedMs history ∧ toWireCommand command nodeId sentNs = .ok taken := by
  obtain ⟨_,_,takes,earlier⟩ := once.at
  obtain ⟨inputs,received,_,_,decoded,_,receives⟩ := takes.applied
  have mine : received.canId = commandId := by
    unfold decodeOutputCommand at decoded
    split at decoded
    · cases decoded
    · rename_i passed
      simp only [not_or,not_not] at passed
      exact passed.2.2.2.2.2.1
  obtain ⟨command,sentNs,wire,frame,wired,encoded,⟨receiveMs,rfl⟩,carried⟩ :=
    invariant.sourced received receivedMs (earlier _ receives) mine
  cases bus_decoded encoded decoded
  exact ⟨command,sentNs,⟨carried,taken,wired,once⟩,wired⟩

-- What may be said of the pins at each moment of a run, down to the commands of
-- the runtime. Times of the runtime are in nanoseconds.
structure Moved (boot watchdogMs : Nat) (nodeId : UInt8) (m : ServoMoment) (past : List ServoMoment) : Prop where
  pulse : m.after.mcu.led = true ∨ m.after.mcu.ccr1 ≠ servoPwmDisabledUs →
    ∃ command sentNs receivedMs, Chained boot nodeId command sentNs receivedMs (m :: past) ∧ sentNs < command.deadlineNs ∧
      ((LoopTime.time boot (mcuHistory (m :: past)) : Int) - receivedMs) * 1000000 <
        (command.deadlineNs - sentNs) + 10000000 + 2 * watchdogMs * 1000000
  set : m.after.mcu.led = true ∨ m.after.mcu.ccr1 = servoPositionBUs →
    ∃ command sentNs receivedMs, Chained boot nodeId command sentNs receivedMs (m :: past) ∧
      command.mask.toNat.testBit 0 = true ∧ command.values.toNat.testBit 0 = true

theorem drive_moved (invariant : SourceInvariant boot nodeId (m :: past) m.after)
    (drive : LoopTime.Drive boot watchdogMs (mcuHistory (m :: past)) m.after.mcu) : Moved boot watchdogMs nodeId m past where
  pulse := by
    intro on
    obtain ⟨wire,receivedMs,once,above⟩ := drive.pulse on
    obtain ⟨command,sentNs,chained,wired⟩ := takes_chained invariant once
    obtain ⟨fresh,_,left⟩ := wire_left wired
    refine ⟨command,sentNs,receivedMs,chained,fresh,?_⟩
    have near := drive.since_done (LoopTime.committed m.after.mcu.point) fun here => by rw [here]; rfl
    simp only [LoopTime.expiry] at above
    omega
  set := by
    intro on
    obtain ⟨wire,receivedMs,once,masked,value⟩ := drive.set on
    obtain ⟨command,sentNs,chained,wired⟩ := takes_chained invariant once
    exact ⟨command,sentNs,receivedMs,chained,wire_bit wired 0 masked value⟩

def launched (config : RuntimeConfig) (queue : BoundedInputQueue) (nodeId : UInt8) (sessionId : UInt16) (identityReady : Bool)
    (clock : UInt32) : ServoLink :=
  ⟨{io := .launched (.construct config) queue nodeId},.start sessionId identityReady clock⟩

theorem launched_source (config : RuntimeConfig) (queue : BoundedInputQueue) (nodeId : UInt8) (sessionId : UInt16)
    (identityReady : Bool) (boot : Nat) (clock : UInt32) :
    SourceInvariant boot nodeId [] (launched config queue nodeId sessionId identityReady clock) :=
  ⟨CommandLine.launched_line config queue nodeId,fun _ _ none => none.elim⟩

theorem servo_chained (config : RuntimeConfig) (queue : BoundedInputQueue) (nodeId : UInt8) (sessionId : UInt16)
    (identityReady : Bool) (boot watchdogMs : Nat) (short : watchdogMs ≤ 1000000000)
    (path : Reached step (launched config queue nodeId sessionId identityReady (clockMs boot)) history s)
    (fed : Throughout (LoopTime.Fed boot watchdogMs) (mcuHistory history)) :
    Throughout (Moved boot watchdogMs nodeId) history := by
  induction path with
  | start => trivial
  | @step past s action next prior taken ih =>
      refine ⟨?_,ih (projected_throughout fed)⟩
      have path := Reached.step prior taken
      have invariant : SourceInvariant boot nodeId (⟨s,action,next⟩ :: past) next :=
        reached_invariant (SourceInvariant boot nodeId) (launched_source config queue nodeId sessionId identityReady boot _)
          (fun _ _ _ _ invariant taken => source_preserved invariant taken) path
      have drive : LoopTime.Drive boot watchdogMs (mcuHistory (⟨s,action,next⟩ :: past)) next.mcu :=
        reached_under (LoopTime.Drive boot watchdogMs) (LoopTime.start_drive sessionId identityReady boot watchdogMs)
          (fun _ _ _ _ drive taken fed => LoopTime.drive_preserved drive short taken fed) (projected_reached mcu_simulates path) fed
      exact drive_moved invariant drive

def turned : List ServoAction :=
  IoSystem.activated.map .io ++ (IoSystem.transmitted ⟨7,1,900000000,1,1⟩ 100).map .io ++
    [.foreign {canId := 0x062,dlc := 8},.deliver] ++ List.replicate 18 (.main {})

theorem turned_runs : (replay step [] (launched {} (.construct 4) 1 7 true (clockMs 0)) turned).isSome = true := by
  decide +kernel

theorem servo_chained_turned :
    ∃ history s, Reached step (launched {} (.construct 4) 1 7 true (clockMs 0)) history s ∧
      s.mcu.ccr1 = servoPositionBUs ∧ Throughout (Moved 0 1000 1) history := by
  have path := replayed_reached turned turned_runs
  refine ⟨_,_,path,?_,servo_chained {} _ 1 7 true 0 1000 (by decide) path (by decide +kernel)⟩
  decide +kernel

end ServoLink

end RobotControlRuntime
