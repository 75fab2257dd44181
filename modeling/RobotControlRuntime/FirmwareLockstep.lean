import RobotControlRuntime.FirmwareNode
import RobotControlRuntime.Library.FixedWidth
import RobotControlRuntime.Library.StepHistory
import RobotControlRuntime.NodeSim

-- The node of the firmware and the simulated node, side by side on one true time
-- in milliseconds: the firmware sees it modulo 2^32, the simulator in nanoseconds.
namespace RobotControlRuntime.Firmware
open StepHistory FixedWidth
open CanV1 (WireOutputCommand WireOutputStatus)

section Clock

def clockMs (time : Nat) : UInt32 := UInt32.ofNat time

def clockNs (time : Nat) : Int := time * 1000000

theorem distance_exact (now since : Nat) (low : since ≤ now + 2 ^ 31) (high : now < since + 2 ^ 31) :
    ((clockMs now) - (clockMs since)).toInt32.toInt = (now : Int) - since := by
  have distance : ((clockMs now) - (clockMs since)).toInt32.toInt =
      ahead (2 ^ 31) (now % (2 * 2 ^ 31)) (since % (2 * 2 ^ 31)) :=
    difference_ahead (clockMs now).toBitVec (clockMs since).toBitVec
  rw [distance]
  exact ahead_wrapped now since (by omega) (by omega)

theorem time_exact (now deadline : Nat) (low : deadline ≤ now + 2 ^ 31) (high : now < deadline + 2 ^ 31) :
    timeAfterOrEqual (clockMs now) (clockMs deadline) = decide (deadline ≤ now) := by
  rw [timeAfterOrEqual,decide_eq_decide,Int32.le_iff_toInt_le,distance_exact now deadline low high]
  simp only [Int32.toInt_zero]
  omega

theorem deadline_ms (receive : Nat) (validity : UInt8) :
    clockMs receive + validity.toUInt32 * 10 = clockMs (receive + validity.toNat * 10) := by
  apply UInt32.toNat_inj.mp
  simp [clockMs]

theorem deadline_ns (receive : Nat) (validity : UInt8) :
    CanV1.deadlineFromValidity10ms (clockNs receive) validity = clockNs (receive + validity.toNat * 10) := by
  simp only [CanV1.deadlineFromValidity10ms,CanV1.validityUnitNs,clockNs]
  omega

theorem clock_le (a b : Nat) : clockNs a ≤ clockNs b ↔ a ≤ b := by
  simp only [clockNs]
  omega

end Clock

structure Lockstep where
  firmware : RcrNode
  simulator : CanNodeLogic
  lastMs : Option Nat := none

inductive LockstepCall where
  | applyCommand (command : WireOutputCommand) (receiveMs nowMs : Nat)
  | expireLease (nowMs : Nat)
  | setBusReady (ready : Bool)
  | latchInternalFault

namespace Lockstep

def readied (s : Lockstep) (firmware : RcrNode) : Lockstep :=
  {s with firmware := firmware,simulator := s.simulator.setInterlockReady firmware.interlockReady}

def step (s : Lockstep) : LockstepCall → Option Lockstep
  | .applyCommand command receiveMs nowMs =>
    some {firmware := (s.firmware.applyCommand command (clockMs receiveMs) (clockMs nowMs)).1
          simulator := (s.simulator.applyCommand command (clockNs receiveMs) (clockNs nowMs)).1
          lastMs := some nowMs}
  | .expireLease nowMs =>
    some {firmware := (s.firmware.expireLease (clockMs nowMs)).1
          simulator := (s.simulator.expireOutputLease (clockNs nowMs)).1
          lastMs := some nowMs}
  | .setBusReady ready => some (s.readied (s.firmware.setBusReady ready))
  | .latchInternalFault => some (s.readied s.firmware.latchInternalFault)

def start (nodeId : UInt8) (bootId : UInt16) (identityReady : Bool) (config : CanNodeConfig) : Lockstep :=
  {firmware := .init nodeId bootId config.sessionId identityReady
   simulator := .construct {config with interlockReady := identityReady}}

abbrev LockstepMoment := Moment Lockstep LockstepCall

def Follows (lastMs : Option Nat) (nowMs : Nat) : Prop :=
  ∀ last, lastMs = some last → last ≤ nowMs ∧ nowMs < last + (2 ^ 31 - 2500)

def Timely (m : LockstepMoment) (_ : List LockstepMoment) : Prop :=
  match m.action with
  | .applyCommand _ receiveMs nowMs =>
    Follows m.before.lastMs nowMs ∧ receiveMs ≤ nowMs ∧ nowMs < receiveMs + (2 ^ 31 - 2500)
  | .expireLease nowMs => Follows m.before.lastMs nowMs
  | .setBusReady _ => True
  | .latchInternalFault => True

structure SameOutput (firmware : RcrNode) (simulator : CanNodeLogic) : Prop where
  output : firmware.outputBits = simulator.outputBits
  active : firmware.leaseActive = simulator.outputLeaseActive
  accepted : firmware.hasAcceptedSequence = simulator.hasAcceptedSequence
  last : firmware.lastAcceptedSequence = simulator.lastAcceptedSequence

structure SameAnswer (left right : WireOutputStatus) : Prop where
  result : left.result = right.result
  session : left.sessionId = right.sessionId
  sequence : left.sequence = right.sequence
  mirror : left.outputMirror = right.outputMirror

structure InStep (m : LockstepMoment) (past : List LockstepMoment) : Prop where
  state : SameOutput m.after.firmware m.after.simulator
  answer : ∀ command receiveMs nowMs, m.action = .applyCommand command receiveMs nowMs →
    SameAnswer (m.before.firmware.applyCommand command (clockMs receiveMs) (clockMs nowMs)).2.2
      (m.before.simulator.applyCommand command (clockNs receiveMs) (clockNs nowMs)).2.status

-- An active lease has one true deadline, ahead of the last time by no more than
-- the longest validity a byte can hold.
structure SameDeadline (firmware : RcrNode) (simulator : CanNodeLogic) (lastMs : Option Nat) (deadline : Nat) :
    Prop where
  ms : firmware.leaseDeadlineMs = clockMs deadline
  ns : simulator.outputLeaseDeadlineNs = clockNs deadline
  near : ∃ last, lastMs = some last ∧ last < deadline ∧ deadline ≤ last + 2550

structure Mirror (firmware : RcrNode) (simulator : CanNodeLogic) (lastMs : Option Nat) : Prop
    extends SameOutput firmware simulator where
  session : firmware.sessionId = simulator.sessionId
  ready : firmware.interlockReady = simulator.config.interlockReady
  unready : firmware.interlockReady = false → firmware.outputBits = 0 ∧ firmware.leaseActive = false
  deadline : firmware.leaseActive = true → ∃ deadline, SameDeadline firmware simulator lastMs deadline

section Mirrored
variable {node : RcrNode} {twin : CanNodeLogic} {previous : Option Nat}

theorem expire_mirror (mirror : Mirror node twin previous) (follows : Follows previous nowMs) :
    Mirror (node.expireLease (clockMs nowMs)).1 (twin.expireOutputLease (clockNs nowMs)).1 (some nowMs) := by
  unfold RcrNode.expireLease CanNodeLogic.expireOutputLease
  rw [← mirror.active]
  cases active : node.leaseActive with
  | false =>
      refine ⟨mirror.toSameOutput,mirror.session,mirror.ready,mirror.unready,?_⟩
      intro held
      cases active.symm.trans held
  | true =>
      obtain ⟨deadline,ms,ns,last,known,open_,near⟩ := mirror.deadline active
      obtain ⟨later,soon⟩ := follows last known
      rw [ms,ns,time_exact nowMs deadline (by omega) (by omega)]
      by_cases ended : deadline ≤ nowMs
      · have passed : ¬ clockNs nowMs < clockNs deadline := Int.not_lt.mpr ((clock_le _ _).mpr ended)
        simp only [ended,passed,decide_true,decide_false,Bool.not_true,Bool.or_self,Bool.false_eq_true,if_false]
        exact ⟨⟨rfl,rfl,mirror.accepted,mirror.last⟩,mirror.session,mirror.ready,fun _ => ⟨rfl,rfl⟩,nofun⟩
      · have held : clockNs nowMs < clockNs deadline := Int.not_le.mp fun passed => ended ((clock_le _ _).mp passed)
        simp only [ended,held,decide_true,decide_false,Bool.not_false,Bool.or_true,if_true]
        exact ⟨mirror.toSameOutput,mirror.session,mirror.ready,mirror.unready,
          fun _ => ⟨deadline,ms,ns,nowMs,rfl,by omega,by omega⟩⟩

theorem apply_mirror (mirror : Mirror node twin previous) (follows : Follows previous nowMs)
    (received : receiveMs ≤ nowMs ∧ nowMs < receiveMs + (2 ^ 31 - 2500)) (command : WireOutputCommand) :
    Mirror (node.applyCommand command (clockMs receiveMs) (clockMs nowMs)).1
        (twin.applyCommand command (clockNs receiveMs) (clockNs nowMs)).1 (some nowMs) ∧
      SameAnswer (node.applyCommand command (clockMs receiveMs) (clockMs nowMs)).2.2
        (twin.applyCommand command (clockNs receiveMs) (clockNs nowMs)).2.status := by
  have expired := expire_mirror mirror follows
  have short := command.validity10ms.toNat_lt
  unfold RcrNode.applyCommand CanNodeLogic.applyCommand
  dsimp only
  generalize (node.expireLease (clockMs nowMs)).1 = node at expired
  generalize (twin.expireOutputLease (clockNs nowMs)).1 = twin at expired
  -- The two nodes test the same conditions in the same order.
  rw [deadline_ms,deadline_ns,time_exact nowMs _ (by omega) (by omega),newer_same,expired.session,expired.ready,
    expired.accepted,expired.last,expired.output]
  simp only [decide_eq_true_eq,clock_le]
  split
  · exact ⟨expired,rfl,rfl,rfl,rfl⟩
  · split
    · exact ⟨expired,rfl,rfl,rfl,rfl⟩
    · rename_i ready
      split
      · exact ⟨expired,rfl,rfl,rfl,rfl⟩
      · split
        · exact ⟨expired,rfl,rfl,rfl,rfl⟩
        · rename_i fresh
          refine ⟨⟨⟨rfl,rfl,rfl,rfl⟩,rfl,expired.ready,?_,?_⟩,rfl,rfl,rfl,rfl⟩
          · intro unready
            have ready : node.interlockReady = true := by rw [expired.ready]; simpa using ready
            cases ready.symm.trans unready
          · intro _
            exact ⟨_,rfl,rfl,nowMs,rfl,by omega,by omega⟩

-- A node that is not ready holds no output, and the simulator gives its own up
-- when it is told.
theorem lost_mirror (mirror : Mirror node twin previous) {next : RcrNode}
    (session : next.sessionId = node.sessionId) (accepted : next.hasAcceptedSequence = node.hasAcceptedSequence)
    (last : next.lastAcceptedSequence = node.lastAcceptedSequence)
    (neutral : next.outputBits = 0 ∧ next.leaseActive = false) (lost : next.interlockReady = false) :
    Mirror next (twin.setInterlockReady next.interlockReady) previous := by
  rw [lost]
  refine ⟨⟨neutral.1,neutral.2,accepted.trans mirror.accepted,last.trans mirror.last⟩,session.trans mirror.session,lost,
    fun _ => neutral,?_⟩
  intro active
  cases neutral.2.symm.trans active

theorem bus_mirror (mirror : Mirror node twin previous) (ready : Bool) :
    Mirror (node.setBusReady ready) (twin.setInterlockReady (node.setBusReady ready).interlockReady) previous := by
  cases ready with
  | false =>
      refine lost_mirror mirror rfl rfl rfl ⟨rfl,rfl⟩ ?_
      simp [RcrNode.setBusReady,RcrNode.neutralizeOutput,RcrNode.interlockReady]
  | true =>
      cases regained : (node.setBusReady true).interlockReady with
      | true =>
          refine ⟨⟨mirror.output,mirror.active,mirror.accepted,mirror.last⟩,mirror.session,regained,?_,?_⟩
          · intro lost
            cases regained.symm.trans lost
          · intro active
            obtain ⟨deadline,ms,ns,near⟩ := mirror.deadline active
            exact ⟨deadline,ms,ns,near⟩
      | false =>
          -- Another reason keeps the node from being ready, so it was not before.
          have unready : node.interlockReady = false := by
            have kept : (node.identityReady && true && !node.fatalLatched) = false := regained
            simp only [RcrNode.interlockReady]
            revert kept
            cases node.identityReady <;> cases node.busReady <;> cases node.fatalLatched <;> decide
          rw [← regained]
          exact lost_mirror mirror rfl rfl rfl (mirror.unready unready) regained

theorem latch_mirror (mirror : Mirror node twin previous) :
    Mirror node.latchInternalFault (twin.setInterlockReady node.latchInternalFault.interlockReady) previous := by
  refine lost_mirror mirror rfl rfl rfl ⟨rfl,rfl⟩ ?_
  simp [RcrNode.latchInternalFault,RcrNode.neutralizeOutput,RcrNode.interlockReady]

end Mirrored

def Mirrors (s : Lockstep) : Prop := Mirror s.firmware s.simulator s.lastMs

theorem start_mirrors (nodeId : UInt8) (bootId : UInt16) (identityReady : Bool) (config : CanNodeConfig) :
    Mirrors (start nodeId bootId identityReady config) := by
  refine ⟨⟨rfl,rfl,rfl,rfl⟩,rfl,?_,fun _ => ⟨rfl,rfl⟩,nofun⟩
  simp [start,RcrNode.init,RcrNode.interlockReady,CanNodeLogic.construct]

theorem mirrors_preserved (mirrors : Mirrors s) (taken : step s action = some next)
    (timely : Timely ⟨s,action,next⟩ past) : Mirrors next := by
  cases action with
  | applyCommand command receiveMs nowMs =>
      cases taken
      exact (apply_mirror mirrors timely.1 timely.2 command).1
  | expireLease nowMs =>
      cases taken
      exact expire_mirror mirrors timely
  | setBusReady ready =>
      cases taken
      exact bus_mirror mirrors ready
  | latchInternalFault =>
      cases taken
      exact latch_mirror mirrors

theorem mirrors_in_step (mirrors : Mirrors s) (taken : step s action = some next)
    (timely : Timely ⟨s,action,next⟩ past) : InStep ⟨s,action,next⟩ past := by
  refine ⟨(mirrors_preserved mirrors taken timely).toSameOutput,?_⟩
  rintro command receiveMs nowMs rfl
  exact (apply_mirror mirrors timely.1 timely.2 command).2

theorem firmware_in_step (nodeId : UInt8) (bootId : UInt16) (identityReady : Bool) (config : CanNodeConfig)
    (path : Reached step (start nodeId bootId identityReady config) history s) (met : Throughout Timely history) :
    Throughout InStep history :=
  throughout_under (fun _ s => Mirrors s) (start_mirrors nodeId bootId identityReady config)
    (fun _ _ _ _ mirrors taken timely => mirrors_preserved mirrors taken timely)
    (fun _ _ _ _ mirrors taken timely => mirrors_in_step mirrors taken timely) path met

def acrossWrap : List LockstepCall :=
  [.applyCommand ⟨1,0x03,1,1,0x03,5⟩ 4294967290 4294967290,.expireLease 4294967330,.expireLease 4294967340,
   .applyCommand ⟨1,0x01,1,2,0x01,250⟩ 4294967340 4294967350,.setBusReady false,.setBusReady true,.latchInternalFault,
   .setBusReady true,.applyCommand ⟨1,0x01,1,3,0x01,250⟩ 4294967400 4294967400]

theorem firmware_in_step_wrapped :
    ∃ history s, Reached step (start 1 1 true {}) history s ∧ history.length = 9 ∧ Throughout InStep history := by
  have path : Reached step (start 1 1 true {}) _ _ := replay_reached acrossWrap .start rfl
  refine ⟨_,_,path,rfl,firmware_in_step 1 1 true {} path ⟨?_,trivial,trivial,trivial,trivial,?_,?_,?_,?_,trivial⟩⟩
  · exact ⟨fun _ known => by cases known; decide,by decide⟩
  · exact ⟨fun _ known => by cases known; decide,by decide⟩
  · exact fun _ known => by cases known; decide
  · exact fun _ known => by cases known; decide
  · exact ⟨nofun,by decide⟩

end Lockstep

end RobotControlRuntime.Firmware
