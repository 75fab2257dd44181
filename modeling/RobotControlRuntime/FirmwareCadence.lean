import RobotControlRuntime.FirmwareTime

-- The periodic messages of the firmware, heartbeat and status: how often they come
-- and how they are numbered.
namespace RobotControlRuntime.Firmware
open StepHistory

namespace LoopTime

-- The iterations that published a heartbeat, by the time they began; the newest
-- first.
def heartbeats (boot : Nat) : List McuMoment → List Nat
  | [] => []
  | m :: past =>
    if (isMain m.action && m.before.point == .heartbeat && timeAfterOrEqual m.before.nowMs m.before.nextHeartbeatMs) = true then
      started boot past :: heartbeats boot past
    else heartbeats boot past

def statuses (boot : Nat) : List McuMoment → List Nat
  | [] => []
  | m :: past =>
    if (isMain m.action && m.before.point == .status && timeAfterOrEqual m.before.nowMs m.before.nextStatusMs) = true then
      started boot past :: statuses boot past
    else statuses boot past

def beaten : LoopPoint → Bool
  | .status | .commit | .pump | .sense => true
  | _ => false

def reported : LoopPoint → Bool
  | .commit | .pump | .sense => true
  | _ => false

def Spaced (published : List Nat) : Prop :=
  ∀ i k newer older, published[i]? = some newer → published[i + k + 1]? = some older → older + 100 * k < newer

theorem sequence_next (count : Nat) : UInt16.ofNat count + 1 = UInt16.ofNat (count + 1) := by
  apply UInt16.toNat_inj.mp
  simp

structure Identified (identity : UInt16) (s : McuState) : Prop where
  nodeId : s.node.nodeId = canV1NodeId
  bootId : s.node.bootId = identity
  sessionId : s.node.sessionId = identity

theorem Identified.calm (identified : Identified identity s) (calm : s.node.Calm node) (same : next.node = node) : Identified identity next := by
  subst same
  exact ⟨calm.nodeId.trans identified.nodeId,calm.bootId.trans identified.bootId,calm.sessionId.trans identified.sessionId⟩

theorem node_valid : canV1NodeId ≠ 0 ∧ ¬ 31 < canV1NodeId := by decide

theorem status_encodes (ready : Bool) (identity inputBits faultCode : UInt16) (nonzero : identity ≠ 0) :
    ∃ frame, encodeNodeStatus ⟨canV1NodeId,ready,identity,inputBits,faultCode⟩ = some frame := by
  refine ⟨_,if_neg ?_⟩
  rintro (own | own | none)
  · exact node_valid.1 own
  · exact node_valid.2 own
  · exact nonzero none

end LoopTime

end RobotControlRuntime.Firmware
