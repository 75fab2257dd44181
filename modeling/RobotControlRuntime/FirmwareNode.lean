import RobotControlRuntime.FirmwareCan

namespace RobotControlRuntime.Firmware
open CanV1 (WireHeartbeat WireNodeStatus WireOutputCommand WireOutputStatus)

inductive NodeFault where
  | none | watchdog | input | commLoss | node | protocolReject | interlockLost | internal
  deriving DecidableEq, Repr

def NodeFault.raw : NodeFault → UInt16
  | .none => 0
  | .watchdog => 1
  | .input => 2
  | .commLoss => 3
  | .node => 4
  | .protocolReject => 5
  | .interlockLost => 6
  | .internal => 7

inductive FrameResult where
  | ignored | rejected | statusReady
  deriving DecidableEq, Repr

-- The node of the microcontroller. Its clock is a 32-bit count of milliseconds
-- that wraps.
structure RcrNode where
  nodeId : UInt8
  bootId : UInt16
  sessionId : UInt16
  heartbeatSequence : UInt16 := 0
  inputBits : UInt16 := 0
  outputBits : UInt8 := 0
  lastAcceptedSequence : UInt16 := 0
  leaseDeadlineMs : UInt32 := 0
  protocolRejects : UInt32 := 0
  hasAcceptedSequence : Bool := false
  leaseActive : Bool := false
  identityReady : Bool
  busReady : Bool
  fatalLatched : Bool
  deriving DecidableEq, Repr

def timeAfterOrEqual (nowMs deadlineMs : UInt32) : Bool := decide (0 ≤ (nowMs - deadlineMs).toInt32)

namespace RcrNode

def neutralizeOutput (node : RcrNode) : RcrNode := {node with outputBits := 0,leaseActive := false,leaseDeadlineMs := 0}

-- A node without an identity starts with its fault latched.
def init (nodeId : UInt8) (bootId sessionId : UInt16) (identityReady : Bool) : RcrNode :=
  {nodeId := if nodeId = 0 then 1 else nodeId
   bootId := if bootId = 0 then 1 else bootId
   sessionId := if sessionId = 0 then 1 else sessionId
   identityReady := identityReady
   busReady := true
   fatalLatched := !identityReady}

-- After bus-off the old authority is gone; recovery does not bring it back.
def setBusReady (node : RcrNode) (ready : Bool) : RcrNode :=
  let next := {node with busReady := ready}
  if !ready then next.neutralizeOutput else next

def latchInternalFault (node : RcrNode) : RcrNode := neutralizeOutput {node with fatalLatched := true}

def interlockReady (node : RcrNode) : Bool := node.identityReady && node.busReady && !node.fatalLatched

def faultCode (node : RcrNode) : UInt16 :=
  if node.fatalLatched || !node.identityReady then NodeFault.raw .internal
  else if !node.busReady then NodeFault.raw .commLoss
  else NodeFault.raw .none

def expireLease (node : RcrNode) (nowMs : UInt32) : RcrNode × Bool :=
  if !node.leaseActive || !timeAfterOrEqual nowMs node.leaseDeadlineMs then (node,false)
  else (node.neutralizeOutput,true)

def applyCommand (node : RcrNode) (command : WireOutputCommand) (receiveMs nowMs : UInt32) :
    RcrNode × FrameResult × WireOutputStatus :=
  let node := (node.expireLease nowMs).1
  let answer (result : CanV1.OutputResult) (outputMirror : UInt8) : FrameResult × WireOutputStatus :=
    (.statusReady,⟨node.nodeId,result,node.sessionId,command.sequence,outputMirror⟩)
  if command.sessionId ≠ node.sessionId then (node,answer .sessionMismatch node.outputBits)
  else if !node.interlockReady then (node,answer .notReady node.outputBits)
  else if node.hasAcceptedSequence && !sequenceNewer command.sequence node.lastAcceptedSequence then
    (node,answer .staleSequence node.outputBits)
  else
    let deadlineMs := receiveMs + command.validity10ms.toUInt32 * 10
    if timeAfterOrEqual nowMs deadlineMs then (node,answer .expired node.outputBits)
    else
      let keepMask := ~~~command.mask
      let outputBits := (node.outputBits &&& keepMask) ||| (command.values &&& command.mask)
      ({node with
        outputBits := outputBits
        lastAcceptedSequence := command.sequence
        hasAcceptedSequence := true
        leaseActive := true
        leaseDeadlineMs := deadlineMs},answer .applied outputBits)

-- The answer of a frame that is ignored or rejected is left unwritten.
def onFrame (node : RcrNode) (frame : RcrCanFrame) (nowMs : UInt32) :
    RcrNode × FrameResult × Option WireOutputStatus :=
  let commandId := makeId fnOutputCommand node.nodeId
  if frame.canId ≠ commandId.toUInt32 then (node,.ignored,none)
  else match decodeOutputCommand frame node.nodeId with
    | none => ({node with protocolRejects := node.protocolRejects + 1},.rejected,none)
    | some command =>
      let (next,result,status) := node.applyCommand command frame.receiveMs nowMs
      (next,result,some status)

def makeHeartbeat (node : RcrNode) : RcrNode × WireHeartbeat :=
  ({node with heartbeatSequence := node.heartbeatSequence + 1},
    ⟨node.nodeId,node.bootId,node.sessionId,node.heartbeatSequence⟩)

def makeStatus (node : RcrNode) : WireNodeStatus :=
  ⟨node.nodeId,node.interlockReady,node.sessionId,node.inputBits,node.faultCode⟩

end RcrNode

end RobotControlRuntime.Firmware
