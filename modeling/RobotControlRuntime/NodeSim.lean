import RobotControlRuntime.CanV1

namespace RobotControlRuntime

structure CanNodeConfig where
  nodeId : UInt8 := 1
  bootId : UInt16 := 1
  sessionId : UInt16 := 1
  interlockReady : Bool := true
  inputBits : UInt16 := 0
  faultCode : UInt16 := 0
  deriving DecidableEq, Repr

-- The independent node: its session, the outputs it has applied and the lease
-- that bounds them.
structure CanNodeLogic where
  config : CanNodeConfig
  bootId : UInt16 := 1
  sessionId : UInt16 := 1
  hbSeq : UInt16 := 0
  outputBits : UInt8 := 0
  outputLeaseActive : Bool := false
  outputLeaseDeadlineNs : Int := 0
  hasAcceptedSequence : Bool := false
  lastAcceptedSequence : UInt16 := 0
  protocolRejects : UInt64 := 0
  deriving DecidableEq, Repr

structure HandleResult where
  sendStatus : Bool := false
  status : CanV1.WireOutputStatus := {}
  protocolReject : Bool := false
  deriving DecidableEq, Repr

namespace CanNodeLogic

-- The wire has no zero boot or session; a zero configuration is read as 1.
def construct (config : CanNodeConfig) : CanNodeLogic :=
  {config := config
   bootId := if config.bootId = 0 then 1 else config.bootId
   sessionId := if config.sessionId = 0 then 1 else config.sessionId}

def nextNonzeroU16 (value : UInt16) : UInt16 := if value = 65535 then 1 else value + 1

def clearOutput (node : CanNodeLogic) : CanNodeLogic :=
  {node with outputBits := 0,outputLeaseActive := false,outputLeaseDeadlineNs := 0}

def setInterlockReady (node : CanNodeLogic) (ready : Bool) : CanNodeLogic :=
  let next := {node with config := {node.config with interlockReady := ready}}
  if ready then next else next.clearOutput

def setInputBits (node : CanNodeLogic) (bits : UInt16) : CanNodeLogic :=
  {node with config := {node.config with inputBits := bits}}

def setFaultCode (node : CanNodeLogic) (code : UInt16) : CanNodeLogic :=
  {node with config := {node.config with faultCode := code}}

-- A session border: the outputs go together with the sequence history.
def softRestart (node : CanNodeLogic) : CanNodeLogic :=
  {node.clearOutput with
    bootId := nextNonzeroU16 node.bootId
    sessionId := nextNonzeroU16 node.sessionId
    hbSeq := 0
    hasAcceptedSequence := false
    lastAcceptedSequence := 0}

def makeHeartbeat (node : CanNodeLogic) : CanNodeLogic × CanV1.WireHeartbeat :=
  ({node with hbSeq := node.hbSeq + 1},⟨node.config.nodeId,node.bootId,node.sessionId,node.hbSeq⟩)

def makeStatus (node : CanNodeLogic) : CanV1.WireNodeStatus :=
  ⟨node.config.nodeId,node.config.interlockReady,node.sessionId,node.config.inputBits,node.config.faultCode⟩

-- Expiry takes the outputs only; the sequence history stays, so that an old
-- command cannot be replayed afterwards.
def expireOutputLease (node : CanNodeLogic) (nowNs : Int) : CanNodeLogic × Bool :=
  if !node.outputLeaseActive || decide (nowNs < node.outputLeaseDeadlineNs) then (node,false)
  else (node.clearOutput,true)

def applyCommand (node : CanNodeLogic) (cmd : CanV1.WireOutputCommand) (receiveNs nowNs : Int) :
    CanNodeLogic × HandleResult :=
  let node := (node.expireOutputLease nowNs).1
  let answer (result : CanV1.OutputResult) (outputBits : UInt8) : HandleResult :=
    {sendStatus := true,status := ⟨node.config.nodeId,result,node.sessionId,cmd.sequence,outputBits⟩}
  if cmd.sessionId ≠ node.sessionId then (node,answer .sessionMismatch node.outputBits)
  else if !node.config.interlockReady then (node,answer .notReady node.outputBits)
  else if node.hasAcceptedSequence && !CanV1.seqNewer cmd.sequence node.lastAcceptedSequence then
    (node,answer .staleSequence node.outputBits)
  else
    let deadline := CanV1.deadlineFromValidity10ms receiveNs cmd.validity10ms
    if deadline ≤ nowNs then (node,answer .expired node.outputBits)
    else
      let outputBits := (node.outputBits &&& ~~~cmd.mask) ||| (cmd.values &&& cmd.mask)
      ({node with
        outputBits := outputBits
        outputLeaseActive := true
        outputLeaseDeadlineNs := deadline
        hasAcceptedSequence := true
        lastAcceptedSequence := cmd.sequence},answer .applied outputBits)

-- One frame of the bus. The simulator may judge a received command later than
-- it received it; on_frame judges it at once.
def handleFrame (node : CanNodeLogic) (frame : CanFrame) (receiveNs nowNs : Int) : CanNodeLogic × HandleResult :=
  let raw11 := frame.canId &&& CanV1.sffMask
  if CanV1.functionFromCanId raw11 ≠ CanV1.Function.outputCommand.raw.toUInt8 ∨
      CanV1.nodeIdFromCanId raw11 ≠ node.config.nodeId then (node,{})
  else match CanV1.decodeOutputCommand frame with
    | .error _ => ({node with protocolRejects := node.protocolRejects + 1},{protocolReject := true})
    | .ok cmd => node.applyCommand cmd receiveNs nowNs

def onFrame (node : CanNodeLogic) (frame : CanFrame) (nowNs : Int) : CanNodeLogic × HandleResult :=
  node.handleFrame frame nowNs nowNs

structure SameSession (node next : CanNodeLogic) : Prop where
  config : next.config = node.config
  session : next.sessionId = node.sessionId

theorem expire_same (node : CanNodeLogic) (nowNs : Int) :
    SameSession node (node.expireOutputLease nowNs).1 ∧
      (node.expireOutputLease nowNs).1.hasAcceptedSequence = node.hasAcceptedSequence ∧
      (node.expireOutputLease nowNs).1.lastAcceptedSequence = node.lastAcceptedSequence := by
  unfold expireOutputLease
  split <;> exact ⟨⟨rfl,rfl⟩,rfl,rfl⟩

-- A command is answered in exactly one of two ways: rejected, with the sequence
-- history as it was, or applied, which makes it the last accepted one.
structure Admissible (node : CanNodeLogic) (cmd : CanV1.WireOutputCommand) (receiveNs nowNs : Int) : Prop where
  session : cmd.sessionId = node.sessionId
  ready : node.config.interlockReady = true
  newer : node.hasAcceptedSequence = true → CanV1.seqNewer cmd.sequence node.lastAcceptedSequence = true
  fresh : nowNs < CanV1.deadlineFromValidity10ms receiveNs cmd.validity10ms

inductive Answers (node : CanNodeLogic) (cmd : CanV1.WireOutputCommand) (receiveNs nowNs : Int) :
    CanNodeLogic → HandleResult → Prop where
  | rejected (refused : ¬ Admissible node cmd receiveNs nowNs) (same : SameSession node next)
      (history : next.hasAcceptedSequence = node.hasAcceptedSequence)
      (last : next.lastAcceptedSequence = node.lastAcceptedSequence) (negative : result ≠ .applied) :
      Answers node cmd receiveNs nowNs next
        {sendStatus := true,status := ⟨node.config.nodeId,result,node.sessionId,cmd.sequence,mirror⟩}
  | applied (admitted : Admissible node cmd receiveNs nowNs) (same : SameSession node next)
      (history : next.hasAcceptedSequence = true) (last : next.lastAcceptedSequence = cmd.sequence) :
      Answers node cmd receiveNs nowNs next
        {sendStatus := true,status := ⟨node.config.nodeId,.applied,node.sessionId,cmd.sequence,mirror⟩}

def accept (node : CanNodeLogic) (cmd : CanV1.WireOutputCommand) (receiveNs : Int) : CanNodeLogic :=
  {node with
    outputBits := (node.outputBits &&& ~~~cmd.mask) ||| (cmd.values &&& cmd.mask)
    outputLeaseActive := true
    outputLeaseDeadlineNs := CanV1.deadlineFromValidity10ms receiveNs cmd.validity10ms
    hasAcceptedSequence := true
    lastAcceptedSequence := cmd.sequence}

inductive Judges (node : CanNodeLogic) (cmd : CanV1.WireOutputCommand) (receiveNs nowNs : Int) (current : CanNodeLogic) :
    CanNodeLogic × HandleResult → Prop where
  | rejected (refused : ¬ Admissible node cmd receiveNs nowNs) (negative : result ≠ .applied) :
      Judges node cmd receiveNs nowNs current (current,
        {sendStatus := true,status := ⟨current.config.nodeId,result,current.sessionId,cmd.sequence,mirror⟩})
  | applied (admitted : Admissible node cmd receiveNs nowNs) :
      Judges node cmd receiveNs nowNs current (current.accept cmd receiveNs,
        {sendStatus := true,status := ⟨current.config.nodeId,.applied,current.sessionId,cmd.sequence,mirror⟩})

theorem apply_judges (node : CanNodeLogic) (cmd : CanV1.WireOutputCommand) (receiveNs nowNs : Int) :
    Judges node cmd receiveNs nowNs (node.expireOutputLease nowNs).1 (node.applyCommand cmd receiveNs nowNs) := by
  obtain ⟨same,history,last⟩ := expire_same node nowNs
  unfold applyCommand
  dsimp only
  generalize (node.expireOutputLease nowNs).1 = current at same history last
  split
  · rename_i other
    exact .rejected (fun admitted => other (admitted.session.trans same.session.symm)) (by decide)
  · rename_i session
    split
    · rename_i unready
      rw [same.config] at unready
      exact .rejected (fun admitted => by simp [admitted.ready] at unready) (by decide)
    · rename_i ready
      rw [same.config] at ready
      split
      · rename_i stale
        simp only [history,last,Bool.and_eq_true,Bool.not_eq_true'] at stale
        refine .rejected (fun admitted => ?_) (by decide)
        cases (admitted.newer stale.1).symm.trans stale.2
      · rename_i newer
        rw [history,last] at newer
        split
        · rename_i late
          exact .rejected (fun admitted => absurd admitted.fresh (Int.not_lt.mpr late)) (by decide)
        · rename_i fresh
          refine .applied ⟨(not_not.mp session).trans same.session,by simpa using ready,?_,Int.not_le.mp fresh⟩
          intro accepted
          simpa [accepted] using newer

theorem apply_exact (node : CanNodeLogic) (cmd : CanV1.WireOutputCommand) (receiveNs nowNs : Int) :
    Answers node cmd receiveNs nowNs (node.applyCommand cmd receiveNs nowNs).1
      (node.applyCommand cmd receiveNs nowNs).2 := by
  obtain ⟨same,history,last⟩ := expire_same node nowNs
  have judged := node.apply_judges cmd receiveNs nowNs
  generalize node.applyCommand cmd receiveNs nowNs = outcome at judged ⊢
  cases judged with
  | rejected refused negative =>
      rw [same.config,same.session]
      exact .rejected refused same history last negative
  | applied admitted =>
      rw [same.config,same.session]
      exact .applied admitted ⟨same.config,same.session⟩ rfl rfl

inductive Frames (node : CanNodeLogic) (frame : CanFrame) (receiveNs nowNs : Int) :
    CanNodeLogic → HandleResult → Prop where
  | silent (rejects : UInt64) (quiet : result.sendStatus = false) :
      Frames node frame receiveNs nowNs {node with protocolRejects := rejects} result
  | answered (decoded : CanV1.decodeOutputCommand frame = .ok cmd)
      (answer : Answers node cmd receiveNs nowNs next result) : Frames node frame receiveNs nowNs next result

theorem frame_exact (node : CanNodeLogic) (frame : CanFrame) (receiveNs nowNs : Int) :
    Frames node frame receiveNs nowNs (node.handleFrame frame receiveNs nowNs).1
      (node.handleFrame frame receiveNs nowNs).2 := by
  unfold handleFrame
  dsimp only
  split
  · exact .silent node.protocolRejects rfl
  · split
    · exact .silent _ rfl
    · rename_i cmd decoded
      exact .answered decoded (apply_exact node cmd receiveNs nowNs)

theorem frame_config (node : CanNodeLogic) (frame : CanFrame) (receiveNs nowNs : Int) :
    (node.handleFrame frame receiveNs nowNs).1.config = node.config := by
  have handled := node.frame_exact frame receiveNs nowNs
  generalize (node.handleFrame frame receiveNs nowNs).1 = next at handled ⊢
  generalize (node.handleFrame frame receiveNs nowNs).2 = result at handled
  cases handled with
  | silent _ _ => rfl
  | answered _ answer =>
      cases answer with
      | rejected _ same _ _ _ | applied _ same _ _ => exact same.config

theorem addressed_answered (node : CanNodeLogic) (encoded : CanV1.encodeOutputCommand cmd = .ok frame)
    (named : cmd.nodeId = node.config.nodeId) (receiveNs nowNs : Int) :
    node.handleFrame frame receiveNs nowNs = node.applyCommand cmd receiveNs nowNs := by
  have decoded := CanV1.command_roundtrip cmd encoded
  obtain ⟨formed,rfl⟩ := (CanV1.command_encoded cmd).mp encoded
  obtain ⟨_,_,addressee,function⟩ := CanV1.make_addressed .outputCommand cmd.nodeId formed.node.2
  unfold handleFrame
  dsimp only
  rw [if_neg (not_or.mpr ⟨not_not.mpr function,not_not.mpr (addressee.trans named)⟩),decoded]

end CanNodeLogic

end RobotControlRuntime
