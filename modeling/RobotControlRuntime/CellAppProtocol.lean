import RobotControlRuntime.WireFields

namespace RobotControlRuntime

inductive CellAppMessage where
  | getStatus | getStatusAck | activate | activateAck | submitOutput | submitOutputAck | error | probeCellIo
  | probeCellIoAck
  | unlisted (k : Fin 247)
  deriving DecidableEq, Repr

namespace CellAppMessage

def raw : CellAppMessage → UInt8
  | .getStatus => 1
  | .getStatusAck => 2
  | .activate => 3
  | .activateAck => 4
  | .submitOutput => 5
  | .submitOutputAck => 6
  | .error => 7
  | .probeCellIo => 8
  | .probeCellIoAck => 9
  | .unlisted k => spareType k

def ofRaw (byte : UInt8) : CellAppMessage :=
  match byte.toNat with
  | 0 => .unlisted (spare 0)
  | 1 => .getStatus
  | 2 => .getStatusAck
  | 3 => .activate
  | 4 => .activateAck
  | 5 => .submitOutput
  | 6 => .submitOutputAck
  | 7 => .error
  | 8 => .probeCellIo
  | 9 => .probeCellIoAck
  | n + 10 => .unlisted (spare (n + 1))

theorem ofRaw_raw (message : CellAppMessage) : ofRaw message.raw = message := by
  cases message with
  | unlisted k => rcases spare_value k with ⟨byte,same⟩ | ⟨n,byte,same⟩ <;> simp only [raw,ofRaw,byte,← same]
  | _ => rfl

end CellAppMessage

abbrev CellAppFrame := WireFrame CellAppMessage

def cellAppFormat : FrameFormat CellAppMessage where
  magic := 0x314C4543
  version := 1
  raw := CellAppMessage.raw
  ofRaw := CellAppMessage.ofRaw
  short := ⟨.wouldBlock,"short cell frame"⟩
  badMagic := ⟨.invalidArgument,"bad cell magic"⟩
  badVersion := ⟨.invalidArgument,"bad cell version"⟩
  tooLarge := ⟨.invalidArgument,"cell payload too large"⟩
  incomplete := ⟨.wouldBlock,"incomplete cell frame"⟩
  badCrc := ⟨.invalidArgument,"cell crc mismatch"⟩
  ofRaw_raw := CellAppMessage.ofRaw_raw
  waiting := ⟨rfl,rfl⟩
  refusing := by decide

structure CellAppStatus where
  observedMonotonicNs : Int64 := -1
  mode : RuntimeModeCode := .unknown
  fault : RuntimeFaultCode := .none
  started : Bool := false
  interlockReady : Bool := false
  online : Bool := false
  positionReached : Bool := false
  cellReady : Bool := false
  nodeId : UInt8 := 0
  bootId : UInt16 := 0
  sessionId : UInt16 := 0
  lastHeartbeatSequence : UInt16 := 0
  heartbeatAgeNs : Int64 := -1
  inputBits : UInt16 := 0
  deviceFaultCode : UInt16 := 0
  framesReceived : UInt64 := 0
  framesSent : UInt64 := 0
  decodeRejects : UInt64 := 0
  inputQueueDropCount : UInt64 := 0
  lastAckSession : UInt16 := 0
  lastAckSequence : UInt16 := 0
  lastAckResult : OutputApplyResult := .unknown
  ackPending : Bool := false
  evidence : EvidenceClass := .unspecified
  modbusOnline : Bool := false
  cellReadyDo0Requested : Bool := false
  cellReadyDo0Confirmed : Bool := false
  cellReadyDo0Status : UInt8 := 0
  deriving DecidableEq

def cellAppStatusWireSize : Nat := 80

def CellAppStatus.fields (status : CellAppStatus) : List UInt8 :=
  u64Le status.observedMonotonicNs.toUInt64 ++
    [status.mode.raw,status.fault.raw,flagByte status.started,flagByte status.interlockReady,flagByte status.online,
      flagByte status.positionReached,flagByte status.cellReady,status.nodeId] ++
    u16Le status.bootId ++ u16Le status.sessionId ++ u16Le status.lastHeartbeatSequence ++
    u64Le status.heartbeatAgeNs.toUInt64 ++ u16Le status.inputBits ++ u16Le status.deviceFaultCode ++
    u64Le status.framesReceived ++ u64Le status.framesSent ++ u64Le status.decodeRejects ++
    u64Le status.inputQueueDropCount ++ u16Le status.lastAckSession ++ u16Le status.lastAckSequence ++
    [status.lastAckResult.raw,flagByte status.ackPending,status.evidence.raw,flagByte status.modbusOnline,
      flagByte status.cellReadyDo0Requested,flagByte status.cellReadyDo0Confirmed,status.cellReadyDo0Status]

def encodeCellAppStatus (status : CellAppStatus) : Option (List UInt8) :=
  let out := status.fields ++ List.replicate (cellAppStatusWireSize - status.fields.length) 0
  if out.length = cellAppStatusWireSize then some out else none

def decodeCellAppStatus (payload : List UInt8) : Result CellAppStatus :=
  if payload.length ≠ cellAppStatusWireSize then .error ⟨.invalidArgument,"cell status size"⟩
  else .ok
    {observedMonotonicNs := (readU64Le payload).toInt64
     mode := .ofRaw (byteAt payload 8)
     fault := .ofRaw (byteAt payload 9)
     started := byteAt payload 10 != 0
     interlockReady := byteAt payload 11 != 0
     online := byteAt payload 12 != 0
     positionReached := byteAt payload 13 != 0
     cellReady := byteAt payload 14 != 0
     nodeId := byteAt payload 15
     bootId := readU16Le (payload.drop 16)
     sessionId := readU16Le (payload.drop 18)
     lastHeartbeatSequence := readU16Le (payload.drop 20)
     heartbeatAgeNs := (readU64Le (payload.drop 22)).toInt64
     inputBits := readU16Le (payload.drop 30)
     deviceFaultCode := readU16Le (payload.drop 32)
     framesReceived := readU64Le (payload.drop 34)
     framesSent := readU64Le (payload.drop 42)
     decodeRejects := readU64Le (payload.drop 50)
     inputQueueDropCount := readU64Le (payload.drop 58)
     lastAckSession := readU16Le (payload.drop 66)
     lastAckSequence := readU16Le (payload.drop 68)
     lastAckResult := .ofRaw (byteAt payload 70)
     ackPending := byteAt payload 71 != 0
     evidence := .ofRaw (byteAt payload 72)
     modbusOnline := byteAt payload 73 != 0
     cellReadyDo0Requested := byteAt payload 74 != 0
     cellReadyDo0Confirmed := byteAt payload 75 != 0
     cellReadyDo0Status := byteAt payload 76}

def projectCellAppStatus (snapshot : RuntimeTelemetrySnapshot) : CellAppStatus where
  observedMonotonicNs := snapshot.observedMonotonicNs
  mode := snapshot.runtime.mode
  fault := snapshot.runtime.fault
  started := snapshot.runtime.started
  interlockReady := snapshot.runtime.interlockReady
  online := snapshot.device.online
  positionReached := snapshot.positionReached
  cellReady := snapshot.cellReady
  nodeId := snapshot.device.nodeId
  bootId := snapshot.device.bootId
  sessionId := snapshot.device.sessionId
  lastHeartbeatSequence := snapshot.device.lastHeartbeatSequence
  heartbeatAgeNs := snapshot.device.heartbeatAgeNs
  inputBits := snapshot.device.inputBits
  deviceFaultCode := snapshot.device.deviceFaultCode
  framesReceived := snapshot.communication.framesReceived
  framesSent := snapshot.communication.framesSent
  decodeRejects := snapshot.communication.decodeRejects
  inputQueueDropCount := snapshot.communication.inputQueueDropCount
  lastAckSession := snapshot.output.lastAckSession
  lastAckSequence := snapshot.output.lastAckSequence
  lastAckResult := snapshot.output.lastAckResult
  ackPending := snapshot.output.ackPending
  evidence := snapshot.communication.evidence
  modbusOnline := snapshot.cellModbusOnline
  cellReadyDo0Requested := snapshot.cellReadyDo0Requested
  cellReadyDo0Confirmed := snapshot.cellReadyDo0Confirmed
  cellReadyDo0Status := snapshot.cellReadyDo0Status

-- The 80 bytes carry no count of heartbeats; the last sequence stands for it.
def cellStatusToSnapshot (status : CellAppStatus) : RuntimeTelemetrySnapshot where
  observedMonotonicNs := status.observedMonotonicNs
  runtime :=
    {mode := status.mode
     fault := status.fault
     started := status.started
     interlockReady := status.interlockReady
     schedulerRunning := status.started}
  device :=
    {online := status.online
     nodeId := status.nodeId
     deviceId := text "CAN_NODE_" ++ decimal status.nodeId.toNat
     bootId := status.bootId
     sessionId := status.sessionId
     lastHeartbeatSequence := status.lastHeartbeatSequence
     heartbeatAgeNs := status.heartbeatAgeNs
     heartbeats := status.lastHeartbeatSequence.toUInt64
     inputBits := status.inputBits
     deviceFaultCode := status.deviceFaultCode
     everSeen := status.online || status.sessionId != 0}
  communication :=
    {backend := text "SOCKETCAN"
     evidence := status.evidence
     framesReceived := status.framesReceived
     framesSent := status.framesSent
     decodeRejects := status.decodeRejects
     inputQueueDropCount := status.inputQueueDropCount}
  output :=
    {lastAckSession := status.lastAckSession
     lastAckSequence := status.lastAckSequence
     lastAckResult := status.lastAckResult
     ackPending := status.ackPending}
  positionReached := status.positionReached
  cellReady := status.cellReady
  cellModbusOnline := status.modbusOnline
  cellReadyDo0Requested := status.cellReadyDo0Requested
  cellReadyDo0Confirmed := status.cellReadyDo0Confirmed
  cellReadyDo0Status := status.cellReadyDo0Status

theorem fields_length (status : CellAppStatus) : status.fields.length = 77 := by
  simp [CellAppStatus.fields]

theorem status_encodes (status : CellAppStatus) :
    ∃ payload, encodeCellAppStatus status = some payload ∧ payload.length = cellAppStatusWireSize := by
  unfold encodeCellAppStatus
  exact ⟨_,padded_exact (fields_length status) (by decide)⟩

theorem status_payload (encoded : encodeCellAppStatus status = some payload) :
    payload = status.fields ++ List.replicate 3 0 ∧ payload.length = cellAppStatusWireSize := by
  obtain ⟨padded,length⟩ := padded_exact (fields_length status) (by decide : 77 ≤ cellAppStatusWireSize)
  have same := Option.some.inj (encoded.symm.trans padded)
  exact ⟨same,same ▸ length⟩

theorem status_decodes (encoded : encodeCellAppStatus status = some payload) :
    decodeCellAppStatus payload = .ok status := by
  obtain ⟨same,length⟩ := status_payload encoded
  rw [decodeCellAppStatus,if_neg (not_not_intro length),same]
  simp only [CellAppStatus.fields,List.append_assoc,List.cons_append,List.nil_append,readU64_field,readU16_field,drop_u64,
    drop_u16,byteAt_u64,byteAt_u16,byteAt_first,byteAt_later,List.drop_succ_cons,List.drop_zero,flag_read,
    RuntimeModeCode.ofRaw_raw,RuntimeFaultCode.ofRaw_raw,OutputApplyResult.ofRaw_raw,EvidenceClass.ofRaw_raw,
    Int64.toInt64_toUInt64]

def cellAppOutputPayloadSize : Nat := 28

def encodeCellOutputPayload (request : DigitalOutputRequest) : List UInt8 :=
  u64Le request.sessionId ++ u64Le request.sequence ++ u32Le request.validForMs ++ u32Le request.mask ++
    u32Le request.values

def decodeCellOutputPayload (payload : List UInt8) : Result DigitalOutputRequest :=
  if payload.length ≠ cellAppOutputPayloadSize then .error ⟨.invalidArgument,"cell output payload"⟩
  else .ok
    {sessionId := readU64Le payload
     sequence := readU64Le (payload.drop 8)
     validForMs := readU32Le (payload.drop 16)
     mask := readU32Le (payload.drop 20)
     values := readU32Le (payload.drop 24)}

theorem output_decodes (request : DigitalOutputRequest) :
    decodeCellOutputPayload (encodeCellOutputPayload request) = .ok request := by
  have length : (encodeCellOutputPayload request).length = cellAppOutputPayloadSize := by
    simp [encodeCellOutputPayload,cellAppOutputPayloadSize]
  rw [decodeCellOutputPayload,if_neg (not_not_intro length)]
  have last : readU32Le (u32Le request.values) = request.values := readU32_bytes request.values
  simp only [encodeCellOutputPayload,List.append_assoc,readU64_field,readU32_field,drop_u64,drop_u32,List.drop_zero,last]

def encodeCellCommandReply (reply : CommandReply) : List UInt8 :=
  let n := min reply.message.length 255
  [reply.status.raw,reply.fromState.raw,reply.toState.raw,UInt8.ofNat n] ++ reply.message.take n

def decodeCellCommandReply (payload : List UInt8) : Result CommandReply :=
  if payload.length < 4 then .error ⟨.invalidArgument,"short command reply"⟩
  else
    let n := (byteAt payload 3).toNat
    if payload.length ≠ 4 + n then .error ⟨.invalidArgument,"command reply length"⟩
    else .ok
      {status := .ofRaw (byteAt payload 0)
       fromState := .ofRaw (byteAt payload 1)
       toState := .ofRaw (byteAt payload 2)
       message := (payload.drop 4).take n}

theorem reply_length (reply : CommandReply) :
    (encodeCellCommandReply reply).length = 4 + min reply.message.length 255 := by
  simp [encodeCellCommandReply]
  omega

theorem reply_decodes (reply : CommandReply) :
    decodeCellCommandReply (encodeCellCommandReply reply) = .ok {reply with message := reply.message.take 255} := by
  have length := reply_length reply
  have count : (byteAt (encodeCellCommandReply reply) 3).toNat = min reply.message.length 255 := by
    have field : byteAt (encodeCellCommandReply reply) 3 = UInt8.ofNat (min reply.message.length 255) := rfl
    rw [field,UInt8.toNat_ofNat',Nat.mod_eq_of_lt (by omega)]
  have message : (encodeCellCommandReply reply).drop 4 = reply.message.take (min reply.message.length 255) := rfl
  have cut : reply.message.take (min reply.message.length 255) = reply.message.take 255 := by
    rw [Nat.min_comm,← List.take_take,List.take_length]
  have status : byteAt (encodeCellCommandReply reply) 0 = reply.status.raw := rfl
  have source : byteAt (encodeCellCommandReply reply) 1 = reply.fromState.raw := rfl
  have target : byteAt (encodeCellCommandReply reply) 2 = reply.toState.raw := rfl
  rw [decodeCellCommandReply,if_neg (by omega)]
  dsimp only
  rw [count,if_neg (not_not_intro length),message,List.take_take,Nat.min_self,cut,status,source,target,
    CommandStatus.ofRaw_raw,RuntimeModeCode.ofRaw_raw,RuntimeModeCode.ofRaw_raw]

def ReplyDelivered (type : CellAppMessage) (sequence : UInt16) (reply : CommandReply) : Prop :=
  ∃ wire frame, cellAppFormat.encode ⟨type,sequence,encodeCellCommandReply reply⟩ = some wire ∧
    cellAppFormat.tryDecode wire = .ok (frame,wire.length) ∧ frame.type = type ∧ frame.sequence = sequence ∧
    decodeCellCommandReply frame.payload = .ok {reply with message := reply.message.take 255}

-- The cut leaves payloads of up to 259 bytes; a frame takes 256.
theorem reply_delivered_iff (type : CellAppMessage) (sequence : UInt16) (reply : CommandReply) :
    ReplyDelivered type sequence reply ↔ reply.message.length ≤ 252 := by
  have length := reply_length reply
  constructor
  · rintro ⟨wire,frame,encoded,_⟩
    by_contra long
    have large : FrameFormat.maxPayload < (encodeCellCommandReply reply).length := by
      simp only [FrameFormat.maxPayload]
      omega
    rw [FrameFormat.encode,if_pos large] at encoded
    cases encoded
  · intro short
    have fits : (encodeCellCommandReply reply).length ≤ FrameFormat.maxPayload := by
      simp only [FrameFormat.maxPayload]
      omega
    obtain ⟨wire,encoded,_⟩ :=
      FrameFormat.encode_fits (⟨type,sequence,encodeCellCommandReply reply⟩ : CellAppFrame) fits
    exact ⟨wire,_,encoded,FrameFormat.decode_encoded encoded,rfl,rfl,reply_decodes reply⟩

theorem long_reply_undeliverable :
    cellAppFormat.encode ⟨.activateAck,1,encodeCellCommandReply {status := .rejected,message := List.replicate 253 65}⟩ =
      none := by decide +kernel

end RobotControlRuntime
