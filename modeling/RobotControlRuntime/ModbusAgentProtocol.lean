import RobotControlRuntime.FrameFormat

namespace RobotControlRuntime

inductive ModbusAgentMessage where
  | probe | probeAck | readDi | readDiAck | writeDo | writeDoAck | error | allOff | allOffAck
  | unlisted (k : Fin 247)
  deriving DecidableEq, Repr

namespace ModbusAgentMessage

def raw : ModbusAgentMessage → UInt8
  | .probe => 1
  | .probeAck => 2
  | .readDi => 3
  | .readDiAck => 4
  | .writeDo => 5
  | .writeDoAck => 6
  | .error => 7
  | .allOff => 8
  | .allOffAck => 9
  | .unlisted k => spareType k

def ofRaw (byte : UInt8) : ModbusAgentMessage :=
  match byte.toNat with
  | 0 => .unlisted (spare 0)
  | 1 => .probe
  | 2 => .probeAck
  | 3 => .readDi
  | 4 => .readDiAck
  | 5 => .writeDo
  | 6 => .writeDoAck
  | 7 => .error
  | 8 => .allOff
  | 9 => .allOffAck
  | n + 10 => .unlisted (spare (n + 1))

theorem ofRaw_raw (message : ModbusAgentMessage) : ofRaw message.raw = message := by
  cases message with
  | unlisted k => rcases spare_value k with ⟨byte,same⟩ | ⟨n,byte,same⟩ <;> simp only [raw,ofRaw,byte,← same]
  | _ => rfl

end ModbusAgentMessage

abbrev ModbusAgentFrame := WireFrame ModbusAgentMessage

def modbusAgentFormat : FrameFormat ModbusAgentMessage where
  magic := 0x4D524352
  version := 1
  raw := ModbusAgentMessage.raw
  ofRaw := ModbusAgentMessage.ofRaw
  short := ⟨.wouldBlock,"need more agent bytes"⟩
  badMagic := ⟨.rejected,"bad agent magic"⟩
  badVersion := ⟨.unsupported,"unsupported agent version"⟩
  tooLarge := ⟨.invalidArgument,"agent payload too large"⟩
  incomplete := ⟨.wouldBlock,"need more agent bytes"⟩
  badCrc := ⟨.rejected,"agent CRC mismatch"⟩
  ofRaw_raw := ModbusAgentMessage.ofRaw_raw
  waiting := ⟨rfl,rfl⟩
  refusing := by decide

inductive ModbusScanState where
  | unknown | scanning | complete | error
  deriving DecidableEq, Repr

inductive ModbusDeviceState where
  | unknown | online | timeout | error
  | unlisted (k : Fin 252)
  deriving DecidableEq, Repr

inductive ModbusIoCommandStatus where
  | none | confirmed | timeout | exception | rejected | invalidChannel | busy
  | unlisted (k : Fin 249)
  deriving DecidableEq, Repr

namespace ModbusDeviceState

def raw : ModbusDeviceState → UInt8
  | .unknown => 0
  | .online => 1
  | .timeout => 2
  | .error => 3
  | .unlisted k => UInt8.ofNat (4 + k.val)

def ofRaw (byte : UInt8) : ModbusDeviceState :=
  match byte.toNat with
  | 0 => .unknown
  | 1 => .online
  | 2 => .timeout
  | 3 => .error
  | n + 4 => .unlisted (Fin.ofNat 252 n)

theorem ofRaw_raw (state : ModbusDeviceState) : ofRaw state.raw = state := by
  cases state with
  | unlisted k => simp only [raw,ofRaw,unlisted_byte 4 k (by decide),Fin.ofNat_val_eq_self]
  | _ => rfl

end ModbusDeviceState

namespace ModbusIoCommandStatus

def raw : ModbusIoCommandStatus → UInt8
  | .none => 0
  | .confirmed => 1
  | .timeout => 2
  | .exception => 3
  | .rejected => 4
  | .invalidChannel => 5
  | .busy => 6
  | .unlisted k => UInt8.ofNat (7 + k.val)

def ofRaw (byte : UInt8) : ModbusIoCommandStatus :=
  match byte.toNat with
  | 0 => .none
  | 1 => .confirmed
  | 2 => .timeout
  | 3 => .exception
  | 4 => .rejected
  | 5 => .invalidChannel
  | 6 => .busy
  | n + 7 => .unlisted (Fin.ofNat 249 n)

theorem ofRaw_raw (status : ModbusIoCommandStatus) : ofRaw status.raw = status := by
  cases status with
  | unlisted k => simp only [raw,ofRaw,unlisted_byte 7 k (by decide),Fin.ofNat_val_eq_self]
  | _ => rfl

end ModbusIoCommandStatus

def modbusIoChannelCount : Nat := 4

structure DigitalInputState where
  channel : UInt8 := 0
  active : Bool := false
  deriving DecidableEq, Repr

structure DigitalOutputState where
  channel : UInt8 := 0
  requested : Bool := false
  confirmed : Bool := false
  lastStatus : ModbusIoCommandStatus := .none
  deriving DecidableEq, Repr

structure ModbusTransaction where
  direction : List UInt8 := text "NONE"
  slaveId : UInt8 := 0
  function : UInt8 := 0
  address : UInt16 := 0
  quantity : UInt16 := 0
  result : List UInt8 := []
  rttNs : Int := 0
  txHex : List UInt8 := []
  rxHex : List UInt8 := []
  deriving DecidableEq, Repr

-- Without the agent peer and the scan list, which the physical backend never sets.
structure ModbusIoSnapshot where
  backend : List UInt8 := text "MOCK"
  evidence : EvidenceClass := .mock
  noPhysicalRs485 : Bool := true
  transport : List UInt8 := text "Modbus RTU (planned)"
  serialPort : List UInt8 := text "NOT CONNECTED"
  sku : List UInt8 := []
  baudRatePlaceholder : UInt32 := 9600
  baudRate : UInt32 := 9600
  parityPlaceholder : List UInt8 := text "None (placeholder)"
  parity : List UInt8 := text "None"
  slaveId : UInt8 := 1
  scanState : ModbusScanState := .unknown
  deviceState : ModbusDeviceState := .online
  digitalInputs : Vector DigitalInputState 4 := Vector.replicate 4 {}
  digitalOutputs : Vector DigitalOutputState 4 := Vector.replicate 4 {}
  lastCommandStatus : ModbusIoCommandStatus := .none
  lastTransaction : ModbusTransaction := {}
  lastUpdateMonotonicNs : Int := 0
  lastError : List UInt8 := []
  deriving DecidableEq, Repr

def lpString (value : List UInt8) : List UInt8 :=
  let n := min value.length 255
  UInt8.ofNat n :: value.take n

def readLpString (bytes : List UInt8) (offset : Nat) : Result (List UInt8 × Nat) :=
  if bytes.length ≤ offset then .error ⟨.invalidArgument,"truncated agent string"⟩
  else
    let n := (byteAt bytes offset).toNat
    if bytes.length < offset + 1 + n then .error ⟨.invalidArgument,"truncated agent string body"⟩
    else .ok ((bytes.drop (offset + 1)).take n,offset + 1 + n)

def parityByte (parity : List UInt8) : UInt8 := if parity = text "None" ∨ parity = [] then 78 else byteAt parity 0

def encodeProbeAckPayload (snapshot : ModbusIoSnapshot) : List UInt8 :=
  [snapshot.deviceState.raw,snapshot.slaveId,UInt8.ofNat modbusIoChannelCount] ++
    snapshot.digitalInputs.toList.map (fun input => flagByte input.active) ++
    snapshot.digitalOutputs.toList.flatMap (fun output =>
      [flagByte output.requested,flagByte output.confirmed,output.lastStatus.raw]) ++
    u32Le snapshot.baudRate ++ [parityByte snapshot.parity] ++
    u32Le (UInt32.ofInt (snapshot.lastTransaction.rttNs.tdiv 1000000)) ++
    [snapshot.lastCommandStatus.raw,snapshot.lastTransaction.function] ++
    lpString snapshot.serialPort ++ lpString snapshot.sku ++ lpString snapshot.lastError ++
    lpString snapshot.lastTransaction.txHex ++ lpString snapshot.lastTransaction.rxHex ++
    lpString snapshot.lastTransaction.result

def probeAckFixed : Nat := 3 + modbusIoChannelCount + modbusIoChannelCount * 3 + 4 + 1 + 4 + 1 + 1

def decodeProbeAckHeader (payload : List UInt8) : ModbusIoSnapshot :=
  let parity := if byteAt payload 23 = 78 then text "None" else [byteAt payload 23]
  let deviceState := ModbusDeviceState.ofRaw (byteAt payload 0)
  {backend := text "PHYSICAL"
   evidence := .physical
   noPhysicalRs485 := false
   transport := text "Modbus RTU"
   deviceState := deviceState
   slaveId := byteAt payload 1
   digitalInputs := Vector.ofFn fun i => {channel := UInt8.ofNat i.val,active := byteAt payload (3 + i.val) != 0}
   digitalOutputs := Vector.ofFn fun i =>
    {channel := UInt8.ofNat i.val
     requested := byteAt payload (7 + 3 * i.val) != 0
     confirmed := byteAt payload (8 + 3 * i.val) != 0
     lastStatus := .ofRaw (byteAt payload (9 + 3 * i.val))}
   baudRate := readU32Le (payload.drop 19)
   baudRatePlaceholder := readU32Le (payload.drop 19)
   parity := parity
   parityPlaceholder := parity
   lastCommandStatus := .ofRaw (byteAt payload 28)
   lastTransaction :=
    {rttNs := (readU32Le (payload.drop 24)).toNat * 1000000
     function := byteAt payload 29
     slaveId := byteAt payload 1}
   scanState := if deviceState = .online then .complete else .error}

def decodeProbeAckPayload (payload : List UInt8) : Result ModbusIoSnapshot := do
  if payload.length < probeAckFixed then throw ⟨.invalidArgument,"probe ack too short"⟩
  if byteAt payload 2 ≠ UInt8.ofNat modbusIoChannelCount then throw ⟨.invalidArgument,"unexpected DI count"⟩
  let header := decodeProbeAckHeader payload
  let (serialPort,offset) ← readLpString payload probeAckFixed
  let (sku,offset) ← readLpString payload offset
  let (lastError,offset) ← readLpString payload offset
  let (txHex,offset) ← readLpString payload offset
  let (rxHex,offset) ← readLpString payload offset
  let (result,_) ← readLpString payload offset
  return {header with
    serialPort := serialPort
    sku := sku
    lastError := lastError
    lastTransaction := {header.lastTransaction with txHex := txHex,rxHex := rxHex,result := result}}

theorem decoded_state (decoded : decodeProbeAckPayload payload = .ok snapshot) :
    snapshot.deviceState = .ofRaw (byteAt payload 0) := by
  unfold decodeProbeAckPayload at decoded
  simp only [bind,Except.bind,throw,throwThe,MonadExceptOf.throw,pure,Except.pure] at decoded
  repeat' split at decoded
  all_goals cases decoded
  rfl

theorem state_carried (decoded : decodeProbeAckPayload (encodeProbeAckPayload sent) = .ok snapshot) :
    snapshot.deviceState = sent.deviceState := by
  have first : byteAt (encodeProbeAckPayload sent) 0 = sent.deviceState.raw := rfl
  rw [decoded_state decoded,first,ModbusDeviceState.ofRaw_raw]

def encodeWriteDoPayload (channel : UInt8) (active : Bool) : List UInt8 := [channel,flagByte active]

def decodeWriteDoPayload (payload : List UInt8) : Result (UInt8 × Bool) :=
  if payload.length < 2 then .error ⟨.invalidArgument,"write-do payload too short"⟩
  else .ok (byteAt payload 0,byteAt payload 1 != 0)

theorem writeDo_decodes (channel : UInt8) (active : Bool) :
    decodeWriteDoPayload (encodeWriteDoPayload channel active) = .ok (channel,active) := by
  cases active <;> rfl

end RobotControlRuntime
