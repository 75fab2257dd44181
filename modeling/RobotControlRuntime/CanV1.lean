import RobotControlRuntime.Types

namespace RobotControlRuntime

-- A SocketCAN frame: the identifier word keeps the EFF and RTR flags in its
-- high bits.
structure CanFrame where
  canId : UInt32 := 0
  len : UInt8 := 0
  data : Vector UInt8 8 := Vector.replicate 8 0
  deriving DecidableEq, Repr

namespace CanV1

def protocolVersion : UInt8 := 1
def maxNodeId : UInt8 := 31
def minValidity10ms : UInt8 := 1
def maxValidity10ms : UInt8 := 250
def validityUnitNs : Int := 10000000

inductive Function where
  | heartbeat | status | outputCommand | outputStatus
  deriving DecidableEq, Repr

def Function.raw : Function → UInt32
  | .heartbeat => 1
  | .status => 2
  | .outputCommand => 3
  | .outputStatus => 4

def OutputResult.raw : OutputResult → UInt8
  | .applied => 0
  | .staleSequence => 1
  | .sessionMismatch => 2
  | .expired => 3
  | .invalidMask => 4
  | .notReady => 5
  | .reserved raw => UInt8.ofNat (6 + raw.val)

def OutputResult.fromRaw (raw : UInt8) : Option OutputResult :=
  if raw = 0 then some .applied
  else if raw = 1 then some .staleSequence
  else if raw = 2 then some .sessionMismatch
  else if raw = 3 then some .expired
  else if raw = 4 then some .invalidMask
  else if raw = 5 then some .notReady
  else none

structure WireHeartbeat where
  nodeId : UInt8 := 0
  bootId : UInt16 := 0
  sessionId : UInt16 := 0
  hbSeq : UInt16 := 0
  deriving DecidableEq, Repr

structure WireNodeStatus where
  nodeId : UInt8 := 0
  interlockReady : Bool := false
  sessionId : UInt16 := 0
  inputBits : UInt16 := 0
  faultCode : UInt16 := 0
  deriving DecidableEq, Repr

structure WireOutputCommand where
  nodeId : UInt8 := 0
  mask : UInt8 := 0
  sessionId : UInt16 := 0
  sequence : UInt16 := 0
  values : UInt8 := 0
  validity10ms : UInt8 := 0
  deriving DecidableEq, Repr

structure WireOutputStatus where
  nodeId : UInt8 := 0
  result : OutputResult := .applied
  sessionId : UInt16 := 0
  sequence : UInt16 := 0
  outputMirror : UInt8 := 0
  deriving DecidableEq, Repr

def effFlag : UInt32 := 0x80000000
def rtrFlag : UInt32 := 0x40000000
def sffMask : UInt32 := 0x7FF

def makeCanId (function : Function) (nodeId : UInt8) : UInt32 :=
  (function.raw <<< 5) ||| (nodeId.toUInt32 &&& 0x1F)

def nodeIdFromCanId (raw11 : UInt32) : UInt8 := (raw11 &&& 0x1F).toUInt8

def functionFromCanId (raw11 : UInt32) : UInt8 := ((raw11 >>> 5) &&& 0x3F).toUInt8

-- Ring order of the 16-bit sequence: newer by less than half the space. The
-- difference of exactly half is judged old.
def seqNewer (a b : UInt16) : Bool := a != b && decide (0 < (a - b).toInt16)

def deadlineFromValidity10ms (receiveNs : Int) (validity10ms : UInt8) : Int :=
  receiveNs + (validity10ms.toNat : Int) * validityUnitNs

def reject (message : String) : Error := ⟨.rejected,message⟩

def invalid (message : String) : Error := ⟨.invalidArgument,message⟩

def validity10msFromDeadline (nowNs deadlineNs : Int) : Result UInt8 :=
  let remaining := deadlineNs - nowNs
  if remaining < validityUnitNs then .error (invalid "deadline remaining below 10 ms")
  else
    let units := (remaining + validityUnitNs - 1) / validityUnitNs
    if (maxValidity10ms.toNat : Int) < units then .error (invalid "deadline remaining above 2500 ms")
    else .ok (UInt8.ofNat units.toNat)

def highByte (value : UInt16) : UInt8 := (value >>> 8).toUInt8

def lowByte (value : UInt16) : UInt8 := value.toUInt8

def readU16Be (high low : UInt8) : UInt16 := (high.toUInt16 <<< 8) ||| low.toUInt16

def validateNodeId (nodeId : UInt8) : Result Unit :=
  if nodeId = 0 ∨ maxNodeId < nodeId then .error (invalid "node_id must be 1..31") else .ok ()

def checkFrameLayer (frame : CanFrame) (expected : Function) : Result Unit :=
  if frame.canId &&& effFlag ≠ 0 then .error (reject "extended CAN frame rejected")
  else if frame.canId &&& rtrFlag ≠ 0 then .error (reject "RTR frame rejected")
  else if frame.len ≠ 8 then .error (reject "CAN V1 requires DLC=8")
  else
    let raw11 := frame.canId &&& sffMask
    if nodeIdFromCanId raw11 = 0 ∨ maxNodeId < nodeIdFromCanId raw11 then .error (reject "invalid node_id")
    else if functionFromCanId raw11 ≠ expected.raw.toUInt8 then .error (reject "CAN ID function mismatch")
    else .ok ()

def checkVersion (frame : CanFrame) : Result Unit :=
  if frame.data[0] ≠ protocolVersion then .error (reject "unsupported protocol_version") else .ok ()

def encodeHeartbeat (msg : WireHeartbeat) : Result CanFrame := do
  validateNodeId msg.nodeId
  if msg.bootId = 0 then throw (invalid "boot_id must be non-zero")
  if msg.sessionId = 0 then throw (invalid "session_id must be non-zero")
  return {canId := makeCanId .heartbeat msg.nodeId
          len := 8
          data := #v[protocolVersion,0,highByte msg.bootId,lowByte msg.bootId,
            highByte msg.sessionId,lowByte msg.sessionId,highByte msg.hbSeq,lowByte msg.hbSeq]}

def encodeNodeStatus (msg : WireNodeStatus) : Result CanFrame := do
  validateNodeId msg.nodeId
  if msg.sessionId = 0 then throw (invalid "session_id must be non-zero")
  return {canId := makeCanId .status msg.nodeId
          len := 8
          data := #v[protocolVersion,if msg.interlockReady then 1 else 0,highByte msg.sessionId,lowByte msg.sessionId,
            highByte msg.inputBits,lowByte msg.inputBits,highByte msg.faultCode,lowByte msg.faultCode]}

def encodeOutputCommand (msg : WireOutputCommand) : Result CanFrame := do
  validateNodeId msg.nodeId
  if msg.mask = 0 then throw (invalid "mask must be non-zero")
  if msg.sessionId = 0 then throw (invalid "session_id must be non-zero")
  if msg.sequence = 0 then throw (invalid "sequence must be non-zero")
  if msg.validity10ms < minValidity10ms ∨ maxValidity10ms < msg.validity10ms then
    throw (invalid "validity_10ms must be 1..250")
  return {canId := makeCanId .outputCommand msg.nodeId
          len := 8
          data := #v[protocolVersion,msg.mask,highByte msg.sessionId,lowByte msg.sessionId,
            highByte msg.sequence,lowByte msg.sequence,msg.values,msg.validity10ms]}

def encodeOutputStatus (msg : WireOutputStatus) : Result CanFrame := do
  validateNodeId msg.nodeId
  if msg.sessionId = 0 then throw (invalid "session_id must be non-zero")
  if OutputResult.raw .notReady < msg.result.raw then throw (invalid "output result is reserved")
  return {canId := makeCanId .outputStatus msg.nodeId
          len := 8
          data := #v[protocolVersion,msg.result.raw,highByte msg.sessionId,lowByte msg.sessionId,
            highByte msg.sequence,lowByte msg.sequence,msg.outputMirror,0]}

def decodeHeartbeat (frame : CanFrame) : Result WireHeartbeat := do
  checkFrameLayer frame .heartbeat
  checkVersion frame
  if frame.data[1] ≠ 0 then throw (reject "heartbeat flags must be zero")
  let msg : WireHeartbeat :=
    {nodeId := nodeIdFromCanId (frame.canId &&& sffMask)
     bootId := readU16Be frame.data[2] frame.data[3]
     sessionId := readU16Be frame.data[4] frame.data[5]
     hbSeq := readU16Be frame.data[6] frame.data[7]}
  if msg.bootId = 0 then throw (reject "boot_id must be non-zero")
  if msg.sessionId = 0 then throw (reject "session_id must be non-zero")
  return msg

def decodeNodeStatus (frame : CanFrame) : Result WireNodeStatus := do
  checkFrameLayer frame .status
  checkVersion frame
  if frame.data[1] &&& 0xFE ≠ 0 then throw (reject "node status reserved flags must be zero")
  let msg : WireNodeStatus :=
    {nodeId := nodeIdFromCanId (frame.canId &&& sffMask)
     interlockReady := frame.data[1] &&& 0x01 != 0
     sessionId := readU16Be frame.data[2] frame.data[3]
     inputBits := readU16Be frame.data[4] frame.data[5]
     faultCode := readU16Be frame.data[6] frame.data[7]}
  if msg.sessionId = 0 then throw (reject "session_id must be non-zero")
  return msg

def decodeOutputCommand (frame : CanFrame) : Result WireOutputCommand := do
  checkFrameLayer frame .outputCommand
  checkVersion frame
  let msg : WireOutputCommand :=
    {nodeId := nodeIdFromCanId (frame.canId &&& sffMask)
     mask := frame.data[1]
     sessionId := readU16Be frame.data[2] frame.data[3]
     sequence := readU16Be frame.data[4] frame.data[5]
     values := frame.data[6]
     validity10ms := frame.data[7]}
  if msg.mask = 0 then throw (reject "mask must be non-zero")
  if msg.sessionId = 0 then throw (reject "session_id must be non-zero")
  if msg.sequence = 0 then throw (reject "sequence must be non-zero")
  if msg.validity10ms < minValidity10ms ∨ maxValidity10ms < msg.validity10ms then
    throw (reject "validity_10ms must be 1..250")
  return msg

def decodeOutputStatus (frame : CanFrame) : Result WireOutputStatus := do
  checkFrameLayer frame .outputStatus
  checkVersion frame
  if frame.data[1] &&& 0xF0 ≠ 0 then throw (reject "output status result high nibble must be zero")
  if frame.data[7] ≠ 0 then throw (reject "output status reserved byte must be zero")
  match OutputResult.fromRaw (frame.data[1] &&& 0x0F) with
  | none => throw (reject "output result is reserved")
  | some result =>
    let msg : WireOutputStatus :=
      {nodeId := nodeIdFromCanId (frame.canId &&& sffMask)
       result := result
       sessionId := readU16Be frame.data[2] frame.data[3]
       sequence := readU16Be frame.data[4] frame.data[5]
       outputMirror := frame.data[6]}
    if msg.sessionId = 0 then throw (reject "session_id must be non-zero")
    return msg

inductive DecodedMessage where
  | heartbeat (msg : WireHeartbeat)
  | status (msg : WireNodeStatus)
  | outputCommand (msg : WireOutputCommand)
  | outputStatus (msg : WireOutputStatus)
  deriving DecidableEq, Repr

-- The generic entry dispatches on the function bits; each decoder repeats the
-- whole frame check.
def decode (frame : CanFrame) : Result DecodedMessage :=
  if frame.canId &&& effFlag ≠ 0 then .error (reject "extended CAN frame rejected")
  else if frame.canId &&& rtrFlag ≠ 0 then .error (reject "RTR frame rejected")
  else if frame.len ≠ 8 then .error (reject "CAN V1 requires DLC=8")
  else
    let raw11 := frame.canId &&& sffMask
    if nodeIdFromCanId raw11 = 0 ∨ maxNodeId < nodeIdFromCanId raw11 then .error (reject "invalid node_id")
    else if functionFromCanId raw11 = Function.heartbeat.raw.toUInt8 then (decodeHeartbeat frame).map .heartbeat
    else if functionFromCanId raw11 = Function.status.raw.toUInt8 then (decodeNodeStatus frame).map .status
    else if functionFromCanId raw11 = Function.outputCommand.raw.toUInt8 then
      (decodeOutputCommand frame).map .outputCommand
    else if functionFromCanId raw11 = Function.outputStatus.raw.toUInt8 then
      (decodeOutputStatus frame).map .outputStatus
    else .error (reject "unknown CAN function")

-- What a chain of checks that ends in a value has passed.
section Guards

theorem guarded_ok {c : Prop} [Decidable c] {x : Result α} {f : β → Result α} :
    (if c then throw error >>= f else x) = .ok value ↔ ¬ c ∧ x = .ok value := by
  split
  · rename_i holds
    exact ⟨nofun,fun passed => absurd holds passed.1⟩
  · rename_i fails
    exact ⟨fun passed => ⟨fails,passed⟩,fun passed => passed.2⟩

theorem bound_ok {x : Result α} {f : α → Result β} :
    (x >>= f) = .ok value ↔ ∃ a, x = .ok a ∧ f a = .ok value := by
  cases x with
  | error error => exact ⟨nofun,nofun⟩
  | ok a => exact ⟨fun taken => ⟨a,rfl,taken⟩,fun ⟨_,same,taken⟩ => by cases same; exact taken⟩

theorem pure_ok {a value : α} : (pure a : Result α) = .ok value ↔ a = value :=
  ⟨Except.ok.inj,congrArg Except.ok⟩

theorem check_ok {c : Prop} [Decidable c] {x : Result α} :
    (if c then .error error else x) = .ok value ↔ ¬ c ∧ x = .ok value := by
  split
  · rename_i holds
    exact ⟨nofun,fun passed => absurd holds passed.1⟩
  · rename_i fails
    exact ⟨fun passed => ⟨fails,passed⟩,fun passed => passed.2⟩

end Guards

theorem validity_exact (nowNs deadlineNs : Int) (v : UInt8) (converted : validity10msFromDeadline nowNs deadlineNs = .ok v) :
    validityUnitNs ≤ deadlineNs - nowNs ∧ minValidity10ms ≤ v ∧ v ≤ maxValidity10ms ∧
      deadlineNs - nowNs ≤ v.toNat * validityUnitNs ∧
      v.toNat * validityUnitNs < deadlineNs - nowNs + validityUnitNs := by
  have unit : validityUnitNs = 10000000 := rfl
  simp only [validity10msFromDeadline,check_ok,Int.not_lt] at converted
  obtain ⟨low,most,value⟩ := converted
  cases value
  have most : (deadlineNs - nowNs + validityUnitNs - 1) / validityUnitNs ≤ 250 := most
  rw [unit] at low most ⊢
  generalize taken : (deadlineNs - nowNs + 10000000 - 1) / 10000000 = units at most ⊢
  have exact := UInt8.toNat_ofNat_of_lt' (show units.toNat < UInt8.size by simp only [UInt8.size]; omega)
  refine ⟨low,UInt8.le_iff_toNat_le.mpr ?_,UInt8.le_iff_toNat_le.mpr ?_,?_,?_⟩
  · rw [exact]; simp only [minValidity10ms,UInt8.reduceToNat]; omega
  · rw [exact]; simp only [maxValidity10ms,UInt8.reduceToNat]; omega
  · rw [exact]; omega
  · rw [exact]; omega

theorem validity_within (nowNs deadlineNs : Int) (low : validityUnitNs ≤ deadlineNs - nowNs)
    (high : deadlineNs - nowNs ≤ 250 * validityUnitNs) : ∃ v, validity10msFromDeadline nowNs deadlineNs = .ok v := by
  have unit : validityUnitNs = 10000000 := rfl
  have most : (deadlineNs - nowNs + validityUnitNs - 1) / validityUnitNs ≤ (maxValidity10ms.toNat : Int) := by
    change _ ≤ (250 : Int)
    rw [unit] at high ⊢
    omega
  simp only [validity10msFromDeadline]
  rw [if_neg (Int.not_lt.mpr low),if_neg (Int.not_lt.mpr most)]
  exact ⟨_,rfl⟩

theorem byte_cases {P : UInt8 → Prop} (all : ∀ n : Fin 256, P (UInt8.ofNat n)) (byte : UInt8) : P byte := by
  have case := all ⟨byte.toNat,byte.toNat_lt⟩
  rwa [UInt8.ofNat_toNat] at case

theorem u16_value (high low : UInt8) : (readU16Be high low).toNat = high.toNat * 256 + low.toNat := by
  have h := high.toNat_lt
  have l := low.toNat_lt
  simp only [readU16Be,UInt16.toNat_or,UInt16.toNat_shiftLeft,UInt8.toNat_toUInt16]
  rw [Nat.mod_eq_of_lt,← Nat.shiftLeft_add_eq_or_of_lt] <;> simp [Nat.shiftLeft_eq] <;> omega

theorem high_value (value : UInt16) : (highByte value).toNat = value.toNat / 256 := by
  have bound := value.toNat_lt
  simp only [highByte,UInt16.toNat_toUInt8,UInt16.toNat_shiftRight]
  simp [Nat.shiftRight_eq_div_pow]
  omega

theorem low_value (value : UInt16) : (lowByte value).toNat = value.toNat % 256 := by
  simp only [lowByte,UInt16.toNat_toUInt8]

@[simp] theorem u16_roundtrip (value : UInt16) : readU16Be (highByte value) (lowByte value) = value := by
  apply UInt16.toNat_inj.mp
  rw [u16_value,high_value,low_value]
  omega

@[simp] theorem u16_high (high low : UInt8) : highByte (readU16Be high low) = high := by
  have l := low.toNat_lt
  apply UInt8.toNat_inj.mp
  rw [high_value,u16_value]
  omega

@[simp] theorem u16_low (high low : UInt8) : lowByte (readU16Be high low) = low := by
  have l := low.toNat_lt
  apply UInt8.toNat_inj.mp
  rw [low_value,u16_value]
  omega

theorem bytes_exact (data : Vector UInt8 8) (a b c d e f g h : UInt8) :
    data = #v[a,b,c,d,e,f,g,h] ↔ data[0] = a ∧ data[1] = b ∧ data[2] = c ∧ data[3] = d ∧ data[4] = e ∧
      data[5] = f ∧ data[6] = g ∧ data[7] = h := by
  constructor
  · rintro rfl
    exact ⟨rfl,rfl,rfl,rfl,rfl,rfl,rfl,rfl⟩
  · rintro ⟨rfl,rfl,rfl,rfl,rfl,rfl,rfl,rfl⟩
    ext i bound
    match i,bound with
    | 0,_ | 1,_ | 2,_ | 3,_ | 4,_ | 5,_ | 6,_ | 7,_ => rfl

theorem node_small (nodeId : UInt8) (known : nodeId ≤ maxNodeId) : ∃ n : Fin 32, nodeId = UInt8.ofNat n := by
  have bound : nodeId.toNat ≤ 31 := UInt8.le_iff_toNat_le.mp known
  exact ⟨⟨nodeId.toNat,by omega⟩,by simp⟩

structure Addressed (canId : UInt32) (function : Function) (nodeId : UInt8) : Prop where
  standard : canId &&& effFlag = 0
  data : canId &&& rtrFlag = 0
  node : nodeIdFromCanId (canId &&& sffMask) = nodeId
  function : functionFromCanId (canId &&& sffMask) = function.raw.toUInt8

theorem make_addressed (function : Function) (nodeId : UInt8) (known : nodeId ≤ maxNodeId) :
    Addressed (makeCanId function nodeId) function nodeId := by
  obtain ⟨n,rfl⟩ := node_small nodeId known
  constructor <;> revert n <;> cases function <;> decide

theorem addressed_function (left : Addressed canId function nodeId) (right : Addressed canId other named) :
    function = other := by
  have same := left.function.symm.trans right.function
  revert same
  cases function <;> cases other <;> decide

structure Carries (frame : CanFrame) (function : Function) (nodeId : UInt8) (payload : Vector UInt8 8) : Prop where
  addressed : Addressed frame.canId function nodeId
  length : frame.len = 8
  payload : frame.data = payload

theorem make_carries (function : Function) (nodeId : UInt8) (known : nodeId ≤ maxNodeId) (payload : Vector UInt8 8) :
    Carries {canId := makeCanId function nodeId,len := 8,data := payload} function nodeId payload :=
  ⟨make_addressed function nodeId known,rfl,rfl⟩

theorem validate_node (nodeId : UInt8) (result : Unit) :
    validateNodeId nodeId = .ok result ↔ nodeId ≠ 0 ∧ nodeId ≤ maxNodeId := by
  simp only [validateNodeId,check_ok,not_or,UInt8.not_lt,ne_eq,and_true]

theorem layer_passes (frame : CanFrame) (expected : Function) (result : Unit) :
    checkFrameLayer frame expected = .ok result ↔
      Addressed frame.canId expected (nodeIdFromCanId (frame.canId &&& sffMask)) ∧ frame.len = 8 ∧
        nodeIdFromCanId (frame.canId &&& sffMask) ≠ 0 ∧ nodeIdFromCanId (frame.canId &&& sffMask) ≤ maxNodeId := by
  simp only [checkFrameLayer,check_ok,ne_eq,not_not,not_or,UInt8.not_lt,and_true]
  constructor
  · rintro ⟨standard,data,length,⟨nonzero,known⟩,function⟩
    exact ⟨⟨standard,data,rfl,function⟩,length,nonzero,known⟩
  · rintro ⟨⟨standard,data,_,function⟩,length,nonzero,known⟩
    exact ⟨standard,data,length,⟨nonzero,known⟩,function⟩

theorem version_passes (frame : CanFrame) (result : Unit) :
    checkVersion frame = .ok result ↔ frame.data[0] = protocolVersion := by
  simp only [checkVersion,check_ok,ne_eq,not_not,and_true]

-- For each of the four messages: the rules of the wire, its bytes, what its
-- encoder makes and what its decoder takes.
section Heartbeat

structure WireHeartbeat.WellFormed (msg : WireHeartbeat) : Prop where
  node : msg.nodeId ≠ 0 ∧ msg.nodeId ≤ maxNodeId
  boot : msg.bootId ≠ 0
  session : msg.sessionId ≠ 0

def WireHeartbeat.payload (msg : WireHeartbeat) : Vector UInt8 8 :=
  #v[protocolVersion,0,highByte msg.bootId,lowByte msg.bootId,highByte msg.sessionId,lowByte msg.sessionId,
    highByte msg.hbSeq,lowByte msg.hbSeq]

theorem heartbeat_encoded (msg : WireHeartbeat) :
    encodeHeartbeat msg = .ok frame ↔
      msg.WellFormed ∧ frame = {canId := makeCanId .heartbeat msg.nodeId,len := 8,data := msg.payload} := by
  simp only [encodeHeartbeat,guarded_ok,bound_ok,pure_ok,validate_node,exists_const]
  constructor
  · rintro ⟨node,boot,session,rfl⟩
    exact ⟨⟨node,boot,session⟩,rfl⟩
  · rintro ⟨⟨node,boot,session⟩,rfl⟩
    exact ⟨node,boot,session,rfl⟩

theorem heartbeat_decoded (frame : CanFrame) (msg : WireHeartbeat) :
    decodeHeartbeat frame = .ok msg ↔ msg.WellFormed ∧ Carries frame .heartbeat msg.nodeId msg.payload := by
  simp only [decodeHeartbeat,guarded_ok,bound_ok,pure_ok,layer_passes,version_passes,exists_const,ne_eq,not_not]
  constructor
  · rintro ⟨⟨addressed,length,node⟩,version,flags,boot,session,rfl⟩
    refine ⟨⟨node,boot,session⟩,addressed,length,(bytes_exact _ _ _ _ _ _ _ _ _).mpr ?_⟩
    simp only [u16_high,u16_low,version,flags,and_self]
  · rintro ⟨⟨node,boot,session⟩,addressed,length,payload⟩
    obtain ⟨version,flags,d2,d3,d4,d5,d6,d7⟩ := (bytes_exact _ _ _ _ _ _ _ _ _).mp payload
    rw [addressed.node,d2,d3,d4,d5,d6,d7]
    simp only [u16_roundtrip]
    exact ⟨⟨addressed,length,node⟩,version,flags,boot,session,trivial⟩

end Heartbeat

section NodeStatus

structure WireNodeStatus.WellFormed (msg : WireNodeStatus) : Prop where
  node : msg.nodeId ≠ 0 ∧ msg.nodeId ≤ maxNodeId
  session : msg.sessionId ≠ 0

def readyFlag (ready : Bool) : UInt8 := if ready then 1 else 0

def WireNodeStatus.payload (msg : WireNodeStatus) : Vector UInt8 8 :=
  #v[protocolVersion,readyFlag msg.interlockReady,highByte msg.sessionId,lowByte msg.sessionId,
    highByte msg.inputBits,lowByte msg.inputBits,highByte msg.faultCode,lowByte msg.faultCode]

theorem flag_exact (byte : UInt8) (ready : Bool) :
    (byte &&& 0xFE = 0 ∧ (byte &&& 0x01 != 0) = ready) ↔ byte = readyFlag ready := by
  revert byte
  refine byte_cases ?_
  cases ready <;> decide +kernel

theorem nodeStatus_encoded (msg : WireNodeStatus) :
    encodeNodeStatus msg = .ok frame ↔
      msg.WellFormed ∧ frame = {canId := makeCanId .status msg.nodeId,len := 8,data := msg.payload} := by
  simp only [encodeNodeStatus,guarded_ok,bound_ok,pure_ok,validate_node,exists_const]
  constructor
  · rintro ⟨node,session,rfl⟩
    exact ⟨⟨node,session⟩,rfl⟩
  · rintro ⟨⟨node,session⟩,rfl⟩
    exact ⟨node,session,rfl⟩

theorem nodeStatus_decoded (frame : CanFrame) (msg : WireNodeStatus) :
    decodeNodeStatus frame = .ok msg ↔ msg.WellFormed ∧ Carries frame .status msg.nodeId msg.payload := by
  simp only [decodeNodeStatus,guarded_ok,bound_ok,pure_ok,layer_passes,version_passes,exists_const,ne_eq,not_not]
  constructor
  · rintro ⟨⟨addressed,length,node⟩,version,flags,session,rfl⟩
    refine ⟨⟨node,session⟩,addressed,length,(bytes_exact _ _ _ _ _ _ _ _ _).mpr ?_⟩
    have flag := (flag_exact _ _).mp ⟨flags,rfl⟩
    simp only [u16_high,u16_low,version,and_self,and_true,true_and]
    exact flag
  · rintro ⟨⟨node,session⟩,addressed,length,payload⟩
    obtain ⟨version,flags,d2,d3,d4,d5,d6,d7⟩ := (bytes_exact _ _ _ _ _ _ _ _ _).mp payload
    obtain ⟨reserved,ready⟩ := (flag_exact _ _).mpr flags
    rw [addressed.node,d2,d3,d4,d5,d6,d7,ready]
    simp only [u16_roundtrip]
    exact ⟨⟨addressed,length,node⟩,version,reserved,session,trivial⟩

end NodeStatus

section OutputCommand

structure WireOutputCommand.WellFormed (msg : WireOutputCommand) : Prop where
  node : msg.nodeId ≠ 0 ∧ msg.nodeId ≤ maxNodeId
  mask : msg.mask ≠ 0
  session : msg.sessionId ≠ 0
  sequence : msg.sequence ≠ 0
  validity : minValidity10ms ≤ msg.validity10ms ∧ msg.validity10ms ≤ maxValidity10ms

def WireOutputCommand.payload (msg : WireOutputCommand) : Vector UInt8 8 :=
  #v[protocolVersion,msg.mask,highByte msg.sessionId,lowByte msg.sessionId,highByte msg.sequence,lowByte msg.sequence,
    msg.values,msg.validity10ms]

theorem command_encoded (msg : WireOutputCommand) :
    encodeOutputCommand msg = .ok frame ↔
      msg.WellFormed ∧ frame = {canId := makeCanId .outputCommand msg.nodeId,len := 8,data := msg.payload} := by
  simp only [encodeOutputCommand,guarded_ok,bound_ok,pure_ok,validate_node,exists_const,not_or,UInt8.not_lt]
  constructor
  · rintro ⟨node,mask,session,sequence,validity,rfl⟩
    exact ⟨⟨node,mask,session,sequence,validity⟩,rfl⟩
  · rintro ⟨⟨node,mask,session,sequence,validity⟩,rfl⟩
    exact ⟨node,mask,session,sequence,validity,rfl⟩

theorem command_decoded (frame : CanFrame) (msg : WireOutputCommand) :
    decodeOutputCommand frame = .ok msg ↔ msg.WellFormed ∧ Carries frame .outputCommand msg.nodeId msg.payload := by
  simp only [decodeOutputCommand,guarded_ok,bound_ok,pure_ok,layer_passes,version_passes,exists_const,not_or,
    UInt8.not_lt]
  constructor
  · rintro ⟨⟨addressed,length,node⟩,version,mask,session,sequence,validity,rfl⟩
    refine ⟨⟨node,mask,session,sequence,validity⟩,addressed,length,(bytes_exact _ _ _ _ _ _ _ _ _).mpr ?_⟩
    simp only [u16_high,u16_low,version,and_self]
  · rintro ⟨⟨node,mask,session,sequence,validity⟩,addressed,length,payload⟩
    obtain ⟨version,d1,d2,d3,d4,d5,d6,d7⟩ := (bytes_exact _ _ _ _ _ _ _ _ _).mp payload
    rw [addressed.node,d1,d2,d3,d4,d5,d6,d7]
    simp only [u16_roundtrip]
    exact ⟨⟨addressed,length,node⟩,version,mask,session,sequence,validity,trivial⟩

theorem command_roundtrip (msg : WireOutputCommand) (encoded : encodeOutputCommand msg = .ok frame) :
    decodeOutputCommand frame = .ok msg := by
  obtain ⟨formed,rfl⟩ := (command_encoded msg).mp encoded
  exact (command_decoded _ msg).mpr ⟨formed,make_carries .outputCommand msg.nodeId formed.node.2 msg.payload⟩

end OutputCommand

section OutputStatus

structure WireOutputStatus.WellFormed (msg : WireOutputStatus) : Prop where
  node : msg.nodeId ≠ 0 ∧ msg.nodeId ≤ maxNodeId
  session : msg.sessionId ≠ 0
  result : msg.result.raw ≤ OutputResult.raw .notReady

def WireOutputStatus.payload (msg : WireOutputStatus) : Vector UInt8 8 :=
  #v[protocolVersion,msg.result.raw,highByte msg.sessionId,lowByte msg.sessionId,highByte msg.sequence,
    lowByte msg.sequence,msg.outputMirror,0]

theorem reserved_big (raw : Fin 250) : ¬ OutputResult.raw (.reserved raw) ≤ OutputResult.raw .notReady := by
  intro known
  have big : (UInt8.ofNat (6 + raw.val)).toNat ≤ 5 := UInt8.le_iff_toNat_le.mp known
  rw [UInt8.toNat_ofNat_of_lt' (by have := raw.isLt; simp [UInt8.size]; omega)] at big
  omega

theorem low_nibble (byte : UInt8) : byte &&& 0xF0 = 0 → byte &&& 0x0F = byte := by
  revert byte
  exact byte_cases (by decide +kernel)

theorem fromRaw_exact (raw : UInt8) (result : OutputResult) :
    OutputResult.fromRaw raw = some result ↔ raw = result.raw ∧ result.raw ≤ OutputResult.raw .notReady := by
  unfold OutputResult.fromRaw
  constructor
  · intro read
    split at read
    · cases read; exact ⟨by assumption,by decide⟩
    · split at read
      · cases read; exact ⟨by assumption,by decide⟩
      · split at read
        · cases read; exact ⟨by assumption,by decide⟩
        · split at read
          · cases read; exact ⟨by assumption,by decide⟩
          · split at read
            · cases read; exact ⟨by assumption,by decide⟩
            · split at read
              · cases read; exact ⟨by assumption,by decide⟩
              · cases read
  · rintro ⟨rfl,known⟩
    cases result with
    | reserved raw => exact absurd known (reserved_big raw)
    | _ => rfl

-- The six listed results fill the low half of their byte; a reserved one is
-- neither encoded nor decoded.
theorem result_exact (byte : UInt8) (result : OutputResult) :
    (byte &&& 0xF0 = 0 ∧ OutputResult.fromRaw (byte &&& 0x0F) = some result) ↔
      byte = result.raw ∧ result.raw ≤ OutputResult.raw .notReady := by
  constructor
  · rintro ⟨nibble,read⟩
    rw [low_nibble byte nibble] at read
    exact (fromRaw_exact byte result).mp read
  · rintro ⟨rfl,known⟩
    have nibble : result.raw &&& 0xF0 = 0 := by
      cases result with
      | reserved raw => exact absurd known (reserved_big raw)
      | _ => rfl
    rw [low_nibble _ nibble]
    exact ⟨nibble,(fromRaw_exact _ result).mpr ⟨rfl,known⟩⟩

theorem status_encoded (msg : WireOutputStatus) :
    encodeOutputStatus msg = .ok frame ↔
      msg.WellFormed ∧ frame = {canId := makeCanId .outputStatus msg.nodeId,len := 8,data := msg.payload} := by
  simp only [encodeOutputStatus,guarded_ok,bound_ok,pure_ok,validate_node,exists_const,UInt8.not_lt]
  constructor
  · rintro ⟨node,session,result,rfl⟩
    exact ⟨⟨node,session,result⟩,rfl⟩
  · rintro ⟨⟨node,session,result⟩,rfl⟩
    exact ⟨node,session,result,rfl⟩

theorem status_decoded (frame : CanFrame) (msg : WireOutputStatus) :
    decodeOutputStatus frame = .ok msg ↔ msg.WellFormed ∧ Carries frame .outputStatus msg.nodeId msg.payload := by
  simp only [decodeOutputStatus,guarded_ok,bound_ok,layer_passes,version_passes,exists_const,ne_eq,not_not]
  constructor
  · rintro ⟨⟨addressed,length,node⟩,version,nibble,reserved,read⟩
    split at read
    · cases read
    · rename_i result known
      simp only [guarded_ok,pure_ok] at read
      obtain ⟨session,rfl⟩ := read
      obtain ⟨raw,listed⟩ := (result_exact _ _).mp ⟨nibble,known⟩
      refine ⟨⟨node,session,listed⟩,addressed,length,(bytes_exact _ _ _ _ _ _ _ _ _).mpr ?_⟩
      simp only [u16_high,u16_low,version,raw,reserved,and_self]
  · rintro ⟨⟨node,session,listed⟩,addressed,length,payload⟩
    obtain ⟨version,d1,d2,d3,d4,d5,d6,d7⟩ := (bytes_exact _ _ _ _ _ _ _ _ _).mp payload
    obtain ⟨nibble,known⟩ := (result_exact _ _).mpr ⟨d1,listed⟩
    rw [addressed.node,d2,d3,d4,d5,d6,known]
    simp only [u16_roundtrip,guarded_ok,pure_ok]
    exact ⟨⟨addressed,length,node⟩,version,nibble,d7,session,trivial⟩

end OutputStatus

end CanV1

end RobotControlRuntime
