import RobotControlRuntime.Types

namespace RobotControlRuntime

-- A std::string is a sequence of bytes; the literals of the source are ASCII.
def text (literal : String) : List UInt8 := literal.toByteArray.data.toList

def decimalNat (value : Nat) : List UInt8 := (Nat.toDigits 10 value).map fun digit => UInt8.ofNat digit.toNat

def decimal (value : Int) : List UInt8 := if value < 0 then 0x2d :: decimalNat value.natAbs else decimalNat value.natAbs

def int64Max : Int := 9223372036854775807

-- 0..7 of an 8-bit enumeration; `unlisted k` is the raw byte 8+k.
inductive CommandStatus where
  | accepted | invalidArgument | notOpen | busy | rejected | timeout | ioError | unsupported
  | unlisted (raw : Fin 248)
  deriving DecidableEq, Repr

inductive RuntimeModeCode where
  | disabled | idle | active | hold | fault | eStop | unknown
  | unlisted (raw : Fin 249)
  deriving DecidableEq, Repr

inductive RuntimeFaultCode where
  | none | watchdog | inputFault | commLoss | nodeFault | protocolReject | interlockLost | internal | ackTimeout | unknown
  | unlisted (raw : Fin 246)
  deriving DecidableEq, Repr

inductive OutputApplyResult where
  | applied | staleSequence | sessionMismatch | expired | invalidMask | notReady | unknown
  | unlisted (raw : Fin 249)
  deriving DecidableEq, Repr

inductive EvidenceClass where
  | unspecified | mock | vcan | physical | loopback
  | unlisted (raw : Fin 251)
  deriving DecidableEq, Repr

def CommandStatus.raw : CommandStatus → UInt8
  | .accepted => 0
  | .invalidArgument => 1
  | .notOpen => 2
  | .busy => 3
  | .rejected => 4
  | .timeout => 5
  | .ioError => 6
  | .unsupported => 7
  | .unlisted raw => UInt8.ofNat (8 + raw.val)

def RuntimeModeCode.raw : RuntimeModeCode → UInt8
  | .disabled => 0
  | .idle => 1
  | .active => 2
  | .hold => 3
  | .fault => 4
  | .eStop => 5
  | .unknown => 6
  | .unlisted raw => UInt8.ofNat (7 + raw.val)

def RuntimeFaultCode.raw : RuntimeFaultCode → UInt8
  | .none => 0
  | .watchdog => 1
  | .inputFault => 2
  | .commLoss => 3
  | .nodeFault => 4
  | .protocolReject => 5
  | .interlockLost => 6
  | .internal => 7
  | .ackTimeout => 8
  | .unknown => 9
  | .unlisted raw => UInt8.ofNat (10 + raw.val)

def OutputApplyResult.raw : OutputApplyResult → UInt8
  | .applied => 0
  | .staleSequence => 1
  | .sessionMismatch => 2
  | .expired => 3
  | .invalidMask => 4
  | .notReady => 5
  | .unknown => 6
  | .unlisted raw => UInt8.ofNat (7 + raw.val)

def EvidenceClass.raw : EvidenceClass → UInt8
  | .unspecified => 0
  | .mock => 1
  | .vcan => 2
  | .physical => 3
  | .loopback => 4
  | .unlisted raw => UInt8.ofNat (5 + raw.val)

-- A static_cast back to the enumeration.
def CommandStatus.ofRaw (byte : UInt8) : CommandStatus :=
  match byte.toNat with
  | 0 => .accepted
  | 1 => .invalidArgument
  | 2 => .notOpen
  | 3 => .busy
  | 4 => .rejected
  | 5 => .timeout
  | 6 => .ioError
  | 7 => .unsupported
  | n + 8 => .unlisted ⟨n % 248,Nat.mod_lt n (by decide)⟩

def RuntimeModeCode.ofRaw (byte : UInt8) : RuntimeModeCode :=
  match byte.toNat with
  | 0 => .disabled
  | 1 => .idle
  | 2 => .active
  | 3 => .hold
  | 4 => .fault
  | 5 => .eStop
  | 6 => .unknown
  | n + 7 => .unlisted ⟨n % 249,Nat.mod_lt n (by decide)⟩

def RuntimeFaultCode.ofRaw (byte : UInt8) : RuntimeFaultCode :=
  match byte.toNat with
  | 0 => .none
  | 1 => .watchdog
  | 2 => .inputFault
  | 3 => .commLoss
  | 4 => .nodeFault
  | 5 => .protocolReject
  | 6 => .interlockLost
  | 7 => .internal
  | 8 => .ackTimeout
  | 9 => .unknown
  | n + 10 => .unlisted ⟨n % 246,Nat.mod_lt n (by decide)⟩

def OutputApplyResult.ofRaw (byte : UInt8) : OutputApplyResult :=
  match byte.toNat with
  | 0 => .applied
  | 1 => .staleSequence
  | 2 => .sessionMismatch
  | 3 => .expired
  | 4 => .invalidMask
  | 5 => .notReady
  | 6 => .unknown
  | n + 7 => .unlisted ⟨n % 249,Nat.mod_lt n (by decide)⟩

def EvidenceClass.ofRaw (byte : UInt8) : EvidenceClass :=
  match byte.toNat with
  | 0 => .unspecified
  | 1 => .mock
  | 2 => .vcan
  | 3 => .physical
  | 4 => .loopback
  | n + 5 => .unlisted ⟨n % 251,Nat.mod_lt n (by decide)⟩

theorem unlisted_byte (listed : Nat) {count : Nat} (k : Fin count) (room : listed + count ≤ 256) :
    (UInt8.ofNat (listed + k.val)).toNat = k.val + listed := by
  rw [UInt8.toNat_ofNat',Nat.mod_eq_of_lt (by omega),Nat.add_comm]

theorem CommandStatus.ofRaw_raw (status : CommandStatus) : CommandStatus.ofRaw status.raw = status := by
  cases status with
  | unlisted k => simp only [raw,ofRaw,unlisted_byte 8 k (by decide),Nat.mod_eq_of_lt k.isLt]
  | _ => rfl

theorem RuntimeModeCode.ofRaw_raw (mode : RuntimeModeCode) : RuntimeModeCode.ofRaw mode.raw = mode := by
  cases mode with
  | unlisted k => simp only [raw,ofRaw,unlisted_byte 7 k (by decide),Nat.mod_eq_of_lt k.isLt]
  | _ => rfl

theorem RuntimeFaultCode.ofRaw_raw (fault : RuntimeFaultCode) : RuntimeFaultCode.ofRaw fault.raw = fault := by
  cases fault with
  | unlisted k => simp only [raw,ofRaw,unlisted_byte 10 k (by decide),Nat.mod_eq_of_lt k.isLt]
  | _ => rfl

theorem OutputApplyResult.ofRaw_raw (result : OutputApplyResult) : OutputApplyResult.ofRaw result.raw = result := by
  cases result with
  | unlisted k => simp only [raw,ofRaw,unlisted_byte 7 k (by decide),Nat.mod_eq_of_lt k.isLt]
  | _ => rfl

theorem EvidenceClass.ofRaw_raw (evidence : EvidenceClass) : EvidenceClass.ofRaw evidence.raw = evidence := by
  cases evidence with
  | unlisted k => simp only [raw,ofRaw,unlisted_byte 5 k (by decide),Nat.mod_eq_of_lt k.isLt]
  | _ => rfl

theorem RuntimeFaultCode.raw_ofRaw (byte : UInt8) : (RuntimeFaultCode.ofRaw byte).raw = byte := by
  have bound := byte.toNat_lt
  apply UInt8.toNat_inj.mp
  unfold ofRaw
  split <;> rename_i same
  all_goals first
    | rw [same]; rfl
    | rw [raw,unlisted_byte 10 _ (by decide),same]
      exact congrArg (· + 10) (Nat.mod_eq_of_lt (by omega))

theorem OutputApplyResult.raw_ofRaw (byte : UInt8) : (OutputApplyResult.ofRaw byte).raw = byte := by
  have bound := byte.toNat_lt
  apply UInt8.toNat_inj.mp
  unfold ofRaw
  split <;> rename_i same
  all_goals first
    | rw [same]; rfl
    | rw [raw,unlisted_byte 7 _ (by decide),same]
      exact congrArg (· + 7) (Nat.mod_eq_of_lt (by omega))

inductive CommunicationStopReason where
  | none | eventFd | signal | ioError | sendFailure | unknown
  | unlisted (raw : Fin 250)
  deriving DecidableEq, Repr

inductive DiagnosticSource where
  | runtime | communication | device | workbench | test
  | unlisted (raw : Fin 251)
  deriving DecidableEq, Repr

def DiagnosticSource.toText : DiagnosticSource → List UInt8
  | .runtime => text "RUNTIME"
  | .communication => text "COMMUNICATION"
  | .device => text "DEVICE"
  | .workbench => text "WORKBENCH"
  | .test => text "TEST"
  | .unlisted _ => text "UNKNOWN"

inductive DiagnosticSeverity where
  | info | warning | error
  | unlisted (raw : Fin 253)
  deriving DecidableEq, Repr

def DiagnosticSeverity.toText : DiagnosticSeverity → List UInt8
  | .info => text "INFO"
  | .warning => text "WARNING"
  | .error => text "ERROR"
  | .unlisted _ => text "UNKNOWN"

def EvidenceClass.toText : EvidenceClass → List UInt8
  | .unspecified => text "UNSPECIFIED"
  | .mock => text "MOCK"
  | .vcan => text "VCAN"
  | .physical => text "PHYSICAL"
  | .loopback => text "LOOPBACK"
  | .unlisted _ => text "UNKNOWN"

def RuntimeFaultCode.toText : RuntimeFaultCode → List UInt8
  | .none => text "NONE"
  | .watchdog => text "WATCHDOG"
  | .inputFault => text "INPUT_FAULT"
  | .commLoss => text "COMM_LOSS"
  | .nodeFault => text "NODE_FAULT"
  | .protocolReject => text "PROTOCOL_REJECT"
  | .interlockLost => text "INTERLOCK_LOST"
  | .internal => text "INTERNAL"
  | .ackTimeout => text "ACK_TIMEOUT"
  | .unknown | .unlisted _ => text "UNKNOWN"

structure DiagnosticEvent where
  observedMonotonicNs : Int := -1
  source : DiagnosticSource := .workbench
  severity : DiagnosticSeverity := .info
  code : List UInt8 := []
  message : List UInt8 := []
  deviceId : List UInt8 := []
  runId : List UInt8 := []
  context : List UInt8 := []
  deriving DecidableEq, Repr

structure RuntimeStateView where
  started : Bool := false
  schedulerRunning : Bool := false
  interlockReady : Bool := false
  mode : RuntimeModeCode := .disabled
  fault : RuntimeFaultCode := .none
  deriving DecidableEq, Repr

structure CommunicationView where
  backend : List UInt8 := []
  interfaceName : List UInt8 := []
  evidence : EvidenceClass := .unspecified
  framesReceived : UInt64 := 0
  framesSent : UInt64 := 0
  decodeRejects : UInt64 := 0
  queueRejects : UInt64 := 0
  inputQueueDropCount : UInt64 := 0
  inputQueueOverflowLatched : Bool := false
  stopReason : CommunicationStopReason := .none
  deriving DecidableEq, Repr

structure DeviceView where
  deviceId : List UInt8 := []
  nodeId : UInt8 := 0
  everSeen : Bool := false
  online : Bool := false
  restartLatched : Bool := false
  overflowFaultLatched : Bool := false
  commLossLatched : Bool := false
  bootId : UInt16 := 0
  sessionId : UInt16 := 0
  lastHeartbeatSequence : UInt16 := 0
  deviceFaultCode : UInt16 := 0
  inputBits : UInt16 := 0
  lastOutputMirror : UInt8 := 0
  -- -1: no heartbeat so far, or no reading of the clock.
  heartbeatAgeNs : Int64 := -1
  heartbeats : UInt64 := 0
  statusUpdates : UInt64 := 0
  protocolRejects : UInt64 := 0
  deriving DecidableEq, Repr

structure OutputFeedbackView where
  ackPending : Bool := false
  lastAckSession : UInt16 := 0
  lastAckSequence : UInt16 := 0
  lastAckResult : OutputApplyResult := .applied
  deriving DecidableEq, Repr

structure RuntimeTelemetrySnapshot where
  observedMonotonicNs : Int64 := -1
  runtime : RuntimeStateView := {}
  communication : CommunicationView := {}
  device : DeviceView := {}
  output : OutputFeedbackView := {}
  positionReached : Bool := false
  cellReady : Bool := false
  cellModbusOnline : Bool := false
  cellReadyDo0Requested : Bool := false
  cellReadyDo0Confirmed : Bool := false
  cellReadyDo0Status : UInt8 := 0
  diagnostics : List DiagnosticEvent := []
  deriving DecidableEq, Repr

structure DigitalOutputRequest where
  sessionId : UInt64 := 0
  sequence : UInt64 := 0
  validForMs : UInt32 := 0
  mask : UInt32 := 0
  values : UInt32 := 0
  deriving DecidableEq, Repr

structure CommandReply where
  status : CommandStatus := .rejected
  fromState : RuntimeModeCode := .unknown
  toState : RuntimeModeCode := .unknown
  message : List UInt8 := []
  deriving DecidableEq, Repr

end RobotControlRuntime
