import RobotControlRuntime.ModbusAgentProtocol

namespace RobotControlRuntime
open ModbusRtu

structure RtuTurn where
  rx : Result (List UInt8)
  t0 : Int := 0
  t1 : Int := 0

abbrev RtuTransact := List UInt8 → RtuTurn

structure PhysicalModbusIoConfig where
  serialPort : List UInt8 := text "/dev/ttyS7"
  baudRate : UInt32 := 9600
  parity : UInt8 := 78
  slaveId : UInt8 := 1
  sku : List UInt8 := text "MR0-IOR08"
  deriving DecidableEq, Repr

structure PhysicalModbusIoService where
  config : PhysicalModbusIoConfig
  snapshot : ModbusIoSnapshot
  deriving DecidableEq, Repr

def Errc.toText : Errc → String
  | .invalidArgument => "INVALID_ARGUMENT"
  | .notOpen => "NOT_OPEN"
  | .ioError => "IO_ERROR"
  | .timeout => "TIMEOUT"
  | .wouldBlock => "WOULD_BLOCK"
  | .busy => "BUSY"
  | .rejected => "REJECTED"
  | .unsupported => "UNSUPPORTED"

def exceptionMessage (code : UInt8) : String := "Modbus exception " ++ toString code.toNat

namespace ModbusIoSnapshot

def beginTransaction (snapshot : ModbusIoSnapshot) (slaveId function : UInt8) (address quantity : UInt16) (tx : List UInt8) :
    ModbusIoSnapshot :=
  {snapshot with
    lastError := []
    lastTransaction :=
      {snapshot.lastTransaction with
        direction := text "REQUEST"
        slaveId := slaveId
        function := function
        address := address
        quantity := quantity
        txHex := bytesToHex tx
        rxHex := []
        result := []}}

def timed (snapshot : ModbusIoSnapshot) (turn : RtuTurn) : ModbusIoSnapshot :=
  {snapshot with
    lastTransaction := {snapshot.lastTransaction with rttNs := if turn.t1 > turn.t0 then turn.t1 - turn.t0 else 0}
    lastUpdateMonotonicNs := turn.t1}

def received (snapshot : ModbusIoSnapshot) (rx : List UInt8) : ModbusIoSnapshot :=
  {snapshot with lastTransaction := {snapshot.lastTransaction with rxHex := bytesToHex rx}}

def applyFault (snapshot : ModbusIoSnapshot) (error : Error) : ModbusIoSnapshot :=
  {snapshot with
    scanState := .error
    lastCommandStatus := if error.code = .timeout then .timeout else .rejected
    deviceState := if error.code = .timeout then .timeout else .error
    lastError := text error.message
    lastTransaction := {snapshot.lastTransaction with result := text error.code.toText}}

def refused (snapshot : ModbusIoSnapshot) (message : String) : ModbusIoSnapshot :=
  {snapshot with
    scanState := .error
    deviceState := .error
    lastCommandStatus := .exception
    lastError := text message
    lastTransaction := {snapshot.lastTransaction with result := text message}}

def answered (snapshot : ModbusIoSnapshot) : ModbusIoSnapshot :=
  {snapshot with lastTransaction := {snapshot.lastTransaction with result := text "OK",direction := text "RESPONSE"}}

def online (snapshot : ModbusIoSnapshot) : ModbusIoSnapshot :=
  {snapshot with scanState := .complete,deviceState := .online,lastCommandStatus := .confirmed}

def output (snapshot : ModbusIoSnapshot) (channel : Nat) (change : DigitalOutputState → DigitalOutputState) :
    ModbusIoSnapshot :=
  {snapshot with digitalOutputs := snapshot.digitalOutputs.mapIdx fun i output => if i = channel then change output else output}

@[simp] theorem refused_state (snapshot : ModbusIoSnapshot) (message : String) :
    (snapshot.refused message).deviceState = .error := rfl

@[simp] theorem output_state (snapshot : ModbusIoSnapshot) (channel : Nat) (change : DigitalOutputState → DigitalOutputState) :
    (snapshot.output channel change).deviceState = snapshot.deviceState := rfl

-- Only `output` touches the outputs.
section
variable (snapshot : ModbusIoSnapshot)

@[simp] theorem begun_outputs (slaveId function : UInt8) (address quantity : UInt16) (tx : List UInt8) :
    (snapshot.beginTransaction slaveId function address quantity tx).digitalOutputs = snapshot.digitalOutputs := rfl

@[simp] theorem timed_outputs (turn : RtuTurn) : (snapshot.timed turn).digitalOutputs = snapshot.digitalOutputs := rfl

@[simp] theorem received_outputs (rx : List UInt8) : (snapshot.received rx).digitalOutputs = snapshot.digitalOutputs := rfl

@[simp] theorem faulted_outputs (error : Error) : (snapshot.applyFault error).digitalOutputs = snapshot.digitalOutputs := rfl

@[simp] theorem refused_outputs (message : String) : (snapshot.refused message).digitalOutputs = snapshot.digitalOutputs := rfl

@[simp] theorem answered_outputs : snapshot.answered.digitalOutputs = snapshot.digitalOutputs := rfl

@[simp] theorem online_outputs : snapshot.online.digitalOutputs = snapshot.digitalOutputs := rfl

end

theorem fault_offline (snapshot : ModbusIoSnapshot) (error : Error) : (snapshot.applyFault error).deviceState ≠ .online := by
  simp only [applyFault]
  split <;> nofun

end ModbusIoSnapshot

def PhysicalModbusIoService.launched (config : PhysicalModbusIoConfig) : PhysicalModbusIoService :=
  let parity := if config.parity = 78 then text "None" else [config.parity]
  {config := config
   snapshot :=
    {backend := text "PHYSICAL"
     evidence := .physical
     noPhysicalRs485 := false
     transport := text "Modbus RTU"
     serialPort := config.serialPort
     sku := config.sku
     baudRate := config.baudRate
     baudRatePlaceholder := config.baudRate
     parity := parity
     parityPlaceholder := parity
     slaveId := config.slaveId
     deviceState := .unknown
     scanState := .unknown
     digitalInputs := Vector.ofFn fun i => {channel := UInt8.ofNat i.val}
     digitalOutputs := Vector.ofFn fun i => {channel := UInt8.ofNat i.val}}}

namespace PhysicalModbusIoService

def unlessException (exception : Reply → Bool) (code : Reply → UInt8) (decoded : Result Reply) : Result Reply :=
  match decoded with
  | .error error => .error error
  | .ok reply => if exception reply then .error ⟨.rejected,exceptionMessage (code reply)⟩ else .ok reply

def readReply (rx : List UInt8) (slaveId function : UInt8) : Result ReadBits :=
  unlessException ReadBits.exception ReadBits.exceptionCode (decodeReadBits rx slaveId function)

def writeReply (rx : List UInt8) (slaveId : UInt8) (address : UInt16) (on : Bool) : Result WriteCoil :=
  unlessException WriteCoil.exception WriteCoil.exceptionCode (decodeWriteSingleCoil rx slaveId address on)

def bitAt (bits : UInt8) (channel : Nat) : Bool := bits &&& (1 <<< UInt8.ofNat channel) != 0

variable (service : PhysicalModbusIoService) (transact : RtuTransact)

def readRequest (config : PhysicalModbusIoConfig) (function : UInt8) : List UInt8 :=
  encodeRead config.slaveId function registerStart bitQuantity

def asked (snapshot : ModbusIoSnapshot) (function : UInt8) : ModbusIoSnapshot :=
  let tx := readRequest service.config function
  (snapshot.beginTransaction service.config.slaveId function registerStart bitQuantity tx).timed (transact tx)

@[simp] theorem asked_outputs (snapshot : ModbusIoSnapshot) (function : UInt8) :
    (service.asked transact snapshot function).digitalOutputs = snapshot.digitalOutputs := rfl

def readDiscreteInputs (scanning : Bool) : PhysicalModbusIoService × Result ModbusIoSnapshot :=
  let start := if scanning then {service.snapshot with scanState := .scanning} else service.snapshot
  let asked := service.asked transact start fnReadDiscreteInputs
  match (transact (readRequest service.config fnReadDiscreteInputs)).rx with
  | .error error => ({service with snapshot := asked.applyFault error},.error error)
  | .ok rx =>
    match readReply rx service.config.slaveId fnReadDiscreteInputs with
    | .error error => ({service with snapshot := (asked.received rx).refused error.message},.error error)
    | .ok bits =>
      let heard := asked.received rx
      let inputs := heard.digitalInputs.mapIdx fun i input => {input with active := bitAt bits.bitByte i}
      let snapshot := {heard with digitalInputs := inputs}.online.answered
      ({service with snapshot := snapshot},.ok snapshot)

def refreshCoils : PhysicalModbusIoService × Result Unit :=
  let asked := service.asked transact service.snapshot fnReadCoils
  match (transact (readRequest service.config fnReadCoils)).rx with
  | .error error => ({service with snapshot := asked},.error error)
  | .ok rx =>
    let heard := asked.received rx
    match readReply rx service.config.slaveId fnReadCoils with
    | .error error => ({service with snapshot := heard},.error error)
    | .ok bits =>
      let outputs := heard.digitalOutputs.mapIdx fun i output =>
        {output with confirmed := bitAt bits.bitByte i,requested := bitAt bits.bitByte i,lastStatus := .confirmed}
      ({service with snapshot := {heard with digitalOutputs := outputs}.answered},.ok ())

def probe : PhysicalModbusIoService × Result ModbusIoSnapshot :=
  match service.readDiscreteInputs transact true with
  | (service,.error error) => (service,.error error)
  | (service,.ok _) =>
    let (service,coils) := service.refreshCoils transact
    -- A failed FC01 leaves the module online.
    let snapshot := match coils with
      | .error error =>
        let message := text "coil refresh: " ++ text error.message
        {service.snapshot with
          lastError := message
          lastTransaction := {service.snapshot.lastTransaction with result := message}}
      | .ok () => service.snapshot
    ({service with snapshot := snapshot.online},.ok snapshot.online)

def readInputs : PhysicalModbusIoService × Result ModbusIoSnapshot := service.readDiscreteInputs transact false

def badChannel : Error := ⟨.invalidArgument,"DO channel must be in range 0..3"⟩

def writeOutput (channel : Nat) (active : Bool) : PhysicalModbusIoService × Result ModbusIoSnapshot :=
  if modbusIoChannelCount ≤ channel then
    let snapshot := {service.snapshot with lastCommandStatus := .invalidChannel,lastError := text badChannel.message}
    ({service with snapshot := snapshot},.error badChannel)
  else
    let requested := service.snapshot.output channel fun output => {output with requested := active,lastStatus := .none}
    let address := UInt16.ofNat channel
    let tx := encodeWriteSingleCoil service.config.slaveId address active
    let asked := (requested.beginTransaction service.config.slaveId fnWriteSingleCoil address 1 tx).timed (transact tx)
    match (transact tx).rx with
    | .error error =>
      let faulted := asked.applyFault error
      let snapshot := faulted.output channel fun output => {output with lastStatus := faulted.lastCommandStatus}
      ({service with snapshot := snapshot},.error error)
    | .ok rx =>
      let heard := asked.received rx
      match writeReply rx service.config.slaveId address active with
      | .error error =>
        let snapshot := (heard.refused error.message).output channel fun output => {output with lastStatus := .exception}
        ({service with snapshot := snapshot},.error error)
      | .ok _ =>
        let written := heard.output channel fun output => {output with confirmed := active,lastStatus := .confirmed}
        ({service with snapshot := written.online.answered},.ok written.online.answered)

def writeOff : List Nat → PhysicalModbusIoService → Result ModbusIoSnapshot → PhysicalModbusIoService × Result ModbusIoSnapshot
  | [],service,last => (service,last)
  | channel :: rest,service,_ =>
    match service.writeOutput transact channel false with
    | (service,.error error) => (service,.error error)
    | (service,.ok snapshot) => writeOff rest service (.ok snapshot)

def writeAllOutputsOff : PhysicalModbusIoService × Result ModbusIoSnapshot :=
  writeOff transact (List.range modbusIoChannelCount) service (.ok service.snapshot)

-- The device answered the request of an operation with a reply that decodes and
-- is no exception.
def InputsAnswered (config : PhysicalModbusIoConfig) : Prop :=
  ∃ rx bits, (transact (readRequest config fnReadDiscreteInputs)).rx = .ok rx ∧
    decodeReadBits rx config.slaveId fnReadDiscreteInputs = .ok bits ∧ bits.exception = false

def CoilAnswered (config : PhysicalModbusIoConfig) (address : UInt16) (on : Bool) : Prop :=
  ∃ rx coil, (transact (encodeWriteSingleCoil config.slaveId address on)).rx = .ok rx ∧
    decodeWriteSingleCoil rx config.slaveId address on = .ok coil ∧ coil.exception = false

theorem unlessException_exact {exception : Reply → Bool} {code : Reply → UInt8} {decoded : Result Reply} :
    unlessException exception code decoded = .ok reply ↔ decoded = .ok reply ∧ exception reply = false := by
  cases decoded with
  | error error => simp [unlessException]
  | ok found =>
      simp only [unlessException]
      cases raised : exception found <;> simp <;> grind

theorem readReply_exact : readReply rx slaveId function = .ok bits ↔
    decodeReadBits rx slaveId function = .ok bits ∧ bits.exception = false := unlessException_exact

theorem writeReply_exact : writeReply rx slaveId address on = .ok coil ↔
    decodeWriteSingleCoil rx slaveId address on = .ok coil ∧ coil.exception = false := unlessException_exact

-- What an operation that makes one RTU transaction comes to: it succeeds and the
-- module is online exactly if the device answered.
inductive Concluded (service : PhysicalModbusIoService) (answered : Prop) :
    PhysicalModbusIoService × Result ModbusIoSnapshot → Prop where
  | failed {snapshot : ModbusIoSnapshot} (unanswered : ¬ answered) (offline : snapshot.deviceState ≠ .online) (error : Error) :
      Concluded service answered ({service with snapshot := snapshot},.error error)
  | succeeded {snapshot : ModbusIoSnapshot} (valid : answered) (online : snapshot.deviceState = .online) :
      Concluded service answered ({service with snapshot := snapshot},.ok snapshot)

theorem inputs_exact (scanning : Bool) : Concluded service (InputsAnswered transact service.config)
    (service.readDiscreteInputs transact scanning) := by
  cases heard : (transact (readRequest service.config fnReadDiscreteInputs)).rx with
  | error error =>
      simp only [readDiscreteInputs,heard]
      refine .failed ?_ (ModbusIoSnapshot.fault_offline _ _) error
      rintro ⟨_,_,answered,_⟩
      cases heard.symm.trans answered
  | ok rx =>
      cases judged : readReply rx service.config.slaveId fnReadDiscreteInputs with
      | error error =>
          simp only [readDiscreteInputs,heard,judged]
          refine .failed ?_ (by simp) error
          rintro ⟨_,_,answered,decoded⟩
          cases heard.symm.trans answered
          cases judged.symm.trans (readReply_exact.mpr decoded)
      | ok bits =>
          simp only [readDiscreteInputs,heard,judged]
          exact .succeeded ⟨rx,bits,heard,readReply_exact.mp judged⟩ rfl

theorem write_exact (active : Bool) (listed : channel < modbusIoChannelCount) :
    Concluded service (CoilAnswered transact service.config (UInt16.ofNat channel) active)
      (service.writeOutput transact channel active) := by
  have inside := Nat.not_le.mpr listed
  cases heard : (transact (encodeWriteSingleCoil service.config.slaveId (UInt16.ofNat channel) active)).rx with
  | error error =>
      simp only [writeOutput,inside,if_false,heard]
      refine .failed ?_ (by simpa using ModbusIoSnapshot.fault_offline _ error) error
      rintro ⟨_,_,answered,_⟩
      cases heard.symm.trans answered
  | ok rx =>
      cases judged : writeReply rx service.config.slaveId (UInt16.ofNat channel) active with
      | error error =>
          simp only [writeOutput,inside,if_false,heard,judged]
          refine .failed ?_ (by simp) error
          rintro ⟨_,_,answered,decoded⟩
          cases heard.symm.trans answered
          cases judged.symm.trans (writeReply_exact.mpr decoded)
      | ok coil =>
          simp only [writeOutput,inside,if_false,heard,judged]
          exact .succeeded ⟨rx,coil,heard,writeReply_exact.mp judged⟩ rfl

theorem Concluded.online_iff (concluded : Concluded service answered outcome) :
    outcome.1.snapshot.deviceState = .online ↔ answered := by
  cases concluded with
  | failed unanswered offline _ => exact ⟨fun online => absurd online offline,fun valid => absurd valid unanswered⟩
  | succeeded valid online => exact ⟨fun _ => valid,fun _ => online⟩

-- A probe is judged by its FC02 alone.
theorem probe_exact : (service.probe transact).1.snapshot.deviceState = .online ↔
    InputsAnswered transact service.config := by
  have read := inputs_exact service transact true
  unfold probe
  generalize service.readDiscreteInputs transact true = outcome at read ⊢
  cases read with
  | failed unanswered offline _ => exact ⟨fun online => absurd online offline,fun valid => absurd valid unanswered⟩
  | succeeded valid online => exact ⟨fun _ => valid,fun _ => rfl⟩

end PhysicalModbusIoService

end RobotControlRuntime
