import RobotControlRuntime.ModbusAgentAck
import RobotControlRuntime.OutputEvidence

namespace RobotControlRuntime
open ModbusRtu

-- The serial port itself is outside the model.
def PhysicalModbusIoService.disconnect (service : PhysicalModbusIoService) : PhysicalModbusIoService :=
  {service with snapshot := {service.snapshot with deviceState := .unknown,scanState := .unknown,lastError := []}}

inductive IoOperation where
  | call (next : IoCall)
  | disconnect

def PhysicalModbusIoService.operate (service : PhysicalModbusIoService) : IoOperation → PhysicalModbusIoService
  | .call next => (service.call next).1
  | .disconnect => service.disconnect

def PhysicalModbusIoService.operated (service : PhysicalModbusIoService) (history : List IoOperation) : PhysicalModbusIoService :=
  history.foldl operate service

def IoCall.transact : IoCall → RtuTransact
  | .probe transact | .readInputs transact | .writeOutput transact _ _ | .writeAllOutputsOff transact => transact

def RtuTransact.Bounded (transact : RtuTransact) : Prop :=
  ∀ request,(∀ rx,(transact request).rx = .ok rx → rx.length ≤ 64) ∧
    ∀ error,(transact request).rx = .error error → (text error.message).length ≤ 64

def IoOperation.Bounded : IoOperation → Prop
  | .call next => next.transact.Bounded
  | .disconnect => True

structure PhysicalModbusIoConfig.Short (config : PhysicalModbusIoConfig) : Prop where
  serialPort : config.serialPort.length ≤ 16
  sku : config.sku.length ≤ 16

-- A refused reply is told twice and dumped in hex: with the fixed fields, the six
-- length bytes and the 16 digits of the request, 204 bytes are left for that.
def RefusalFits (config : PhysicalModbusIoConfig) (label : List UInt8) (heard : Result (List UInt8))
    (judge : List UInt8 → Result Reply) : Prop :=
  ∀ rx error,heard = .ok rx → judge rx = .error error →
    config.serialPort.length + config.sku.length + 2 * rx.length + 2 * (label ++ text error.message).length ≤ 204

theorem refusal_fits_silent (heard : turn = .error error) : RefusalFits config label turn judge := by
  intro rx refusal received
  cases heard.symm.trans received

theorem refusal_fits_accepted (heard : turn = .ok rx) (judged : judge rx = .ok reply) : RefusalFits config label turn judge := by
  intro other refusal received refused
  cases heard.symm.trans received
  cases judged.symm.trans refused

namespace PhysicalModbusIoService

def InputsFit (config : PhysicalModbusIoConfig) (transact : RtuTransact) : Prop :=
  RefusalFits config [] (transact (readRequest config fnReadDiscreteInputs)).rx
    fun rx => readReply rx config.slaveId fnReadDiscreteInputs

def CoilsFit (config : PhysicalModbusIoConfig) (transact : RtuTransact) : Prop :=
  RefusalFits config (text "coil refresh: ") (transact (readRequest config fnReadCoils)).rx
    fun rx => readReply rx config.slaveId fnReadCoils

def WriteFits (config : PhysicalModbusIoConfig) (transact : RtuTransact) (channel : Nat) (active : Bool) : Prop :=
  RefusalFits config [] (transact (encodeWriteSingleCoil config.slaveId (UInt16.ofNat channel) active)).rx
    fun rx => writeReply rx config.slaveId (UInt16.ofNat channel) active

def OffFits (config : PhysicalModbusIoConfig) (transact : RtuTransact) : List Nat → Prop
  | [] => True
  | channel :: rest =>
    WriteFits config transact channel false ∧
      (CoilAnswered transact config (UInt16.ofNat channel) false → OffFits config transact rest)

def AckFits (service : PhysicalModbusIoService) : IoOperation → Prop
  | .call (.probe transact) =>
    InputsFit service.config transact ∧ (InputsAnswered transact service.config → CoilsFit service.config transact)
  | .call (.readInputs transact) => InputsFit service.config transact
  | .call (.writeOutput transact channel active) =>
    if channel < modbusIoChannelCount then WriteFits service.config transact channel active
    else
      -- The text of an invalid channel stands beside what the last transaction left.
      let last := service.snapshot.lastTransaction
      service.config.serialPort.length + service.config.sku.length + last.txHex.length + last.rxHex.length +
        last.result.length ≤ 188
  | .call (.writeAllOutputsOff transact) => OffFits service.config transact (List.range modbusIoChannelCount)
  | .disconnect => True

end PhysicalModbusIoService

theorem hex_length (bytes : List UInt8) : (bytesToHex bytes).length = 2 * bytes.length := by
  induction bytes with
  | nil => rfl
  | cons byte bytes ih =>
      have pair : bytesToHex (byte :: bytes) = hexDigit (byte / 16) :: hexDigit (byte % 16) :: bytesToHex bytes := rfl
      rw [pair,List.length_cons,List.length_cons,List.length_cons,ih]
      omega

section Texts

theorem exception_length (code : UInt8) : (text (exceptionMessage code)).length ≤ 20 := by
  have all : ∀ n < 256,(text ("Modbus exception " ++ toString n)).length ≤ 20 := by decide +kernel
  exact all code.toNat code.toNat_lt

theorem code_length (code : Errc) : (text code.toText).length ≤ 16 := by
  cases code <;> decide +kernel

-- The longer texts belong to replies of less than 5 bytes.
def RefusalBounded (rx : List UInt8) (error : Error) : Prop :=
  (text error.message).length ≤ 36 ∧ 2 * rx.length + (text error.message).length ≤ 158

theorem refusal_bounded (bounded : rx.length ≤ 64) (brief : (text error.message).length ≤ 30) : RefusalBounded rx error :=
  ⟨by omega,by omega⟩

theorem check_bounded (bounded : rx.length ≤ 64) (short : String) (brief : (text short).length ≤ 36)
    (refused : checkReply rx slaveId short = some error) : RefusalBounded rx error := by
  unfold checkReply at refused
  split at refused
  · cases refused
    exact ⟨brief,by dsimp only; omega⟩
  split at refused
  · cases refused
    exact refusal_bounded bounded (by decide +kernel)
  split at refused
  · cases refused
    exact refusal_bounded bounded (by decide +kernel)
  · cases refused

theorem readBits_bounded (bounded : rx.length ≤ 64) (refused : decodeReadBits rx slaveId function = .error error) :
    RefusalBounded rx error := by
  unfold decodeReadBits at refused
  split at refused
  · rename_i checked
    cases refused
    exact check_bounded bounded _ (by decide +kernel) checked
  dsimp only at refused
  repeat' split at refused
  all_goals cases refused
  all_goals exact refusal_bounded bounded (by decide +kernel)

theorem writeCoil_bounded (bounded : rx.length ≤ 64) (refused : decodeWriteSingleCoil rx slaveId address on = .error error) :
    RefusalBounded rx error := by
  unfold decodeWriteSingleCoil at refused
  split at refused
  · rename_i checked
    cases refused
    exact check_bounded bounded _ (by decide +kernel) checked
  dsimp only at refused
  repeat' split at refused
  all_goals cases refused
  all_goals exact refusal_bounded bounded (by decide +kernel)

theorem unlessException_bounded {decoded : Result Reply} (bounded : rx.length ≤ 64)
    (undecoded : ∀ error,decoded = .error error → RefusalBounded rx error)
    (refused : PhysicalModbusIoService.unlessException exception code decoded = .error error) : RefusalBounded rx error := by
  cases decoded with
  | error other =>
      cases refused
      exact undecoded _ rfl
  | ok reply =>
      simp only [PhysicalModbusIoService.unlessException] at refused
      split at refused
      · cases refused
        have brief := exception_length (code reply)
        exact refusal_bounded bounded (by dsimp only; omega)
      · cases refused

theorem readReply_bounded (bounded : rx.length ≤ 64)
    (refused : PhysicalModbusIoService.readReply rx slaveId function = .error error) : RefusalBounded rx error :=
  unlessException_bounded bounded (fun _ => readBits_bounded bounded) refused

theorem writeReply_bounded (bounded : rx.length ≤ 64)
    (refused : PhysicalModbusIoService.writeReply rx slaveId address on = .error error) : RefusalBounded rx error :=
  unlessException_bounded bounded (fun _ => writeCoil_bounded bounded) refused

end Texts

structure Noted (config : PhysicalModbusIoConfig) (snapshot : ModbusIoSnapshot) (error tx rx result : Nat) : Prop where
  serialPort : snapshot.serialPort = config.serialPort
  sku : snapshot.sku = config.sku
  lastError : snapshot.lastError.length = error
  txHex : snapshot.lastTransaction.txHex.length = tx
  rxHex : snapshot.lastTransaction.rxHex.length = rx
  result : snapshot.lastTransaction.result.length = result

namespace Noted
variable {snapshot : ModbusIoSnapshot} {error tx rx result : Nat}

theorem length (noted : Noted config snapshot error tx rx result) (short : config.Short)
    (error_le : error ≤ 255) (tx_le : tx ≤ 255) (rx_le : rx ≤ 255) (result_le : result ≤ 255) :
    (encodeProbeAckPayload snapshot).length =
      36 + config.serialPort.length + config.sku.length + error + tx + rx + result := by
  have serial := short.serialPort
  have sku := short.sku
  rw [ack_split,List.length_append,ack_fixed_length]
  simp only [ModbusIoSnapshot.ackStrings,List.flatMap_cons,List.flatMap_nil,List.length_append,List.length_nil,
    lpString_length,noted.serialPort,noted.sku,noted.lastError,noted.txHex,noted.rxHex,noted.result,probeAckFixed,
    modbusIoChannelCount]
  omega

theorem begun (serialPort : snapshot.serialPort = config.serialPort) (sku : snapshot.sku = config.sku)
    (slaveId function : UInt8) (address quantity : UInt16) (request : List UInt8) (eight : request.length = 8) (turn : RtuTurn) :
    Noted config ((snapshot.beginTransaction slaveId function address quantity request).timed turn) 0 16 0 0 := by
  have digits := hex_length request
  rw [eight] at digits
  exact ⟨serialPort,sku,rfl,digits,rfl,rfl⟩

theorem received (noted : Noted config snapshot error tx rx result) (bytes : List UInt8) :
    Noted config (snapshot.received bytes) error tx (2 * bytes.length) result :=
  {noted with rxHex := hex_length bytes}

theorem faulted (noted : Noted config snapshot error tx rx result) (fault : Error) :
    Noted config (snapshot.applyFault fault) (text fault.message).length tx rx (text fault.code.toText).length :=
  {noted with lastError := rfl,result := rfl}

theorem refused (noted : Noted config snapshot error tx rx result) (message : String) :
    Noted config (snapshot.refused message) (text message).length tx rx (text message).length :=
  {noted with lastError := rfl,result := rfl}

theorem answered (noted : Noted config snapshot error tx rx result) : Noted config snapshot.answered error tx rx 2 :=
  {noted with result := rfl}

theorem output (noted : Noted config snapshot error tx rx result) (channel : Nat)
    (change : DigitalOutputState → DigitalOutputState) : Noted config (snapshot.output channel change) error tx rx result :=
  ⟨noted.serialPort,noted.sku,noted.lastError,noted.txHex,noted.rxHex,noted.result⟩

theorem inputs (noted : Noted config snapshot error tx rx result) (inputs : Vector DigitalInputState 4) :
    Noted config {snapshot with digitalInputs := inputs} error tx rx result :=
  ⟨noted.serialPort,noted.sku,noted.lastError,noted.txHex,noted.rxHex,noted.result⟩

theorem outputs (noted : Noted config snapshot error tx rx result) (outputs : Vector DigitalOutputState 4) :
    Noted config {snapshot with digitalOutputs := outputs} error tx rx result :=
  ⟨noted.serialPort,noted.sku,noted.lastError,noted.txHex,noted.rxHex,noted.result⟩

theorem told (noted : Noted config snapshot error tx rx result) (message : List UInt8) :
    Noted config {snapshot with lastError := message,lastTransaction := {snapshot.lastTransaction with result := message}}
      message.length tx rx message.length :=
  ⟨noted.serialPort,noted.sku,rfl,noted.txHex,noted.rxHex,rfl⟩

theorem online (noted : Noted config snapshot error tx rx result) : Noted config snapshot.online error tx rx result :=
  ⟨noted.serialPort,noted.sku,noted.lastError,noted.txHex,noted.rxHex,noted.result⟩

end Noted

-- What every operation leaves: the texts stay short enough that a new one over
-- the last transaction is what decides.
structure Kept (config : PhysicalModbusIoConfig) (service : PhysicalModbusIoService) : Prop where
  configured : service.config = config
  noted : ∃ error tx rx result,Noted config service.snapshot error tx rx result ∧ error ≤ 78 ∧ tx ≤ 16 ∧ rx ≤ 128 ∧
    result ≤ 78 ∧ rx + result ≤ 172

def Acknowledged (service : PhysicalModbusIoService) : Prop :=
  (encodeProbeAckPayload service.snapshot).length ≤ FrameFormat.maxPayload

structure Ended (config : PhysicalModbusIoConfig) (service : PhysicalModbusIoService) (fits : Prop) : Prop where
  kept : Kept config service
  exactly : Acknowledged service ↔ fits

namespace PhysicalModbusIoService

section Transaction
variable {config : PhysicalModbusIoConfig} {next : PhysicalModbusIoService} {judge : List UInt8 → Result Reply}

theorem ended {error tx rx result : Nat} (short : config.Short) (configured : next.config = config)
    (noted : Noted config next.snapshot error tx rx result) (error_le : error ≤ 78) (tx_le : tx ≤ 16) (rx_le : rx ≤ 128)
    (result_le : result ≤ 78) (both : rx + result ≤ 172)
    (exactly : fits ↔ config.serialPort.length + config.sku.length + error + tx + rx + result ≤ 220) :
    Ended config next fits := by
  refine ⟨⟨configured,error,tx,rx,result,noted,error_le,tx_le,rx_le,result_le,both⟩,?_⟩
  rw [Acknowledged,noted.length short (by omega) (by omega) (by omega) (by omega),exactly,FrameFormat.maxPayload]
  omega

theorem silent_ended {code : Nat} (short : config.Short) (configured : next.config = config)
    (noted : Noted config next.snapshot told 16 0 code) (told_le : told ≤ 78) (code_le : code ≤ 78)
    (heard : turn = .error error) : Ended config next (RefusalFits config label turn judge) := by
  refine ended short configured noted told_le (by omega) (by omega) code_le (by omega) ?_
  have serial := short.serialPort
  have sku := short.sku
  exact iff_of_true (refusal_fits_silent heard) (by omega)

theorem accepted_ended (short : config.Short) (configured : next.config = config)
    (noted : Noted config next.snapshot 0 16 (2 * rx.length) 2) (bounded : rx.length ≤ 64)
    (heard : turn = .ok rx) (judged : judge rx = .ok reply) : Ended config next (RefusalFits config label turn judge) := by
  refine ended short configured noted (by omega) (by omega) (by omega) (by omega) (by omega) ?_
  have serial := short.serialPort
  have sku := short.sku
  exact iff_of_true (refusal_fits_accepted heard judged) (by omega)

theorem refused_ended {error : Error} (short : config.Short) (configured : next.config = config)
    (noted : Noted config next.snapshot told 16 (2 * rx.length) told) (bounded : rx.length ≤ 64)
    (refusal : RefusalBounded rx error) (told_is : told = (label ++ text error.message).length) (label_le : label.length ≤ 14)
    (heard : turn = .ok rx) (judged : judge rx = .error error) : Ended config next (RefusalFits config label turn judge) := by
  obtain ⟨brief,both⟩ := refusal
  have sum := told_is
  rw [List.length_append] at sum
  refine ended short configured noted (by omega) (by omega) (by omega) (by omega) (by omega) ?_
  constructor
  · intro fits
    have said := fits rx error heard judged
    omega
  · intro fits other refusal received refused
    cases heard.symm.trans received
    cases judged.symm.trans refused
    omega

end Transaction

variable {config : PhysicalModbusIoConfig} {service : PhysicalModbusIoService} {transact : RtuTransact}

theorem request_length (config : PhysicalModbusIoConfig) (function : UInt8) : (readRequest config function).length = 8 := by
  rw [readRequest,encodeRead,sealed_length]
  rfl

theorem inputs_ended (short : config.Short) (kept : Kept config service) (bounded : transact.Bounded) (scanning : Bool) :
    Ended config (service.readDiscreteInputs transact scanning).1 (InputsFit config transact) := by
  obtain ⟨rfl,_,_,_,_,before,_⟩ := kept
  have asked : Noted service.config (service.asked transact
      (if scanning then {service.snapshot with scanState := .scanning} else service.snapshot) fnReadDiscreteInputs) 0 16 0 0 := by
    refine Noted.begun ?_ ?_ _ _ _ _ _ (request_length _ _) _
    · cases scanning <;> exact before.serialPort
    · cases scanning <;> exact before.sku
  obtain ⟨replies,faults⟩ := bounded (readRequest service.config fnReadDiscreteInputs)
  cases heard : (transact (readRequest service.config fnReadDiscreteInputs)).rx with
  | error error =>
      simp only [readDiscreteInputs,heard]
      have told := faults error heard
      have code := code_length error.code
      exact silent_ended short rfl (asked.faulted error) (by omega) (by omega) heard
  | ok rx =>
      have long := replies rx heard
      cases judged : readReply rx service.config.slaveId fnReadDiscreteInputs with
      | error error =>
          simp only [readDiscreteInputs,heard,judged]
          exact refused_ended short rfl ((asked.received rx).refused error.message) long (readReply_bounded long judged)
            rfl (by decide) heard judged
      | ok bits =>
          simp only [readDiscreteInputs,heard,judged]
          exact accepted_ended short rfl ((asked.received rx).inputs _).online.answered long heard judged

theorem inputs_fit (answered : InputsAnswered transact config) : InputsFit config transact := by
  obtain ⟨rx,bits,heard,decoded⟩ := answered
  exact refusal_fits_accepted heard (readReply_exact.mpr decoded)

theorem coils_ended (short : config.Short) (bounded : transact.Bounded)
    (read : service.readDiscreteInputs transact true = (after,.ok inputs)) (kept : Kept config after) :
    Ended config (service.probe transact).1 (CoilsFit config transact) := by
  obtain ⟨rfl,_,_,_,_,before,_⟩ := kept
  have asked : Noted after.config (after.asked transact after.snapshot fnReadCoils) 0 16 0 0 :=
    Noted.begun before.serialPort before.sku _ _ _ _ _ (request_length _ _) _
  have label : (text "coil refresh: ").length = 14 := by decide +kernel
  obtain ⟨replies,faults⟩ := bounded (readRequest after.config fnReadCoils)
  cases heard : (transact (readRequest after.config fnReadCoils)).rx with
  | error error =>
      simp only [probe,read,refreshCoils,heard]
      have told := faults error heard
      have told_le : (text "coil refresh: " ++ text error.message).length ≤ 78 := by
        rw [List.length_append]
        omega
      exact silent_ended short rfl (asked.told _).online told_le told_le heard
  | ok rx =>
      have long := replies rx heard
      cases judged : readReply rx after.config.slaveId fnReadCoils with
      | error error =>
          simp only [probe,read,refreshCoils,heard,judged]
          exact refused_ended short rfl ((asked.received rx).told _).online long (readReply_bounded long judged) rfl (by omega)
            heard judged
      | ok bits =>
          simp only [probe,read,refreshCoils,heard,judged]
          exact accepted_ended short rfl ((asked.received rx).outputs _).answered.online long heard judged

theorem probe_ended (short : config.Short) (kept : Kept config service) (bounded : transact.Bounded) :
    Ended config (service.probe transact).1
      (InputsFit config transact ∧ (InputsAnswered transact config → CoilsFit config transact)) := by
  have read := inputs_ended short kept bounded true
  have concluded := service.inputs_exact transact true
  cases result : service.readDiscreteInputs transact true with
  | mk after outcome =>
      rw [result] at read concluded
      rw [kept.configured] at concluded
      cases concluded with
      | failed unanswered offline error =>
          simp only [probe,result]
          exact ⟨read.kept,read.exactly.trans (and_iff_left fun answered => absurd answered unanswered).symm⟩
      | succeeded answered online =>
          have refreshed := coils_ended short bounded result read.kept
          refine ⟨refreshed.kept,refreshed.exactly.trans ?_⟩
          constructor
          · intro fits
            exact ⟨inputs_fit answered,fun _ => fits⟩
          · intro both
            exact both.2 answered

theorem write_ended (short : config.Short) (kept : Kept config service) (bounded : transact.Bounded) (active : Bool)
    (listed : channel < modbusIoChannelCount) :
    Ended config (service.writeOutput transact channel active).1 (WriteFits config transact channel active) := by
  obtain ⟨rfl,_,_,_,_,before,_⟩ := kept
  have inside := Nat.not_le.mpr listed
  have requested := before.output channel fun output => {output with requested := active,lastStatus := .none}
  have asked := Noted.begun requested.serialPort requested.sku service.config.slaveId fnWriteSingleCoil (UInt16.ofNat channel) 1
    (encodeWriteSingleCoil service.config.slaveId (UInt16.ofNat channel) active) (sealed_length _)
    (transact (encodeWriteSingleCoil service.config.slaveId (UInt16.ofNat channel) active))
  obtain ⟨replies,faults⟩ := bounded (encodeWriteSingleCoil service.config.slaveId (UInt16.ofNat channel) active)
  cases heard : (transact (encodeWriteSingleCoil service.config.slaveId (UInt16.ofNat channel) active)).rx with
  | error error =>
      simp only [writeOutput,inside,if_false,heard]
      have told := faults error heard
      have code := code_length error.code
      exact silent_ended short rfl ((asked.faulted error).output channel _) (by omega) (by omega) heard
  | ok rx =>
      have long := replies rx heard
      cases judged : writeReply rx service.config.slaveId (UInt16.ofNat channel) active with
      | error error =>
          simp only [writeOutput,inside,if_false,heard,judged]
          exact refused_ended short rfl (((asked.received rx).refused error.message).output channel _) long
            (writeReply_bounded long judged) rfl (by decide) heard judged
      | ok coil =>
          simp only [writeOutput,inside,if_false,heard,judged]
          exact accepted_ended short rfl ((asked.received rx).output channel _).online.answered long heard judged

theorem write_fits (answered : CoilAnswered transact config (UInt16.ofNat channel) active) :
    WriteFits config transact channel active := by
  obtain ⟨rx,coil,heard,decoded⟩ := answered
  exact refusal_fits_accepted heard (writeReply_exact.mpr decoded)

theorem outside_ended (short : config.Short) (kept : Kept config service) (active : Bool)
    (unlisted : modbusIoChannelCount ≤ channel) :
    Ended config (service.writeOutput transact channel active).1 (service.AckFits (.call (.writeOutput transact channel active))) := by
  obtain ⟨rfl,error,tx,rx,result,before,_,tx_le,rx_le,result_le,both⟩ := kept
  have told : (text badChannel.message).length = 32 := by decide +kernel
  simp only [writeOutput,unlisted,if_true,AckFits,if_neg (Nat.not_lt.mpr unlisted)]
  refine ended short rfl ⟨before.serialPort,before.sku,told,before.txHex,before.rxHex,before.result⟩ (by omega) tx_le rx_le
    result_le both ?_
  rw [before.txHex,before.rxHex,before.result]
  omega

theorem off_ended (short : config.Short) (bounded : transact.Bounded) (channels : List Nat)
    (listed : ∀ channel ∈ channels,channel < modbusIoChannelCount) (kept : Kept config service)
    (acknowledged : channels = [] → Acknowledged service) (last : Result ModbusIoSnapshot) :
    Ended config (writeOff transact channels service last).1 (OffFits config transact channels) := by
  induction channels generalizing service last with
  | nil => exact ⟨kept,iff_true_intro (acknowledged rfl)⟩
  | cons channel rest ih =>
      have inside := listed channel List.mem_cons_self
      have written := write_ended short kept bounded false inside
      have concluded := service.write_exact transact false inside
      cases result : service.writeOutput transact channel false with
      | mk after outcome =>
          rw [result] at written concluded
          rw [kept.configured] at concluded
          cases concluded with
          | failed unanswered offline error =>
              simp only [writeOff,result,OffFits]
              exact ⟨written.kept,written.exactly.trans (and_iff_left fun answered => absurd answered unanswered).symm⟩
          | @succeeded snapshot answered online =>
              simp only [writeOff,result,OffFits]
              have others : ∀ channel ∈ rest,channel < modbusIoChannelCount := fun channel present =>
                listed channel (List.mem_cons_of_mem _ present)
              have off := ih others written.kept (fun _ => written.exactly.mpr (write_fits answered)) (.ok snapshot)
              refine ⟨off.kept,off.exactly.trans ?_⟩
              constructor
              · intro fits
                exact ⟨write_fits answered,fun _ => fits⟩
              · intro both
                exact both.2 answered

theorem disconnect_ended (short : config.Short) (kept : Kept config service) : Ended config service.disconnect True := by
  obtain ⟨rfl,error,tx,rx,result,before,_,tx_le,rx_le,result_le,both⟩ := kept
  have serial := short.serialPort
  have sku := short.sku
  have noted : Noted service.config service.disconnect.snapshot 0 tx rx result :=
    ⟨before.serialPort,before.sku,rfl,before.txHex,before.rxHex,before.result⟩
  refine ended short rfl noted (by omega) tx_le rx_le result_le both ?_
  exact iff_of_true trivial (by omega)

theorem operate_ended (short : config.Short) (kept : Kept config service) (operation : IoOperation) (bounded : operation.Bounded) :
    Ended config (service.operate operation) (service.AckFits operation) := by
  have same := kept.configured
  cases operation with
  | disconnect => exact disconnect_ended short kept
  | call next =>
      cases next with
      | probe transact =>
          have ended := probe_ended short kept bounded
          rw [← same] at ended ⊢
          exact ended
      | readInputs transact =>
          have ended := inputs_ended short kept bounded false
          rw [← same] at ended ⊢
          exact ended
      | writeOutput transact channel active =>
          by_cases listed : channel < modbusIoChannelCount
          · have ended := write_ended short kept bounded active listed
            rw [AckFits,if_pos listed,same]
            exact ended
          · exact outside_ended short kept active (Nat.not_lt.mp listed)
      | writeAllOutputsOff transact =>
          have channels : ∀ channel ∈ List.range modbusIoChannelCount,channel < modbusIoChannelCount := fun _ => List.mem_range.mp
          have ended := off_ended short bounded _ channels kept (fun empty => by cases empty) (.ok service.snapshot)
          rw [AckFits,same]
          exact ended

theorem launched_kept (short : config.Short) : Kept config (launched config) ∧ Acknowledged (launched config) := by
  have noted : Noted config (launched config).snapshot 0 0 0 0 := ⟨rfl,rfl,rfl,rfl,rfl,rfl⟩
  have serial := short.serialPort
  have sku := short.sku
  have fresh : Ended config (launched config) True :=
    ended short rfl noted (by decide) (by decide) (by decide) (by decide) (by decide) (iff_of_true trivial (by omega))
  exact ⟨fresh.kept,fresh.exactly.mpr trivial⟩

theorem operated_last (service : PhysicalModbusIoService) (history : List IoOperation) (last : IoOperation) :
    service.operated (history ++ [last]) = (service.operated history).operate last := by
  simp [operated]

theorem operated_kept (short : config.Short) (history : List IoOperation) (bounded : ∀ operation ∈ history,operation.Bounded)
    (kept : Kept config service) : Kept config (service.operated history) := by
  induction history generalizing service with
  | nil => exact kept
  | cons operation rest ih =>
      have first := operate_ended short kept operation (bounded operation List.mem_cons_self)
      exact ih (fun later present => bounded later (List.mem_cons_of_mem _ present)) first.kept

def Answerable (service : PhysicalModbusIoService) : Prop :=
  (encodeProbeAckPayload service.snapshot).length ≤ FrameFormat.maxPayload ∧
    ∀ (type : ModbusAgentMessage) (sequence : UInt16),∃ wire,
      modbusAgentFormat.encode ⟨type,sequence,encodeProbeAckPayload service.snapshot⟩ = some wire ∧
        modbusAgentFormat.tryDecode wire = .ok (⟨type,sequence,encodeProbeAckPayload service.snapshot⟩,wire.length)

theorem answerable_exact (service : PhysicalModbusIoService) : service.Answerable ↔ Acknowledged service := by
  constructor
  · intro answerable
    exact answerable.1
  · intro fits
    refine ⟨fits,fun type sequence => ?_⟩
    obtain ⟨wire,encoded,_⟩ :=
      FrameFormat.encode_fits (⟨type,sequence,encodeProbeAckPayload service.snapshot⟩ : ModbusAgentFrame) fits
    exact ⟨wire,encoded,FrameFormat.decode_encoded encoded⟩

theorem answerable_iff (config : PhysicalModbusIoConfig) (short : config.Short) (history : List IoOperation)
    (bounded : ∀ operation ∈ history,operation.Bounded) :
    ((launched config).operated history).Answerable ↔
      ∀ earlier last,history = earlier ++ [last] → ((launched config).operated earlier).AckFits last := by
  obtain ⟨fresh,acknowledged⟩ := launched_kept short
  rw [answerable_exact]
  rcases List.eq_nil_or_concat history with rfl | ⟨earlier,last,rfl⟩
  · refine iff_of_true acknowledged ?_
    intro earlier last split
    cases earlier <;> cases split
  · have kept := operated_kept short earlier (fun operation present => bounded operation (by simp [present])) fresh
    have ended := operate_ended short kept last (bounded last (by simp))
    rw [List.concat_eq_append,operated_last,ended.exactly]
    constructor
    · intro fits others operation same
      obtain ⟨rfl,one⟩ := List.append_inj' same rfl
      cases one
      exact fits
    · intro all
      exact all earlier last rfl

def flipped (body : List UInt8) : List UInt8 :=
  body ++ [(modbusRtuCrc16 body &&& 0xFF).toUInt8 ^^^ 1,(modbusRtuCrc16 body >>> 8 &&& 0xFF).toUInt8]

theorem flipped_length (body : List UInt8) : (flipped body).length = body.length + 2 := by simp [flipped]

theorem flipped_refused (body : List UInt8) (long : 3 ≤ body.length) (function : UInt8) :
    readReply (flipped body) 1 function = .error ⟨.rejected,"RTU CRC mismatch"⟩ := by
  have changed (byte : UInt8) : byte ^^^ 1 ≠ byte := by
    intro same
    have gone : byte ^^^ (byte ^^^ 1) = byte ^^^ byte := by rw [same]
    rw [← UInt8.xor_assoc,UInt8.xor_self,UInt8.zero_xor] at gone
    exact absurd gone (by decide)
  have broken : flipped body ≠ sealed body := by
    intro same
    exact changed _ (List.cons.inj (List.append_cancel_left same)).1
  have checked : checkReply (flipped body) 1 "RTU reply shorter than 5 bytes" = some ⟨.rejected,"RTU CRC mismatch"⟩ :=
    crc_refused _ _ _ long broken
  rw [readReply,decodeReadBits,checked]
  rfl

def flippedCoils : List UInt8 := flipped (0x01 :: 0x01 :: 0x3B :: List.replicate 59 0)

theorem flippedCoils_length : flippedCoils.length = 64 := flipped_length _

def corruptedRefresh : RtuTransact := fun request =>
  if byteAt request 1 = fnReadDiscreteInputs then {rx := .ok (sealed [0x01,0x02,0x01,0x00])} else {rx := .ok flippedCoils}

def corruptedInputs : RtuTransact := fun _ => {rx := .ok (flipped [0x01,0x02,0x01,0x00])}

theorem corruptedRefresh_bounded : corruptedRefresh.Bounded := by
  intro request
  unfold corruptedRefresh
  split
  · exact ⟨fun rx heard => by cases heard; rw [sealed_length]; decide,fun error heard => by cases heard⟩
  · exact ⟨fun rx heard => by cases heard; rw [flippedCoils_length],fun error heard => by cases heard⟩

theorem corruptedInputs_bounded : corruptedInputs.Bounded := by
  intro request
  exact ⟨fun rx heard => by cases heard; rw [flipped_length]; decide,fun error heard => by cases heard⟩

theorem corruptedRefresh_inputs : InputsAnswered corruptedRefresh {} :=
  ⟨_,_,rfl,bits_decode 1 fnReadDiscreteInputs 0 (by decide),rfl⟩

theorem corruptedRefresh_coils : ¬ CoilsFit {} corruptedRefresh := by
  intro fits
  have said := fits flippedCoils _ rfl (flipped_refused _ (by simp) _)
  rw [flippedCoils_length] at said
  exact absurd said (by decide +kernel)

theorem corruptedInputs_fit : InputsFit {} corruptedInputs := by
  intro rx error heard judged
  cases heard
  cases (flipped_refused [0x01,0x02,0x01,0x00] (by decide) fnReadDiscreteInputs).symm.trans judged
  rw [flipped_length]
  decide +kernel

theorem launched_short : PhysicalModbusIoConfig.Short {} := ⟨by decide +kernel,by decide +kernel⟩

theorem refused_inputs_answerable :
    ((launched {}).operated [.call (.probe corruptedRefresh),.call (.readInputs corruptedInputs)]).Answerable := by
  have probed : ∀ operation ∈ [IoOperation.call (.probe corruptedRefresh)],operation.Bounded := by
    intro operation present
    cases List.mem_singleton.mp present
    exact corruptedRefresh_bounded
  refine (answerable_iff {} launched_short _ ?_).mpr ?_
  · intro operation present
    rcases List.mem_cons.mp present with rfl | present
    · exact corruptedRefresh_bounded
    · cases List.mem_singleton.mp present
      exact corruptedInputs_bounded
  · intro earlier last split
    have split : [IoOperation.call (.probe corruptedRefresh)] ++ [.call (.readInputs corruptedInputs)] = earlier ++ [last] := split
    obtain ⟨rfl,one⟩ := List.append_inj' split rfl
    cases one
    have kept := operated_kept launched_short _ probed (launched_kept launched_short).1
    rw [AckFits,kept.configured]
    exact corruptedInputs_fit

theorem refresh_unanswerable :
    PhysicalModbusIoConfig.Short {} ∧ corruptedRefresh.Bounded ∧
      ¬ ((launched {}).operated [.call (.probe corruptedRefresh)]).Answerable := by
  refine ⟨launched_short,corruptedRefresh_bounded,?_⟩
  have ended := operate_ended launched_short (launched_kept launched_short).1 (.call (.probe corruptedRefresh))
    corruptedRefresh_bounded
  have run := operated_last (launched {}) [] (.call (.probe corruptedRefresh))
  rw [List.nil_append] at run
  rw [run,answerable_exact]
  intro acknowledged
  have fits := ended.exactly.mp acknowledged
  exact corruptedRefresh_coils (fits.2 corruptedRefresh_inputs)

end PhysicalModbusIoService

end RobotControlRuntime
