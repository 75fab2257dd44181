import RobotControlRuntime.ModbusTcp

namespace RobotControlRuntime.Mbus

-- The host, the port and the times of the configuration only decide what the
-- socket calls return, which is an input here.
structure ClientConfig where
  unitId : UInt8 := 1
  reconnectAttempts : Int := 5
  deriving DecidableEq, Repr

-- The ways through connect(). `reason` is a text of strerror.
inductive ConnectOutcome where
  | connected
  | socketFailed (reason : String)
  | badHost
  | fcntlFailed (reason : String)
  | connectFailed (reason : String)
  | timedOut
  | pollFailed (reason : String)
  | soError (reason : String)
  | clearFailed (reason : String)

def ConnectOutcome.result : ConnectOutcome → Result Unit
  | .connected => .ok ()
  | .socketFailed reason => .error ⟨.io,"socket: " ++ reason⟩
  | .badHost => .error ⟨.io,"inet_pton failed"⟩
  | .fcntlFailed reason => .error ⟨.io,"fcntl: " ++ reason⟩
  | .connectFailed reason => .error ⟨.io,"connect: " ++ reason⟩
  | .timedOut => .error ⟨.timeout,"connect timeout"⟩
  | .pollFailed reason => .error ⟨.io,"poll: " ++ reason⟩
  | .soError reason => .error ⟨.io,"connect so_error: " ++ reason⟩
  | .clearFailed reason => .error ⟨.io,"fcntl clear O_NONBLOCK: " ++ reason⟩

-- One round of send_all; a list of them ends where poll times out.
inductive SendOutcome where
  | sent (count : Nat)
  | interrupted
  | pollFailed (reason : String)
  | failed (reason : String)

-- One round of recv_adu; a list of them ends where poll times out.
inductive RecvOutcome where
  | received (chunk : RecvChunk)
  | interrupted
  | pollFailed (reason : String)
  | hangup
  | failed (reason : String)
  | eof

structure Exchange where
  sends : List SendOutcome := []
  arrivals : List RecvOutcome := []

-- What it does during one transact_raw: the connects before it, the exchange, and
-- both once more for the retry.
structure Environment where
  connects : Nat → ConnectOutcome := fun _ => .connected
  exchange : Exchange := {}
  reconnects : Nat → ConnectOutcome := fun _ => .connected
  retry : Exchange := {}

structure Client where
  connected : Bool := false
  nextTid : UInt16 := 1
  framer : StreamFramer := {}
  deriving DecidableEq, Repr

structure Returned (α : Type) where
  client : Client
  unread : List RecvOutcome := []
  result : Result α

def sendAll (bytes : List UInt8) (off : Nat) : List SendOutcome → Result Unit
  | [] => if off < bytes.length then .error ⟨.timeout,"send timeout"⟩ else .ok ()
  | outcome :: rest =>
    if off < bytes.length then
      match outcome with
      | .pollFailed reason => .error ⟨.io,"poll send: " ++ reason⟩
      | .interrupted => sendAll bytes off rest
      | .failed reason => .error ⟨.io,"send: " ++ reason⟩
      | .sent count => if count = 0 then .error ⟨.closed,"send returned 0"⟩ else sendAll bytes (off + count) rest
    else .ok ()

def recvAdu (f : StreamFramer) (arrivals : List RecvOutcome) : StreamFramer × List RecvOutcome × Result (List UInt8) :=
  match f.tryPopAdu with
  | (f,.ok frame) => (f,arrivals,.ok frame)
  | (f,.error failure) =>
    if failure.error ≠ .needMore then (f,arrivals,.error failure)
    else
      match arrivals with
      | [] => (f,[],.error ⟨.timeout,"response timeout"⟩)
      | .received chunk :: rest => recvAdu (f.append chunk.bytes) rest
      | .interrupted :: rest => recvAdu f rest
      | .pollFailed reason :: rest => (f,rest,.error ⟨.io,"poll recv: " ++ reason⟩)
      | .hangup :: rest => (f,rest,.error ⟨.closed,"peer closed or error"⟩)
      | .failed reason :: rest => (f,rest,.error ⟨.io,"recv: " ++ reason⟩)
      | .eof :: rest => (f,rest,.error ⟨.closed,"peer EOF"⟩)

namespace Client

def close (c : Client) : Client := {c with connected := false,framer := {}}

def connect (c : Client) (outcome : ConnectOutcome) : Client × Result Unit :=
  match outcome.result with
  | .ok () => ({c.close with connected := true},.ok ())
  | .error failure => (c.close,.error failure)

def attempts (connects : Nat → ConnectOutcome) (last : Failure) (c : Client) (i : Nat) : Nat → Client × Result Unit
  | 0 => (c,.error last)
  | left + 1 =>
    match c.connect (connects i) with
    | (c,.ok ()) => (c,.ok ())
    | (c,.error failure) => attempts connects failure c (i + 1) left

def reconnectWithBackoff (config : ClientConfig) (connects : Nat → ConnectOutcome) (c : Client) : Client × Result Unit :=
  c.attempts connects ⟨.io,"reconnect failed"⟩ 0 config.reconnectAttempts.toNat

def ensureConnected (config : ClientConfig) (connects : Nat → ConnectOutcome) (c : Client) : Client × Result Unit :=
  if c.connected then (c,.ok ()) else c.reconnectWithBackoff config connects

def awaitAnswer (config : ClientConfig) (c : Client) (tid : UInt16) (arrivals : List RecvOutcome) : Returned Adu :=
  let (framer,unread,frame) := recvAdu c.framer arrivals
  let c := {c with framer := framer}
  match frame with
  | .error failure => ⟨c,unread,.error failure⟩
  | .ok frame =>
    match decodeAdu frame with
    | .error failure => ⟨c,unread,.error failure⟩
    | .ok adu =>
      if adu.mbap.transactionId ≠ tid then
        ⟨c,unread,.error ⟨.transactionMismatch,"response transaction id mismatch"⟩⟩
      else if adu.mbap.unitId ≠ config.unitId then ⟨c,unread,.error ⟨.unexpectedPdu,"unit id mismatch"⟩⟩
      else ⟨c,unread,.ok adu⟩

def requestAdu (config : ClientConfig) (pdu : List UInt8) (tid : UInt16) : Adu :=
  {mbap := {transactionId := tid,protocolId := protocolId,unitId := config.unitId},pdu := pdu}

def transactOnce (config : ClientConfig) (c : Client) (pdu : List UInt8) (tid : UInt16) (e : Exchange) : Returned Adu :=
  match encodeAdu (requestAdu config pdu tid) with
  | .error failure => ⟨c,e.arrivals,.error failure⟩
  | .ok encoded =>
    match sendAll encoded 0 e.sends with
    | .error failure => ⟨c,e.arrivals,.error failure⟩
    | .ok () => c.awaitAnswer config tid e.arrivals

-- next_tid_++, with 0 left out.
def tookTid (c : Client) : Client := {c with nextTid := if c.nextTid + 1 = 0 then 1 else c.nextTid + 1}

def transactRaw (config : ClientConfig) (c : Client) (pdu : List UInt8) (w : Environment) : Returned Adu :=
  match c.ensureConnected config w.connects with
  | (c,.error failure) => ⟨c,[],.error failure⟩
  | (c,.ok ()) =>
    let once := c.tookTid.transactOnce config pdu c.nextTid w.exchange
    match once.result with
    | .ok _ => once
    | .error failure =>
      if failure.error = .closed ∨ failure.error = .io then
        match once.client.close.reconnectWithBackoff config w.reconnects with
        | (c,.error failure) => ⟨c,[],.error failure⟩
        | (c,.ok ()) => c.tookTid.transactOnce config pdu c.nextTid w.retry
      else once

def refusal (pdu : List UInt8) : Option Failure :=
  if pdu ≠ [] ∧ byteAt pdu 0 &&& 0x80 ≠ 0 then
    some ⟨.exceptionResponse,
      match decodeExceptionResponse pdu with
      | .ok info => "exception code=" ++ toString info.code.toNat
      | .error _ => "exception"⟩
  else none

def called (config : ClientConfig) (c : Client) (w : Environment) (request : Result (List UInt8))
    (decode : List UInt8 → Result α) : Returned α :=
  match request with
  | .error failure => ⟨c,[],.error failure⟩
  | .ok pdu =>
    let raw := c.transactRaw config pdu w
    match raw.result with
    | .error failure => ⟨raw.client,raw.unread,.error failure⟩
    | .ok adu =>
      match refusal adu.pdu with
      | some failure => ⟨raw.client,raw.unread,.error failure⟩
      | none => ⟨raw.client,raw.unread,decode adu.pdu⟩

def readHolding (config : ClientConfig) (c : Client) (address quantity : UInt16) (w : Environment) : Returned (List UInt16) :=
  c.called config w (encodeReadHoldingRequest address quantity) decodeReadHoldingResponse

def writeSingle (config : ClientConfig) (c : Client) (address value : UInt16) (w : Environment) :
    Returned WriteSingleResponse :=
  c.called config w (encodeWriteSingleRequest address value) decodeWriteSingleResponse

def writeMultiple (config : ClientConfig) (c : Client) (address : UInt16) (values : List UInt16) (w : Environment) :
    Returned WriteMultipleResponse :=
  c.called config w (encodeWriteMultipleRequest address values) decodeWriteMultipleResponse

def Given (config : ClientConfig) (c : Client) (w : Environment) (request : Result (List UInt8)) (response : Adu) : Prop :=
  ∃ pdu, request = .ok pdu ∧ (c.transactRaw config pdu w).result = .ok response

theorem called_ok {config : ClientConfig} {decode : List UInt8 → Result α}
    (returned : (c.called config w request decode).result = .ok value) :
    ∃ response, Given config c w request response ∧ decode response.pdu = .ok value := by
  unfold called at returned
  split at returned
  · cases returned
  rename_i pdu
  dsimp only at returned
  split at returned
  · cases returned
  rename_i response transacted
  split at returned
  · cases returned
  · exact ⟨response,⟨pdu,rfl,transacted⟩,returned⟩

theorem readHolding_decoded (decoded : decodeReadHoldingResponse pdu = .ok values) :
    pdu = [fcReadHolding,byteAt pdu 1] ++ values.flatMap putU16Be ∧ (byteAt pdu 1).toNat = 2 * values.length := by
  unfold decodeReadHoldingResponse at decoded
  split at decoded
  · cases decoded
  split at decoded
  · cases decoded
  rename_i head
  have head := not_not.mp head
  dsimp only at decoded
  split at decoded
  · cases decoded
  split at decoded
  · cases decoded
  rename_i even length
  have even := not_not.mp even
  have length := not_not.mp length
  obtain ⟨others,read,many,words⟩ := getWords_exact ((byteAt pdu 1).toNat / 2)
    (show 2 + 2 * ((byteAt pdu 1).toNat / 2) ≤ pdu.length by omega)
  cases read.symm.trans decoded
  refine ⟨?_,by omega⟩
  rw [words,List.take_of_length_le (by rw [List.length_drop]; omega)]
  match pdu,length,head with
  | _ :: _ :: _,_,rfl => rfl

theorem echo_read (shape : ¬ (pdu.length ≠ 5 ∨ byteAt pdu 0 ≠ function)) :
    ∃ first second, getU16Be pdu 1 = .ok first ∧ getU16Be pdu 3 = .ok second ∧
      [function] ++ putU16Be first ++ putU16Be second = pdu := by
  obtain ⟨five,head⟩ := not_or.mp shape
  have five := not_not.mp five
  exact ⟨_,_,getU16_exact (by omega),getU16_exact (by omega),(not_not.mp head ▸ five_bytes five).symm⟩

theorem writeSingle_decoded (decoded : decodeWriteSingleResponse pdu = .ok echo) :
    encodeWriteSingleResponse echo.address echo.value = .ok pdu := by
  unfold decodeWriteSingleResponse at decoded
  split at decoded
  · cases decoded
  rename_i shape
  obtain ⟨address,value,high,low,bytes⟩ := echo_read shape
  rw [high,low] at decoded
  cases decoded
  exact congrArg Except.ok bytes

theorem writeMultiple_decoded (decoded : decodeWriteMultipleResponse pdu = .ok echo) :
    encodeWriteMultipleResponse echo.address echo.quantity = .ok pdu := by
  unfold decodeWriteMultipleResponse at decoded
  split at decoded
  · cases decoded
  rename_i shape
  obtain ⟨address,quantity,high,low,bytes⟩ := echo_read shape
  rw [high,low] at decoded
  cases decoded
  exact congrArg Except.ok bytes

theorem echo_fits (carried : (.ok ([function] ++ putU16Be a ++ putU16Be b) : Result (List UInt8)) = .ok pdu) :
    a = c ∧ b = d ↔ (.ok ([function] ++ putU16Be c ++ putU16Be d) : Result (List UInt8)) = .ok pdu := by
  constructor
  · rintro ⟨rfl,rfl⟩
    exact carried
  · intro same
    obtain ⟨front,second⟩ := List.append_inj (Except.ok.inj (carried.trans same.symm)) rfl
    exact ⟨putU16_injective (List.cons.inj front).2,putU16_injective second⟩

def answeredBy (pdu : List UInt8) (short : pdu.length ≤ 253) : Environment :=
  {exchange := {
    sends := [.sent 260]
    arrivals := [.received ⟨[0,1,0,0,0,UInt8.ofNat (1 + pdu.length),1] ++ pdu,by simp,by simp; omega⟩]}}

theorem mismatched_answers_accepted :
    (readHolding {} {connected := true} 0 2 (answeredBy [0x03,0] (by decide))).result = .ok [] ∧
      (writeSingle {} {connected := true} 1 5 (answeredBy [0x06,0,2,0,9] (by decide))).result = .ok ⟨2,9⟩ ∧
      (writeMultiple {} {connected := true} 0 [7] (answeredBy [0x10,0,9,0,4] (by decide))).result = .ok ⟨9,4⟩ :=
  ⟨rfl,rfl,rfl⟩

-- A call returns what its response carries, without a look at its request: the
-- two fit together exactly when the response fits.
theorem returns_match_iff (config : ClientConfig) (c : Client) (w : Environment) (address quantity value : UInt16)
    (values : List UInt16) :
    (∀ registers, (c.readHolding config address quantity w).result = .ok registers →
      ∃ response, Given config c w (encodeReadHoldingRequest address quantity) response ∧
        response.pdu = [fcReadHolding,byteAt response.pdu 1] ++ registers.flatMap putU16Be ∧
        (registers.length = quantity.toNat ↔ (byteAt response.pdu 1).toNat = 2 * quantity.toNat)) ∧
    (∀ echo, (c.writeSingle config address value w).result = .ok echo →
      ∃ response, Given config c w (encodeWriteSingleRequest address value) response ∧
        encodeWriteSingleResponse echo.address echo.value = .ok response.pdu ∧
        (echo = ⟨address,value⟩ ↔ encodeWriteSingleRequest address value = .ok response.pdu)) ∧
    (∀ echo, (c.writeMultiple config address values w).result = .ok echo →
      ∃ response, Given config c w (encodeWriteMultipleRequest address values) response ∧
        encodeWriteMultipleResponse echo.address echo.quantity = .ok response.pdu ∧
        (echo = ⟨address,UInt16.ofNat values.length⟩ ↔
          encodeWriteMultipleResponse address (UInt16.ofNat values.length) = .ok response.pdu)) := by
  refine ⟨?_,?_,?_⟩
  · intro registers returned
    obtain ⟨response,given,decoded⟩ := called_ok returned
    obtain ⟨bytes,count⟩ := readHolding_decoded decoded
    exact ⟨response,given,bytes,by omega⟩
  · intro echo returned
    obtain ⟨response,given,decoded⟩ := called_ok returned
    have bytes := writeSingle_decoded decoded
    refine ⟨response,given,bytes,?_⟩
    obtain ⟨first,second⟩ := echo
    rw [WriteSingleResponse.mk.injEq]
    exact echo_fits bytes
  · intro echo returned
    obtain ⟨response,given,decoded⟩ := called_ok returned
    have bytes := writeMultiple_decoded decoded
    refine ⟨response,given,bytes,?_⟩
    obtain ⟨first,second⟩ := echo
    rw [WriteMultipleResponse.mk.injEq]
    exact echo_fits bytes

end Client

end RobotControlRuntime.Mbus
