import RobotControlRuntime.CellAppProtocol
import RobotControlRuntime.CrcBurst
import RobotControlRuntime.RemoteControl

-- The three readers of a status: the C++ client, the operations probe written in
-- Python, and the remote view.
namespace RobotControlRuntime
open LittleEndian

section Remote

theorem remote_payload (encoded : encodeRemoteStatusPayload view = some payload) :
    payload = view.fields ++ List.replicate 7 0 ∧ payload.length = remoteStatusWireSize := by
  obtain ⟨padded,length⟩ := padded_exact (remote_fields_length view) (by decide : 57 ≤ remoteStatusWireSize)
  have same := Option.some.inj (encoded.symm.trans padded)
  exact ⟨same,same ▸ length⟩

theorem remote_decodes (encoded : encodeRemoteStatusPayload view = some payload) :
    decodeRemoteStatusPayload payload = some view := by
  obtain ⟨same,length⟩ := remote_payload encoded
  rw [decodeRemoteStatusPayload,if_neg (not_not_intro length),same]
  simp only [RemoteStatusView.fields,List.append_assoc,List.cons_append,List.nil_append,readU64_field,readU16_field,
    drop_u64,drop_u16,byteAt_u64,byteAt_u16,byteAt_first,byteAt_later,List.drop_succ_cons,List.drop_zero,flag_read,
    RuntimeModeCode.ofRaw_raw,RuntimeFaultCode.ofRaw_raw,EvidenceClass.ofRaw_raw,Int64.toInt64_toUInt64]

end Remote

-- cel1_status_probe.py. Its integers have no width; a socket gives what it likes
-- of the bytes asked for, but at least one until the peer has closed.
namespace StatusProbe

def magic : Nat := 0x314C4543
def version : Nat := 1
def getStatus : Nat := 1
def getStatusAck : Nat := 2
def probeCellIo : Nat := 8
def probeCellIoAck : Nat := 9
def headerSize : Nat := 12
def statusSize : Nat := 80

def crcShift (crc : Nat) : Nat := if crc &&& 1 ≠ 0 then crc >>> 1 ^^^ 0xA001 else crc >>> 1

def crc16 (data : List UInt8) : Nat :=
  data.foldl (fun crc byte => (List.range 8).foldl (fun crc _ => crcShift crc) (crc ^^^ byte.toNat)) 0xFFFF &&& 0xFFFF

-- `sizes` is how much each recv gets; a list that has run out gives all.
structure Socket where
  stream : List UInt8
  sizes : List Nat

def Socket.recv (sock : Socket) (most : Nat) : List UInt8 × Socket :=
  match sock.sizes with
  | [] => (sock.stream.take most,⟨sock.stream.drop most,[]⟩)
  | size :: sizes =>
    let count := min most (max 1 size)
    (sock.stream.take count,⟨sock.stream.drop count,sizes⟩)

def receive (count : Nat) (closed : String) (sock : Socket) (held : List UInt8) : Except String (List UInt8 × Socket) :=
  if held.length < count then
    match sock.recv (count - held.length) with
    | ([],_) => .error closed
    | (byte :: chunk,rest) => receive count closed rest (held ++ byte :: chunk)
  else .ok (held,sock)
termination_by count - held.length
decreasing_by
  simp only [List.length_append,List.length_cons]
  omega

def unsignedAt (data : List UInt8) (offset width : Nat) : Nat := value ((data.drop offset).take width)

def signed (number : Nat) : Int := if number < 0x8000000000000000 then number else number - 0x10000000000000000

def signedAt (data : List UInt8) (offset : Nat) : Int := signed (unsignedAt data offset 8)

def readFrame (sock : Socket) : Except String (Nat × List UInt8) :=
  match receive headerSize "short CEL1 header" sock [] with
  | .error raised => .error raised
  | .ok (header,sock) =>
    if unsignedAt header 0 4 ≠ magic ∨ unsignedAt header 4 1 ≠ version then .error "invalid CEL1 header"
    else
      let size := unsignedAt header 10 2
      if 256 < size then .error "CEL1 payload too large"
      else
        match receive (size + 2) "CEL1 peer closed" sock [] with
        | .error raised => .error raised
        | .ok (tail,_) =>
          let payload := tail.take size
          if crc16 (header ++ payload) ≠ unsignedAt tail size 2 then .error "CEL1 CRC mismatch"
          else .ok (unsignedAt header 5 1,payload)

-- A tuple indexed with everything above its last entry taken for `other`.
def named (names : List String) (other : Nat) (code : UInt8) : String :=
  names.getD (if code.toNat < names.length then code.toNat else other) ""

def modeName : UInt8 → String := named ["DISABLED","IDLE","ACTIVE","HOLD","FAULT","ESTOP","UNKNOWN"] 6

def faultName : UInt8 → String :=
  named ["NONE","WATCHDOG","INPUT_FAULT","COMM_LOSS","NODE_FAULT","PROTOCOL_REJECT","INTERLOCK_LOST","INTERNAL",
    "ACK_TIMEOUT","UNKNOWN"] 9

def evidenceName : UInt8 → String := named ["UNSPECIFIED","MOCK","VCAN","PHYSICAL","LOOPBACK"] 0

def ackName : UInt8 → String :=
  named ["APPLIED","STALE","SESSION_MISMATCH","EXPIRED","INVALID_MASK","NOT_READY","UNKNOWN"] 6

structure Report where
  sourceOwner : String := "rcr_cell_app/CEL1"
  cellIoProbeRequested : Bool
  runtimeReachable : Bool := true
  runtimeState : String
  runtimeFault : String
  runtimeFaultCode : Nat
  runtimeStarted : Bool
  interlockReady : Bool
  deviceOnline : Bool
  deviceHealth : String
  positionReached : Bool
  cellReady : Bool
  nodeId : Nat
  bootId : Nat
  sessionId : Nat
  lastHeartbeatSequence : Nat
  heartbeatAgeNs : Int
  inputBits : Nat
  deviceFaultCode : Nat
  framesReceived : Nat
  framesSent : Nat
  decodeRejects : Nat
  inputQueueDropCount : Nat
  lastAckSession : Nat
  lastAckSequence : Nat
  lastAckResult : String
  lastAckResultCode : Nat
  ackPending : Bool
  evidence : String
  modbusOnline : Bool
  cellReadyDo0Requested : Bool
  cellReadyDo0Confirmed : Bool
  cellReadyDo0Status : Nat
  cellIoHealth : String
  observedMonotonicNs : Int
  deriving DecidableEq, Repr

def report (payload : List UInt8) (cellIo : Bool) : Report :=
  let online := byteAt payload 12 != 0
  let cellReady := byteAt payload 14 != 0
  let modbusOnline := byteAt payload 73 != 0
  let confirmed := byteAt payload 75 != 0
  {cellIoProbeRequested := cellIo
   runtimeState := modeName (byteAt payload 8)
   runtimeFault := faultName (byteAt payload 9)
   runtimeFaultCode := (byteAt payload 9).toNat
   runtimeStarted := byteAt payload 10 != 0
   interlockReady := byteAt payload 11 != 0
   deviceOnline := online
   deviceHealth := if online then "HEALTHY" else "DEGRADED"
   positionReached := byteAt payload 13 != 0
   cellReady := cellReady
   nodeId := (byteAt payload 15).toNat
   bootId := unsignedAt payload 16 2
   sessionId := unsignedAt payload 18 2
   lastHeartbeatSequence := unsignedAt payload 20 2
   heartbeatAgeNs := signedAt payload 22
   inputBits := unsignedAt payload 30 2
   deviceFaultCode := unsignedAt payload 32 2
   framesReceived := unsignedAt payload 34 8
   framesSent := unsignedAt payload 42 8
   decodeRejects := unsignedAt payload 50 8
   inputQueueDropCount := unsignedAt payload 58 8
   lastAckSession := unsignedAt payload 66 2
   lastAckSequence := unsignedAt payload 68 2
   lastAckResult := ackName (byteAt payload 70)
   lastAckResultCode := (byteAt payload 70).toNat
   ackPending := byteAt payload 71 != 0
   evidence := evidenceName (byteAt payload 72)
   modbusOnline := modbusOnline
   cellReadyDo0Requested := byteAt payload 74 != 0
   cellReadyDo0Confirmed := confirmed
   cellReadyDo0Status := (byteAt payload 76).toNat
   cellIoHealth := if modbusOnline && confirmed == cellReady then "HEALTHY" else "DEGRADED"
   observedMonotonicNs := signedAt payload 0}

-- From the reply on; the request before it is the frame of GET_STATUS or
-- PROBE_CELL_IO.
def probe (sock : Socket) (cellIo : Bool) : Except String Report :=
  match readFrame sock with
  | .error raised => .error raised
  | .ok (messageType,payload) =>
    if messageType ≠ (if cellIo then probeCellIoAck else getStatusAck) ∨ payload.length ≠ statusSize then
      .error "unexpected CEL1 reply"
    else .ok (report payload cellIo)

section Crc

theorem crcShift_toNat (crc : UInt16) : (crcBit crc).toNat = crcShift crc.toNat := by
  have low : crc &&& 1 ≠ 0 ↔ crc.toNat &&& 1 ≠ 0 := by
    rw [ne_eq,← UInt16.toNat_inj,UInt16.toNat_and]
    rfl
  unfold crcBit crcShift
  by_cases set : crc &&& 1 ≠ 0
  · rw [if_pos set,if_pos (low.mp set),UInt16.toNat_xor,UInt16.toNat_shiftRight]
    rfl
  · rw [if_neg set,if_neg fun other => set (low.mpr other),UInt16.toNat_shiftRight]
    rfl

theorem crcByte_toNat (crc : UInt16) (byte : UInt8) : (crcByte crc byte).toNat =
    (List.range 8).foldl (fun crc _ => crcShift crc) (crc.toNat ^^^ byte.toNat) := by
  have semiconj : Function.Semiconj UInt16.toNat crcBit crcShift := crcShift_toNat
  have shifted : (crcBit^[8] (crc ^^^ byte.toUInt16)).toNat = crcShift^[8] (crc ^^^ byte.toUInt16).toNat :=
    semiconj.iterate_right 8 _
  rw [UInt16.toNat_xor,UInt8.toNat_toUInt16] at shifted
  exact shifted

theorem crc16_toNat (data : List UInt8) : crc16 data = (modbusRtuCrc16 data).toNat := by
  have fold : ∀ (data : List UInt8) (crc : UInt16), data.foldl
      (fun crc byte => (List.range 8).foldl (fun crc _ => crcShift crc) (crc ^^^ byte.toNat)) crc.toNat =
        (data.foldl crcByte crc).toNat := by
    intro data
    induction data with
    | nil => intro crc; rfl
    | cons byte rest ih =>
        intro crc
        rw [List.foldl_cons,← crcByte_toNat,ih]
        rfl
  have masked : ∀ crc : UInt16, crc.toNat &&& 0xFFFF = crc.toNat := by
    intro crc
    rw [show (0xFFFF : Nat) = 2 ^ 16 - 1 from rfl,Nat.and_two_pow_sub_one_eq_mod]
    exact Nat.mod_eq_of_lt crc.toNat_lt
  have start : (0xFFFF : Nat) = (0xFFFF : UInt16).toNat := rfl
  unfold crc16
  rw [modbusRtuCrc16,← masked,← fold]
  rfl

end Crc

section Receive

theorem recv_some (sock : Socket) (wanted : 1 ≤ most) :
    ∃ count sizes, 1 ≤ count ∧ count ≤ most ∧
      sock.recv most = (sock.stream.take count,⟨sock.stream.drop count,sizes⟩) := by
  unfold Socket.recv
  split
  · exact ⟨most,[],wanted,Nat.le_refl _,rfl⟩
  · rename_i size sizes _
    exact ⟨min most (max 1 size),sizes,by omega,by omega,rfl⟩

theorem receive_done (whole : count ≤ held.length) : receive count closed sock held = .ok (held,sock) := by
  rw [receive,if_neg (Nat.not_lt.mpr whole)]

theorem receive_more (short : held.length < count) (got : sock.recv (count - held.length) = (chunk,next))
    (filled : chunk ≠ []) : receive count closed sock held = receive count closed next (held ++ chunk) := by
  rw [receive,if_pos short]
  cases chunk with
  | nil => exact absurd rfl filled
  | cons byte chunk => simp only [got]

theorem receive_exact (front rest held : List UInt8) (sock : Socket) (arrives : sock.stream = front ++ rest)
    (whole : held.length + front.length = count) :
    ∃ sizes, receive count closed sock held = .ok (held ++ front,⟨rest,sizes⟩) := by
  induction size : front.length using Nat.strongRecOn generalizing front held sock with
  | ind size ih =>
      by_cases ended : front = []
      · subst ended
        refine ⟨sock.sizes,?_⟩
        rw [receive_done (Nat.le_of_eq (by simpa using whole.symm)),List.append_nil,← List.nil_append rest,← arrives]
      · have left : 0 < front.length := List.length_pos_iff.mpr ended
        obtain ⟨got,sizes,least,most,received⟩ := recv_some sock (show 1 ≤ count - held.length by omega)
        have inside : got ≤ front.length := by omega
        rw [arrives,List.take_append_of_le_length inside,List.drop_append_of_le_length inside] at received
        have chunk : front.take got ≠ [] := by
          intro empty
          have length := congrArg List.length empty
          rw [List.length_take,List.length_nil] at length
          omega
        obtain ⟨last,ends⟩ := ih (front.drop got).length (by rw [List.length_drop]; omega) (front.drop got)
          (held ++ front.take got) ⟨front.drop got ++ rest,sizes⟩ rfl (by simp; omega) rfl
        refine ⟨last,?_⟩
        rw [receive_more (by omega) received chunk,ends,List.append_assoc,List.take_append_drop]

end Receive

section Fields

theorem unsigned_word (payload : List UInt8) (offset : Nat) (inside : offset + 2 ≤ payload.length) :
    unsignedAt payload offset 2 = (readU16Le (payload.drop offset)).toNat := by
  have length : 2 ≤ (payload.drop offset).length := by rw [List.length_drop]; omega
  rw [readU16_number _ length,unsignedAt]

theorem unsigned_long (payload : List UInt8) (offset : Nat) (inside : offset + 8 ≤ payload.length) :
    unsignedAt payload offset 8 = (readU64Le (payload.drop offset)).toNat := by
  have length : 8 ≤ (payload.drop offset).length := by rw [List.length_drop]; omega
  rw [readU64_value _ length,unsignedAt]

theorem signed_exact (number : UInt64) : signed number.toNat = number.toInt64.toInt := by
  have bits : number.toInt64.toInt = number.toBitVec.toInt := rfl
  rw [bits,BitVec.toInt_eq_toNat_cond,UInt64.toNat_toBitVec,signed]
  split <;> split <;> omega

theorem signed_long (payload : List UInt8) (offset : Nat) (inside : offset + 8 ≤ payload.length) :
    signedAt payload offset = (readU64Le (payload.drop offset)).toInt64.toInt := by
  rw [signedAt,unsigned_long payload offset inside,signed_exact]

end Fields

section Frames

def header (message : CellAppMessage) (sequence size : UInt16) : List UInt8 :=
  u32Le cellAppFormat.magic ++ [cellAppFormat.version,message.raw,0,0] ++ u16Le sequence ++ u16Le size

theorem header_length (message : CellAppMessage) (sequence size : UInt16) :
    (header message sequence size).length = headerSize := rfl

theorem header_magic (message : CellAppMessage) (sequence size : UInt16) :
    unsignedAt (header message sequence size) 0 4 = magic ∧ unsignedAt (header message sequence size) 4 1 = version := by
  have first : ((header message sequence size).drop 0).take 4 = u32Le cellAppFormat.magic := rfl
  have second : ((header message sequence size).drop 4).take 1 = [cellAppFormat.version] := rfl
  rw [unsignedAt,unsignedAt,first,second]
  decide +kernel

theorem header_size (message : CellAppMessage) (sequence size : UInt16) :
    unsignedAt (header message sequence size) 10 2 = size.toNat := by
  have field : ((header message sequence size).drop 10).take 2 = u16Le size := rfl
  rw [unsignedAt,field,value_u16]

theorem header_type (message : CellAppMessage) (sequence size : UInt16) :
    unsignedAt (header message sequence size) 5 1 = message.raw.toNat := by
  have field : ((header message sequence size).drop 5).take 1 = [message.raw] := rfl
  rw [unsignedAt,field]
  simp [value]

theorem readFrame_encoded (message : CellAppMessage) (sequence : UInt16) (payload wire rest : List UInt8) (sizes : List Nat)
    (encoded : cellAppFormat.encode ⟨message,sequence,payload⟩ = some wire) :
    readFrame ⟨wire ++ rest,sizes⟩ = .ok (message.raw.toNat,payload) := by
  unfold FrameFormat.encode at encoded
  split at encoded
  · cases encoded
  rename_i fits
  cases encoded
  have length : payload.length ≤ 256 := Nat.not_lt.mp fits
  have size : (UInt16.ofNat payload.length).toNat = payload.length := UInt16.toNat_ofNat_of_lt' (by simp [UInt16.size]; omega)
  have split : cellAppFormat.unsealed ⟨message,sequence,payload⟩ =
      header message sequence (UInt16.ofNat payload.length) ++ payload := rfl
  have sized := header_size message sequence (UInt16.ofNat payload.length)
  have typed := header_type message sequence (UInt16.ofNat payload.length)
  have marked := header_magic message sequence (UInt16.ofNat payload.length)
  have twelve := header_length message sequence (UInt16.ofNat payload.length)
  rw [split]
  generalize header message sequence (UInt16.ofNat payload.length) = front at sized typed marked twelve
  generalize sealing : modbusRtuCrc16 (front ++ payload) = crc
  have stream : front ++ payload ++ u16Le crc ++ rest = front ++ (payload ++ u16Le crc ++ rest) := by simp
  obtain ⟨later,first⟩ : ∃ later, receive headerSize "short CEL1 header" ⟨front ++ payload ++ u16Le crc ++ rest,sizes⟩ [] =
      .ok (front,⟨payload ++ u16Le crc ++ rest,later⟩) :=
    receive_exact front _ [] _ stream (by simpa using twelve)
  obtain ⟨last,second⟩ : ∃ last, receive (payload.length + 2) "CEL1 peer closed" ⟨payload ++ u16Le crc ++ rest,later⟩ [] =
      .ok (payload ++ u16Le crc,⟨rest,last⟩) :=
    receive_exact (payload ++ u16Le crc) rest [] _ rfl (by simp)
  have tail : unsignedAt (payload ++ u16Le crc) payload.length 2 = crc.toNat := by
    rw [unsignedAt,List.drop_left,List.take_of_length_le (by simp),value_u16]
  unfold readFrame
  rw [first]
  dsimp only
  rw [if_neg (by rw [marked.1,marked.2]; simp),sized,size,if_neg (by omega),second]
  dsimp only
  rw [List.take_left,tail,crc16_toNat,sealing,if_neg (not_not_intro rfl),typed]

end Frames

structure Agrees (report : Report) (status : CellAppStatus) : Prop where
  runtimeFaultCode : report.runtimeFaultCode = status.fault.raw.toNat
  runtimeStarted : report.runtimeStarted = status.started
  interlockReady : report.interlockReady = status.interlockReady
  deviceOnline : report.deviceOnline = status.online
  positionReached : report.positionReached = status.positionReached
  cellReady : report.cellReady = status.cellReady
  nodeId : report.nodeId = status.nodeId.toNat
  bootId : report.bootId = status.bootId.toNat
  sessionId : report.sessionId = status.sessionId.toNat
  lastHeartbeatSequence : report.lastHeartbeatSequence = status.lastHeartbeatSequence.toNat
  heartbeatAgeNs : report.heartbeatAgeNs = status.heartbeatAgeNs.toInt
  inputBits : report.inputBits = status.inputBits.toNat
  deviceFaultCode : report.deviceFaultCode = status.deviceFaultCode.toNat
  framesReceived : report.framesReceived = status.framesReceived.toNat
  framesSent : report.framesSent = status.framesSent.toNat
  decodeRejects : report.decodeRejects = status.decodeRejects.toNat
  inputQueueDropCount : report.inputQueueDropCount = status.inputQueueDropCount.toNat
  lastAckSession : report.lastAckSession = status.lastAckSession.toNat
  lastAckSequence : report.lastAckSequence = status.lastAckSequence.toNat
  lastAckResultCode : report.lastAckResultCode = status.lastAckResult.raw.toNat
  ackPending : report.ackPending = status.ackPending
  modbusOnline : report.modbusOnline = status.modbusOnline
  cellReadyDo0Requested : report.cellReadyDo0Requested = status.cellReadyDo0Requested
  cellReadyDo0Confirmed : report.cellReadyDo0Confirmed = status.cellReadyDo0Confirmed
  cellReadyDo0Status : report.cellReadyDo0Status = status.cellReadyDo0Status.toNat
  observedMonotonicNs : report.observedMonotonicNs = status.observedMonotonicNs.toInt

theorem report_agrees (decoded : decodeCellAppStatus payload = .ok status) (cellIo : Bool) :
    Agrees (report payload cellIo) status := by
  unfold decodeCellAppStatus at decoded
  split at decoded
  · cases decoded
  rename_i size
  have length : payload.length = 80 := not_not.mp size
  have word (offset : Nat) (inside : offset + 2 ≤ 80) := unsigned_word payload offset (by omega)
  have long (offset : Nat) (inside : offset + 8 ≤ 80) := unsigned_long payload offset (by omega)
  have stamp (offset : Nat) (inside : offset + 8 ≤ 80) := signed_long payload offset (by omega)
  have fault := congrArg UInt8.toNat (RuntimeFaultCode.raw_ofRaw (byteAt payload 9))
  have result := congrArg UInt8.toNat (OutputApplyResult.raw_ofRaw (byteAt payload 70))
  have first : signedAt payload 0 = (readU64Le payload).toInt64.toInt := by
    rw [stamp 0 (by decide),List.drop_zero]
  cases decoded
  exact ⟨fault.symm,rfl,rfl,rfl,rfl,rfl,rfl,word 16 (by decide),word 18 (by decide),word 20 (by decide),stamp 22 (by decide),
    word 30 (by decide),word 32 (by decide),long 34 (by decide),long 42 (by decide),long 50 (by decide),long 58 (by decide),
    word 66 (by decide),word 68 (by decide),result.symm,rfl,rfl,rfl,rfl,rfl,first⟩

theorem probe_reply (status : CellAppStatus) (sequence : UInt16) (cellIo : Bool) (sizes : List Nat) (rest : List UInt8)
    (encoded : encodeCellAppStatus status = some payload)
    (framed : cellAppFormat.encode ⟨if cellIo then .probeCellIoAck else .getStatusAck,sequence,payload⟩ = some wire) :
    probe ⟨wire ++ rest,sizes⟩ cellIo = .ok (report payload cellIo) := by
  have length := (status_payload encoded).2
  unfold probe
  rw [readFrame_encoded _ sequence payload wire rest sizes framed]
  dsimp only
  have expected : (if cellIo then CellAppMessage.probeCellIoAck else .getStatusAck).raw.toNat =
      if cellIo then probeCellIoAck else getStatusAck := by cases cellIo <;> rfl
  rw [expected,if_neg (by simp [length,cellAppStatusWireSize,statusSize])]

end StatusProbe

theorem status_readers_agree :
    (∀ (status : CellAppStatus) (sequence : UInt16), ∃ payload wire frame,
      encodeCellAppStatus status = some payload ∧ cellAppFormat.encode ⟨.getStatusAck,sequence,payload⟩ = some wire ∧
      cellAppFormat.tryDecode wire = .ok (frame,wire.length) ∧ frame.type = .getStatusAck ∧ frame.sequence = sequence ∧
      decodeCellAppStatus frame.payload = .ok status ∧
      ∀ sizes rest, ∃ report, StatusProbe.probe ⟨wire ++ rest,sizes⟩ false = .ok report ∧
        StatusProbe.Agrees report status) ∧
    (∀ request, decodeCellOutputPayload (encodeCellOutputPayload request) = .ok request) ∧
    ∀ view, ∃ payload, encodeRemoteStatusPayload view = some payload ∧ payload.length = remoteStatusWireSize ∧
      decodeRemoteStatusPayload payload = some view := by
  refine ⟨?_,output_decodes,?_⟩
  · intro status sequence
    obtain ⟨payload,encoded,length⟩ := status_encodes status
    have fits : payload.length ≤ FrameFormat.maxPayload := by rw [length]; decide
    obtain ⟨wire,framed,_⟩ := FrameFormat.encode_fits (⟨.getStatusAck,sequence,payload⟩ : CellAppFrame) fits
    refine ⟨payload,wire,_,encoded,framed,FrameFormat.decode_encoded framed,rfl,rfl,status_decodes encoded,?_⟩
    intro sizes rest
    exact ⟨_,StatusProbe.probe_reply status sequence false sizes rest encoded framed,
      StatusProbe.report_agrees (status_decodes encoded) false⟩
  · intro view
    obtain ⟨payload,encoded,length⟩ := remote_status_encodes view
    exact ⟨payload,encoded,length,remote_decodes encoded⟩

end RobotControlRuntime
