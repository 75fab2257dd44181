import RobotControlRuntime.FrameFormat

namespace RobotControlRuntime.Mbus
open FrameStream

inductive Error where
  | needMore | invalidProtocolId | invalidLength | truncated | bufferOverflow | unsupportedFunction | illegalAddress
  | illegalValue | exceptionResponse | transactionMismatch | unexpectedPdu | io | timeout | closed | busy
  deriving DecidableEq, Repr

structure Failure where
  error : Error
  message : String
  deriving DecidableEq, Repr

abbrev Result (α : Type) := Except Failure α

def protocolId : UInt16 := 0
def mbapSize : Nat := 7
def maxAduSize : Nat := 260
def maxPduSize : Nat := 253

def fcReadHolding : UInt8 := 0x03
def fcWriteSingle : UInt8 := 0x06
def fcWriteMultiple : UInt8 := 0x10

def exIllegalFunction : UInt8 := 0x01
def exIllegalDataAddress : UInt8 := 0x02
def exIllegalDataValue : UInt8 := 0x03

structure Mbap where
  transactionId : UInt16 := 0
  protocolId : UInt16 := 0
  length : UInt16 := 0
  unitId : UInt8 := 0
  deriving DecidableEq, Repr

structure Adu where
  mbap : Mbap := {}
  pdu : List UInt8 := []
  deriving DecidableEq, Repr

def putU16Be (v : UInt16) : List UInt8 := [(v >>> 8 &&& 0xFF).toUInt8,(v &&& 0xFF).toUInt8]

def wordBe (high low : UInt8) : UInt16 := (high.toUInt16 <<< 8) ||| low.toUInt16

def getU16Be (b : List UInt8) (off : Nat) : Result UInt16 :=
  if b.length < off + 2 then .error ⟨.truncated,"need 2 bytes"⟩
  else .ok (wordBe (byteAt b off) (byteAt b (off + 1)))

def getWords (b : List UInt8) (off : Nat) : Nat → Result (List UInt16)
  | 0 => .ok []
  | count + 1 =>
    match getU16Be b off with
    | .error failure => .error failure
    | .ok v => (getWords b (off + 2) count).map (v :: ·)

def encodeAdu (adu : Adu) : Result (List UInt8) :=
  if adu.pdu = [] then .error ⟨.invalidLength,"empty pdu"⟩
  else if maxPduSize < adu.pdu.length then .error ⟨.invalidLength,"pdu too large"⟩
  else if adu.mbap.protocolId ≠ protocolId then .error ⟨.invalidProtocolId,"protocol_id must be 0"⟩
  else .ok (putU16Be adu.mbap.transactionId ++ putU16Be adu.mbap.protocolId ++
    putU16Be (UInt16.ofNat (1 + adu.pdu.length)) ++ [adu.mbap.unitId] ++ adu.pdu)

def decodeAdu (bytes : List UInt8) : Result Adu :=
  if bytes.length < mbapSize then .error ⟨.truncated,"adu shorter than MBAP"⟩
  else
    match getU16Be bytes 0,getU16Be bytes 2,getU16Be bytes 4 with
    | .ok tid,.ok pid,.ok len =>
      if pid ≠ protocolId then .error ⟨.invalidProtocolId,"protocol_id != 0"⟩
      else if len < 2 then .error ⟨.invalidLength,"length < 2"⟩
      else
        let expected := 6 + len.toNat
        if maxAduSize < expected then .error ⟨.invalidLength,"adu exceeds max"⟩
        else if bytes.length < expected then .error ⟨.truncated,"adu incomplete"⟩
        else if bytes.length ≠ expected then
          .error ⟨.invalidLength,"adu size mismatch (caller must pass exact frame)"⟩
        else
          let pdu := (bytes.drop mbapSize).take (len.toNat - 1)
          if pdu = [] then .error ⟨.invalidLength,"empty pdu after unit"⟩
          else .ok ⟨⟨tid,pid,len,byteAt bytes 6⟩,pdu⟩
    | _,_,_ => .error ⟨.truncated,"mbap truncated"⟩

def encodeReadHoldingRequest (address quantity : UInt16) : Result (List UInt8) :=
  if quantity < 1 ∨ 125 < quantity then .error ⟨.illegalValue,"read quantity out of range"⟩
  else .ok ([fcReadHolding] ++ putU16Be address ++ putU16Be quantity)

def encodeWriteSingleRequest (address value : UInt16) : Result (List UInt8) :=
  .ok ([fcWriteSingle] ++ putU16Be address ++ putU16Be value)

def encodeWriteMultipleRequest (address : UInt16) (values : List UInt16) : Result (List UInt8) :=
  if values = [] ∨ 123 < values.length then .error ⟨.illegalValue,"write multiple quantity out of range"⟩
  else .ok ([fcWriteMultiple] ++ putU16Be address ++ putU16Be (UInt16.ofNat values.length) ++
    [UInt8.ofNat (values.length * 2)] ++ values.flatMap putU16Be)

def encodeReadHoldingResponse (values : List UInt16) : Result (List UInt8) :=
  if values = [] ∨ 125 < values.length then .error ⟨.illegalValue,"response quantity out of range"⟩
  else .ok ([fcReadHolding,UInt8.ofNat (values.length * 2)] ++ values.flatMap putU16Be)

def encodeWriteSingleResponse (address value : UInt16) : Result (List UInt8) := encodeWriteSingleRequest address value

def encodeWriteMultipleResponse (address quantity : UInt16) : Result (List UInt8) :=
  .ok ([fcWriteMultiple] ++ putU16Be address ++ putU16Be quantity)

def encodeExceptionResponse (function exceptionCode : UInt8) : Result (List UInt8) :=
  .ok [function ||| 0x80,exceptionCode]

structure WriteSingleResponse where
  address : UInt16 := 0
  value : UInt16 := 0
  deriving DecidableEq, Repr

structure WriteMultipleResponse where
  address : UInt16 := 0
  quantity : UInt16 := 0
  deriving DecidableEq, Repr

structure ExceptionInfo where
  function : UInt8 := 0
  code : UInt8 := 0
  deriving DecidableEq, Repr

def decodeReadHoldingResponse (pdu : List UInt8) : Result (List UInt16) :=
  if pdu.length < 2 then .error ⟨.truncated,"pdu too short"⟩
  else if byteAt pdu 0 ≠ fcReadHolding then .error ⟨.unexpectedPdu,"not read holding response"⟩
  else
    let byteCount := (byteAt pdu 1).toNat
    if byteCount % 2 ≠ 0 then .error ⟨.illegalValue,"odd byte count"⟩
    else if pdu.length ≠ 2 + byteCount then .error ⟨.truncated,"byte_count mismatch"⟩
    else getWords pdu 2 (byteCount / 2)

def decodeWriteSingleResponse (pdu : List UInt8) : Result WriteSingleResponse :=
  if pdu.length ≠ 5 ∨ byteAt pdu 0 ≠ fcWriteSingle then .error ⟨.unexpectedPdu,"not write single response"⟩
  else
    match getU16Be pdu 1,getU16Be pdu 3 with
    | .ok address,.ok value => .ok ⟨address,value⟩
    | _,_ => .error ⟨.truncated,"write single truncated"⟩

def decodeWriteMultipleResponse (pdu : List UInt8) : Result WriteMultipleResponse :=
  if pdu.length ≠ 5 ∨ byteAt pdu 0 ≠ fcWriteMultiple then .error ⟨.unexpectedPdu,"not write multiple response"⟩
  else
    match getU16Be pdu 1,getU16Be pdu 3 with
    | .ok address,.ok quantity => .ok ⟨address,quantity⟩
    | _,_ => .error ⟨.truncated,"write multiple truncated"⟩

def decodeExceptionResponse (pdu : List UInt8) : Result ExceptionInfo :=
  if pdu.length ≠ 2 ∨ byteAt pdu 0 &&& 0x80 = 0 then .error ⟨.unexpectedPdu,"not exception response"⟩
  else .ok ⟨byteAt pdu 0 &&& 0x7F,byteAt pdu 1⟩

structure StreamFramer where
  buffer : List UInt8 := []
  deriving DecidableEq, Repr

namespace StreamFramer

def append (f : StreamFramer) (chunk : List UInt8) : StreamFramer := ⟨f.buffer ++ chunk⟩

def tryPopAdu (f : StreamFramer) : StreamFramer × Result (List UInt8) :=
  if f.buffer.length < mbapSize then (f,.error ⟨.needMore,"wait mbap"⟩)
  else
    match getU16Be f.buffer 2,getU16Be f.buffer 4 with
    | .ok pid,.ok len =>
      if pid ≠ protocolId then (f,.error ⟨.invalidProtocolId,"protocol_id != 0"⟩)
      else if len < 2 then (f,.error ⟨.invalidLength,"length < 2"⟩)
      else
        let total := 6 + len.toNat
        if maxAduSize < total then (f,.error ⟨.invalidLength,"length implies oversized adu"⟩)
        else if f.buffer.length < total then (f,.error ⟨.needMore,"wait body"⟩)
        else (⟨f.buffer.drop total⟩,.ok (f.buffer.take total))
    | _,_ => (f,.error ⟨.truncated,"mbap read failed"⟩)

end StreamFramer

-- A recv that returned bytes: at most what its buffer holds.
structure RecvChunk where
  bytes : List UInt8
  some : 0 < bytes.length
  fits : bytes.length ≤ 512

def pidOf (bytes : List UInt8) : UInt16 := wordBe (byteAt bytes 2) (byteAt bytes 3)
def lengthOf (bytes : List UInt8) : UInt16 := wordBe (byteAt bytes 4) (byteAt bytes 5)

theorem word_readU16 (high low : UInt8) : wordBe high low = readU16Le [low,high] := UInt16.or_comm ..

theorem word_bytes (v : UInt16) : wordBe (v >>> 8 &&& 0xFF).toUInt8 (v &&& 0xFF).toUInt8 = v := by
  rw [word_readU16]
  exact readU16_bytes v

theorem bytes_word (high low : UInt8) : putU16Be (wordBe high low) = [high,low] := by
  have bytes : [_,_] = [low,high] := bytes_readU16 low high
  rw [List.cons.injEq,List.cons.injEq] at bytes
  rw [putU16Be,word_readU16,bytes.1,bytes.2.1]

@[simp] theorem putU16_length (v : UInt16) : (putU16Be v).length = 2 := rfl

theorem putU16_injective (same : putU16Be v = putU16Be w) : v = w := by
  have bytes : [_,_] = [_,_] := same
  rw [List.cons.injEq,List.cons.injEq] at bytes
  rw [← word_bytes v,← word_bytes w,bytes.1,bytes.2.1]

theorem getU16_exact (inside : off + 2 ≤ b.length) : getU16Be b off = .ok (wordBe (byteAt b off) (byteAt b (off + 1))) :=
  if_neg (Nat.not_lt.mpr inside)

theorem drop_word (inside : off + 2 ≤ b.length) : b.drop off = byteAt b off :: byteAt b (off + 1) :: b.drop (off + 2) := by
  have at_byte (i : Nat) (bound : i < b.length) : b.drop i = byteAt b i :: b.drop (i + 1) := by
    rw [List.drop_eq_getElem_cons bound,byteAt,List.getD_eq_getElem?_getD,List.getElem?_eq_getElem bound]
    rfl
  rw [at_byte off (by omega),at_byte (off + 1) (by omega)]

theorem words_length (values : List UInt16) : (values.flatMap putU16Be).length = 2 * values.length := by
  induction values with
  | nil => rfl
  | cons value values ih =>
      rw [List.flatMap_cons,List.length_append,ih,putU16_length,List.length_cons]
      omega

theorem words_injective {values others : List UInt16} (same : values.flatMap putU16Be = others.flatMap putU16Be) : values = others := by
  induction values generalizing others with
  | nil =>
      cases others with
      | nil => rfl
      | cons other others => cases same
  | cons value values ih =>
      cases others with
      | nil => cases same
      | cons other others =>
          rw [List.flatMap_cons,List.flatMap_cons] at same
          obtain ⟨first,rest⟩ := List.append_inj same rfl
          rw [putU16_injective first,ih rest]

theorem getWords_exact (count : Nat) (inside : off + 2 * count ≤ b.length) :
    ∃ values, getWords b off count = .ok values ∧ values.length = count ∧
      values.flatMap putU16Be = (b.drop off).take (2 * count) := by
  induction count generalizing off with
  | zero => exact ⟨[],rfl,rfl,rfl⟩
  | succ count ih =>
      obtain ⟨values,read,length,words⟩ := ih (show off + 2 + 2 * count ≤ b.length by omega)
      refine ⟨wordBe (byteAt b off) (byteAt b (off + 1)) :: values,?_,?_,?_⟩
      · rw [getWords,getU16_exact (by omega),read]
        rfl
      · rw [List.length_cons,length]
      · rw [List.flatMap_cons,bytes_word,words,drop_word (show off + 2 ≤ b.length by omega),show 2 * (count + 1) = 2 * count + 1 + 1 by omega]
        rfl

theorem five_bytes (five : pdu.length = 5) : pdu = [byteAt pdu 0] ++ putU16Be (wordBe (byteAt pdu 1) (byteAt pdu 2)) ++
    putU16Be (wordBe (byteAt pdu 3) (byteAt pdu 4)) := by
  rw [bytes_word,bytes_word]
  match pdu,five with
  | [_,_,_,_,_],_ => rfl

theorem decode_header (bytes : List UInt8) (header : mbapSize ≤ bytes.length) : decodeAdu bytes =
    if pidOf bytes ≠ protocolId then .error ⟨.invalidProtocolId,"protocol_id != 0"⟩
    else if lengthOf bytes < 2 then .error ⟨.invalidLength,"length < 2"⟩
    else if maxAduSize < 6 + (lengthOf bytes).toNat then .error ⟨.invalidLength,"adu exceeds max"⟩
    else if bytes.length < 6 + (lengthOf bytes).toNat then .error ⟨.truncated,"adu incomplete"⟩
    else if bytes.length ≠ 6 + (lengthOf bytes).toNat then
      .error ⟨.invalidLength,"adu size mismatch (caller must pass exact frame)"⟩
    else if (bytes.drop mbapSize).take ((lengthOf bytes).toNat - 1) = [] then
      .error ⟨.invalidLength,"empty pdu after unit"⟩
    else .ok ⟨⟨wordBe (byteAt bytes 0) (byteAt bytes 1),pidOf bytes,lengthOf bytes,byteAt bytes 6⟩,
      (bytes.drop mbapSize).take ((lengthOf bytes).toNat - 1)⟩ := by
  have inside : 7 ≤ bytes.length := header
  rw [decodeAdu,if_neg (Nat.not_lt.mpr header),getU16_exact (by omega),getU16_exact (by omega),getU16_exact (by omega)]
  rfl

namespace StreamFramer

theorem pop_header (f : StreamFramer) (header : mbapSize ≤ f.buffer.length) : f.tryPopAdu =
    if pidOf f.buffer ≠ protocolId then (f,.error ⟨.invalidProtocolId,"protocol_id != 0"⟩)
    else if lengthOf f.buffer < 2 then (f,.error ⟨.invalidLength,"length < 2"⟩)
    else if maxAduSize < 6 + (lengthOf f.buffer).toNat then (f,.error ⟨.invalidLength,"length implies oversized adu"⟩)
    else if f.buffer.length < 6 + (lengthOf f.buffer).toNat then (f,.error ⟨.needMore,"wait body"⟩)
    else (⟨f.buffer.drop (6 + (lengthOf f.buffer).toNat)⟩,.ok (f.buffer.take (6 + (lengthOf f.buffer).toNat))) := by
  have inside : 7 ≤ f.buffer.length := header
  rw [tryPopAdu,if_neg (Nat.not_lt.mpr header),getU16_exact (by omega),getU16_exact (by omega)]
  rfl

theorem pop_parts (f : StreamFramer) :
    (∃ failure, f.tryPopAdu = (f,.error failure)) ∨
      ∃ n, 8 ≤ n ∧ n ≤ f.buffer.length ∧ f.tryPopAdu = (⟨f.buffer.drop n⟩,.ok (f.buffer.take n)) := by
  by_cases short : f.buffer.length < mbapSize
  · exact .inl ⟨_,if_pos short⟩
  rw [pop_header f (Nat.not_lt.mp short)]
  split
  · exact .inl ⟨_,rfl⟩
  split
  · exact .inl ⟨_,rfl⟩
  rename_i long
  split
  · exact .inl ⟨_,rfl⟩
  split
  · exact .inl ⟨_,rfl⟩
  · have two : 2 ≤ (lengthOf f.buffer).toNat := Nat.not_lt.mp long
    exact .inr ⟨_,by omega,by omega,rfl⟩

theorem pop_append (bytes rest : List UInt8)
    (settled : ∀ failure, (tryPopAdu ⟨bytes⟩).2 = .error failure → failure.error ≠ .needMore) :
    (tryPopAdu ⟨bytes ++ rest⟩).2 = (tryPopAdu ⟨bytes⟩).2 := by
  by_cases short : bytes.length < mbapSize
  · have waiting : tryPopAdu ⟨bytes⟩ = (⟨bytes⟩,.error ⟨.needMore,"wait mbap"⟩) := if_pos short
    exact absurd rfl (settled _ (by rw [waiting]))
  have inside : mbapSize ≤ bytes.length := Nat.not_lt.mp short
  have header : 7 ≤ bytes.length := inside
  have longer : mbapSize ≤ (bytes ++ rest).length := by
    rw [List.length_append]
    omega
  have pid : pidOf (bytes ++ rest) = pidOf bytes := by
    rw [pidOf,byteAt_append bytes rest (by omega),byteAt_append bytes rest (by omega),pidOf]
  have length : lengthOf (bytes ++ rest) = lengthOf bytes := by
    rw [lengthOf,byteAt_append bytes rest (by omega),byteAt_append bytes rest (by omega),lengthOf]
  rw [pop_header ⟨bytes⟩ inside] at settled ⊢
  rw [pop_header ⟨bytes ++ rest⟩ longer,pid,length]
  by_cases wrong : pidOf bytes ≠ protocolId
  · rw [if_pos wrong,if_pos wrong]
  by_cases tiny : lengthOf bytes < 2
  · rw [if_neg wrong,if_neg wrong,if_pos tiny,if_pos tiny]
  by_cases large : maxAduSize < 6 + (lengthOf bytes).toNat
  · rw [if_neg wrong,if_neg wrong,if_neg tiny,if_neg tiny,if_pos large,if_pos large]
  rw [if_neg wrong,if_neg tiny,if_neg large] at settled ⊢
  rw [if_neg wrong,if_neg tiny,if_neg large]
  by_cases incomplete : bytes.length < 6 + (lengthOf bytes).toNat
  · exact absurd rfl (settled _ (by rw [if_pos incomplete]))
  have complete : ¬ (bytes ++ rest).length < 6 + (lengthOf bytes).toNat := by
    rw [List.length_append]
    omega
  rw [if_neg incomplete,if_neg complete,List.take_append_of_le_length (Nat.not_lt.mp incomplete)]

def decode (bytes : List UInt8) : Except Failure (List UInt8 × Nat) :=
  (tryPopAdu ⟨bytes⟩).2.map fun frame => (frame,frame.length)

theorem decode_ok (decoded : decode bytes = .ok (frame,n)) :
    tryPopAdu ⟨bytes⟩ = (⟨bytes.drop n⟩,.ok frame) ∧ frame = bytes.take n ∧ 8 ≤ n ∧ n ≤ bytes.length := by
  unfold decode at decoded
  rcases pop_parts ⟨bytes⟩ with ⟨failure,popped⟩ | ⟨k,large,inside,popped⟩
  · rw [popped] at decoded
    cases decoded
  · rw [popped] at decoded ⊢
    cases decoded
    have inside : k ≤ bytes.length := inside
    rw [List.length_take,Nat.min_eq_left inside]
    exact ⟨rfl,rfl,large,inside⟩

theorem decode_error {reason : Failure} (decoded : decode bytes = .error reason) :
    tryPopAdu ⟨bytes⟩ = (⟨bytes⟩,.error reason) := by
  unfold decode at decoded
  rcases pop_parts ⟨bytes⟩ with ⟨other,popped⟩ | ⟨_,_,_,popped⟩
  · rw [popped] at decoded ⊢
    cases decoded
    rfl
  · rw [popped] at decoded
    cases decoded

def codec : Codec UInt8 (List UInt8) Failure where
  decode := decode
  waits failure := failure.error == .needMore
  empty := ⟨⟨.needMore,"wait mbap"⟩,rfl,rfl⟩
  consumed bytes frame n decoded := by
    obtain ⟨_,_,large,inside⟩ := decode_ok decoded
    exact ⟨by omega,inside⟩
  framed bytes rest frame n decoded := by
    have popped := (decode_ok decoded).1
    rw [decode,pop_append bytes rest (by rw [popped]; intro failure wrong; cases wrong)]
    exact decoded
  refused bytes rest failure judged settled := by
    have popped := decode_error judged
    rw [decode,pop_append bytes rest (by rw [popped]; intro other same; cases same; simpa using settled)]
    exact judged
  encode frame :=
    match decode frame with
    | .ok (_,n) => if n = frame.length then some frame else none
    | .error _ => none
  decodes frame wire encoded := by
    split at encoded
    · rename_i popped n decoded
      split at encoded
      · rename_i whole
        cases encoded
        have front := (decode_ok decoded).2.1
        rw [whole,List.take_length] at front
        rw [decoded,front,whole]
      · cases encoded
    · cases encoded

end StreamFramer

def Adu.sized (adu : Adu) : Adu := {adu with mbap.length := UInt16.ofNat (1 + adu.pdu.length)}

structure Encoded (adu : Adu) (wire : List UInt8) : Prop where
  some : 0 < adu.pdu.length
  fits : adu.pdu.length ≤ maxPduSize
  modbus : adu.mbap.protocolId = protocolId
  bytes : wire = putU16Be adu.mbap.transactionId ++ putU16Be protocolId ++ putU16Be (UInt16.ofNat (1 + adu.pdu.length)) ++
    [adu.mbap.unitId] ++ adu.pdu

theorem encode_exact : encodeAdu adu = .ok wire ↔ Encoded adu wire := by
  unfold encodeAdu
  constructor
  · intro encoded
    split at encoded
    · cases encoded
    rename_i filled
    split at encoded
    · cases encoded
    rename_i fits
    split at encoded
    · cases encoded
    rename_i modbus
    have modbus := not_not.mp modbus
    rw [modbus] at encoded
    cases encoded
    exact ⟨List.length_pos_iff.mpr filled,by omega,modbus,rfl⟩
  · rintro ⟨filled,fits,modbus,rfl⟩
    rw [if_neg (List.length_pos_iff.mp filled),if_neg (Nat.not_lt.mpr fits),if_neg (not_not_intro modbus),modbus]

def aduWire (adu : Adu) : List UInt8 :=
  match encodeAdu adu with
  | .ok wire => wire
  | .error _ => []

theorem wire_encoded (encodes : encodeAdu adu = .ok wire) : Encoded adu (aduWire adu) := by
  rw [aduWire,encodes]
  exact encode_exact.mp encodes

namespace Encoded

theorem length (e : Encoded adu wire) : wire.length = 7 + adu.pdu.length := by
  rw [e.bytes]
  simp
  omega

theorem pid (e : Encoded adu wire) : pidOf wire = protocolId := by
  rw [e.bytes]
  exact word_bytes protocolId

theorem field (e : Encoded adu wire) : lengthOf wire = UInt16.ofNat (1 + adu.pdu.length) := by
  rw [e.bytes]
  exact word_bytes _

theorem announced (e : Encoded adu wire) : (lengthOf wire).toNat = 1 + adu.pdu.length := by
  have fits : adu.pdu.length ≤ 253 := e.fits
  rw [e.field,UInt16.toNat_ofNat']
  omega

theorem long (e : Encoded adu wire) : ¬ lengthOf wire < 2 := by
  have filled := e.some
  rw [UInt16.lt_iff_toNat_lt,e.announced]
  exact Nat.not_lt.mpr (show 2 ≤ _ by omega)

theorem small (e : Encoded adu wire) : ¬ maxAduSize < 6 + (1 + adu.pdu.length) := by
  have fits : adu.pdu.length ≤ 253 := e.fits
  rw [maxAduSize]
  omega

theorem frame (e : Encoded adu wire) : StreamFramer.codec.encode wire = Option.some wire := by
  have length := e.length
  have popped : StreamFramer.tryPopAdu ⟨wire⟩ = (⟨wire.drop wire.length⟩,.ok (wire.take wire.length)) := by
    rw [StreamFramer.pop_header ⟨wire⟩ (show 7 ≤ wire.length by omega)]
    dsimp only
    rw [if_neg (not_not_intro e.pid),if_neg e.long,e.announced,if_neg e.small,if_neg (by omega),length,
      show 6 + (1 + adu.pdu.length) = 7 + adu.pdu.length by omega]
  have decoded : StreamFramer.decode wire = .ok (wire,wire.length) := by
    rw [StreamFramer.decode,popped,List.take_length]
    rfl
  simp [StreamFramer.codec,decoded]

theorem decodes (e : Encoded adu wire) : decodeAdu wire = .ok adu.sized := by
  have length := e.length
  have tid : wordBe (byteAt wire 0) (byteAt wire 1) = adu.mbap.transactionId := by
    rw [e.bytes]
    exact word_bytes _
  have unit : byteAt wire 6 = adu.mbap.unitId := by
    rw [e.bytes]
    rfl
  have pdu : (wire.drop mbapSize).take ((lengthOf wire).toNat - 1) = adu.pdu := by
    have body : wire.drop mbapSize = adu.pdu := by
      rw [e.bytes]
      rfl
    rw [body,e.announced,show 1 + adu.pdu.length - 1 = adu.pdu.length by omega,List.take_length]
  rw [decode_header wire (show 7 ≤ wire.length by omega),pdu,if_neg (not_not_intro e.pid),if_neg e.long,e.announced,
    if_neg e.small,if_neg (by omega),if_neg (by omega),if_neg (List.length_pos_iff.mp e.some),tid,unit,e.field,e.pid,
    ← e.modbus]
  rfl

end Encoded

end RobotControlRuntime.Mbus
