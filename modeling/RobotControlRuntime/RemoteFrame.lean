import RobotControlRuntime.FrameFormat

namespace RobotControlRuntime
open FrameStream FrameStream.Decoder FrameStream.Codec

inductive RemoteMessageType where
  | hello | helloAck | heartbeat | heartbeatAck | getStatus | status | error
  | other (byte : UInt8) (unlisted : byte = 0 ∨ 7 < byte)
  deriving DecidableEq, Repr

namespace RemoteMessageType

def raw : RemoteMessageType → UInt8
  | .hello => 1
  | .helloAck => 2
  | .heartbeat => 3
  | .heartbeatAck => 4
  | .getStatus => 5
  | .status => 6
  | .error => 7
  | .other byte _ => byte

def ofRaw (byte : UInt8) : RemoteMessageType :=
  if unlisted : byte = 0 ∨ 7 < byte then .other byte unlisted
  else if byte = 1 then .hello
  else if byte = 2 then .helloAck
  else if byte = 3 then .heartbeat
  else if byte = 4 then .heartbeatAck
  else if byte = 5 then .getStatus
  else if byte = 6 then .status
  else .error

theorem ofRaw_raw (type : RemoteMessageType) : ofRaw type.raw = type := by
  cases type with
  | other byte unlisted => exact dif_pos unlisted
  | _ => rfl

end RemoteMessageType

structure RemoteFrame where
  version : UInt8 := 1
  type : RemoteMessageType := .error
  flags : UInt8 := 0
  sequence : UInt16 := 0
  payload : List UInt8 := []
  deriving DecidableEq, Repr

inductive RemoteFrameParseStatus where
  | needMore
  | ok (frame : RemoteFrame)
  | invalidMagic | unsupportedVersion | oversizePayload | badCrc | bufferOverflow
  deriving DecidableEq, Repr

def RemoteFrameParseStatus.toText : RemoteFrameParseStatus → String
  | .needMore => "NEED_MORE"
  | .ok _ => "OK"
  | .invalidMagic => "INVALID_MAGIC"
  | .unsupportedVersion => "UNSUPPORTED_VERSION"
  | .oversizePayload => "OVERSIZE_PAYLOAD"
  | .badCrc => "BAD_CRC"
  | .bufferOverflow => "BUFFER_OVERFLOW"

def remoteCrc16 (data : List UInt8) : UInt16 := modbusRtuCrc16 data

namespace RemoteFrame

def magic : UInt32 := 0x42524352
def protocolVersion : UInt8 := 1
def headerSize : Nat := 12
def crcSize : Nat := 2
def maxPayloadSize : Nat := 512
def maxFrameSize : Nat := headerSize + maxPayloadSize + crcSize
def rxBufferCapacity : Nat := maxFrameSize * 2

def unsealed (frame : RemoteFrame) : List UInt8 :=
  u32Le magic ++ [frame.version,frame.type.raw,frame.flags,0] ++ u16Le frame.sequence ++
    u16Le (UInt16.ofNat frame.payload.length) ++ frame.payload

def encode (frame : RemoteFrame) : Option (List UInt8) :=
  if maxPayloadSize < frame.payload.length then none
  else if frame.version ≠ protocolVersion then none
  else some (frame.unsealed ++ u16Le (remoteCrc16 frame.unsealed))

end RemoteFrame

def remoteWire (frame : RemoteFrame) : List UInt8 := frame.encode.getD []

structure RemoteFrameParser where
  buffer : List UInt8 := []
  deriving DecidableEq, Repr

namespace RemoteFrameParser
open RemoteFrame

def append (p : RemoteFrameParser) (bytes : List UInt8) : RemoteFrameParser × RemoteFrameParseStatus :=
  if bytes = [] then (p,.needMore)
  else if rxBufferCapacity < p.buffer.length + bytes.length then ({},.bufferOverflow)
  else (⟨p.buffer ++ bytes⟩,.needMore)

def judge (bytes : List UInt8) : RemoteFrameParseStatus × Nat :=
  if bytes.length < headerSize then (.needMore,0)
  -- One bad byte is dropped at a time.
  else if readU32Le bytes ≠ magic then (.invalidMagic,1)
  else if byteAt bytes 4 ≠ protocolVersion then (.unsupportedVersion,headerSize)
  else
    let payloadLen := FrameFormat.payloadSize bytes
    if maxPayloadSize < payloadLen then (.oversizePayload,headerSize)
    else
      let frameLen := headerSize + payloadLen + crcSize
      if bytes.length < frameLen then (.needMore,0)
      else if remoteCrc16 (bytes.take (headerSize + payloadLen)) ≠ readU16Le (bytes.drop (headerSize + payloadLen)) then
        (.badCrc,frameLen)
      else
        (.ok ⟨byteAt bytes 4,.ofRaw (byteAt bytes 5),byteAt bytes 6,readU16Le (bytes.drop 8),
          (bytes.take (headerSize + payloadLen)).drop headerSize⟩,frameLen)

def tryPop (p : RemoteFrameParser) : RemoteFrameParser × RemoteFrameParseStatus :=
  (⟨p.buffer.drop (judge p.buffer).2⟩,(judge p.buffer).1)

-- Popping until NeedMore. Every other pop erases at least one byte, so the length
-- of the buffer is fuel enough.
def popAll : Nat → RemoteFrameParser → RemoteFrameParser × List RemoteFrameParseStatus
  | 0,p => (p,[])
  | fuel + 1,p =>
    match p.tryPop with
    | (next,.needMore) => (next,[])
    | (next,status) => ((popAll fuel next).1,status :: (popAll fuel next).2)

-- Feeding chunk by chunk; every result of append and try_pop other than NeedMore is kept.
def feed (p : RemoteFrameParser) : List (List UInt8) → RemoteFrameParser × List RemoteFrameParseStatus
  | [] => (p,[])
  | chunk :: rest =>
    let (held,appended) := p.append chunk
    let (next,popped) := popAll held.buffer.length held
    let (last,more) := feed next rest
    (last,(if appended = .needMore then [] else [appended]) ++ popped ++ more)

-- How a buffer is judged: it waits for the length its header announces, or a result
-- is settled by the bytes that are taken off with it.
inductive Judged (bytes : List UInt8) : RemoteFrameParseStatus × Nat → Prop where
  | waits (short : bytes.length < maxFrameSize) : Judged bytes (.needMore,0)
  | settled (popped : status ≠ .needMore) (taken : 0 < n) (inside : n ≤ bytes.length)
      (stable : ∀ rest, judge (bytes ++ rest) = (status,n)) : Judged bytes (status,n)

theorem judge_header (bytes rest : List UInt8) (inside : headerSize ≤ bytes.length) :
    judge (bytes ++ rest) =
      if readU32Le bytes ≠ magic then (.invalidMagic,1)
      else if byteAt bytes 4 ≠ protocolVersion then (.unsupportedVersion,headerSize)
      else if maxPayloadSize < FrameFormat.payloadSize bytes then (.oversizePayload,headerSize)
      else if (bytes ++ rest).length < headerSize + FrameFormat.payloadSize bytes + crcSize then (.needMore,0)
      else if remoteCrc16 ((bytes ++ rest).take (headerSize + FrameFormat.payloadSize bytes)) ≠
          readU16Le ((bytes ++ rest).drop (headerSize + FrameFormat.payloadSize bytes)) then
        (.badCrc,headerSize + FrameFormat.payloadSize bytes + crcSize)
      else
        (.ok ⟨byteAt bytes 4,.ofRaw (byteAt bytes 5),byteAt bytes 6,readU16Le (bytes.drop 8),
          ((bytes ++ rest).take (headerSize + FrameFormat.payloadSize bytes)).drop headerSize⟩,
          headerSize + FrameFormat.payloadSize bytes + crcSize) := by
  have enough : 12 ≤ bytes.length := inside
  have longer : ¬ (bytes ++ rest).length < headerSize := by
    rw [List.length_append]
    omega
  unfold judge
  rw [if_neg longer,readU32_append bytes rest (by omega),byteAt_append bytes rest (by omega),
    byteAt_append bytes rest (by omega),byteAt_append bytes rest (by omega),FrameFormat.size_append bytes rest inside,
    List.drop_append_of_le_length (by omega : 8 ≤ bytes.length),readU16_append (bytes.drop 8) rest (by simp; omega)]

theorem judge_exact (bytes : List UInt8) : Judged bytes (judge bytes) := by
  by_cases short : bytes.length < headerSize
  · rw [judge,if_pos short]
    exact .waits (by simp only [maxFrameSize]; omega)
  have inside : headerSize ≤ bytes.length := Nat.not_lt.mp short
  have positive : 0 < headerSize := by decide
  have header (rest : List UInt8) := judge_header bytes rest inside
  have here := header []
  rw [List.append_nil] at here
  by_cases wrong : readU32Le bytes ≠ magic
  · rw [here,if_pos wrong]
    exact .settled (by simp) (by decide) (by omega) fun rest => by rw [header,if_pos wrong]
  by_cases version : byteAt bytes 4 ≠ protocolVersion
  · rw [here,if_neg wrong,if_pos version]
    exact .settled (by simp) positive inside fun rest => by rw [header,if_neg wrong,if_pos version]
  by_cases large : maxPayloadSize < FrameFormat.payloadSize bytes
  · rw [here,if_neg wrong,if_neg version,if_pos large]
    exact .settled (by simp) positive inside fun rest => by rw [header,if_neg wrong,if_neg version,if_pos large]
  by_cases incomplete : bytes.length < headerSize + FrameFormat.payloadSize bytes + crcSize
  · rw [here,if_neg wrong,if_neg version,if_neg large,if_pos incomplete]
    exact .waits (by simp only [maxFrameSize]; omega)
  have complete (rest : List UInt8) : ¬ (bytes ++ rest).length < headerSize + FrameFormat.payloadSize bytes + crcSize := by
    rw [List.length_append]
    omega
  have whole (rest : List UInt8) : (bytes ++ rest).take (headerSize + FrameFormat.payloadSize bytes) =
      bytes.take (headerSize + FrameFormat.payloadSize bytes) := List.take_append_of_le_length (by omega)
  have tail (rest : List UInt8) : readU16Le ((bytes ++ rest).drop (headerSize + FrameFormat.payloadSize bytes)) =
      readU16Le (bytes.drop (headerSize + FrameFormat.payloadSize bytes)) := by
    simp only [crcSize] at incomplete
    rw [List.drop_append_of_le_length (by omega),readU16_append _ _ (by rw [List.length_drop]; omega)]
  by_cases crc : remoteCrc16 (bytes.take (headerSize + FrameFormat.payloadSize bytes)) ≠
      readU16Le (bytes.drop (headerSize + FrameFormat.payloadSize bytes))
  · rw [here,if_neg wrong,if_neg version,if_neg large,if_neg incomplete,if_pos crc]
    refine .settled (by simp) (by omega) (by omega) fun rest => ?_
    rw [header,if_neg wrong,if_neg version,if_neg large,if_neg (complete rest),whole,tail,if_pos crc]
  · rw [here,if_neg wrong,if_neg version,if_neg large,if_neg incomplete,if_neg crc]
    refine .settled (by simp) (by omega) (by omega) fun rest => ?_
    rw [header,if_neg wrong,if_neg version,if_neg large,if_neg (complete rest),whole,tail,if_neg crc]

theorem unsealed_length (frame : RemoteFrame) : frame.unsealed.length = headerSize + frame.payload.length := by
  simp [unsealed,headerSize]
  omega

theorem judge_encoded (encoded : frame.encode = some wire) : judge wire = (.ok frame,wire.length) := by
  unfold RemoteFrame.encode at encoded
  split at encoded
  · cases encoded
  rename_i fits
  split at encoded
  · cases encoded
  rename_i current
  cases encoded
  have length : frame.unsealed.length = headerSize + frame.payload.length := unsealed_length frame
  generalize sealing : remoteCrc16 frame.unsealed = crc
  have size : FrameFormat.payloadSize frame.unsealed = frame.payload.length := by
    have field : FrameFormat.payloadSize frame.unsealed =
        (readU16Le (u16Le (UInt16.ofNat frame.payload.length))).toNat := rfl
    rw [field,readU16_bytes,UInt16.toNat_ofNat']
    simp only [maxPayloadSize] at fits
    omega
  have magic : readU32Le frame.unsealed = magic := readU32_bytes magic
  have version : byteAt frame.unsealed 4 = protocolVersion := not_not.mp current
  have type : RemoteMessageType.ofRaw (byteAt frame.unsealed 5) = frame.type := RemoteMessageType.ofRaw_raw frame.type
  have sequence : readU16Le (frame.unsealed.drop 8) = frame.sequence := readU16_bytes frame.sequence
  have payload : frame.unsealed.drop headerSize = frame.payload := rfl
  have total : (frame.unsealed ++ u16Le crc).length = headerSize + frame.payload.length + crcSize := by
    rw [List.length_append,length]
    rfl
  rw [judge_header _ _ (by omega),size,if_neg (not_not_intro magic),if_neg (not_not_intro version),if_neg fits,
    if_neg (by omega),← length,List.take_left,List.drop_left,readU16_bytes,if_neg (not_not_intro sealing),type,sequence,
    payload,version,length,total,← not_not.mp current]
  rfl

def decode (bytes : List UInt8) : Except Unit (RemoteFrameParseStatus × Nat) :=
  if (judge bytes).1 = .needMore then .error () else .ok (judge bytes)

theorem decode_settled (decoded : decode bytes = .ok (status,n)) : 0 < n ∧ n ≤ bytes.length ∧
    status ≠ .needMore ∧ ∀ rest, judge (bytes ++ rest) = (status,n) := by
  unfold decode at decoded
  split at decoded
  · cases decoded
  rename_i popped
  have judged := judge_exact bytes
  generalize judge bytes = outcome at decoded popped judged
  cases decoded
  cases judged with
  | waits => exact absurd rfl popped
  | settled _ taken inside stable => exact ⟨taken,inside,popped,stable⟩

theorem decode_waits (waits : decode bytes = .error reason) : judge bytes = (.needMore,0) ∧ bytes.length < maxFrameSize := by
  unfold decode at waits
  split at waits
  · rename_i short
    have judged := judge_exact bytes
    generalize judge bytes = outcome at short judged
    cases judged with
    | waits small => exact ⟨rfl,small⟩
    | settled popped => exact absurd short popped
  · cases waits

theorem decode_framed (bytes rest : List UInt8) (status : RemoteFrameParseStatus) (n : Nat)
    (decoded : decode bytes = .ok (status,n)) : decode (bytes ++ rest) = .ok (status,n) := by
  obtain ⟨_,_,popped,stable⟩ := decode_settled decoded
  rw [decode,stable rest]
  exact if_neg popped

def codec : Codec UInt8 RemoteFrameParseStatus Unit where
  decode := decode
  waits _ := true
  empty := ⟨(),rfl,rfl⟩
  consumed _ _ _ decoded := ⟨(decode_settled decoded).1,(decode_settled decoded).2.1⟩
  framed := decode_framed
  refused _ _ _ _ refuses := nomatch refuses
  encode
    | .ok frame => frame.encode
    | _ => none
  decodes status wire encoded := by
    cases status with
    | ok frame =>
        rw [decode,judge_encoded encoded]
        rfl
    | _ => cases encoded

theorem popAll_drains (drains : codec.Drains bytes results rest) (room : bytes.length ≤ fuel) :
    popAll fuel ⟨bytes⟩ = (⟨rest⟩,results) := by
  induction drains generalizing fuel with
  | @rest bytes waits =>
      obtain ⟨reason,waiting,_⟩ := waits
      have judged := (decode_waits waiting).1
      cases fuel with
      | zero => rfl
      | succ fuel => simp only [popAll,tryPop,judged,List.drop_zero]
  | @frame bytes status n results rest decoded onward ih =>
      obtain ⟨taken,inside,popped,stable⟩ := decode_settled decoded
      have judged := stable []
      rw [List.append_nil] at judged
      obtain ⟨fuel,rfl⟩ : ∃ less, fuel = less + 1 := ⟨fuel - 1,by omega⟩
      have later : popAll fuel ⟨bytes.drop n⟩ = (⟨rest⟩,results) := ih (by rw [List.length_drop]; omega)
      simp only [popAll,tryPop,judged]
      rw [later]

theorem feed_fed (fed : codec.Fed held chunks results rest) (waits : codec.Waits held)
    (sized : ∀ chunk ∈ chunks, chunk.length ≤ maxFrameSize) : feed ⟨held⟩ chunks = (⟨rest⟩,results) := by
  induction fed with
  | nil => rfl
  | @cons held chunk values middle chunks more rest drains _ ih =>
      simp only [List.forall_mem_cons] at sized
      obtain ⟨reason,waiting,_⟩ := waits
      have short := (decode_waits waiting).2
      have appended : append ⟨held⟩ chunk = (⟨held ++ chunk⟩,.needMore) := by
        unfold append
        by_cases empty : chunk = []
        · rw [if_pos empty,empty,List.append_nil]
        · have room : ¬ rxBufferCapacity < held.length + chunk.length := by
            simp only [rxBufferCapacity]
            omega
          rw [if_neg empty,if_neg room]
      simp only [feed,appended,popAll_drains drains (Nat.le_refl _),ih (drains_waits drains) sized.2,if_true,List.nil_append]

theorem feed_drains (chunks : List (List UInt8)) (sized : ∀ chunk ∈ chunks, chunk.length ≤ maxFrameSize) :
    ∃ results rest, codec.Drains chunks.flatten results rest ∧ feed {} chunks = (⟨rest⟩,results) := by
  obtain ⟨results,rest,fed⟩ := fed_total (d := codec.toDecoder) (fun _ _ _ => rfl) [] chunks
  exact ⟨results,rest,fed_drains (.rest codec.empty) fed,feed_fed fed codec.empty sized⟩

theorem judge_overflow (bytes : List UInt8) : (judge bytes).1 ≠ .bufferOverflow := by
  unfold judge
  dsimp only
  repeat' split
  all_goals simp

theorem drains_overflow (drains : codec.Drains bytes results rest) : .bufferOverflow ∉ results := by
  induction drains with
  | rest _ => exact List.not_mem_nil
  | @frame bytes status n results rest decoded _ ih =>
      have judged := (decode_settled decoded).2.2.2 []
      rw [List.append_nil] at judged
      have other := judge_overflow bytes
      rw [judged] at other
      exact fun listed => (List.mem_cons.mp listed).elim (fun same => other same.symm) ih

theorem magic_exact (enough : 4 ≤ bytes.length) : readU32Le bytes = magic ↔ u32Le magic <+: bytes := by
  match bytes,enough with
  | a :: b :: c :: d :: rest,_ =>
    have front : readU32Le (a :: b :: c :: d :: rest) = readU32Le [a,b,c,d] := rfl
    rw [front]
    constructor
    · intro found
      exact ⟨rest,by rw [← found,bytes_readU32]; rfl⟩
    · rintro ⟨more,same⟩
      have pairs : u32Le magic ++ more = [a,b,c,d] ++ rest := same
      have four : u32Le magic = [a,b,c,d] := (List.append_inj pairs rfl).1
      rw [← four,readU32_bytes]

theorem garbage_drains (drains : codec.Drains stream results rest) (long : headerSize ≤ stream.length) (garbage : List UInt8)
    (clean : ∀ i < garbage.length, ¬ u32Le magic <+: (garbage ++ stream).drop i) :
    codec.Drains (garbage ++ stream) (List.replicate garbage.length .invalidMagic ++ results) rest := by
  induction garbage with
  | nil => exact drains
  | cons byte garbage ih =>
      have enough : headerSize ≤ (byte :: garbage ++ stream).length := by
        simp only [List.cons_append,List.length_cons,List.length_append]
        omega
      have wrong : readU32Le (byte :: garbage ++ stream) ≠ magic := by
        rw [ne_eq,magic_exact (by simp only [headerSize] at enough; omega)]
        exact clean 0 (by simp)
      have judged := judge_header (byte :: garbage ++ stream) [] enough
      rw [List.append_nil,if_pos wrong] at judged
      have dropped : codec.decode (byte :: garbage ++ stream) = .ok (.invalidMagic,1) := by
        show decode _ = _
        rw [decode,judged]
        rfl
      exact .frame dropped (ih fun i inside => clean (i + 1) (by simpa using inside))

theorem frames_encode (frames : List RemoteFrame) (encodable : ∀ frame ∈ frames, frame.encode.isSome) :
    codec.Encodes (frames.map .ok) (frames.flatMap remoteWire) := by
  induction frames with
  | nil => exact .nil
  | cons frame rest ih =>
      simp only [List.forall_mem_cons] at encodable
      obtain ⟨bytes,encoded⟩ := Option.isSome_iff_exists.mp encodable.1
      have whole : remoteWire frame = bytes := by rw [remoteWire,encoded]; rfl
      rw [List.map_cons,List.flatMap_cons,whole]
      exact .cons encoded (ih encodable.2)

theorem wire_length (encodable : frame.encode.isSome) : headerSize ≤ (remoteWire frame).length := by
  obtain ⟨bytes,encoded⟩ := Option.isSome_iff_exists.mp encodable
  rw [remoteWire,encoded,Option.getD_some]
  unfold RemoteFrame.encode at encoded
  split at encoded
  · cases encoded
  split at encoded
  · cases encoded
  cases encoded
  rw [List.length_append,unsealed_length]
  omega

theorem stream_resynchronises :
    (∀ one two : List (List UInt8), (∀ chunk ∈ one, chunk.length ≤ 526) → (∀ chunk ∈ two, chunk.length ≤ 526) →
      one.flatten = two.flatten → .bufferOverflow ∉ (feed {} one).2 ∧ feed {} one = feed {} two) ∧
    ∀ (garbage : List UInt8) (frames : List RemoteFrame) (chunks : List (List UInt8)),
      (∀ chunk ∈ chunks, chunk.length ≤ 526) → frames ≠ [] → (∀ frame ∈ frames, frame.encode.isSome) →
      chunks.flatten = garbage ++ frames.flatMap remoteWire →
      (∀ i < garbage.length, ¬ u32Le magic <+: chunks.flatten.drop i) →
      feed {} chunks = ({},List.replicate garbage.length .invalidMagic ++ frames.map .ok) := by
  constructor
  · intro one two sizedOne sizedTwo same
    obtain ⟨results,rest,drains,fed⟩ := feed_drains one sizedOne
    obtain ⟨results',rest',drains',fed'⟩ := feed_drains two sizedTwo
    rw [same] at drains
    obtain ⟨rfl,rfl⟩ := drains_unique drains' drains
    rw [fed,fed']
    exact ⟨drains_overflow drains,rfl⟩
  · intro garbage frames chunks sized some encodable cut clean
    obtain ⟨results,rest,drains,fed⟩ := feed_drains chunks sized
    rw [cut] at drains clean
    have long : headerSize ≤ (frames.flatMap remoteWire).length := by
      obtain ⟨first,later,rfl⟩ := List.exists_cons_of_ne_nil some
      have enough := wire_length (encodable first (List.mem_cons_self ..))
      rw [List.flatMap_cons,List.length_append]
      omega
    have resynced := garbage_drains (encodes_drains (frames_encode frames encodable)) long garbage clean
    obtain ⟨rfl,rfl⟩ := drains_unique resynced drains
    exact fed

def strayHello : List UInt8 := [0x52,0x00] ++ remoteWire {type := .hello,sequence := 7}

theorem stream_resynchronises_strayHello :
    feed {} [strayHello.take 5,strayHello.drop 5] =
      ({},[.invalidMagic,.invalidMagic,.ok {type := .hello,sequence := 7}]) :=
  stream_resynchronises.2 [0x52,0x00] [{type := .hello,sequence := 7}] _ (by decide) (by decide) (by decide) (by simp [strayHello])
    (by decide)

end RemoteFrameParser

end RobotControlRuntime
