import Mathlib.Algebra.Group.Nat.Defs
import RobotControlRuntime.ModbusRtu
import RobotControlRuntime.Library.FrameStream

namespace RobotControlRuntime
open FrameStream

-- What append_u16_le, append_u32_le and append_u64_le append. The CEL1 source
-- appends a 32-bit word as two 16-bit ones: the same four bytes.
def u16Le (value : UInt16) : List UInt8 := [(value &&& 0xFF).toUInt8,(value >>> 8 &&& 0xFF).toUInt8]

def u32Le (value : UInt32) : List UInt8 :=
  [(value &&& 0xFF).toUInt8,(value >>> 8 &&& 0xFF).toUInt8,(value >>> 16 &&& 0xFF).toUInt8,
    (value >>> 24 &&& 0xFF).toUInt8]

def u64Le (value : UInt64) : List UInt8 := (List.range 8).map fun i => (value >>> UInt64.ofNat (8 * i) &&& 0xFF).toUInt8

def flagByte (flag : Bool) : UInt8 := if flag then 1 else 0

def readU16Le (p : List UInt8) : UInt16 := (byteAt p 0).toUInt16 ||| ((byteAt p 1).toUInt16 <<< 8)

def readU32Le (p : List UInt8) : UInt32 :=
  (byteAt p 0).toUInt32 ||| ((byteAt p 1).toUInt32 <<< 8) ||| ((byteAt p 2).toUInt32 <<< 16) |||
    ((byteAt p 3).toUInt32 <<< 24)

def readU64Le (p : List UInt8) : UInt64 :=
  (List.range 8).foldl (fun value i => value ||| ((byteAt p i).toUInt64 <<< UInt64.ofNat (8 * i))) 0

@[simp] theorem u16_length (value : UInt16) : (u16Le value).length = 2 := rfl
@[simp] theorem u32_length (value : UInt32) : (u32Le value).length = 4 := rfl
@[simp] theorem u64_length (value : UInt64) : (u64Le value).length = 8 := by simp [u64Le]

theorem padded_exact {fields : List UInt8} {size : Nat} (count : fields.length = n) (fits : n ≤ size) :
    (let out := fields ++ List.replicate (size - fields.length) 0
      if out.length = size then some out else none) = some (fields ++ List.replicate (size - n) 0) ∧
      (fields ++ List.replicate (size - n) 0).length = size := by
  have length : (fields ++ List.replicate (size - n) 0).length = size := by
    rw [List.length_append,List.length_replicate,count]
    omega
  refine ⟨?_,length⟩
  rw [count]
  exact if_pos length

theorem byteAt_append (front : List UInt8) (rest : List UInt8) (inside : i < front.length) :
    byteAt (front ++ rest) i = byteAt front i := by
  simp [byteAt,List.getD_eq_getElem?_getD,List.getElem?_append_left inside]

theorem readU16_append (p rest : List UInt8) (inside : 2 ≤ p.length) : readU16Le (p ++ rest) = readU16Le p := by
  rw [readU16Le,byteAt_append p rest (by omega),byteAt_append p rest (by omega),readU16Le]

theorem readU32_append (p rest : List UInt8) (inside : 4 ≤ p.length) : readU32Le (p ++ rest) = readU32Le p := by
  rw [readU32Le,byteAt_append p rest (by omega),byteAt_append p rest (by omega),byteAt_append p rest (by omega),
    byteAt_append p rest (by omega),readU32Le]

theorem place_value (low : UInt32) (high : UInt8) (shift : Nat) (fits : low.toNat < 2 ^ shift) (room : shift + 8 ≤ 32) :
    (low ||| (high.toUInt32 <<< UInt32.ofNat shift)).toNat = low.toNat + high.toNat * 2 ^ shift := by
  have bound := high.toNat_lt
  have grows : high.toNat * 2 ^ shift < 2 ^ 32 := by
    calc high.toNat * 2 ^ shift < 2 ^ 8 * 2 ^ shift := Nat.mul_lt_mul_of_pos_right bound (Nat.two_pow_pos _)
      _ = 2 ^ (8 + shift) := (Nat.pow_add ..).symm
      _ ≤ 2 ^ 32 := Nat.pow_le_pow_right (by decide) (by omega)
  have small : shift % 2 ^ 32 % 32 = shift := by omega
  rw [UInt32.toNat_or,UInt32.toNat_shiftLeft,UInt8.toNat_toUInt32,UInt32.toNat_ofNat',small,Nat.shiftLeft_eq,
    Nat.mod_eq_of_lt grows,Nat.or_comm,← Nat.shiftLeft_eq,← Nat.shiftLeft_add_eq_or_of_lt fits,Nat.add_comm,
    Nat.shiftLeft_eq]

theorem readU32_value (a b c d : UInt8) : (readU32Le [a,b,c,d]).toNat =
    a.toNat + b.toNat * 2 ^ 8 + c.toNat * 2 ^ 16 + d.toNat * 2 ^ 24 := by
  have ha := a.toNat_lt
  have hb := b.toNat_lt
  have hc := c.toNat_lt
  have one := place_value a.toUInt32 b 8 (by simp; omega) (by decide)
  have two := place_value (a.toUInt32 ||| b.toUInt32 <<< UInt32.ofNat 8) c 16 (by rw [one]; simp; omega) (by decide)
  have three := place_value (a.toUInt32 ||| b.toUInt32 <<< UInt32.ofNat 8 ||| c.toUInt32 <<< UInt32.ofNat 16) d 24
    (by rw [two,one]; simp; omega) (by decide)
  rw [two,one,UInt8.toNat_toUInt32] at three
  exact three

theorem byte_value (value : UInt32) (shift : Nat) (room : shift < 32) :
    (value >>> UInt32.ofNat shift &&& 0xFF).toUInt8.toNat = value.toNat / 2 ^ shift % 256 := by
  have small : shift % 2 ^ 32 % 32 = shift := by omega
  rw [UInt32.toNat_toUInt8,UInt32.toNat_and,UInt32.toNat_shiftRight,UInt32.toNat_ofNat',small,Nat.shiftRight_eq_div_pow]
  have mask := Nat.and_two_pow_sub_one_eq_mod (value.toNat / 2 ^ shift) 8
  rw [show (0xFF : UInt32).toNat = 2 ^ 8 - 1 from rfl,mask]
  simp

theorem readU32_bytes (value : UInt32) : readU32Le (u32Le value) = value := by
  have bound := value.toNat_lt
  have zero := byte_value value 0 (by decide)
  have one := byte_value value 8 (by decide)
  have two := byte_value value 16 (by decide)
  have three := byte_value value 24 (by decide)
  rw [show UInt32.ofNat 0 = 0 from rfl,UInt32.shiftRight_zero] at zero
  apply UInt32.toNat_inj.mp
  rw [u32Le,readU32_value]
  erw [zero,one,two,three]
  omega

theorem bytes_readU32 (a b c d : UInt8) : u32Le (readU32Le [a,b,c,d]) = [a,b,c,d] := by
  have value := readU32_value a b c d
  have ha := a.toNat_lt
  have hb := b.toNat_lt
  have hc := c.toNat_lt
  have hd := d.toNat_lt
  have byte (shift : Nat) (x : UInt8) (room : shift < 32) (place : (readU32Le [a,b,c,d]).toNat / 2 ^ shift % 256 = x.toNat) :
      (readU32Le [a,b,c,d] >>> UInt32.ofNat shift &&& 0xFF).toUInt8 = x :=
    UInt8.toNat_inj.mp ((byte_value _ shift room).trans place)
  have zero := byte 0 a (by decide) (by rw [value]; omega)
  have one := byte 8 b (by decide) (by rw [value]; omega)
  have two := byte 16 c (by decide) (by rw [value]; omega)
  have three := byte 24 d (by decide) (by rw [value]; omega)
  rw [show UInt32.ofNat 0 = 0 from rfl,UInt32.shiftRight_zero] at zero
  rw [u32Le]
  erw [zero,one,two,three]

theorem readU16_value (low high : UInt8) : (readU16Le [low,high]).toNat = low.toNat + high.toNat * 256 := by
  have l := low.toNat_lt
  have h := high.toNat_lt
  have pair : readU16Le [low,high] = low.toUInt16 ||| high.toUInt16 <<< 8 := rfl
  rw [pair,UInt16.toNat_or,UInt16.toNat_shiftLeft,UInt8.toNat_toUInt16,UInt8.toNat_toUInt16,Nat.or_comm]
  rw [Nat.mod_eq_of_lt,← Nat.shiftLeft_add_eq_or_of_lt] <;> simp [Nat.shiftLeft_eq] <;> omega

theorem byte_mask (x : Nat) : x &&& 255 = x % 256 := Nat.and_two_pow_sub_one_eq_mod x 8

theorem low_value (value : UInt16) : (value &&& 0xFF).toUInt8.toNat = value.toNat % 256 := by
  simp [UInt16.toNat_toUInt8,byte_mask]

theorem high_value (value : UInt16) : (value >>> 8 &&& 0xFF).toUInt8.toNat = value.toNat / 256 := by
  have bound := value.toNat_lt
  simp [UInt16.toNat_toUInt8,byte_mask,Nat.shiftRight_eq_div_pow]
  omega

theorem readU16_bytes (value : UInt16) : readU16Le (u16Le value) = value := by
  apply UInt16.toNat_inj.mp
  rw [u16Le,readU16_value,low_value,high_value]
  omega

theorem bytes_readU16 (low high : UInt8) : u16Le (readU16Le [low,high]) = [low,high] := by
  have l := low.toNat_lt
  have lowest : (readU16Le [low,high] &&& 0xFF).toUInt8 = low := by
    apply UInt8.toNat_inj.mp
    rw [low_value,readU16_value]
    omega
  have highest : (readU16Le [low,high] >>> 8 &&& 0xFF).toUInt8 = high := by
    apply UInt8.toNat_inj.mp
    rw [high_value,readU16_value]
    omega
  rw [u16Le,lowest,highest]

-- Both users list the message types 1..9; the other 247 bytes are kept as they are.
def spareType (k : Fin 247) : UInt8 := if k.val = 0 then 0 else UInt8.ofNat (9 + k.val)

def spare (n : Nat) : Fin 247 := Fin.ofNat 247 n

theorem spare_value (k : Fin 247) :
    (spareType k).toNat = 0 ∧ k = spare 0 ∨
      ∃ n, (spareType k).toNat = n + 10 ∧ k = spare (n + 1) := by
  obtain ⟨k,bound⟩ := k
  cases k with
  | zero => exact .inl ⟨rfl,rfl⟩
  | succ n =>
      refine .inr ⟨n,?_,Fin.ext (Nat.mod_eq_of_lt bound).symm⟩
      simp only [spareType,Nat.succ_ne_zero,if_false]
      rw [UInt8.toNat_ofNat',Nat.mod_eq_of_lt (by omega)]
      omega

structure WireFrame (Message : Type) where
  type : Message
  sequence : UInt16 := 0
  payload : List UInt8 := []
  deriving DecidableEq, Repr

-- One frame layout with two users: CEL1 between the engineering station and the
-- cell application, RCRM between it and the Modbus agent. They differ in their
-- magic, their message types and the errors of their decoders.
structure FrameFormat (Message : Type) where
  magic : UInt32
  version : UInt8
  raw : Message → UInt8
  ofRaw : UInt8 → Message
  short : Error
  badMagic : Error
  badVersion : Error
  tooLarge : Error
  incomplete : Error
  badCrc : Error
  ofRaw_raw : ∀ message, ofRaw (raw message) = message
  waiting : short.code = .wouldBlock ∧ incomplete.code = .wouldBlock
  refusing : badMagic.code ≠ .wouldBlock ∧ badVersion.code ≠ .wouldBlock ∧ tooLarge.code ≠ .wouldBlock ∧
    badCrc.code ≠ .wouldBlock

namespace FrameFormat
variable {Message : Type} (format : FrameFormat Message)

def headerSize : Nat := 12
def crcSize : Nat := 2
def maxPayload : Nat := 256

def unsealed (frame : WireFrame Message) : List UInt8 :=
  u32Le format.magic ++ [format.version,format.raw frame.type,0,0] ++ u16Le frame.sequence ++
    u16Le (UInt16.ofNat frame.payload.length) ++ frame.payload

def encode (frame : WireFrame Message) : Option (List UInt8) :=
  if maxPayload < frame.payload.length then none
  else some (format.unsealed frame ++ u16Le (modbusRtuCrc16 (format.unsealed frame)))

def payloadSize (bytes : List UInt8) : Nat := (readU16Le (bytes.drop 10)).toNat

def tryDecode (bytes : List UInt8) : Result (WireFrame Message × Nat) :=
  if bytes.length < headerSize + crcSize then .error format.short
  else if readU32Le bytes ≠ format.magic then .error format.badMagic
  else if byteAt bytes 4 ≠ format.version then .error format.badVersion
  else if maxPayload < payloadSize bytes then .error format.tooLarge
  else
    let total := headerSize + payloadSize bytes + crcSize
    if bytes.length < total then .error format.incomplete
    else if modbusRtuCrc16 (bytes.take (total - crcSize)) ≠ readU16Le (bytes.drop (total - 2)) then
      .error format.badCrc
    else
      .ok (⟨format.ofRaw (byteAt bytes 5),readU16Le (bytes.drop 8),(bytes.take (total - 2)).drop headerSize⟩,total)

theorem size_append (bytes rest : List UInt8) (inside : headerSize ≤ bytes.length) :
    payloadSize (bytes ++ rest) = payloadSize bytes := by
  simp only [headerSize] at inside
  rw [payloadSize,List.drop_append_of_le_length (by omega),readU16_append _ _ (by simp; omega),payloadSize]

variable {format}

theorem decode_append (rest : List UInt8)
    (settled : ∀ error, format.tryDecode bytes = .error error → error.code ≠ .wouldBlock) :
    format.tryDecode (bytes ++ rest) = format.tryDecode bytes := by
  by_cases short : bytes.length < headerSize + crcSize
  · exact absurd format.waiting.1 (settled _ (by rw [tryDecode,if_pos short]))
  have inside : 14 ≤ bytes.length := by simpa [headerSize,crcSize] using short
  have longer : ¬ (bytes ++ rest).length < headerSize + crcSize := by
    rw [List.length_append]
    omega
  unfold tryDecode at settled ⊢
  rw [if_neg short] at settled ⊢
  rw [if_neg longer,readU32_append bytes rest (by omega),byteAt_append bytes rest (by omega),
    byteAt_append bytes rest (by omega),size_append bytes rest (by rw [headerSize]; omega),List.drop_append_of_le_length (by omega),
    readU16_append (bytes.drop 8) rest (by simp; omega)]
  by_cases magic : readU32Le bytes ≠ format.magic
  · rw [if_pos magic,if_pos magic]
  by_cases version : byteAt bytes 4 ≠ format.version
  · rw [if_neg magic,if_neg magic,if_pos version,if_pos version]
  by_cases large : maxPayload < payloadSize bytes
  · rw [if_neg magic,if_neg magic,if_neg version,if_neg version,if_pos large,if_pos large]
  rw [if_neg magic,if_neg version,if_neg large] at settled ⊢
  rw [if_neg magic,if_neg version,if_neg large]
  dsimp only at settled ⊢
  by_cases incomplete : bytes.length < headerSize + payloadSize bytes + crcSize
  · exact absurd format.waiting.2 (settled _ (by rw [if_pos incomplete]))
  have complete : ¬ (bytes ++ rest).length < headerSize + payloadSize bytes + crcSize := by
    rw [List.length_append]
    omega
  have room : headerSize + payloadSize bytes + crcSize - 2 + 2 ≤ bytes.length := by
    simp only [crcSize] at incomplete ⊢
    omega
  rw [if_neg incomplete,if_neg complete,List.take_append_of_le_length (by simp only [crcSize] at room ⊢; omega),
    List.take_append_of_le_length (by omega),List.drop_append_of_le_length (by omega),
    readU16_append _ rest (by rw [List.length_drop]; omega)]

-- What a decoder makes of the bytes it has: it asks for more until the length its
-- header announces is there.
inductive Judged (format : FrameFormat Message) (bytes : List UInt8) : Result (WireFrame Message × Nat) → Prop where
  | waits (missing : bytes.length < headerSize + crcSize ∨
      (payloadSize bytes ≤ maxPayload ∧ bytes.length < headerSize + payloadSize bytes + crcSize)) :
      Judged format bytes (.error error)
  | refused (code : error.code ≠ .wouldBlock) : Judged format bytes (.error error)
  | decoded (whole : headerSize + payloadSize bytes + crcSize ≤ bytes.length)
      (size : frame.payload.length = payloadSize bytes) :
      Judged format bytes (.ok (frame,headerSize + payloadSize bytes + crcSize))

theorem decode_judged (format : FrameFormat Message) (bytes : List UInt8) : format.Judged bytes (format.tryDecode bytes) := by
  obtain ⟨badMagic,badVersion,tooLarge,badCrc⟩ := format.refusing
  unfold tryDecode
  by_cases short : bytes.length < headerSize + crcSize
  · rw [if_pos short]
    exact .waits (.inl short)
  rw [if_neg short]
  by_cases magic : readU32Le bytes ≠ format.magic
  · rw [if_pos magic]
    exact .refused badMagic
  rw [if_neg magic]
  by_cases version : byteAt bytes 4 ≠ format.version
  · rw [if_pos version]
    exact .refused badVersion
  rw [if_neg version]
  by_cases large : maxPayload < payloadSize bytes
  · rw [if_pos large]
    exact .refused tooLarge
  rw [if_neg large]
  dsimp only
  by_cases incomplete : bytes.length < headerSize + payloadSize bytes + crcSize
  · rw [if_pos incomplete]
    exact .waits (.inr ⟨Nat.not_lt.mp large,incomplete⟩)
  rw [if_neg incomplete]
  by_cases crc : modbusRtuCrc16 (bytes.take (headerSize + payloadSize bytes + crcSize - crcSize)) ≠
      readU16Le (bytes.drop (headerSize + payloadSize bytes + crcSize - 2))
  · rw [if_pos crc]
    exact .refused badCrc
  rw [if_neg crc]
  refine .decoded (Nat.not_lt.mp incomplete) ?_
  simp only [List.length_drop,List.length_take,headerSize,crcSize] at incomplete ⊢
  omega

theorem waits_parts (waiting : format.tryDecode bytes = .error error) (code : error.code = .wouldBlock) :
    bytes.length < headerSize + crcSize ∨
      (payloadSize bytes ≤ maxPayload ∧ bytes.length < headerSize + payloadSize bytes + crcSize) := by
  have judged := format.decode_judged bytes
  rw [waiting] at judged
  cases judged with
  | waits missing => exact missing
  | refused wrong => exact absurd code wrong

theorem decode_parts (decoded : format.tryDecode bytes = .ok (frame,n)) :
    n = headerSize + payloadSize bytes + crcSize ∧ n ≤ bytes.length ∧ frame.payload.length = payloadSize bytes := by
  have judged := format.decode_judged bytes
  rw [decoded] at judged
  cases judged with
  | decoded whole size => exact ⟨rfl,whole,size⟩

theorem unsealed_length (frame : WireFrame Message) :
    (format.unsealed frame).length = headerSize + frame.payload.length := by
  simp [unsealed,headerSize]
  omega

theorem encode_fits (frame : WireFrame Message) (fits : frame.payload.length ≤ maxPayload) :
    ∃ wire, format.encode frame = some wire ∧ wire.length = headerSize + frame.payload.length + crcSize := by
  refine ⟨_,if_neg (Nat.not_lt.mpr fits),?_⟩
  rw [List.length_append,unsealed_length]
  rfl

theorem decode_encoded (encoded : format.encode frame = some wire) : format.tryDecode wire = .ok (frame,wire.length) := by
  unfold encode at encoded
  split at encoded
  · cases encoded
  rename_i fits
  cases encoded
  have length : (format.unsealed frame).length = headerSize + frame.payload.length := unsealed_length frame
  generalize sealing : modbusRtuCrc16 (format.unsealed frame) = crc
  have size : payloadSize (format.unsealed frame ++ u16Le crc) = frame.payload.length := by
    have field : payloadSize (format.unsealed frame ++ u16Le crc) =
        (readU16Le (u16Le (UInt16.ofNat frame.payload.length))).toNat := rfl
    rw [field,readU16_bytes,UInt16.toNat_ofNat']
    simp only [maxPayload] at fits
    omega
  have magic : readU32Le (format.unsealed frame ++ u16Le crc) = format.magic := readU32_bytes format.magic
  have sequence : readU16Le ((format.unsealed frame ++ u16Le crc).drop 8) = frame.sequence := readU16_bytes frame.sequence
  have type : format.ofRaw (byteAt (format.unsealed frame ++ u16Le crc) 5) = frame.type := format.ofRaw_raw frame.type
  have tail : readU16Le ((format.unsealed frame ++ u16Le crc).drop (headerSize + frame.payload.length)) = crc := by
    rw [← length,List.drop_left,readU16_bytes]
  have body : ((format.unsealed frame ++ u16Le crc).take (headerSize + frame.payload.length)) = format.unsealed frame := by
    rw [← length,List.take_left]
  have payload : (format.unsealed frame).drop headerSize = frame.payload := rfl
  have total : (format.unsealed frame ++ u16Le crc).length = headerSize + frame.payload.length + crcSize := by
    rw [List.length_append,length]
    rfl
  have enough : ¬ (format.unsealed frame ++ u16Le crc).length < headerSize + crcSize := by omega
  have version : byteAt (format.unsealed frame ++ u16Le crc) 4 = format.version := rfl
  have cut : headerSize + frame.payload.length + crcSize - 2 = headerSize + frame.payload.length := rfl
  have sealed : headerSize + frame.payload.length + crcSize - crcSize = headerSize + frame.payload.length := rfl
  unfold tryDecode
  rw [if_neg enough,size,if_neg (not_not_intro magic),if_neg (not_not_intro version),if_neg fits]
  dsimp only
  rw [if_neg (by omega),cut,sealed,body,tail,if_neg (not_not_intro sealing),type,sequence,payload,total]

variable (format)

theorem decode_empty : ∃ reason, format.tryDecode [] = .error reason ∧ (reason.code == .wouldBlock) = true :=
  ⟨format.short,rfl,by simp [format.waiting.1]⟩

theorem decode_consumed (bytes : List UInt8) (frame : WireFrame Message) (n : Nat)
    (decoded : format.tryDecode bytes = .ok (frame,n)) : 0 < n ∧ n ≤ bytes.length := by
  obtain ⟨total,inside,_⟩ := decode_parts decoded
  simp only [headerSize,crcSize] at total
  omega

theorem decode_framed (bytes rest : List UInt8) (frame : WireFrame Message) (n : Nat)
    (decoded : format.tryDecode bytes = .ok (frame,n)) : format.tryDecode (bytes ++ rest) = .ok (frame,n) := by
  rw [decode_append rest fun error wrong => by cases wrong.symm.trans decoded]
  exact decoded

theorem decode_refused (bytes rest : List UInt8) (error : Error) (judged : format.tryDecode bytes = .error error)
    (settled : (error.code == .wouldBlock) = false) : format.tryDecode (bytes ++ rest) = .error error := by
  rw [decode_append rest fun other same => by cases same.symm.trans judged; simpa using settled]
  exact judged

theorem decode_bounded (bytes : List UInt8) (error : Error) (judged : format.tryDecode bytes = .error error)
    (waiting : (error.code == .wouldBlock) = true) : bytes.length < headerSize + maxPayload + crcSize := by
  rcases waits_parts judged (by simpa using waiting) with short | ⟨small,incomplete⟩
  · omega
  · omega

def codec : Codec UInt8 (WireFrame Message) Error where
  decode := format.tryDecode
  waits error := error.code == .wouldBlock
  empty := format.decode_empty
  consumed := format.decode_consumed
  framed := format.decode_framed
  refused := format.decode_refused
  encode := format.encode
  decodes _ _ := decode_encoded

end FrameFormat

end RobotControlRuntime
