import Mathlib.Data.List.GetD
import RobotControlRuntime.Library.Crc
import RobotControlRuntime.ModbusRtuReplies

-- The byte loop of the source as the bit code, and what the code detects.
namespace RobotControlRuntime
open Crc

def crcPoly : BitVec 16 := 0xA001#16

def byteBits (byte : UInt8) : List Bool := (List.range 8).map byte.toBitVec.getLsbD

def streamBits (bytes : List UInt8) : List Bool := bytes.flatMap byteBits

def bitAt (bytes : List UInt8) (i : Nat) : Bool := (byteAt bytes (i / 8)).toBitVec.getLsbD (i % 8)

section Bits

theorem byteBits_length (byte : UInt8) : (byteBits byte).length = 8 := by simp [byteBits]

theorem byteBits_getD (byte : UInt8) (i : Nat) : (byteBits byte).getD i false = byte.toBitVec.getLsbD i := by
  by_cases inside : i < 8
  · simp [byteBits,inside]
  · simp [byteBits,inside,BitVec.getLsbD_of_ge byte.toBitVec i (by omega)]

theorem streamBits_length (bytes : List UInt8) : (streamBits bytes).length = 8 * bytes.length := by
  induction bytes with
  | nil => rfl
  | cons byte rest ih =>
      have split : streamBits (byte :: rest) = byteBits byte ++ streamBits rest := rfl
      rw [split,List.length_append,ih,byteBits_length,List.length_cons]
      omega

theorem streamBits_getD (bytes : List UInt8) (i : Nat) : (streamBits bytes).getD i false = bitAt bytes i := by
  induction bytes generalizing i with
  | nil => simp [streamBits,bitAt,byteAt]
  | cons byte rest ih =>
      have split : streamBits (byte :: rest) = byteBits byte ++ streamBits rest := rfl
      rw [split]
      by_cases inside : i < 8
      · rw [List.getD_append _ _ _ _ (by rw [byteBits_length]; exact inside),byteBits_getD,bitAt,
          Nat.div_eq_of_lt inside,Nat.mod_eq_of_lt inside]
        rfl
      · obtain ⟨j,rfl⟩ : ∃ j, i = j + 8 := ⟨i - 8,by omega⟩
        rw [List.getD_append_right _ _ _ _ (by rw [byteBits_length]; omega),byteBits_length,Nat.add_sub_cancel,ih,bitAt,
          bitAt,Nat.add_div_right j (by decide),Nat.add_mod_right]
        rfl

theorem bitAt_past (past : 8 * bytes.length ≤ i) : bitAt bytes i = false := by
  rw [← streamBits_getD,List.getD_eq_default]
  rw [streamBits_length]
  exact past

theorem byteBits_inj {one two : UInt8} (same : byteBits one = byteBits two) : one = two := by
  apply UInt8.toBitVec_inj.mp
  apply BitVec.eq_of_getLsbD_eq
  intro i _
  rw [← byteBits_getD,same,byteBits_getD]

theorem streamBits_inj {one two : List UInt8} (same : streamBits one = streamBits two) : one = two := by
  induction one generalizing two with
  | nil =>
      have length := congrArg List.length same
      rw [streamBits_length,streamBits_length,List.length_nil] at length
      exact (List.length_eq_zero_iff.mp (by omega)).symm
  | cons byte rest ih =>
      cases two with
      | nil =>
          have length := congrArg List.length same
          rw [streamBits_length,streamBits_length] at length
          simp at length
      | cons byte' rest' =>
          have lengths : (byteBits byte).length = (byteBits byte').length := by rw [byteBits_length,byteBits_length]
          obtain ⟨first,others⟩ := List.append_inj (show byteBits byte ++ streamBits rest = byteBits byte' ++ streamBits rest'
            from same) lengths
          rw [byteBits_inj first,ih others]

end Bits

section Code

theorem crcBit_shift (crc : UInt16) : (crcBit crc).toBitVec = shift crcPoly crc.toBitVec := by
  have low : crc &&& 1 ≠ 0 ↔ crc.toBitVec.getLsbD 0 = true := by
    have masked : (crc &&& 1).toBitVec = BitVec.setWidth 16 (BitVec.ofBool (crc.toBitVec.getLsbD 0)) := by
      rw [UInt16.toBitVec_and]
      exact BitVec.and_one_eq_setWidth_ofBool_getLsbD
    rw [ne_eq,← UInt16.toBitVec_inj,masked]
    cases crc.toBitVec.getLsbD 0 <;> decide
  unfold crcBit shift
  by_cases set : crc &&& 1 ≠ 0
  · rw [if_pos set,if_pos (low.mp set)]
    simp [crcPoly]
  · rw [if_neg set,if_neg fun bit => set (low.mpr bit)]
    simp

theorem word_byte (byte : UInt8) : word 16 (byteBits byte) = byte.toUInt16.toBitVec := by
  apply BitVec.eq_of_getLsbD_eq
  intro i inside
  rw [word_getLsbD,byteBits_getD]
  simp [inside]

theorem crcByte_feed (crc : UInt16) (byte : UInt8) :
    (crcByte crc byte).toBitVec = feed crcPoly crc.toBitVec (byteBits byte) := by
  have semiconj : Function.Semiconj UInt16.toBitVec crcBit (shift crcPoly) := crcBit_shift
  have shifted : (crcBit^[8] (crc ^^^ byte.toUInt16)).toBitVec =
      (shift crcPoly)^[8] (crc ^^^ byte.toUInt16).toBitVec := semiconj.iterate_right 8 _
  rw [feed_word _ (by rw [byteBits_length]; decide),byteBits_length,word_byte]
  exact shifted

theorem crc_feed (data : List UInt8) (crc : UInt16) :
    (data.foldl crcByte crc).toBitVec = feed crcPoly crc.toBitVec (streamBits data) := by
  induction data generalizing crc with
  | nil => rfl
  | cons byte rest ih =>
      have split : streamBits (byte :: rest) = byteBits byte ++ streamBits rest := rfl
      rw [List.foldl_cons,ih,crcByte_feed,split,feed_append]

theorem word_crc (crc : UInt16) : word 16 (streamBits (u16Le crc)) = crc.toBitVec := by
  have octet : ∀ i (inside : i < 8), (255#8)[i] = true := by decide
  apply BitVec.eq_of_getLsbD_eq
  intro i inside
  rw [word_getLsbD,streamBits_getD,bitAt]
  by_cases low : i < 8
  · have byte : byteAt (u16Le crc) 0 = (crc &&& 0xFF).toUInt8 := rfl
    rw [Nat.div_eq_of_lt low,Nat.mod_eq_of_lt low,byte]
    simp [inside,low,octet i low]
  · obtain ⟨j,rfl⟩ : ∃ j, i = j + 8 := ⟨i - 8,by omega⟩
    have below : j < 8 := by omega
    have byte : byteAt (u16Le crc) 1 = (crc >>> 8 &&& 0xFF).toUInt8 := rfl
    rw [Nat.add_div_right j (by decide),Nat.div_eq_of_lt below,Nat.add_mod_right,Nat.mod_eq_of_lt below,byte]
    simp [inside,below,octet j below,Nat.add_comm 8 j]

theorem sealed_residue (body : List UInt8) : feed crcPoly 0xFFFF#16 (streamBits (ModbusRtu.sealed body)) = 0#16 := by
  have split : streamBits (ModbusRtu.sealed body) = streamBits body ++ streamBits (u16Le (modbusRtuCrc16 body)) := by
    simp [streamBits,ModbusRtu.sealed,u16Le]
  have data : feed crcPoly 0xFFFF#16 (streamBits body) = (modbusRtuCrc16 body).toBitVec := (crc_feed body 0xFFFF).symm
  rw [split,feed_append,data]
  exact feed_closed _ (by simp [streamBits_length,u16Le]) _ (word_crc _)

end Code

section Detection
open ModbusRtu

def CrcMatches (frame : List UInt8) : Prop :=
  (byteAt frame (frame.length - 2)).toUInt16 ||| ((byteAt frame (frame.length - 1)).toUInt16 <<< 8) =
    modbusRtuCrc16 (frame.take (frame.length - 2))

theorem matches_sealed (long : 2 ≤ frame.length) (passes : CrcMatches frame) : ∃ body, frame = sealed body := by
  obtain ⟨body,low,high,rfl⟩ := two_last long
  have length : (body ++ [low,high]).length - 2 = body.length := by simp
  have first : byteAt (body ++ [low,high]) body.length = low := by simp [byteAt]
  have second : byteAt (body ++ [low,high]) ((body ++ [low,high]).length - 1) = high := by simp [byteAt]
  unfold CrcMatches at passes
  rw [length,first,second,List.take_left] at passes
  exact ⟨body,(crc_sealed body low high).mp passes⟩

theorem sealed_apart (same : one.length = two.length)
    (burst : ∃ k, ∀ i, bitAt (sealed one) i ≠ bitAt (sealed two) i → k ≤ i ∧ i < k + 16) : sealed one = sealed two := by
  obtain ⟨k,window⟩ := burst
  have leading : crcPoly.msb = true := by decide
  apply streamBits_inj
  refine burst_detected leading ?_ 0xFFFF#16 (k := k) ?_ ?_
  · rw [streamBits_length,streamBits_length,sealed_length,sealed_length,same]
  · intro i differ
    rw [streamBits_getD,streamBits_getD] at differ
    exact window i differ
  · rw [sealed_residue,sealed_residue]

theorem crc_detects_burst (body other : List UInt8) (same : other.length = (sealed body).length)
    (differs : other ≠ sealed body)
    (burst : ∃ k, ∀ i, bitAt other i ≠ bitAt (sealed body) i → k ≤ i ∧ i < k + 16) :
    ¬CrcMatches other ∧ (∀ slaveId function reply, decodeReadBits other slaveId function ≠ .ok reply) ∧
      ∀ slaveId address on reply, decodeWriteSingleCoil other slaveId address on ≠ .ok reply := by
  rw [sealed_length] at same
  have never : ∀ whole, other ≠ sealed whole := by
    rintro whole rfl
    rw [sealed_length] at same
    exact differs (sealed_apart (by omega) burst)
  have refused : ∀ slaveId short, ∃ error, checkReply other slaveId short = some error := by
    intro slaveId short
    cases checked : checkReply other slaveId short with
    | none =>
        obtain ⟨whole,sealed,_⟩ := checkReply_exact.mp checked
        exact absurd sealed (never whole)
    | some error => exact ⟨error,rfl⟩
  refine ⟨?_,?_,?_⟩
  · intro passes
    obtain ⟨whole,sealed⟩ := matches_sealed (by omega) passes
    exact never whole sealed
  · intro slaveId function reply decoded
    obtain ⟨error,checked⟩ := refused slaveId "RTU reply shorter than 5 bytes"
    simp only [decodeReadBits,checked] at decoded
    cases decoded
  · intro slaveId address on reply decoded
    obtain ⟨error,checked⟩ := refused slaveId "RTU write reply shorter than 5 bytes"
    simp only [decodeWriteSingleCoil,checked] at decoded
    cases decoded

def burstReply : List UInt8 := [0x01,0x02,0x01,0x05 ^^^ 0xF0,0x61 ^^^ 0xFF,0x8B ^^^ 0x0F]

theorem crc_detects_burstReply :
    sealed [0x01,0x02,0x01,0x05] = [0x01,0x02,0x01,0x05,0x61,0x8B] ∧ ¬CrcMatches burstReply ∧
      decodeReadBits burstReply 1 2 ≠ .ok {slaveId := 1,function := 2,bitCount := 8,bitByte := 0xF5} := by
  have burst : ∃ k, ∀ i, bitAt burstReply i ≠ bitAt (sealed [0x01,0x02,0x01,0x05]) i → k ≤ i ∧ i < k + 16 := by
    refine ⟨28,fun i => ?_⟩
    by_cases inside : i < 48
    · revert i
      decide +kernel
    · rw [bitAt_past (show 48 ≤ i by omega),bitAt_past (show 48 ≤ i by omega)]
      exact fun differ => absurd rfl differ
  obtain ⟨fails,reads,_⟩ := crc_detects_burst [0x01,0x02,0x01,0x05] burstReply (by decide +kernel) (by decide +kernel) burst
  exact ⟨by decide +kernel,fails,reads 1 2 _⟩

end Detection

end RobotControlRuntime
