import RobotControlRuntime.FrameFormat

namespace RobotControlRuntime
namespace ModbusRtu

def Confirms (reply : List UInt8) (slaveId : UInt8) (address : UInt16) (on : Bool) : Prop :=
  ∃ coil, decodeWriteSingleCoil reply slaveId address on = .ok coil ∧ coil.exception = false

def coilFrame (slaveId : UInt8) (address : UInt16) (high low : UInt8) : List UInt8 :=
  sealed [slaveId,fnWriteSingleCoil,(address >>> 8 &&& 0xFF).toUInt8,(address &&& 0xFF).toUInt8,high,low]

theorem sealed_length (body : List UInt8) : (sealed body).length = body.length + 2 := by simp [sealed]

theorem sealed_inj (same : sealed one = sealed two) : one = two := by
  have lengths := congrArg List.length same
  rw [sealed_length,sealed_length] at lengths
  exact (List.append_inj same (by omega)).1

theorem crc_sealed (body : List UInt8) (low high : UInt8) :
    low.toUInt16 ||| (high.toUInt16 <<< 8) = modbusRtuCrc16 body ↔ body ++ [low,high] = sealed body := by
  have field : low.toUInt16 ||| (high.toUInt16 <<< 8) = readU16Le [low,high] := rfl
  rw [field]
  constructor
  · intro same
    rw [← bytes_readU16 low high,same]
    rfl
  · intro same
    have tail : [low,high] = u16Le (modbusRtuCrc16 body) := List.append_cancel_left same
    rw [tail,readU16_bytes]

theorem two_last (long : 2 ≤ frame.length) : ∃ (body : List UInt8) (low high : UInt8), frame = body ++ [low,high] := by
  have length : (frame.drop (frame.length - 2)).length = 2 := by
    rw [List.length_drop]
    omega
  match tail : frame.drop (frame.length - 2),length with
  | [low,high],_ => exact ⟨frame.take (frame.length - 2),low,high,by rw [← tail,List.take_append_drop]⟩

theorem checkReply_tail (body : List UInt8) (low high : UInt8) (long : 3 ≤ body.length) :
    checkReply (body ++ [low,high]) slaveId short =
      if low.toUInt16 ||| (high.toUInt16 <<< 8) ≠ modbusRtuCrc16 body then some ⟨.rejected,"RTU CRC mismatch"⟩
      else if byteAt body 0 ≠ slaveId then some ⟨.rejected,"RTU slave id mismatch"⟩
      else none := by
  have length : (body ++ [low,high]).length - 2 = body.length := by simp
  have first : byteAt (body ++ [low,high]) body.length = low := by simp [byteAt]
  have second : byteAt (body ++ [low,high]) ((body ++ [low,high]).length - 1) = high := by simp [byteAt]
  have head : byteAt (body ++ [low,high]) 0 = byteAt body 0 := byteAt_append body _ (by omega)
  rw [checkReply,if_neg (by simp; omega),length,first,second,head,List.take_left]

theorem checkReply_sealed (body : List UInt8) (low high : UInt8) (slaveId : UInt8) (short : String) :
    checkReply (body ++ [low,high]) slaveId short = none ↔
      3 ≤ body.length ∧ body ++ [low,high] = sealed body ∧ byteAt body 0 = slaveId := by
  by_cases long : 3 ≤ body.length
  · rw [checkReply_tail body low high long,← crc_sealed]
    simp only [ite_not,long,true_and]
    split <;> simp [*]
  · rw [checkReply,if_pos (by simp; omega)]
    simp [long]

theorem crc_refused (body : List UInt8) (low high : UInt8) (long : 3 ≤ body.length) (broken : body ++ [low,high] ≠ sealed body) :
    checkReply (body ++ [low,high]) slaveId short = some ⟨.rejected,"RTU CRC mismatch"⟩ := by
  rw [checkReply_tail body low high long,if_pos (mt (crc_sealed body low high).mp broken)]

theorem checkReply_exact : checkReply frame slaveId short = none ↔
    ∃ body, frame = sealed body ∧ 3 ≤ body.length ∧ byteAt body 0 = slaveId := by
  constructor
  · intro passed
    have long : 2 ≤ frame.length := by
      unfold checkReply at passed
      split at passed
      · cases passed
      · omega
    obtain ⟨body,low,high,rfl⟩ := two_last long
    obtain ⟨enough,whole,addressed⟩ := (checkReply_sealed body low high slaveId short).mp passed
    exact ⟨body,whole,enough,addressed⟩
  · rintro ⟨body,rfl,enough,addressed⟩
    exact (checkReply_sealed body _ _ slaveId short).mpr ⟨enough,rfl,addressed⟩

theorem bits_decode (slaveId function bits : UInt8) (plain : function &&& 0x80 = 0) :
    decodeReadBits (sealed [slaveId,function,1,bits]) slaveId function =
      .ok {slaveId := slaveId,function := function,bitCount := 8,bitByte := bits} := by
  have passed : checkReply (sealed [slaveId,function,1,bits]) slaveId "RTU reply shorter than 5 bytes" = none :=
    checkReply_exact.mpr ⟨_,rfl,by simp,rfl⟩
  unfold decodeReadBits
  rw [passed]
  simp [sealed,byteAt,plain]

theorem address_exact (high low : UInt8) (address : UInt16) :
    (high.toUInt16 <<< 8) ||| low.toUInt16 = address ↔
      high = (address >>> 8 &&& 0xFF).toUInt8 ∧ low = (address &&& 0xFF).toUInt8 := by
  have field : (high.toUInt16 <<< 8) ||| low.toUInt16 = readU16Le [low,high] := UInt16.or_comm _ _
  rw [field]
  constructor
  · rintro rfl
    have bytes := bytes_readU16 low high
    simp only [u16Le,List.cons.injEq,and_true] at bytes
    exact ⟨bytes.2.symm,bytes.1.symm⟩
  · rintro ⟨rfl,rfl⟩
    exact readU16_bytes address

theorem six_fields (six : body.length = 6) : ∃ a b c d e f : UInt8, body = [a,b,c,d,e,f] := by
  match body,six with
  | [a,b,c,d,e,f],_ => exact ⟨a,b,c,d,e,f,rfl⟩

-- A write is confirmed by every FC05 frame for the coil whose value field reads as
-- the requested one; FF 00 reads as on and anything else as off.
theorem confirms_exact : Confirms reply slaveId address on ↔
    ∃ high low, reply = coilFrame slaveId address high low ∧ (high == 0xFF && low == 0x00) = on := by
  constructor
  · rintro ⟨coil,decoded,plain⟩
    unfold decodeWriteSingleCoil at decoded
    split at decoded
    · cases decoded
    rename_i passed
    obtain ⟨body,rfl,_,addressed⟩ := checkReply_exact.mp passed
    dsimp only at decoded
    split at decoded
    · cases decoded
      cases plain
    split at decoded
    · cases decoded
    rename_i function
    split at decoded
    · cases decoded
    rename_i eight
    rw [sealed_length] at eight
    obtain ⟨slave,kind,upper,lower,high,low,rfl⟩ := six_fields (by omega : body.length = 6)
    split at decoded
    · cases decoded
    rename_i placed
    split at decoded
    · cases decoded
    rename_i valued
    have kind : kind = fnWriteSingleCoil := not_not.mp function
    have fields := (address_exact upper lower address).mp (not_not.mp placed)
    have slave : slave = slaveId := addressed
    refine ⟨high,low,?_,not_not.mp valued⟩
    rw [coilFrame,kind,slave,fields.1,fields.2]
  · rintro ⟨high,low,rfl,reads⟩
    have passed : checkReply (coilFrame slaveId address high low) slaveId "RTU write reply shorter than 5 bytes" = none :=
      checkReply_exact.mpr ⟨_,rfl,by simp,rfl⟩
    have placed := (address_exact _ _ address).mpr ⟨rfl,rfl⟩
    have plain : fnWriteSingleCoil &&& 0x80 = 0 := rfl
    refine ⟨{slaveId := slaveId,function := fnWriteSingleCoil,address := address,on := on},?_,rfl⟩
    unfold decodeWriteSingleCoil
    rw [passed]
    simp only [coilFrame,sealed,byteAt,List.cons_append,List.nil_append,List.getD_cons_zero,List.getD_cons_succ,
      List.length_cons,List.length_nil,placed,reads,plain,ne_eq,not_true_eq_false,if_false]

theorem encodes_coilFrame (slaveId : UInt8) (address : UInt16) (on : Bool) :
    encodeWriteSingleCoil slaveId address on = coilFrame slaveId address (if on then 0xFF else 0x00) 0x00 := rfl

theorem coilFrame_inj (same : coilFrame slaveId address high low = coilFrame slaveId address high' low') :
    high = high' ∧ low = low' := by
  have bodies := sealed_inj same
  simp only [List.cons.injEq,and_true,true_and] at bodies
  exact bodies

def StrayOff (reply : List UInt8) (slaveId : UInt8) (address : UInt16) (on : Bool) : Prop :=
  on = false ∧ ∃ high low, reply = coilFrame slaveId address high low ∧ ¬ (high = 0xFF ∧ low = 0x00) ∧
    ¬ (high = 0x00 ∧ low = 0x00)

theorem off_confirmed_by_stray :
    Confirms (coilFrame 1 0 0x12 0x34) 1 0 false ∧ coilFrame 1 0 0x12 0x34 ≠ encodeWriteSingleCoil 1 0 false :=
  ⟨confirms_exact.mpr ⟨0x12,0x34,rfl,by decide⟩,by decide⟩

theorem confirmed_by_echo_iff (slaveId : UInt8) (address : UInt16) (on : Bool) (reply : List UInt8) :
    (Confirms reply slaveId address on ↔ reply = encodeWriteSingleCoil slaveId address on) ↔
      ¬ StrayOff reply slaveId address on := by
  have echo : Confirms (encodeWriteSingleCoil slaveId address on) slaveId address on := by
    refine confirms_exact.mpr ⟨_,_,encodes_coilFrame slaveId address on,?_⟩
    cases on <;> rfl
  constructor
  · rintro exact ⟨rfl,high,low,rfl,off,other⟩
    have taken : Confirms (coilFrame slaveId address high low) slaveId address false :=
      confirms_exact.mpr ⟨high,low,rfl,by simpa using off⟩
    exact other (coilFrame_inj (exact.mp taken))
  · intro regular
    refine ⟨fun confirms => ?_,fun same => same ▸ echo⟩
    obtain ⟨high,low,rfl,reads⟩ := confirms_exact.mp confirms
    rw [encodes_coilFrame]
    cases on with
    | true =>
        simp only [Bool.and_eq_true,beq_iff_eq] at reads
        rw [reads.1,reads.2]
        rfl
    | false =>
        by_cases zero : high = 0x00 ∧ low = 0x00
        · rw [zero.1,zero.2]
          rfl
        · exact absurd ⟨rfl,high,low,rfl,by simpa using reads,zero⟩ regular

end ModbusRtu

end RobotControlRuntime
