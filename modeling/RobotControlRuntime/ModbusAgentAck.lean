import RobotControlRuntime.ModbusAgentProtocol
import RobotControlRuntime.WireFields

namespace RobotControlRuntime

-- The strings of an acknowledgement, read one after another.
section Strings

def readLpStrings (bytes : List UInt8) : Nat → Nat → Result (List (List UInt8) × Nat)
  | 0,offset => .ok ([],offset)
  | count + 1,offset =>
      match readLpString bytes offset with
      | .error error => .error error
      | .ok (string,offset) =>
          match readLpStrings bytes count offset with
          | .error error => .error error
          | .ok (strings,offset) => .ok (string :: strings,offset)

theorem lpString_length (string : List UInt8) : (lpString string).length = 1 + min string.length 255 := by
  simp only [lpString,List.length_cons,List.length_take]
  omega

theorem readLpString_written (front string rest : List UInt8) :
    readLpString (front ++ (lpString string ++ rest)) front.length =
      .ok (string.take 255,front.length + (lpString string).length) := by
  have count : (byteAt (front ++ (lpString string ++ rest)) front.length).toNat = min string.length 255 := by
    have head := byteAt_field front (lpString string ++ rest) 0
    rw [Nat.zero_add] at head
    rw [head,lpString,List.cons_append,byteAt_first,UInt8.toNat_ofNat',Nat.mod_eq_of_lt (by omega)]
  have body : (front ++ (lpString string ++ rest)).drop (front.length + 1) =
      string.take (min string.length 255) ++ rest := by
    rw [Nat.add_comm,drop_field]
    rfl
  have taken : (string.take (min string.length 255)).length = min string.length 255 := by
    rw [List.length_take]
    omega
  have whole : (string.take (min string.length 255) ++ rest).take (min string.length 255) = string.take 255 := by
    rw [List.take_append_of_le_length (Nat.le_of_eq taken.symm),List.take_take,Nat.min_self,Nat.min_comm,
      ← List.take_eq_take_min]
  have length := lpString_length string
  rw [readLpString,if_neg (by simp only [List.length_append]; omega)]
  simp only [count]
  rw [if_neg (by simp only [List.length_append]; omega),body,whole,length,Nat.add_assoc]

theorem readLpStrings_written (strings : List (List UInt8)) (front rest : List UInt8) :
    readLpStrings (front ++ (strings.flatMap lpString ++ rest)) strings.length front.length =
      .ok (strings.map (List.take 255),front.length + (strings.flatMap lpString).length) := by
  induction strings generalizing front with
  | nil => rfl
  | cons string strings ih =>
      have later := ih (front ++ lpString string)
      rw [List.length_append,List.append_assoc] at later
      rw [List.flatMap_cons,List.append_assoc,List.length_cons,readLpStrings,readLpString_written]
      dsimp only
      rw [later]
      simp only [List.map_cons,List.length_append,Nat.add_assoc]

theorem readLpString_append (rest : List UInt8) (read : readLpString bytes offset = .ok (string,next)) :
    readLpString (bytes ++ rest) offset = .ok (string,next) ∧ next ≤ bytes.length := by
  rw [readLpString] at read
  split at read
  · cases read
  · rename_i inside
    have byte : byteAt (bytes ++ rest) offset = byteAt bytes offset := byteAt_append _ _ (by omega)
    dsimp only at read
    split at read
    · cases read
    · rename_i body
      cases read
      refine ⟨?_,by omega⟩
      rw [readLpString,if_neg (by rw [List.length_append]; omega),byte]
      dsimp only
      rw [if_neg (by rw [List.length_append]; omega),List.drop_append_of_le_length (by omega),
        List.take_append_of_le_length (by rw [List.length_drop]; omega)]

theorem readLpStrings_append (rest : List UInt8) (inside : offset ≤ bytes.length)
    (read : readLpStrings bytes count offset = .ok (strings,next)) :
    readLpStrings (bytes ++ rest) count offset = .ok (strings,next) ∧ next ≤ bytes.length := by
  induction count generalizing offset strings with
  | zero =>
      cases read
      exact ⟨rfl,inside⟩
  | succ count ih =>
      rw [readLpStrings] at read
      split at read
      · cases read
      · rename_i string after first
        split at read
        · cases read
        · rename_i later final others
          cases read
          obtain ⟨firstAgain,bound⟩ := readLpString_append rest first
          obtain ⟨othersAgain,last⟩ := ih bound others
          refine ⟨?_,last⟩
          rw [readLpStrings,firstAgain]
          dsimp only
          rw [othersAgain]

end Strings

namespace ModbusIoSnapshot

def ackStrings (snapshot : ModbusIoSnapshot) : List (List UInt8) :=
  [snapshot.serialPort,snapshot.sku,snapshot.lastError,snapshot.lastTransaction.txHex,snapshot.lastTransaction.rxHex,
   snapshot.lastTransaction.result]

def withAckStrings (snapshot : ModbusIoSnapshot) : List (List UInt8) → ModbusIoSnapshot
  | [serialPort,sku,lastError,txHex,rxHex,result] =>
      {snapshot with
        serialPort := serialPort
        sku := sku
        lastError := lastError
        lastTransaction := {snapshot.lastTransaction with txHex := txHex,rxHex := rxHex,result := result}}
  | _ => snapshot

def ackFixed (snapshot : ModbusIoSnapshot) : List UInt8 :=
  snapshot.deviceState.raw :: snapshot.slaveId :: UInt8.ofNat modbusIoChannelCount ::
    (snapshot.digitalInputs.toList.map (fun input => flagByte input.active) ++
      (snapshot.digitalOutputs.toList.flatMap (fun output =>
        [flagByte output.requested,flagByte output.confirmed,output.lastStatus.raw]) ++
      (u32Le snapshot.baudRate ++ (parityByte snapshot.parity ::
      (u32Le (UInt32.ofInt (snapshot.lastTransaction.rttNs.tdiv 1000000)) ++
      [snapshot.lastCommandStatus.raw,snapshot.lastTransaction.function])))))

end ModbusIoSnapshot

open ModbusIoSnapshot

theorem ack_split (snapshot : ModbusIoSnapshot) :
    encodeProbeAckPayload snapshot = snapshot.ackFixed ++ snapshot.ackStrings.flatMap lpString := by
  simp [encodeProbeAckPayload,ackFixed,ackStrings]

theorem ack_fixed_length (snapshot : ModbusIoSnapshot) : snapshot.ackFixed.length = probeAckFixed := by
  have outputs : (snapshot.digitalOutputs.toList.flatMap fun output =>
      [flagByte output.requested,flagByte output.confirmed,output.lastStatus.raw]).length = 12 := by
    simp [List.length_flatMap,List.map_const']
  simp [ackFixed,probeAckFixed,modbusIoChannelCount,-List.length_flatMap,outputs]

theorem decode_by_strings (payload : List UInt8) :
    decodeProbeAckPayload payload =
      if payload.length < probeAckFixed then .error ⟨.invalidArgument,"probe ack too short"⟩
      else if byteAt payload 2 ≠ UInt8.ofNat modbusIoChannelCount then .error ⟨.invalidArgument,"unexpected DI count"⟩
      else match readLpStrings payload 6 probeAckFixed with
        | .error error => .error error
        | .ok (strings,_) => .ok ((decodeProbeAckHeader payload).withAckStrings strings) := by
  simp only [decodeProbeAckPayload,bind,Except.bind,throw,throwThe,MonadExceptOf.throw,pure,Except.pure,readLpStrings]
  repeat' split
  all_goals simp_all
  rename_i read
  rw [← read.1,withAckStrings]

-- The channel numbers stay behind: a reader numbers the channels by their place.
def ModbusIoSnapshot.numbered (snapshot : ModbusIoSnapshot) : ModbusIoSnapshot :=
  {snapshot with
    digitalInputs := snapshot.digitalInputs.mapIdx fun i input => {input with channel := UInt8.ofNat i}
    digitalOutputs := snapshot.digitalOutputs.mapIdx fun i output => {output with channel := UInt8.ofNat i}}

theorem four_channels (channels : Vector α 4) : ∃ a b c d, channels = #v[a,b,c,d] :=
  match channels with
  | ⟨⟨[a,b,c,d]⟩,_⟩ => ⟨a,b,c,d,rfl⟩

theorem header_inputs (sent : ModbusIoSnapshot) (rest : List UInt8) :
    (decodeProbeAckHeader (sent.ackFixed ++ rest)).digitalInputs = sent.numbered.digitalInputs := by
  obtain ⟨a,b,c,d,inputs⟩ := four_channels sent.digitalInputs
  simp only [decodeProbeAckHeader,ackFixed,numbered,inputs]
  ext i inside
  match i,inside with
  | 0,_ | 1,_ | 2,_ | 3,_ => simp

theorem header_outputs (sent : ModbusIoSnapshot) (rest : List UInt8) :
    (decodeProbeAckHeader (sent.ackFixed ++ rest)).digitalOutputs = sent.numbered.digitalOutputs := by
  obtain ⟨a,b,c,d,inputs⟩ := four_channels sent.digitalInputs
  obtain ⟨e,f,g,h,outputs⟩ := four_channels sent.digitalOutputs
  simp only [decodeProbeAckHeader,ackFixed,numbered,inputs,outputs]
  ext i inside
  match i,inside with
  | 0,_ | 1,_ | 2,_ | 3,_ => simp [ModbusIoCommandStatus.ofRaw_raw]

theorem header_behind (sent : ModbusIoSnapshot) (rest : List UInt8) :
    readU32Le ((sent.ackFixed ++ rest).drop 19) = sent.baudRate ∧
      byteAt (sent.ackFixed ++ rest) 23 = parityByte sent.parity ∧
      readU32Le ((sent.ackFixed ++ rest).drop 24) = UInt32.ofInt (sent.lastTransaction.rttNs.tdiv 1000000) ∧
      byteAt (sent.ackFixed ++ rest) 28 = sent.lastCommandStatus.raw ∧
      byteAt (sent.ackFixed ++ rest) 29 = sent.lastTransaction.function := by
  obtain ⟨a,b,c,d,inputs⟩ := four_channels sent.digitalInputs
  obtain ⟨e,f,g,h,outputs⟩ := four_channels sent.digitalOutputs
  simp [ackFixed,inputs,outputs]

structure AckSendable (sent : ModbusIoSnapshot) : Prop where
  strings : ∀ string ∈ sent.ackStrings,string.length ≤ 255
  parity : sent.parity = text "None" ∨ ∃ letter,letter ≠ 78 ∧ sent.parity = [letter]
  rtt : ∃ ms : Nat,ms < 4294967296 ∧ sent.lastTransaction.rttNs = ms * 1000000

structure AckRecovered (sent got : ModbusIoSnapshot) : Prop where
  deviceState : got.deviceState = sent.deviceState
  slaveId : got.slaveId = sent.slaveId
  digitalInputs : got.digitalInputs = sent.digitalInputs
  digitalOutputs : got.digitalOutputs = sent.digitalOutputs
  baudRate : got.baudRate = sent.baudRate
  parity : got.parity = sent.parity
  rtt : got.lastTransaction.rttNs = sent.lastTransaction.rttNs
  lastCommandStatus : got.lastCommandStatus = sent.lastCommandStatus
  function : got.lastTransaction.function = sent.lastTransaction.function
  strings : got.ackStrings = sent.ackStrings

theorem parity_read (name : List UInt8) (sendable : name = text "None" ∨ ∃ letter,letter ≠ 78 ∧ name = [letter]) :
    (if parityByte name = 78 then text "None" else [parityByte name]) = name := by
  rcases sendable with rfl | ⟨letter,other,rfl⟩
  · rfl
  · have short : ([letter] : List UInt8) ≠ text "None" := by
      intro same
      have length := congrArg List.length same
      cases length
    have byte : parityByte [letter] = letter := by
      rw [parityByte,if_neg (by simp [short])]
      rfl
    rw [byte,if_neg other]

theorem rtt_read (ms : Nat) (fits : ms < 4294967296) :
    ((UInt32.ofInt (((ms : Int) * 1000000).tdiv 1000000)).toNat : Int) * 1000000 = ms * 1000000 := by
  rw [Int.mul_tdiv_cancel _ (by decide),UInt32.ofInt,UInt32.toNat_ofNat']
  omega

theorem header_recovered (sent : ModbusIoSnapshot) (rest : List UInt8) (sendable : AckSendable sent) :
    AckRecovered sent.numbered ((decodeProbeAckHeader (sent.ackFixed ++ rest)).withAckStrings sent.ackStrings) := by
  obtain ⟨ms,fits,rtt⟩ := sendable.rtt
  obtain ⟨baud,letter,millis,status,function⟩ := header_behind sent rest
  exact {
    deviceState := ModbusDeviceState.ofRaw_raw _
    slaveId := rfl
    digitalInputs := header_inputs sent rest
    digitalOutputs := header_outputs sent rest
    baudRate := baud
    parity := by
      have read := parity_read sent.parity sendable.parity
      rw [← letter] at read
      exact read
    rtt := by
      have read := rtt_read ms fits
      rw [← rtt,← millis] at read
      exact read
    lastCommandStatus := by
      show ModbusIoCommandStatus.ofRaw (byteAt (sent.ackFixed ++ rest) 28) = sent.lastCommandStatus
      rw [status,ModbusIoCommandStatus.ofRaw_raw]
    function := function
    strings := rfl}

theorem ack_strings_read (sent : ModbusIoSnapshot) :
    readLpStrings (encodeProbeAckPayload sent) 6 probeAckFixed =
      .ok (sent.ackStrings.map (List.take 255),(encodeProbeAckPayload sent).length) := by
  have read := readLpStrings_written sent.ackStrings sent.ackFixed []
  rw [List.append_nil,← ack_split,← List.length_append,← ack_split,ack_fixed_length] at read
  exact read

theorem ack_decodes (sent : ModbusIoSnapshot) (sendable : AckSendable sent) :
    ∃ got,decodeProbeAckPayload (encodeProbeAckPayload sent) = .ok got ∧ AckRecovered sent.numbered got := by
  have read := ack_strings_read sent
  have whole : sent.ackStrings.map (List.take 255) = sent.ackStrings := by
    rw [List.map_congr_left fun string present => List.take_of_length_le (sendable.strings string present),List.map_id']
  rw [whole] at read
  have long : ¬ (encodeProbeAckPayload sent).length < probeAckFixed := by
    rw [ack_split,List.length_append,ack_fixed_length]
    omega
  have count : byteAt (encodeProbeAckPayload sent) 2 = UInt8.ofNat modbusIoChannelCount := by
    rw [ack_split,ackFixed]
    rfl
  have decoded : decodeProbeAckPayload (encodeProbeAckPayload sent) =
      .ok ((decodeProbeAckHeader (encodeProbeAckPayload sent)).withAckStrings sent.ackStrings) := by
    rw [decode_by_strings,if_neg long,if_neg (not_not.mpr count),read]
  have recovered := header_recovered sent (sent.ackStrings.flatMap lpString) sendable
  rw [← ack_split] at recovered
  exact ⟨_,decoded,recovered⟩

-- The strings end where the payload ends, and a reader that succeeds on less
-- would end earlier at the same strings.
theorem ack_cut_refused (sent : ModbusIoSnapshot) (cut : Nat) (short : cut < (encodeProbeAckPayload sent).length) :
    ∃ error,decodeProbeAckPayload ((encodeProbeAckPayload sent).take cut) = .error error := by
  rw [decode_by_strings]
  split
  · exact ⟨_,rfl⟩
  · rename_i fixed
    split
    · exact ⟨_,rfl⟩
    · cases read : readLpStrings ((encodeProbeAckPayload sent).take cut) 6 probeAckFixed with
      | error error => exact ⟨error,rfl⟩
      | ok found =>
          obtain ⟨strings,next⟩ := found
          obtain ⟨again,bound⟩ := readLpStrings_append ((encodeProbeAckPayload sent).drop cut) (by omega) read
          rw [List.take_append_drop] at again
          obtain ⟨_,last⟩ := Prod.mk.inj (Except.ok.inj (again.symm.trans (ack_strings_read sent)))
          rw [List.length_take] at bound
          omega

theorem ack_round_trip (type : ModbusAgentMessage) (sequence : UInt16) (sent : ModbusIoSnapshot) (sendable : AckSendable sent) :
    ((encodeProbeAckPayload sent).length ≤ FrameFormat.maxPayload →
      ∃ wire frame got,modbusAgentFormat.encode ⟨type,sequence,encodeProbeAckPayload sent⟩ = some wire ∧
        modbusAgentFormat.tryDecode wire = .ok (frame,wire.length) ∧ frame.type = type ∧ frame.sequence = sequence ∧
        decodeProbeAckPayload frame.payload = .ok got ∧ AckRecovered sent.numbered got) ∧
    ∀ cut < (encodeProbeAckPayload sent).length,
      ∃ error,decodeProbeAckPayload ((encodeProbeAckPayload sent).take cut) = .error error := by
  constructor
  case right => exact ack_cut_refused sent
  intro fits
  obtain ⟨wire,encoded,_⟩ :=
    FrameFormat.encode_fits (⟨type,sequence,encodeProbeAckPayload sent⟩ : ModbusAgentFrame) fits
  obtain ⟨got,decoded,recovered⟩ := ack_decodes sent sendable
  exact ⟨wire,_,got,encoded,FrameFormat.decode_encoded encoded,rfl,rfl,decoded,recovered⟩

def answeredSnapshot : ModbusIoSnapshot :=
  {serialPort := text "/dev/ttyS7"
   sku := text "MR0-IOR08"
   parity := [69]
   digitalInputs := #v[⟨0,true⟩,⟨1,false⟩,⟨2,false⟩,⟨3,false⟩]
   lastCommandStatus := .confirmed
   lastTransaction := {rttNs := 12000000,function := 2,txHex := text "01 02 00 00 00 04 79 C9",result := text "OK"}}

theorem answeredSnapshot_sendable : AckSendable answeredSnapshot where
  strings := by decide +kernel
  parity := Or.inr ⟨69,by decide,rfl⟩
  rtt := ⟨12,by decide,rfl⟩

theorem ack_round_trip_answered :
    ∃ wire frame got,modbusAgentFormat.encode ⟨.probeAck,7,encodeProbeAckPayload answeredSnapshot⟩ = some wire ∧
      modbusAgentFormat.tryDecode wire = .ok (frame,wire.length) ∧ frame.type = .probeAck ∧ frame.sequence = 7 ∧
      decodeProbeAckPayload frame.payload = .ok got ∧ AckRecovered answeredSnapshot.numbered got :=
  (ack_round_trip .probeAck 7 answeredSnapshot answeredSnapshot_sendable).1 (by decide +kernel)

theorem channel_numbers_left_behind :
    AckSendable {} ∧ (encodeProbeAckPayload {}).length ≤ FrameFormat.maxPayload ∧
      ∃ got,decodeProbeAckPayload (encodeProbeAckPayload {}) = .ok got ∧ ¬ AckRecovered {} got := by
  have sendable : AckSendable {} :=
    {strings := by decide +kernel,parity := Or.inl rfl,rtt := ⟨0,by decide,rfl⟩}
  obtain ⟨got,decoded,recovered⟩ := ack_decodes {} sendable
  refine ⟨sendable,by decide +kernel,got,decoded,?_⟩
  intro kept
  have same := recovered.digitalInputs.symm.trans kept.digitalInputs
  exact absurd same (by decide +kernel)

end RobotControlRuntime
