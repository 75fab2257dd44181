import RobotControlRuntime.CanRoundTrip

-- The codec of the microcontroller: written apart from the one of the runtime,
-- over the same messages. A pointer that may be null is not part of the model.
namespace RobotControlRuntime.Firmware
open CanV1 (WireHeartbeat WireNodeStatus WireOutputCommand WireOutputStatus DecodedMessage)

-- The controller delivers the identifier apart from its flags.
structure RcrCanFrame where
  canId : UInt32 := 0
  dlc : UInt8 := 0
  data : Vector UInt8 8 := Vector.replicate 8 0
  extended : Bool := false
  rtr : Bool := false
  receiveMs : UInt32 := 0
  deriving DecidableEq, Repr

def canV1ProtocolVersion : UInt8 := 1
def canV1Dlc : UInt8 := 8

def fnHeartbeat : UInt8 := 0x01
def fnStatus : UInt8 := 0x02
def fnOutputCommand : UInt8 := 0x03
def fnOutputStatus : UInt8 := 0x04

def put (data : Vector UInt8 8) (index : Nat) (byte : UInt8) : Vector UInt8 8 := data.setIfInBounds index byte

def putU16Be (data : Vector UInt8 8) (destination : Fin 7) (value : UInt16) : Vector UInt8 8 :=
  (data.set destination (value >>> 8).toUInt8 (by omega)).set (destination + 1) (value &&& 0x00FF).toUInt8 (by omega)

def getU16Be (data : Vector UInt8 8) (source : Fin 7) : UInt16 :=
  ((data.get ⟨source,by omega⟩).toUInt16 <<< 8) ||| (data.get ⟨source + 1,by omega⟩).toUInt16

def clearFrame (canId : UInt16) : RcrCanFrame :=
  {canId := canId.toUInt32,dlc := canV1Dlc,data := Vector.replicate 8 0,extended := false,rtr := false,receiveMs := 0}

def makeId (function nodeId : UInt8) : UInt16 := (function.toUInt16 <<< 5) ||| (nodeId.toUInt16 &&& 0x001F)

def sequenceNewer (candidate previous : UInt16) : Bool :=
  let delta := candidate - previous
  candidate != previous && decide (delta < 0x8000)

def encodeHeartbeat (message : WireHeartbeat) : Option RcrCanFrame :=
  if message.nodeId = 0 ∨ 31 < message.nodeId ∨ message.bootId = 0 ∨ message.sessionId = 0 then none
  else
    let frame := clearFrame (makeId fnHeartbeat message.nodeId)
    let data := put frame.data 0 canV1ProtocolVersion
    let data := putU16Be data 2 message.bootId
    let data := putU16Be data 4 message.sessionId
    some {frame with data := putU16Be data 6 message.hbSeq}

def encodeNodeStatus (message : WireNodeStatus) : Option RcrCanFrame :=
  if message.nodeId = 0 ∨ 31 < message.nodeId ∨ message.sessionId = 0 then none
  else
    let frame := clearFrame (makeId fnStatus message.nodeId)
    let data := put frame.data 0 canV1ProtocolVersion
    let data := put data 1 (if message.interlockReady then 1 else 0)
    let data := putU16Be data 2 message.sessionId
    let data := putU16Be data 4 message.inputBits
    some {frame with data := putU16Be data 6 message.faultCode}

def encodeOutputStatus (message : WireOutputStatus) : Option RcrCanFrame :=
  if message.nodeId = 0 ∨ 31 < message.nodeId ∨ message.sessionId = 0 ∨
      CanV1.OutputResult.raw .notReady < message.result.raw then none
  else
    let frame := clearFrame (makeId fnOutputStatus message.nodeId)
    let data := put frame.data 0 canV1ProtocolVersion
    let data := put data 1 message.result.raw
    let data := putU16Be data 2 message.sessionId
    let data := putU16Be data 4 message.sequence
    some {frame with data := put data 6 message.outputMirror}

def decodeOutputCommand (frame : RcrCanFrame) (expectedNodeId : UInt8) : Option WireOutputCommand :=
  if expectedNodeId = 0 ∨ 31 < expectedNodeId ∨ frame.extended = true ∨ frame.rtr = true ∨ frame.dlc ≠ canV1Dlc ∨
      frame.canId ≠ (makeId fnOutputCommand expectedNodeId).toUInt32 ∨ frame.data.get 0 ≠ canV1ProtocolVersion ∨
      frame.data.get 1 = 0 then none
  else
    let sessionId := getU16Be frame.data 2
    let sequence := getU16Be frame.data 4
    let validity10ms := frame.data.get 7
    if sessionId = 0 ∨ sequence = 0 ∨ validity10ms = 0 ∨ 250 < validity10ms then none
    else some {nodeId := expectedNodeId
               mask := frame.data.get 1
               sessionId := sessionId
               sequence := sequence
               values := frame.data.get 6
               validity10ms := validity10ms}

def RcrCanFrame.wire (frame : RcrCanFrame) : CanFrame :=
  {canId := frame.canId ||| (if frame.extended then CanV1.effFlag else 0) ||| (if frame.rtr then CanV1.rtrFlag else 0)
   len := frame.dlc
   data := frame.data}

structure Standard (frame : RcrCanFrame) : Prop where
  base : frame.extended = false
  data : frame.rtr = false
  short : frame.canId ≤ CanV1.sffMask

theorem standard_wire (standard : Standard frame) : frame.wire = ⟨frame.canId,frame.dlc,frame.data⟩ := by
  simp only [RcrCanFrame.wire,standard.base,standard.data,Bool.false_eq_true,if_false,UInt32.or_zero]

theorem make_same (function : CanV1.Function) (nodeId : UInt8) :
    (makeId function.raw.toUInt8 nodeId).toUInt32 = CanV1.makeCanId function nodeId := by
  have code : (function.raw.toUInt8.toUInt16 <<< 5).toUInt32 = function.raw <<< 5 := by cases function <;> decide
  simp only [makeId,CanV1.makeCanId,UInt16.toUInt32_or,UInt16.toUInt32_and,UInt8.toUInt32_toUInt16,code]
  rfl

theorem low_same (value : UInt16) : (value &&& 0x00FF).toUInt8 = CanV1.lowByte value := by
  apply UInt8.toNat_inj.mp
  rw [CanV1.low_value,UInt16.toNat_toUInt8,UInt16.toNat_and]
  exact (congrArg (· % 2 ^ 8) (Nat.and_two_pow_sub_one_eq_mod value.toNat 8)).trans (Nat.mod_mod _ _)

theorem newer_same (candidate previous : UInt16) :
    sequenceNewer candidate previous = CanV1.seqNewer candidate previous := by
  by_cases same : candidate = previous
  · simp [sequenceNewer,CanV1.seqNewer,same]
  · have nonzero : (candidate - previous).toNat ≠ 0 := by
      intro zero
      have first := candidate.toNat_lt
      have second := previous.toNat_lt
      rw [UInt16.toNat_sub] at zero
      exact same (UInt16.toNat_inj.mp (by omega))
    simp only [sequenceNewer,CanV1.seqNewer]
    congr 1
    generalize candidate - previous = delta at nonzero
    have signed : delta.toInt16.toInt = delta.toBitVec.toInt := rfl
    have bound := delta.toNat_lt
    rw [decide_eq_decide,UInt16.lt_iff_toNat_lt,Int16.lt_iff_toInt_lt,signed,BitVec.toInt_eq_toNat_cond]
    simp only [UInt16.toNat_toBitVec]
    split <;> simp <;> omega

def sent (message : DecodedMessage) : RcrCanFrame :=
  {canId := CanV1.makeCanId message.function message.nodeId,dlc := 8,data := message.payload}

theorem sent_standard (message : DecodedMessage) (formed : message.WellFormed) : Standard (sent message) :=
  ⟨rfl,rfl,CanV1.make_small message.function message.nodeId (message.node_known formed).2⟩

theorem sent_made (message : DecodedMessage) (bytes : data = message.payload) :
    {clearFrame (makeId message.function.raw.toUInt8 message.nodeId) with data := data} = sent message := by
  simp only [clearFrame,make_same,bytes]
  rfl

-- An encoder of the firmware and the one of the runtime take the same values to
-- the same standard frame, which the runtime decodes to the value again.
structure Agrees (encoded : Option RcrCanFrame) (message : DecodedMessage) : Prop where
  bytes : encoded.map RcrCanFrame.wire = message.encode.toOption
  frame : ∀ frame, encoded = some frame →
    Standard frame ∧ frame.dlc = 8 ∧ CanV1.decode frame.wire = .ok message

theorem sent_agrees (message : DecodedMessage) {refused : Prop} [Decidable refused]
    (rules : ¬ refused ↔ message.WellFormed) (bytes : data = message.payload) :
    Agrees (if refused then none
      else some {clearFrame (makeId message.function.raw.toUInt8 message.nodeId) with data := data}) message := by
  rw [sent_made message bytes]
  by_cases formed : message.WellFormed
  · have standard := sent_standard message formed
    have encoded : message.encode = .ok (sent message).wire := by
      rw [standard_wire standard]
      exact message.encode_exact.mpr ⟨formed,rfl⟩
    rw [if_neg (rules.mpr formed)]
    refine ⟨by rw [encoded]; rfl,?_⟩
    rintro _ ⟨rfl⟩
    exact ⟨standard,rfl,CanV1.decode_encoded message encoded⟩
  · rw [if_pos (Decidable.not_not.mp (mt rules.mp formed))]
    refine ⟨?_,nofun⟩
    cases encoded : message.encode with
    | error => rfl
    | ok frame => exact absurd (message.encode_exact.mp encoded).1 formed

theorem heartbeat_agrees (message : WireHeartbeat) : Agrees (encodeHeartbeat message) (.heartbeat message) := by
  refine sent_agrees (.heartbeat message) ?_ (by simp only [put,putU16Be,low_same]; rfl)
  simp only [not_or,UInt8.not_lt]
  exact ⟨fun ⟨nonzero,known,boot,session⟩ => ⟨⟨nonzero,known⟩,boot,session⟩,
    fun ⟨⟨nonzero,known⟩,boot,session⟩ => ⟨nonzero,known,boot,session⟩⟩

theorem nodeStatus_agrees (message : WireNodeStatus) : Agrees (encodeNodeStatus message) (.status message) := by
  refine sent_agrees (.status message) ?_ (by simp only [put,putU16Be,low_same]; rfl)
  simp only [not_or,UInt8.not_lt]
  exact ⟨fun ⟨nonzero,known,session⟩ => ⟨⟨nonzero,known⟩,session⟩,
    fun ⟨⟨nonzero,known⟩,session⟩ => ⟨nonzero,known,session⟩⟩

theorem outputStatus_agrees (message : WireOutputStatus) :
    Agrees (encodeOutputStatus message) (.outputStatus message) := by
  refine sent_agrees (.outputStatus message) ?_ (by simp only [put,putU16Be,low_same]; rfl)
  simp only [not_or,UInt8.not_lt]
  exact ⟨fun ⟨nonzero,known,session,result⟩ => ⟨⟨nonzero,known⟩,session,result⟩,
    fun ⟨⟨nonzero,known⟩,session,result⟩ => ⟨nonzero,known,session,result⟩⟩

theorem validity_nonzero (validity : UInt8) : CanV1.minValidity10ms ≤ validity ↔ validity ≠ 0 := by
  rw [UInt8.le_iff_toNat_le,ne_eq,← UInt8.toNat_inj]
  simp only [CanV1.minValidity10ms,UInt8.reduceToNat]
  omega

-- The firmware compares the whole identifier with the one it expects; the runtime
-- takes it apart. On eleven bits that is the same.
theorem decoder_agrees (standard : Standard frame) (known : expected ≠ 0 ∧ expected ≤ CanV1.maxNodeId)
    (message : WireOutputCommand) :
    decodeOutputCommand frame expected = some message ↔
      CanV1.decodeOutputCommand frame.wire = .ok message ∧ message.nodeId = expected := by
  have named : (makeId fnOutputCommand expected).toUInt32 = CanV1.makeCanId .outputCommand expected :=
    make_same .outputCommand expected
  rw [CanV1.command_decoded,standard_wire standard]
  simp only [decodeOutputCommand,Option.ite_none_left_eq_some,Option.some.injEq,named,not_or,ne_eq,not_not,UInt8.not_lt]
  constructor
  · rintro ⟨⟨nonzero,small,_,_,length,same,version,mask⟩,⟨session,sequence,validity,most⟩,rfl⟩
    refine ⟨⟨⟨⟨nonzero,small⟩,mask,session,sequence,(validity_nonzero _).mpr validity,most⟩,?_,length,?_⟩,rfl⟩
    · rw [same]
      exact CanV1.make_addressed .outputCommand expected small
    · refine (CanV1.bytes_exact _ _ _ _ _ _ _ _ _).mpr ⟨version,rfl,?_,?_,?_,?_,rfl,rfl⟩
      · exact (CanV1.u16_high _ _).symm
      · exact (CanV1.u16_low _ _).symm
      · exact (CanV1.u16_high _ _).symm
      · exact (CanV1.u16_low _ _).symm
  · rintro ⟨⟨⟨_,mask,session,sequence,least,most⟩,addressed,length,payload⟩,rfl⟩
    obtain ⟨version,d1,d2,d3,d4,d5,d6,d7⟩ := (CanV1.bytes_exact _ _ _ _ _ _ _ _ _).mp payload
    have first : getU16Be frame.data 2 = message.sessionId :=
      (congrArg₂ CanV1.readU16Be d2 d3).trans (CanV1.u16_roundtrip _)
    have second : getU16Be frame.data 4 = message.sequence :=
      (congrArg₂ CanV1.readU16Be d4 d5).trans (CanV1.u16_roundtrip _)
    have same := (CanV1.addressed_made addressed known.2).mpr standard.short
    rw [first,second,show frame.data.get 1 = message.mask from d1,show frame.data.get 6 = message.values from d6,
      show frame.data.get 7 = message.validity10ms from d7,standard.base,standard.data]
    exact ⟨⟨known.1,known.2,by decide,by decide,length,same,version,mask⟩,
      ⟨session,sequence,(validity_nonzero _).mp least,most⟩,rfl⟩

theorem codecs_agree :
    (∀ message, Agrees (encodeHeartbeat message) (.heartbeat message)) ∧
      (∀ message, Agrees (encodeNodeStatus message) (.status message)) ∧
      (∀ message, Agrees (encodeOutputStatus message) (.outputStatus message)) ∧
      ∀ frame expected message, Standard frame → expected ≠ 0 ∧ expected ≤ CanV1.maxNodeId →
        (decodeOutputCommand frame expected = some message ↔
          CanV1.decodeOutputCommand frame.wire = .ok message ∧ message.nodeId = expected) :=
  ⟨heartbeat_agrees,nodeStatus_agrees,outputStatus_agrees,
    fun _ _ message standard known => decoder_agrees standard known message⟩

theorem codecs_agree_command :
    CanV1.decodeOutputCommand ⟨0x61,8,#v[1,1,0,7,0,1,1,5]⟩ = .ok ⟨1,1,7,1,1,5⟩ ∧
      decodeOutputCommand {canId := 0x61,dlc := 8,data := #v[1,1,0,7,0,1,1,5]} 1 = some ⟨1,1,7,1,1,5⟩ ∧
      decodeOutputCommand {canId := 0x61,dlc := 8,data := #v[1,1,0,7,0,1,1,5]} 2 ≠ some ⟨1,1,7,1,1,5⟩ := by
  have agrees := codecs_agree.2.2.2 {canId := 0x61,dlc := 8,data := #v[1,1,0,7,0,1,1,5]}
  refine ⟨rfl,?_,?_⟩
  · exact (agrees 1 _ ⟨rfl,rfl,by decide⟩ ⟨by decide,by decide⟩).mpr ⟨rfl,rfl⟩
  · intro taken
    have named := ((agrees 2 _ ⟨rfl,rfl,by decide⟩ ⟨by decide,by decide⟩).mp taken).2
    exact absurd named (by decide)

end RobotControlRuntime.Firmware
