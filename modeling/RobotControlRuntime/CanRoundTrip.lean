import RobotControlRuntime.CanV1

namespace RobotControlRuntime.CanV1

-- The four messages as one type: the function, the addressee, the rules of the
-- wire and the bytes of each.
namespace DecodedMessage

def function : DecodedMessage → Function
  | .heartbeat _ => .heartbeat
  | .status _ => .status
  | .outputCommand _ => .outputCommand
  | .outputStatus _ => .outputStatus

def nodeId : DecodedMessage → UInt8
  | .heartbeat msg => msg.nodeId
  | .status msg => msg.nodeId
  | .outputCommand msg => msg.nodeId
  | .outputStatus msg => msg.nodeId

def payload : DecodedMessage → Vector UInt8 8
  | .heartbeat msg => msg.payload
  | .status msg => msg.payload
  | .outputCommand msg => msg.payload
  | .outputStatus msg => msg.payload

def WellFormed : DecodedMessage → Prop
  | .heartbeat msg => msg.WellFormed
  | .status msg => msg.WellFormed
  | .outputCommand msg => msg.WellFormed
  | .outputStatus msg => msg.WellFormed

def encode : DecodedMessage → Result CanFrame
  | .heartbeat msg => encodeHeartbeat msg
  | .status msg => encodeNodeStatus msg
  | .outputCommand msg => encodeOutputCommand msg
  | .outputStatus msg => encodeOutputStatus msg

theorem encode_exact (m : DecodedMessage) :
    m.encode = .ok frame ↔
      m.WellFormed ∧ frame = {canId := makeCanId m.function m.nodeId,len := 8,data := m.payload} := by
  cases m with
  | heartbeat msg => exact heartbeat_encoded msg
  | status msg => exact nodeStatus_encoded msg
  | outputCommand msg => exact command_encoded msg
  | outputStatus msg => exact status_encoded msg

theorem node_known (m : DecodedMessage) (formed : m.WellFormed) : m.nodeId ≠ 0 ∧ m.nodeId ≤ maxNodeId := by
  cases m <;> exact formed.node

end DecodedMessage

def decodeAs : Function → CanFrame → Result DecodedMessage
  | .heartbeat,frame => (decodeHeartbeat frame).map .heartbeat
  | .status,frame => (decodeNodeStatus frame).map .status
  | .outputCommand,frame => (decodeOutputCommand frame).map .outputCommand
  | .outputStatus,frame => (decodeOutputStatus frame).map .outputStatus

theorem map_ok {x : Result α} {f : α → β} : x.map f = .ok value ↔ ∃ a, x = .ok a ∧ f a = value := by
  cases x with
  | error error => exact ⟨nofun,nofun⟩
  | ok a => exact ⟨fun taken => ⟨a,rfl,Except.ok.inj taken⟩,fun ⟨_,same,taken⟩ => by cases same; cases taken; rfl⟩

theorem decodeAs_exact (function : Function) (frame : CanFrame) (m : DecodedMessage) :
    decodeAs function frame = .ok m ↔
      m.function = function ∧ m.WellFormed ∧ Carries frame m.function m.nodeId m.payload := by
  cases function <;> cases m <;>
    simp [decodeAs,map_ok,heartbeat_decoded,nodeStatus_decoded,command_decoded,status_decoded,
      DecodedMessage.function,DecodedMessage.WellFormed,DecodedMessage.nodeId,DecodedMessage.payload]

-- The generic entry is the specific decoder of the function that the identifier
-- names.
theorem decode_named (addressed : Addressed frame.canId function nodeId) (length : frame.len = 8)
    (known : nodeId ≠ 0 ∧ nodeId ≤ maxNodeId) : decode frame = decodeAs function frame := by
  unfold decode
  dsimp only
  rw [if_neg (not_not.mpr addressed.standard),if_neg (not_not.mpr addressed.data),if_neg (not_not.mpr length),
    addressed.node,if_neg (not_or.mpr ⟨known.1,UInt8.not_lt.mpr known.2⟩),addressed.function]
  cases function <;> rfl

theorem decode_dispatched (decoded : decode frame = .ok m) : ∃ function, decodeAs function frame = .ok m := by
  simp only [decode,check_ok] at decoded
  obtain ⟨_,_,_,_,decoded⟩ := decoded
  split at decoded
  · exact ⟨.heartbeat,decoded⟩
  · split at decoded
    · exact ⟨.status,decoded⟩
    · split at decoded
      · exact ⟨.outputCommand,decoded⟩
      · split at decoded
        · exact ⟨.outputStatus,decoded⟩
        · cases decoded

theorem decode_exact (frame : CanFrame) (m : DecodedMessage) :
    decode frame = .ok m ↔ m.WellFormed ∧ Carries frame m.function m.nodeId m.payload := by
  constructor
  · intro decoded
    obtain ⟨function,decoded⟩ := decode_dispatched decoded
    exact ((decodeAs_exact function frame m).mp decoded).2
  · rintro ⟨formed,carries⟩
    rw [decode_named carries.addressed carries.length (m.node_known formed)]
    exact (decodeAs_exact m.function frame m).mpr ⟨rfl,formed,carries⟩

theorem encode_carries (m : DecodedMessage) (encoded : m.encode = .ok frame) :
    m.WellFormed ∧ Carries frame m.function m.nodeId m.payload := by
  obtain ⟨formed,rfl⟩ := m.encode_exact.mp encoded
  exact ⟨formed,make_carries m.function m.nodeId (m.node_known formed).2 m.payload⟩

theorem decode_encoded (m : DecodedMessage) (encoded : m.encode = .ok frame) : decode frame = .ok m :=
  (decode_exact frame m).mpr (encode_carries m encoded)

theorem carries_refused (carries : Carries frame function nodeId payload) (other : named ≠ function) :
    ∃ error, decodeAs named frame = .error error := by
  cases decoded : decodeAs named frame with
  | error error => exact ⟨error,rfl⟩
  | ok m =>
      obtain ⟨same,_,again⟩ := (decodeAs_exact named frame m).mp decoded
      exact absurd (same.symm.trans (addressed_function again.addressed carries.addressed)) other

theorem message_roundtrip (m : DecodedMessage) :
    ((∃ frame, m.encode = .ok frame) ↔ m.WellFormed) ∧
      ∀ frame, m.encode = .ok frame →
        decode frame = .ok m ∧ ∀ function, function ≠ m.function → ∃ error, decodeAs function frame = .error error := by
  refine ⟨⟨?_,?_⟩,?_⟩
  · rintro ⟨frame,encoded⟩
    exact (encode_carries m encoded).1
  · intro formed
    exact ⟨_,m.encode_exact.mpr ⟨formed,rfl⟩⟩
  · intro frame encoded
    exact ⟨decode_encoded m encoded,fun _ => carries_refused (encode_carries m encoded).2⟩

theorem message_roundtrip_heartbeat :
    ∃ frame, DecodedMessage.encode (.heartbeat ⟨3,1,7,65535⟩) = .ok frame ∧
      decode frame = .ok (.heartbeat ⟨3,1,7,65535⟩) ∧ ∃ error, decodeAs .outputCommand frame = .error error := by
  obtain ⟨formed,carried⟩ := message_roundtrip (.heartbeat ⟨3,1,7,65535⟩)
  obtain ⟨frame,encoded⟩ := formed.mpr ⟨by decide,by decide,by decide⟩
  obtain ⟨decoded,refused⟩ := carried frame encoded
  exact ⟨frame,encoded,decoded,refused .outputCommand (by decide)⟩

-- Of the identifier word the decoders look at the two flags and the low eleven
-- bits. What lies between them decides whether the frame is the encoder's.
section Canonical

theorem sff_value (canId : UInt32) : (canId &&& sffMask).toNat = canId.toNat % 2048 := by
  rw [UInt32.toNat_and]
  exact Nat.and_two_pow_sub_one_eq_mod canId.toNat 11

theorem node_value (raw11 : UInt32) : (nodeIdFromCanId raw11).toNat = raw11.toNat % 32 := by
  have low : (raw11 &&& 0x1F).toNat = raw11.toNat % 32 := by
    rw [UInt32.toNat_and]
    exact Nat.and_two_pow_sub_one_eq_mod raw11.toNat 5
  rw [nodeIdFromCanId,UInt32.toNat_toUInt8,low]
  omega

theorem function_value (raw11 : UInt32) : (functionFromCanId raw11).toNat = raw11.toNat / 32 % 64 := by
  have high : ((raw11 >>> 5) &&& 0x3F).toNat = raw11.toNat / 32 % 64 := by
    rw [UInt32.toNat_and,UInt32.toNat_shiftRight]
    exact (Nat.and_two_pow_sub_one_eq_mod _ 6).trans (by rw [Nat.shiftRight_eq_div_pow]; rfl)
  rw [functionFromCanId,UInt32.toNat_toUInt8,high]
  omega

theorem addressed_value (addressed : Addressed canId function nodeId) :
    canId.toNat % 2048 = function.raw.toUInt8.toNat * 32 + nodeId.toNat := by
  have node := congrArg UInt8.toNat addressed.node
  have named := congrArg UInt8.toNat addressed.function
  rw [node_value,sff_value] at node
  rw [function_value,sff_value] at named
  omega

theorem make_small (function : Function) (nodeId : UInt8) (known : nodeId ≤ maxNodeId) :
    makeCanId function nodeId ≤ sffMask := by
  obtain ⟨n,rfl⟩ := node_small nodeId known
  revert n
  cases function <;> decide

theorem addressed_made (addressed : Addressed canId function nodeId) (known : nodeId ≤ maxNodeId) :
    canId = makeCanId function nodeId ↔ canId ≤ sffMask := by
  constructor
  · rintro rfl
    exact make_small function nodeId known
  · intro small
    have small : canId.toNat ≤ 2047 := UInt32.le_iff_toNat_le.mp small
    have made : (makeCanId function nodeId).toNat ≤ 2047 := UInt32.le_iff_toNat_le.mp (make_small function nodeId known)
    have left := addressed_value addressed
    have right := addressed_value (make_addressed function nodeId known)
    exact UInt32.toNat_inj.mp (by omega)

theorem decode_canonical (frame : CanFrame) (m : DecodedMessage) (decoded : decode frame = .ok m) :
    m.encode = .ok frame ↔ frame.canId ≤ sffMask := by
  obtain ⟨formed,addressed,length,payload⟩ := (decode_exact frame m).mp decoded
  have known := (m.node_known formed).2
  rw [m.encode_exact,← addressed_made addressed known]
  constructor
  · rintro ⟨_,same⟩
    exact congrArg CanFrame.canId same
  · intro made
    refine ⟨formed,?_⟩
    rw [← made,← length,← payload]

theorem decode_canonical_heartbeat :
    ∃ m, decode ⟨0x23,8,#v[1,0,0,1,0,7,0xFF,0xFF]⟩ = .ok m ∧ m.encode = .ok ⟨0x23,8,#v[1,0,0,1,0,7,0xFF,0xFF]⟩ :=
  ⟨.heartbeat ⟨3,1,7,65535⟩,rfl,(decode_canonical _ _ rfl).mpr (by decide)⟩

-- A frame as the kernel hands it over. SocketCan copies the identifier word with
-- all its flags and leaves their meaning to the codec.
structure KernelFrame where
  canId : UInt32 := 0
  canDlc : UInt8 := 0
  data : Vector UInt8 8 := Vector.replicate 8 0

def fromKernelFrame (frame : KernelFrame) : CanFrame :=
  let len := if 8 < frame.canDlc then 8 else frame.canDlc
  {canId := frame.canId
   len := len
   data := Vector.ofFn fun i => if i.val < len.toNat then frame.data[i] else 0}

def errFlag : UInt32 := 0x20000000

theorem error_frame_decoded :
    ∃ frame m, frame.canId &&& errFlag ≠ 0 ∧ decode (fromKernelFrame frame) = .ok m ∧
      m.encode ≠ .ok (fromKernelFrame frame) := by
  refine ⟨⟨errFlag ||| 0x23,8,#v[1,0,0,1,0,7,0xFF,0xFF]⟩,.heartbeat ⟨3,1,7,65535⟩,by decide,rfl,?_⟩
  intro encoded
  have same : makeCanId .heartbeat 3 = errFlag ||| 0x23 := congrArg CanFrame.canId (Except.ok.inj encoded)
  exact absurd same (by decide)

end Canonical

end RobotControlRuntime.CanV1
