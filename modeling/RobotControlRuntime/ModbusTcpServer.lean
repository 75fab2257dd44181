import RobotControlRuntime.ModbusTcp

namespace RobotControlRuntime.Mbus
open FrameStream FrameStream.Decoder FrameStream.Codec

structure HoldingMap (size : Nat) where
  regs : Vector UInt16 size := Vector.replicate size 0

namespace HoldingMap
variable {size : Nat}

def read (m : HoldingMap size) (address quantity : UInt16) : Result (List UInt16) :=
  if quantity < 1 ∨ 125 < quantity then .error ⟨.illegalValue,"quantity out of range"⟩
  else
    let start := address.toNat
    let stop := start + quantity.toNat
    if size < stop then .error ⟨.illegalAddress,"read past map"⟩
    else .ok ((m.regs.toList.take stop).drop start)

def writeSingle (m : HoldingMap size) (address value : UInt16) : HoldingMap size × Result Unit :=
  if size ≤ address.toNat then (m,.error ⟨.illegalAddress,"write past map"⟩)
  else (⟨m.regs.setIfInBounds address.toNat value⟩,.ok ())

def store (m : HoldingMap size) (start : Nat) : List UInt16 → HoldingMap size
  | [] => m
  | value :: rest => store ⟨m.regs.setIfInBounds start value⟩ (start + 1) rest

def writeMultiple (m : HoldingMap size) (address : UInt16) (values : List UInt16) : HoldingMap size × Result Unit :=
  if values = [] ∨ 123 < values.length then (m,.error ⟨.illegalValue,"quantity out of range"⟩)
  else if size < address.toNat + values.length then (m,.error ⟨.illegalAddress,"write past map"⟩)
  else (m.store address.toNat values,.ok ())

def handlePdu (m : HoldingMap size) (pdu : List UInt8) : HoldingMap size × Result (List UInt8) :=
  if pdu = [] then (m,.error ⟨.truncated,"empty pdu"⟩)
  else
    let fc := byteAt pdu 0
    if fc = fcReadHolding then
      if pdu.length ≠ 5 then (m,encodeExceptionResponse fc exIllegalDataValue)
      else
        match getU16Be pdu 1,getU16Be pdu 3 with
        | .ok address,.ok quantity =>
          match m.read address quantity with
          | .ok values => (m,encodeReadHoldingResponse values)
          | .error failure =>
            if failure.error = .illegalAddress then (m,encodeExceptionResponse fc exIllegalDataAddress)
            else if failure.error = .illegalValue then (m,encodeExceptionResponse fc exIllegalDataValue)
            else (m,.error failure)
        | _,_ => (m,encodeExceptionResponse fc exIllegalDataValue)
    else if fc = fcWriteSingle then
      if pdu.length ≠ 5 then (m,encodeExceptionResponse fc exIllegalDataValue)
      else
        match getU16Be pdu 1,getU16Be pdu 3 with
        | .ok address,.ok value =>
          match m.writeSingle address value with
          | (m,.ok ()) => (m,encodeWriteSingleResponse address value)
          | (m,.error failure) =>
            if failure.error = .illegalAddress then (m,encodeExceptionResponse fc exIllegalDataAddress)
            else (m,.error failure)
        | _,_ => (m,encodeExceptionResponse fc exIllegalDataValue)
    else if fc = fcWriteMultiple then
      if pdu.length < 6 then (m,encodeExceptionResponse fc exIllegalDataValue)
      else
        let byteCount := (byteAt pdu 5).toNat
        match getU16Be pdu 1,getU16Be pdu 3 with
        | .ok address,.ok quantity =>
          if byteCount ≠ quantity.toNat * 2 ∨ pdu.length ≠ 6 + byteCount then
            (m,encodeExceptionResponse fc exIllegalDataValue)
          else
            match getWords pdu 6 quantity.toNat with
            | .error _ => (m,encodeExceptionResponse fc exIllegalDataValue)
            | .ok values =>
              match m.writeMultiple address values with
              | (m,.ok ()) => (m,encodeWriteMultipleResponse address quantity)
              | (m,.error failure) =>
                if failure.error = .illegalAddress then (m,encodeExceptionResponse fc exIllegalDataAddress)
                else if failure.error = .illegalValue then (m,encodeExceptionResponse fc exIllegalDataValue)
                else (m,.error failure)
        | _,_ => (m,encodeExceptionResponse fc exIllegalDataValue)
    else (m,encodeExceptionResponse fc exIllegalFunction)

end HoldingMap

-- One round of serve_client's loop. `ended` stands for all its ways out: running_
-- cleared, poll failed, the socket reported an error or a hangup, recv returned 0 or less.
inductive ServerEvent where
  | idle
  | received (chunk : RecvChunk)
  | ended

def ServerEvent.bytes : ServerEvent → List UInt8
  | .received chunk => chunk.bytes
  | _ => []

structure Serving (size : Nat) where
  map : HoldingMap size := {}
  framer : StreamFramer := {}
  sent : List (List UInt8) := []
  live : Bool := true

namespace Serving
variable {size : Nat}

-- `delivered` says for an encoded response whether the send loop got all of it out.
def serveFrame (delivered : List UInt8 → Bool) (s : Serving size) (frame : List UInt8) : Serving size :=
  match decodeAdu frame with
  | .error _ => {s with live := false}
  | .ok adu =>
    match s.map.handlePdu adu.pdu with
    | (map,.error _) => {s with map := map,live := false}
    | (map,.ok pdu) =>
      match encodeAdu {mbap := {adu.mbap with protocolId := protocolId},pdu := pdu} with
      | .error _ => {s with map := map,live := false}
      | .ok encoded =>
        if delivered encoded then {s with map := map,sent := s.sent ++ [encoded]}
        else {s with map := map,live := false}

-- A frame takes at least eight bytes, so the bytes at hand bound the rounds.
def popFrames (delivered : List UInt8 → Bool) : Nat → Serving size → Serving size
  | 0,s => s
  | fuel + 1,s =>
    match s.framer.tryPopAdu with
    | (_,.error failure) => if failure.error = .needMore then s else {s with live := false}
    | (framer,.ok frame) =>
      let next := serveFrame delivered {s with framer := framer} frame
      if next.live then popFrames delivered fuel next else next

def round (delivered : List UInt8 → Bool) (s : Serving size) : ServerEvent → Serving size
  | .idle => s
  | .received chunk =>
    let s := {s with framer := s.framer.append chunk.bytes}
    popFrames delivered s.framer.buffer.length s
  | .ended => {s with live := false}

def serveClient (delivered : List UInt8 → Bool) (s : Serving size) (events : List ServerEvent) : Serving size :=
  events.foldl (fun s event => if s.live then s.round delivered event else s) s

end Serving

abbrev Registers (size : Nat) := Fin size → UInt16

namespace Registers
variable {size : Nat}

def word (r : Registers size) (i : Nat) : UInt16 := if inside : i < size then r ⟨i,inside⟩ else 0

def slice (r : Registers size) (start count : Nat) : List UInt16 := (List.range count).map fun i => r.word (start + i)

def put (r : Registers size) (start : Nat) (values : List UInt16) : Registers size :=
  fun i => if start ≤ i.val ∧ i.val < start + values.length then values.getD (i.val - start) 0 else r i

end Registers

inductive Request where
  | read (address quantity : UInt16)
  | writeSingle (address value : UInt16)
  | writeMultiple (address : UInt16) (values : List UInt16)

namespace Request

def function : Request → UInt8
  | .read _ _ => fcReadHolding
  | .writeSingle _ _ => fcWriteSingle
  | .writeMultiple _ _ => fcWriteMultiple

def address : Request → UInt16
  | .read address _ => address
  | .writeSingle address _ => address
  | .writeMultiple address _ => address

def count : Request → Nat
  | .read _ quantity => quantity.toNat
  | .writeSingle _ _ => 1
  | .writeMultiple _ values => values.length

def Sized : Request → Prop
  | .read _ quantity => 1 ≤ quantity.toNat ∧ quantity.toNat ≤ 125
  | .writeSingle _ _ => True
  | .writeMultiple _ values => 1 ≤ values.length ∧ values.length ≤ 123

def pdu : Request → List UInt8
  | .read address quantity => [fcReadHolding] ++ putU16Be address ++ putU16Be quantity
  | .writeSingle address value => [fcWriteSingle] ++ putU16Be address ++ putU16Be value
  | .writeMultiple address values => [fcWriteMultiple] ++ putU16Be address ++ putU16Be (UInt16.ofNat values.length) ++
      [UInt8.ofNat (values.length * 2)] ++ values.flatMap putU16Be

def perform (r : Registers size) : Request → List UInt8 × Registers size
  | .read address quantity =>
    ([fcReadHolding,UInt8.ofNat (quantity.toNat * 2)] ++ (r.slice address.toNat quantity.toNat).flatMap putU16Be,r)
  | .writeSingle address value =>
    ([fcWriteSingle] ++ putU16Be address ++ putU16Be value,r.put address.toNat [value])
  | .writeMultiple address values =>
    ([fcWriteMultiple] ++ putU16Be address ++ putU16Be (UInt16.ofNat values.length),r.put address.toNat values)

-- The request that a PDU is, if it is one.
open Classical in
noncomputable def asked (pdu : List UInt8) : Option Request :=
  if meant : ∃ request : Request, request.Sized ∧ request.pdu = pdu then some meant.choose else none

end Request

namespace Registers
variable {size : Nat}

def refused (pdu : List UInt8) (code : UInt8) : List UInt8 := [byteAt pdu 0 ||| 0x80,code]

noncomputable def serve (r : Registers size) (pdu : List UInt8) : List UInt8 × Registers size :=
  match Request.asked pdu with
  | some request =>
    if request.address.toNat + request.count ≤ size then request.perform r else (refused pdu exIllegalDataAddress,r)
  | none =>
    if byteAt pdu 0 ∈ [fcReadHolding,fcWriteSingle,fcWriteMultiple] then (refused pdu exIllegalDataValue,r)
    else (refused pdu exIllegalFunction,r)

noncomputable def serveAll (r : Registers size) : List (List UInt8) → List (List UInt8) × Registers size
  | [] => ([],r)
  | pdu :: rest =>
    let (response,next) := r.serve pdu
    let (responses,last) := next.serveAll rest
    (response :: responses,last)

end Registers

namespace Request

theorem pdu_function (request : Request) : byteAt request.pdu 0 = request.function := by
  cases request with
  | _ => rfl

theorem read_of_function {request : Request} (function : request.function = fcReadHolding) :
    ∃ address quantity, request = .read address quantity := by
  cases request with
  | read address quantity => exact ⟨address,quantity,rfl⟩
  | writeSingle _ _ => exact absurd (show fcWriteSingle = fcReadHolding from function) (by decide)
  | writeMultiple _ _ => exact absurd (show fcWriteMultiple = fcReadHolding from function) (by decide)

theorem writeSingle_of_function {request : Request} (function : request.function = fcWriteSingle) :
    ∃ address value, request = .writeSingle address value := by
  cases request with
  | read _ _ => exact absurd (show fcReadHolding = fcWriteSingle from function) (by decide)
  | writeSingle address value => exact ⟨address,value,rfl⟩
  | writeMultiple _ _ => exact absurd (show fcWriteMultiple = fcWriteSingle from function) (by decide)

theorem writeMultiple_of_function {request : Request} (function : request.function = fcWriteMultiple) :
    ∃ address values, request = .writeMultiple address values := by
  cases request with
  | read _ _ => exact absurd (show fcReadHolding = fcWriteMultiple from function) (by decide)
  | writeSingle _ _ => exact absurd (show fcWriteSingle = fcWriteMultiple from function) (by decide)
  | writeMultiple address values => exact ⟨address,values,rfl⟩

theorem fields_injective (same : first :: (putU16Be a ++ (putU16Be b ++ rest)) =
    first :: (putU16Be c ++ (putU16Be d ++ others))) : a = c ∧ b = d ∧ rest = others := by
  obtain ⟨one,onward⟩ := List.append_inj (List.cons.inj same).2 ((putU16_length a).trans (putU16_length c).symm)
  obtain ⟨two,three⟩ := List.append_inj onward ((putU16_length b).trans (putU16_length d).symm)
  exact ⟨putU16_injective one,putU16_injective two,three⟩

theorem pdu_injective {one two : Request} (same : one.pdu = two.pdu) : one = two := by
  have function : two.function = one.function := by
    rw [← pdu_function,← pdu_function,same]
  cases one with
  | read address quantity =>
      obtain ⟨address',quantity',rfl⟩ := read_of_function function
      obtain ⟨rfl,rfl,_⟩ := @fields_injective _ address quantity [] address' quantity' [] same
      rfl
  | writeSingle address value =>
      obtain ⟨address',value',rfl⟩ := writeSingle_of_function function
      obtain ⟨rfl,rfl,_⟩ := @fields_injective _ address value [] address' value' [] same
      rfl
  | writeMultiple address values =>
      obtain ⟨address',values',rfl⟩ := writeMultiple_of_function function
      obtain ⟨rfl,_,words⟩ := @fields_injective _ address _ (_ :: values.flatMap putU16Be) address' _
        (_ :: values'.flatMap putU16Be) same
      rw [words_injective (List.cons.inj words).2]

theorem asked_pdu {request : Request} (sized : request.Sized) : asked request.pdu = some request := by
  have meant : ∃ other : Request, other.Sized ∧ other.pdu = request.pdu := ⟨request,sized,rfl⟩
  rw [asked,dif_pos meant,pdu_injective meant.choose_spec.2]

theorem asked_some {bytes : List UInt8} {request : Request} (meant : asked bytes = some request) : request.Sized := by
  unfold asked at meant
  split at meant
  · rename_i found
    cases meant
    exact found.choose_spec.1
  · cases meant

theorem asked_none (bytes : List UInt8) (none : ∀ request : Request, request.Sized → request.pdu ≠ bytes) :
    asked bytes = Option.none := by
  refine dif_neg ?_
  rintro ⟨request,sized,same⟩
  exact none request sized same

-- The byte count of a write is one byte, so it tells up to 127 registers.
theorem multiple_length (address : UInt16) (values : List UInt16) :
    (Request.writeMultiple address values).pdu.length = 6 + values.length * 2 := by
  have parts : (Request.writeMultiple address values).pdu.length = 6 + (values.flatMap putU16Be).length := Nat.add_comm _ 6
  rw [parts,words_length,Nat.mul_comm]

theorem multiple_quantity (address : UInt16) (few : values.length ≤ 127) :
    (wordBe (byteAt (Request.writeMultiple address values).pdu 3) (byteAt (Request.writeMultiple address values).pdu 4)).toNat =
      values.length := by
  have field : wordBe (byteAt (Request.writeMultiple address values).pdu 3)
      (byteAt (Request.writeMultiple address values).pdu 4) = UInt16.ofNat values.length := word_bytes _
  rw [field,UInt16.toNat_ofNat']
  omega

theorem multiple_byteCount (address : UInt16) (few : values.length ≤ 127) :
    (byteAt (Request.writeMultiple address values).pdu 5).toNat = values.length * 2 := by
  have field : byteAt (Request.writeMultiple address values).pdu 5 = UInt8.ofNat (values.length * 2) := rfl
  rw [field,UInt8.toNat_ofNat']
  omega

theorem function_listed (request : Request) :
    byteAt request.pdu 0 ∈ [fcReadHolding,fcWriteSingle,fcWriteMultiple] := by
  cases request with
  | read _ _ => exact .head _
  | writeSingle _ _ => exact .tail _ (.head _)
  | writeMultiple _ _ => exact .tail _ (.tail _ (.head _))

end Request

namespace Registers
variable {size : Nat}

theorem serve_valid (r : Registers size) {request : Request} (sized : request.Sized)
    (inside : request.address.toNat + request.count ≤ size) : r.serve request.pdu = request.perform r := by
  simp only [serve,Request.asked_pdu sized,if_pos inside]

theorem serve_outside (r : Registers size) {request : Request} (sized : request.Sized)
    (outside : ¬ request.address.toNat + request.count ≤ size) :
    r.serve request.pdu = (refused request.pdu exIllegalDataAddress,r) := by
  simp only [serve,Request.asked_pdu sized,if_neg outside]

theorem serve_malformed (r : Registers size) (pdu : List UInt8) (listed : byteAt pdu 0 ∈ [fcReadHolding,fcWriteSingle,fcWriteMultiple])
    (none : ∀ request : Request, request.Sized → request.pdu ≠ pdu) :
    r.serve pdu = (refused pdu exIllegalDataValue,r) := by
  simp only [serve,Request.asked_none pdu none,if_pos listed]

theorem perform_fits (r : Registers size) {request : Request} (sized : request.Sized) :
    0 < (request.perform r).1.length ∧ (request.perform r).1.length ≤ maxPduSize := by
  cases request with
  | read address quantity =>
      have bounds : 1 ≤ quantity.toNat ∧ quantity.toNat ≤ 125 := sized
      simp only [Request.perform,List.length_append,words_length,slice,List.length_map,List.length_range,List.length_cons,
        List.length_nil,maxPduSize]
      omega
  | writeSingle _ _ => exact ⟨show 0 < 5 by decide,show 5 ≤ 253 by decide⟩
  | writeMultiple _ _ => exact ⟨show 0 < 5 by decide,show 5 ≤ 253 by decide⟩

theorem serve_fits (r : Registers size) (pdu : List UInt8) :
    0 < (r.serve pdu).1.length ∧ (r.serve pdu).1.length ≤ maxPduSize := by
  have short (code : UInt8) : 0 < (refused pdu code).length ∧ (refused pdu code).length ≤ maxPduSize :=
    ⟨show 0 < 2 by decide,show 2 ≤ 253 by decide⟩
  unfold serve
  split
  · rename_i request meant
    split
    · exact perform_fits r (Request.asked_some meant)
    · exact short _
  · split
    · exact short _
    · exact short _

theorem serve_unsized (r : Registers size) {request : Request} (unsized : ¬ request.Sized) :
    r.serve request.pdu = (refused request.pdu exIllegalDataValue,r) := by
  refine serve_malformed r request.pdu request.function_listed ?_
  intro other sized same
  cases Request.pdu_injective same
  exact unsized sized

theorem serve_unlisted (r : Registers size) (pdu : List UInt8)
    (unlisted : byteAt pdu 0 ∉ [fcReadHolding,fcWriteSingle,fcWriteMultiple]) :
    r.serve pdu = (refused pdu exIllegalFunction,r) := by
  have none : ∀ request : Request, request.Sized → request.pdu ≠ pdu := by
    rintro request _ rfl
    exact unlisted request.function_listed
  simp only [serve,Request.asked_none pdu none,if_neg unlisted]

end Registers

namespace HoldingMap
variable {size : Nat}

def registers (m : HoldingMap size) : Registers size := fun i => m.regs.get i

theorem store_registers (m : HoldingMap size) (start : Nat) (values : List UInt16) :
    (m.store start values).registers = m.registers.put start values := by
  induction values generalizing m start with
  | nil =>
      funext i
      exact (if_neg (by simp)).symm
  | cons value rest ih =>
      rw [store,ih]
      funext i
      have set : registers ⟨m.regs.setIfInBounds start value⟩ i = if start = i.val then value else m.registers i :=
        Vector.getElem_setIfInBounds i.isLt
      simp only [Registers.put,set,List.length_cons]
      by_cases first : start = i.val
      · rw [if_neg (by omega),if_pos first,if_pos (by omega),show i.val - start = 0 by omega,List.getD_cons_zero]
      · by_cases later : start + 1 ≤ i.val ∧ i.val < start + 1 + rest.length
        · rw [if_pos later,if_pos (by omega),show i.val - start = i.val - (start + 1) + 1 by omega,List.getD_cons_succ]
        · rw [if_neg later,if_neg first,if_neg (by omega)]

theorem read_registers (m : HoldingMap size) (start count : Nat) (inside : start + count ≤ size) :
    (m.regs.toList.take (start + count)).drop start = m.registers.slice start count := by
  apply List.ext_getElem
  · simp [Registers.slice]
    omega
  · intro i left right
    have bound : i < count := by simpa [Registers.slice] using right
    have here : start + i < size := by omega
    simp [Registers.slice,Registers.word,here,registers]
    rfl

theorem quantity_sized (quantity : UInt16) :
    (quantity < 1 ∨ 125 < quantity) ↔ ¬ (1 ≤ quantity.toNat ∧ quantity.toNat ≤ 125) := by
  rw [UInt16.lt_iff_toNat_lt,UInt16.lt_iff_toNat_lt,show (1 : UInt16).toNat = 1 from rfl,show (125 : UInt16).toNat = 125 from rfl]
  omega

def Served (m : HoldingMap size) (pdu : List UInt8) : Prop :=
  (m.handlePdu pdu).2 = .ok (m.registers.serve pdu).1 ∧ (m.handlePdu pdu).1.registers = (m.registers.serve pdu).2

theorem served_refused {m : HoldingMap size} (handled : m.handlePdu pdu = (m,encodeExceptionResponse (byteAt pdu 0) code))
    (spec : m.registers.serve pdu = (Registers.refused pdu code,m.registers)) : m.Served pdu := by
  rw [Served,handled,spec]
  exact ⟨rfl,rfl⟩

theorem read_served (m : HoldingMap size) (address quantity : UInt16) : m.Served (Request.read address quantity).pdu := by
  have handled : m.handlePdu (Request.read address quantity).pdu =
      match m.read address quantity with
      | .ok values => (m,encodeReadHoldingResponse values)
      | .error failure =>
        if failure.error = .illegalAddress then (m,encodeExceptionResponse fcReadHolding exIllegalDataAddress)
        else if failure.error = .illegalValue then (m,encodeExceptionResponse fcReadHolding exIllegalDataValue)
        else (m,.error failure) := by
    have first : getU16Be (Request.read address quantity).pdu 1 = .ok address := congrArg _ (word_bytes address)
    have second : getU16Be (Request.read address quantity).pdu 3 = .ok quantity := congrArg _ (word_bytes quantity)
    rw [handlePdu,if_neg (by exact List.cons_ne_nil _ _),if_pos (by rfl),if_neg (not_not_intro (by rfl)),first,second]
    rfl
  by_cases sized : (Request.read address quantity).Sized
  · have room : ¬ (quantity < 1 ∨ 125 < quantity) := fun wrong => (quantity_sized quantity).mp wrong sized
    by_cases inside : address.toNat + quantity.toNat ≤ size
    · have values : m.read address quantity = .ok (m.registers.slice address.toNat quantity.toNat) := by
        rw [HoldingMap.read,if_neg room]
        dsimp only
        rw [if_neg (Nat.not_lt.mpr inside),read_registers m _ _ inside]
      have length : (m.registers.slice address.toNat quantity.toNat).length = quantity.toNat := by simp [Registers.slice]
      have encodes : encodeReadHoldingResponse (m.registers.slice address.toNat quantity.toNat) =
          .ok ((Request.read address quantity).perform m.registers).1 := by
        have filled : ¬ (m.registers.slice address.toNat quantity.toNat = [] ∨
            125 < (m.registers.slice address.toNat quantity.toNat).length) := by
          have bounds : 1 ≤ quantity.toNat ∧ quantity.toNat ≤ 125 := sized
          rw [← List.length_eq_zero_iff,length]
          omega
        rw [encodeReadHoldingResponse,if_neg filled,length]
        rfl
      rw [values] at handled
      rw [Served,handled,m.registers.serve_valid sized inside]
      exact ⟨encodes,rfl⟩
    · have far : m.read address quantity = .error ⟨.illegalAddress,"read past map"⟩ := by
        rw [HoldingMap.read,if_neg room]
        exact if_pos (Nat.not_le.mp inside)
      rw [far] at handled
      exact served_refused handled (m.registers.serve_outside sized inside)
  · have wrong : m.read address quantity = .error ⟨.illegalValue,"quantity out of range"⟩ :=
      if_pos ((quantity_sized quantity).mpr sized)
    rw [wrong] at handled
    exact served_refused handled (m.registers.serve_unsized sized)

theorem writeSingle_served (m : HoldingMap size) (address value : UInt16) :
    m.Served (Request.writeSingle address value).pdu := by
  have handled : m.handlePdu (Request.writeSingle address value).pdu =
      match m.writeSingle address value with
      | (m,.ok ()) => (m,encodeWriteSingleResponse address value)
      | (m,.error failure) =>
        if failure.error = .illegalAddress then (m,encodeExceptionResponse fcWriteSingle exIllegalDataAddress)
        else (m,.error failure) := by
    have first : getU16Be (Request.writeSingle address value).pdu 1 = .ok address := congrArg _ (word_bytes address)
    have second : getU16Be (Request.writeSingle address value).pdu 3 = .ok value := congrArg _ (word_bytes value)
    have other : byteAt (Request.writeSingle address value).pdu 0 ≠ fcReadHolding :=
      show fcWriteSingle ≠ fcReadHolding by decide
    rw [handlePdu,if_neg (by exact List.cons_ne_nil _ _),if_neg other,if_pos (by rfl),if_neg (not_not_intro (by rfl)),
      first,second]
    rfl
  by_cases inside : address.toNat + 1 ≤ size
  · have written : m.writeSingle address value = (m.store address.toNat [value],.ok ()) := if_neg (Nat.not_le.mpr inside)
    rw [written] at handled
    rw [Served,handled,m.registers.serve_valid (show (Request.writeSingle address value).Sized from trivial) inside]
    exact ⟨rfl,store_registers m address.toNat [value]⟩
  · have far : m.writeSingle address value = (m,.error ⟨.illegalAddress,"write past map"⟩) :=
      if_pos (Nat.not_lt.mp inside)
    rw [far] at handled
    exact served_refused handled (m.registers.serve_outside (show (Request.writeSingle address value).Sized from trivial) inside)

theorem writeMultiple_served (m : HoldingMap size) (address : UInt16) (values : List UInt16) (few : values.length ≤ 127) :
    m.Served (Request.writeMultiple address values).pdu := by
  have handled : m.handlePdu (Request.writeMultiple address values).pdu =
      match m.writeMultiple address values with
      | (m,.ok ()) => (m,encodeWriteMultipleResponse address (UInt16.ofNat values.length))
      | (m,.error failure) =>
        if failure.error = .illegalAddress then (m,encodeExceptionResponse fcWriteMultiple exIllegalDataAddress)
        else if failure.error = .illegalValue then (m,encodeExceptionResponse fcWriteMultiple exIllegalDataValue)
        else (m,.error failure) := by
    have first : getU16Be (Request.writeMultiple address values).pdu 1 = .ok address := congrArg _ (word_bytes address)
    have second : getU16Be (Request.writeMultiple address values).pdu 3 = .ok (UInt16.ofNat values.length) :=
      congrArg _ (word_bytes _)
    have notRead : byteAt (Request.writeMultiple address values).pdu 0 ≠ fcReadHolding :=
      show fcWriteMultiple ≠ fcReadHolding by decide
    have notSingle : byteAt (Request.writeMultiple address values).pdu 0 ≠ fcWriteSingle :=
      show fcWriteMultiple ≠ fcWriteSingle by decide
    have quantity : (UInt16.ofNat values.length).toNat = values.length := by
      rw [UInt16.toNat_ofNat']
      omega
    have byteCount := Request.multiple_byteCount address few
    have length := Request.multiple_length address values
    have body : (Request.writeMultiple address values).pdu.drop 6 = values.flatMap putU16Be := rfl
    obtain ⟨others,read,_,words⟩ := getWords_exact values.length
      (show 6 + 2 * values.length ≤ (Request.writeMultiple address values).pdu.length by omega)
    rw [body,List.take_of_length_le (Nat.le_of_eq (words_length values))] at words
    rw [words_injective words] at read
    rw [handlePdu,if_neg (by exact List.cons_ne_nil _ _),if_neg notRead,if_neg notSingle,if_pos (by rfl),if_neg (by omega)]
    dsimp only
    rw [first,second]
    dsimp only
    rw [quantity,byteCount,length,if_neg (by omega),read]
    rfl
  by_cases sized : (Request.writeMultiple address values).Sized
  · have bounds : 1 ≤ values.length ∧ values.length ≤ 123 := sized
    have room : ¬ (values = [] ∨ 123 < values.length) := by
      rw [← List.length_eq_zero_iff]
      omega
    by_cases inside : address.toNat + values.length ≤ size
    · have written : m.writeMultiple address values = (m.store address.toNat values,.ok ()) := by
        rw [writeMultiple,if_neg room,if_neg (Nat.not_lt.mpr inside)]
      rw [written] at handled
      rw [Served,handled,m.registers.serve_valid sized inside]
      exact ⟨rfl,store_registers m address.toNat values⟩
    · have far : m.writeMultiple address values = (m,.error ⟨.illegalAddress,"write past map"⟩) := by
        rw [writeMultiple,if_neg room,if_pos (Nat.not_le.mp inside)]
      rw [far] at handled
      exact served_refused handled (m.registers.serve_outside sized inside)
  · have wrong : m.writeMultiple address values = (m,.error ⟨.illegalValue,"quantity out of range"⟩) := by
      have bounds : ¬ (1 ≤ values.length ∧ values.length ≤ 123) := sized
      refine if_pos ?_
      rw [← List.length_eq_zero_iff]
      omega
    rw [wrong] at handled
    exact served_refused handled (m.registers.serve_unsized sized)

theorem six_bytes (six : 6 ≤ pdu.length) :
    pdu = [byteAt pdu 0] ++ putU16Be (wordBe (byteAt pdu 1) (byteAt pdu 2)) ++
      putU16Be (wordBe (byteAt pdu 3) (byteAt pdu 4)) ++ [byteAt pdu 5] ++ pdu.drop 6 := by
  rw [bytes_word,bytes_word]
  match pdu,six with
  | _ :: _ :: _ :: _ :: _ :: _ :: _,_ => rfl

theorem multiple_whole (function : byteAt pdu 0 = fcWriteMultiple) (six : 6 ≤ pdu.length)
    (count : (byteAt pdu 5).toNat = (wordBe (byteAt pdu 3) (byteAt pdu 4)).toNat * 2)
    (length : pdu.length = 6 + (byteAt pdu 5).toNat) :
    ∃ address values, values.length ≤ 127 ∧ pdu = (Request.writeMultiple address values).pdu := by
  have bound := (byteAt pdu 5).toNat_lt
  obtain ⟨values,_,many,words⟩ := getWords_exact (wordBe (byteAt pdu 3) (byteAt pdu 4)).toNat
    (show 6 + 2 * (wordBe (byteAt pdu 3) (byteAt pdu 4)).toNat ≤ pdu.length by omega)
  rw [List.take_of_length_le (by rw [List.length_drop]; omega)] at words
  have quantity : UInt16.ofNat values.length = wordBe (byteAt pdu 3) (byteAt pdu 4) := by
    rw [many,UInt16.ofNat_toNat]
  have byteCount : UInt8.ofNat (values.length * 2) = byteAt pdu 5 := by
    rw [many,← count,UInt8.ofNat_toNat]
  refine ⟨wordBe (byteAt pdu 1) (byteAt pdu 2),values,by omega,?_⟩
  rw [Request.pdu,quantity,byteCount,words,← function]
  exact six_bytes six

theorem multiple_served (m : HoldingMap size) (filled : pdu ≠ []) (read : byteAt pdu 0 ≠ fcReadHolding)
    (single : byteAt pdu 0 ≠ fcWriteSingle) (multiple : byteAt pdu 0 = fcWriteMultiple) : m.Served pdu := by
  have listed : byteAt pdu 0 ∈ [fcReadHolding,fcWriteSingle,fcWriteMultiple] := multiple ▸ .tail _ (.tail _ (.head _))
  by_cases agree : 6 ≤ pdu.length ∧ (byteAt pdu 5).toNat = (wordBe (byteAt pdu 3) (byteAt pdu 4)).toNat * 2 ∧
      pdu.length = 6 + (byteAt pdu 5).toNat
  · obtain ⟨address,values,few,rfl⟩ := multiple_whole multiple agree.1 agree.2.1 agree.2.2
    exact m.writeMultiple_served address values few
  · have handled : m.handlePdu pdu = (m,encodeExceptionResponse (byteAt pdu 0) exIllegalDataValue) := by
      rw [handlePdu,if_neg filled,if_neg read,if_neg single,if_pos multiple]
      by_cases short : pdu.length < 6
      · rw [if_pos short]
      · rw [if_neg short,getU16_exact (by omega),getU16_exact (by omega)]
        refine if_pos (show _ ≠ (wordBe (byteAt pdu 3) (byteAt pdu 4)).toNat * 2 ∨ _ ≠ _ from ?_)
        omega
    refine served_refused handled (Registers.serve_malformed _ pdu listed ?_)
    rintro request sized rfl
    obtain ⟨address,values,rfl⟩ := Request.writeMultiple_of_function (request.pdu_function ▸ multiple)
    have bounds : 1 ≤ values.length ∧ values.length ≤ 123 := sized
    have few : values.length ≤ 127 := by omega
    rw [Request.multiple_length,Request.multiple_byteCount address few,Request.multiple_quantity address few] at agree
    omega

theorem served (m : HoldingMap size) (filled : pdu ≠ []) : m.Served pdu := by
  by_cases read : byteAt pdu 0 = fcReadHolding
  · by_cases five : pdu.length = 5
    · have whole := five_bytes five
      rw [read] at whole
      rw [whole]
      exact m.read_served _ _
    · refine served_refused (by rw [handlePdu,if_neg filled,if_pos read,if_pos five])
        (Registers.serve_malformed _ pdu (read ▸ .head _) ?_)
      rintro request _ rfl
      obtain ⟨address,quantity,rfl⟩ := Request.read_of_function (request.pdu_function ▸ read)
      exact five rfl
  by_cases single : byteAt pdu 0 = fcWriteSingle
  · by_cases five : pdu.length = 5
    · have whole := five_bytes five
      rw [single] at whole
      rw [whole]
      exact m.writeSingle_served _ _
    · refine served_refused (by rw [handlePdu,if_neg filled,if_neg read,if_pos single,if_pos five])
        (Registers.serve_malformed _ pdu (single ▸ .tail _ (.head _)) ?_)
      rintro request _ rfl
      obtain ⟨address,value,rfl⟩ := Request.writeSingle_of_function (request.pdu_function ▸ single)
      exact five rfl
  by_cases multiple : byteAt pdu 0 = fcWriteMultiple
  · exact m.multiple_served filled read single multiple
  · refine served_refused (by rw [handlePdu,if_neg filled,if_neg read,if_neg single,if_neg multiple])
      (Registers.serve_unlisted _ pdu ?_)
    simp [read,single,multiple]

end HoldingMap

namespace Serving
variable {size : Nat}

def reply (request : Adu) (pdu : List UInt8) : Adu :=
  {mbap := {request.sized.mbap with protocolId := protocolId},pdu := pdu}

noncomputable def answer (s : Serving size) (request : Adu) : Serving size :=
  {s with
    map := (s.map.handlePdu request.pdu).1
    sent := s.sent ++ [aduWire (reply request (s.map.registers.serve request.pdu).1)]}

theorem reply_encoded (r : Registers size) (request : Adu) :
    Encoded (reply request (r.serve request.pdu).1) (aduWire (reply request (r.serve request.pdu).1)) :=
  wire_encoded (encode_exact.mpr ⟨(r.serve_fits request.pdu).1,(r.serve_fits request.pdu).2,rfl,rfl⟩)

theorem frame_served (s : Serving size) (e : Encoded request wire) : serveFrame (fun _ => true) s wire = s.answer request := by
  obtain ⟨response,_⟩ := s.map.served (List.length_pos_iff.mp e.some)
  have encoded := encode_exact.mpr (reply_encoded s.map.registers request)
  cases handled : s.map.handlePdu request.pdu with
  | mk map result =>
      rw [handled] at response
      cases response
      have pdu : s.map.handlePdu request.sized.pdu = _ := handled
      simp only [serveFrame,e.decodes,pdu]
      erw [encoded]
      simp [answer,handled]

theorem answers_framer (s : Serving size) (f : StreamFramer) (requests : List Adu) :
    requests.foldl answer {s with framer := f} = {requests.foldl answer s with framer := f} := by
  induction requests generalizing s with
  | nil => rfl
  | cons request rest ih => exact ih (s.answer request)

theorem answers_live (s : Serving size) (requests : List Adu) : (requests.foldl answer s).live = s.live := by
  induction requests generalizing s with
  | nil => rfl
  | cons request rest ih => exact ih (s.answer request)

theorem pop_served (drains : StreamFramer.codec.Drains bytes frames rest) (s : Serving size) (requests : List Adu)
    (buffered : s.framer.buffer = bytes) (live : s.live = true) (room : bytes.length ≤ fuel)
    (wires : frames = requests.map aduWire) (encoded : ∀ request ∈ requests, Encoded request (aduWire request)) :
    popFrames (fun _ => true) fuel s = {requests.foldl answer s with framer := ⟨rest⟩} := by
  have framer : s.framer = ⟨bytes⟩ := congrArg StreamFramer.mk buffered
  induction drains generalizing s fuel requests with
  | @rest bytes waits =>
      obtain rfl : requests = [] := List.map_eq_nil_iff.mp wires.symm
      obtain ⟨reason,judged,waiting⟩ := waits
      have same : {s with framer := ⟨bytes⟩} = s := by rw [← framer]
      rw [List.foldl_nil,same]
      cases fuel with
      | zero => rfl
      | succ fuel =>
          rw [popFrames,framer,StreamFramer.decode_error judged]
          exact if_pos (by simpa [StreamFramer.codec] using waiting)
  | @frame bytes frame n frames rest decoded onward ih =>
      obtain ⟨popped,_,large,inside⟩ := StreamFramer.decode_ok decoded
      obtain ⟨fuel,rfl⟩ : ∃ less, fuel = less + 1 := ⟨fuel - 1,by omega⟩
      cases requests with
      | nil => cases wires
      | cons request requests =>
          obtain ⟨rfl,rfl⟩ := List.cons.inj wires
          simp only [List.forall_mem_cons] at encoded
          rw [popFrames,framer,popped]
          dsimp only
          rw [frame_served {s with framer := ⟨bytes.drop n⟩} encoded.1]
          refine (if_pos live).trans ?_
          have fewer : (bytes.drop n).length ≤ fuel := by
            rw [List.length_drop]
            omega
          refine (ih ({s with framer := ⟨bytes.drop n⟩}.answer request) requests rfl live fewer rfl encoded.2 rfl).trans ?_
          exact congrArg (fun t : Serving size => {t with framer := ⟨rest⟩}) (answers_framer (s.answer request) _ requests)

theorem client_served (events : List ServerEvent) (requests : List Adu) (unbroken : .ended ∉ events) (waits : StreamFramer.codec.Waits held)
    (fed : StreamFramer.codec.Fed held (events.map (·.bytes)) (requests.map aduWire) rest)
    (encoded : ∀ request ∈ requests, Encoded request (aduWire request)) (s : Serving size)
    (framer : s.framer = ⟨held⟩) (live : s.live = true) :
    s.serveClient (fun _ => true) events = {requests.foldl answer s with framer := ⟨rest⟩} := by
  induction events generalizing s held requests with
  | nil =>
      generalize wires : requests.map aduWire = frames at fed
      cases fed
      obtain rfl : requests = [] := List.map_eq_nil_iff.mp wires
      rw [← framer]
      rfl
  | cons event events ih =>
      generalize wires : requests.map aduWire = frames at fed
      cases fed with
      | @cons _ _ values middle _ more _ drains fed =>
          obtain ⟨front,back,rfl,rfl,rfl⟩ := List.map_eq_append_iff.mp wires
          rw [List.forall_mem_append] at encoded
          have stepped : s.round (fun _ => true) event = {front.foldl answer s with framer := ⟨middle⟩} := by
            cases event with
            | ended => exact absurd (.head _) unbroken
            | idle =>
                obtain ⟨none,rfl⟩ := drains_unique (.rest waits) ((List.append_nil held) ▸ drains)
                obtain rfl : front = [] := List.map_eq_nil_iff.mp none
                rw [← framer]
                rfl
            | received chunk =>
                refine (pop_served drains {s with framer := s.framer.append chunk.bytes} front (by rw [framer]; rfl) live
                  (by rw [framer]; exact Nat.le_refl _) rfl encoded.1).trans ?_
                rw [answers_framer]
          have onward := ih back (fun later => unbroken (.tail _ later)) (drains_waits drains) fed encoded.2
            {front.foldl answer s with framer := ⟨middle⟩} rfl ((answers_live s front).trans live)
          have first : s.serveClient (fun _ => true) (event :: events) =
              (s.round (fun _ => true) event).serveClient (fun _ => true) events := by
            simp only [serveClient,List.foldl_cons,live,if_true]
          rw [first,stepped,List.foldl_append]
          refine onward.trans ?_
          exact congrArg (fun t : Serving size => {t with framer := ⟨rest⟩})
            (answers_framer (front.foldl answer s) ⟨middle⟩ back)

noncomputable def replies (r : Registers size) : List Adu → List Adu
  | [] => []
  | request :: rest => reply request (r.serve request.pdu).1 :: replies (r.serve request.pdu).2 rest

theorem answers_exact (s : Serving size) (requests : List Adu)
    (encoded : ∀ request ∈ requests, Encoded request (aduWire request)) :
    (requests.foldl answer s).sent = s.sent ++ (replies s.map.registers requests).map aduWire ∧
      (requests.foldl answer s).map.registers = (s.map.registers.serveAll (requests.map (·.pdu))).2 := by
  induction requests generalizing s with
  | nil => exact ⟨(List.append_nil _).symm,rfl⟩
  | cons request rest ih =>
      simp only [List.forall_mem_cons] at encoded
      obtain ⟨_,registers⟩ := s.map.served (List.length_pos_iff.mp encoded.1.some)
      obtain ⟨sent,last⟩ := ih (s.answer request) encoded.2
      have next : (s.answer request).map.registers = (s.map.registers.serve request.pdu).2 := registers
      rw [next] at sent last
      rw [List.foldl_cons,sent,last]
      exact ⟨by simp [answer,replies],rfl⟩

theorem replies_exact (r : Registers size) (requests : List Adu) :
    (replies r requests).map (fun adu => (adu.mbap.transactionId,adu.mbap.unitId)) =
        requests.map (fun adu => (adu.mbap.transactionId,adu.mbap.unitId)) ∧
      (replies r requests).map (·.pdu) = (r.serveAll (requests.map (·.pdu))).1 ∧
      (replies r requests).map encodeAdu = ((replies r requests).map aduWire).map .ok := by
  induction requests generalizing r with
  | nil => exact ⟨rfl,rfl,rfl⟩
  | cons request rest ih =>
      obtain ⟨ids,pdus,wires⟩ := ih (r.serve request.pdu).2
      have encoded := encode_exact.mpr (reply_encoded r request)
      refine ⟨?_,?_,?_⟩
      · rw [replies,List.map_cons,ids]
        rfl
      · rw [replies,List.map_cons,pdus]
        rfl
      · rw [replies,List.map_cons,List.map_cons,List.map_cons,wires,encoded]

theorem requests_encode (requests : List Adu) (encoded : ∀ request ∈ requests, Encoded request (aduWire request)) :
    StreamFramer.codec.Encodes (requests.map aduWire) (requests.flatMap aduWire) := by
  induction requests with
  | nil => exact .nil
  | cons request rest ih =>
      simp only [List.forall_mem_cons] at encoded
      exact .cons encoded.1.frame (ih encoded.2)

structure Refines (r : Registers size) (requests responses : List Adu) (s : Serving size) : Prop where
  live : s.live = true
  drained : s.framer.buffer = []
  sent : responses.map encodeAdu = s.sent.map .ok
  ids : responses.map (fun adu => (adu.mbap.transactionId,adu.mbap.unitId)) =
    requests.map (fun adu => (adu.mbap.transactionId,adu.mbap.unitId))
  pdus : responses.map (·.pdu) = (r.serveAll (requests.map (·.pdu))).1
  registers : s.map.registers = (r.serveAll (requests.map (·.pdu))).2

theorem server_refines_registers (map : HoldingMap size) (requests : List Adu)
    (encodable : ∀ request ∈ requests, ∃ wire, encodeAdu request = .ok wire) (events : List ServerEvent)
    (unbroken : .ended ∉ events) (cut : events.flatMap (·.bytes) = requests.flatMap aduWire) :
    ∃ responses, Refines map.registers requests responses
      (serveClient (fun _ => true) {map := map} events) := by
  have encoded : ∀ request ∈ requests, Encoded request (aduWire request) := by
    intro request listed
    obtain ⟨wire,encodes⟩ := encodable request listed
    exact wire_encoded encodes
  have fed := encodes_fed (requests_encode requests encoded) ((List.flatMap_def ..).symm.trans cut)
  have served := client_served events requests unbroken StreamFramer.codec.empty fed encoded {map := map} rfl rfl
  obtain ⟨sent,registers⟩ := answers_exact {map := map} requests encoded
  obtain ⟨ids,pdus,wires⟩ := replies_exact map.registers requests
  refine ⟨replies map.registers requests,?_⟩
  rw [served]
  exact ⟨answers_live _ requests,rfl,wires.trans (congrArg _ sent.symm),ids,pdus,registers⟩

def threeRequests : List Adu :=
  [{mbap := {transactionId := 1,unitId := 1},pdu := [0x10,0,0,0,2,4,0,7,0,9]},
    {mbap := {transactionId := 2,unitId := 1},pdu := [0x03,0,0,0,3]},{mbap := {transactionId := 3,unitId := 1},pdu := [0x2B]}]

def twoReceives : List ServerEvent :=
  [.received ⟨[0,1,0,0,0,11,1,0x10,0,0,0,2,4],by decide,by decide⟩,.idle,
    .received ⟨[0,7,0,9,0,2,0,0,0,6,1,0x03,0,0,0,3,0,3,0,0,0,2,1,0x2B],by decide,by decide⟩]

theorem server_refines_registers_twoReceives :
    ∃ responses, Refines (HoldingMap.registers ({} : HoldingMap 4)) threeRequests responses
      (serveClient (fun _ => true) {} twoReceives) := by
  refine server_refines_registers {} threeRequests ?_ twoReceives ?_ rfl
  · simp only [threeRequests,List.forall_mem_cons]
    exact ⟨⟨_,rfl⟩,⟨_,rfl⟩,⟨_,rfl⟩,nofun⟩
  · simp [twoReceives]

end Serving

end RobotControlRuntime.Mbus
