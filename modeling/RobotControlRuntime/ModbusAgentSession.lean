import RobotControlRuntime.ModbusAgentServer

namespace RobotControlRuntime
open FrameStream FrameStream.Decoder FrameStream.Codec

def modbusAgentWire (frame : ModbusAgentFrame) : List UInt8 := (modbusAgentFormat.encode frame).getD []

-- What one recv of read_request returns, `wait` ms after the one before. A call
-- that is interrupted only goes round the loop.
structure AgentChunk where
  wait : Nat
  bytes : List UInt8
  some : 0 < bytes.length
  fits : bytes.length ≤ 256

-- `ending` is what read_request returns once nothing more arrives: its timeout, the
-- end of the connection or an error of poll.
def readRequest (timeout : Nat) (ending : Error) (buffer : List UInt8) (elapsed : Nat) :
    List AgentChunk → Result ModbusAgentFrame × List AgentChunk
  | [] => (.error ending,[])
  | chunk :: rest =>
    if timeout ≤ elapsed + chunk.wait then (.error ⟨.timeout,"agent request timeout"⟩,chunk :: rest)
    else
      match modbusAgentFormat.tryDecode (buffer ++ chunk.bytes) with
      | .ok (frame,_) => (.ok frame,rest)
      | .error error =>
        if error.code = .wouldBlock then readRequest timeout ending (buffer ++ chunk.bytes) (elapsed + chunk.wait) rest
        else (.error error,rest)

-- A connection to the agent. `performed` and `sent` record the requests given to
-- handle_request and the replies written.
structure AgentSession where
  service : PhysicalModbusIoService
  performed : List ModbusAgentFrame := []
  sent : List (List UInt8) := []

structure AgentPeer where
  bus : Nat → RtuTransact
  written : Nat → Result Unit := fun _ => .ok ()
  ending : Error := ⟨.timeout,"agent request timeout"⟩

namespace AgentSession

def idle (served : Nat) : Nat := if served = 0 then 1000 else 5000

-- The loop of serve_one. Every round but the last takes a chunk, so their number bounds it.
def serve (peer : AgentPeer) : Nat → Nat → AgentSession → List AgentChunk → AgentSession × Result Unit
  | 0,_,s,_ => (s,.ok ())
  | fuel + 1,served,s,chunks =>
    match readRequest (idle served) peer.ending [] 0 chunks with
    | (.error error,_) =>
      if served ≠ 0 ∧ (error.code = .timeout ∨ error.code = .ioError) then (s,.ok ()) else (s,.error error)
    | (.ok request,rest) =>
      let (service,reply) := s.service.handleRequest (peer.bus served) request
      let s := {s with service := service,performed := s.performed ++ [request]}
      match modbusAgentFormat.encode reply with
      | none => (s,.error ⟨.invalidArgument,"failed to encode agent reply"⟩)
      | some wire =>
        match peer.written served with
        | .error error => (s,.error error)
        | .ok () => serve peer fuel (served + 1) {s with sent := s.sent ++ [wire]} rest

def serveOne (listening : Bool) (accepted : Result Unit) (peer : AgentPeer) (service : PhysicalModbusIoService)
    (chunks : List AgentChunk) : AgentSession × Result Unit :=
  if listening = false then ({service := service},.error ⟨.notOpen,"agent server not listening"⟩)
  else
    match accepted with
    | .error error => ({service := service},.error error)
    | .ok () => serve peer (chunks.length + 1) 0 {service := service} chunks

end AgentSession

def agentReplies (bus : Nat → RtuTransact) (service : PhysicalModbusIoService) (served : Nat) :
    List ModbusAgentFrame → List ModbusAgentFrame
  | [] => []
  | request :: rest =>
    let (service,reply) := service.handleRequest (bus served) request
    reply :: agentReplies bus service (served + 1) rest

def chunkBytes (chunks : List AgentChunk) : List UInt8 := chunks.flatMap (·.bytes)

def chunkWait (chunks : List AgentChunk) : Nat := chunks.foldr (fun chunk total => chunk.wait + total) 0

inductive Tiled : Nat → List ModbusAgentFrame → List AgentChunk → Prop where
  | nil : Tiled served [] []
  | cons : chunkBytes group = modbusAgentWire request → chunkWait group < AgentSession.idle served →
      Tiled (served + 1) requests rest → Tiled served (request :: requests) (group ++ rest)

-- All that the loop sees: a group begins with the bytes of its request.
inductive Taken : Nat → List ModbusAgentFrame → List AgentChunk → Prop where
  | nil : Taken served [] chunks
  | cons : modbusAgentFormat.tryDecode (chunkBytes group) = .ok (request,n) → chunkWait group < AgentSession.idle served →
      Taken (served + 1) requests rest → Taken served (request :: requests) (group ++ rest)

theorem agent_wire (frame : ModbusAgentFrame) (fits : frame.payload.length ≤ FrameFormat.maxPayload) :
    modbusAgentFormat.encode frame = some (modbusAgentWire frame) ∧
      (modbusAgentWire frame).length = FrameFormat.headerSize + frame.payload.length + FrameFormat.crcSize := by
  have encodes : ∃ wire, modbusAgentFormat.encode frame = some wire ∧ _ := FrameFormat.encode_fits frame fits
  obtain ⟨wire,encoded,length⟩ := encodes
  rw [modbusAgentWire,encoded]
  exact ⟨rfl,length⟩

theorem bytes_empty (none : chunkBytes chunks = []) : chunks = [] := by
  cases chunks with
  | nil => rfl
  | cons chunk rest =>
      have empty : chunk.bytes = [] := (List.append_eq_nil_iff.mp none).1
      have filled := chunk.some
      rw [empty] at filled
      cases filled

theorem read_taken (read : readRequest timeout ending buffer elapsed chunks = (.ok request,rest)) :
    ∃ group n, chunks = group ++ rest ∧ modbusAgentFormat.tryDecode (buffer ++ chunkBytes group) = .ok (request,n) ∧
      elapsed + chunkWait group < timeout := by
  induction chunks generalizing buffer elapsed with
  | nil => cases read
  | cons chunk chunks ih =>
      unfold readRequest at read
      split at read
      · cases read
      rename_i early
      split at read
      · rename_i decoded
        cases read
        exact ⟨[chunk],_,rfl,by simpa [chunkBytes] using decoded,by simpa [chunkWait] using early⟩
      · split at read
        · obtain ⟨group,n,rfl,decoded,prompt⟩ := ih read
          refine ⟨chunk :: group,n,rfl,?_,?_⟩
          · simpa [chunkBytes] using decoded
          · simpa [chunkWait,Nat.add_assoc] using prompt
        · cases read

theorem read_tiled (encoded : modbusAgentFormat.encode request = some wire) (whole : buffer ++ chunkBytes group = wire)
    (more : group ≠ []) (prompt : elapsed + chunkWait group < timeout) (rest : List AgentChunk) :
    readRequest timeout ending buffer elapsed (group ++ rest) = (.ok request,rest) := by
  induction group generalizing buffer elapsed with
  | nil => exact absurd rfl more
  | cons chunk group ih =>
      have early : ¬ timeout ≤ elapsed + chunk.wait := by
        simp only [chunkWait,List.foldr_cons] at prompt
        omega
      have onward : buffer ++ chunk.bytes ++ chunkBytes group = wire := by
        rw [← whole,List.append_assoc]
        rfl
      rw [List.cons_append,readRequest,if_neg early]
      have decoded := FrameFormat.decode_encoded encoded
      cases group with
      | nil =>
          rw [← onward,chunkBytes,List.flatMap_nil,List.append_nil] at decoded
          rw [decoded]
          rfl
      | cons next group =>
          have missing : chunkBytes (next :: group) ≠ [] := fun none => nomatch bytes_empty none
          rw [← onward] at decoded
          obtain ⟨reason,judged,waiting⟩ := prefix_waits (d := modbusAgentFormat.codec.toDecoder) decoded missing
          have judged : modbusAgentFormat.tryDecode (buffer ++ chunk.bytes) = .error reason := judged
          have code : reason.code = .wouldBlock := by simpa [FrameFormat.codec] using waiting
          rw [judged]
          refine (if_pos code).trans (ih onward (by simp) ?_)
          simpa only [chunkWait,List.foldr_cons,Nat.add_assoc] using prompt

theorem decoded_length (fits : frame.payload.length ≤ FrameFormat.maxPayload)
    (decoded : modbusAgentFormat.tryDecode bytes = .ok (frame,n)) : (modbusAgentWire frame).length ≤ bytes.length := by
  obtain ⟨total,inside,size⟩ := FrameFormat.decode_parts decoded
  rw [(agent_wire frame fits).2,size,← total]
  exact inside

theorem taken_length (sized : ∀ request ∈ requests, request.payload.length ≤ FrameFormat.maxPayload)
    (taken : Taken served requests chunks) : (requests.flatMap modbusAgentWire).length ≤ (chunkBytes chunks).length := by
  induction taken with
  | nil => exact Nat.zero_le _
  | cons decoded _ _ ih =>
      simp only [List.forall_mem_cons] at sized
      have first := decoded_length sized.1 decoded
      have others := ih sized.2
      simp only [chunkBytes,List.flatMap_cons,List.flatMap_append,List.length_append] at first others ⊢
      omega

theorem taken_tiled (sized : ∀ request ∈ requests, request.payload.length ≤ FrameFormat.maxPayload)
    (whole : chunkBytes chunks = requests.flatMap modbusAgentWire) (taken : Taken served requests chunks) :
    Tiled served requests chunks := by
  induction taken with
  | nil =>
      rw [bytes_empty whole]
      exact .nil
  | @cons group request n served requests rest decoded prompt taken ih =>
      simp only [List.forall_mem_cons] at sized
      have split : chunkBytes group ++ chunkBytes rest = modbusAgentWire request ++ requests.flatMap modbusAgentWire := by
        rw [← List.flatMap_cons,← whole,chunkBytes,chunkBytes,chunkBytes,List.flatMap_append]
      have first := decoded_length sized.1 decoded
      have others := taken_length sized.2 taken
      have lengths := congrArg List.length split
      rw [List.length_append,List.length_append] at lengths
      obtain ⟨own,onward⟩ := List.append_inj split (by omega)
      exact .cons own prompt (ih sized.2 onward)

namespace AgentSession

theorem serve_taken (peer : AgentPeer) (fuel served : Nat) (s : AgentSession) (chunks : List AgentChunk) :
    ∃ done, (serve peer fuel served s chunks).1.performed = s.performed ++ done ∧ Taken served done chunks := by
  induction fuel generalizing served s chunks with
  | zero => exact ⟨[],(List.append_nil _).symm,.nil⟩
  | succ fuel ih =>
      unfold serve
      split
      · split
        · exact ⟨[],(List.append_nil _).symm,.nil⟩
        · exact ⟨[],(List.append_nil _).symm,.nil⟩
      · rename_i request rest read
        obtain ⟨group,n,rfl,decoded,prompt⟩ := read_taken read
        rw [List.nil_append] at decoded
        rw [Nat.zero_add] at prompt
        dsimp only
        split
        · exact ⟨[request],rfl,.cons decoded prompt .nil⟩
        · split
          · exact ⟨[request],rfl,.cons decoded prompt .nil⟩
          · rename_i wire _ _ _
            obtain ⟨done,performed,taken⟩ := ih (served + 1)
              {service := (s.service.handleRequest (peer.bus served) request).1
               performed := s.performed ++ [request]
               sent := s.sent ++ [wire]} rest
            refine ⟨request :: done,?_,.cons decoded prompt taken⟩
            rw [performed,List.append_assoc]
            rfl

theorem serve_tiled (peer : AgentPeer) (written : ∀ k, peer.written k = .ok ()) (tiled : Tiled served requests chunks)
    (sized : ∀ request ∈ requests, request.payload.length ≤ FrameFormat.maxPayload) (s : AgentSession)
    (encodes : ∀ reply ∈ agentReplies peer.bus s.service served requests, (modbusAgentFormat.encode reply).isSome)
    (room : chunks.length < fuel) :
    (serve peer fuel served s chunks).1.performed = s.performed ++ requests ∧
      (serve peer fuel served s chunks).1.sent =
        s.sent ++ (agentReplies peer.bus s.service served requests).map modbusAgentWire := by
  induction tiled generalizing fuel s with
  | @nil served =>
      obtain ⟨fuel,rfl⟩ : ∃ less, fuel = less + 1 := ⟨fuel - 1,by omega⟩
      have stays : (serve peer (fuel + 1) served s []).1 = s := by
        unfold serve readRequest
        dsimp only
        split
        · rfl
        · rfl
      rw [stays]
      exact ⟨(List.append_nil _).symm,(List.append_nil _).symm⟩
  | @cons group request served requests rest own prompt _ ih =>
      obtain ⟨fuel,rfl⟩ : ∃ less, fuel = less + 1 := ⟨fuel - 1,by omega⟩
      simp only [List.forall_mem_cons] at sized
      obtain ⟨encoded,length⟩ := agent_wire request sized.1
      have some : group ≠ [] := by
        rintro rfl
        rw [← own] at length
        simp only [chunkBytes,List.flatMap_nil,List.length_nil,FrameFormat.headerSize] at length
        omega
      have read : readRequest (idle served) peer.ending [] 0 (group ++ rest) = (.ok request,rest) :=
        read_tiled encoded own some (by rw [Nat.zero_add]; exact prompt) rest
      have fewer : rest.length < fuel := by
        have filled := List.length_pos_iff.mpr some
        rw [List.length_append] at room
        omega
      simp only [agentReplies,List.forall_mem_cons] at encodes
      obtain ⟨wire,replied⟩ := Option.isSome_iff_exists.mp encodes.1
      obtain ⟨performed,sent⟩ := ih sized.2
        {service := (s.service.handleRequest (peer.bus served) request).1
         performed := s.performed ++ [request]
         sent := s.sent ++ [wire]} encodes.2 fewer
      have bytes : modbusAgentWire (s.service.handleRequest (peer.bus served) request).2 = wire := by
        rw [modbusAgentWire,replied]
        rfl
      simp only [serve,read,replied,written,performed,sent,agentReplies,List.map_cons,bytes,List.append_assoc,
        List.singleton_append,and_self]

end AgentSession

theorem handle_sequence (service : PhysicalModbusIoService) (transact : RtuTransact) (request : ModbusAgentFrame) :
    (service.handleRequest transact request).2.sequence = request.sequence := by
  unfold PhysicalModbusIoService.handleRequest
  dsimp only
  repeat' split
  all_goals rfl

theorem replies_sequence (bus : Nat → RtuTransact) (service : PhysicalModbusIoService) (served : Nat)
    (requests : List ModbusAgentFrame) :
    (agentReplies bus service served requests).map (·.sequence) = requests.map (·.sequence) := by
  induction requests generalizing service served with
  | nil => rfl
  | cons request rest ih => rw [agentReplies,List.map_cons,ih,handle_sequence,List.map_cons]

structure AllServed (requests : List ModbusAgentFrame) (s : AgentSession) : Prop where
  performed : s.performed = requests
  replied : ∃ replies : List ModbusAgentFrame, replies.map modbusAgentFormat.encode = s.sent.map some ∧
    replies.map (·.sequence) = requests.map (·.sequence)

namespace AgentSession

def quietBus : RtuTransact := fun _ => {rx := .error ⟨.timeout,"no answer"⟩}

def twoProbes : List ModbusAgentFrame := [⟨.probe,1,[]⟩,⟨.probe,2,[]⟩]

def merged : List AgentChunk := [⟨0,twoProbes.flatMap modbusAgentWire,by decide,by decide⟩]

def apart : List AgentChunk :=
  [⟨0,modbusAgentWire ⟨.probe,1,[]⟩,by decide,by decide⟩,⟨20,modbusAgentWire ⟨.probe,2,[]⟩,by decide,by decide⟩]

theorem second_request_lost :
    chunkBytes merged = twoProbes.flatMap modbusAgentWire ∧
      (∀ reply ∈ agentReplies (fun _ => quietBus) (.launched {}) 0 twoProbes, (modbusAgentFormat.encode reply).isSome) ∧
      (serveOne true (.ok ()) {bus := fun _ => quietBus} (.launched {}) merged).1.performed = [⟨.probe,1,[]⟩] := by
  decide +kernel

-- Bytes behind the first frame of a read are dropped with its buffer, so every
-- request is served exactly when none of them shares a receive.
theorem all_served_iff (service : PhysicalModbusIoService) (bus : Nat → RtuTransact) (ending : Error)
    (sized : ∀ request ∈ requests, request.payload.length ≤ 256)
    (encodes : ∀ reply ∈ agentReplies bus service 0 requests, (modbusAgentFormat.encode reply).isSome)
    (whole : chunkBytes chunks = requests.flatMap modbusAgentWire) :
    AllServed requests (serveOne true (.ok ()) {bus := bus,ending := ending} service chunks).1 ↔ Tiled 0 requests chunks := by
  have served : (serveOne true (.ok ()) {bus := bus,ending := ending} service chunks).1 =
      (serve {bus := bus,ending := ending} (chunks.length + 1) 0 {service := service} chunks).1 := rfl
  rw [served]
  constructor
  · intro all
    obtain ⟨done,performed,taken⟩ := serve_taken {bus := bus,ending := ending} (chunks.length + 1) 0 {service := service} chunks
    rw [List.nil_append] at performed
    rw [← performed,all.performed] at taken
    exact taken_tiled sized whole taken
  · intro tiled
    obtain ⟨performed,sent⟩ := serve_tiled {bus := bus,ending := ending} (fun _ => rfl) tiled sized {service := service}
      encodes (Nat.lt_succ_self _)
    refine ⟨performed,agentReplies bus service 0 requests,?_,replies_sequence bus service 0 requests⟩
    rw [sent,List.nil_append,List.map_map]
    refine List.map_congr_left fun reply listed => ?_
    obtain ⟨wire,encoded⟩ := Option.isSome_iff_exists.mp (encodes reply listed)
    rw [Function.comp,modbusAgentWire,encoded]
    rfl

theorem all_served_iff_apart :
    AllServed twoProbes (serveOne true (.ok ()) {bus := fun _ => quietBus} (.launched {}) apart).1 ↔ Tiled 0 twoProbes apart :=
  all_served_iff (.launched {}) (fun _ => quietBus) ⟨.timeout,"agent request timeout"⟩ (by decide) (by decide +kernel)
    (by decide +kernel)

end AgentSession

end RobotControlRuntime
