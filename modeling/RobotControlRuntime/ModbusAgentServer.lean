import RobotControlRuntime.ModbusAgentClient
import RobotControlRuntime.PhysicalModbusIo

namespace RobotControlRuntime
open StepHistory

-- handle_request. What the service returns is dropped: the acknowledgement carries
-- the snapshot, whether the operation succeeded or not.
def PhysicalModbusIoService.handleRequest (service : PhysicalModbusIoService) (transact : RtuTransact)
    (request : ModbusAgentFrame) : PhysicalModbusIoService × ModbusAgentFrame :=
  let acknowledged (ack : ModbusAgentMessage) (next : PhysicalModbusIoService) : PhysicalModbusIoService × ModbusAgentFrame :=
    (next,⟨ack,request.sequence,encodeProbeAckPayload next.snapshot⟩)
  match request.type with
  | .probe => acknowledged .probeAck (service.probe transact).1
  | .readDi => acknowledged .readDiAck (service.readInputs transact).1
  | .writeDo =>
    match decodeWriteDoPayload request.payload with
    | .error _ => (service,⟨.error,request.sequence,[]⟩)
    | .ok (channel,active) => acknowledged .writeDoAck (service.writeOutput transact channel.toNat active).1
  | .allOff => acknowledged .allOffAck (service.writeAllOutputsOff transact).1
  | _ => (service,⟨.error,request.sequence,[]⟩)

namespace PhysicalModbusIoService

theorem probe_acknowledged {service : PhysicalModbusIoService} {sequence : UInt16} {received : ModbusIoSnapshot}
    (handled : service.handleRequest transact ⟨.probe,sequence,payload⟩ = (next,reply))
    (decoded : decodeProbeAckPayload reply.payload = .ok received) :
    received.deviceState = .online ↔ InputsAnswered transact service.config := by
  cases handled
  rw [state_carried decoded]
  exact service.probe_exact transact

theorem write_handled (service : PhysicalModbusIoService) (transact : RtuTransact) (sequence : UInt16) (channel : UInt8)
    (active : Bool) :
    service.handleRequest transact ⟨.writeDo,sequence,encodeWriteDoPayload channel active⟩ =
      let next := (service.writeOutput transact channel.toNat active).1
      (next,⟨.writeDoAck,sequence,encodeProbeAckPayload next.snapshot⟩) := by
  simp only [handleRequest,writeDo_decodes]

theorem write_acknowledged {service : PhysicalModbusIoService} {sequence : UInt16} {received : ModbusIoSnapshot}
    (listed : channel.toNat < modbusIoChannelCount)
    (handled : service.handleRequest transact ⟨.writeDo,sequence,encodeWriteDoPayload channel active⟩ = (next,reply))
    (decoded : decodeProbeAckPayload reply.payload = .ok received) :
    received.deviceState = .online ↔ CoilAnswered transact service.config (UInt16.ofNat channel.toNat) active := by
  cases (service.write_handled transact sequence channel active).symm.trans handled
  rw [state_carried decoded]
  exact (service.write_exact transact active listed).online_iff

end PhysicalModbusIoService

-- What the network and the agent make of one transaction of a client. `served` is
-- how the bus behaves if the agent gets to the request while the client waits;
-- `reads` are the sizes of the client's recv, and `failure` is how its wait ends
-- if they do not complete a frame.
structure AgentTurn where
  connect : Result Unit := .ok ()
  sent : Result Unit := .ok ()
  served : Option RtuTransact := none
  reads : List Nat := []
  failure : Error := ⟨.timeout,"agent reply timeout"⟩

-- The request reaches the agent in time and every byte of its answer comes back,
-- however TCP cuts it.
structure AgentTurn.Delivers (turn : AgentTurn) (transact : RtuTransact) (answer : List UInt8) : Prop where
  connected : turn.connect = .ok ()
  sent : turn.sent = .ok ()
  served : turn.served = some transact
  fits : answer.length ≤ FrameFormat.maxPayload
  sized : ∀ count ∈ turn.reads, 0 < count ∧ count ≤ 256
  whole : turn.reads.foldr (· + ·) 0 = FrameFormat.headerSize + answer.length + FrameFormat.crcSize

namespace ModbusAgentClient

abbrev Client := FramedClient ModbusAgentMessage

-- The agent takes the oldest unanswered request. A reply that does not encode is
-- not sent.
def serve (agent : PhysicalModbusIoService) (c : Client) : Option RtuTransact → PhysicalModbusIoService × Client
  | none => (agent,c)
  | some transact =>
    match c.connection.bind fun link => link.requests[link.replies.length]? with
    | none => (agent,c)
    | some request =>
      let (agent,reply) := agent.handleRequest transact request
      (agent,(c.step modbusAgentClient (.answer reply)).getD c)

def await (failure : Error) : List Nat → Client → Option (Client × Result ModbusAgentFrame)
  | [],c =>
    match c.act modbusAgentClient (.giveUp failure) with
    | some (next,some result) => some (next,result)
    | _ => none
  | count :: rest,c =>
    match c.act modbusAgentClient (.receive count) with
    | some (next,some result) => some (next,result)
    | some (next,none) => await failure rest next
    | none => none

def exchange (request ack : ModbusAgentMessage) (payload : List UInt8) (turn : AgentTurn)
    (agent : PhysicalModbusIoService) (c : Client) :
    Option (PhysicalModbusIoService × Client × Result ModbusIoSnapshot) :=
  match c.act modbusAgentClient (.exchange request ack payload turn.sent) with
  | none => none
  | some (next,some result) => some (agent,next,acknowledged result)
  | some (waiting,none) =>
    let (agent,waiting) := serve agent waiting turn.served
    match await turn.failure turn.reads waiting with
    | none => none
    | some (next,result) => some (agent,next,acknowledged result)

theorem receive_parts {c next : Client} (reading : FramedClient.Reading modbusAgentClient call link) (calling : c.call = some call)
    (live : c.connection = some link) (acted : c.act modbusAgentClient (.receive count) = some (next,result)) :
    (result = none ∧ ∃ buffer incoming, next.call = some {call with buffer := buffer} ∧
        next.connection = some {link with incoming := incoming} ∧
        FramedClient.Reading modbusAgentClient {call with buffer := buffer} {link with incoming := incoming}) ∨
      ∃ ended, result = some ended ∧ next.call = none ∧
        ∀ frame, ended = .ok frame → link.replies[call.index]? = some frame := by
  cases FramedClient.act_exact acted with
  | received calling' live' some inside got =>
      cases calling.symm.trans calling'
      cases live.symm.trans live'
      obtain ⟨reply,listed,_,⟨none,connection,buffer,waits,onward⟩ | ⟨done,_,ended,same,own⟩⟩ :=
        FramedClient.reading_received reading some inside got
      · exact .inl ⟨none,buffer,_,waits,connection,onward⟩
      · refine .inr ⟨ended,same,done,fun frame success => ?_⟩
        rw [own frame success]
        exact listed

theorem await_own {failure : Error} (reading : FramedClient.Reading modbusAgentClient call link) (calling : c.call = some call)
    (live : c.connection = some link) (ended : await failure reads c = some (next,result)) :
    next.call = none ∧ ∀ frame, result = .ok frame → link.replies[call.index]? = some frame := by
  induction reads generalizing c call link with
  | nil =>
      unfold await at ended
      split at ended
      · rename_i acted
        cases ended
        cases FramedClient.act_exact acted with
        | gaveUp _ => exact ⟨rfl,nofun⟩
      · cases ended
  | cons count rest ih =>
      unfold await at ended
      split at ended
      · rename_i acted
        cases ended
        obtain ⟨waits,_⟩ | ⟨_,same,done,own⟩ := receive_parts reading calling live acted
        · cases waits
        · cases same
          exact ⟨done,own⟩
      · rename_i waiting acted
        obtain ⟨_,buffer,incoming,waits,connection,onward⟩ | ⟨_,same,_⟩ := receive_parts reading calling live acted
        · have later := ih onward waits connection ended
          exact later
        · cases same
      · cases ended

theorem serve_own {ack : ModbusAgentMessage} (calling : c.call = some ⟨request,0,ack,[]⟩)
    (live : c.connection = some {requests := [request]})
    (turned : serve agent c served = (agent',next)) :
    ∃ link, next.call = some ⟨request,0,ack,[]⟩ ∧ next.connection = some link ∧
      FramedClient.Reading modbusAgentClient ⟨request,0,ack,[]⟩ link ∧
      ∀ reply, link.replies[0]? = some reply →
        ∃ transact, served = some transact ∧ agent.handleRequest transact request = (agent',reply) := by
  have unread : FramedClient.Reading modbusAgentClient ⟨request,0,ack,[]⟩ {requests := [request]} :=
    ⟨rfl,rfl,.inl ⟨rfl,rfl,rfl⟩⟩
  cases served with
  | none =>
      cases turned
      exact ⟨_,calling,live,unread,nofun⟩
  | some transact =>
      simp only [serve,live,Option.bind_some,List.length_nil,List.getElem?_cons_zero] at turned
      cases answered : c.step modbusAgentClient (.answer (agent.handleRequest transact request).2) with
      | none =>
          rw [answered] at turned
          cases turned
          exact ⟨_,calling,live,unread,nofun⟩
      | some answering =>
          rw [answered] at turned
          cases turned
          obtain ⟨_,acted⟩ := FramedClient.step_act answered
          cases FramedClient.act_exact acted with
          | answered live' unanswered encoded _ =>
              cases live.symm.trans live'
              refine ⟨_,calling,rfl,FramedClient.reading_answered unread unanswered encoded,fun reply listed => ?_⟩
              cases listed
              exact ⟨transact,rfl,rfl⟩

theorem exchange_own {ack : ModbusAgentMessage} (idle : c.call = none) (fresh : c.connection = some {})
    (ended : exchange request ack payload turn agent c = some (agent',next,result)) :
    next.call = none ∧ ∀ snapshot, result = .ok snapshot →
      ∃ transact reply, turn.served = some transact ∧
        agent.handleRequest transact ⟨request,c.nextSequence,payload⟩ = (agent',reply) ∧
        decodeProbeAckPayload reply.payload = .ok snapshot := by
  obtain ⟨_,sent,served,reads,failure⟩ := turn
  unfold exchange at ended
  split at ended
  · cases ended
  · rename_i early acted
    cases ended
    have failing : next.call = none ∧ ∀ frame, early ≠ .ok frame := by
      cases FramedClient.act_exact acted with
      | closed _ gone => cases fresh.symm.trans gone
      | oversized _ _ => exact ⟨idle,fun _ => by simp⟩
      | unsent _ _ _ => exact ⟨rfl,fun _ => by simp⟩
    refine ⟨failing.1,fun snapshot success => ?_⟩
    obtain ⟨frame,same,_⟩ := acknowledged_parts success
    exact absurd same (failing.2 frame)
  · rename_i waiting acted
    cases turned : serve agent waiting served with
    | mk served' answering =>
        simp only [turned] at ended
        split at ended
        · cases ended
        · rename_i returns
          cases ended
          cases FramedClient.act_exact acted with
          | sent _ live =>
              cases fresh.symm.trans live
              obtain ⟨link,calling,linked,reading,own⟩ := serve_own rfl rfl turned
              obtain ⟨done,ends⟩ := await_own reading calling linked returns
              refine ⟨done,fun snapshot success => ?_⟩
              obtain ⟨frame,same,decoded⟩ := acknowledged_parts success
              obtain ⟨transact,rfl,handled⟩ := own frame (ends frame same)
              exact ⟨transact,frame,rfl,handled,decoded⟩

theorem await_delivered {failure : Error} {call : PendingCall ModbusAgentMessage} {link : Connection ModbusAgentMessage}
    (calling : c.call = some call) (live : c.connection = some link)
    (encoded : modbusAgentClient.format.encode reply = some wire) (split : call.buffer ++ link.incoming = wire)
    (typed : reply.type = call.ack) (accepted : call.ack ≠ .error) (pending : link.incoming ≠ [])
    (sized : ∀ count ∈ reads, 0 < count ∧ count ≤ 256) (total : reads.foldr (· + ·) 0 = link.incoming.length) :
    ∃ next, await failure reads c = some (next,.ok reply) := by
  induction reads generalizing c call link with
  | nil => exact absurd (List.length_eq_zero_iff.mp total.symm) pending
  | cons count rest ih =>
      have head := sized count (List.mem_cons_self ..)
      rw [List.foldr_cons] at total
      have possible : ¬ (count = 0 ∨ 256 < count ∨ link.incoming.length < count) := by omega
      have cut := List.take_append_drop count link.incoming
      simp only [await,FramedClient.act,calling,live,if_neg possible]
      by_cases complete : link.incoming.drop count = []
      · rw [complete,List.append_nil] at cut
        rw [FramedClient.received_own encoded (by rw [cut,split]) typed accepted]
        exact ⟨_,rfl⟩
      · have onward : call.buffer ++ link.incoming.take count ++ link.incoming.drop count = wire := by
          rw [List.append_assoc,cut,split]
        rw [FramedClient.received_part encoded onward complete]
        refine ih rfl rfl onward typed accepted complete ?_ ?_
        · exact fun later listed => sized later (List.mem_cons_of_mem _ listed)
        · rw [List.length_drop]
          omega

theorem exchange_delivered {ack : ModbusAgentMessage} {turn : AgentTurn} (delivers : turn.Delivers transact answer)
    (idle : c.call = none) (fresh : c.connection = some {}) (small : payload.length ≤ FrameFormat.maxPayload)
    (handled : agent.handleRequest transact ⟨request,c.nextSequence,payload⟩ = (agent',⟨ack,c.nextSequence,answer⟩))
    (accepted : ack ≠ .error) :
    ∃ next, exchange request ack payload turn agent c = some (agent',next,decodeProbeAckPayload answer) := by
  obtain ⟨_,sent,served,fits,sized,whole⟩ := delivers
  have sending : ∃ bytes, modbusAgentClient.format.encode ⟨request,c.nextSequence,payload⟩ = some bytes ∧ _ :=
    FrameFormat.encode_fits _ small
  have answering : ∃ wire, modbusAgentClient.format.encode ⟨ack,c.nextSequence,answer⟩ = some wire ∧ _ :=
    FrameFormat.encode_fits _ fits
  obtain ⟨_,asked,_⟩ := sending
  obtain ⟨wire,encoded,length⟩ := answering
  simp only [exchange,FramedClient.act,idle,fresh,sent,served,Option.isSome_none,Bool.false_eq_true,if_false,asked,serve,
    Option.bind_some,List.nil_append,List.length_nil,List.getElem?_cons_zero,handled,FramedClient.step,encoded,if_true,
    Option.map_some,Option.getD_some]
  have pending : wire ≠ [] := by
    rintro rfl
    simp only [List.length_nil,FrameFormat.headerSize] at length
    omega
  have delivered : ∃ next, await turn.failure turn.reads
      {c with
        connection := some ⟨[⟨request,c.nextSequence,payload⟩],[⟨ack,c.nextSequence,answer⟩],wire⟩
        nextSequence := c.nextSequence + 1
        call := some ⟨⟨request,c.nextSequence,payload⟩,0,ack,[]⟩} = some (next,.ok ⟨ack,c.nextSequence,answer⟩) :=
    await_delivered rfl rfl encoded rfl rfl accepted pending sized (whole.trans length.symm)
  obtain ⟨next,returns⟩ := delivered
  rw [returns]
  exact ⟨next,rfl⟩

end ModbusAgentClient

end RobotControlRuntime
