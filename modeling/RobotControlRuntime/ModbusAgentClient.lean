import RobotControlRuntime.FramedClient
import RobotControlRuntime.ModbusAgentProtocol

namespace RobotControlRuntime
open StepHistory

-- Unlike the cell client, this one keeps its connection when a call fails.
def modbusAgentClient : ClientProfile ModbusAgentMessage where
  format := modbusAgentFormat
  errorType := .error
  notConnected := ⟨.notOpen,"agent client not connected"⟩
  encodeFailed := ⟨.invalidArgument,"failed to encode agent request"⟩
  returnedError := ⟨.rejected,"agent returned ERROR"⟩
  unexpected := ⟨.rejected,"unexpected agent message"⟩
  disconnects := false
  noPeer := none

namespace ModbusAgentClient

def probe (sent : Result Unit) : ClientAction ModbusAgentMessage := .exchange .probe .probeAck [] sent

def readInputs (sent : Result Unit) : ClientAction ModbusAgentMessage := .exchange .readDi .readDiAck [] sent

def writeOutput (channel : UInt8) (active : Bool) (sent : Result Unit) : ClientAction ModbusAgentMessage :=
  .exchange .writeDo .writeDoAck (encodeWriteDoPayload channel active) sent

def writeAllOutputsOff (sent : Result Unit) : ClientAction ModbusAgentMessage := .exchange .allOff .allOffAck [] sent

def acknowledged (result : Result ModbusAgentFrame) : Result ModbusIoSnapshot :=
  match result with
  | .error error => .error error
  | .ok frame => decodeProbeAckPayload frame.payload

def returned (c : FramedClient ModbusAgentMessage) (action : ClientAction ModbusAgentMessage) :
    Option (Result ModbusIoSnapshot) :=
  (c.returned modbusAgentClient action).map acknowledged

def Attributed (m : FramedClient.ClientMoment ModbusAgentMessage) : Prop :=
  ∀ snapshot, returned m.before m.action = some (.ok snapshot) →
    ∃ call link reply, m.before.call = some call ∧ m.before.connection = some link ∧
      link.requests[call.index]? = some call.request ∧ link.replies[call.index]? = some reply ∧
      reply.sequence = call.request.sequence ∧ decodeProbeAckPayload reply.payload = .ok snapshot

theorem acknowledged_parts (success : acknowledged result = .ok snapshot) :
    ∃ frame, result = .ok frame ∧ decodeProbeAckPayload frame.payload = .ok snapshot := by
  cases result with
  | error error => cases success
  | ok frame => exact ⟨frame,rfl,success⟩

theorem attributed_snapshot (frames : FramedClient.Attributed modbusAgentClient m) : Attributed m := by
  intro snapshot success
  obtain ⟨result,ended,value⟩ := Option.map_eq_some_iff.mp success
  obtain ⟨frame,rfl,decoded⟩ := acknowledged_parts value
  obtain ⟨call,link,calling,live,own,answered,same⟩ := frames frame ended
  exact ⟨call,link,frame,calling,live,own,answered,same,decoded⟩

-- Evaluating a run computes the CRC of every frame in it.
set_option maxRecDepth 20000

def observed (active : Bool) : ModbusIoSnapshot :=
  {digitalInputs := Vector.ofFn fun i => {channel := UInt8.ofNat i.val,active := active}}

def overtaken : List (ClientAction ModbusAgentMessage) :=
  [.connect (text "agent") 5760 (.ok ()),probe (.ok ()),.giveUp ⟨.timeout,"agent reply timeout"⟩,
    .answer ⟨.probeAck,1,encodeProbeAckPayload (observed true)⟩,probe (.ok ()),.receive 63]

theorem late_reply_returned :
    ∃ history c, Reached (FramedClient.step modbusAgentClient) {} history c ∧
      ¬ Throughout (fun m _ => Attributed m) history := by
  have path : Reached (FramedClient.step modbusAgentClient) {} _ _ := replay_reached overtaken .start rfl
  refine ⟨_,_,path,fun attributed => ?_⟩
  obtain ⟨call,link,reply,calling,live,_,answered,_⟩ := attributed.1 _ rfl
  cases calling
  cases live
  cases answered

theorem agent_replies_attributed (path : Reached (FramedClient.step modbusAgentClient) {} history c)
    (clean : Throughout FramedClient.StartsClean history) : Throughout (fun m _ => Attributed m) history :=
  throughout_mono (fun _ _ frames => attributed_snapshot frames) (FramedClient.replies_attributed path clean)

def reconnected : List (ClientAction ModbusAgentMessage) :=
  [.connect (text "agent") 5760 (.ok ()),probe (.ok ()),.giveUp ⟨.timeout,"agent reply timeout"⟩,
    .answer ⟨.probeAck,1,encodeProbeAckPayload (observed true)⟩,.connect (text "agent") 5760 (.ok ()),probe (.ok ()),
    .answer ⟨.probeAck,2,encodeProbeAckPayload (observed false)⟩,.receive 30,.receive 33]

theorem agent_replies_attributed_reconnected :
    ∃ history c, Reached (FramedClient.step modbusAgentClient) {} history c ∧
      (∃ m ∈ history, ∃ snapshot, returned m.before m.action = some (.ok snapshot) ∧
        snapshot.digitalInputs = (observed false).digitalInputs) ∧
      Throughout (fun m _ => Attributed m) history := by
  have path : Reached (FramedClient.step modbusAgentClient) {} _ _ := replay_reached reconnected .start rfl
  exact ⟨_,_,path,⟨_,List.mem_cons_self ..,_,rfl,rfl⟩,agent_replies_attributed path (by decide +kernel)⟩

end ModbusAgentClient

end RobotControlRuntime
