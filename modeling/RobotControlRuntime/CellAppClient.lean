import RobotControlRuntime.CellAppServer
import RobotControlRuntime.FramedClient

namespace RobotControlRuntime
open StepHistory

def cellAppClient : ClientProfile CellAppMessage where
  format := cellAppFormat
  errorType := .error
  notConnected := ⟨.notOpen,"cell client not connected"⟩
  encodeFailed := ⟨.invalidArgument,"failed to encode cell request"⟩
  returnedError := ⟨.rejected,"cell app returned ERROR"⟩
  unexpected := ⟨.rejected,"unexpected cell message"⟩
  disconnects := true
  noPeer := some ⟨.notOpen,"cell client has no peer"⟩

namespace CellAppClient

-- The entries of the client as calls of its exchange; `sent` is what writing the
-- request came to.
def getStatus (sent : Result Unit) : ClientAction CellAppMessage := .exchange .getStatus .getStatusAck [] sent

def probeCellIo (sent : Result Unit) : ClientAction CellAppMessage := .exchange .probeCellIo .probeCellIoAck [] sent

def activate (sent : Result Unit) : ClientAction CellAppMessage := .exchange .activate .activateAck [] sent

def submitOutput (request : DigitalOutputRequest) (sent : Result Unit) : ClientAction CellAppMessage :=
  .exchange .submitOutput .submitOutputAck (encodeCellOutputPayload request) sent

theorem server_answers {Application : Type} {handler : CellAppHandler Application} (brief : handler.Brief)
    (application : Application) {c : FramedClient CellAppMessage} (live : c.connection = some link)
    (unanswered : link.requests[link.replies.length]? = some request) :
    ∃ next, c.step cellAppClient (.answer (handler.handleRequest application request).2.1) = some next := by
  have answered := handler.handle_exact application request
  have encoded := wire_encodes _ (answered.fits brief)
  have encoded : cellAppClient.format.encode (handler.handleRequest application request).2.1 = some _ := encoded
  simp [FramedClient.step,FramedClient.act,live,unanswered,encoded,answered.sequence]

-- Evaluating a run computes the CRC of every frame in it.
set_option maxRecDepth 20000

theorem cell_replies_attributed (path : Reached (FramedClient.step cellAppClient) {} history c) :
    Throughout (fun m _ => FramedClient.Attributed cellAppClient m) history :=
  FramedClient.replies_attributed path (FramedClient.disconnecting_clean rfl path)

def lateReply : List (ClientAction CellAppMessage) :=
  [.connect (text "cell") 5750 (.ok ()),getStatus (.ok ()),.giveUp ⟨.timeout,"cell reply timeout"⟩,
    .reconnect (.ok ()),activate (.ok ()),.answer ⟨.activateAck,2,[0,2,2,0]⟩,.receive 5,.receive 13]

theorem cell_replies_attributed_lateReply :
    ∃ history c, Reached (FramedClient.step cellAppClient) {} history c ∧
      (∃ m ∈ history, m.before.returned cellAppClient m.action = some (.ok ⟨.activateAck,2,[0,2,2,0]⟩)) ∧
      Throughout (fun m _ => FramedClient.Attributed cellAppClient m) history := by
  have path : Reached (FramedClient.step cellAppClient) {} _ _ := replay_reached lateReply .start rfl
  exact ⟨_,_,path,⟨_,List.mem_cons_self ..,rfl⟩,cell_replies_attributed path⟩

end CellAppClient

end RobotControlRuntime
