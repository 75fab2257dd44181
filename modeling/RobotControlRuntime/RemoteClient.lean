import RobotControlRuntime.Library.Answering
import RobotControlRuntime.RemoteControl
import RobotControlRuntime.WireFields

namespace RobotControlRuntime
open Answering
open RemoteControlEndpoint (replyFrame resetSession reply_encodes)

def projectRemoteStatus (snapshot : RuntimeTelemetrySnapshot) : RemoteStatusView where
  observedMonotonicNs := snapshot.observedMonotonicNs
  mode := snapshot.runtime.mode
  fault := snapshot.runtime.fault
  started := snapshot.runtime.started
  online := snapshot.device.online
  sessionId := snapshot.device.sessionId
  lastHeartbeatSequence := snapshot.device.lastHeartbeatSequence
  heartbeatAgeNs := snapshot.device.heartbeatAgeNs
  framesReceived := snapshot.communication.framesReceived
  framesSent := snapshot.communication.framesSent
  decodeRejects := snapshot.communication.decodeRejects
  inputQueueDropCount := snapshot.communication.inputQueueDropCount
  evidence :=
    if snapshot.communication.evidence = .unspecified then .loopback else snapshot.communication.evidence

def encodeHello (sequence : UInt16) : Option (List UInt8) :=
  (replyFrame .hello sequence [RemoteFrame.protocolVersion]).encode

def encodeHeartbeat (sequence : UInt16) (clientMonotonicNs : Int64) : Option (List UInt8) :=
  (replyFrame .heartbeat sequence (u64Le clientMonotonicNs.toUInt64)).encode

def encodeGetStatus (sequence : UInt16) : Option (List UInt8) := (replyFrame .getStatus sequence []).encode

structure RemoteHelloAck where
  protocolVersion : UInt8 := 0
  evidenceTag : List UInt8 := []
  deriving DecidableEq

-- The tag ends at its first zero byte, or with the payload.
def decodeHelloAck : List UInt8 → Option RemoteHelloAck
  | [] => none
  | version :: tag => some ⟨version,tag.takeWhile (· ≠ 0)⟩

inductive RemoteBackendMode where
  | localBackend | remoteLoopback
  deriving DecidableEq

structure RemoteConnectionSnapshot where
  mode : RemoteBackendMode := .localBackend
  connected : Bool := false
  evidenceBanner : String := "LOCAL / SAME PROCESS"
  peer : String := "n/a"
  sessionState : RemoteSessionState := .waitingHello
  heartbeatsOk : UInt64 := 0
  heartbeatsMissed : UInt64 := 0
  statusOk : UInt64 := 0
  malformed : UInt64 := 0
  lastError : String := ""
  lastStatus : RemoteStatusView := {}
  deriving DecidableEq

structure RemoteRuntimeClient where
  parser : RemoteFrameParser := {}
  connected : Bool := false
  nextSequence : UInt16 := 1
  heartbeatsOk : UInt64 := 0
  heartbeatsMissed : UInt64 := 0
  statusOk : UInt64 := 0
  lastError : String := ""
  evidenceTag : List UInt8 := []
  lastStatus : RemoteStatusView := {}
  sessionState : RemoteSessionState := .waitingHello

-- The client and the endpoint it points to, if any. `traffic` is a record: every
-- request with the bytes that came back, the newest first.
structure RemoteLink where
  client : RemoteRuntimeClient := {}
  endpoint : Option RemoteControlEndpoint := none
  traffic : List (List UInt8 × List UInt8) := []

namespace RemoteLink

def failed (l : RemoteLink) (message : String) : RemoteLink := {l with client.lastError := message}

def exchange (l : RemoteLink) (request : List UInt8) : RemoteLink × Option RemoteFrame :=
  match l.endpoint with
  | none => (l.failed "no endpoint",none)
  | some endpoint =>
    let (answering,outbound) := endpoint.pushBytes request
    let l := {l with endpoint := some answering,traffic := (request,outbound) :: l.traffic}
    if outbound = [] then (l.failed "empty reply",none)
    else
      match ({} : RemoteFrameParser).append outbound with
      | (parser,.bufferOverflow) => ({l with client.parser := parser}.failed "reply buffer overflow",none)
      | (held,_) =>
        match held.tryPop with
        | (parser,.ok reply) =>
          -- one request, one frame
          match parser.tryPop with
          | (parser,.ok _) => ({l with client.parser := parser}.failed "unexpected extra reply frame",none)
          | (parser,_) => ({l with client.parser := parser}.failed "",some reply)
        | (parser,status) => ({l with client.parser := parser}.failed status.toText,none)

def connectSession (l : RemoteLink) (status : RemoteStatusView) : RemoteLink × Bool :=
  match l.endpoint with
  | none => (l.failed "no endpoint",false)
  | some endpoint =>
    let sequence := l.client.nextSequence
    let client := {l.client with
      parser := {}
      connected := false
      sessionState := .waitingHello
      evidenceTag := []
      heartbeatsOk := 0
      heartbeatsMissed := 0
      statusOk := 0
      nextSequence := sequence + 1}
    let l : RemoteLink := {l with client := client,endpoint := some {endpoint.resetSession with status := status}}
    match encodeHello sequence with
    | none => (l.failed "encode HELLO failed",false)
    | some request =>
      match l.exchange request with
      | (l,none) => (l,false)
      | (l,some reply) =>
        if reply.type ≠ .helloAck then (l.failed "expected HELLO_ACK",false)
        else
          match decodeHelloAck reply.payload with
          | none => (l.failed "invalid HELLO_ACK",false)
          | some ack =>
            if ack.protocolVersion ≠ RemoteFrame.protocolVersion then (l.failed "invalid HELLO_ACK",false)
            else ({l with
              client.evidenceTag := ack.evidenceTag
              client.connected := true
              client.sessionState := .established}.failed "",true)

def disconnectSession (l : RemoteLink) : RemoteLink :=
  {l with
    client := {l.client with connected := false,sessionState := .waitingHello,evidenceTag := [],parser := {}}
    endpoint := l.endpoint.map resetSession}

def missed (l : RemoteLink) (message : String) : RemoteLink :=
  {l with client.heartbeatsMissed := l.client.heartbeatsMissed + 1}.failed message

def pollHeartbeat (l : RemoteLink) (clientMonotonicNs : Int64) : RemoteLink × Bool :=
  match l.client.connected,l.endpoint with
  | true,some endpoint =>
    let sequence := l.client.nextSequence
    let l := {l with client.nextSequence := sequence + 1}
    match encodeHeartbeat sequence clientMonotonicNs with
    | none => (l.failed "encode HEARTBEAT failed",false)
    | some request =>
      let (answering,outbound) := endpoint.pushBytes request
      let l := {l with endpoint := some answering,traffic := (request,outbound) :: l.traffic}
      if outbound = [] then (l.missed "heartbeat reply missing",false)
      else
        let (parser,status) := (({} : RemoteFrameParser).append outbound).1.tryPop
        let l := {l with client.parser := parser}
        match status with
        | .ok reply =>
          if reply.type = .heartbeatAck then
            ({l with client.heartbeatsOk := l.client.heartbeatsOk + 1}.failed "",true)
          else (l.missed "heartbeat ack failed",false)
        | _ => (l.missed "heartbeat ack failed",false)
  | _,_ => (l.failed "not connected",false)

def refreshStatus (l : RemoteLink) : RemoteLink × Bool :=
  match l.client.connected,l.endpoint with
  | true,some _ =>
    let sequence := l.client.nextSequence
    let l := {l with client.nextSequence := sequence + 1}
    match encodeGetStatus sequence with
    | none => (l.failed "encode GET_STATUS failed",false)
    | some request =>
      let unanswered (l : RemoteLink) := if l.client.lastError = "" then l.failed "STATUS reply failed" else l
      match l.exchange request with
      | (l,none) => (unanswered l,false)
      | (l,some reply) =>
        if reply.type ≠ .status then (unanswered l,false)
        else
          match decodeRemoteStatusPayload reply.payload with
          | none => (l.failed "STATUS decode failed",false)
          | some status =>
            ({l with client.lastStatus := status,client.statusOk := l.client.statusOk + 1}.failed "",true)
  | _,_ => (l.failed "not connected",false)

def snapshot (l : RemoteLink) (mode : RemoteBackendMode) : RemoteConnectionSnapshot where
  mode := mode
  connected := l.client.connected && mode == .remoteLoopback
  evidenceBanner :=
    match mode with
    | .localBackend => "LOCAL / SAME PROCESS"
    | .remoteLoopback =>
      if l.client.connected then "LOOPBACK / NO PHYSICAL PC-ARM" else "REMOTE_LOOPBACK / DISCONNECTED"
  peer :=
    match mode with
    | .localBackend => "n/a"
    | .remoteLoopback => "in-process endpoint"
  sessionState :=
    match mode with
    | .localBackend => .waitingHello
    | .remoteLoopback => l.client.sessionState
  heartbeatsOk := l.client.heartbeatsOk
  heartbeatsMissed := l.client.heartbeatsMissed
  statusOk := l.client.statusOk
  malformed :=
    match l.endpoint with
    | some endpoint => endpoint.counters.malformed
    | none => 0
  lastError := l.client.lastError
  lastStatus := l.client.lastStatus

end RemoteLink

-- What the Connection page makes the controller do. The snapshots and times are
-- those the adapter and the elapsed timer give at that moment.
inductive RemoteAction where
  | selectLocalBackend
  | selectRemoteLoopbackBackend
  | connectRemoteLoopback (snapshot : RuntimeTelemetrySnapshot)
  | disconnectRemoteLoopback
  | setRemoteHeartbeatRepliesEnabled (enabled : Bool)
  | publishSnapshot (snapshot : RuntimeTelemetrySnapshot) (nowNs : Int64)

structure RemotePage where
  hasAdapter : Bool := true
  remoteMode : RemoteBackendMode := .localBackend
  link : RemoteLink := {endpoint := some {}}

namespace RemotePage

def publish (page : RemotePage) : RemotePage × Option RemoteConnectionSnapshot :=
  (page,some (page.link.snapshot page.remoteMode))

def tickRemoteLoopback (page : RemotePage) (snapshot : RuntimeTelemetrySnapshot) (nowNs : Int64) : RemotePage :=
  if page.hasAdapter = false ∨ page.remoteMode ≠ .remoteLoopback ∨ page.link.client.connected = false then page
  else
    let link := {page.link with
      endpoint := page.link.endpoint.map fun (endpoint : RemoteControlEndpoint) => {endpoint with status := projectRemoteStatus snapshot}}
    {page with link := (link.pollHeartbeat nowNs).1.refreshStatus.1}

def step (page : RemotePage) : RemoteAction → RemotePage × Option RemoteConnectionSnapshot
  | .selectLocalBackend => publish {page with remoteMode := .localBackend,link := page.link.disconnectSession}
  | .selectRemoteLoopbackBackend =>
    publish {page with
      remoteMode := .remoteLoopback
      link := if page.link.client.connected then page.link.disconnectSession else page.link}
  | .connectRemoteLoopback snapshot =>
    if page.hasAdapter = false then (page,none)
    else publish {page with
      remoteMode := .remoteLoopback
      link := (page.link.connectSession (projectRemoteStatus snapshot)).1}
  | .disconnectRemoteLoopback => publish {page with link := page.link.disconnectSession}
  | .setRemoteHeartbeatRepliesEnabled enabled =>
    ({page with
      link.endpoint := page.link.endpoint.map fun (endpoint : RemoteControlEndpoint) => {endpoint with heartbeatRepliesEnabled := enabled}},none)
  | .publishSnapshot snapshot nowNs => publish (page.tickRemoteLoopback snapshot nowNs)

end RemotePage

structure RemoteExchange where
  request : RemoteMessageType
  reply : Option RemoteMessageType

-- The page as it is meant, with no bytes: while the session is open every tick
-- asks once for a heartbeat and takes over the status of that moment.
structure RemoteView where
  hasAdapter : Bool
  remoteMode : RemoteBackendMode := .localBackend
  opened : Bool := false
  answering : Bool := true
  heartbeatsOk : UInt64 := 0
  heartbeatsMissed : UInt64 := 0
  statusOk : UInt64 := 0
  lastStatus : RemoteStatusView := {}
  exchanges : List RemoteExchange := []

namespace RemoteView

def published (view : RemoteView) : RemoteConnectionSnapshot where
  mode := view.remoteMode
  connected := view.opened && view.remoteMode == .remoteLoopback
  evidenceBanner :=
    match view.remoteMode,view.opened with
    | .localBackend,_ => "LOCAL / SAME PROCESS"
    | .remoteLoopback,true => "LOOPBACK / NO PHYSICAL PC-ARM"
    | .remoteLoopback,false => "REMOTE_LOOPBACK / DISCONNECTED"
  peer := if view.remoteMode = .localBackend then "n/a" else "in-process endpoint"
  sessionState := if view.opened && view.remoteMode == .remoteLoopback then .established else .waitingHello
  heartbeatsOk := view.heartbeatsOk
  heartbeatsMissed := view.heartbeatsMissed
  statusOk := view.statusOk
  malformed := 0
  lastError := ""
  lastStatus := view.lastStatus

def publish (view : RemoteView) : RemoteView × Option RemoteConnectionSnapshot := (view,some view.published)

def close (view : RemoteView) : RemoteView := {view with opened := false,answering := true}

def beat (view : RemoteView) : RemoteView :=
  if view.answering then
    {view with heartbeatsOk := view.heartbeatsOk + 1,exchanges := ⟨.heartbeat,some .heartbeatAck⟩ :: view.exchanges}
  else {view with heartbeatsMissed := view.heartbeatsMissed + 1,exchanges := ⟨.heartbeat,none⟩ :: view.exchanges}

theorem beat_keeps (view : RemoteView) :
    view.beat.hasAdapter = view.hasAdapter ∧ view.beat.remoteMode = view.remoteMode ∧ view.beat.opened = view.opened := by
  unfold beat
  split <;> exact ⟨rfl,rfl,rfl⟩

def refresh (view : RemoteView) (snapshot : RuntimeTelemetrySnapshot) : RemoteView :=
  {view with
    statusOk := view.statusOk + 1
    lastStatus := projectRemoteStatus snapshot
    exchanges := ⟨.getStatus,some .status⟩ :: view.exchanges}

def open_ (view : RemoteView) : RemoteView :=
  {view with
    opened := true
    answering := true
    heartbeatsOk := 0
    heartbeatsMissed := 0
    statusOk := 0
    exchanges := ⟨.hello,some .helloAck⟩ :: view.exchanges}

def step (view : RemoteView) : RemoteAction → RemoteView × Option RemoteConnectionSnapshot
  | .selectLocalBackend => publish {view.close with remoteMode := .localBackend}
  | .selectRemoteLoopbackBackend =>
    publish {if view.opened then view.close else view with remoteMode := .remoteLoopback}
  | .connectRemoteLoopback _ =>
    if view.hasAdapter then publish {view.open_ with remoteMode := .remoteLoopback} else (view,none)
  | .disconnectRemoteLoopback => publish view.close
  | .setRemoteHeartbeatRepliesEnabled enabled => ({view with answering := enabled},none)
  | .publishSnapshot snapshot _ =>
    publish (if view.hasAdapter && view.remoteMode == .remoteLoopback && view.opened then view.beat.refresh snapshot else view)

end RemoteView

theorem remote_status_decodes {view : RemoteStatusView} (encoded : encodeRemoteStatusPayload view = some payload) :
    decodeRemoteStatusPayload payload = some view := by
  obtain ⟨padded,length⟩ := padded_exact (remote_fields_length view) (by decide : 57 ≤ remoteStatusWireSize)
  have same := Option.some.inj (encoded.symm.trans padded)
  rw [decodeRemoteStatusPayload,same,if_neg (not_not_intro length)]
  simp only [RemoteStatusView.fields,List.append_assoc,List.cons_append,List.nil_append,readU64_field,readU16_field,drop_u64,
    drop_u16,byteAt_u64,byteAt_u16,byteAt_first,byteAt_later,List.drop_succ_cons,List.drop_zero,flag_read,
    RuntimeModeCode.ofRaw_raw,RuntimeFaultCode.ofRaw_raw,EvidenceClass.ofRaw_raw,Int64.toInt64_toUInt64]

theorem frame_popped {frame : RemoteFrame} (encoded : frame.encode = some wire) :
    wire ≠ [] ∧ RemoteFrameParser.append {} wire = (⟨wire⟩,.needMore) ∧ RemoteFrameParser.tryPop ⟨wire⟩ = ({},.ok frame) := by
  have judged := RemoteFrameParser.judge_encoded encoded
  unfold RemoteFrame.encode at encoded
  split at encoded
  · cases encoded
  rename_i fits
  split at encoded <;> cases encoded
  have length : (frame.unsealed ++ u16Le (remoteCrc16 frame.unsealed)).length = 12 + frame.payload.length + 2 := by
    rw [List.length_append,RemoteFrameParser.unsealed_length,u16_length,RemoteFrame.headerSize]
  generalize frame.unsealed ++ u16Le (remoteCrc16 frame.unsealed) = wire at judged length ⊢
  have whole : wire ≠ [] := by
    rintro rfl
    rw [List.length_nil] at length
    omega
  refine ⟨whole,?_,?_⟩
  · have room : ¬ RemoteFrame.rxBufferCapacity < ([] : List UInt8).length + wire.length := by
      simp only [RemoteFrame.maxPayloadSize] at fits
      simp only [RemoteFrame.rxBufferCapacity,RemoteFrame.maxFrameSize,RemoteFrame.headerSize,RemoteFrame.maxPayloadSize,
        RemoteFrame.crcSize,List.length_nil]
      omega
    rw [RemoteFrameParser.append,if_neg whole,if_neg room,List.nil_append]
  · rw [RemoteFrameParser.tryPop,judged,List.drop_length]

namespace RemoteControlEndpoint

theorem drain_empty {e : RemoteControlEndpoint} (empty : e.parser = {}) (fuel : Nat) : drain fuel e = (e,[]) := by
  cases fuel with
  | zero => rfl
  | succ fuel =>
      have popped : e.parser.tryPop = (e.parser,.needMore) := by rw [empty]; rfl
      simp only [drain,popped]

theorem push_frame {e : RemoteControlEndpoint} (empty : e.parser = {}) (encoded : frame.encode = some wire) :
    e.pushBytes wire = e.handleFrame frame := by
  obtain ⟨whole,appended,popped⟩ := frame_popped encoded
  obtain ⟨first,rest,rfl⟩ := List.exists_cons_of_ne_nil whole
  have same : {e with parser := {}} = e := by rw [← empty]
  have kept := (handle_keeps_buffer e frame).trans empty
  simp only [pushBytes,empty,appended,List.length_cons,drain,popped,same,drain_empty kept,List.append_nil]
  rfl

end RemoteControlEndpoint

namespace RemoteLink

structure Serves (endpoint : RemoteControlEndpoint) (opened answering : Bool) : Prop where
  parser : endpoint.parser = {}
  session : endpoint.sessionState = if opened then .established else .waitingHello
  replies : endpoint.heartbeatRepliesEnabled = answering
  malformed : endpoint.counters.malformed = 0

-- One request that carries the number, and the frame that answers it with the same
-- number; or no bytes at all.
structure Exchanged (sequence : UInt16) (meant : RemoteExchange) (bytes : List UInt8 × List UInt8) : Prop where
  request : ∃ payload, (replyFrame meant.request sequence payload).encode = some bytes.1
  reply :
    match meant.reply with
    | some type => ∃ payload, (replyFrame type sequence payload).encode = some bytes.2
    | none => bytes.2 = []

inductive Sequenced : List RemoteExchange → List (List UInt8 × List UInt8) → Prop where
  | nil : Sequenced [] []
  | cons : Exchanged (UInt16.ofNat (older.length + 1)) meant bytes → Sequenced older rest → Sequenced (meant :: older) (bytes :: rest)

-- A client and its endpoint that stand for the page as it is meant; the text of
-- the last error is apart, a tick may change it on the way.
structure Carries (l : RemoteLink) (view : RemoteView) : Prop where
  opened : l.client.connected = view.opened
  state : l.client.sessionState = if view.opened then .established else .waitingHello
  heartbeatsOk : l.client.heartbeatsOk = view.heartbeatsOk
  heartbeatsMissed : l.client.heartbeatsMissed = view.heartbeatsMissed
  statusOk : l.client.statusOk = view.statusOk
  lastStatus : l.client.lastStatus = view.lastStatus
  numbered : l.client.nextSequence = UInt16.ofNat (view.exchanges.length + 1)
  sequenced : Sequenced view.exchanges l.traffic
  served : ∃ endpoint, l.endpoint = some endpoint ∧ Serves endpoint view.opened view.answering

theorem Carries.moved (carries : Carries l view) (mode : RemoteBackendMode) : Carries l {view with remoteMode := mode} :=
  ⟨carries.opened,carries.state,carries.heartbeatsOk,carries.heartbeatsMissed,carries.statusOk,carries.lastStatus,carries.numbered,
    carries.sequenced,carries.served⟩

theorem next_number (count : Nat) : UInt16.ofNat (count + 1) + 1 = UInt16.ofNat (count + 1 + 1) := by
  apply UInt16.toNat_inj.mp
  simp

theorem exchange_answered {l : RemoteLink} {asked : RemoteControlEndpoint} (points : l.endpoint = some asked)
    (answered : asked.pushBytes request = (answering,wire)) (encoded : reply.encode = some wire) :
    l.exchange request =
      ({l with endpoint := some answering,client.parser := {},traffic := (request,wire) :: l.traffic}.failed "",some reply) := by
  obtain ⟨whole,appended,popped⟩ := frame_popped encoded
  have nothing : RemoteFrameParser.tryPop {} = ({},.needMore) := rfl
  simp only [exchange,points,answered,if_neg whole,appended,popped,nothing]

theorem hello_answered (endpoint : RemoteControlEndpoint) (empty : endpoint.parser = {}) (sequence : UInt16) :
    ∃ request wire tag, encodeHello sequence = some request ∧
      endpoint.pushBytes request =
        ({endpoint with
          counters.framesAccepted := endpoint.counters.framesAccepted + 1
          counters.hellos := endpoint.counters.hellos + 1
          sessionState := .established
          lastError := ""},wire) ∧
      (replyFrame .helloAck sequence (RemoteFrame.protocolVersion :: tag)).encode = some wire := by
  have request := reply_encodes .hello sequence [RemoteFrame.protocolVersion] (by decide)
  have reply := reply_encodes .helloAck sequence (RemoteFrame.protocolVersion :: (text remoteLoopbackEvidenceTag ++ [0])) (by decide)
  refine ⟨_,_,_,request,?_,reply⟩
  rw [RemoteControlEndpoint.push_frame empty request]
  have acked : (replyFrame .helloAck sequence ([RemoteFrame.protocolVersion] ++ text remoteLoopbackEvidenceTag ++ [0])).encode = _ := reply
  simp only [RemoteControlEndpoint.handleFrame,replyFrame] at acked ⊢
  rw [acked]

theorem connect_carried {l : RemoteLink} (carries : Carries l view) (status : RemoteStatusView) :
    Carries (l.connectSession status).1 view.open_ ∧ (l.connectSession status).1.client.lastError = "" := by
  obtain ⟨endpoint,points,_⟩ := carries.served
  obtain ⟨request,wire,tag,encoded,answered,acked⟩ :=
    hello_answered {endpoint.resetSession with status := status} rfl l.client.nextSequence
  have exchanged (l : RemoteLink) (points : l.endpoint = some {endpoint.resetSession with status := status}) :=
    exchange_answered points answered acked
  simp only [connectSession,points,encoded]
  rw [exchanged _ rfl]
  rw [carries.numbered] at encoded acked
  have next := (congrArg (· + 1) carries.numbered).trans (next_number _)
  have exchange : Exchanged (UInt16.ofNat (view.exchanges.length + 1)) ⟨.hello,some .helloAck⟩ (request,wire) := ⟨⟨_,encoded⟩,_,acked⟩
  exact ⟨⟨rfl,rfl,rfl,rfl,rfl,carries.lastStatus,next,.cons exchange carries.sequenced,_,rfl,rfl,rfl,rfl,rfl⟩,rfl⟩

theorem disconnect_carried {l : RemoteLink} (carries : Carries l view) : Carries l.disconnectSession view.close := by
  obtain ⟨endpoint,points,_⟩ := carries.served
  refine ⟨rfl,rfl,carries.heartbeatsOk,carries.heartbeatsMissed,carries.statusOk,carries.lastStatus,carries.numbered,carries.sequenced,
    endpoint.resetSession,?_,rfl,rfl,rfl,rfl⟩
  rw [disconnectSession,points]
  rfl

theorem heartbeat_answered {endpoint : RemoteControlEndpoint} (serves : Serves endpoint true answering) (sequence : UInt16)
    (nowNs : Int64) :
    ∃ request, encodeHeartbeat sequence nowNs = some request ∧
      (endpoint.pushBytes request).1.status = endpoint.status ∧ Serves (endpoint.pushBytes request).1 true answering ∧
      if answering then
        ∃ payload, (replyFrame .heartbeatAck sequence payload).encode = some (endpoint.pushBytes request).2
      else (endpoint.pushBytes request).2 = [] := by
  have eight : (u64Le nowNs.toUInt64).length = 8 := u64_length _
  have request := reply_encodes .heartbeat sequence (u64Le nowNs.toUInt64) (by rw [eight]; decide)
  have reply := reply_encodes .heartbeatAck sequence (u64Le nowNs.toUInt64) (by rw [eight]; decide)
  refine ⟨_,request,?_⟩
  rw [RemoteControlEndpoint.push_frame serves.parser request]
  obtain ⟨status,parser,session,counters,replies,lastError⟩ := endpoint
  obtain ⟨rfl,rfl,rfl,malformed⟩ := serves
  simp only [RemoteControlEndpoint.handleFrame,replyFrame,eight,if_true] at reply ⊢
  cases replies with
  | true =>
      simp only [ne_eq,not_true_eq_false,if_false,reply]
      exact ⟨rfl,⟨rfl,rfl,rfl,malformed⟩,_,reply⟩
  | false => exact ⟨rfl,⟨rfl,rfl,rfl,malformed⟩,rfl⟩

theorem status_answered {endpoint : RemoteControlEndpoint} (serves : Serves endpoint true answering) (sequence : UInt16) :
    ∃ request payload, encodeGetStatus sequence = some request ∧ encodeRemoteStatusPayload endpoint.status = some payload ∧
      Serves (endpoint.pushBytes request).1 true answering ∧
      (replyFrame .status sequence payload).encode = some (endpoint.pushBytes request).2 := by
  have request := reply_encodes .getStatus sequence [] (by decide)
  obtain ⟨payload,encoded,length⟩ := remote_status_encodes endpoint.status
  have reply := reply_encodes .status sequence payload (by rw [length]; decide)
  refine ⟨_,payload,request,encoded,?_⟩
  rw [RemoteControlEndpoint.push_frame serves.parser request]
  obtain ⟨status,parser,session,counters,replies,lastError⟩ := endpoint
  obtain ⟨rfl,rfl,rfl,malformed⟩ := serves
  simp only [RemoteControlEndpoint.handleFrame,replyFrame,if_true,ne_eq,not_true_eq_false,if_false,encoded] at reply ⊢
  rw [reply]
  exact ⟨⟨rfl,rfl,rfl,malformed⟩,rfl⟩

theorem poll_carried {l : RemoteLink} (carries : Carries l view) (live : view.opened = true) (nowNs : Int64) :
    Carries (l.pollHeartbeat nowNs).1 view.beat ∧
      (l.pollHeartbeat nowNs).1.endpoint.map (·.status) = l.endpoint.map (·.status) := by
  obtain ⟨opened,state,heartbeatsOk,heartbeatsMissed,statusOk,lastStatus,numbered,sequenced,endpoint,points,serves⟩ := carries
  have connected := opened.trans live
  have session := serves
  rw [live] at session
  obtain ⟨request,encoded,status,onward,answered⟩ := heartbeat_answered session l.client.nextSequence nowNs
  have next := (congrArg (· + 1) numbered).trans (next_number _)
  have asked := encoded
  rw [numbered] at asked
  rw [← live] at onward
  simp only [pollHeartbeat,connected,points,encoded,RemoteView.beat]
  by_cases answering : view.answering = true
  · rw [if_pos answering] at answered
    obtain ⟨payload,wire⟩ := answered
    obtain ⟨whole,appended,popped⟩ := frame_popped wire
    have acks : (replyFrame .heartbeatAck l.client.nextSequence payload).type = .heartbeatAck := rfl
    simp only [if_neg whole,appended,popped,acks,if_pos answering,if_true]
    rw [numbered] at wire
    have exchange : Exchanged (UInt16.ofNat (view.exchanges.length + 1)) ⟨.heartbeat,some .heartbeatAck⟩ (request,_) := ⟨⟨_,asked⟩,_,wire⟩
    exact ⟨⟨live.symm,state,congrArg (· + 1) heartbeatsOk,heartbeatsMissed,statusOk,lastStatus,next,.cons exchange sequenced,_,rfl,onward⟩,
      congrArg some status⟩
  · rw [if_neg answering] at answered
    simp only [answered,if_neg answering,if_true]
    have exchange : Exchanged (UInt16.ofNat (view.exchanges.length + 1)) ⟨.heartbeat,none⟩ (request,[]) := ⟨⟨_,asked⟩,rfl⟩
    exact ⟨⟨live.symm,state,heartbeatsOk,congrArg (· + 1) heartbeatsMissed,statusOk,lastStatus,next,.cons exchange sequenced,_,rfl,onward⟩,
      congrArg some status⟩

theorem refresh_carried {l : RemoteLink} {telemetry : RuntimeTelemetrySnapshot} (carries : Carries l view)
    (live : view.opened = true) (shown : l.endpoint.map (·.status) = some (projectRemoteStatus telemetry)) :
    Carries l.refreshStatus.1 (view.refresh telemetry) ∧ l.refreshStatus.1.client.lastError = "" := by
  obtain ⟨opened,state,heartbeatsOk,heartbeatsMissed,statusOk,lastStatus,numbered,sequenced,endpoint,points,serves⟩ := carries
  have connected := opened.trans live
  rw [live] at serves
  rw [points] at shown
  obtain ⟨request,payload,encoded,encodes,onward,answered⟩ := status_answered serves l.client.nextSequence
  have exchanged (l : RemoteLink) (points : l.endpoint = some endpoint) : l.exchange request = _ :=
    exchange_answered points (Prod.eta _).symm answered
  have next := (congrArg (· + 1) numbered).trans (next_number _)
  have asked := encoded
  rw [numbered] at asked answered
  rw [← live] at onward
  simp only [refreshStatus,connected,points,encoded]
  rw [exchanged _ rfl]
  simp only [replyFrame,ne_eq,not_true_eq_false,if_false,remote_status_decodes encodes]
  have exchange : Exchanged (UInt16.ofNat (view.exchanges.length + 1)) ⟨.getStatus,some .status⟩ (request,_) := ⟨⟨_,asked⟩,_,answered⟩
  exact ⟨⟨live.symm,state,heartbeatsOk,heartbeatsMissed,congrArg (· + 1) statusOk,Option.some.inj shown,next,.cons exchange sequenced,_,
    rfl,onward⟩,rfl⟩

end RemoteLink

namespace RemotePage
open RemoteLink

structure Shows (page : RemotePage) (view : RemoteView) : Prop where
  adapter : page.hasAdapter = view.hasAdapter
  mode : page.remoteMode = view.remoteMode
  carries : Carries page.link view
  quiet : page.link.client.lastError = ""

theorem shows_published (shows : Shows page view) : page.link.snapshot page.remoteMode = view.published := by
  obtain ⟨endpoint,points,serves⟩ := shows.carries.served
  obtain ⟨opened,state,heartbeatsOk,heartbeatsMissed,statusOk,lastStatus,_,_,_⟩ := shows.carries
  simp only [snapshot,RemoteView.published,shows.mode,shows.quiet,opened,state,heartbeatsOk,heartbeatsMissed,statusOk,lastStatus,
    points,serves.malformed]
  cases view.remoteMode <;> cases view.opened <;> rfl

theorem shows_publish (shows : Shows page view) :
    page.publish.2 = view.publish.2 ∧ Shows page.publish.1 view.publish.1 :=
  ⟨congrArg some (shows_published shows),shows⟩

theorem tick_shows (shows : Shows page view) (telemetry : RuntimeTelemetrySnapshot) (nowNs : Int64) :
    Shows (page.tickRemoteLoopback telemetry nowNs)
      (if view.hasAdapter && view.remoteMode == .remoteLoopback && view.opened then view.beat.refresh telemetry else view) := by
  obtain ⟨adapter,mode,carries,quiet⟩ := shows
  unfold tickRemoteLoopback
  by_cases live : view.hasAdapter = true ∧ view.remoteMode = .remoteLoopback ∧ view.opened = true
  · obtain ⟨attached,remote,opened⟩ := live
    have busy : ¬ (page.hasAdapter = false ∨ page.remoteMode ≠ .remoteLoopback ∨ page.link.client.connected = false) := by
      simp [adapter,mode,carries.opened,attached,remote,opened]
    have meant : (view.hasAdapter && view.remoteMode == .remoteLoopback && view.opened) = true := by simp [attached,remote,opened]
    obtain ⟨endpoint,points,serves⟩ := carries.served
    have updated : Carries {page.link with endpoint := some {endpoint with status := projectRemoteStatus telemetry}} view :=
      ⟨carries.opened,carries.state,carries.heartbeatsOk,carries.heartbeatsMissed,carries.statusOk,carries.lastStatus,carries.numbered,
        carries.sequenced,_,rfl,serves.parser,serves.session,serves.replies,serves.malformed⟩
    obtain ⟨polled,status⟩ := poll_carried updated opened nowNs
    obtain ⟨sameAdapter,sameMode,sameOpened⟩ := view.beat_keeps
    obtain ⟨refreshed,clear⟩ := refresh_carried polled (sameOpened.trans opened) status
    rw [if_neg busy,if_pos meant,points]
    exact ⟨adapter.trans sameAdapter.symm,mode.trans sameMode.symm,refreshed,clear⟩
  · have idle : page.hasAdapter = false ∨ page.remoteMode ≠ .remoteLoopback ∨ page.link.client.connected = false := by
      rw [adapter,mode,carries.opened]
      simpa only [not_and_or,Bool.not_eq_true] using live
    have meant : ¬ (view.hasAdapter && view.remoteMode == .remoteLoopback && view.opened) = true := by
      simpa [and_assoc] using live
    rw [if_pos idle,if_neg meant]
    exact ⟨adapter,mode,carries,quiet⟩

theorem step_shows (shows : Shows page view) (action : RemoteAction) :
    (page.step action).2 = (view.step action).2 ∧ Shows (page.step action).1 (view.step action).1 := by
  have closed := disconnect_carried shows.carries
  cases action with
  | selectLocalBackend => exact shows_publish ⟨shows.adapter,rfl,closed.moved _,shows.quiet⟩
  | selectRemoteLoopbackBackend =>
      have selected : Carries (if page.link.client.connected then page.link.disconnectSession else page.link)
          (if view.opened then view.close else view) ∧
          (if page.link.client.connected then page.link.disconnectSession else page.link).client.lastError = "" := by
        rw [shows.carries.opened]
        split
        · exact ⟨closed,shows.quiet⟩
        · exact ⟨shows.carries,shows.quiet⟩
      have adapter : page.hasAdapter = (if view.opened then view.close else view).hasAdapter := by
        split <;> exact shows.adapter
      exact shows_publish ⟨adapter,rfl,selected.1.moved _,selected.2⟩
  | connectRemoteLoopback telemetry =>
      obtain ⟨carries,quiet⟩ := connect_carried shows.carries (projectRemoteStatus telemetry)
      simp only [step,RemoteView.step]
      by_cases attached : view.hasAdapter = true
      · rw [if_neg (by rw [shows.adapter,attached]; decide),if_pos attached]
        exact shows_publish ⟨shows.adapter,rfl,carries.moved _,quiet⟩
      · rw [if_pos (by rw [shows.adapter]; simpa using attached),if_neg attached]
        exact ⟨rfl,shows⟩
  | disconnectRemoteLoopback => exact shows_publish ⟨shows.adapter,shows.mode,closed,shows.quiet⟩
  | setRemoteHeartbeatRepliesEnabled enabled =>
      obtain ⟨opened,state,heartbeatsOk,heartbeatsMissed,statusOk,lastStatus,numbered,sequenced,endpoint,points,serves⟩ := shows.carries
      refine ⟨rfl,shows.adapter,shows.mode,⟨opened,state,heartbeatsOk,heartbeatsMissed,statusOk,lastStatus,numbered,sequenced,
        {endpoint with heartbeatRepliesEnabled := enabled},?_,serves.parser,serves.session,rfl,serves.malformed⟩,shows.quiet⟩
      simp only [step,points,Option.map_some]
  | publishSnapshot telemetry nowNs => exact shows_publish (tick_shows shows telemetry nowNs)

-- Whatever is done to the page, what it publishes is what it is meant to: the bytes
-- between the client and the endpoint do not show. They are one request after the
-- other, numbered through, and under each number the frame that answers it.
theorem loopback_transparent (hasAdapter : Bool) (actions : List RemoteAction) :
    answers step {hasAdapter := hasAdapter} actions = answers RemoteView.step {hasAdapter := hasAdapter} actions ∧
      Sequenced (final RemoteView.step {hasAdapter := hasAdapter} actions).exchanges (final step {hasAdapter := hasAdapter} actions).link.traffic := by
  have refines : Refines step RemoteView.step Shows :=
    ⟨fun _ _ action shows => (step_shows shows action).1,fun _ _ action shows => (step_shows shows action).2⟩
  have start : Shows {hasAdapter := hasAdapter} {hasAdapter := hasAdapter} := ⟨rfl,rfl,⟨rfl,rfl,rfl,rfl,rfl,rfl,rfl,.nil,_,rfl,rfl,rfl,rfl,rfl⟩,rfl⟩
  exact ⟨refined_answers refines start actions,(refined_final refines start actions).carries.sequenced⟩

end RemotePage

end RobotControlRuntime
